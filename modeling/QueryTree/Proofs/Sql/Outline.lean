import QueryTree.Proofs.Sql.Drafts
import QueryTree.Proofs.Sql.Template

/-!
# Outlines

An outline is the text of a draft with the places where the names of schemas may be written, each of
which stands right before the name of an object.
-/
namespace QueryTree

/-- The name of an object that has no schema of its own, with the mark of its place and the text that
follows it. -/
structure OpenName where
  name : String
  mark : Bool
  after : String

/-- Text with open names in it: the text before the first of them, and each with the text after it. -/
structure Outline where
  first : String
  rest : List OpenName

namespace Outline

def schemaText (d : Dialect) : Option String → String
  | none => ""
  | some s => d.identifier s ++ "."

def text (d : Dialect) (c : SchemaChoice) (o : Outline) : String :=
  o.first ++ String.join (o.rest.map fun x =>
    schemaText d (c x.name x.mark) ++ d.identifier x.name ++ x.after)

variable (d : Dialect) (c : SchemaChoice) (o : Outline)

def prepend (s : String) : Outline := ⟨s ++ o.first, o.rest⟩

def openBefore (n : String) (mark : Bool) : Outline := ⟨"", ⟨n, mark, o.first⟩ :: o.rest⟩

theorem text_prepend (s : String) : (o.prepend s).text d c = s ++ o.text d c := String.append_assoc

theorem text_openBefore (n : String) (mark : Bool) :
    (o.openBefore n mark).text d c =
      schemaText d (c n mark) ++ (d.identifier n ++ o.text d c) := by
  simp [text, openBefore, String.append_assoc]

end Outline

/-- Names hold no values, so the values do not depend on the schemas that are chosen. -/
theorem Draft.values (draft : List Draft) :
    ∃ values, ∀ c, (draft.flatMap (Draft.pieces c)).filterMap Piece.value? = values := by
  induction draft with
  | nil => exact ⟨[], fun _ => rfl⟩
  | cons x draft ih =>
    obtain ⟨values, ih⟩ := ih
    cases x with
    | piece x =>
      refine ⟨x.value?.toList ++ values, fun c => ?_⟩
      rw [List.flatMap_cons, List.filterMap_append, ih c]
      cases x <;> rfl
    | object n mark =>
      refine ⟨values, fun c => ?_⟩
      rw [List.flatMap_cons, List.filterMap_append, ih c, Draft.pieces]
      cases c n mark <;> rfl

/-- Whatever schemas are chosen, the template of a draft is filled to one outline. -/
theorem Template.fill_draft (d : Dialect) (draft : List Draft) (texts : List String) :
    ∃ o : Outline, ∀ c, (ofPieces d (draft.flatMap (Draft.pieces c))).fill texts = o.text d c := by
  induction draft generalizing texts with
  | nil => exact ⟨⟨"", []⟩, fun _ => by simp [ofPieces, fill, Outline.text]⟩
  | cons x draft ih =>
    obtain ⟨o, ho⟩ := ih texts
    cases x with
    | piece x =>
      cases x with
      | word s | verbatim s =>
        refine ⟨o.prepend s, fun c => ?_⟩
        rw [Outline.text_prepend, ← ho]
        exact fill_after ..
      | name s =>
        refine ⟨o.prepend (d.identifier s), fun c => ?_⟩
        rw [Outline.text_prepend, ← ho]
        exact fill_after ..
      | value v =>
        cases texts with
        | nil =>
          refine ⟨⟨"", []⟩, fun c => ?_⟩
          simp [ofPieces, fill, Outline.text, Draft.pieces, slotBefore]
        | cons s texts =>
          obtain ⟨o, ho⟩ := ih texts
          refine ⟨o.prepend s, fun c => ?_⟩
          rw [Outline.text_prepend, ← ho]
          exact fill_slotBefore ..
    | object n mark =>
      refine ⟨o.openBefore n mark, fun c => ?_⟩
      rw [Outline.text_openBefore, ← ho, List.flatMap_cons, Draft.pieces]
      cases c n mark with
      | none =>
        show (Template.after _ _).fill texts = _
        simp [Outline.schemaText]
      | some s =>
        show (Template.after _ (Template.after _ (Template.after _ _))).fill texts = _
        simp [Outline.schemaText, String.append_assoc]

/-- Whatever schemas are chosen, what is written is one outline with the same parameters. -/
theorem Output.addAll_draft (d : Dialect) (m : ValueMode) (draft : List Draft) :
    ∃ (o : Outline) (parameters : Array Value), ∀ c,
      empty.addAll d m (draft.flatMap (Draft.pieces c)) = ⟨o.text d c, parameters⟩ := by
  obtain ⟨values, hvalues⟩ := Draft.values draft
  cases m with
  | bind =>
    obtain ⟨o, ho⟩ := Template.fill_draft d draft (d.placeholders 0 values.length)
    refine ⟨o, values.toArray, fun c => ?_⟩
    rw [addAll_bind, hvalues, ← ho]
    simp [empty]
  | inline =>
    obtain ⟨o, ho⟩ := Template.fill_draft d draft (values.map (literal d))
    refine ⟨o, #[], fun c => ?_⟩
    rw [addAll_inline, hvalues, ← ho]
    simp [empty]

end QueryTree
