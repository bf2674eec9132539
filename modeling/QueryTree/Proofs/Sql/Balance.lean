import QueryTree.Proofs.Sql.Composition

/-!
# Balanced SQL

Names and values cannot break the structure of SQL, whatever characters they hold: compiled SQL is
balanced if the texts that the tree supplies as they are, each by itself, are. Every rule for laying
out a node keeps this, since it opens and closes a parenthesis only as a pair.
-/
namespace QueryTree

/-- What a row of pieces adds to any output is balanced. -/
def AddsBalanced (ps : List Piece) : Prop :=
  ∀ d m (o : Output), ∃ s, (o.addAll d m ps).sql = o.sql ++ s ∧ Balanced s

namespace AddsBalanced

variable {ps qs : List Piece}

theorem nil : AddsBalanced [] := fun _ _ o => ⟨"", String.append_empty.symm, by decide⟩

theorem append (hps : AddsBalanced ps) (hqs : AddsBalanced qs) : AddsBalanced (ps ++ qs) := by
  intro d m o
  obtain ⟨s, hs, hbs⟩ := hps d m o
  obtain ⟨t, ht, hbt⟩ := hqs d m (o.addAll d m ps)
  refine ⟨s ++ t, ?_, hbs.append hbt⟩
  rw [Output.addAll, List.foldl_append]
  exact ht.trans (by rw [hs, String.append_assoc])

theorem word {s : String} (h : Balanced s) : AddsBalanced [.word s] := fun _ _ _ => ⟨s, rfl, h⟩

theorem verbatim {s : String} (h : Balanced s) : AddsBalanced [.verbatim s] :=
  fun _ _ _ => ⟨s, rfl, h⟩

theorem name (s : String) : AddsBalanced [.name s] :=
  fun d _ _ => ⟨d.identifier s, rfl, d.balanced_identifier s⟩

theorem value (v : Value) : AddsBalanced [.value v]
  | d, .bind, o => ⟨d.placeholder (o.parameters.size + 1), rfl, d.balanced_placeholder _⟩
  | d, .inline, _ => ⟨Output.literal d v, rfl, Output.balanced_literal d v⟩

theorem parens (h : AddsBalanced ps) : AddsBalanced (.word "(" :: (ps ++ [.word ")"])) := by
  intro d m o
  obtain ⟨s, hs, hbs⟩ := h d m (o.write "(")
  refine ⟨"(" ++ s ++ ")", ?_, hbs.parens⟩
  calc (o.addAll d m (.word "(" :: (ps ++ [.word ")"]))).sql
    _ = ((o.write "(").addAll d m ps).sql ++ ")" := by
      rw [Output.addAll, List.foldl_cons, List.foldl_append]
      rfl
    _ = o.sql ++ ("(" ++ s ++ ")") := by
      rw [hs]
      simp [Output.write, String.append_assoc]

end AddsBalanced

/-- SQL whose pieces add balanced text in any place. -/
def Sealed (a : Sql) : Prop := ∀ p, AddsBalanced (a.pieces p)

namespace Sealed

variable {a b : Sql} {s : String}

theorem empty : Sealed .empty := fun _ => .nil

theorem word (h : Balanced s) : Sealed (.word s) := fun _ => .word h

theorem verbatim (h : Balanced s) : Sealed (.verbatim s) := fun _ => .verbatim h

theorem name (s : String) : Sealed (.name s) := fun _ => .name s

theorem value (v : Value) : Sealed (.piece (.value v)) := fun _ => .value v

theorem append (ha : Sealed a) (hb : Sealed b) : Sealed (a ++ b) := fun p => by
  rw [Sql.pieces_append]
  exact (ha p).append (hb p)

theorem placed (q : Place) (ha : Sealed a) : Sealed (.placed q a) := fun _ => ha q

theorem parens (ha : Sealed a) : Sealed (.parens a) := fun p => by
  rw [Sql.pieces_parens]
  exact (ha p).parens

theorem statement (ha : Sealed a) : Sealed (.statement a)
  | .bare => ha .nested
  | .nested => by
    rw [Sql.pieces_statement_nested]
    exact (ha .nested).parens

theorem when {flag : Bool} (h : Balanced s) : Sealed (.when flag s) := by
  cases flag
  · exact empty
  · exact word h

end Sealed

theorem Operator.balanced_symbol (o : Operator) : Balanced o.symbol := by
  cases o <;> decide

/-- Parentheses are kept in pairs by every way in which the rules put SQL together. -/
theorem Composed.sealed {J : Operator → Sql → Prop} {l r : Bool} {a : Sql}
    (h : Composed Balanced J l r a) : Sealed a := by
  induction h with
  | empty => exact .empty
  | word h => exact .word h.1
  | symbol o => exact .word o.balanced_symbol
  | name s => exact .name s
  | verbatim h => exact .verbatim h
  | value v => exact .value v
  | append _ _ _ iha ihb => exact iha.append ihb
  | before _ _ ihx iha => exact ihx.append iha
  | behind _ _ iha ihx => exact iha.append ihx
  | parens _ ih => exact ih.parens
  | placed q _ ih => exact ih.placed q
  | statement _ ih => exact ih.statement
  | @unary o a _ _ ih => exact (Sealed.word o.balanced_symbol).append (.when (by decide)) |>.append ih
  | left _ ih => exact ih
  | right _ ih => exact ih

theorem Tree.view_sealed (t : AnyNode) (h : ∀ s ∈ t.verbatims, Balanced s) : Sealed t.view :=
  have hview : Composed.Any Balanced (fun _ _ => True) t.view := t.composed h fun _ _ => trivial
  hview.sealed

/-- Whatever a tree has for names and values, compiled SQL is balanced if each text that is written
of the tree as it is, is balanced: no name and no value ends the quotes in which it is written, and
the parentheses match. -/
theorem Statement.balanced_compile (s : Statement) (d : Dialect)
    (h : ∀ x ∈ s.node.verbatims, Balanced x) : Balanced (s.compile d).sql := by
  obtain ⟨text, htext, hbalanced⟩ := s.toNode.view_sealed h .bare d s.valueMode .empty
  have hsql : (s.compile d).sql = text := htext.trans String.empty_append
  rwa [hsql]

/-- A new column with names and a default that try to leave their quotes. -/
def hostileColumn : Statement where
  kind := .alterTable
  node := .alterTable
    (.table (.schemableIdentifier (.some (.identifier "s\"(")) (.identifier ")'t\"\""))) .none .none
    (.cons (.any (.addColumn (.columnDefinition (.column (.identifier "\"); --"))
      (.dataType "varchar(9)") .none false false false (.some (.any (.function "lower"
        (.cons (.any (.value (.string "'));\"("))) .nil) false)))))) .nil)
  isRoot := rfl

theorem Statement.balanced_compile_hostileColumn :
    hostileColumn.node.verbatims = ["varchar(9)", "lower"] ∧
      (∀ x ∈ hostileColumn.node.verbatims, Balanced x) ∧
      ∀ d, Balanced (hostileColumn.compile d).sql :=
  have h : ∀ x ∈ hostileColumn.node.verbatims, Balanced x := by decide
  ⟨rfl, h, fun d => Statement.balanced_compile hostileColumn d h⟩

/-- A parenthesis in a text that is written as it is stays open. -/
example : ¬Balanced ((Statement.ofRaw (.raw ["f("] .nil)).compile .sqlite).sql := by decide

end QueryTree
