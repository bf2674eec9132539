import QueryTree.Proofs.Sql.CommentMarks

/-!
# How nodes begin

Most nodes begin with a word or a name. The others are written from their first field on, so that
they begin as that does: a value, an operator, and what is put together of operands of which the
first comes first. This decides whether the text of a node begins with a minus sign.
-/
namespace QueryTree

def Kind.beginsWithField : Kind → Bool
  | .reference | .aliased | .value | .operator | .binaryOperation | .unaryOperation | .and | .or
  | .selection | .orderByItem => true
  | _ => false

namespace Tree

/-- Whether a node of raw text is nowhere in a tree. -/
def rawFree : {p : Part} → Tree p → Bool
  | _, .atom _ => true
  | _, .node k fields => k != .raw && fields.rawFree
  | _, .any t => t.rawFree
  | _, .none => true
  | _, .some t => t.rawFree
  | _, .nil => true
  | _, .cons t ts => t.rawFree && ts.rawFree
  | _, .done => true
  | _, .field t rest => t.rawFree && rest.rawFree

def atomLeadsMinus (m : ValueMode) : (a : Atom) → a.Carrier → Bool
  | .operator, o => o.symbol == "-"
  | .value, v => m == .inline && v.isNegative
  | _, _ => false

def isNone : {p : Part} → Tree p → Bool
  | _, .none => true
  | _, _ => false

/-- Whether what is written for a part of a tree begins with a minus sign: an operator does if it is
one, a value if it is a negative number and written in place, and a node that is written from its
first field on if what is first in it does. -/
def leadsMinus (m : ValueMode) : {p : Part} → Tree p → Bool
  | _, .atom (a := a) x => atomLeadsMinus m a x
  | _, .node k fields => k.beginsWithField && fields.leadsMinus m
  | _, .any t => t.leadsMinus m
  | _, .none => false
  | _, .some t => t.leadsMinus m
  | _, .nil => false
  | _, .cons t _ => t.leadsMinus m
  | _, .done => false
  | _, .field t rest => if t.isNone then rest.leadsMinus m else t.leadsMinus m

end Tree

/-- SQL that begins, in any place, with a piece that has a minus sign in front or has none. -/
def Begins (m : ValueMode) (b : Bool) (a : Sql) : Prop :=
  ∀ p, ∃ x rest, a.pieces p = x :: rest ∧ x.leadsMinus m = b

namespace Begins

variable {m : ValueMode} {b : Bool} {a c : Sql}

theorem piece {x : Piece} (h : x.leadsMinus m = b) : Begins m b (.piece x) := fun _ =>
  ⟨x, [], rfl, h⟩

theorem word {s : String} (h : (s == "-") = b := by decide) : Begins m b (.word s) := piece h

theorem wordIte {flag : Bool} {s t : String} (hs : (s == "-") = b := by decide)
    (ht : (t == "-") = b := by decide) : Begins m b (.word (if flag then s else t)) := by
  cases flag
  · exact word ht
  · exact word hs

theorem append (h : Begins m b a) : Begins m b (a ++ c) := fun p =>
  let ⟨x, rest, hpieces, hx⟩ := h p
  ⟨x, rest ++ c.pieces p, by rw [Sql.pieces_append, hpieces]; rfl, hx⟩

theorem empty_append (h : Begins m b a) : Begins m b (.empty ++ a) := h

theorem statement (h : Begins m false a) : Begins m false (.statement a)
  | .bare => h .nested
  | .nested => ⟨.word "(", _, Sql.pieces_statement_nested a, rfl⟩

theorem object (n : ObjectName) : Begins m false (.object n) := by
  obtain ⟨_ | s, n⟩ := n
  · exact empty_append (piece rfl)
  · exact append (append (piece rfl))

/-- A query begins with its common tables or, if it has none, with a word. -/
theorem ctesBefore {ctes : Option Sql} (h : ∀ c ∈ ctes, Begins m false c) (ha : Begins m false a) :
    Begins m false (QueryTree.ctesBefore ctes ++ a) := by
  cases ctes with
  | none => exact empty_append ha
  | some c => exact append (append (h c rfl))

end Begins

namespace Tree

variable {m : ValueMode}

open Begins

theorem begins_ctes (ctes : Optional .withClause) :
    ∀ c : Sql, c ∈ (ctes.view : Option Sql) → Begins m false c := by
  match ctes with
  | .none => nofun
  | .some (.node _ (.field (.atom recursive) (.field tables .done))) =>
    intro c hc
    obtain rfl := Option.some.inj hc
    exact append wordIte

/-- A node that is not written from its first field on begins with a word or a name. -/
private theorem begins_word {k : Kind} (hk : k.beginsWithField = false) (hraw : k ≠ .raw)
    (fields : Tree (.fields k.fields)) :
    Begins m false (Layout.sql k (Tree.node k fields).view) := by
  cases k
  case raw => exact absurd rfl hraw
  case reference | aliased | value | operator | binaryOperation | unaryOperation | and | or
    | selection | orderByItem => exact Bool.noConfusion hk
  case schemableIdentifier | table => exact object _
  case commonTableName => exact append (object _)
  case commonTable =>
    match fields with
    | .field (.node _ (.field name _)) _ => exact append (append (append (object name.view)))
  case selectQuery =>
    match fields with
    | .field ctes _ =>
      refine statement ?_
      iterate 11 refine append ?_
      exact Begins.ctesBefore (begins_ctes ctes) word
  case insertQuery =>
    match fields with
    | .field ctes _ =>
      refine statement ?_
      iterate 4 refine append ?_
      exact Begins.ctesBefore (begins_ctes ctes) word
  case updateQuery =>
    match fields with
    | .field ctes _ =>
      refine statement ?_
      iterate 6 refine append ?_
      exact Begins.ctesBefore (begins_ctes ctes) word
  case deleteQuery =>
    match fields with
    | .field ctes _ =>
      refine statement ?_
      iterate 5 refine append ?_
      exact Begins.ctesBefore (begins_ctes ctes) word
  case join =>
    match fields with
    | .field (.atom type) _ => exact append (append (append (word (by cases type <;> decide))))
  case setOperation =>
    match fields with
    | .field (.atom set) _ =>
      exact append (append (append (word (by cases set <;> decide))))
  -- What is left begins with a name, or with words that at most a flag decides on.
  all_goals repeat refine append ?_
  all_goals first | exact word | exact piece rfl | exact wordIte

theorem rawFree_node {k : Kind} {fields : Tree (.fields k.fields)}
    (h : (Tree.node k fields).rawFree = true) : k ≠ .raw ∧ fields.rawFree = true :=
  (Bool.and_eq_true_iff.mp h).imp_left bne_iff_ne.mp

theorem rawFree_field {f : Field} {fs : List Field} {t : Slot f.shape} {rest : Tree (.fields fs)}
    (h : (Tree.field t rest).rawFree = true) : t.rawFree = true ∧ rest.rawFree = true :=
  Bool.and_eq_true_iff.mp h

/-- The first of some fields that is not left out is SQL that begins so, if it is a node of any
kind. -/
def FieldsBegin (m : ValueMode) (b : Bool) : (fs : List Field) → FieldLayouts fs → Prop
  | ⟨_, .any, _⟩ :: _, l => Begins m b l.1
  | ⟨_, .optional _, _⟩ :: fs, l => l.1 = Option.none → FieldsBegin m b fs l.2
  | _, _ => True

@[reducible] def PartBegins (m : ValueMode) (b : Bool) : (p : Part) → PartLayout p → Prop
  | .slot (.node k), l => Begins m b (Layout.sql k l)
  | .slot .any, a => Begins m b a
  | .slot _, _ => True
  | .fields fs, l => FieldsBegin m b fs l

/-- A node that is written from its first field on begins as that does. -/
theorem begins_field {k : Kind} (hk : k.beginsWithField = true) (fields : Tree (.fields k.fields))
    (h : FieldsBegin m (fields.leadsMinus m) k.fields fields.view) :
    Begins m (fields.leadsMinus m) (Layout.sql k (Tree.node k fields).view) := by
  cases k
  case reference =>
    match fields with
    | .field .none (.field _ .done) => exact empty_append (h rfl)
    | .field (.some (.node _ _)) _ => exact append (append (object _))
  case aliased | and | or =>
    match fields with
    | .field (.any _) _ => exact append (append h)
  case value | operator =>
    match fields with
    | .field (.atom _) _ => exact piece rfl
  case binaryOperation =>
    match fields with
    | .field (.any _) _ => exact append (append (append (append h)))
  case unaryOperation =>
    match fields with
    | .field (.node _ (.field (.atom _) .done)) _ => exact append (append (piece rfl))
  case selection =>
    match fields with
    | .field (.any _) .done => exact h
  case orderByItem =>
    match fields with
    | .field (.any _) _ => exact append h
  all_goals exact Bool.noConfusion hk

/-- What is written for a part of a tree begins with a minus sign if and only if the part does. -/
theorem begins {p : Part} (t : Tree p) (h : t.rawFree = true) :
    PartBegins m (t.leadsMinus m) p t.view := by
  induction t with
  | node k fields ih =>
    obtain ⟨hraw, h⟩ := rawFree_node h
    show Begins m (k.beginsWithField && fields.leadsMinus m) _
    cases hk : k.beginsWithField with
    | false => exact begins_word hk hraw fields
    | true => exact begins_field hk fields (ih h)
  | any t ih => exact ih h
  | @field f fs t rest iht ihrest =>
    obtain ⟨ht, hrest⟩ := rawFree_field h
    obtain ⟨_, shape, _⟩ := f
    cases shape with
    | any =>
      match t with
      | .any t => exact iht ht
    | optional s =>
      match t with
      | .none => exact fun _ => ihrest hrest
      | .some _ => exact nofun
    | atom a | node k | many s => trivial
  | atom x | none | some t | nil | cons t ts | done => trivial

end Tree

end QueryTree
