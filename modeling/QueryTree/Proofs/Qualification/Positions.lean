import QueryTree.Proofs.Qualification.Lexical
import QueryTree.Proofs.Tree.Opening

/-!
# Qualification at an open place

What becomes of the node in an open place depends on the node itself and on the statements around
the place only: the open place of the qualified tree holds what the lexical rule makes of the node
there.
-/
namespace QueryTree

namespace Opening

/-- What stands in the open place in another tree, if the way to the place leads through it. -/
def read : {p : Part} → Opening p → Tree p → Option AnyNode
  | _, .here, t => some t
  | _, .node _ C, .node _ fields => C.read fields
  | _, .any (k := k) C, .any (k := j) t => if h : j = k then C.read (h ▸ t) else none
  | _, .present C, .some t => C.read t
  | _, .head C _, .cons t _ => C.read t
  | _, .tail _ C, .cons _ ts => C.read ts
  | _, .field C _, .field t _ => C.read t
  | _, .later _ C, .field _ rest => C.read rest
  | _, _, _ => none

/-- The roots around the open place when a node fills it, innermost first. -/
def roots : {p : Part} → Opening p → AnyNode → List AnyNode
  | _, .here, _ => []
  | _, .node _ C, u => C.roots u
  | _, .any (k := k) C, u => C.roots u ++ if k.isRoot then [.any (C.fill u)] else []
  | _, .present C, u => C.roots u
  | _, .head C _, u => C.roots u
  | _, .tail _ C, u => C.roots u
  | _, .field C _, u => C.roots u
  | _, .later _ C, u => C.roots u

/-- The statements around the open place, innermost first. Raw text is none of them: what stands in
it belongs to the statement that the text is a part of. -/
def statements {p : Part} (C : Opening p) (u : AnyNode) : List AnyNode :=
  (C.roots u).filter fun t => t.kind != .raw

@[simp] theorem read_any {k : Kind} (C : Opening (.slot (.node k))) (t : Node k) :
    (Opening.any C).read (.any t) = C.read t := by
  rw [read, dif_pos rfl]

end Opening

/-- No place in the part takes a node of any kind. -/
abbrev Closed (p : Part) : Prop := Opening p → False

namespace Closed

variable {s : Shape} {k : Kind} {f : Field} {fs : List Field}

theorem atom {a : Atom} : Closed (.slot (.atom a)) := nofun

theorem done : Closed (.fields []) := nofun

theorem node (h : Closed (.fields k.fields)) : Closed (.slot (.node k))
  | .node _ C => h C

theorem optional (h : Closed (.slot s)) : Closed (.slot (.optional s))
  | .present C => h C

theorem many (h : Closed (.slot s)) : Closed (.slot (.many s))
  | .head C _ => h C
  | .tail _ C => many h C

theorem field (hf : Closed (.slot f.shape)) (hfs : Closed (.fields fs)) : Closed (.fields (f :: fs))
  | .field C _ => hf C
  | .later _ C => hfs C

theorem identifier : Closed (.slot (.node .identifier)) := node (field atom done)

theorem schemableIdentifier : Closed (.slot (.node .schemableIdentifier)) :=
  node (field (optional identifier) (field identifier done))

theorem table : Closed (.slot (.node .table)) := node (field schemableIdentifier done)

theorem column : Closed (.slot (.node .column)) := node (field identifier done)

end Closed

namespace Qualification

open QueryTree.Tree (tableNamed)

variable {schema : String} {e : List AnyNode} {u : AnyNode}

/-- The nodes that the lexical rule changes by themselves hold names only. So where a place is open
in a node, its fields are all that changes. -/
theorem rewriteNode_fill {k : Kind} (C : Opening (.fields k.fields)) (old new : Node k) :
    rewriteNode schema e k old new = new := by
  cases k
  case schemableIdentifier => exact (Closed.schemableIdentifier (.node _ C)).elim
  case references =>
    have hclosed : Closed (.fields (Kind.fields .references)) :=
      .field .table (.field (.many .column) (.field .atom .done))
    exact (hclosed C).elim
  case commonTableName =>
    have hclosed : Closed (.fields (Kind.fields .commonTableName)) :=
      .field .table (.field (.many .column) .done)
    exact (hclosed C).elim
  all_goals rfl

theorem read_lexical {p : Part} (C : Opening p) (e : List AnyNode) (u : AnyNode) :
    C.read (lexical schema e (C.fill u)) = some (lexical schema (C.roots u ++ e) u) := by
  induction C generalizing e with
  | here => rfl
  | node k C ih =>
    rw [Opening.fill, lexical, rewriteNode_fill C]
    exact ih e
  | @any k C ih =>
    rw [Opening.fill, lexical, Opening.read_any, ih, Opening.roots]
    cases k.isRoot <;> simp
  | present C ih => exact ih e
  | head C ts ih => exact ih e
  | tail t C ih => exact ih e
  | field C rest ih => exact ih e
  | later t C ih => exact ih e

/-- A node of a qualified tree is what the lexical rule makes of it in the roots around it. -/
theorem read_qualify (schema : String) (C : Opening (.slot .any)) (u : AnyNode) :
    C.read ((qualify schema (C.fill u)).apply (C.fill u)) =
      some (lexical schema (C.roots u) u) := by
  rw [apply_qualify, read_lexical, List.append_nil]

private theorem kind_ne_raw_of_target {n : String} {t : AnyNode} (h : Target n t) :
    t.kind ≠ .raw := by
  cases h <;> exact nofun

private theorem kind_ne_raw_of_declares {n : String} {t : AnyNode} (h : Declares n t) :
    t.kind ≠ .raw := by
  cases h <;> exact nofun

/-- Raw text has no part in what a name stands for. -/
private theorem standsForTable_filter (enclosing : List AnyNode) (n : String) :
    StandsForTable (enclosing.filter fun t => t.kind != .raw) n ↔ StandsForTable enclosing n := by
  simp only [StandsForTable, List.mem_filter, bne_iff_ne]
  constructor
  · rintro ⟨⟨t, ht, htarget⟩, hdeclares⟩
    exact ⟨⟨t, ht.1, htarget⟩, fun t ht hn => hdeclares t ⟨ht, kind_ne_raw_of_declares hn⟩ hn⟩
  · rintro ⟨⟨t, ht, htarget⟩, hdeclares⟩
    exact ⟨⟨t, ⟨ht, kind_ne_raw_of_target htarget⟩, htarget⟩, fun t ht => hdeclares t ht.1⟩

/-- A reference to a column of a table, or whatever else bears a bare name. -/
def referenceTo (n : String) (column : AnyNode) : AnyNode :=
  .any (.reference (.some (tableNamed n)) column)

/-- A reference to a column of a table in a schema. -/
def referenceIn (schema n : String) (column : AnyNode) : AnyNode :=
  .any (.reference (.some (.table (Tree.qualified schema n))) column)

private theorem lexical_referenceTo (e : List AnyNode) (n : String) (column : AnyNode) :
    lexical schema e (referenceTo n column) =
      if StandsForTable e n then referenceIn schema n (lexical schema e column)
      else referenceTo n (lexical schema e column) := by
  show Tree.any (.reference (.some (.table (if StandsForTable e n then Tree.qualified schema n
    else Tree.bare n))) (lexical schema e column)) = _
  split <;> rfl

/-- A bare reference anywhere in a tree is qualified if its name stands for a table among the
statements around it, and otherwise stays bare. -/
theorem read_qualify_referenceTo (schema : String) (P : Opening (.slot .any)) (n : String)
    (column : AnyNode) :
    ∃ column', P.read ((qualify schema (P.fill (referenceTo n column))).apply
        (P.fill (referenceTo n column))) =
      some (if StandsForTable (P.statements (referenceTo n column)) n then
        referenceIn schema n column' else referenceTo n column') := by
  refine ⟨lexical schema (P.roots (referenceTo n column)) column, ?_⟩
  simp only [read_qualify, lexical_referenceTo, Opening.statements, standsForTable_filter]

end Qualification

end QueryTree
