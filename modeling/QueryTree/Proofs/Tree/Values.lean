import QueryTree.Raw

/-!
# Values in trees

The values of a tree, from left to right, and the tree with other nodes in their places. A value
stands in a node of its own, and such a node stands only where any node may. Raw text fits its
parameters if it has one more fragment than parameters, as `Raw.ofParts` demands.
-/
namespace QueryTree

/-- Whether a place takes neither a value without its node nor the node of a value alone. -/
def Shape.valueless : Shape → Bool
  | .atom a => a != .value
  | .node k => k != .value
  | .any => true
  | .optional s | .many s => s.valueless

def Part.valueless : Part → Bool
  | .slot s => s.valueless
  | .fields fs => fs.all fun f => f.shape.valueless

theorem Kind.valueless_fields {k : Kind} (h : (Part.slot (.node k)).valueless = true) :
    (Part.fields k.fields).valueless = true := by
  cases k
  case value => exact absurd h (by decide)
  all_goals decide

theorem Part.valueless_cons {f : Field} {fs : List Field}
    (h : (Part.fields (f :: fs)).valueless = true) :
    (Part.slot f.shape).valueless = true ∧ (Part.fields fs).valueless = true :=
  Bool.and_eq_true_iff.mp h

namespace Tree

variable {s : Shape}

def atomValues : (a : Atom) → a.Carrier → List Value
  | .value, v => [v]
  | .text, _ | .texts, _ | .optionalText, _ | .flag, _ | .operator, _ | .joinType, _
  | .direction, _ | .setOperator, _ | .deleteAction, _ => []

theorem atomValues_of_valueless {a : Atom} (h : (Part.slot (.atom a)).valueless = true)
    (x : a.Carrier) : atomValues a x = [] := by
  cases a
  case value => exact absurd h (by decide)
  all_goals rfl

def allValues : {p : Part} → Tree p → List Value
  | _, .atom (a := a) x => atomValues a x
  | _, .node _ fields => fields.allValues
  | _, .any t => t.allValues
  | _, .none => []
  | _, .some t => t.allValues
  | _, .nil => []
  | _, .cons t ts => t.allValues ++ ts.allValues
  | _, .done => []
  | _, .field t rest => t.allValues ++ rest.allValues

def held : Node .value → Value
  | .value v => v

def replaceNode (g : Value → AnyNode) : (k : Kind) → (old new : Node k) → AnyNode
  | .value, old, _ => g old.held
  | _, _, new => .any new

/-- The tree with another node in the place of each value. -/
def replaceValues (g : Value → AnyNode) : {p : Part} → Tree p → Tree p
  | _, .atom x => .atom x
  | _, .node k fields => .node k (fields.replaceValues g)
  | _, .any (k := k) t => replaceNode g k t (t.replaceValues g)
  | _, .none => .none
  | _, .some t => .some (t.replaceValues g)
  | _, .nil => .nil
  | _, .cons t ts => .cons (t.replaceValues g) (ts.replaceValues g)
  | _, .done => .done
  | _, .field t rest => .field (t.replaceValues g) (rest.replaceValues g)

theorem replaceValues_any (g : Value → AnyNode) {k : Kind} (h : k ≠ .value) (t : Node k) :
    (Tree.any t).replaceValues g = .any (t.replaceValues g) := by
  cases k
  case value => exact absurd rfl h
  all_goals rfl

theorem replaceValues_eq_self (g : Value → AnyNode) {p : Part} (hp : p.valueless = true)
    (t : Tree p) (hg : ∀ v ∈ t.allValues, g v = .any (.value v)) : t.replaceValues g = t := by
  induction t with
  | atom x => rfl
  | node k fields ih => exact congrArg (Tree.node k) (ih (Kind.valueless_fields hp) hg)
  | @any k t ih =>
    by_cases hk : k = .value
    · subst hk
      match t with
      | .value v => exact hg v (List.mem_singleton.mpr rfl)
    · rw [replaceValues_any g hk]
      exact congrArg Tree.any (ih (bne_iff_ne.mpr hk) hg)
  | none => rfl
  | some t ih => exact congrArg Tree.some (ih hp hg)
  | nil => rfl
  | cons t ts iht ihts =>
    rw [replaceValues, iht hp fun v hv => hg v (List.mem_append_left _ hv),
      ihts hp fun v hv => hg v (List.mem_append_right _ hv)]
  | done => rfl
  | field t rest iht ihrest =>
    obtain ⟨ht, hrest⟩ := Part.valueless_cons hp
    rw [replaceValues, iht ht fun v hv => hg v (List.mem_append_left _ hv),
      ihrest hrest fun v hv => hg v (List.mem_append_right _ hv)]

def blank (t : AnyNode) : AnyNode := t.replaceValues fun _ => .any (.value .null)

def SurroundsParameters : Tree (.fields Kind.raw.fields) → Prop
  | .field (.atom fragments) (.field parameters .done) =>
    fragments.length = parameters.toList.length + 1

/-- If a node is raw text, its fragments surround its parameters. -/
def NodeFits : (k : Kind) → Tree (.fields k.fields) → Prop
  | .raw, fields => SurroundsParameters fields
  | _, _ => True

/-- All raw text in a tree surrounds its parameters. -/
def RawFits : {p : Part} → Tree p → Prop
  | _, .atom _ => True
  | _, .node k fields => NodeFits k fields ∧ fields.RawFits
  | _, .any t => t.RawFits
  | _, .none => True
  | _, .some t => t.RawFits
  | _, .nil => True
  | _, .cons t ts => t.RawFits ∧ ts.RawFits
  | _, .done => True
  | _, .field t rest => t.RawFits ∧ rest.RawFits

instance : (fields : Tree (.fields Kind.raw.fields)) → Decidable (SurroundsParameters fields)
  | .field (.atom fragments) (.field parameters .done) =>
    inferInstanceAs (Decidable (fragments.length = parameters.toList.length + 1))

instance : (k : Kind) → (fields : Tree (.fields k.fields)) → Decidable (NodeFits k fields) := by
  intro k fields
  cases k
  case raw => exact inferInstanceAs (Decidable (SurroundsParameters fields))
  all_goals exact isTrue trivial

def decidableRawFits : {p : Part} → (t : Tree p) → Decidable t.RawFits
  | _, .atom _ => isTrue trivial
  | _, .node k fields =>
    have := fields.decidableRawFits
    inferInstanceAs (Decidable (NodeFits k fields ∧ fields.RawFits))
  | _, .any t => t.decidableRawFits
  | _, .none => isTrue trivial
  | _, .some t => t.decidableRawFits
  | _, .nil => isTrue trivial
  | _, .cons t ts =>
    have := t.decidableRawFits
    have := ts.decidableRawFits
    inferInstanceAs (Decidable (t.RawFits ∧ ts.RawFits))
  | _, .done => isTrue trivial
  | _, .field t rest =>
    have := t.decidableRawFits
    have := rest.decidableRawFits
    inferInstanceAs (Decidable (t.RawFits ∧ rest.RawFits))

instance {p : Part} (t : Tree p) : Decidable t.RawFits := t.decidableRawFits

end Tree

end QueryTree
