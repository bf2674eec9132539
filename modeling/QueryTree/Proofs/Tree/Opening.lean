import QueryTree.Proofs.Tree.Values

/-!
# Openings

An opening is a tree in which one place that takes any node is left open. Every occurrence of a
node in a tree is an opening of the tree, filled with that node. The path of an opening leads from
the root to the open place by the kinds of the nodes around it and the fields in which it stands.
-/
namespace QueryTree

/-- A tree with an open place. -/
inductive Opening : Part → Type
  | here : Opening (.slot .any)
  | node (k : Kind) (C : Opening (.fields k.fields)) : Opening (.slot (.node k))
  | any {k : Kind} (C : Opening (.slot (.node k))) : Opening (.slot .any)
  | present {s : Shape} (C : Opening (.slot s)) : Opening (.slot (.optional s))
  | head {s : Shape} (C : Opening (.slot s)) (ts : Slot (.many s)) : Opening (.slot (.many s))
  | tail {s : Shape} (t : Slot s) (C : Opening (.slot (.many s))) : Opening (.slot (.many s))
  | field {f : Field} {fs : List Field} (C : Opening (.slot f.shape)) (rest : Tree (.fields fs)) :
      Opening (.fields (f :: fs))
  | later {f : Field} {fs : List Field} (t : Slot f.shape) (C : Opening (.fields fs)) :
      Opening (.fields (f :: fs))

namespace Opening

def fill : {p : Part} → Opening p → AnyNode → Tree p
  | _, .here, u => u
  | _, .node k C, u => .node k (C.fill u)
  | _, .any C, u => .any (C.fill u)
  | _, .present C, u => .some (C.fill u)
  | _, .head C ts, u => .cons (C.fill u) ts
  | _, .tail t C, u => .cons t (C.fill u)
  | _, .field C rest, u => .field (C.fill u) rest
  | _, .later t C, u => .field t (C.fill u)

/-- The name of the field that the open place is in. -/
def label : {fs : List Field} → Opening (.fields fs) → String
  | _, .field (f := f) _ _ => f.name
  | _, .later _ C => C.label

/-- The kinds of the nodes around the open place, from the root, with the fields that lead on. -/
def path : {p : Part} → Opening p → List (Kind × String)
  | _, .here => []
  | _, .node k C => (k, C.label) :: C.path
  | _, .any C => C.path
  | _, .present C => C.path
  | _, .head C _ => C.path
  | _, .tail _ C => C.path
  | _, .field C _ => C.path
  | _, .later _ C => C.path

def outerValues : {p : Part} → Opening p → List Value
  | _, .here => []
  | _, .node _ C => C.outerValues
  | _, .any C => C.outerValues
  | _, .present C => C.outerValues
  | _, .head C ts => C.outerValues ++ ts.allValues
  | _, .tail t C => t.allValues ++ C.outerValues
  | _, .field C rest => C.outerValues ++ rest.allValues
  | _, .later t C => t.allValues ++ C.outerValues

/-- No place is open in the node of a value. -/
theorem kind_ne_value : {k : Kind} → Opening (.slot (.node k)) → k ≠ .value
  | _, .node _ C => fun h => by
    subst h
    match C with
    | .field C _ => nomatch C
    | .later _ C => nomatch C

/-- Filling an opening is replacing a value that stands in the open place and nowhere else. -/
theorem replaceValues_fill (g : Value → AnyNode) (v : Value) {p : Part} (hp : p.valueless = true)
    (C : Opening p) (hg : ∀ w ∈ C.outerValues, g w = .any (.value w)) :
    (C.fill (.any (.value v))).replaceValues g = C.fill (g v) := by
  induction C with
  | here => rfl
  | node k C ih => exact congrArg _ (ih (Kind.valueless_fields hp) hg)
  | any C ih =>
    rw [fill, Tree.replaceValues_any g C.kind_ne_value]
    exact congrArg _ (ih (bne_iff_ne.mpr C.kind_ne_value) hg)
  | present C ih => exact congrArg _ (ih hp hg)
  | head C ts ih =>
    have houter : ∀ w ∈ ts.allValues, g w = .any (.value w) :=
      fun w hw => hg w (List.mem_append_right _ hw)
    rw [fill, Tree.replaceValues, ih hp fun w hw => hg w (List.mem_append_left _ hw),
      ts.replaceValues_eq_self g hp houter, fill]
  | @tail s t C ih =>
    have ht : (Part.slot s).valueless = true := hp
    have houter : ∀ w ∈ t.allValues, g w = .any (.value w) :=
      fun w hw => hg w (List.mem_append_left _ hw)
    rw [fill, Tree.replaceValues, ih hp fun w hw => hg w (List.mem_append_right _ hw),
      t.replaceValues_eq_self g ht houter, fill]
  | field C rest ih =>
    obtain ⟨hC, hrest⟩ := Part.valueless_cons hp
    have houter : ∀ w ∈ rest.allValues, g w = .any (.value w) :=
      fun w hw => hg w (List.mem_append_right _ hw)
    rw [fill, Tree.replaceValues, ih hC fun w hw => hg w (List.mem_append_left _ hw),
      rest.replaceValues_eq_self g hrest houter, fill]
  | later t C ih =>
    obtain ⟨ht, hC⟩ := Part.valueless_cons hp
    have houter : ∀ w ∈ t.allValues, g w = .any (.value w) :=
      fun w hw => hg w (List.mem_append_left _ hw)
    rw [fill, Tree.replaceValues, ih hC fun w hw => hg w (List.mem_append_right _ hw),
      t.replaceValues_eq_self g ht houter, fill]

theorem length_fill (u v : AnyNode) {s : Shape} : (C : Opening (.slot (.many s))) →
    (C.fill u).toList.length = (C.fill v).toList.length
  | .head _ _ => rfl
  | .tail _ C => congrArg (· + 1) (length_fill u v C)

theorem nodeFits_fill {u v : AnyNode} {k : Kind} (C : Opening (.fields k.fields))
    (h : Tree.NodeFits k (C.fill u)) : Tree.NodeFits k (C.fill v) := by
  cases k
  case raw =>
    match C with
    | .later (.atom fragments) (.field C .done) =>
      exact h.trans (congrArg (· + 1) (length_fill u v C))
  all_goals trivial

/-- Whether the raw text around the open place fits does not depend on what fills the place. -/
theorem rawFits_fill {u v : AnyNode} {p : Part} (C : Opening p) (h : (C.fill u).RawFits)
    (hv : v.RawFits) : (C.fill v).RawFits := by
  induction C with
  | here => exact hv
  | node k C ih => exact ⟨nodeFits_fill C h.1, ih h.2⟩
  | any C ih => exact ih h
  | present C ih => exact ih h
  | head C ts ih => exact ⟨ih h.1, h.2⟩
  | tail t C ih => exact ⟨h.1, ih h.2⟩
  | field C rest ih => exact ⟨ih h.1, h.2⟩
  | later t C ih => exact ⟨h.1, ih h.2⟩

end Opening

end QueryTree
