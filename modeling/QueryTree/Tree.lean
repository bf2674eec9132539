import QueryTree.Grammar

/-!
# Trees

One family holds every part of a tree, indexed by what it is: what stands in a field of some shape,
or the contents of the rest of a node's fields. So a statement about all trees is proved by one
induction with a case for each way to fill a place, not for each kind of node.
-/
namespace QueryTree

inductive Part
  | slot (s : Shape)
  | fields (fs : List Field)
  deriving DecidableEq

inductive Tree : Part → Type
  | atom {a : Atom} (x : a.Carrier) : Tree (.slot (.atom a))
  | node (k : Kind) (fields : Tree (.fields k.fields)) : Tree (.slot (.node k))
  | any {k : Kind} (t : Tree (.slot (.node k))) : Tree (.slot .any)
  | none {s : Shape} : Tree (.slot (.optional s))
  | some {s : Shape} (t : Tree (.slot s)) : Tree (.slot (.optional s))
  | nil {s : Shape} : Tree (.slot (.many s))
  | cons {s : Shape} (t : Tree (.slot s)) (ts : Tree (.slot (.many s))) : Tree (.slot (.many s))
  | done : Tree (.fields [])
  | field {f : Field} {fs : List Field} (t : Tree (.slot f.shape)) (rest : Tree (.fields fs)) :
      Tree (.fields (f :: fs))

/-- What stands in a field of a given shape. -/
abbrev Slot (s : Shape) := Tree (.slot s)

abbrev Node (k : Kind) := Slot (.node k)

abbrev AnyNode := Slot .any

abbrev Optional (k : Kind) := Slot (.optional (.node k))
abbrev Many (k : Kind) := Slot (.many (.node k))

namespace Tree

variable {s : Shape} {k : Kind}

/-- The kind of a node in a place that takes any. -/
def kind : AnyNode → Kind
  | .any (k := k) _ => k

/-- The node in a place that takes any, if it is of a given kind. -/
def as? (k : Kind) : AnyNode → Option (Node k)
  | .any (k := j) t => if h : j = k then Option.some (h ▸ t) else Option.none

def ofOption : Option (Slot s) → Slot (.optional s)
  | Option.none => .none
  | Option.some t => .some t

def toOption : Slot (.optional s) → Option (Slot s)
  | .none => Option.none
  | .some t => Option.some t

def ofList : List (Slot s) → Slot (.many s)
  | [] => .nil
  | t :: ts => .cons t (ofList ts)

/-- What a list of places holds; other parts hold nothing of the sort. -/
@[reducible] def Items : Part → Type
  | .slot (.many s) => List (Slot s)
  | _ => Unit

def items : {p : Part} → Tree p → Items p
  | _, .nil => []
  | _, .cons t ts => t :: ts.items
  | _, .atom _ => ()
  | _, .node _ _ => ()
  | _, .any _ => ()
  | _, .none => ()
  | _, .some _ => ()
  | _, .done => ()
  | _, .field _ _ => ()

def toList (ts : Slot (.many s)) : List (Slot s) := ts.items

@[simp] theorem toList_nil : (Tree.nil : Slot (.many s)).toList = [] := rfl

@[simp] theorem toList_cons (t : Slot s) (ts : Slot (.many s)) :
    (Tree.cons t ts).toList = t :: ts.toList := rfl

@[simp] theorem toList_ofList (ts : List (Slot s)) : (ofList ts).toList = ts := by
  induction ts with
  | nil => rfl
  | cons t ts ih => simp [ofList, ih]

theorem ofList_toList : (ts : Slot (.many s)) → ofList ts.toList = ts
  | .nil => rfl
  | .cons t ts => congrArg (cons t) (ofList_toList ts)

/-- Puts a member at the end of a list of places. -/
def concat (ts : Slot (.many s)) (t : Slot s) : Slot (.many s) := ofList (ts.toList ++ [t])

def decEq : {p : Part} → (t u : Tree p) → Decidable (t = u)
  | _, .atom x, .atom y => decidable_of_iff (x = y) ⟨fun h => h ▸ rfl, fun h => by injection h⟩
  | _, .node _ fs, .node _ gs =>
    have := decEq fs gs
    decidable_of_iff (fs = gs) ⟨fun h => h ▸ rfl, fun h => by injection h⟩
  | _, .any (k := j) t, .any (k := k) u =>
    if h : j = k then by
      subst h
      have := decEq t u
      exact decidable_of_iff (t = u) ⟨fun h => h ▸ rfl, fun h => by injection h⟩
    else isFalse fun e => by injection e; contradiction
  | _, .none, .none => isTrue rfl
  | _, .none, .some _ => isFalse fun h => by injection h
  | _, .some _, .none => isFalse fun h => by injection h
  | _, .some t, .some u =>
    have := decEq t u
    decidable_of_iff (t = u) ⟨fun h => h ▸ rfl, fun h => by injection h⟩
  | _, .nil, .nil => isTrue rfl
  | _, .nil, .cons _ _ => isFalse fun h => by injection h
  | _, .cons _ _, .nil => isFalse fun h => by injection h
  | _, .cons t ts, .cons u us =>
    have := decEq t u
    have := decEq ts us
    decidable_of_iff (t = u ∧ ts = us)
      ⟨fun h => h.1 ▸ h.2 ▸ rfl, fun h => by cases h; exact ⟨rfl, rfl⟩⟩
  | _, .done, .done => isTrue rfl
  | _, .field t ts, .field u us =>
    have := decEq t u
    have := decEq ts us
    decidable_of_iff (t = u ∧ ts = us)
      ⟨fun h => h.1 ▸ h.2 ▸ rfl, fun h => by cases h; exact ⟨rfl, rfl⟩⟩

instance {p : Part} : DecidableEq (Tree p) := decEq

end Tree

end QueryTree
