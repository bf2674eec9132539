import QueryTree.Proofs.Transformer.Sharing

/-!
# Maps of leaves

Names, values, operators and the texts of data types stand in nodes of their own, the leaves of a
tree. A transformer that gives a new leaf for each leaf of some of these kinds, and does nothing
else, maps the leaves: whatever is around them stays as it is, in the nodes that are made anew as in
those that are kept. Nothing around the leaves can be lost unseen, since a tree is told by its leaves
and its outline.
-/
namespace QueryTree

open QueryTree.Transformer (run_node run_some run_cons run_field)

/-- What a leaf of a tree holds. -/
inductive Leaf
  | name (s : String)
  | value (v : Value)
  | operator (o : Operator)
  | dataType (s : String)
  deriving DecidableEq

/-- Functions on what leaves hold. Leaves for which there is no function are left alone. -/
structure LeafMap where
  name : Option (String → String) := none
  value : Option (Value → Value) := none
  operator : Option (Operator → Operator) := none
  dataType : Option (String → String) := none

namespace LeafMap

def unchanged : LeafMap := ⟨some id, some id, some id, some id⟩

def blank : LeafMap :=
  ⟨some fun _ => "", some fun _ => .null, some fun _ => .eq, some fun _ => ""⟩

def after (g f : LeafMap) : LeafMap where
  name := Option.merge (· ∘ ·) g.name f.name
  value := Option.merge (· ∘ ·) g.value f.value
  operator := Option.merge (· ∘ ·) g.operator f.operator
  dataType := Option.merge (· ∘ ·) g.dataType f.dataType

theorem getD_merge {α : Type} (g f : Option (α → α)) (x : α) :
    (Option.merge (· ∘ ·) g f).getD id x = g.getD id (f.getD id x) := by
  cases g <;> cases f <;> rfl

def leaf (f : LeafMap) : Leaf → Leaf
  | .name s => .name (f.name.getD id s)
  | .value v => .value (f.value.getD id v)
  | .operator o => .operator (f.operator.getD id o)
  | .dataType s => .dataType (f.dataType.getD id s)

/-- The new leaf for a node, if the node is a leaf and there is a function for it. -/
def image? (f : LeafMap) : (k : Kind) → Node k → Change (.slot (.node k))
  | .identifier, .identifier s => f.name.map fun g => .identifier (g s)
  | .value, .value v => f.value.map fun g => .value (g v)
  | .operator, .operator o => f.operator.map fun g => .operator (g o)
  | .dataType, .dataType s => f.dataType.map fun g => .dataType (g s)
  | _, _ => none

/-- The transformer that has hooks for leaves only, each of which gives a new leaf. -/
def transformer (f : LeafMap) : Transformer Unit where
  onNode k t walk :=
    match f.image? k t with
    | some new => pure (some new)
    | none => walk

end LeafMap

def Kind.isLeaf : Kind → Bool
  | .identifier | .value | .operator | .dataType => true
  | _ => false

namespace Tree

def ownLeaf : (k : Kind) → Node k → List Leaf
  | .identifier, .identifier s => [.name s]
  | .value, .value v => [.value v]
  | .operator, .operator o => [.operator o]
  | .dataType, .dataType s => [.dataType s]
  | _, _ => []

def leaves : {p : Part} → Tree p → List Leaf
  | _, .atom _ => []
  | _, .node k fields => ownLeaf k (.node k fields) ++ fields.leaves
  | _, .any t => t.leaves
  | _, .none => []
  | _, .some t => t.leaves
  | _, .nil => []
  | _, .cons t ts => t.leaves ++ ts.leaves
  | _, .done => []
  | _, .field t rest => t.leaves ++ rest.leaves

/-- The tree with the image of each leaf in its place. -/
def mapLeaves (f : LeafMap) : {p : Part} → Tree p → Tree p
  | _, .atom x => .atom x
  | _, .node k fields => (f.image? k (.node k fields)).getD (.node k (fields.mapLeaves f))
  | _, .any t => .any (t.mapLeaves f)
  | _, .none => .none
  | _, .some t => .some (t.mapLeaves f)
  | _, .nil => .nil
  | _, .cons t ts => .cons (t.mapLeaves f) (ts.mapLeaves f)
  | _, .done => .done
  | _, .field t rest => .field (t.mapLeaves f) (rest.mapLeaves f)

/-- The tree with nothing in its leaves. -/
def outline {p : Part} (t : Tree p) : Tree p := t.mapLeaves .blank

/-- A node is a leaf of one of four kinds, or not a leaf. -/
theorem node_cases {motive : (k : Kind) → Tree (.fields k.fields) → Prop}
    (identifier : ∀ s : String, motive .identifier (.field (.atom s) .done))
    (value : ∀ v : Value, motive .value (.field (.atom v) .done))
    (operator : ∀ o : Operator, motive .operator (.field (.atom o) .done))
    (dataType : ∀ s : String, motive .dataType (.field (.atom s) .done))
    (inner : ∀ k fields, k.isLeaf = false → motive k fields) (k : Kind)
    (fields : Tree (.fields k.fields)) : motive k fields := by
  cases k
  case identifier =>
    match fields with
    | .field (.atom s) .done => exact identifier s
  case value =>
    match fields with
    | .field (.atom v) .done => exact value v
  case operator =>
    match fields with
    | .field (.atom o) .done => exact operator o
  case dataType =>
    match fields with
    | .field (.atom s) .done => exact dataType s
  all_goals exact inner _ fields rfl

variable (f g : LeafMap) {k : Kind}

theorem mapLeaves_identifier (s : String) :
    (Tree.identifier s).mapLeaves f = .identifier (f.name.getD id s) := by
  rw [mapLeaves, LeafMap.image?]
  cases f.name <;> rfl

theorem mapLeaves_value (v : Value) :
    (Tree.value v).mapLeaves f = .value (f.value.getD id v) := by
  rw [mapLeaves, LeafMap.image?]
  cases f.value <;> rfl

theorem mapLeaves_operator (o : Operator) :
    (Tree.operator o).mapLeaves f = .operator (f.operator.getD id o) := by
  rw [mapLeaves, LeafMap.image?]
  cases f.operator <;> rfl

theorem mapLeaves_dataType (s : String) :
    (Tree.dataType s).mapLeaves f = .dataType (f.dataType.getD id s) := by
  rw [mapLeaves, LeafMap.image?]
  cases f.dataType <;> rfl

theorem mapLeaves_inner (h : k.isLeaf = false) (fields : Tree (.fields k.fields)) :
    (Tree.node k fields).mapLeaves f = .node k (fields.mapLeaves f) := by
  cases k
  case identifier | value | operator | dataType => cases h
  all_goals rfl

theorem leaves_inner (h : k.isLeaf = false) (fields : Tree (.fields k.fields)) :
    (Tree.node k fields).leaves = fields.leaves := by
  cases k
  case identifier | value | operator | dataType => cases h
  all_goals rfl

theorem leaves_mapLeaves {p : Part} (t : Tree p) : (t.mapLeaves f).leaves = t.leaves.map f.leaf := by
  induction t with
  | atom x | none | nil | done => rfl
  | node k fields ih =>
    induction k, fields using node_cases with
    | identifier s => rw [mapLeaves_identifier]; rfl
    | value v => rw [mapLeaves_value]; rfl
    | operator o => rw [mapLeaves_operator]; rfl
    | dataType s => rw [mapLeaves_dataType]; rfl
    | inner k fields h => rw [mapLeaves_inner f h, leaves_inner h, leaves_inner h, ih]
  | any t ih => exact ih
  | some t ih => exact ih
  | cons t ts iht ihts => rw [mapLeaves, leaves, leaves, List.map_append, iht, ihts]
  | field t rest iht ihrest => rw [mapLeaves, leaves, leaves, List.map_append, iht, ihrest]

theorem mapLeaves_mapLeaves {p : Part} (t : Tree p) :
    (t.mapLeaves f).mapLeaves g = t.mapLeaves (g.after f) := by
  induction t with
  | atom x | none | nil | done => rfl
  | node k fields ih =>
    induction k, fields using node_cases with
    | identifier s =>
      rw [mapLeaves_identifier, mapLeaves_identifier, mapLeaves_identifier, ← LeafMap.getD_merge]
      rfl
    | value v =>
      rw [mapLeaves_value, mapLeaves_value, mapLeaves_value, ← LeafMap.getD_merge]
      rfl
    | operator o =>
      rw [mapLeaves_operator, mapLeaves_operator, mapLeaves_operator, ← LeafMap.getD_merge]
      rfl
    | dataType s =>
      rw [mapLeaves_dataType, mapLeaves_dataType, mapLeaves_dataType, ← LeafMap.getD_merge]
      rfl
    | inner k fields h => rw [mapLeaves_inner f h, mapLeaves_inner g h, mapLeaves_inner _ h, ih]
  | any t ih => exact congrArg _ ih
  | some t ih => exact congrArg _ ih
  | cons t ts iht ihts => rw [mapLeaves, mapLeaves, mapLeaves, iht, ihts]
  | field t rest iht ihrest => rw [mapLeaves, mapLeaves, mapLeaves, iht, ihrest]

/-- New leaves that hold what the old ones do make no difference. -/
theorem mapLeaves_unchanged {p : Part} (t : Tree p) : t.mapLeaves .unchanged = t := by
  induction t with
  | atom x | none | nil | done => rfl
  | node k fields ih =>
    induction k, fields using node_cases with
    | identifier s | value v | operator o | dataType s => rfl
    | inner k fields h => rw [mapLeaves_inner _ h, ih]
  | any t ih => exact congrArg _ ih
  | some t ih => exact congrArg _ ih
  | cons t ts iht ihts => rw [mapLeaves, iht, ihts]
  | field t rest iht ihrest => rw [mapLeaves, iht, ihrest]

private theorem after_blank : LeafMap.blank.after f = .blank := by
  obtain ⟨name, value, operator, dataType⟩ := f
  cases name <;> cases value <;> cases operator <;> cases dataType <;> rfl

theorem outline_mapLeaves {p : Part} (t : Tree p) : (t.mapLeaves f).outline = t.outline := by
  rw [outline, mapLeaves_mapLeaves, after_blank, outline]

theorem length_leaves_of_outline_eq {p : Part} {t u : Tree p} (h : t.outline = u.outline) :
    t.leaves.length = u.leaves.length := by
  have hlength (v : Tree p) : v.outline.leaves.length = v.leaves.length := by
    rw [outline, leaves_mapLeaves, List.length_map]
  rw [← hlength t, h, hlength u]

/-- A tree is told by its leaves and its outline. -/
theorem eq_of_leaves_eq {p : Part} {t u : Tree p} (hleaves : t.leaves = u.leaves)
    (houtline : t.outline = u.outline) : t = u := by
  induction t with
  | atom x =>
    cases u
    exact houtline
  | node k fields ih =>
    cases u with
    | node _ fields' =>
      induction k, fields using node_cases with
      | identifier s =>
        match fields' with
        | .field (.atom s') .done => cases hleaves; rfl
      | value v =>
        match fields' with
        | .field (.atom v') .done => cases hleaves; rfl
      | operator o =>
        match fields' with
        | .field (.atom o') .done => cases hleaves; rfl
      | dataType s =>
        match fields' with
        | .field (.atom s') .done => cases hleaves; rfl
      | inner k fields h =>
        rw [leaves_inner h, leaves_inner h] at hleaves
        rw [outline, outline, mapLeaves_inner _ h, mapLeaves_inner _ h] at houtline
        injection houtline with _ houtline
        rw [ih hleaves houtline]
  | any t ih =>
    cases u with
    | any u =>
      injection houtline with hk houtline
      subst hk
      rw [ih hleaves (eq_of_heq houtline)]
  | none =>
    cases u with
    | none => rfl
    | some u => cases houtline
  | some t ih =>
    cases u with
    | none => cases houtline
    | some u =>
      injection houtline with _ houtline
      rw [ih hleaves houtline]
  | nil =>
    cases u with
    | nil => rfl
    | cons u us => cases houtline
  | cons t ts iht ihts =>
    cases u with
    | nil => cases houtline
    | cons u us =>
      injection houtline with _ hfirst hrest
      obtain ⟨ht, hts⟩ := List.append_inj hleaves (length_leaves_of_outline_eq hfirst)
      rw [iht ht hfirst, ihts hts hrest]
  | done =>
    cases u
    rfl
  | field t rest iht ihrest =>
    cases u with
    | field u us =>
      injection houtline with _ _ hfirst hrest
      obtain ⟨ht, hts⟩ := List.append_inj hleaves (length_leaves_of_outline_eq hfirst)
      rw [iht ht hfirst, ihrest hts hrest]

end Tree

namespace Transformer

/-- The transformer that makes every node anew, out of what its fields have become. -/
def rebuilding : Transformer Unit where
  onAny t walk := do
    let r ← walk
    pure (some (r.apply t))
  onNode _ t walk := do
    let r ← walk
    pure (some (r.apply t))

private theorem apply_run_rebuilding {p : Part} (t : Tree p) :
    (rebuilding.run t ()).1.apply t = t := by
  induction t with
  | atom x | none | nil | done => rfl
  | node k fields ih =>
    show Change.apply ((rebuilding.run fields ()).1.map _) _ = _
    rw [Change.apply_map, ih]
  | any t ih =>
    show Change.apply ((rebuilding.run t ()).1.map _) _ = _
    rw [Change.apply_map, ih]
  | some t ih => rw [run_some, Change.apply_map, ih]
  | cons t ts iht ihts => rw [run_cons, Change.apply_both, iht, ihts]
  | field t rest iht ihrest => rw [run_field, Change.apply_both, iht, ihrest]

theorem run_rebuilding (t : AnyNode) : (rebuilding.run t ()).1 = some t := by
  cases t with
  | any t =>
    have h := apply_run_rebuilding (.any t)
    exact congrArg some h

end Transformer

namespace LeafMap

variable (f : LeafMap)

/-- A run of the transformer that has hooks for leaves only is the map of leaves. -/
theorem apply_run {p : Part} (t : Tree p) : (f.transformer.run t ()).1.apply t = t.mapLeaves f := by
  induction t with
  | atom x | none | nil | done => rfl
  | node k fields ih =>
    rw [run_node, Tree.mapLeaves, LeafMap.transformer]
    dsimp only
    cases f.image? k (.node k fields) with
    | some new => rfl
    | none =>
      show Change.apply ((f.transformer.run fields ()).1.map _) _ = _
      rw [Change.apply_map, ih]
      rfl
  | any t ih =>
    show Change.apply ((f.transformer.run t ()).1.map _) _ = _
    rw [Change.apply_map, ih, Tree.mapLeaves]
  | some t ih => rw [run_some, Change.apply_map, ih, Tree.mapLeaves]
  | cons t ts iht ihts => rw [run_cons, Change.apply_both, iht, ihts, Tree.mapLeaves]
  | field t rest iht ihrest => rw [run_field, Change.apply_both, iht, ihrest, Tree.mapLeaves]

private theorem leaf_after (g : LeafMap) (x : Leaf) : (g.after f).leaf x = g.leaf (f.leaf x) := by
  cases x with
  | name s => exact congrArg Leaf.name (getD_merge ..)
  | value v => exact congrArg Leaf.value (getD_merge ..)
  | operator o => exact congrArg Leaf.operator (getD_merge ..)
  | dataType s => exact congrArg Leaf.dataType (getD_merge ..)

/-- The images of the leaves, and everything else as it was, make one tree, and it is the map of
leaves. -/
theorem eq_mapLeaves_iff {p : Part} {t u : Tree p} :
    u = t.mapLeaves f ↔ u.leaves = t.leaves.map f.leaf ∧ u.outline = t.outline := by
  constructor
  · rintro rfl
    exact ⟨t.leaves_mapLeaves f, t.outline_mapLeaves f⟩
  · rintro ⟨hleaves, houtline⟩
    refine Tree.eq_of_leaves_eq ?_ ?_
    · rw [hleaves, t.leaves_mapLeaves]
    · rw [houtline, t.outline_mapLeaves]

open QueryTree.Transformer (rebuilding) in
/-- A run of a transformer that gives new leaves, and does nothing else, has as its outcome the one
tree with the images of the leaves in which everything else is as it was. So two runs come to what
one run with the composed functions does. Making leaves or whole trees anew with what they held comes
to what the transformer that replaces nothing hands back. -/
theorem run_maps_leaves :
    (∀ (f : LeafMap) {p : Part} (t u : Tree p),
      u = (f.transformer.run t ()).1.apply t ↔
        u.leaves = t.leaves.map f.leaf ∧ u.outline = t.outline) ∧
    (∀ (f g : LeafMap), (∀ x, (g.after f).leaf x = g.leaf (f.leaf x)) ∧
      ∀ {p : Part} (t : Tree p),
        let u := (f.transformer.run t ()).1.apply t
        (g.transformer.run u ()).1.apply u = ((g.after f).transformer.run t ()).1.apply t) ∧
    (∀ x, unchanged.leaf x = x) ∧
    ∀ t : AnyNode, (unchanged.transformer.run t ()).1.apply t = t ∧
      (rebuilding.run t ()).1 = some t ∧ (Transformer.identity.run t ()).1.apply t = t := by
  refine ⟨fun f p t u => ?_, fun f g => ⟨leaf_after f g, fun t => ?_⟩, fun x => ?_, fun t => ?_⟩
  · rw [apply_run]
    exact f.eq_mapLeaves_iff
  · dsimp only
    rw [apply_run, apply_run, apply_run, Tree.mapLeaves_mapLeaves]
  · cases x <;> rfl
  · refine ⟨?_, Transformer.run_rebuilding t, ?_⟩
    · rw [apply_run, t.mapLeaves_unchanged]
    · rw [Overrides.identity_run]
      rfl

end LeafMap

end QueryTree
