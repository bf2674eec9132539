import QueryTree.Proofs.Json.Sorting

/-!
# Positions in JSON

A position leads from a JSON value to one inside of it, by keys of objects and indices of arrays.
Positions are ordered as a depth-first search meets them: a value comes before what is in it, and
what is in it comes by ascending keys and indices. The items of an array and the members of an
object are both children, so that what is proved of children holds of either.
-/
namespace QueryTree

/-- One step into a JSON value. -/
inductive Selector
  | key (k : String)
  | index (i : Nat)
  deriving DecidableEq, Repr

def Selector.Before : Selector → Selector → Prop
  | key k, key k' => k < k'
  | index i, index j => i < j
  | _, _ => False

instance : LT Selector := ⟨Selector.Before⟩

theorem Selector.Before.asymm {s t : Selector} (h : s.Before t) : ¬t.Before s := by
  cases s with
  | key k =>
    cases t with
    | key k' => exact String.lt_asymm h
    | index j => exact h.elim
  | index i =>
    cases t with
    | key k' => exact h.elim
    | index j => exact Nat.lt_asymm h

theorem Selector.Before.ne {s t : Selector} (h : s.Before t) : s ≠ t := by
  rintro rfl
  exact h.asymm h

instance : Std.Asymm fun s t : Selector => s < t := ⟨fun _ _ => Selector.Before.asymm⟩

/-- Selectors from the outside to the inside. Their lexicographic order is that of a depth-first
search. -/
abbrev Position := List Selector

namespace JsonTree

/-- What is directly in a value, with the selectors that lead there. -/
def children : Json → List (Selector × Json)
  | .object ms => ms.memberList.map fun m => (.key m.1, m.2)
  | .array xs => xs.itemList.mapIdx fun i y => (.index i, y)
  | _ => []

def child? (x : Json) (s : Selector) : Option Json := x.children.lookup s

def at? (x : Json) : Position → Option Json
  | [] => some x
  | s :: p => (x.child? s).bind fun y => y.at? p

def replace : Json → Position → Json → Json
  | _, [], z => z
  | .object ms, .key k :: p, z => .object (toMembers
      (ms.memberList.map fun m => if m.1 = k then (m.1, m.2.replace p z) else m))
  | .array xs, .index i :: p, z => .array (toItems
      (xs.itemList.mapIdx fun j y => if j = i then y.replace p z else y))
  | x, _ :: _, _ => x

/-- What holds of every value in a part of a value. -/
def Everywhere (P : Json → Prop) : {p : JsonPart} → JsonTree p → Prop
  | .value, x => P x
  | .items, xs => ∀ x ∈ xs.itemList, P x
  | .members, ms => ∀ m ∈ ms.memberList, P m.2

theorem forall_children_array {P : Json → Prop} {xs : JsonItems} (h : ∀ x ∈ xs.itemList, P x) :
    ∀ c ∈ (JsonTree.array xs).children, P c.2 := by
  intro c hc
  obtain ⟨i, hi, rfl⟩ := List.mem_mapIdx.mp hc
  exact h _ (List.getElem_mem hi)

theorem forall_children_object {P : Json → Prop} {ms : JsonMembers}
    (h : ∀ m ∈ ms.memberList, P m.2) : ∀ c ∈ (JsonTree.object ms).children, P c.2 :=
  List.forall_mem_map.mpr h

theorem everywhere {P : Json → Prop} (h : ∀ x : Json, (∀ c ∈ x.children, P c.2) → P x) :
    {p : JsonPart} → (x : JsonTree p) → x.Everywhere P
  | _, .null | _, .bool _ | _, .number _ | _, .string _ => h _ nofun
  | _, .nil | _, .empty => nofun
  | _, .array xs => h _ (forall_children_array (xs.everywhere h))
  | _, .object ms => h _ (forall_children_object (ms.everywhere h))
  | _, .cons x xs => List.forall_mem_cons.mpr ⟨x.everywhere h, xs.everywhere h⟩
  | _, .member _ x rest => List.forall_mem_cons.mpr ⟨x.everywhere h, rest.everywhere h⟩

/-- What holds of a value if it holds of its children holds of every value. -/
@[elab_as_elim]
theorem children_induction {P : Json → Prop} (x : Json)
    (h : ∀ x : Json, (∀ c ∈ x.children, P c.2) → P x) : P x :=
  x.everywhere h

theorem ascending_child : {x : Json} → x.Ascending → ∀ c ∈ x.children, c.2.Ascending
  | .null, _ | .bool _, _ | .number _, _ | .string _, _ => nofun
  | .array _, h => forall_children_array ((ascending_items _).mp h)
  | .object _, h => forall_children_object ((ascending_members _).mp h.2)

theorem pairwise_children_array (xs : JsonItems) :
    (JsonTree.array xs).children.Pairwise fun c c' => c.1 < c'.1 := by
  have hindices (ys : List Json) (n : Nat) : (ys.zipIdx n).Pairwise fun y y' => y.2 < y'.2 := by
    induction ys generalizing n with
    | nil => exact .nil
    | cons y ys ih =>
      exact List.pairwise_cons.mpr ⟨fun y' hy' => (List.mem_zipIdx hy').1, ih (n + 1)⟩
  rw [children, List.mapIdx_eq_zipIdx_map]
  exact List.pairwise_map.mpr (hindices xs.itemList 0)

/-- The children of a value come in the order of their selectors. -/
theorem pairwise_children : {x : Json} → x.Ascending →
    x.children.Pairwise fun c c' => c.1 < c'.1
  | .null, _ | .bool _, _ | .number _, _ | .string _, _ => .nil
  | .object _, h => List.pairwise_map.mpr h.1
  | .array xs, _ => pairwise_children_array xs

/-- Where the children come in the order of their selectors, one leads to one child only. -/
theorem child?_of_pairwise {x : Json} (h : x.children.Pairwise fun c c' => c.1 < c'.1) {s : Selector}
    {y : Json} : x.child? s = some y ↔ (s, y) ∈ x.children := by
  have hnodup : (x.children.map Prod.fst).Nodup := List.pairwise_map.mpr (h.imp Selector.Before.ne)
  refine ⟨fun hlookup => ?_, lookup_of_mem hnodup⟩
  obtain ⟨before, after, heq, -⟩ := List.lookup_eq_some_iff.mp hlookup
  rw [heq]
  exact List.mem_append_right _ List.mem_cons_self

theorem child?_eq_some {x : Json} (h : x.Ascending) {s : Selector} {y : Json} :
    x.child? s = some y ↔ (s, y) ∈ x.children :=
  child?_of_pairwise (pairwise_children h)

theorem child?_index {xs : JsonItems} {i : Nat} {y : Json} (h : xs.itemList[i]? = some y) :
    (JsonTree.array xs).child? (.index i) = some y := by
  refine (child?_of_pairwise (pairwise_children_array xs)).mpr ?_
  obtain ⟨hi, rfl⟩ := List.getElem?_eq_some_iff.mp h
  exact List.mem_mapIdx.mpr ⟨i, hi, rfl⟩

theorem get?_eq_child? (k : String) : (x : Json) → x.get? k = x.child? (.key k)
  | .null | .bool _ | .number _ | .string _ => rfl
  | .array xs => by
    refine (List.lookup_eq_none_iff.mpr fun c hc => ?_).symm
    obtain ⟨i, _, rfl⟩ := List.mem_mapIdx.mp hc
    rfl
  | .object ms => by
    show ms.memberList.lookup k = List.lookup (Selector.key k) (ms.memberList.map _)
    induction ms.memberList with
    | nil => rfl
    | cons m ms ih =>
      obtain ⟨j, y⟩ := m
      rw [List.map_cons, List.lookup_cons, List.lookup_cons, ih]
      by_cases hk : k = j
      · simp [hk]
      · have hselector : Selector.key k ≠ Selector.key j := fun h => hk (Selector.key.inj h)
        rw [beq_eq_false_iff_ne.mpr hk, beq_eq_false_iff_ne.mpr hselector]

def change (s : Selector) (f : Json → Json) (cs : List (Selector × Json)) : List (Selector × Json) :=
  cs.map fun c => if c.1 = s then (c.1, f c.2) else c

theorem change_of_ne {s : Selector} {f : Json → Json} {cs : List (Selector × Json)}
    (h : ∀ c ∈ cs, c.1 ≠ s) : change s f cs = cs := by
  rw [change, List.map_congr_left fun c hc => if_neg (h c hc), List.map_id']

theorem lookup_change (s t : Selector) (f : Json → Json) (cs : List (Selector × Json)) :
    (change s f cs).lookup t = if t = s then (cs.lookup t).map f else cs.lookup t := by
  induction cs with
  | nil => simp [change]
  | cons c cs ih =>
    have hcons : change s f (c :: cs) = (if c.1 = s then (c.1, f c.2) else c) :: change s f cs := rfl
    obtain ⟨r, y⟩ := c
    rw [hcons]
    by_cases htr : t = r
    · subst htr
      by_cases hts : t = s <;> simp [hts]
    · have hkey : (if r = s then (r, f y) else (r, y)).1 = r := by split <;> rfl
      rw [List.lookup_cons, List.lookup_cons, hkey, beq_eq_false_iff_ne.mpr htr]
      exact ih

theorem children_replace (s : Selector) (p : Position) (z : Json) : (x : Json) →
    (x.replace (s :: p) z).children = change s (fun y => y.replace p z) x.children
  | .null | .bool _ | .number _ | .string _ => by cases s <;> rfl
  | .array xs => by
    cases s with
    | key k =>
      refine (change_of_ne fun c hc => ?_).symm
      obtain ⟨i, _, rfl⟩ := List.mem_mapIdx.mp hc
      nofun
    | index i =>
      simp only [replace, change, children, itemList_toItems, List.mapIdx_mapIdx]
      rw [List.mapIdx_eq_zipIdx_map, List.mapIdx_eq_zipIdx_map, List.map_map]
      refine List.map_congr_left fun y _ => ?_
      by_cases hi : y.2 = i <;> simp [hi]
  | .object ms => by
    cases s with
    | key k =>
      simp only [replace, change, children, memberList_toMembers, List.map_map]
      refine List.map_congr_left fun m _ => ?_
      by_cases hk : m.1 = k <;> simp [hk]
    | index i =>
      refine (change_of_ne fun c hc => ?_).symm
      obtain ⟨m, _, rfl⟩ := List.mem_map.mp hc
      nofun

theorem child?_replace (x : Json) (s t : Selector) (p : Position) (z : Json) :
    (x.replace (s :: p) z).child? t =
      if t = s then (x.child? t).map fun y => y.replace p z else x.child? t := by
  rw [child?, children_replace]
  exact lookup_change s t _ x.children

end JsonTree

end QueryTree
