import QueryTree.Json.Basic

/-!
# Members in ascending order

Bringing the members of an object into ascending order loses none of them if their keys differ. So
what is read off an object member by member does not depend on their order.
-/
namespace QueryTree.JsonTree

private theorem insertMember_perm {key : String} (value : Json) {ms : List (String × Json)}
    (h : key ∉ ms.map Prod.fst) : (insertMember key value ms).Perm ((key, value) :: ms) := by
  induction ms with
  | nil => exact .refl _
  | cons m ms ih =>
    obtain ⟨k, x⟩ := m
    rw [List.map_cons, List.mem_cons, not_or] at h
    rw [insertMember, if_neg h.1]
    split
    · exact .refl _
    · exact ((ih h.2).cons (k, x)).trans (.swap ..)

/-- Members are put one by one among those that are in order already. -/
private theorem foldl_insertMember_perm {ms done : List (String × Json)}
    (h : ((ms ++ done).map Prod.fst).Nodup) :
    (ms.foldl (fun done (k, x) => insertMember k x done) done).Perm (ms ++ done) := by
  induction ms generalizing done with
  | nil => exact .refl _
  | cons m ms ih =>
    obtain ⟨k, x⟩ := m
    have hkey : k ∉ done.map Prod.fst := by
      simp only [List.cons_append, List.map_cons, List.nodup_cons, List.map_append] at h
      exact fun hk => h.1 (List.mem_append_right _ hk)
    have hmove : (ms ++ insertMember k x done).Perm ((k, x) :: (ms ++ done)) :=
      ((insertMember_perm x hkey).append_left ms).trans List.perm_middle
    exact (ih ((hmove.map Prod.fst).nodup_iff.mpr h)).trans hmove

theorem sortMembers_perm {ms : List (String × Json)} (h : (ms.map Prod.fst).Nodup) :
    (sortMembers ms).Perm ms := by
  simpa [sortMembers] using @foldl_insertMember_perm ms [] (by simpa using h)

theorem sorted_arrayOf (xs : List Json) : (arrayOf xs).sorted = arrayOf (xs.map sorted) := by
  induction xs with
  | nil => rfl
  | cons x xs ih =>
    have htail : (toItems xs).sorted = toItems (xs.map sorted) := JsonTree.array.inj ih
    exact congrArg (fun items => JsonTree.array (.cons x.sorted items)) htail

/-- An object with a single member keeps it. -/
theorem sorted_single (key : String) (x : Json) :
    (objectOf [(key, x)]).sorted = objectOf [(key, x.sorted)] := rfl

/-- Where keys differ, what has a key is found by it. -/
theorem lookup_of_mem {κ α : Type} [DecidableEq κ] {ms : List (κ × α)}
    (h : (ms.map Prod.fst).Nodup) {k : κ} {x : α} (hm : (k, x) ∈ ms) : ms.lookup k = some x := by
  induction ms with
  | nil => exact absurd hm List.not_mem_nil
  | cons m ms ih =>
    obtain ⟨j, y⟩ := m
    obtain ⟨hj, hms⟩ := List.nodup_cons.mp h
    rcases List.mem_cons.mp hm with heq | hm
    · obtain ⟨rfl, rfl⟩ := Prod.mk.inj heq
      exact List.lookup_cons_self
    · have hne : k ≠ j := fun hk => hj (List.mem_map.mpr ⟨(k, x), hm, hk⟩)
      rw [List.lookup_cons, beq_eq_false_iff_ne.mpr hne]
      exact ih hms hm

/-- Whether the keys of every object are in ascending order and differ. -/
def Ascending : {p : JsonPart} → JsonTree p → Prop
  | _, .array xs => xs.Ascending
  | _, .object ms => ms.memberList.Pairwise (fun m m' => m.1 < m'.1) ∧ ms.Ascending
  | _, .cons x xs => x.Ascending ∧ xs.Ascending
  | _, .member _ x rest => x.Ascending ∧ rest.Ascending
  | _, _ => True

theorem mem_insertMember {key : String} {value : Json} {ms : List (String × Json)}
    {m : String × Json} (h : m ∈ insertMember key value ms) : m = (key, value) ∨ m ∈ ms := by
  induction ms with
  | nil => exact .inl (List.mem_singleton.mp h)
  | cons m' ms ih =>
    rw [insertMember] at h
    split at h
    · exact List.mem_cons.mp h
    · split at h
      · exact (List.mem_cons.mp h).imp_right (List.mem_cons_of_mem _)
      · rcases List.mem_cons.mp h with rfl | h
        · exact .inr List.mem_cons_self
        · exact (ih h).imp_right (List.mem_cons_of_mem _)

private theorem pairwise_insertMember {key : String} {value : Json} {ms : List (String × Json)}
    (h : ms.Pairwise fun m m' => m.1 < m'.1) :
    (insertMember key value ms).Pairwise fun m m' => m.1 < m'.1 := by
  induction ms with
  | nil => exact List.pairwise_singleton _ _
  | cons m ms ih =>
    obtain ⟨k, x⟩ := m
    obtain ⟨hm, hms⟩ := List.pairwise_cons.mp h
    rw [insertMember]
    split
    next hlt =>
      exact List.pairwise_cons.mpr ⟨List.forall_mem_cons.mpr
        ⟨hlt, fun m' hm' => String.lt_trans hlt (hm m' hm')⟩, h⟩
    next hlt =>
      split
      next heq => exact List.pairwise_cons.mpr ⟨heq ▸ hm, hms⟩
      next hne =>
        have hgt : k < key := Decidable.byContradiction fun hgt =>
          hne (String.le_antisymm (String.not_lt.mp hgt) (String.not_lt.mp hlt))
        refine List.pairwise_cons.mpr ⟨fun m' hm' => ?_, ih hms⟩
        rcases mem_insertMember hm' with rfl | hm'
        · exact hgt
        · exact hm m' hm'

private theorem mem_sortMembers {ms : List (String × Json)} {m : String × Json}
    (h : m ∈ sortMembers ms) : m ∈ ms := by
  have hfold {ms done : List (String × Json)} :
      m ∈ ms.foldl (fun done (k, x) => insertMember k x done) done → m ∈ ms ∨ m ∈ done := by
    induction ms generalizing done with
    | nil => exact .inr
    | cons m' ms ih =>
      intro hm
      rcases ih hm with hm | hm
      · exact .inl (List.mem_cons_of_mem _ hm)
      · rcases mem_insertMember hm with rfl | hm
        · exact .inl List.mem_cons_self
        · exact .inr hm
  exact (hfold h).resolve_right List.not_mem_nil

private theorem pairwise_sortMembers (ms : List (String × Json)) :
    (sortMembers ms).Pairwise fun m m' => m.1 < m'.1 := by
  have hfold {done : List (String × Json)} (h : done.Pairwise fun m m' => m.1 < m'.1) :
      (ms.foldl (fun done (k, x) => insertMember k x done) done).Pairwise
        fun m m' => m.1 < m'.1 := by
    induction ms generalizing done with
    | nil => exact h
    | cons m ms ih => exact ih (pairwise_insertMember h)
  exact hfold List.Pairwise.nil

theorem ascending_members : (ms : JsonMembers) →
    (ms.Ascending ↔ ∀ m ∈ ms.memberList, m.2.Ascending)
  | .empty => ⟨nofun, fun _ => trivial⟩
  | .member k x rest => by
    rw [Ascending, memberList, List.forall_mem_cons, ascending_members rest]

theorem ascending_items : (xs : JsonItems) → (xs.Ascending ↔ ∀ x ∈ xs.itemList, x.Ascending)
  | .nil => ⟨nofun, fun _ => trivial⟩
  | .cons x xs => by
    rw [Ascending, itemList, List.forall_mem_cons, ascending_items xs]

theorem ascending_sorted : {p : JsonPart} → (x : JsonTree p) → x.sorted.Ascending
  | _, .null | _, .bool _ | _, .number _ | _, .string _ | _, .nil | _, .empty => trivial
  | _, .array xs => xs.ascending_sorted
  | _, .object ms => by
    rw [sorted, Ascending, ascending_members, memberList_toMembers]
    exact ⟨pairwise_sortMembers _, fun m hm =>
      (ascending_members _).mp ms.ascending_sorted m (mem_sortMembers hm)⟩
  | _, .cons x xs => ⟨x.ascending_sorted, xs.ascending_sorted⟩
  | _, .member _ x rest => ⟨x.ascending_sorted, rest.ascending_sorted⟩

end QueryTree.JsonTree
