import QueryTree.Proofs.Json.Positions
import QueryTree.Proofs.Tree.Opening
import QueryTree.Proofs.Tree.RoundTrip

/-!
# Unknown kinds

Loading looks for unknown kinds before anything else. It reports the one that a depth-first search
meets first, where an object comes before its members and the members by ascending keys, and it
looks everywhere but below runtime values. So whatever else is wrong with a value, an unknown kind
in it is what is reported; and if the kind of any one node in what is written for a tree is changed
to an unknown name, then loading reports that name.
-/
namespace QueryTree

namespace JsonTree

/-- What is reported of the kind of an object that names none. -/
def foreignName? : Json → Option String
  | .string s => if (Kind.ofName? s).isNone then some s else none
  | x => some x.compactText

def ownForeign? (x : Json) : Option String := (x.get? "kind").bind foreignName?

/-- Whether a value is an object that says it is a runtime value. -/
def IsRuntimeValue (x : Json) : Prop := x.get? "kind" = some (.string Kind.value.name)

instance (x : Json) : Decidable x.IsRuntimeValue := inferInstanceAs (Decidable (_ = _))

/-- A position that is not below an object that says it is a runtime value. -/
def Searched (x : Json) (p : Position) : Prop :=
  ∀ q y, q <+: p → q ≠ p → x.at? q = some y → ¬y.IsRuntimeValue

/-- There is an object at a position, not below a runtime value, of which a name is reported. -/
structure Foreign (x : Json) (p : Position) (tag : String) : Prop where
  searched : x.Searched p
  reported : ∃ y, x.at? p = some y ∧ y.ownForeign? = some tag

/-- Of all objects of which something is reported, this one is the first. -/
structure FirstForeign (x : Json) (p : Position) (tag : String) : Prop where
  foreign : x.Foreign p tag
  first : ∀ q tag', x.Foreign q tag' → q = p ∨ p < q

theorem searched_nil (x : Json) : x.Searched [] := fun _ _ hprefix hne =>
  absurd (List.prefix_nil.mp hprefix) hne

theorem searched_cons {x y : Json} {s : Selector} {p : Position} (hy : x.child? s = some y) :
    x.Searched (s :: p) ↔ ¬x.IsRuntimeValue ∧ y.Searched p := by
  have hat (q : Position) : x.at? (s :: q) = y.at? q := by rw [at?, hy, Option.bind_some]
  constructor
  · intro h
    refine ⟨h [] x List.nil_prefix nofun rfl, fun q z hprefix hne hz => ?_⟩
    refine h (s :: q) z ((List.prefix_cons_inj s).mpr hprefix) (fun heq => hne ?_) ?_
    · exact (List.cons.inj heq).2
    · rw [hat, hz]
  · rintro ⟨hx, h⟩ q z hprefix hne hz
    cases q with
    | nil => exact Option.some.inj hz ▸ hx
    | cons t q =>
      obtain ⟨rfl, htail⟩ := List.cons_prefix_cons.mp hprefix
      exact h q z htail (fun heq => hne (heq ▸ rfl)) (hat q ▸ hz)

variable {x : Json} {p : Position} {tag : String}

theorem foreign_nil : x.Foreign [] tag ↔ x.ownForeign? = some tag := by
  constructor
  · rintro ⟨-, y, hy, htag⟩
    exact Option.some.inj hy ▸ htag
  · exact fun h => ⟨x.searched_nil, x, rfl, h⟩

theorem foreign_cons {s : Selector} :
    x.Foreign (s :: p) tag ↔ ¬x.IsRuntimeValue ∧ ∃ y, x.child? s = some y ∧ y.Foreign p tag := by
  constructor
  · rintro ⟨hsearched, z, hz, htag⟩
    obtain ⟨y, hy, hz⟩ := Option.bind_eq_some_iff.mp hz
    obtain ⟨hx, hsearched⟩ := (searched_cons hy).mp hsearched
    exact ⟨hx, y, hy, hsearched, z, hz, htag⟩
  · rintro ⟨hx, y, hy, hsearched, z, hz, htag⟩
    exact ⟨(searched_cons hy).mpr ⟨hx, hsearched⟩, z, Option.bind_eq_some_iff.mpr ⟨y, hy, hz⟩, htag⟩

/-- What is reported is the text that stands for the kind, or a text that is read back as it. -/
theorem Foreign.kind (h : x.Foreign p tag) : ∃ y kind, x.at? p = some y ∧
    y.get? "kind" = some kind ∧ (kind = .string tag ∨ ((∀ n ∈ kind.numbers, n.ReadsBack) →
      ∀ depth, read? depth tag = if kind.depth ≤ depth then some kind.sorted else none)) := by
  obtain ⟨-, y, hy, htag⟩ := h
  obtain ⟨kind, hkind, hname⟩ := Option.bind_eq_some_iff.mp htag
  refine ⟨y, kind, hy, hkind, ?_⟩
  cases kind with
  | string s =>
    obtain ⟨-, hs⟩ := Option.ite_none_right_eq_some.mp hname
    exact .inl (congrArg JsonTree.string (Option.some.inj hs))
  | null | bool | number | array | object =>
    exact .inr (Option.some.inj hname ▸ read?_compactText _)

theorem findSome?_items : (xs : JsonItems) →
    xs.foreignKind? = xs.itemList.findSome? fun x => x.foreignKind?
  | .nil => rfl
  | .cons x xs => by
    rw [foreignKind?, itemList, List.findSome?_cons, findSome?_items xs]
    cases x.foreignKind? <;> rfl

theorem findSome?_members : (ms : JsonMembers) →
    ms.foreignKind? = ms.memberList.findSome? fun m => m.2.foreignKind?
  | .empty => rfl
  | .member _ x rest => by
    rw [foreignKind?, memberList, List.findSome?_cons, findSome?_members rest]
    cases x.foreignKind? <;> rfl

private theorem findSome?_children_array (xs : JsonItems) :
    (JsonTree.array xs).children.findSome? (fun c => c.2.foreignKind?) = xs.foreignKind? := by
  have hitems : (JsonTree.array xs).children.map Prod.snd = xs.itemList := by
    rw [children, List.mapIdx_eq_zipIdx_map, List.map_map]
    exact List.zipIdx_map_fst 0 xs.itemList
  rw [findSome?_items, ← hitems, List.findSome?_map]
  rfl

private theorem findSome?_children_object (ms : JsonMembers) :
    (JsonTree.object ms).children.findSome? (fun c => c.2.foreignKind?) = ms.foreignKind? := by
  rw [findSome?_members, children, List.findSome?_map]
  rfl

/-- The search looks at an object itself, and then into its children one by one unless it is a
runtime value. -/
theorem foreignKind?_eq : (x : Json) → x.foreignKind? = x.ownForeign?.or
    (if x.IsRuntimeValue then none else x.children.findSome? fun c => c.2.foreignKind?)
  | .null | .bool _ | .number _ | .string _ => rfl
  | .array xs => by
    rw [findSome?_children_array]
    rfl
  | .object ms => by
    have hget : (JsonTree.object ms).get? "kind" = ms.memberList.lookup "kind" := rfl
    simp only [findSome?_children_object, foreignKind?, ownForeign?, IsRuntimeValue, hget]
    cases ms.memberList.lookup "kind" with
    | none => rfl
    | some x =>
      cases x with
      | string s =>
        cases hname : Kind.ofName? s with
        | none =>
          simp [foreignName?, hname]
        | some k =>
          have hvalue : s = Kind.value.name ↔ k = .value := by
            rw [← Named.name_of_find? hname]
            exact ⟨Kind.name_injective, fun h => h ▸ rfl⟩
          cases k <;> simp [foreignName?, hname, hvalue]
      | null | bool | number | array | object => rfl

/-- What the search finds is the first of what is foreign. -/
def Finds (x : Json) : Option String → Prop
  | none => ∀ p tag, ¬x.Foreign p tag
  | some tag => ∃ p, x.FirstForeign p tag

/-- Of the children of a value, the first in which something is found decides. -/
private theorem finds_children {x : Json} (h : x.Ascending) (hown : x.ownForeign? = none)
    (hvalue : ¬x.IsRuntimeValue) (ih : ∀ c ∈ x.children, c.2.Finds c.2.foreignKind?) :
    x.Finds (x.children.findSome? fun c => c.2.foreignKind?) := by
  have hnil (tag : String) : ¬x.Foreign [] tag := by
    rw [foreign_nil, hown]
    nofun
  cases hfind : x.children.findSome? fun c => c.2.foreignKind? with
  | none =>
    intro p tag hp
    cases p with
    | nil => exact hnil tag hp
    | cons s p =>
      obtain ⟨-, y, hy, hforeign⟩ := foreign_cons.mp hp
      have hmem := (child?_eq_some h).mp hy
      have hnone := List.findSome?_eq_none_iff.mp hfind (s, y) hmem
      have hfinds := ih (s, y) hmem
      rw [hnone] at hfinds
      exact hfinds p tag hforeign
  | some tag =>
    obtain ⟨before, ⟨s, y⟩, after, hchildren, hy, hbefore⟩ := List.findSome?_eq_some_iff.mp hfind
    have hmem : (s, y) ∈ x.children := by simp [hchildren]
    have hfinds := ih (s, y) hmem
    rw [hy] at hfinds
    obtain ⟨p, hforeign, hfirst⟩ := hfinds
    refine ⟨s :: p, foreign_cons.mpr ⟨hvalue, y, (child?_eq_some h).mpr hmem, hforeign⟩, ?_⟩
    intro q tag' hq
    cases q with
    | nil => exact absurd hq (hnil tag')
    | cons t q =>
      obtain ⟨-, z, hz, hforeign'⟩ := foreign_cons.mp hq
      have hzmem := (child?_eq_some h).mp hz
      have horder := pairwise_children h
      rw [hchildren] at hzmem horder
      obtain ⟨-, htail, -⟩ := List.pairwise_append.mp horder
      rcases List.mem_append.mp hzmem with hearlier | hlater
      · have hnone := hbefore (t, z) hearlier
        have hfinds := ih (t, z) (by simp [hchildren, hearlier])
        rw [hnone] at hfinds
        exact absurd hforeign' (hfinds q tag')
      · rcases List.mem_cons.mp hlater with heq | hlater
        · obtain ⟨rfl, rfl⟩ := Prod.mk.inj heq
          exact (hfirst q tag' hforeign').imp (congrArg (t :: ·)) List.Lex.cons
        · exact .inr (.rel ((List.pairwise_cons.mp htail).1 (t, z) hlater))

theorem finds_foreignKind? {x : Json} (h : x.Ascending) : x.Finds x.foreignKind? := by
  induction x using children_induction with
  | h x ih =>
    have hchildren : ∀ c ∈ x.children, c.2.Finds c.2.foreignKind? := fun c hc =>
      ih c hc (ascending_child h c hc)
    rw [foreignKind?_eq]
    cases hown : x.ownForeign? with
    | some tag =>
      refine ⟨[], foreign_nil.mpr hown, fun q _ _ => ?_⟩
      cases q with
      | nil => exact .inl rfl
      | cons s q => exact .inr .nil
    | none =>
      by_cases hvalue : x.IsRuntimeValue
      · rw [if_pos hvalue]
        intro p tag hp
        cases p with
        | nil => exact nomatch hown.symm.trans (foreign_nil.mp hp)
        | cons s p => exact (foreign_cons.mp hp).1 hvalue
      · rw [if_neg hvalue]
        exact finds_children h hown hvalue hchildren

theorem FirstForeign.unique {x : Json} {p q : Position} {tag tag' : String}
    (h : x.FirstForeign p tag) (h' : x.FirstForeign q tag') : tag = tag' := by
  have hpq : p = q := by
    rcases h.first q tag' h'.foreign with hqp | hpq
    · exact hqp.symm
    · rcases h'.first p tag h.foreign with hpq | hqp
      · exact hpq
      · exact absurd hqp (List.lt_asymm hpq)
  subst hpq
  obtain ⟨y, hy, htag⟩ := h.foreign.reported
  obtain ⟨z, hz, htag'⟩ := h'.foreign.reported
  obtain rfl := Option.some.inj (hy.symm.trans hz)
  exact Option.some.inj (htag.symm.trans htag')

theorem foreignKind?_eq_some {x : Json} (h : x.Ascending) {tag : String} :
    x.foreignKind? = some tag ↔ ∃ p, x.FirstForeign p tag := by
  have hfinds := finds_foreignKind? h
  constructor
  · intro htag
    rwa [htag] at hfinds
  · rintro ⟨p, hp⟩
    cases hx : x.foreignKind? with
    | none =>
      rw [hx] at hfinds
      exact absurd hp.foreign (hfinds p tag)
    | some tag' =>
      rw [hx] at hfinds
      obtain ⟨q, hq⟩ := hfinds
      rw [hq.unique hp]

private theorem ownForeign?_eq_none {x k : Json} (h : x.ownForeign? = none)
    (hk : x.get? "kind" = some k) : ∃ s, k = .string s := by
  rw [ownForeign?, hk, Option.bind_some] at h
  cases k with
  | string s => exact ⟨s, rfl⟩
  | null | bool | number | array | object => exact nomatch h

theorem foreignKind?_eq_none {x : Json} (h : x.foreignKind? = none) :
    x.ownForeign? = none ∧
      (¬x.IsRuntimeValue → ∀ c ∈ x.children, c.2.foreignKind? = none) := by
  rw [foreignKind?_eq, Option.or_eq_none_iff] at h
  refine ⟨h.1, fun hvalue => List.findSome?_eq_none_iff.mp ?_⟩
  rw [← h.2, if_neg hvalue]

/-- If something is found in one child only, then the search finds it. -/
private theorem findSome?_change {cs : List (Selector × Json)} {s : Selector} {z : Json}
    {f : Json → Json} {tag : String} (hmem : (s, z) ∈ cs) (hs : ∀ y, (s, y) ∈ cs → y = z)
    (hcs : ∀ c ∈ cs, c.2.foreignKind? = none) (hz : (f z).foreignKind? = some tag) :
    (change s f cs).findSome? (fun c => c.2.foreignKind?) = some tag := by
  have hall : ∀ c ∈ change s f cs, c.2.foreignKind? = none ∨ c.2.foreignKind? = some tag := by
    refine List.forall_mem_map.mpr fun c hc => ?_
    split
    next heq => exact .inr (by rw [hs c.2 (heq ▸ hc), hz])
    next => exact .inl (hcs c hc)
  have hchanged : (s, f z) ∈ change s f cs := List.mem_map.mpr ⟨(s, z), hmem, if_pos rfl⟩
  cases hfind : (change s f cs).findSome? fun c => c.2.foreignKind? with
  | none => exact nomatch (List.findSome?_eq_none_iff.mp hfind _ hchanged).symm.trans hz
  | some tag' =>
    obtain ⟨c, hc, htag⟩ := List.exists_of_findSome?_eq_some hfind
    rcases hall c hc with hnone | hsome
    · exact nomatch hnone.symm.trans htag
    · exact htag.symm.trans hsome

/-- If all kinds are known and one of them, which the search comes to, is changed to an unknown name,
then the search finds that name. -/
theorem foreignKind?_replace {x y k : Json} {p : Position} {name : String} (hx : x.Ascending)
    (hknown : x.foreignKind? = none) (hname : Kind.ofName? name = none) (hp : x.Searched p)
    (hy : x.at? p = some y) (hk : y.get? "kind" = some k) :
    (x.replace (p ++ [.key "kind"]) (.string name)).foreignKind? = some name := by
  induction p generalizing x with
  | nil =>
    obtain rfl := Option.some.inj hy
    have hget : (x.replace [.key "kind"] (.string name)).get? "kind" = some (.string name) := by
      rw [get?_eq_child?, child?_replace, if_pos rfl, ← get?_eq_child?, hk]
      rfl
    have hown : (x.replace [.key "kind"] (.string name)).ownForeign? = some name := by
      simp [ownForeign?, hget, foreignName?, hname]
    rw [List.nil_append, foreignKind?_eq, hown, Option.some_or]
  | cons s p ih =>
    obtain ⟨hown, hchildren⟩ := foreignKind?_eq_none hknown
    obtain ⟨z, hz, hy⟩ := Option.bind_eq_some_iff.mp hy
    obtain ⟨hvalue, hp⟩ := (searched_cons hz).mp hp
    have hmem := (child?_eq_some hx).mp hz
    have hfound : (z.replace (p ++ [.key "kind"]) (.string name)).foreignKind? = some name :=
      ih (ascending_child hx _ hmem) (hchildren hvalue _ hmem) hp hy
    -- The kind of the object itself is a text, so the search goes on elsewhere in it.
    have hother : .key "kind" ≠ s := by
      rintro rfl
      obtain ⟨t, rfl⟩ := ownForeign?_eq_none hown ((get?_eq_child? _ _).trans hz)
      cases p with
      | nil =>
        obtain rfl := Option.some.inj hy
        exact nomatch hk
      | cons => exact nomatch hy
    have hget : (x.replace (s :: (p ++ [.key "kind"])) (.string name)).get? "kind" =
        x.get? "kind" := by
      rw [get?_eq_child?, child?_replace, if_neg hother, ← get?_eq_child?]
    have hown' : (x.replace (s :: (p ++ [.key "kind"])) (.string name)).ownForeign? = none := by
      rw [ownForeign?, hget, ← ownForeign?, hown]
    have hvalue' : ¬(x.replace (s :: (p ++ [.key "kind"])) (.string name)).IsRuntimeValue :=
      fun h => hvalue (hget.symm.trans h)
    rw [List.cons_append, foreignKind?_eq, hown', Option.none_or, if_neg hvalue', children_replace]
    refine findSome?_change hmem (fun w hw => ?_) (hchildren hvalue) hfound
    exact Option.some.inj (((child?_eq_some hx).mpr hw).symm.trans hz)

structure Leads (x : Json) (p : Position) (y : Json) : Prop where
  at_eq : x.at? p = some y
  searched : x.Searched p

private theorem leads_nil (x : Json) : x.Leads [] x := ⟨rfl, x.searched_nil⟩

theorem Leads.cons {x y z : Json} {s : Selector} {p : Position} (h : z.Leads p y)
    (hvalue : ¬x.IsRuntimeValue) (hz : x.child? s = some z) : x.Leads (s :: p) y where
  at_eq := by rw [at?, hz, Option.bind_some, h.at_eq]
  searched := (searched_cons hz).mpr ⟨hvalue, h.searched⟩

end JsonTree

namespace Opening

open QueryTree.Tree (close inOrder)

/-- Where what fills an opening stands in what is written for the tree. -/
def position : {p : Part} → Opening p → Position
  | _, .here => []
  | _, .node _ C => C.position
  | _, .any C => C.position
  | _, .present C => C.position
  | _, .head C _ => .index 0 :: C.position
  | _, .tail _ C =>
    match C.position with
    | .index i :: p => .index (i + 1) :: p
    | p => p
  | _, .field (f := f) C _ => .key f.name :: C.position
  | _, .later _ C => C.position

variable {u : AnyNode}

/-- The position of an opening leads to what is written for the node that fills it. -/
def Leads (u : AnyNode) : {p : Part} → Opening p → Prop
  | .slot (.many _), C => ∃ i p x, C.position = .index i :: p ∧
      (C.fill u).written.sorted.itemList[i]? = some x ∧ x.Leads p u.toJson.sorted
  | .slot _, C => (close (C.fill u).written).sorted.Leads C.position u.toJson.sorted
  | .fields _, C => ∃ e ∈ (C.fill u).entries, ∃ p, C.position = .key e.field.name :: p ∧
      e.member.2.Leads p u.toJson.sorted

theorem leads_close : {s : Shape} → {C : Opening (.slot s)} → C.Leads u →
    (close (C.fill u).written).sorted.Leads C.position u.toJson.sorted
  | .many _, C, h => by
    obtain ⟨i, p, x, hposition, hx, hleads⟩ := h
    rw [hposition]
    exact hleads.cons (x := .array (C.fill u).written.sorted) nofun (JsonTree.child?_index hx)
  | .atom _, _, h | .node _, _, h | .any, _, h | .optional _, _, h => h

theorem leads_object {k : Kind} {C : Opening (.fields k.fields)} (h : C.Leads u) (tagged : Bool)
    (hvalue : ¬(JsonTree.object (inOrder tagged (C.fill u))).IsRuntimeValue) :
    (JsonTree.object (inOrder tagged (C.fill u))).Leads C.position u.toJson.sorted := by
  obtain ⟨e, he, p, hposition, hleads⟩ := h
  have hmem : e.member ∈ Tree.members tagged (C.fill u) :=
    Tree.mem_members.mpr (.inr ⟨e, he, rfl⟩)
  rw [hposition]
  refine hleads.cons hvalue ?_
  rw [← JsonTree.get?_eq_child?]
  exact Tree.lookup_inOrder hmem

theorem leads (u : AnyNode) : {p : Part} → (C : Opening p) → C.Leads u
  | _, .here => JsonTree.leads_nil _
  | _, .node k C => by
    have hvalue : ¬(JsonTree.object (inOrder false (C.fill u))).IsRuntimeValue := fun h =>
      nomatch (Tree.lookup_kind_inOrder (C.fill u)).symm.trans h
    show (close (Tree.node k (C.fill u)).written).sorted.Leads C.position u.toJson.sorted
    rw [Tree.sorted_node]
    exact leads_object (C.leads u) false hvalue
  | _, .any (.node k C) => by
    have hvalue : ¬(JsonTree.object (inOrder true (C.fill u))).IsRuntimeValue := fun h => by
      have hname := Option.some.inj ((Tree.lookup_tag_inOrder (C.fill u)).symm.trans h)
      exact (Opening.node k C).kind_ne_value (Kind.name_injective (JsonTree.string.inj hname))
    show (close (Tree.any (.node k (C.fill u))).written).sorted.Leads C.position u.toJson.sorted
    rw [Tree.sorted_any]
    exact leads_object (C.leads u) true hvalue
  | _, .present C => leads_close (C := C) (C.leads u)
  | _, .head C ts => ⟨0, C.position, _, rfl, rfl, leads_close (C.leads u)⟩
  | _, .tail t C => by
    obtain ⟨i, p, x, hposition, hx, hleads⟩ := C.leads u
    exact ⟨i + 1, p, x, by rw [position, hposition], hx, hleads⟩
  | _, .field (f := f) C rest =>
    ⟨⟨f, C.fill u⟩, List.mem_cons_self, C.position, rfl, leads_close (C.leads u)⟩
  | _, .later t C => by
    obtain ⟨e, he, p, hposition, hleads⟩ := C.leads u
    exact ⟨e, List.mem_cons_of_mem _ he, p, hposition, hleads⟩

end Opening

namespace Tree

theorem ofJson_eq_unknownKind {x : Json} {tag : String} :
    ofJson x = .error (.unknownKind tag) ↔ x.foreignKind? = Option.some tag := by
  rw [ofJson]
  cases x.foreignKind? with
  | some tag' => simp
  | none => cases ofKnownJson x <;> simp [Except.mapError]

/-- A value is refused for an unknown kind if and only if there is one in it that is not below a
runtime value, and the first of them is reported, whatever else is wrong: as the text that it is, or in
a text that is read back as it. In what is written for a tree there is none; if the kind of any one
node in it is changed to an unknown name, that name is reported. -/
theorem unknown_kinds_first :
    (∀ x : Json, x.Ascending →
      (∀ tag, ofJson x = .error (.unknownKind tag) ↔ ∃ p, x.FirstForeign p tag) ∧
      ((∃ tag, ofJson x = .error (.unknownKind tag)) ↔ ∃ p tag, x.Foreign p tag) ∧
      ∀ p tag, x.Foreign p tag → ∃ y kind, x.at? p = Option.some y ∧
        y.get? "kind" = Option.some kind ∧
        (kind = .string tag ∨ ((∀ n ∈ kind.numbers, n.ReadsBack) → ∀ depth,
          JsonTree.read? depth tag =
            if kind.depth ≤ depth then Option.some kind.sorted else Option.none))) ∧
    ∀ (C : Opening (.slot .any)) (u : AnyNode) (name : String), Kind.ofName? name = Option.none →
      (C.fill u).toJson.sorted.at? C.position = Option.some u.toJson.sorted ∧
      u.toJson.sorted.get? "kind" = Option.some (.string u.kind.name) ∧
      ofJson ((C.fill u).toJson.sorted.replace (C.position ++ [.key "kind"]) (.string name)) =
        .error (.unknownKind name) := by
  refine ⟨fun x hx => ?_, fun C u name hname => ?_⟩
  · have hiff (tag : String) : ofJson x = .error (.unknownKind tag) ↔ ∃ p, x.FirstForeign p tag :=
      ofJson_eq_unknownKind.trans (JsonTree.foreignKind?_eq_some hx)
    refine ⟨hiff, ⟨fun ⟨tag, h⟩ => ?_, fun ⟨p, tag, h⟩ => ?_⟩, fun p tag => JsonTree.Foreign.kind⟩
    · obtain ⟨p, hp⟩ := (hiff tag).mp h
      exact ⟨p, tag, hp.foreign⟩
    · have hfinds := JsonTree.finds_foreignKind? hx
      cases hfound : x.foreignKind? with
      | none =>
        rw [hfound] at hfinds
        exact absurd h (hfinds p tag)
      | some tag' => exact ⟨tag', ofJson_eq_unknownKind.mpr hfound⟩
  · obtain ⟨hat, hsearched⟩ := C.leads u
    have hkind : u.toJson.sorted.get? "kind" = Option.some (.string u.kind.name) := by
      match u with
      | .any (.node k fields) =>
        show (close (Tree.any (.node k fields)).written).sorted.get? "kind" = _
        rw [sorted_any]
        exact lookup_tag_inOrder fields
    exact ⟨hat, hkind, ofJson_eq_unknownKind.mpr (JsonTree.foreignKind?_replace
      (JsonTree.ascending_sorted _) ((C.fill u).namesKinds rfl) hname hsearched hat hkind)⟩

/-- A selection with members that it cannot have, in two of which there is an unknown kind. -/
def doubtful : Json :=
  .objectOf [("zebra", .arrayOf [.null, .objectOf [("kind", .string "Zebra")]]),
    ("kind", .string "SelectQuery"), ("from", .objectOf [("kind", .ofInt 7)])]

def inParens : Opening (.slot .any) := .any (.node .parens (.field .here .done))

theorem unknown_kinds_first_doubtful :
    (doubtful.sorted.Ascending ∧
      (∃ p, doubtful.sorted.FirstForeign p "7") ∧ ∃ p, doubtful.sorted.Foreign p "Zebra") ∧
    JsonTree.read? 0 "7" = Option.some (.ofInt 7) ∧
    Kind.ofName? "Nothing" = Option.none ∧
    ofJson ((inParens.fill (.any (.value .null))).toJson.sorted.replace
      [.key "node", .key "kind"] (.string "Nothing")) = .error (.unknownKind "Nothing") := by
  have hascending : doubtful.sorted.Ascending := JsonTree.ascending_sorted _
  have hname : Kind.ofName? "Nothing" = Option.none := by decide
  have hseven : doubtful.sorted.Foreign [.key "from"] "7" :=
    JsonTree.foreign_cons.mpr ⟨by decide +kernel, _, rfl, JsonTree.foreign_nil.mpr (by decide +kernel)⟩
  have hzebra : doubtful.sorted.Foreign [.key "zebra", .index 1] "Zebra" := by
    refine JsonTree.foreign_cons.mpr ⟨by decide +kernel, _, rfl, ?_⟩
    exact JsonTree.foreign_cons.mpr ⟨by decide +kernel, _, rfl,
      JsonTree.foreign_nil.mpr (by decide +kernel)⟩
  have hfrom : doubtful.sorted.at? [.key "from"] =
      Option.some (.objectOf [("kind", .ofInt 7)]) := by decide +kernel
  have hnumbers : ∀ n ∈ (JsonTree.ofInt 7).numbers, n.ReadsBack := by decide +kernel
  obtain ⟨hvalues, htrees⟩ := unknown_kinds_first
  obtain ⟨hfirst, -, hkinds⟩ := hvalues _ hascending
  have hread : JsonTree.read? 0 "7" = Option.some (.ofInt 7) := by
    obtain ⟨y, kind, hy, hkind, hread⟩ := hkinds _ _ hseven
    obtain rfl := Option.some.inj (hfrom.symm.trans hy)
    obtain rfl := Option.some.inj hkind
    exact hread.resolve_left nofun hnumbers 0
  exact ⟨⟨hascending, (hfirst "7").mp (by decide +kernel), _, hzebra⟩, hread, hname,
    (htrees inParens (.any (.value .null)) "Nothing" hname).2.2⟩

end Tree

end QueryTree
