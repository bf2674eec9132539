import QueryTree.Expression
import QueryTree.Proofs.Timestamp
import QueryTree.Proofs.Tree.Loading
import QueryTree.Proofs.Tree.UnknownKinds

/-!
# Which JSON values are expressions

A value that comes as JSON is taken for an expression if it is an object that names a kind and loads
as a node; the node is then of that kind. Of all that can be wrong with it only an unknown kind is
told apart, since that is what a newer producer writes. A node under another name needs the two
members that the test for it asks for anyway, so the test refuses nothing that would load.

A node that is written down is taken for itself unless it holds a point in time that no text stands
for: a leap second that does not end a minute is written as the second after it.
-/
namespace QueryTree

namespace Entry

variable {f : Field} {fs : List Field}

end Entry

namespace Tree

variable {k : Kind}

end Tree

/-- A value is an object that names its kind by a text. -/
def JsonTree.HasKind (x : Json) (name : String) : Prop :=
  ∃ ms, x = .object ms ∧ ms.memberList.lookup "kind" = some (.string name)

namespace Tree

end Tree

/-- Floating-point numbers are finite, and JSON values keep their members in order. -/
def Value.IsFinite : Value → Prop
  | .float x => x.isFinite = true
  | .json x => x.sorted = x
  | .null | .bool _ | .int _ | .string _ | .bytes _ | .uuid _ | .timestamp _ => True

/-- Points in time are those that a text is read as. -/
def Value.IsRead : Value → Prop
  | .timestamp d => ∃ s, Timestamp.read? s = some d
  | .null | .bool _ | .int _ | .float _ | .string _ | .bytes _ | .uuid _ | .json _ => True

instance : (v : Value) → Decidable v.IsFinite
  | .float x => inferInstanceAs (Decidable (x.isFinite = true))
  | .json x => inferInstanceAs (Decidable (x.sorted = x))
  | .null | .bool _ | .int _ | .string _ | .bytes _ | .uuid _ | .timestamp _ => isTrue trivial

instance : (v : Value) → Decidable v.IsRead
  | .timestamp _ => decidable_of_iff _ Timestamp.isProper_iff
  | .null | .bool _ | .int _ | .float _ | .string _ | .bytes _ | .uuid _ | .json _ => isTrue trivial

private theorem Value.IsFinite.regular {v : Value} (h : v.IsFinite) (hread : v.IsRead) :
    v.Regular := by
  cases v with
  | timestamp d => exact Timestamp.read?_textWith (Timestamp.isProper_iff.mpr hread)
  | float x => exact h
  | json x => exact h
  | null | bool b | int n | string s | bytes bs | uuid u => trivial

private theorem Value.isRead_of_payload? {s : String} {x : Json} {v : Value}
    (h : payload? s x = some v) : v.IsRead := by
  revert h
  fun_cases payload? s x with
  | case8 s =>
    -- the only values that are asked for anything are those under `Timestamp`
    intro h
    obtain ⟨d, hd, rfl⟩ := Option.map_eq_some_iff.mp h
    exact ⟨s, hd⟩
  | case6 | case7 =>
    intro h
    obtain ⟨_, _, rfl⟩ := Option.map_eq_some_iff.mp h
    trivial
  | case1 | case2 | case4 | case5 | case9 =>
    intro h
    obtain rfl := Option.some.inj h
    trivial
  | case3 | case10 => nofun

/-- A value that is read from JSON has its point in time from a text. -/
theorem Value.isRead_of_ofJson {insideTree : Bool} {x : Json} {v : Value}
    (h : ofJson insideTree x = .ok v) : v.IsRead := by
  revert h
  fun_cases ofJson insideTree x with
  | case1 | case4 =>
    intro h
    obtain rfl := Except.ok.inj h
    trivial
  | case6 s x _ _ u hpayload =>
    intro h
    obtain rfl := Except.ok.inj h
    exact isRead_of_payload? hpayload
  | case2 | case3 | case5 | case7 | case8 | case9 => nofun

namespace Expression

variable {x : Json} {t : AnyNode}

theorem kindText?_eq_some {name : String} : kindText? x = some name ↔ x.HasKind name := by
  cases x with
  | object ms =>
    have hget : (JsonTree.object ms).get? "kind" = ms.memberList.lookup "kind" := rfl
    rw [kindText?, hget]
    constructor
    · intro h
      refine ⟨ms, rfl, ?_⟩
      split at h
      next s hkind => exact Option.some.inj h ▸ hkind
      next => exact nomatch h
    · rintro ⟨ms', heq, hkind⟩
      obtain rfl := JsonTree.object.inj heq
      rw [hkind]
  | null | bool | number | string | array => exact ⟨nofun, fun ⟨_, h, _⟩ => nomatch h⟩

theorem isNodeLike_iff : isNodeLike x = true ↔ ∃ name, x.HasKind name := by
  rw [isNodeLike, Option.isSome_iff_exists]
  exact exists_congr fun _ => kindText?_eq_some

/-- What becomes of a value, in the three ways there are. -/
inductive Classified (x : Json) : Except Error AnyNode → Prop
  | node {t : AnyNode} (named : ∃ name, x.HasKind name) (loads : Tree.ofJson x = .ok t) :
      Classified x (.ok t)
  | unknown {tag : String} (named : ∃ name, x.HasKind name) (foreign : x.foreignKind? = some tag) :
      Classified x (.error (.unknownKind tag))
  | invalid (other : (∃ name, x.HasKind name) →
      x.foreignKind? = none ∧ ∀ t, Tree.ofJson x ≠ .ok t) :
      Classified x (.error (.invalidExpression x.compactText))

/-- What is classified as a result has that result. -/
theorem Classified.ofJson_eq {r : Except Error AnyNode} (h : Classified x r) : ofJson x = r := by
  cases h with
  | node named loads => rw [ofJson, if_pos (isNodeLike_iff.mpr named), loads]
  | unknown named foreign =>
    rw [ofJson, if_pos (isNodeLike_iff.mpr named), Tree.ofJson_eq_unknownKind.mpr foreign]
  | invalid other =>
    by_cases hlike : isNodeLike x = true
    · obtain ⟨hforeign, hload⟩ := other (isNodeLike_iff.mp hlike)
      rw [ofJson, if_pos hlike]
      cases hread : Tree.ofJson x with
      | ok t => exact absurd hread (hload t)
      | error e =>
        cases e with
        | unknownKind tag => exact nomatch hforeign.symm.trans (Tree.ofJson_eq_unknownKind.mp hread)
        | _ => rfl
    · rw [ofJson, if_neg hlike]
      rfl

/-- Every value is classified. -/
theorem exists_classified (x : Json) : ∃ r, Classified x r := by
  by_cases named : ∃ name, x.HasKind name
  · cases foreign : x.foreignKind? with
    | some tag => exact ⟨_, .unknown named foreign⟩
    | none =>
      cases loads : Tree.ofJson x with
      | ok t => exact ⟨_, .node named loads⟩
      | error e => exact ⟨_, .invalid fun _ => ⟨foreign, fun t ht => nomatch loads.symm.trans ht⟩⟩
  · exact ⟨_, .invalid fun h => absurd h named⟩

theorem ofJson_eq_iff {r : Except Error AnyNode} : ofJson x = r ↔ Classified x r := by
  constructor
  · intro h
    obtain ⟨r', hr⟩ := exists_classified x
    rwa [← h, hr.ofJson_eq]
  · exact Classified.ofJson_eq

theorem ofJson_eq_ok : ofJson x = .ok t ↔ (∃ name, x.HasKind name) ∧ Tree.ofJson x = .ok t := by
  rw [ofJson_eq_iff]
  constructor
  · rintro ⟨named, loads⟩
    exact ⟨named, loads⟩
  · rintro ⟨named, loads⟩
    exact .node named loads

theorem ofJson_sorted_toJson (hraw : t.RawFits) (hfinite : ∀ v ∈ t.allValues, v.IsFinite) :
    ofJson t.toJson.sorted = .ok t ↔ ∀ v ∈ t.allValues, v.IsRead := by
  constructor
  · intro h
    exact (Tree.fits_of_ofJson (fun _ _ => Value.isRead_of_ofJson) (ofJson_eq_ok.mp h).2).values
  · intro hread
    have hload : Tree.ofJson t.toJson.sorted = .ok t :=
      Tree.ofJson_sorted_toJson hraw fun v hv => (hfinite v hv).regular (hread v hv)
    refine ofJson_eq_ok.mpr ⟨⟨t.kind.name, ?_⟩, hload⟩
    match t with
    | .any (.node k fields) =>
      exact ⟨_, Tree.sorted_any fields, Tree.lookup_tag_inOrder fields⟩

end Expression

end QueryTree
