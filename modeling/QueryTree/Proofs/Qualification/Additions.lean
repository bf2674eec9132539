import QueryTree.Proofs.Qualification.Lexical

/-!
# What qualification adds

Qualification hands back the very tree that it is given, or a new one. In a new tree more names are
led by the name of a schema than in the old one: the two hooks that make nodes do so only to write a
schema before a name that has none, and nothing ever loses its schema. So a new tree is never equal
to the old one, and a tree is kept if and only if the lexical rule leaves it as it is.
-/
namespace QueryTree

namespace Tree

/-- Whether a node is a name that is led by the name of a schema: one or none. -/
def ledBySchema : (k : Kind) → Tree (.fields k.fields) → Nat
  | .schemableIdentifier, .field schema _ => schema.toOption.elim 0 fun _ => 1
  | _, _ => 0

/-- How many names in a part of a tree are led by the name of a schema. -/
def schemaCount : {p : Part} → Tree p → Nat
  | _, .atom _ => 0
  | _, .node k fields => ledBySchema k fields + fields.schemaCount
  | _, .any t => t.schemaCount
  | _, .none => 0
  | _, .some t => t.schemaCount
  | _, .nil => 0
  | _, .cons t ts => t.schemaCount + ts.schemaCount
  | _, .done => 0
  | _, .field t rest => t.schemaCount + rest.schemaCount

end Tree

namespace Change

variable {p q r : Part}

/-- If there is a new tree, it has more schemas than the old one. -/
def AddsSchemas (a : Change p) (t : Tree p) : Prop := ∀ u ∈ a, t.schemaCount < u.schemaCount

namespace AddsSchemas

theorem none (t : Tree p) : AddsSchemas Option.none t := nofun

theorem some {t u : Tree p} (h : t.schemaCount < u.schemaCount) :
    AddsSchemas (Option.some u) t := fun _ hu => Option.some.inj hu ▸ h

theorem le_apply {a : Change p} {t : Tree p} (h : AddsSchemas a t) :
    t.schemaCount ≤ (a.apply t).schemaCount := by
  cases a with
  | none => exact Nat.le_refl _
  | some u => exact Nat.le_of_lt (h u rfl)

/-- A tree that is put around a new one adds what the new one adds. -/
theorem map {a : Change p} {t : Tree p} (h : AddsSchemas a t) {make : Tree p → Tree q} {n : Nat}
    (hmake : ∀ u, (make u).schemaCount = n + u.schemaCount) :
    AddsSchemas (a.map make) (make t) := by
  cases a with
  | none => exact .none _
  | some u =>
    refine .some ?_
    rw [hmake, hmake]
    exact Nat.add_lt_add_left (h u rfl) n

theorem both {a : Change p} {b : Change q} {t : Tree p} {u : Tree q} (ha : AddsSchemas a t)
    (hb : AddsSchemas b u) {make : Tree p → Tree q → Tree r}
    (hmake : ∀ t u, (make t u).schemaCount = t.schemaCount + u.schemaCount) :
    AddsSchemas (Change.both make t u a b) (make t u) := by
  intro v hv
  have hcount : v.schemaCount = (a.apply t).schemaCount + (b.apply u).schemaCount := by
    have happly := apply_both make t u a b
    rw [hv] at happly
    rw [← hmake, ← happly]
    rfl
  have hgrows : t.schemaCount < (a.apply t).schemaCount ∨
      u.schemaCount < (b.apply u).schemaCount := by
    cases a with
    | some t' => exact .inl (ha t' rfl)
    | none =>
      cases b with
      | some u' => exact .inr (hb u' rfl)
      | none => cases hv
  have hleft := ha.le_apply
  have hright := hb.le_apply
  rw [hcount, hmake]
  omega

end AddsSchemas

/-- A change that adds schemas keeps the old tree if and only if it leaves it as it is. -/
theorem AddsSchemas.eq_none_iff {a : Change p} {t : Tree p} (h : AddsSchemas a t) :
    a = Option.none ↔ a.apply t = t := by
  cases a with
  | none => exact ⟨fun _ => rfl, fun _ => rfl⟩
  | some u =>
    refine ⟨nofun, fun heq => ?_⟩
    have hlt := h u rfl
    have hu : u = t := heq
    rw [hu] at hlt
    exact absurd hlt (Nat.lt_irrefl _)

end Change

namespace Qualification

open Change (AddsSchemas)

variable {schema : String} {s : Scope} {k : Kind}

private theorem addsSchemas_qualifyName (t : Node .schemableIdentifier) :
    AddsSchemas (qualifyName schema s t) t := by
  match t with
  | .schemableIdentifier .none (.identifier n) =>
    show AddsSchemas (if s.qualifies n then _ else _) _
    split
    · exact .some (Nat.lt_succ_self 0)
    · exact .none _
  | .schemableIdentifier (.some _) (.identifier _) => exact .none _

private theorem addsSchemas_qualifyReferences (t : Node .references) :
    AddsSchemas (qualifyReferences schema t) t := by
  match t with
  | .references (.table (.schemableIdentifier .none (.identifier _))) columns action =>
    refine .some ?_
    simp [Tree.schemaCount, Tree.ledBySchema, Tree.toOption]
  | .references (.table (.schemableIdentifier (.some _) _)) _ _ => exact .none _

/-- The hook for foreign keys sees what the walk has made of one, and adds to that. -/
theorem addsSchemas_references {t : Node .references} {a : Change (.slot (.node .references))}
    (h : AddsSchemas a t) : AddsSchemas ((qualifyReferences schema (a.apply t)).or a) t := by
  cases hq : qualifyReferences schema (a.apply t) with
  | none => exact h
  | some u =>
    have hlt := addsSchemas_qualifyReferences (a.apply t) u hq
    exact .some (Nat.lt_of_le_of_lt h.le_apply hlt)

theorem addsSchemas_node (fields : Tree (.fields k.fields))
    (ih : AddsSchemas ((transformer schema).run fields s).1 fields) :
    AddsSchemas ((transformer schema).run (.node k fields) s).1 (.node k fields) := by
  have hwalk (hk : ∀ fs, Tree.ledBySchema k fs = 0) :
      AddsSchemas (((transformer schema).run fields s).1.map (Tree.node k)) (.node k fields) :=
    ih.map (n := 0) fun fs => by rw [Tree.schemaCount, hk]
  cases k
  case schemableIdentifier =>
    rw [Transformer.run_node]
    show AddsSchemas ((qualifyName schema _ (Change.apply (Option.map _ _) _)).or
      (Option.map _ _)) _
    rw [run_scope, run_name]
    show AddsSchemas ((qualifyName schema s _).or none) _
    rw [Option.or_none]
    exact addsSchemas_qualifyName _
  case references => exact addsSchemas_references (hwalk fun _ => rfl)
  case commonTableName => exact .none _
  all_goals exact hwalk fun _ => rfl

/-- Whatever is in scope, a new tree has more schemas than the old one. -/
theorem addsSchemas_run {p : Part} (t : Tree p) (s : Scope) :
    AddsSchemas ((transformer schema).run t s).1 t := by
  induction t generalizing s with
  | atom x => exact .none _
  | node k fields ih => exact addsSchemas_node fields (ih s)
  | @any k t ih =>
    have hany (s : Scope) : AddsSchemas (((transformer schema).run t s).1.map .any) (.any t) :=
      (ih s).map (n := 0) fun u => (Nat.zero_add _).symm
    cases hk : k.isRoot with
    | true =>
      rw [run_root hk]
      exact hany _
    | false =>
      rw [run_fragment hk]
      exact hany s
  | none => exact .none _
  | some t ih => exact (ih s).map (n := 0) fun u => (Nat.zero_add _).symm
  | nil => exact .none _
  | cons t ts iht ihts =>
    rw [Transformer.run_cons]
    exact (iht s).both (ihts _) fun _ _ => rfl
  | done => exact .none _
  | field t rest iht ihrest =>
    rw [Transformer.run_field]
    exact (iht s).both (ihrest _) fun _ _ => rfl

/-- A part of a tree is handed back as the very tree it is if and only if it comes out equal to what
it was, whatever is in scope around it. A tree of its own is kept if and only if the lexical rule
leaves it as it is, so that no schema is missing in what is kept, and every new tree has more schemas
than the one in the place of which it stands. -/
theorem keeps_iff_unchanged (schema : String) :
    (∀ {p : Part} (t : Tree p) (s : Scope),
      ((transformer schema).run t s).1 = none ↔
        Change.apply ((transformer schema).run t s).1 t = t) ∧
    (∀ t : AnyNode, qualify schema t = none ↔ lexical schema [] t = t) ∧
    ∀ {p : Part} (t u : Tree p) (s : Scope),
      ((transformer schema).run t s).1 = some u → t.schemaCount < u.schemaCount := by
  refine ⟨fun t s => (addsSchemas_run t s).eq_none_iff, fun t => ?_,
    fun t u s hu => addsSchemas_run t s u hu⟩
  rw [← apply_qualify]
  exact (addsSchemas_run t Scope.empty).eq_none_iff

end Qualification

end QueryTree
