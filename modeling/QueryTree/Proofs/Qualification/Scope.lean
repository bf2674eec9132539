import QueryTree.Proofs.Transformer.Run
import QueryTree.Qualification

/-!
# Scopes along a run

A statement is entered with its own names in scope and left with the names that were there before.
So the walk of any part of a tree ends in the scope in which it began.
-/
namespace QueryTree

open QueryTree.Qualification (commonTables onAny onNode targets transformer)

namespace Scope

variable {k : Kind}

/-- The targets of a statement that are not in scope around it. -/
def fresh (outer : Scope) (t : Node k) : List String :=
  outer.added (commonTables t ++ outer.ctes) (targets t)

def enter (outer : Scope) (t : Node k) : Scope :=
  ⟨outer.fresh t ++ outer.tables, commonTables t ++ outer.ctes⟩

/-- The scope after a statement, when the walk of what it holds ended in a scope `s`. -/
def leave (outer : Scope) (t : Node k) (s : Scope) : Scope :=
  ⟨s.tables.filter fun n => !(outer.fresh t).contains n, s.ctes.drop (commonTables t).length⟩

theorem mem_fresh {outer : Scope} {t : Node k} {n : String} :
    n ∈ outer.fresh t ↔ n ∈ targets t ∧ n ∉ outer.tables ∧ n ∉ commonTables t ++ outer.ctes := by
  rw [fresh, added, List.mem_filter, List.mem_eraseDups]
  simp

/-- What a statement brings into scope is none of what was there, so that it can be taken out
again. -/
theorem leave_enter (outer : Scope) (t : Node k) : outer.leave t (outer.enter t) = outer := by
  have hctes : (commonTables t ++ outer.ctes).drop (commonTables t).length = outer.ctes :=
    List.drop_left
  have htables : (outer.fresh t ++ outer.tables).filter (fun n => !(outer.fresh t).contains n) =
      outer.tables := by
    rw [List.filter_append, List.filter_eq_nil_iff.mpr, List.nil_append, List.filter_eq_self.mpr]
    · intro n hn
      have hold : n ∉ outer.fresh t := fun h => (mem_fresh.mp h).2.1 hn
      simpa using hold
    · intro n hn
      simpa using hn
  rw [leave, enter, htables, hctes]

end Scope

namespace Qualification

variable {schema : String} {k : Kind}

theorem run_root (hk : k.isRoot = true) (t : Node k) (s : Scope) :
    (transformer schema).run (.any t) s =
      (((transformer schema).run t (s.enter t)).1.map .any,
        s.leave t ((transformer schema).run t (s.enter t)).2) := by
  show onAny (.any t) _ s = _
  unfold onAny
  simp only [hk, if_true]
  rfl

theorem run_fragment (hk : k.isRoot = false) (t : Node k) (s : Scope) :
    (transformer schema).run (.any t) s =
      (((transformer schema).run t s).1.map .any, ((transformer schema).run t s).2) := by
  show onAny (.any t) _ s = _
  unfold onAny
  simp only [hk]
  rfl

theorem onNode_scope (t : Node k) (walk : StateM Scope (Change (.slot (.node k)))) (s : Scope)
    (h : (walk s).2 = s) : (onNode schema k t walk s).2 = s := by
  cases k
  case commonTableName => rfl
  all_goals exact h

/-- A run ends in the scope in which it began. -/
theorem run_scope {p : Part} (t : Tree p) (s : Scope) : ((transformer schema).run t s).2 = s := by
  induction t generalizing s with
  | atom x => rfl
  | node k fields ih => exact onNode_scope _ _ s (ih s)
  | @any k t ih =>
    cases hk : k.isRoot with
    | true =>
      rw [run_root hk, ih]
      exact s.leave_enter t
    | false =>
      rw [run_fragment hk]
      exact ih s
  | none => rfl
  | some t ih => exact ih s
  | nil => rfl
  | cons t ts iht ihts => rw [Transformer.run_cons, iht, ihts]
  | done => rfl
  | field t rest iht ihrest => rw [Transformer.run_field, iht, ihrest]

end Qualification

end QueryTree
