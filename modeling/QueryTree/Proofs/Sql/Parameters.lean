import QueryTree.Proofs.Sql.Template
import QueryTree.Proofs.Transformer.Run
import QueryTree.Expression
import QueryTree.Query.Select

/-!
# Parameters and the walk

A query is laid out by one traversal and walked by another. What the first binds is what the second
comes by: the parameters of a compiled query are the values that a transformer with a hook for values
sees on its walk, in the order in which it sees them.
-/
namespace QueryTree

theorem Output.parameters_addNode (d : Dialect) (o : Output) (t : AnyNode) (h : t.RawFits)
    (p : Place) :
    (o.addNode d .bind p t).parameters.toList = o.parameters.toList ++ t.allValues := by
  rw [addNode, addAll_bind, t.filterMap_value?_pieces h]
  exact Array.toList_append

namespace Transformer

variable {σ : Type}

/-- The transformer that has a hook for the nodes of values only, and keeps the values it sees. -/
def watching (hook : Node .value → StateM σ (Change (.slot (.node .value)))) :
    Transformer (List Value × σ) where
  onNode
    | .value, t, _ => fun s => ((hook t s.2).1, s.1 ++ [t.held], (hook t s.2).2)
    | _, _, walk => walk

variable (hook : Node .value → StateM σ (Change (.slot (.node .value))))

private theorem onNode_watching {k : Kind} (h : (Part.slot (.node k)).valueless = true) (t : Node k)
    (walk : StateM (List Value × σ) (Change (.slot (.node k)))) :
    (watching hook).onNode k t walk = walk := by
  cases k
  case value => exact absurd h (by decide)
  all_goals rfl

theorem run_watching_value (t : Node .value) (s : List Value × σ) :
    ((watching hook).run t s).2.1 = s.1 ++ t.allValues :=
  match t with
  | .value _ => rfl

/-- A walk sees every value of a tree once, from left to right, whatever the hook does. -/
theorem run_watching {p : Part} (hp : p.valueless = true) (t : Tree p) (s : List Value × σ) :
    ((watching hook).run t s).2.1 = s.1 ++ t.allValues := by
  induction t generalizing s with
  | atom x => rw [Tree.allValues, Tree.atomValues_of_valueless hp, List.append_nil]; rfl
  | node k fields ih =>
    rw [run_node, onNode_watching hook hp]
    exact ih (Kind.valueless_fields hp) s
  | @any k t ih =>
    by_cases hk : k = .value
    · subst hk
      exact run_watching_value hook t s
    · exact ih (bne_iff_ne.mpr hk) s
  | none => exact (List.append_nil _).symm
  | some t ih => exact ih hp s
  | nil => exact (List.append_nil _).symm
  | cons t ts iht ihts => rw [run_cons, ihts hp, iht hp, Tree.allValues, List.append_assoc]
  | done => exact (List.append_nil _).symm
  | field t rest iht ihrest =>
    obtain ⟨ht, hrest⟩ := Part.valueless_cons hp
    rw [run_field, ihrest hrest, iht ht, Tree.allValues, List.append_assoc]

end Transformer

namespace Statement

variable (s : Statement)

/-- The parameters of a query or of raw text are the values that a walk of it sees, which are the
values of the tree from left to right. No dialect has others. -/
theorem parameters_compile (h : s.Binds) (hraw : s.node.RawFits) :
    (∀ (d : Dialect) {σ : Type} (hook : Node .value → StateM σ (Change (.slot (.node .value))))
      (x : σ), (s.compile d).parameters.toList =
        ((Transformer.watching hook).run s.toNode ([], x)).2.1) ∧
    (∀ d, (s.compile d).parameters.toList = s.node.allValues) ∧
    ∀ d d', (s.compile d).parameters = (s.compile d').parameters := by
  have hlist (d : Dialect) : (s.compile d).parameters.toList = s.node.allValues := by
    rw [compile, valueMode_of_binds h, Output.parameters_addNode d _ s.toNode hraw]
    rfl
  refine ⟨fun d σ hook x => ?_, hlist, fun d d' => ?_⟩
  · rw [hlist, Transformer.run_watching hook rfl s.toNode]
    rfl
  · exact Array.toList_inj.mp ((hlist d).trans (hlist d').symm)

/-- A query that selects raw text with two values and filters by a query with a limit. -/
def rawAndInner : Statement where
  kind := .selectQuery
  node := Select.toNode
    { selections := .cons (.selection (.any (.raw ["nullif(", ", ", ")"]
        (.cons (Expression.value (.int 1)) (.cons (Expression.value (.int 2)) .nil))))) .nil
      filter := .some (.whereClause (.any (.binaryOperation (Expression.value (.bool true))
        (.operator .inList) (.any (Select.toNode
          { limit := .some (.limit (Expression.value (.int 4))) }))))) }
  isRoot := Eq.refl true

theorem parameters_compile_rawAndInner :
    (rawAndInner.Binds ∧ rawAndInner.node.RawFits) ∧
    ∀ d, (rawAndInner.compile d).parameters.toList = [.int 1, .int 2, .bool true, .int 4] :=
  ⟨⟨.inl rfl, by decide⟩, (parameters_compile rawAndInner (.inl rfl) (by decide)).2.1⟩

end Statement

end QueryTree
