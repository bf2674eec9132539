import QueryTree.Pipeline
import QueryTree.Proofs.Qualification.Scope

/-!
# Reuse of transformers and pipelines

A transformer that qualifies, and a pipeline whose stages qualify, can serve any number of trees.
What is in scope when a tree is done is what was in scope before it, so no answer depends on what was
asked before. A statement always comes out as one of its kind, hence qualifying it never fails.
-/
namespace QueryTree

universe u

/-- The answers to a row of questions that are put one after the other to something with a state. -/
def answersInTurn {σ : Type u} {α β : Type} (answer : α → σ → β × σ) : List α → σ → List β × σ
  | [], s => ([], s)
  | x :: xs, s =>
    let (b, s) := answer x s
    let (bs, s) := answersInTurn answer xs s
    (b :: bs, s)

/-- Answers that leave the state as it was do not depend on each other. -/
theorem answersInTurn_of_balanced {σ : Type u} {α β : Type} {answer : α → σ → β × σ} {s : σ}
    (h : ∀ x, (answer x s).2 = s) (xs : List α) :
    answersInTurn answer xs s = (xs.map fun x => (answer x s).1, s) := by
  induction xs with
  | nil => rfl
  | cons x xs ih =>
    show ((answer x s).1 :: (answersInTurn answer xs (answer x s).2).1,
      (answersInTurn answer xs (answer x s).2).2) = _
    rw [h x, ih, List.map_cons]

/-- The statement that comes out when a change is made to its node. -/
def Statement.after (q : Statement) : Change (.slot .any) → Except Error (Option Statement)
  | none => .ok none
  | some t =>
    if t.kind = q.kind then (Statement.ofNode t).map some else .error (.kindChanged q.kind t.kind)

theorem Transformer.statement_apply {σ : Type} (T : Transformer σ) (q : Statement) (s : σ) :
    T.statement q s = (q.after (T.run q.toNode s).1, (T.run q.toNode s).2) := by
  show (match (T.run q.toNode s).1 with | none => _ | some t => _ : StateM σ _) _ = _
  cases (T.run q.toNode s).1 with
  | none => rfl
  | some t =>
    show (if t.kind = q.kind then _ else _ : StateM σ _) _ = (if t.kind = q.kind then _ else _, _)
    split <;> rfl

namespace Qualification

variable (schema : String)

/-- A statement is qualified by qualifying its node with the statement's own names in scope. -/
theorem run_statement (q : Statement) (s : Scope) :
    (transformer schema).statement q s =
      (.ok (((transformer schema).run q.node (s.enter q.node)).1.map fun t => { q with node := t }),
        s) := by
  obtain ⟨k, t, hk⟩ := q
  have hrun : (transformer schema).run (.any t) s =
      (((transformer schema).run t (s.enter t)).1.map .any, s) := by
    rw [run_root hk, run_scope t, s.leave_enter t]
  rw [Transformer.statement_apply, Statement.toNode, hrun]
  cases ((transformer schema).run t (s.enter t)).1 with
  | none => rfl
  | some u =>
    show (if k = k then (Statement.ofNode (.any u)).map some else _, s) = _
    rw [if_pos rfl, Statement.ofNode, dif_pos hk]
    rfl

/-- What a transformer is asked for: to qualify a statement, or a node of any kind. -/
def answer : Statement ⊕ AnyNode →
    StateM Scope (Except Error (Option Statement) ⊕ Change (.slot .any))
  | .inl q => .inl <$> (transformer schema).statement q
  | .inr t => .inr <$> (transformer schema).run t

theorem answer_scope (s : Scope) (x : Statement ⊕ AnyNode) : (answer schema x s).2 = s := by
  cases x with
  | inl q => exact congrArg Prod.snd (run_statement schema q s)
  | inr t => exact run_scope t s

end Qualification

theorem Stage.run_withSchema (schema : String) (q : Statement) :
    (withSchema schema).run q =
      (((Qualification.transformer schema).statement q Scope.empty).1, withSchema schema) := by
  have hscope : ((Qualification.transformer schema).statement q Scope.empty).2 = Scope.empty :=
    congrArg Prod.snd (Qualification.run_statement schema q Scope.empty)
  show (_, { withSchema schema with
    state := ((Qualification.transformer schema).statement q Scope.empty).2 }) = _
  rw [hscope]
  rfl

/-- Stages that qualify are left as they were. -/
theorem runStages_withSchema (schemas : List String) (q : Statement) :
    (runStages (schemas.map Stage.withSchema) q).2 = schemas.map Stage.withSchema := by
  induction schemas generalizing q with
  | nil => rfl
  | cons schema schemas ih =>
    rw [List.map_cons, runStages, Stage.run_withSchema, Qualification.run_statement]
    cases ((Qualification.transformer schema).run q.node (Scope.empty.enter q.node)).1 with
    | none => exact congrArg (Stage.withSchema schema :: ·) (ih q)
    | some t => exact congrArg (Stage.withSchema schema :: ·) (ih { q with node := t })

namespace Pipeline

/-- What a pipeline is asked for: to transform a statement, or to compile it. -/
def answer : Statement ⊕ Statement → Pipeline →
    (Except Error (Option Statement) ⊕ Except Error Compiled) × Pipeline
  | .inl q, p => (p.transform q).map .inl id
  | .inr q, p => (p.compile q).map .inr id

variable (d : Dialect) (schemas : List String)

theorem transform_ofSchemas (q : Statement) :
    ((ofSchemas d schemas).transform q).2 = ofSchemas d schemas :=
  congrArg (Pipeline.mk d) (runStages_withSchema schemas q)

theorem answer_ofSchemas (x : Statement ⊕ Statement) :
    (answer x (ofSchemas d schemas)).2 = ofSchemas d schemas := by
  cases x <;> exact transform_ofSchemas d schemas _

end Pipeline

/-- The walk of any part of a tree ends in the scope in which it began, whatever that is, and no
statement fails. So each answer of a transformer, or of a pipeline of stages that qualify, is the one
that a new transformer or pipeline gives to the same question. -/
theorem answers_independent (schema : String) (d : Dialect) (schemas : List String) :
    (∀ (s : Scope) {p : Part} (t : Tree p), ((Qualification.transformer schema).run t s).2 = s) ∧
    (∀ (s : Scope) (q : Statement),
      ∃ r, ((Qualification.transformer schema).statement q s).1 = .ok r) ∧
    (∀ (s : Scope) (xs : List (Statement ⊕ AnyNode)),
      answersInTurn (Qualification.answer schema) xs s =
        (xs.map fun x => (Qualification.answer schema x s).1, s)) ∧
    ∀ xs : List (Statement ⊕ Statement),
      answersInTurn Pipeline.answer xs (Pipeline.ofSchemas d schemas) =
        (xs.map fun x => (Pipeline.answer x (Pipeline.ofSchemas d schemas)).1,
          Pipeline.ofSchemas d schemas) := by
  refine ⟨fun s _ t => Qualification.run_scope t s, fun s q => ?_, fun s xs => ?_, fun xs => ?_⟩
  · exact ⟨_, congrArg Prod.fst (Qualification.run_statement schema q s)⟩
  · exact answersInTurn_of_balanced (Qualification.answer_scope schema s) xs
  · exact answersInTurn_of_balanced (Pipeline.answer_ofSchemas d schemas) xs

end QueryTree
