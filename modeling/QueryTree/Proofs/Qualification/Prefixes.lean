import QueryTree.Proofs.Qualification.Idempotence
import QueryTree.Proofs.Sql.Outline

/-!
# What qualification changes in the SQL

Qualification writes one text, the quoted schema and a dot, before some of the names that have no
schema of their own, and changes nothing else. For this the lexical rule is seen as one of many
choices of schemas for such names. All of them, among them the choice of none, are written from one
outline, so the SQL before and after qualification differs only where the choices do.
-/
namespace QueryTree

namespace Qualification

/-- A name that has no schema, with the one that is chosen for it. -/
def chooseFor (c : SchemaChoice) (mark : String → Bool) :
    Node .schemableIdentifier → Node .schemableIdentifier
  | .schemableIdentifier .none (.identifier n) =>
    .schemableIdentifier (.ofOption ((c n (mark n)).map .identifier)) (.identifier n)
  | .schemableIdentifier (.some s) name => .schemableIdentifier (.some s) name

/-- The rule for a node, from the node as it was and the node with its fields rewritten. -/
def chooseNode (c : SchemaChoice) (enclosing : List AnyNode) :
    (k : Kind) → (old new : Node k) → Node k
  | .schemableIdentifier, old, _ => chooseFor c (fun n => decide (StandsForTable enclosing n)) old
  | .references, .references (.table name) _ _, .references _ columns action =>
    .references (.table (chooseFor c (fun _ => true) name)) columns action
  | .commonTableName, .commonTableName (.table name) columns, _ =>
    .commonTableName (.table (chooseFor c (fun _ => false) name)) columns
  | _, _, new => new

/-- The tree in which every name without a schema has the one that is chosen for it. A name is marked
if it stands for a table by the lexical rule. -/
def choose (c : SchemaChoice) : (enclosing : List AnyNode) → {p : Part} → Tree p → Tree p
  | _, _, .atom x => .atom x
  | e, _, .node k fields => chooseNode c e k (.node k fields) (.node k (choose c e fields))
  | e, _, .any (k := k) t => .any (choose c (if k.isRoot then .any t :: e else e) t)
  | _, _, .none => .none
  | e, _, .some t => .some (choose c e t)
  | _, _, .nil => .nil
  | e, _, .cons t ts => .cons (choose c e t) (choose c e ts)
  | _, _, .done => .done
  | e, _, .field t rest => .field (choose c e t) (choose c e rest)

def noSchemas : SchemaChoice := fun _ _ => none

def forTables (schema : String) : SchemaChoice := fun _ table => if table then some schema else none

variable {k : Kind} {e : List AnyNode} {schema : String} {mark : String → Bool}

theorem chooseFor_noSchemas : (t : Node .schemableIdentifier) → chooseFor noSchemas mark t = t
  | .schemableIdentifier .none (.identifier _) => rfl
  | .schemableIdentifier (.some _) _ => rfl

private theorem chooseNode_noSchemas (t : Node k) : chooseNode noSchemas e k t t = t := by
  cases k
  case schemableIdentifier => exact chooseFor_noSchemas t
  case references =>
    match t with
    | .references (.table name) columns action =>
      show Tree.references (.table (chooseFor _ _ name)) columns action = _
      rw [chooseFor_noSchemas]
  case commonTableName =>
    match t with
    | .commonTableName (.table name) columns =>
      show Tree.commonTableName (.table (chooseFor _ _ name)) columns = _
      rw [chooseFor_noSchemas]
  all_goals rfl

theorem choose_noSchemas {p : Part} (t : Tree p) : choose noSchemas e t = t := by
  induction t generalizing e with
  | atom x => rfl
  | node k fields ih => rw [choose, ih, chooseNode_noSchemas]
  | any t ih => exact congrArg Tree.any ih
  | none => rfl
  | some t ih => exact congrArg Tree.some ih
  | nil => rfl
  | cons t ts iht ihts => rw [choose, iht, ihts]
  | done => rfl
  | field t rest iht ihrest => rw [choose, iht, ihrest]

theorem chooseFor_forTables (t : Node .schemableIdentifier) :
    chooseFor (forTables schema) mark t =
      if mark (Tree.bareName t) then withSchema schema t else t := by
  match t with
  | .schemableIdentifier .none (.identifier n) =>
    show Tree.schemableIdentifier (.ofOption (Option.map _ (if mark n then _ else _))) _ =
      if mark n then _ else _
    split <;> rfl
  | .schemableIdentifier (.some _) (.identifier n) => exact (ite_self _).symm

theorem withSchema_lexical (t : Node .schemableIdentifier) :
    withSchema schema (lexical schema e t) = withSchema schema t := by
  match t with
  | .schemableIdentifier .none (.identifier n) =>
    show withSchema schema (if StandsForTable e n then _ else _) = _
    split <;> rfl
  | .schemableIdentifier (.some _) (.identifier _) => exact congrArg _ (ite_self _)

private theorem chooseReferences_forTables (fields : Tree (.fields (Kind.fields .references))) :
    chooseNode (forTables schema) e .references (.node _ fields)
        (.node _ (lexical schema e fields)) =
      referTo schema (.node _ (lexical schema e fields)) := by
  match fields with
  | .field (.table name) (.field columns (.field (.atom action) .done)) =>
    show Tree.references (.table (chooseFor _ _ name)) (lexical schema e columns) action =
      .references (.table (withSchema schema (lexical schema e name))) (lexical schema e columns)
        action
    rw [chooseFor_forTables, withSchema_lexical]
    rfl

private theorem chooseCommonTableName_forTables
    (fields : Tree (.fields (Kind.fields .commonTableName))) :
    chooseNode (forTables schema) e .commonTableName (.node _ fields)
      (.node _ (lexical schema e fields)) = .node _ fields := by
  match fields with
  | .field (.table name) (.field columns .done) =>
    show Tree.commonTableName (.table (chooseFor _ _ name)) columns = _
    rw [chooseFor_forTables]
    rfl

private theorem chooseNode_forTables (fields : Tree (.fields k.fields))
    (ih : choose (forTables schema) e fields = lexical schema e fields) :
    choose (forTables schema) e (.node k fields) = lexical schema e (.node k fields) := by
  rw [choose, lexical, ih]
  cases k
  case schemableIdentifier =>
    refine (chooseFor_forTables _).trans ?_
    simp only [decide_eq_true_eq]
    rfl
  case references => exact chooseReferences_forTables fields
  case commonTableName => exact chooseCommonTableName_forTables fields
  all_goals rfl

/-- The lexical rule chooses its schema for the names that stand for tables. -/
theorem choose_forTables {p : Part} (t : Tree p) :
    choose (forTables schema) e t = lexical schema e t := by
  induction t generalizing e with
  | atom x => rfl
  | node k fields ih => exact chooseNode_forTables fields ih
  | any t ih => exact congrArg Tree.any ih
  | none => rfl
  | some t ih => exact congrArg Tree.some ih
  | nil => rfl
  | cons t ts iht ihts => rw [choose, lexical, iht, ihts]
  | done => rfl
  | field t rest iht ihrest => rw [choose, lexical, iht, ihrest]

theorem drafted_chooseFor : (t : Node .schemableIdentifier) →
    DraftedName fun c => (chooseFor c mark t).view
  | .schemableIdentifier .none (.identifier n) => by
    have hview (c : SchemaChoice) : (chooseFor c mark
        (.schemableIdentifier .none (.identifier n))).view = ⟨c n (mark n), n⟩ := by
      show ObjectName.mk (Tree.view (Tree.ofOption (Option.map Tree.identifier _))) n = _
      cases c n (mark n) <;> rfl
    rw [funext hview]
    exact .chosen n (mark n)
  | .schemableIdentifier (.some s) name => .fixed _

private theorem drafted_chooseNode (fields : Tree (.fields k.fields))
    (ih : FieldsDrafted k.fields fun c => (choose c e fields).view) :
    k.form.Drafted fun c => (choose c e (.node k fields)).view := by
  cases k
  case schemableIdentifier => exact drafted_chooseFor _
  case references =>
    match fields with
    | .field (.table name) (.field columns (.field (.atom action) .done)) =>
      exact layout_drafted .references (.cons (drafted_chooseFor name) ih.rest)
  case commonTableName =>
    match fields with
    | .field (.table name) (.field columns .done) =>
      have hcolumns : DraftedList Fixed fun _ => columns.view := .of_fixed .mk columns.view
      exact layout_drafted .commonTableName (.cons (drafted_chooseFor name) (.cons hcolumns .nil))
  all_goals exact layout_drafted _ ih

theorem drafted_choose {p : Part} (t : Tree p) : PartDrafted p fun c => (choose c e t).view := by
  induction t generalizing e with
  | atom x => exact ⟨x⟩
  | node k fields ih => exact drafted_chooseNode fields ih
  | @any k t ih => exact k.form.drafted_toSql ih
  | none => exact .none
  | some t ih => exact .some ih
  | nil => exact .nil
  | cons t ts iht ihts => exact .cons iht ihts
  | done => exact .nil
  | field t rest iht ihrest => exact .cons iht ihrest

/-- The statement in which every name without a schema has the one that is chosen for it. -/
def chosen (c : SchemaChoice) (q : Statement) : Statement :=
  { q with node := choose c [q.toNode] q.node }

/-- Whatever schemas are chosen, a statement is written as one outline with the same parameters. -/
theorem compile_chosen (d : Dialect) (q : Statement) :
    ∃ (o : Outline) (parameters : Array Value), ∀ c,
      (chosen c q).compile d = ⟨o.text d c, parameters⟩ := by
  have hsql : Drafted fun c => Layout.sql q.kind (choose c [q.toNode] q.node).view :=
    q.kind.form.drafted_toSql (drafted_choose q.node)
  obtain ⟨draft, hdraft⟩ := hsql .bare
  obtain ⟨o, parameters, ho⟩ := Output.addAll_draft d q.valueMode draft
  refine ⟨o, parameters, fun c => ?_⟩
  rw [← ho, ← hdraft]
  rfl

/-- A statement that is qualified has the parameters that it had before, and its SQL differs from the
SQL before only in that the quoted schema and a dot stand before some names that had no schema. Where
such names stand is told by the outline `o`: with any schemas that are chosen for them the statement
is written as `o` with these schemas, and qualification chooses its own for the names that stand for
tables. -/
theorem only_prefixes (schema : String) (d : Dialect) (q : Statement) :
    ∃ r, ((transformer schema).statement q Scope.empty).1 = .ok r ∧
      ((r.getD q).compile d).parameters = (q.compile d).parameters ∧
      ∃ o : Outline,
        (∀ c, ((chosen c q).compile d).sql = o.text d c) ∧
        (q.compile d).sql = o.text d noSchemas ∧
        ((r.getD q).compile d).sql = o.text d (forTables schema) := by
  obtain ⟨o, parameters, ho⟩ := compile_chosen d q
  have hold : q.compile d = ⟨o.text d noSchemas, parameters⟩ := by
    rw [← ho, chosen, choose_noSchemas]
  have hnew : (qualified schema q).compile d = ⟨o.text d (forTables schema), parameters⟩ := by
    rw [← ho, chosen, choose_forTables]
    rfl
  refine ⟨_, congrArg Prod.fst (run_statement schema q Scope.empty), ?_, o, ?_, ?_, ?_⟩
  · rw [getD_run, hold, hnew]
  · intro c
    rw [ho]
  · rw [hold]
  · rw [getD_run, hnew]

end Qualification

end QueryTree
