import QueryTree.Proofs.Qualification.Lexical
import QueryTree.Proofs.Qualification.Reuse

/-!
# Qualifying twice

Statements are told which names they have to qualify by bare names alone, and qualification changes
no bare name. So a second run enters the same scopes as the first. Every name to which it comes there
either has a schema by now or was left bare by the lexical rule, and it is left bare again.
-/
namespace QueryTree

namespace Qualification

open QueryTree.Tree (bareName tableName)

variable {schema : String} {e : List AnyNode} {k : Kind}

@[simp] theorem bareName_lexical (t : Node .schemableIdentifier) :
    bareName (lexical schema e t) = bareName t := by
  match t with
  | .schemableIdentifier .none (.identifier n) =>
    show bareName (if _ then _ else _) = _
    split <;> rfl
  | .schemableIdentifier (.some _) (.identifier n) =>
    show bareName (if _ then _ else _) = _
    split <;> rfl

@[simp] theorem tableName_lexical (t : Node .table) :
    tableName (lexical schema e t) = tableName t :=
  match t with
  | .table name => bareName_lexical name

@[simp] theorem toList_lexical {s : Shape} : (ts : Slot (.many s)) →
    (lexical schema e ts).toList = ts.toList.map (lexical schema e)
  | .nil => rfl
  | .cons t ts => congrArg (lexical schema e t :: ·) (toList_lexical ts)

@[simp] theorem tableIn_lexical : (t : AnyNode) → tableIn (lexical schema e t) = tableIn t
  | .any (k := k) t => by
    cases k
    case table =>
      match t with
      | .table name => exact congrArg (fun n => [n]) (bareName_lexical name)
    case aliased =>
      match t with
      | .aliased (.any (k := j) u) other =>
        cases j
        case table =>
          match u with
          | .table name => exact congrArg (fun n => [n]) (bareName_lexical name)
        all_goals
          cases u
          rfl
    all_goals
      cases t
      rfl

theorem tablesOf_lexical (tables : Node .fromClause) :
    tablesOf (lexical schema e tables) = tablesOf tables := by
  match tables with
  | .fromClause ts =>
    show (lexical schema e ts).toList.flatMap tableIn = ts.toList.flatMap tableIn
    simp [List.flatMap_map]

@[simp] theorem optionalTables_lexical (tables : Optional .fromClause) :
    optionalTables (lexical schema e tables) = optionalTables tables := by
  cases tables with
  | none => rfl
  | some ts => exact tablesOf_lexical ts

@[simp] theorem joinedTables_lexical (joins : Many .join) :
    joinedTables (lexical schema e joins) = joinedTables joins := by
  have hjoin (j : Node .join) : joinedTable (lexical schema e j) = joinedTable j :=
    match j with
    | .join _ t _ => tableIn_lexical t
  simp [joinedTables, List.flatMap_map, hjoin]

@[simp] theorem optionalTable_lexical (t : Optional .table) :
    optionalTable (lexical schema e t) = optionalTable t := by
  cases t with
  | none => rfl
  | some u => exact congrArg (fun n => [n]) (tableName_lexical u)

@[simp] theorem declaredNames_lexical (ctes : Optional .withClause) :
    declaredNames (lexical schema e ctes) = declaredNames ctes := by
  have hname (c : Node .commonTable) : declaredName (lexical schema e c) = declaredName c :=
    match c with
    | .commonTable (.commonTableName _ _) _ => rfl
  match ctes with
  | .none => rfl
  | .some (.withClause _ tables) =>
    show (lexical schema e tables).toList.map declaredName = tables.toList.map declaredName
    simp [hname]

/-- A statement has the same targets after it is qualified, since these are told by bare names. -/
theorem targets_lexical (t : Node k) : targets (lexical schema e t) = targets t := by
  cases k
  case selectQuery =>
    match t with
    | .selectQuery _ _ _ tables joins _ _ _ _ _ _ _ =>
      show optionalTables (lexical schema e tables) ++ joinedTables (lexical schema e joins) = _
      rw [optionalTables_lexical, joinedTables_lexical]
      rfl
  case insertQuery =>
    match t with
    | .insertQuery _ target _ _ _ => exact congrArg (fun n => [n]) (tableName_lexical target)
  case updateQuery =>
    match t with
    | .updateQuery _ table _ tables joins _ _ =>
      show tableIn (lexical schema e table) ++ optionalTables (lexical schema e tables) ++
        joinedTables (lexical schema e joins) = _
      rw [tableIn_lexical, optionalTables_lexical, joinedTables_lexical]
      rfl
  case deleteQuery =>
    match t with
    | .deleteQuery _ tables others joins _ _ =>
      show tablesOf (lexical schema e tables) ++ optionalTables (lexical schema e others) ++
        joinedTables (lexical schema e joins) = _
      rw [tablesOf_lexical, optionalTables_lexical, joinedTables_lexical]
      rfl
  case alterTable =>
    match t with
    | .alterTable table _ _ _ => exact congrArg (fun n => [n]) (tableName_lexical table)
  case createTable =>
    match t with
    | .createTable table _ _ _ => exact congrArg (fun n => [n]) (tableName_lexical table)
  case createView =>
    match t with
    | .createView name _ _ _ _ _ _ => exact congrArg (fun n => [n]) (bareName_lexical name)
  case createIndex =>
    match t with
    | .createIndex _ table _ _ _ _ _ => exact optionalTable_lexical table
  case createType =>
    match t with
    | .createType name _ => exact congrArg (fun n => [n]) (bareName_lexical name)
  case dropTable =>
    match t with
    | .dropTable table _ _ => exact congrArg (fun n => [n]) (tableName_lexical table)
  case dropView =>
    match t with
    | .dropView name _ _ _ => exact congrArg (fun n => [n]) (bareName_lexical name)
  case dropIndex =>
    match t with
    | .dropIndex name table _ _ =>
      show bareName (lexical schema e name) :: optionalTable (lexical schema e table) = _
      rw [bareName_lexical, optionalTable_lexical]
      rfl
  case dropType =>
    match t with
    | .dropType name _ => exact congrArg (fun n => [n]) (bareName_lexical name)
  -- nodes of the other kinds have no targets
  all_goals
    generalize lexical schema e t = u
    cases t
    cases u
    rfl

theorem commonTables_lexical (t : Node k) : commonTables (lexical schema e t) = commonTables t := by
  cases k
  case selectQuery =>
    match t with
    | .selectQuery ctes _ _ _ _ _ _ _ _ _ _ _ => exact declaredNames_lexical ctes
  case insertQuery =>
    match t with
    | .insertQuery ctes _ _ _ _ => exact declaredNames_lexical ctes
  case updateQuery =>
    match t with
    | .updateQuery ctes _ _ _ _ _ _ => exact declaredNames_lexical ctes
  case deleteQuery =>
    match t with
    | .deleteQuery ctes _ _ _ _ _ => exact declaredNames_lexical ctes
  -- nodes of the other kinds declare nothing
  all_goals
    generalize lexical schema e t = u
    cases t
    cases u
    rfl

theorem enter_lexical (s : Scope) (t : Node k) : s.enter (lexical schema e t) = s.enter t := by
  rw [Scope.enter, Scope.enter, Scope.fresh, Scope.fresh, targets_lexical, commonTables_lexical]

variable {schema' : String} {s : Scope}

theorem run_withSchema (schema : String) (t : Node .schemableIdentifier) :
    ((transformer schema').run (withSchema schema t) s).1 = none := by
  match t with
  | .schemableIdentifier .none (.identifier _) => rfl
  | .schemableIdentifier (.some (.identifier _)) (.identifier _) => rfl

private theorem run_lexical_name (h : Agrees e s) (t : Node .schemableIdentifier) :
    ((transformer schema').run (lexical schema e t) s).1 = none := by
  match t with
  | .schemableIdentifier (.some (.identifier _)) (.identifier n) =>
    show ((transformer schema').run (if StandsForTable e n then _ else _) s).1 = none
    split <;> rfl
  | .schemableIdentifier .none (.identifier n) =>
    show ((transformer schema').run (if StandsForTable e n then _ else _) s).1 = none
    by_cases hn : StandsForTable e n
    · rw [if_pos hn]
      exact run_withSchema schema (.schemableIdentifier .none (.identifier n))
    · have hq : ¬s.qualifies n = true := fun hq => hn ((h.qualifies_iff n).mp hq)
      rw [if_neg hn]
      show Option.or (if s.qualifies n then _ else none) none = none
      rw [if_neg hq]
      rfl

/-- A foreign key that refers to a table with a schema is kept if its columns are. -/
theorem run_references (schemaName n : String) {columns : Many .column}
    {action : Option DeleteAction} (hcolumns : ((transformer schema').run columns s).1 = none) :
    ((transformer schema').run (.references (.table (.schemableIdentifier
      (.some (.identifier schemaName)) (.identifier n))) columns action) s).1 = none := by
  let table : Node .table :=
    .table (.schemableIdentifier (.some (.identifier schemaName)) (.identifier n))
  let fields : Tree (.fields (Kind.fields .references)) :=
    .field table (.field columns (.field (.atom action) .done))
  have hfields : ((transformer schema').run fields s).1 = none := by
    rw [Transformer.run_field, Transformer.run_field, run_scope]
    exact Change.both_eq_none.mpr ⟨rfl, Change.both_eq_none.mpr ⟨hcolumns, rfl⟩⟩
  show Option.or (qualifyReferences schema' (Change.apply (Option.map (Tree.node .references)
    ((transformer schema').run fields s).1) (.node .references fields)))
    (Option.map _ ((transformer schema').run fields s).1) = none
  rw [hfields]
  rfl

private theorem run_lexical_references {fields : Tree (.fields (Kind.fields .references))}
    (ih : ((transformer schema').run (lexical schema e fields) s).1 = none) :
    ((transformer schema').run (lexical schema e (.node .references fields)) s).1 = none := by
  match fields with
  | .field (.table name) (.field columns (.field (.atom action) .done)) =>
    have hrest := (Change.both_eq_none.mp ih).2
    rw [run_scope] at hrest
    have hcolumns := (Change.both_eq_none.mp hrest).1
    show ((transformer schema').run (.references (.table (withSchema schema
      (lexical schema e name))) (lexical schema e columns) action) s).1 = none
    match lexical schema e name with
    | .schemableIdentifier .none (.identifier n) => exact run_references schema n hcolumns
    | .schemableIdentifier (.some (.identifier x)) (.identifier n) =>
      exact run_references x n hcolumns

theorem run_lexical_node (h : Agrees e s) (fields : Tree (.fields k.fields))
    (ih : ((transformer schema').run (lexical schema e fields) s).1 = none) :
    ((transformer schema').run (lexical schema e (.node k fields)) s).1 = none := by
  cases k
  case schemableIdentifier => exact run_lexical_name h (.node _ fields)
  case references => exact run_lexical_references ih
  case commonTableName => rfl
  all_goals exact congrArg (Option.map _) ih

/-- Qualification keeps what is qualified already, with whichever schema. -/
theorem run_lexical (h : Agrees e s) {p : Part} (t : Tree p) :
    ((transformer schema').run (lexical schema e t) s).1 = none := by
  induction t generalizing s e with
  | atom x => rfl
  | node k fields ih => exact run_lexical_node h fields (ih h)
  | @any k t ih =>
    rw [lexical]
    cases hk : k.isRoot with
    | true =>
      rw [run_root hk, if_pos rfl, enter_lexical, ih (h.enter t)]
      rfl
    | false =>
      rw [run_fragment hk, if_neg Bool.false_ne_true, ih h]
      rfl
  | none => rfl
  | some t ih => exact congrArg (Option.map _) (ih h)
  | nil => rfl
  | cons t ts iht ihts =>
    rw [lexical, Transformer.run_cons, run_scope, iht h, ihts h]
    rfl
  | done => rfl
  | field t rest iht ihrest =>
    rw [lexical, Transformer.run_field, run_scope, iht h, ihrest h]
    rfl

def qualified (schema : String) (q : Statement) : Statement :=
  { q with node := lexical schema [q.toNode] q.node }

theorem getD_run (q : Statement) :
    (((transformer schema).run q.node (Scope.empty.enter q.node)).1.map fun t =>
      { q with node := t }).getD q = qualified schema q := by
  have hnode : Change.apply ((transformer schema).run q.node (Scope.empty.enter q.node)).1 q.node =
      lexical schema [.any q.node] q.node := apply_run (agrees_empty.enter q.node) q.node
  rw [qualified, Statement.toNode, ← hnode]
  cases ((transformer schema).run q.node (Scope.empty.enter q.node)).1 <;> rfl

theorem run_qualified (q : Statement) :
    ((transformer schema').statement (qualified schema q) Scope.empty).1 = .ok none := by
  rw [run_statement]
  show Except.ok (((transformer schema').run (lexical schema [q.toNode] q.node)
    (Scope.empty.enter (lexical schema [q.toNode] q.node))).1.map _) = _
  rw [enter_lexical, Statement.toNode, run_lexical (agrees_empty.enter q.node)]
  rfl

end Qualification

open Qualification (qualified)

/-- Stages keep a statement that is qualified already. -/
theorem runStages_qualified (schema : String) (schemas : List String) (q : Statement) :
    (runStages (schemas.map Stage.withSchema) (qualified schema q)).1 = .ok none := by
  induction schemas with
  | nil => rfl
  | cons schema' schemas ih =>
    rw [List.map_cons, runStages, Stage.run_withSchema, Qualification.run_qualified]
    exact ih

theorem runStages_cons (schema : String) (schemas : List String) (q : Statement) :
    (runStages ((schema :: schemas).map Stage.withSchema) q).1 =
      ((Qualification.transformer schema).statement q Scope.empty).1 := by
  have hrest := runStages_qualified schema schemas q
  rw [← Qualification.getD_run] at hrest
  rw [List.map_cons, runStages, Stage.run_withSchema, Qualification.run_statement]
  cases h : ((Qualification.transformer schema).run q.node (Scope.empty.enter q.node)).1 with
  | none =>
    rw [h] at hrest
    exact hrest
  | some t =>
    rw [h] at hrest
    show Except.map _ (runStages _ _).1 = _
    rw [show (runStages (schemas.map Stage.withSchema) { q with node := t }).1 = .ok none from hrest]
    rfl

/-- The first schema wins. A tree of any kind that one transformer has qualified is handed back by
another as the very tree it is. So of several stages that qualify only the first does anything. -/
theorem first_schema_wins (schema : String) :
    (∀ (schema' : String) (t : AnyNode),
      Qualification.qualify schema' ((Qualification.qualify schema t).apply t) = none) ∧
    ∀ (d : Dialect) (schemas : List String) (q : Statement),
      ((Pipeline.ofSchemas d (schema :: schemas)).transform q).1 =
        ((Pipeline.ofSchemas d [schema]).transform q).1 ∧
      ((Pipeline.ofSchemas d (schema :: schemas)).compile q).1 =
        ((Pipeline.ofSchemas d [schema]).compile q).1 := by
  refine ⟨fun schema' t => ?_, fun d schemas q => ?_⟩
  · rw [Qualification.apply_qualify]
    exact Qualification.run_lexical Qualification.agrees_empty t
  · have htransform : ((Pipeline.ofSchemas d (schema :: schemas)).transform q).1 =
        ((Pipeline.ofSchemas d [schema]).transform q).1 :=
      (runStages_cons schema schemas q).trans (runStages_cons schema [] q).symm
    exact ⟨htransform, congrArg (Except.map _) htransform⟩

end QueryTree
