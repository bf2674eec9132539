import QueryTree.Transformer

/-!
# Schema qualification

Qualification gives a schema to the bare names of a statement's own tables. A statement has as its
targets the tables and other objects that it reads, changes, defines or drops. While a statement is
walked its targets are in scope, and a bare name in scope gets the schema wherever it occurs. The
names of common table expressions are no names of tables anywhere inside the statement that
declares them. A foreign key always refers to a table, whether that is in scope or not.
-/
namespace QueryTree

namespace Qualification

open QueryTree.Tree (bareName tableName)

/-- The table that stands in a list of tables, by itself or under another name. -/
def tableIn : AnyNode → List String
  | .any (.table name) => [bareName name]
  | .any (.aliased (.any (.table name)) _) => [bareName name]
  | _ => []

def tablesOf : Node .fromClause → List String
  | .fromClause tables => tables.toList.flatMap tableIn

def optionalTables (tables : Optional .fromClause) : List String :=
  (tables.toOption.map tablesOf).getD []

def joinedTable : Node .join → List String
  | .join _ table _ => tableIn table

def joinedTables (joins : Many .join) : List String := joins.toList.flatMap joinedTable

def optionalTable (table : Optional .table) : List String :=
  (table.toOption.map tableName).toList

/-- The targets of a statement; other nodes have none. -/
def targets : {k : Kind} → Node k → List String
  | _, .selectQuery _ _ _ tables joins _ _ _ _ _ _ _ =>
    optionalTables tables ++ joinedTables joins
  | _, .insertQuery _ target _ _ _ => [tableName target]
  | _, .updateQuery _ table _ tables joins _ _ =>
    tableIn table ++ optionalTables tables ++ joinedTables joins
  | _, .deleteQuery _ tables others joins _ _ =>
    tablesOf tables ++ optionalTables others ++ joinedTables joins
  | _, .alterTable table _ _ _ => [tableName table]
  | _, .createTable table _ _ _ => [tableName table]
  | _, .createView name _ _ _ _ _ _ => [bareName name]
  | _, .createIndex _ table _ _ _ _ _ => optionalTable table
  | _, .createType name _ => [bareName name]
  | _, .dropTable table _ _ => [tableName table]
  | _, .dropView name _ _ _ => [bareName name]
  | _, .dropIndex name table _ _ => bareName name :: optionalTable table
  | _, .dropType name _ => [bareName name]
  | _, _ => []

/-- The name that a common table expression declares. -/
def declaredName : Node .commonTable → String
  | .commonTable (.commonTableName table _) _ => tableName table

def declaredNames : Optional .withClause → List String
  | .none => []
  | .some (.withClause _ tables) => tables.toList.map declaredName

/-- The names of the common table expressions of a statement. -/
def commonTables : {k : Kind} → Node k → List String
  | _, .selectQuery ctes _ _ _ _ _ _ _ _ _ _ _ => declaredNames ctes
  | _, .insertQuery ctes _ _ _ _ => declaredNames ctes
  | _, .updateQuery ctes _ _ _ _ _ _ => declaredNames ctes
  | _, .deleteQuery ctes _ _ _ _ _ => declaredNames ctes
  | _, _ => []

end Qualification

/-- What the statements that are being walked have brought into scope. -/
structure Scope where
  /-- The targets, each once. -/
  tables : List String
  /-- The common table expressions, those of the innermost statement first. -/
  ctes : List String
  deriving DecidableEq

namespace Scope

def empty : Scope := ⟨[], []⟩

/-- The targets that a statement brings into scope, given the common table expressions in it. -/
def added (s : Scope) (ctes targets : List String) : List String :=
  targets.eraseDups.filter fun n => !s.tables.contains n && !ctes.contains n

/-- Whether a bare name is that of a table in scope. -/
def qualifies (s : Scope) (name : String) : Bool := !s.ctes.contains name && s.tables.contains name

end Scope

namespace Qualification

/-- Gives a schema to a name that has none and is in scope. -/
def qualifyName (schema : String) (s : Scope) :
    Node .schemableIdentifier → Change (.slot (.node .schemableIdentifier))
  | .schemableIdentifier .none (.identifier n) =>
    if s.qualifies n then
      some (.schemableIdentifier (.some (.identifier schema)) (.identifier n))
    else none
  | _ => none

/-- Gives a schema to the table of a foreign key that has none. -/
def qualifyReferences (schema : String) :
    Node .references → Change (.slot (.node .references))
  | .references (.table (.schemableIdentifier .none name)) columns action =>
    some (.references (.table (.schemableIdentifier (.some (.identifier schema)) name)) columns
      action)
  | _ => none

/-- Walks a node; a statement brings its names into scope for as long as it is walked. -/
def onAny (t : AnyNode) (walk : StateM Scope (Change (.slot .any))) :
    StateM Scope (Change (.slot .any)) :=
  match t with
  | .any (k := k) t =>
    if k.isRoot then do
      let outer ← get
      let names := commonTables t
      let ctes := names ++ outer.ctes
      let added := outer.added ctes (targets t)
      set (⟨added ++ outer.tables, ctes⟩ : Scope)
      let r ← walk
      modify fun s => ⟨s.tables.filter fun n => !added.contains n, s.ctes.drop names.length⟩
      pure r
    else walk

def onNode (schema : String) : (k : Kind) → Node k → StateM Scope (Change (.slot (.node k))) →
    StateM Scope (Change (.slot (.node k)))
  | .schemableIdentifier, t, walk => do
    let r ← walk
    let s ← get
    pure ((qualifyName schema s (r.apply t)).or r)
  | .references, t, walk => do
    let r ← walk
    pure ((qualifyReferences schema (r.apply t)).or r)
  -- a common table expression declares its name, which is that of no table
  | .commonTableName, _, _ => pure none
  | _, _, walk => walk

def transformer (schema : String) : Transformer Scope where
  onAny := onAny
  onNode := onNode schema

/-- The tree qualified with a schema, and whether it is a new one. -/
def qualify (schema : String) (t : AnyNode) : Change (.slot .any) :=
  ((transformer schema).run t Scope.empty).1

end Qualification

end QueryTree
