import QueryTree.Node
import QueryTree.Sql.Piece

/-!
# The layout of trees

Laying out a tree needs, for each kind, a rule from the layouts of what a node holds to the layout
of the node. The rules are the table `layout`; `Tree.view` applies them from the leaves to the root.
Names, operators and lists of tables are kept apart until the node around them is laid out, because
it may use a part of them only.
-/
namespace QueryTree

/-- The name of a table or another schema object. -/
structure ObjectName where
  schema : Option String
  bare : String
  deriving DecidableEq

/-- A name, led by the name of its schema if it has one. -/
def Sql.object (n : ObjectName) : Sql :=
  (match n.schema with
    | none => Sql.empty
    | some s => Sql.name s ++ Sql.word ".") ++ Sql.name n.bare

/-- What a node is to the node around it when that is laid out: a name, text, the name of an object,
an operator, a list of tables or SQL. -/
inductive Form
  | name | text | object | operator | tables | sql
  deriving DecidableEq

@[reducible] def Form.Carrier : Form → Type
  | .name => String
  | .text => String
  | .object => ObjectName
  | .operator => Operator
  | .tables => List Sql
  | .sql => Sql

@[reducible] def Kind.form : Kind → Form
  | .identifier | .column => .name
  | .dataType => .text
  | .schemableIdentifier | .table => .object
  | .operator => .operator
  | .fromClause => .tables
  | _ => .sql

@[reducible] def Layout (k : Kind) : Type := k.form.Carrier

/-- What a field is to its node when that is laid out. -/
@[reducible] def SlotLayout : Shape → Type
  | .atom a => a.Carrier
  | .node k => Layout k
  | .any => Sql
  | .optional s => Option (SlotLayout s)
  | .many s => List (SlotLayout s)

@[reducible] def FieldLayouts : List Field → Type
  | [] => Unit
  | f :: fs => SlotLayout f.shape × FieldLayouts fs

@[reducible] def PartLayout : Part → Type
  | .slot s => SlotLayout s
  | .fields fs => FieldLayouts fs

open Sql

def tableList (tables : List Sql) : Sql := word "from " ++ commas tables

def Form.toSql : (f : Form) → f.Carrier → Sql
  | .name, s => Sql.name s
  | .text, s => verbatim s
  | .object, n => Sql.object n
  | .operator, o => word o.symbol
  | .tables, as => tableList as
  | .sql, a => a

def Layout.sql (k : Kind) (l : Layout k) : Sql := k.form.toSql l

/-- Fragments with parameters between them; parameters beyond the last fragment are not laid out. -/
def interleave : List String → List Sql → Sql
  | [], _ => empty
  | s :: ss, [] => verbatim s ++ interleave ss []
  | s :: ss, a :: as => verbatim s ++ a ++ interleave ss as

def ctesBefore (ctes : Option Sql) : Sql :=
  match ctes with
  | none => empty
  | some a => a ++ word " "

def ifExists (flag : Bool) : Sql := Sql.when flag "if exists "
def ifNotExists (flag : Bool) : Sql := Sql.when flag "if not exists "
def cascade (flag : Bool) : Sql := Sql.when flag " cascade"

def layout : (k : Kind) → FieldLayouts k.fields → Layout k
  | .identifier, (s, _) => s
  | .schemableIdentifier, (schema, identifier, _) => ⟨schema, identifier⟩
  | .table, (table, _) => table
  | .column, (column, _) => column
  | .reference, (table, column, _) =>
    (match table with
      | none => empty
      | some n => object n ++ word ".") ++ column
  | .selectAll, _ => word "*"
  | .aliased, (node, other, _) => node ++ word " as " ++ name other
  | .raw, (fragments, parameters, _) => placed .nested (interleave fragments parameters)
  | .value, (v, _) => piece (.value v)
  | .valueList, (values, _) => Sql.parens (commas values)
  | .values, (rows, _) => word "values " ++ commas rows
  | .operator, (o, _) => o
  | .binaryOperation, (left, o, right, _) =>
    left ++ word " " ++ word o.symbol ++ word " " ++ right
  | .unaryOperation, (o, operand, _) => word o.symbol ++ Sql.when o.isKeyword " " ++ operand
  | .and, (left, right, _) => left ++ word " and " ++ right
  | .or, (left, right, _) => left ++ word " or " ++ right
  | .parens, (node, _) => Sql.parens (placed .bare node)
  | .function, (func, arguments, distinct, _) =>
    verbatim func ++ Sql.parens (Sql.when distinct "distinct " ++ commas arguments)
  | .selection, (node, _) => node
  | .fromClause, (tables, _) => tables
  | .join, (type, table, on, _) => word type.words ++ word " " ++ table ++ led " " on
  | .onClause, (condition, _) => word "on " ++ condition
  | .whereClause, (condition, _) => word "where " ++ condition
  | .groupBy, (items, _) => word "group by " ++ commas items
  | .having, (condition, _) => word "having " ++ condition
  | .orderBy, (items, _) => word "order by " ++ commas items
  | .orderByItem, (node, direction, _) =>
    node ++ (match direction with
      | none => empty
      | some d => word " " ++ word d.words)
  | .limit, (node, _) => word "limit " ++ node
  | .offset, (node, _) => word "offset " ++ node
  | .returning, (selections, _) => word "returning " ++ commas selections
  | .columnUpdate, (column, value, _) => name column ++ word " = " ++ value
  | .setOperation, (operator, expression, all, _) =>
    word operator.words ++ word " " ++ Sql.when all "all " ++ placed .bare expression
  | .withClause, (recursive, tables, _) =>
    word (if recursive then "with recursive " else "with ") ++ commas tables
  | .commonTable, (tableName, expression, _) =>
    tableName ++ word " as " ++ Sql.parens (placed .bare expression)
  | .commonTableName, (table, columns, _) => object table ++
    (if columns.isEmpty then empty else Sql.parens (commas (columns.map name)))
  | .selectQuery, (ctes, distinct, selections, tables, joins, filter, groupBy, having, orderBy,
      limit, offset, setOperations, _) =>
    statement (ctesBefore ctes ++ word "select " ++ Sql.when distinct "distinct " ++
      (if selections.isEmpty then word "*" else commas selections) ++
      led " " (tables.map tableList) ++ eachLed " " joins ++ led " " filter ++ led " " groupBy ++
      led " " having ++ led " " orderBy ++ led " " limit ++ led " " offset ++
      eachLed " " setOperations)
  | .insertQuery, (ctes, target, columns, values, returning, _) =>
    statement (ctesBefore ctes ++ word "insert into " ++ object target ++
      ledParens " " (columns.map name) ++
      (match values with
        | none => word " default values"
        | some a => word " " ++ placed .bare a) ++
      led " " returning)
  | .updateQuery, (ctes, table, updates, tables, joins, filter, returning, _) =>
    statement (ctesBefore ctes ++ word "update " ++ table ++
      (if updates.isEmpty then empty else word " set " ++ commas updates) ++
      led " " (tables.map tableList) ++ eachLed " " joins ++ led " " filter ++ led " " returning)
  | .deleteQuery, (ctes, tables, others, joins, filter, returning, _) =>
    statement (ctesBefore ctes ++ word "delete " ++ tableList tables ++
      led " using " (others.map commas) ++ eachLed " " joins ++ led " " filter ++
      led " " returning)
  | .dataType, (s, _) => s
  | .columnDefinition, (column, type, references, primaryKey, notNull, unique, default, _) =>
    name column ++ word " " ++ verbatim type ++ Sql.when primaryKey " primary key" ++
      Sql.when notNull " not null" ++ Sql.when unique " unique" ++ led " default " default ++
      led " " references
  | .references, (table, columns, onDelete, _) =>
    word "references " ++ object table ++ ledParens " " (columns.map name) ++
      (match onDelete with
        | none => empty
        | some action => word " on delete " ++ word action.words)
  | .addColumn, (column, _) => word "add column " ++ column
  | .dropColumn, (column, _) => word "drop column " ++ name column
  | .renameColumn, (column, renameTo, _) =>
    word "rename column " ++ name column ++ word " to " ++ name renameTo
  | .alterTable, (table, renameTo, schema, alterations, _) =>
    word "alter table " ++ object table ++ led " rename to " (renameTo.map fun n => name n.bare) ++
      led " set schema " (schema.map name) ++
      (if alterations.isEmpty then empty else word " " ++ commas alterations)
  | .createTable, (table, temporary, existing, columns, _) =>
    word (if temporary then "create temporary table " else "create table ") ++
      ifNotExists existing ++ object table ++ word " " ++ Sql.parens (commas columns)
  | .createView, (view, temporary, materialized, orReplace, existing, columns, query, _) =>
    word "create " ++ Sql.when orReplace "or replace " ++ Sql.when temporary "temporary " ++
      Sql.when materialized "materialized " ++ word "view " ++ ifNotExists existing ++ object view ++
      ledParens " " (columns.map name) ++ led " as " (query.map (placed .bare))
  | .createIndex, (index, table, columns, unique, existing, method, filter, _) =>
    word (if unique then "create unique index " else "create index ") ++ ifNotExists existing ++
      name index ++ led " on " (table.map object) ++ led " using " (method.map verbatim) ++
      ledParens " " columns ++ led " " filter
  | .createSchema, (schema, existing, _) =>
    word "create schema " ++ ifNotExists existing ++ name schema
  | .createType, (type, values, _) => word "create type " ++ object type ++ led " as enum " values
  | .dropTable, (table, existing, cascades, _) =>
    word "drop table " ++ ifExists existing ++ object table ++ cascade cascades
  | .dropView, (view, materialized, existing, cascades, _) =>
    word (if materialized then "drop materialized view " else "drop view ") ++
      ifExists existing ++ object view ++ cascade cascades
  | .dropIndex, (index, table, existing, cascades, _) =>
    word "drop index " ++ ifExists existing ++ object index ++
      led " on " (table.map object) ++ cascade cascades
  | .dropSchema, (schema, existing, cascades, _) =>
    word "drop schema " ++ ifExists existing ++ name schema ++ cascade cascades
  | .dropType, (type, existing, _) => word "drop type " ++ ifExists existing ++ object type

namespace Tree

/-- What a part of a tree is to the node around it. -/
def view : {p : Part} → Tree p → PartLayout p
  | _, .atom x => x
  | _, .node k fields => layout k fields.view
  | _, .any (k := k) t => Layout.sql k t.view
  | _, .none => Option.none
  | _, .some t => Option.some t.view
  | _, .nil => []
  | _, .cons t ts => t.view :: ts.view
  | _, .done => ()
  | _, .field t rest => (t.view, rest.view)

/-- The pieces of a node in a given place. -/
def pieces (t : AnyNode) (p : Place) : List Piece := (t.view : Sql).pieces p

end Tree

end QueryTree
