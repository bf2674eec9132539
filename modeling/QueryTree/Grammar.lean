import QueryTree.Operator
import QueryTree.Value

/-!
# The grammar of trees

What a node holds depends on its kind alone. A field holds plain data, a node of one kind, a node of
any kind, or some or many of these. The table `Kind.fields` lists the fields of every kind in order;
whatever walks, writes, reads or checks a tree follows this table.
-/
namespace QueryTree

/-- Plain data in a node. -/
inductive Atom
  | text | texts | optionalText | flag | value | operator | joinType | direction | setOperator
  | deleteAction
  deriving DecidableEq, Repr

@[reducible] def Atom.Carrier : Atom → Type
  | .text => String
  | .texts => List String
  | .optionalText => Option String
  | .flag => Bool
  | .value => Value
  | .operator => Operator
  | .joinType => JoinType
  | .direction => Option Direction
  | .setOperator => SetOperator
  | .deleteAction => Option DeleteAction

instance : (a : Atom) → DecidableEq a.Carrier
  | .text => inferInstanceAs (DecidableEq String)
  | .texts => inferInstanceAs (DecidableEq (List String))
  | .optionalText => inferInstanceAs (DecidableEq (Option String))
  | .flag => inferInstanceAs (DecidableEq Bool)
  | .value => inferInstanceAs (DecidableEq Value)
  | .operator => inferInstanceAs (DecidableEq Operator)
  | .joinType => inferInstanceAs (DecidableEq JoinType)
  | .direction => inferInstanceAs (DecidableEq (Option Direction))
  | .setOperator => inferInstanceAs (DecidableEq SetOperator)
  | .deleteAction => inferInstanceAs (DecidableEq (Option DeleteAction))

/-- What stands in a field. -/
inductive Shape
  | atom (a : Atom)
  | node (k : Kind)
  | any
  | optional (s : Shape)
  | many (s : Shape)
  deriving DecidableEq, Repr

/-- A named place in a node. What is not mandatory may be left out when a node is written down. -/
structure Field where
  name : String
  shape : Shape
  mandatory : Bool
  deriving DecidableEq, Repr

namespace Field

abbrev must (name : String) (shape : Shape) : Field := ⟨name, shape, true⟩

abbrev may (name : String) (shape : Shape) : Field := ⟨name, shape, false⟩

/-- A flag that is off when it is left out. -/
abbrev flag (name : String) : Field := may name (.atom .flag)

end Field

open QueryTree.Field in
@[reducible] def Kind.fields : Kind → List Field
  | .identifier => [must "name" (.atom .text)]
  | .schemableIdentifier =>
    [may "schema" (.optional (.node .identifier)), must "identifier" (.node .identifier)]
  | .table => [must "table" (.node .schemableIdentifier)]
  | .column => [must "column" (.node .identifier)]
  | .reference => [may "table" (.optional (.node .table)), must "column" .any]
  | .selectAll => []
  | .aliased => [must "node" .any, must "alias" (.node .identifier)]
  | .raw => [must "sql_fragments" (.atom .texts), may "parameters" (.many .any)]
  | .value => [must "value" (.atom .value)]
  | .valueList => [must "values" (.many .any)]
  | .values => [must "values" (.many (.node .valueList))]
  | .operator => [must "operator" (.atom .operator)]
  | .binaryOperation =>
    [must "left_operand" .any, must "operator" (.node .operator), must "right_operand" .any]
  | .unaryOperation => [must "operator" (.node .operator), must "operand" .any]
  | .and => [must "left" .any, must "right" .any]
  | .or => [must "left" .any, must "right" .any]
  | .parens => [must "node" .any]
  | .function => [must "func" (.atom .text), may "arguments" (.many .any), flag "distinct"]
  | .selection => [must "selection" .any]
  | .fromClause => [must "froms" (.many .any)]
  | .join =>
    [must "join_type" (.atom .joinType), must "table" .any, may "on" (.optional (.node .onClause))]
  | .onClause => [must "on" .any]
  | .whereClause => [must "filter" .any]
  | .groupBy => [must "items" (.many .any)]
  | .having => [must "having" .any]
  | .orderBy => [must "items" (.many (.node .orderByItem))]
  | .orderByItem => [must "order_by" .any, may "direction" (.atom .direction)]
  | .limit => [must "limit" .any]
  | .offset => [must "offset" .any]
  | .returning => [must "selections" (.many (.node .selection))]
  | .columnUpdate => [must "column" (.node .column), must "value" .any]
  | .setOperation => [must "operator" (.atom .setOperator), must "expression" .any, flag "all"]
  | .withClause => [flag "recursive", must "expressions" (.many (.node .commonTable))]
  | .commonTable => [must "name" (.node .commonTableName), must "expression" .any]
  | .commonTableName => [must "table" (.node .table), may "columns" (.many (.node .column))]
  | .selectQuery =>
    [may "with" (.optional (.node .withClause)), flag "distinct",
     may "selections" (.many (.node .selection)), may "from" (.optional (.node .fromClause)),
     may "joins" (.many (.node .join)), may "filter" (.optional (.node .whereClause)),
     may "group_by" (.optional (.node .groupBy)), may "having" (.optional (.node .having)),
     may "order_by" (.optional (.node .orderBy)), may "limit" (.optional (.node .limit)),
     may "offset" (.optional (.node .offset)), may "set_operations" (.many (.node .setOperation))]
  | .insertQuery =>
    [may "with" (.optional (.node .withClause)), must "into" (.node .table),
     may "columns" (.many (.node .column)), may "values" (.optional .any),
     may "returning" (.optional (.node .returning))]
  | .updateQuery =>
    [may "with" (.optional (.node .withClause)), must "table" .any,
     may "updates" (.many (.node .columnUpdate)), may "from" (.optional (.node .fromClause)),
     may "joins" (.many (.node .join)), may "filter" (.optional (.node .whereClause)),
     may "returning" (.optional (.node .returning))]
  | .deleteQuery =>
    [may "with" (.optional (.node .withClause)), must "from" (.node .fromClause),
     may "using" (.optional (.node .fromClause)), may "joins" (.many (.node .join)),
     may "filter" (.optional (.node .whereClause)), may "returning" (.optional (.node .returning))]
  | .dataType => [must "data_type" (.atom .text)]
  | .columnDefinition =>
    [must "column" (.node .column), must "data_type" (.node .dataType),
     may "references" (.optional (.node .references)), flag "primary_key", flag "not_null",
     flag "unique", may "default_to" (.optional .any)]
  | .references =>
    [must "table" (.node .table), may "columns" (.many (.node .column)),
     may "on_delete" (.atom .deleteAction)]
  | .addColumn => [must "column" (.node .columnDefinition)]
  | .dropColumn => [must "column" (.node .column)]
  | .renameColumn => [must "column" (.node .column), must "rename_to" (.node .column)]
  | .alterTable =>
    [must "table" (.node .table), may "rename_to" (.optional (.node .table)),
     may "set_schema" (.optional (.node .identifier)), may "column_alterations" (.many .any)]
  | .createTable =>
    [must "table" (.node .table), flag "temporary", flag "if_not_exists",
     may "columns" (.many (.node .columnDefinition))]
  | .createView =>
    [must "name" (.node .schemableIdentifier), flag "temporary", flag "materialized",
     flag "or_replace", flag "if_not_exists", may "columns" (.many (.node .column)),
     may "as_query" (.optional .any)]
  | .createIndex =>
    [must "name" (.node .identifier), may "table" (.optional (.node .table)),
     may "columns" (.many .any), flag "unique", flag "if_not_exists",
     may "using" (.atom .optionalText), may "filter" (.optional (.node .whereClause))]
  | .createSchema => [must "schema" (.node .identifier), flag "if_not_exists"]
  | .createType =>
    [must "name" (.node .schemableIdentifier), may "enum_values" (.optional (.node .valueList))]
  | .dropTable => [must "table" (.node .table), flag "if_exists", flag "cascade"]
  | .dropView =>
    [must "name" (.node .schemableIdentifier), flag "materialized", flag "if_exists",
     flag "cascade"]
  | .dropIndex =>
    [must "name" (.node .schemableIdentifier), may "table" (.optional (.node .table)),
     flag "if_exists", flag "cascade"]
  | .dropSchema => [must "schema" (.node .identifier), flag "if_exists", flag "cascade"]
  | .dropType => [must "name" (.node .schemableIdentifier), flag "if_exists"]

/-- No two fields of a node have the same name, and none is called `kind`. -/
theorem Kind.fields_nodup (k : Kind) : ("kind" :: k.fields.map Field.name).Nodup := by
  cases k <;> decide

end QueryTree
