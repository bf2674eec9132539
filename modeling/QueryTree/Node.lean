import QueryTree.Tree

/-!
# Nodes of each kind

A constructor for each kind of node, which also serves as a pattern, and the shortest ways to make
the nodes that are written most.
-/
namespace QueryTree

instance {k : Kind} : CoeOut (Node k) AnyNode := ⟨.any⟩

namespace Tree

@[match_pattern] abbrev identifier (name : String) : Node .identifier :=
  .node .identifier (.field (.atom name) .done)

/-- A name that may be led by the name of a schema. -/
@[match_pattern] abbrev schemableIdentifier (schema : Optional .identifier)
    (identifier : Node .identifier) : Node .schemableIdentifier :=
  .node .schemableIdentifier (.field schema (.field identifier .done))

@[match_pattern] abbrev table (table : Node .schemableIdentifier) : Node .table :=
  .node .table (.field table .done)

@[match_pattern] abbrev column (column : Node .identifier) : Node .column :=
  .node .column (.field column .done)

/-- A column, or all columns, that may be led by a table. -/
@[match_pattern] abbrev reference (table : Optional .table) (column : AnyNode) : Node .reference :=
  .node .reference (.field table (.field column .done))

@[match_pattern] abbrev selectAll : Node .selectAll :=
  .node .selectAll .done

@[match_pattern] abbrev aliased (node : AnyNode) (other : Node .identifier) : Node .aliased :=
  .node .aliased (.field node (.field other .done))

/-- Text that is taken as it is, with nodes between its fragments. -/
@[match_pattern] abbrev raw (fragments : List String) (parameters : Slot (.many .any))
    : Node .raw :=
  .node .raw (.field (.atom fragments) (.field parameters .done))

@[match_pattern] abbrev value (value : Value) : Node .value :=
  .node .value (.field (.atom value) .done)

@[match_pattern] abbrev valueList (values : Slot (.many .any)) : Node .valueList :=
  .node .valueList (.field values .done)

@[match_pattern] abbrev values (values : Many .valueList) : Node .values :=
  .node .values (.field values .done)

@[match_pattern] abbrev operator (operator : Operator) : Node .operator :=
  .node .operator (.field (.atom operator) .done)

@[match_pattern] abbrev binaryOperation (left : AnyNode) (operator : Node .operator)
    (right : AnyNode) : Node .binaryOperation :=
  .node .binaryOperation (.field left (.field operator (.field right .done)))

@[match_pattern] abbrev unaryOperation (operator : Node .operator) (operand : AnyNode)
    : Node .unaryOperation :=
  .node .unaryOperation (.field operator (.field operand .done))

@[match_pattern] abbrev and (left right : AnyNode) : Node .and :=
  .node .and (.field left (.field right .done))

@[match_pattern] abbrev or (left right : AnyNode) : Node .or :=
  .node .or (.field left (.field right .done))

@[match_pattern] abbrev parens (node : AnyNode) : Node .parens :=
  .node .parens (.field node .done)

@[match_pattern] abbrev function (name : String) (arguments : Slot (.many .any)) (distinct : Bool)
    : Node .function :=
  .node .function (.field (.atom name) (.field arguments (.field (.atom distinct) .done)))

@[match_pattern] abbrev selection (selection : AnyNode) : Node .selection :=
  .node .selection (.field selection .done)

@[match_pattern] abbrev fromClause (froms : Slot (.many .any)) : Node .fromClause :=
  .node .fromClause (.field froms .done)

/-- A joined table, with the condition of the join if it has one. -/
@[match_pattern] abbrev join (joinType : JoinType) (table : AnyNode) (on : Optional .onClause)
    : Node .join :=
  .node .join (.field (.atom joinType) (.field table (.field on .done)))

@[match_pattern] abbrev onClause (on : AnyNode) : Node .onClause :=
  .node .onClause (.field on .done)

@[match_pattern] abbrev whereClause (filter : AnyNode) : Node .whereClause :=
  .node .whereClause (.field filter .done)

@[match_pattern] abbrev groupBy (items : Slot (.many .any)) : Node .groupBy :=
  .node .groupBy (.field items .done)

@[match_pattern] abbrev having (having : AnyNode) : Node .having :=
  .node .having (.field having .done)

@[match_pattern] abbrev orderBy (items : Many .orderByItem) : Node .orderBy :=
  .node .orderBy (.field items .done)

@[match_pattern] abbrev orderByItem (orderBy : AnyNode) (direction : Option Direction)
    : Node .orderByItem :=
  .node .orderByItem (.field orderBy (.field (.atom direction) .done))

@[match_pattern] abbrev limit (limit : AnyNode) : Node .limit :=
  .node .limit (.field limit .done)

@[match_pattern] abbrev offset (offset : AnyNode) : Node .offset :=
  .node .offset (.field offset .done)

@[match_pattern] abbrev returning (selections : Many .selection) : Node .returning :=
  .node .returning (.field selections .done)

@[match_pattern] abbrev columnUpdate (column : Node .column) (value : AnyNode)
    : Node .columnUpdate :=
  .node .columnUpdate (.field column (.field value .done))

/-- Another query to be combined with a selection. -/
@[match_pattern] abbrev setOperation (operator : SetOperator) (expression : AnyNode) (all : Bool)
    : Node .setOperation :=
  .node .setOperation (.field (.atom operator) (.field expression (.field (.atom all) .done)))

@[match_pattern] abbrev withClause (recursive : Bool) (expressions : Many .commonTable)
    : Node .withClause :=
  .node .withClause (.field (.atom recursive) (.field expressions .done))

@[match_pattern] abbrev commonTable (name : Node .commonTableName) (expression : AnyNode)
    : Node .commonTable :=
  .node .commonTable (.field name (.field expression .done))

/-- The name of a common table expression, with names for its columns. -/
@[match_pattern] abbrev commonTableName (table : Node .table) (columns : Many .column)
    : Node .commonTableName :=
  .node .commonTableName (.field table (.field columns .done))

@[match_pattern] abbrev selectQuery (ctes : Optional .withClause) (distinct : Bool)
    (selections : Many .selection) (tables : Optional .fromClause) (joins : Many .join)
    (filter : Optional .whereClause) (groupBy : Optional .groupBy) (having : Optional .having)
    (orderBy : Optional .orderBy) (limit : Optional .limit) (offset : Optional .offset)
    (setOperations : Many .setOperation) : Node .selectQuery :=
  .node .selectQuery (.field ctes (.field (.atom distinct) (.field selections (.field tables
    (.field joins (.field filter (.field groupBy (.field having (.field orderBy (.field limit
    (.field offset (.field setOperations .done))))))))))))

@[match_pattern] abbrev insertQuery (ctes : Optional .withClause) (target : Node .table)
    (columns : Many .column) (values : Slot (.optional .any)) (returning : Optional .returning)
    : Node .insertQuery :=
  .node .insertQuery (.field ctes (.field target (.field columns (.field values (.field
    returning .done)))))

@[match_pattern] abbrev updateQuery (ctes : Optional .withClause) (table : AnyNode)
    (updates : Many .columnUpdate) (tables : Optional .fromClause) (joins : Many .join)
    (filter : Optional .whereClause) (returning : Optional .returning) : Node .updateQuery :=
  .node .updateQuery (.field ctes (.field table (.field updates (.field tables (.field joins
    (.field filter (.field returning .done)))))))

@[match_pattern] abbrev deleteQuery (ctes : Optional .withClause) (tables : Node .fromClause)
    (others : Optional .fromClause) (joins : Many .join) (filter : Optional .whereClause)
    (returning : Optional .returning) : Node .deleteQuery :=
  .node .deleteQuery (.field ctes (.field tables (.field others (.field joins (.field filter
    (.field returning .done))))))

@[match_pattern] abbrev dataType (dataType : String) : Node .dataType :=
  .node .dataType (.field (.atom dataType) .done)

@[match_pattern] abbrev columnDefinition (column : Node .column) (dataType : Node .dataType)
    (references : Optional .references) (primaryKey notNull unique : Bool)
    (default : Slot (.optional .any)) : Node .columnDefinition :=
  .node .columnDefinition (.field column (.field dataType (.field references (.field (.atom
    primaryKey) (.field (.atom notNull) (.field (.atom unique) (.field default .done)))))))

/-- The columns that a foreign key refers to. -/
@[match_pattern] abbrev references (table : Node .table) (columns : Many .column)
    (onDelete : Option DeleteAction) : Node .references :=
  .node .references (.field table (.field columns (.field (.atom onDelete) .done)))

@[match_pattern] abbrev addColumn (column : Node .columnDefinition) : Node .addColumn :=
  .node .addColumn (.field column .done)

@[match_pattern] abbrev dropColumn (column : Node .column) : Node .dropColumn :=
  .node .dropColumn (.field column .done)

@[match_pattern] abbrev renameColumn (column renameTo : Node .column) : Node .renameColumn :=
  .node .renameColumn (.field column (.field renameTo .done))

@[match_pattern] abbrev alterTable (table : Node .table) (renameTo : Optional .table)
    (schema : Optional .identifier) (columnAlterations : Slot (.many .any)) : Node .alterTable :=
  .node .alterTable (.field table (.field renameTo (.field schema (.field columnAlterations
    .done))))

@[match_pattern] abbrev createTable (table : Node .table) (temporary ifNotExists : Bool)
    (columns : Many .columnDefinition) : Node .createTable :=
  .node .createTable (.field table (.field (.atom temporary) (.field (.atom ifNotExists) (.field
    columns .done))))

@[match_pattern] abbrev createView (name : Node .schemableIdentifier)
    (temporary materialized orReplace ifNotExists : Bool) (columns : Many .column)
    (query : Slot (.optional .any)) : Node .createView :=
  .node .createView (.field name (.field (.atom temporary) (.field (.atom materialized) (.field
    (.atom orReplace) (.field (.atom ifNotExists) (.field columns (.field query .done)))))))

@[match_pattern] abbrev createIndex (name : Node .identifier) (table : Optional .table)
    (columns : Slot (.many .any)) (unique ifNotExists : Bool) (method : Option String)
    (filter : Optional .whereClause) : Node .createIndex :=
  .node .createIndex (.field name (.field table (.field columns (.field (.atom unique) (.field
    (.atom ifNotExists) (.field (.atom method) (.field filter .done)))))))

@[match_pattern] abbrev createSchema (schema : Node .identifier) (ifNotExists : Bool)
    : Node .createSchema :=
  .node .createSchema (.field schema (.field (.atom ifNotExists) .done))

@[match_pattern] abbrev createType (name : Node .schemableIdentifier)
    (values : Optional .valueList) : Node .createType :=
  .node .createType (.field name (.field values .done))

@[match_pattern] abbrev dropTable (table : Node .table) (ifExists cascade : Bool)
    : Node .dropTable :=
  .node .dropTable (.field table (.field (.atom ifExists) (.field (.atom cascade) .done)))

@[match_pattern] abbrev dropView (name : Node .schemableIdentifier)
    (materialized ifExists cascade : Bool) : Node .dropView :=
  .node .dropView (.field name (.field (.atom materialized) (.field (.atom ifExists) (.field
    (.atom cascade) .done))))

@[match_pattern] abbrev dropIndex (name : Node .schemableIdentifier) (table : Optional .table)
    (ifExists cascade : Bool) : Node .dropIndex :=
  .node .dropIndex (.field name (.field table (.field (.atom ifExists) (.field (.atom cascade)
    .done))))

@[match_pattern] abbrev dropSchema (schema : Node .identifier) (ifExists cascade : Bool)
    : Node .dropSchema :=
  .node .dropSchema (.field schema (.field (.atom ifExists) (.field (.atom cascade) .done)))

@[match_pattern] abbrev dropType (name : Node .schemableIdentifier) (ifExists : Bool)
    : Node .dropType :=
  .node .dropType (.field name (.field (.atom ifExists) .done))

/-- The name of an object without its schema. -/
def bareName : Node .schemableIdentifier → String
  | .schemableIdentifier _ (.identifier n) => n

/-- The name of a table without its schema. -/
def tableName : Node .table → String
  | .node _ (.field name .done) => bareName name

end Tree

end QueryTree
