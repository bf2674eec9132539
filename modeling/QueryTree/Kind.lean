/-!
# The kinds of node

A query tree is built from nodes of a closed list of kinds. Each kind has a name, by which a node
says what it is when it is written down. Sixteen kinds are *roots*: they are complete statements.
-/
namespace QueryTree

/-- A type with finitely many values, each of which has a name of its own. -/
class Named (α : Type) where
  /-- Every value once, in the order in which they are declared. -/
  all : List α
  name : α → String

namespace Named

variable {α : Type} [Named α]

/-- The value that bears a name; names are compared exactly. -/
def find? (s : String) : Option α :=
  all.find? fun x => name x == s

theorem name_of_find? {s : String} {x : α} (h : find? s = some x) : name x = s := by
  simpa using List.find?_some h

end Named

inductive Kind
  -- identifiers and references
  | identifier | schemableIdentifier | table | column | reference | selectAll | aliased | raw
  -- values
  | value | valueList | values
  -- expressions
  | operator | binaryOperation | unaryOperation | and | or | parens | function
  -- clauses
  | selection | fromClause | join | onClause | whereClause | groupBy | having | orderBy
  | orderByItem | limit | offset | returning | columnUpdate | setOperation | withClause
  | commonTable | commonTableName
  -- queries
  | selectQuery | insertQuery | updateQuery | deleteQuery
  -- definitions of schema objects
  | dataType | columnDefinition | references | addColumn | dropColumn | renameColumn
  | alterTable | createTable | createView | createIndex | createSchema | createType
  | dropTable | dropView | dropIndex | dropSchema | dropType
  deriving DecidableEq, Repr

namespace Kind

def name : Kind → String
  | identifier => "Identifier"
  | schemableIdentifier => "SchemableIdentifier"
  | table => "Table"
  | column => "Column"
  | reference => "Reference"
  | selectAll => "SelectAll"
  | aliased => "Alias"
  | raw => "Raw"
  | value => "Value"
  | valueList => "ValueList"
  | values => "Values"
  | operator => "Operator"
  | binaryOperation => "BinaryOperation"
  | unaryOperation => "UnaryOperation"
  | and => "And"
  | or => "Or"
  | parens => "Parens"
  | function => "Function"
  | selection => "Selection"
  | fromClause => "From"
  | join => "Join"
  | onClause => "On"
  | whereClause => "Where"
  | groupBy => "GroupBy"
  | having => "Having"
  | orderBy => "OrderBy"
  | orderByItem => "OrderByItem"
  | limit => "Limit"
  | offset => "Offset"
  | returning => "Returning"
  | columnUpdate => "ColumnUpdate"
  | setOperation => "SetOperation"
  | withClause => "With"
  | commonTable => "CommonTableExpression"
  | commonTableName => "CommonTableExpressionName"
  | selectQuery => "SelectQuery"
  | insertQuery => "InsertQuery"
  | updateQuery => "UpdateQuery"
  | deleteQuery => "DeleteQuery"
  | dataType => "DataType"
  | columnDefinition => "ColumnDefinition"
  | references => "References"
  | addColumn => "AddColumn"
  | dropColumn => "DropColumn"
  | renameColumn => "RenameColumn"
  | alterTable => "AlterTable"
  | createTable => "CreateTable"
  | createView => "CreateView"
  | createIndex => "CreateIndex"
  | createSchema => "CreateSchema"
  | createType => "CreateType"
  | dropTable => "DropTable"
  | dropView => "DropView"
  | dropIndex => "DropIndex"
  | dropSchema => "DropSchema"
  | dropType => "DropType"

def all : List Kind :=
  [identifier, schemableIdentifier, table, column, reference, selectAll, aliased, raw,
   value, valueList, values,
   operator, binaryOperation, unaryOperation, and, or, parens, function,
   selection, fromClause, join, onClause, whereClause, groupBy, having, orderBy,
   orderByItem, limit, offset, returning, columnUpdate, setOperation, withClause,
   commonTable, commonTableName,
   selectQuery, insertQuery, updateQuery, deleteQuery,
   dataType, columnDefinition, references, addColumn, dropColumn, renameColumn,
   alterTable, createTable, createView, createIndex, createSchema, createType,
   dropTable, dropView, dropIndex, dropSchema, dropType]

instance : Named Kind := ⟨all, name⟩

/-- Whether a node of this kind is a complete statement. -/
def isRoot : Kind → Bool
  | raw | selectQuery | insertQuery | updateQuery | deleteQuery
  | alterTable | createTable | createView | createIndex | createSchema | createType
  | dropTable | dropView | dropIndex | dropSchema | dropType => true
  | _ => false

/-- Whether a statement of this kind reads or changes rows. -/
def isQuery : Kind → Bool
  | selectQuery | insertQuery | updateQuery | deleteQuery => true
  | _ => false

def ofName? (s : String) : Option Kind := Named.find? s

theorem mem_all (k : Kind) : k ∈ all := by
  cases k <;> decide

theorem ofName?_name (k : Kind) : ofName? k.name = some k := by
  have hall : ∀ k ∈ all, ofName? k.name = some k := by decide +kernel
  exact hall k (mem_all k)

theorem name_injective {j k : Kind} (h : j.name = k.name) : j = k := by
  have := ofName?_name j
  rw [h, ofName?_name k] at this
  exact (Option.some.inj this).symm

end Kind

end QueryTree
