import QueryTree.Qualification
import QueryTree.Tree.Dotted

/-!
# Substitution by rules

A transformer that replaces names, types, operators, values and whole nodes by given ones and
records the hooks it goes through, in order.
-/
namespace QueryTree

structure Rules where
  /-- From the name of an identifier to another name. -/
  identifiers : List (String × String) := []
  /-- From the name of a column to another name. -/
  columns : List (String × String) := []
  /-- From the bare name of a table to another table. -/
  tables : List (String × String) := []
  /-- From the text of a data type to another text. -/
  dataTypes : List (String × String) := []
  /-- From the symbol of an operator to another operator. -/
  operators : List (String × String) := []
  /-- From the literal of a value to a text. -/
  values : List (String × String) := []
  /-- A node in place of every node of a kind. -/
  nodes : Option (Kind × AnyNode) := none

namespace Rules

/-- The replacement of a node by the rules for its kind. -/
def replacement (r : Rules) : (k : Kind) → Node k → Change (.slot (.node k))
  | .identifier, .identifier n => (r.identifiers.lookup n).map .identifier
  | .column, .column (.identifier n) => (r.columns.lookup n).map Tree.columnNamed
  | .table, t => (r.tables.lookup (Tree.tableName t)).map Tree.parseTable
  | .dataType, .dataType s => (r.dataTypes.lookup s).map .dataType
  | .operator, .operator o =>
    (r.operators.lookup o.symbol).map fun s => .operator ((Operator.parse? s).getD o)
  | .value, .value v => (r.values.lookup v.literal).map fun s => .value (.string s)
  | _, _ => none

/-- The name of a kind in small letters, with low lines between its words. -/
def label (k : Kind) : String :=
  String.ofList ((k.name.toList.flatMap fun c =>
    if c.isUpper then ['_', c.toLower] else [c]).drop 1)

/-- The transformer that goes by the rules. Its state is the record so far: an asterisk and the name
of the kind for a node in a place that takes any, and the label of the kind for every node. -/
def transformer (r : Rules) : Transformer (Array String) where
  onAny t walk := do
    modify (·.push ("*" ++ t.kind.name))
    match r.nodes with
    | some (k, new) => if t.kind = k then pure (some new) else walk
    | none => walk
  onNode k t walk := do
    modify (·.push (label k))
    match r.replacement k t with
    | some new => pure (some new)
    | none => walk

end Rules

end QueryTree
