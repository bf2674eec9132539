import QueryTree.Node
import QueryTree.Unicode.Blank

/-!
# Names with dots

The short ways to write tables and references: parts with dots between them, and blanks around the
parts.
-/
namespace QueryTree.Tree

open Unicode

def bare (name : String) : Node .schemableIdentifier := .schemableIdentifier .none (.identifier name)

def qualified (schema name : String) : Node .schemableIdentifier :=
  .schemableIdentifier (.some (.identifier schema)) (.identifier name)

def tableNamed (name : String) : Node .table := .table (bare name)

def columnNamed (name : String) : Node .column := .column (.identifier name)

def columnsNamed (names : List String) : Many .column := ofList (names.map columnNamed)

def part (cs : List Char) : String := String.ofList (trimBlanks cs)

/-- What stands before and after the first dot, if there is one. -/
def splitFirst? (cs : List Char) : Option (List Char × List Char) :=
  match cs.dropWhile (· != '.') with
  | [] => Option.none
  | _ :: rest => Option.some (cs.takeWhile (· != '.'), rest)

/-- What stands before and after the last dot, if there is one. -/
def splitLast? (cs : List Char) : Option (List Char × List Char) :=
  (splitFirst? cs.reverse).map fun (last, rest) => (rest.reverse, last.reverse)

def tableOfChars (cs : List Char) : Node .table :=
  match splitFirst? cs with
  | Option.some (schema, name) => .table (qualified (part schema) (part name))
  | Option.none => .table (bare (part cs))

def parseTable (s : String) : Node .table := tableOfChars s.toList

/-- A column, or all columns where an asterisk is written. -/
def columnOrAll (cs : List Char) : AnyNode :=
  if part cs = "*" then .any .selectAll else .any (columnNamed (part cs))

/-- The reference written as `column`, `table.column` or `schema.table.column`, with an asterisk for
all columns. -/
def parseReference (s : String) : AnyNode :=
  match splitLast? s.toList with
  | Option.some (owner, last) =>
    .any (.reference (.some (tableOfChars owner)) (columnOrAll last))
  | Option.none =>
    match columnOrAll s.toList with
    | .any .selectAll => .any .selectAll
    | c => .any (.reference .none c)

end QueryTree.Tree
