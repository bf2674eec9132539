import QueryTree.Error
import QueryTree.Sql.Identifier

/-!
# Dialects

What two databases write differently: names, the places of parameters and truth values.
-/
namespace QueryTree

inductive Dialect
  | postgres | sqlite
  deriving DecidableEq, Repr

namespace Dialect

def name : Dialect → String
  | postgres => "postgres"
  | sqlite => "sqlite"

/-- The dialect that a user asks for, by one of its names in letters of either case. -/
def parse (s : String) : Except Error Dialect :=
  let lower := Unicode.lowercase s
  if lower ∈ ["postgres", "postgresql", "pg"] then .ok postgres
  else if lower ∈ ["sqlite", "sqlite3"] then .ok sqlite
  else .error (.unknownDialect lower)

def identifier : Dialect → String → String
  | postgres, s => Identifier.escape s
  | sqlite, s => Identifier.quote s

/-- The place of the parameter with a given number, counted from one. -/
def placeholder : Dialect → Nat → String
  | postgres, n => "$" ++ toString n
  | sqlite, _ => "?"

def boolLiteral : Dialect → Bool → String
  | postgres, b => if b then "true" else "false"
  | sqlite, b => if b then "1" else "0"

end Dialect

end QueryTree
