import QueryTree.Json.Printer
import QueryTree.Uuid
import QueryTree.Timestamp

/-!
# Runtime values

The values that a tree can carry, and the SQL literals that stand for them.
-/
namespace QueryTree

inductive Value
  | null
  | bool (b : Bool)
  | int (n : Int64)
  | float (x : Binary64)
  | string (s : String)
  | bytes (bs : List UInt8)
  | uuid (u : Uuid)
  | timestamp (t : Timestamp)
  | json (x : Json)
  deriving DecidableEq

namespace Value

/-- Text between single quotes, in which a quote is written twice. -/
def quote (cs : List Char) : List Char :=
  '\'' :: (cs.flatMap (fun c => if c = '\'' then ['\'', '\''] else [c]) ++ ['\''])

def byteText (b : UInt8) : List Char :=
  [Hex.digit (b.toNat / 16), Hex.digit (b.toNat % 16)]

/-- The SQL literal of a value. -/
def literal : Value → String
  | null => "NULL"
  | bool b => if b then "true" else "false"
  | int n => toString n.toInt
  | float x => x.plainText
  | string s => String.ofList (quote s.toList)
  | bytes bs => String.ofList (quote ('\\' :: 'x' :: bs.flatMap byteText))
  | uuid u => String.ofList (quote u.text.toList)
  | timestamp t => String.ofList (quote (t.textWith "+00:00").toList)
  | json x => String.ofList (quote x.compact)

/-- A value written down: its variant's name, with what it holds unless it is null. -/
def toJson : Value → Json
  | null => .string "Null"
  | bool b => .objectOf [("Bool", .bool b)]
  | int n => .objectOf [("Int", .ofInt n.toInt)]
  | float x => .objectOf [("Float", .number (.float x))]
  | string s => .objectOf [("String", .string s)]
  | bytes bs => .objectOf [("Bytes", .arrayOf (bs.map fun b => .ofInt b.toNat))]
  | uuid u => .objectOf [("Uuid", .string u.text)]
  | timestamp t => .objectOf [("Timestamp", .string (t.textWith "Z"))]
  | json x => .objectOf [("Json", x)]

end Value

end QueryTree
