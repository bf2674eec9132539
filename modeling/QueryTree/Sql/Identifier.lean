import QueryTree.Unicode.Alphabetic
import QueryTree.Unicode.Lowercase
import QueryTree.Unicode.Numeric
import QueryTree.Unicode.Uppercase

/-!
# Identifiers

A name stands for itself where SQL would read it back as the same name, and between double quotes
otherwise.
-/
namespace QueryTree.Identifier

/-- The words that are names only between quotes. -/
def reservedWords : List String :=
  ["all", "alter", "and", "as", "between", "case", "check", "constraint", "create", "default",
   "delete", "distinct", "drop", "else", "end", "false", "foreign", "from", "group", "having",
   "in", "index", "inner", "insert", "is", "join", "key", "left", "like", "limit", "not", "null",
   "offset", "on", "or", "order", "outer", "primary", "references", "right", "schema", "select",
   "table", "then", "true", "type", "union", "update", "user", "view", "when", "where", "with"]

/-- A character that may stand in a name without quotes. -/
def isWordChar (c : Char) : Bool := Unicode.isAlphabetic c || Unicode.isNumeric c || c == '_'

/-- A name that starts a word of SQL: not empty, and not with a numeral. -/
def startsWord : List Char → Bool
  | [] => false
  | c :: _ => !Unicode.isNumeric c

/-- A name that needs no quotes: one word in small letters that is not reserved. -/
def isPlain (name : String) : Bool :=
  !reservedWords.contains (Unicode.lowercase name) && startsWord name.toList &&
    name.toList.all fun c => isWordChar c && !Unicode.isUppercase c

/-- A name between double quotes; a quote in it is written twice. -/
def quote (name : String) : String :=
  String.ofList ('"' :: (name.toList.flatMap (fun c => if c = '"' then ['"', '"'] else [c]) ++ ['"']))

/-- A name with quotes only if it needs them. -/
def escape (name : String) : String := if isPlain name then name else quote name

end QueryTree.Identifier
