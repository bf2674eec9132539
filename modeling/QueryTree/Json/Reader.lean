import QueryTree.Json.Basic
import QueryTree.Json.Quoted

/-!
# Reading JSON

A text holds one value, with blanks around it and between its parts. Containers may be nested up to
a given depth. In the value that is read the members of every object are in ascending order of
their keys, and of two members with the same key the later one counts.
-/
namespace QueryTree.JsonTree

def isSpace (c : Char) : Bool := c == ' ' || c == '\n' || c == '\t' || c == '\r'

def skipSpace (cs : List Char) : List Char := cs.dropWhile isSpace

/-- Reads one part from the start of a text and gives the rest. The items of an array and the
members of an object are read together with the closing bracket, when at least one is there. The
first argument bounds the number of calls, `depth` the containers that may still be opened. -/
def readPart : Nat → (p : JsonPart) → (depth : Nat) → List Char → Option (JsonTree p × List Char)
  | 0, _, _, _ => none
  | fuel + 1, .value, depth, cs =>
    match skipSpace cs with
    | 'n' :: 'u' :: 'l' :: 'l' :: rest => some (.null, rest)
    | 't' :: 'r' :: 'u' :: 'e' :: rest => some (.bool true, rest)
    | 'f' :: 'a' :: 'l' :: 's' :: 'e' :: rest => some (.bool false, rest)
    | '"' :: rest => (Quoted.read? rest).map fun (s, rest) => (.string s, rest)
    | '[' :: rest =>
      match depth with
      | 0 => none
      | depth + 1 =>
        match skipSpace rest with
        | ']' :: rest => some (.array .nil, rest)
        | rest => (readPart fuel .items depth rest).map fun (xs, rest) => (.array xs, rest)
    | '\x7b' :: rest =>
      match depth with
      | 0 => none
      | depth + 1 =>
        match skipSpace rest with
        | '\x7d' :: rest => some (.object .empty, rest)
        | rest => (readPart fuel .members depth rest).map fun (ms, rest) => (.object ms, rest)
    | rest => (Number.read? rest).map fun (n, rest) => (.number n, rest)
  | fuel + 1, .items, depth, cs =>
    (readPart fuel .value depth cs).bind fun (x, rest) =>
      match skipSpace rest with
      | ',' :: rest => (readPart fuel .items depth rest).map fun (xs, rest) => (.cons x xs, rest)
      | ']' :: rest => some (.cons x .nil, rest)
      | _ => none
  | fuel + 1, .members, depth, cs =>
    match skipSpace cs with
    | '"' :: rest =>
      (Quoted.read? rest).bind fun (k, rest) =>
        match skipSpace rest with
        | ':' :: rest =>
          (readPart fuel .value depth rest).bind fun (x, rest) =>
            match skipSpace rest with
            | ',' :: rest =>
              (readPart fuel .members depth rest).map fun (ms, rest) => (.member k x ms, rest)
            | '\x7d' :: rest => some (.member k x .empty, rest)
            | _ => none
        | _ => none
    | _ => none

/-- The value that a text holds, with members in the order of the text. -/
def readOrdered? (depth : Nat) (text : String) : Option Json :=
  match readPart (2 * text.length + 2) .value depth text.toList with
  | some (x, rest) => if (skipSpace rest).isEmpty then some x else none
  | none => none

def read? (depth : Nat) (text : String) : Option Json :=
  (readOrdered? depth text).map sorted

/-- How deep containers may be nested in a text. -/
def maxDepth : Nat := 127

end QueryTree.JsonTree
