import QueryTree.Json.Basic
import QueryTree.Json.Quoted

/-!
# Writing JSON

Compact text has no blanks; indented text puts every item and member on a line of its own.
-/
namespace QueryTree.JsonTree

/-- Compact text. Every item and member is led by a comma, of which a container drops the first. -/
def compact : {p : JsonPart} → JsonTree p → List Char
  | _, .null => "null".toList
  | _, .bool b => (if b then "true" else "false").toList
  | _, .number n => n.text
  | _, .string s => Quoted.write s.toList
  | _, .array items => '[' :: (items.compact.drop 1 ++ [']'])
  | _, .object ms => '\x7b' :: (ms.compact.drop 1 ++ ['\x7d'])
  | _, .nil => []
  | _, .cons x xs => ',' :: (x.compact ++ xs.compact)
  | _, .empty => []
  | _, .member k x rest => ',' :: (Quoted.write k.toList ++ ':' :: (x.compact ++ rest.compact))

/-- Compact text with more text after it. Nothing is copied on the way up, so this is the way to
write deep values. -/
def compactOnto : {p : JsonPart} → JsonTree p → (first : Bool) → List Char → List Char
  | _, .null, _, rest => "null".toList ++ rest
  | _, .bool b, _, rest => (if b then "true" else "false").toList ++ rest
  | _, .number n, _, rest => n.text ++ rest
  | _, .string s, _, rest => Quoted.write s.toList ++ rest
  | _, .array items, _, rest => '[' :: items.compactOnto true (']' :: rest)
  | _, .object ms, _, rest => '\x7b' :: ms.compactOnto true ('\x7d' :: rest)
  | _, .nil, _, rest => rest
  | _, .cons x xs, first, rest =>
    let text := x.compactOnto true (xs.compactOnto false rest)
    if first then text else ',' :: text
  | _, .empty, _, rest => rest
  | _, .member k x ms, first, rest =>
    let text := Quoted.write k.toList ++ ':' :: x.compactOnto true (ms.compactOnto false rest)
    if first then text else ',' :: text

/-- The part of the text of the items or members of a container that is written. -/
def afterFirst : JsonPart → Bool → List Char → List Char
  | .items, true, cs => cs.drop 1
  | .members, true, cs => cs.drop 1
  | _, _, cs => cs

theorem compactOnto_eq {p : JsonPart} (t : JsonTree p) (first : Bool) (rest : List Char) :
    t.compactOnto first rest = afterFirst p first t.compact ++ rest := by
  induction t generalizing first rest <;> cases first <;>
    simp_all [compactOnto, compact, afterFirst]

def compactText (x : Json) : String := String.ofList (x.compactOnto true [])

theorem compactText_eq (x : Json) : x.compactText = String.ofList x.compact := by
  simp [compactText, compactOnto_eq, afterFirst]

def newLine (depth : Nat) : List Char := '\n' :: List.replicate (2 * depth) ' '

/-- Encloses what stands inside a container, on lines of its own unless there is nothing. -/
def enclose (opening closing : Char) (inside : List Char) (depth : Nat) : List Char :=
  if inside.isEmpty then [opening, closing]
  else opening :: (inside.drop 1 ++ newLine depth ++ [closing])

/-- Indented text, two blanks a level, for a container at a given depth. -/
def indented : {p : JsonPart} → JsonTree p → Nat → List Char
  | _, .null, _ => "null".toList
  | _, .bool b, _ => (if b then "true" else "false").toList
  | _, .number n, _ => n.text
  | _, .string s, _ => Quoted.write s.toList
  | _, .array items, depth => enclose '[' ']' (items.indented depth) depth
  | _, .object ms, depth => enclose '\x7b' '\x7d' (ms.indented depth) depth
  | _, .nil, _ => []
  | _, .cons x xs, depth =>
    ',' :: (newLine (depth + 1) ++ x.indented (depth + 1) ++ xs.indented depth)
  | _, .empty, _ => []
  | _, .member k x rest, depth =>
    ',' :: (newLine (depth + 1) ++ Quoted.write k.toList ++ ':' :: ' ' ::
      (x.indented (depth + 1) ++ rest.indented depth))

def indentedText (x : Json) : String := String.ofList (x.indented 0)

end QueryTree.JsonTree
