import QueryTree.Hex

/-!
# Texts in TOML

A text stands between single or double quotes, one or three of them. Between double quotes a
backslash starts an escape; between single quotes every character is taken as it is. Line breaks
stand only between three quotes; one right after the opening quotes does not belong to the text.
-/
namespace QueryTree.Toml

/-- The characters that can stand for themselves within a line of a text. -/
def isPlain (c : Char) : Bool := c == '\t' || (0x20 ≤ c.toNat && c.toNat != 0x7f)

/-- The character with a number written in hexadecimal digits. -/
def charOfHex? (ds : List Char) : Option Char := do
  let n ← Hex.number? ds
  if n.isValidChar then some (Char.ofNat n) else none

/-- The character for a letter after a backslash. -/
def charOfEscape? : Char → Option Char
  | 'b' => some '\x08'
  | 't' => some '\t'
  | 'n' => some '\n'
  | 'f' => some '\x0c'
  | 'r' => some '\r'
  | '"' => some '"'
  | '\\' => some '\\'
  | _ => none

/-- A text read so far, and what follows it. -/
abbrev Reading := Option (List Char × List Char)

/-- Puts a character in front of a text. -/
def add (c : Option Char) (r : Reading) : Reading := do
  let c ← c
  let (cs, rest) ← r
  some (c :: cs, rest)

def basic : List Char → Reading
  | '"' :: rest => some ([], rest)
  | '\\' :: 'u' :: a :: b :: c :: d :: rest => add (charOfHex? [a, b, c, d]) (basic rest)
  | '\\' :: 'U' :: a :: b :: c :: d :: e :: f :: g :: h :: rest =>
    add (charOfHex? [a, b, c, d, e, f, g, h]) (basic rest)
  | '\\' :: c :: rest => add (charOfEscape? c) (basic rest)
  | c :: rest => if isPlain c then add (some c) (basic rest) else none
  | [] => none

/-- Reads up to a single quote. -/
def literal : List Char → Reading
  | '\'' :: rest => some ([], rest)
  | c :: rest => if isPlain c then add (some c) (literal rest) else none
  | [] => none

/-- What follows three closing quotes. One or two more of them belong to the text. -/
def closing (q : Char) : List Char → List Char × List Char
  | a :: b :: rest =>
    if a = q then if b = q then ([q, q], rest) else ([q], b :: rest) else ([], a :: b :: rest)
  | [a] => if a = q then ([q], []) else ([], [a])
  | [] => ([], [])

/-- What follows blanks and at least one line break, if these come next. -/
def afterBreak? : List Char → Option (List Char)
  | ' ' :: rest => afterBreak? rest
  | '\t' :: rest => afterBreak? rest
  | '\n' :: rest => some rest
  | '\r' :: '\n' :: rest => some rest
  | _ => none

/-- Reads up to three double quotes. A backslash at the end of a line takes out the line break and
all blanks and line breaks after it; while it does so, nothing else is read. -/
def multilineBasic : (folding : Bool) → List Char → Reading
  | true, ' ' :: rest => multilineBasic true rest
  | true, '\t' :: rest => multilineBasic true rest
  | true, '\n' :: rest => multilineBasic true rest
  | true, '\r' :: '\n' :: rest => multilineBasic true rest
  | _, '"' :: '"' :: '"' :: rest => some (closing '"' rest)
  | _, '\\' :: 'u' :: a :: b :: c :: d :: rest =>
    add (charOfHex? [a, b, c, d]) (multilineBasic false rest)
  | _, '\\' :: 'U' :: a :: b :: c :: d :: e :: f :: g :: h :: rest =>
    add (charOfHex? [a, b, c, d, e, f, g, h]) (multilineBasic false rest)
  | _, '\\' :: c :: rest =>
    if (afterBreak? (c :: rest)).isSome then multilineBasic true (c :: rest)
    else add (charOfEscape? c) (multilineBasic false rest)
  | _, '\n' :: rest => add (some '\n') (multilineBasic false rest)
  | _, '\r' :: '\n' :: rest => add (some '\n') (multilineBasic false rest)
  | _, c :: rest => if isPlain c then add (some c) (multilineBasic false rest) else none
  | _, [] => none

def multilineLiteral : List Char → Reading
  | '\'' :: '\'' :: '\'' :: rest => some (closing '\'' rest)
  | '\n' :: rest => add (some '\n') (multilineLiteral rest)
  | '\r' :: '\n' :: rest => add (some '\n') (multilineLiteral rest)
  | c :: rest => if isPlain c then add (some c) (multilineLiteral rest) else none
  | [] => none

def skipBreak : List Char → List Char
  | '\n' :: rest => rest
  | '\r' :: '\n' :: rest => rest
  | cs => cs

def line? : List Char → Reading
  | '"' :: rest => basic rest
  | '\'' :: rest => literal rest
  | _ => none

def text? : List Char → Reading
  | '"' :: '"' :: '"' :: rest => multilineBasic false (skipBreak rest)
  | '\'' :: '\'' :: '\'' :: rest => multilineLiteral (skipBreak rest)
  | cs => line? cs

end QueryTree.Toml
