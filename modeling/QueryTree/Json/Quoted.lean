import QueryTree.Hex

/-!
# Quoted text in JSON

A text is written between double quotes. Quotes, backslashes and control characters are escaped;
every other character stands for itself. Reading also knows the escapes that writing does not use,
among them pairs of surrogates.
-/
namespace QueryTree.Quoted

def escape (c : Char) : List Char :=
  if c = '"' then ['\\', '"']
  else if c = '\\' then ['\\', '\\']
  else if c = '\n' then ['\\', 'n']
  else if c = '\r' then ['\\', 'r']
  else if c = '\t' then ['\\', 't']
  else if c.toNat = 8 then ['\\', 'b']
  else if c.toNat = 12 then ['\\', 'f']
  else if c.toNat < 32 then
    ['\\', 'u', '0', '0', Hex.digit (c.toNat / 16), Hex.digit (c.toNat % 16)]
  else [c]

def write (cs : List Char) : List Char :=
  '"' :: (cs.flatMap escape ++ ['"'])

def unit? (a b c d : Char) : Option Nat := Hex.number? [a, b, c, d]

def isHighSurrogate (n : Nat) : Bool := 0xD800 ≤ n && n < 0xDC00
def isLowSurrogate (n : Nat) : Bool := 0xDC00 ≤ n && n < 0xE000

/-- The character that an escape of one letter stands for. -/
def unescape? (c : Char) : Option Char :=
  match c with
  | '"' => some '"'
  | '\\' => some '\\'
  | '/' => some '/'
  | 'b' => some '\x08'
  | 'f' => some '\x0c'
  | 'n' => some '\n'
  | 'r' => some '\r'
  | 't' => some '\t'
  | _ => none

/-- The text up to the closing quote, after the characters in `done`, which are in reverse, and
what follows the quote. -/
def readOnto (done : List Char) : List Char → Option (List Char × List Char)
  | [] => none
  | '"' :: rest => some (done.reverse, rest)
  | '\\' :: 'u' :: a :: b :: c :: d :: rest =>
    match unit? a b c d with
    | none => none
    | some n =>
      if isLowSurrogate n then none
      else if isHighSurrogate n then
        match rest with
        | '\\' :: 'u' :: a :: b :: c :: d :: rest =>
          match unit? a b c d with
          | none => none
          | some m =>
            if isLowSurrogate m then
              readOnto (Char.ofNat (0x10000 + (n - 0xD800) * 0x400 + (m - 0xDC00)) :: done) rest
            else none
        | _ => none
      else readOnto (Char.ofNat n :: done) rest
  | '\\' :: c :: rest =>
    match unescape? c with
    | none => none
    | some c => readOnto (c :: done) rest
  | c :: rest => if c.toNat < 32 then none else readOnto (c :: done) rest

def read? (cs : List Char) : Option (String × List Char) :=
  (readOnto [] cs).map fun (text, rest) => (String.ofList text, rest)

end QueryTree.Quoted
