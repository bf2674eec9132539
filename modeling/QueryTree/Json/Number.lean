import QueryTree.Binary64.Shortest

/-!
# Numbers in JSON

A number is held exactly if it is an integer from `-2 ^ 63` up to `2 ^ 64`, and as a floating-point
number otherwise. A number read from text with a fraction or an exponent goes through a significand
below `2 ^ 64` and one scaling by a power of ten, each step rounded by itself.
-/
namespace QueryTree

abbrev ExactInt := { n : Int // -9223372036854775808 ≤ n ∧ n < 18446744073709551616 }

inductive Number
  | int (n : ExactInt)
  | float (x : Binary64)
  deriving DecidableEq

namespace Number

def ofInt (n : Int) : Number :=
  if h : -9223372036854775808 ≤ n ∧ n < 18446744073709551616 then .int ⟨n, h⟩
  else .float (.ofInt n)

def toBinary64 : Number → Binary64
  | .int n => .ofInt n
  | .float x => x

/-- A decimal written with one digit before the point and a signed exponent. -/
def scientific (d : Decimal) : List Char :=
  let exponent := d.leadingExponent
  let mantissa := match d.digitText with
    | c :: c' :: cs => c :: '.' :: c' :: cs
    | cs => cs
  mantissa ++ 'e' :: (if exponent < 0 then '-' else '+') :: Nat.toDigits 10 exponent.natAbs

/-- The shortest text of a floating-point number that reads back: positional with a point where the
leading digit stands between the fifth place after the point and the sixteenth before it, and with
an exponent elsewhere. Ties go to the even digit. What is not finite has no text of its own and is
written `null`. -/
def floatText (x : Binary64) : List Char :=
  if !x.isFinite then "null".toList
  else if x.isZero then x.signText ++ ['0', '.', '0']
  else
    let d := x.shortest .even
    x.signText ++
      if -5 ≤ d.leadingExponent ∧ d.leadingExponent ≤ 15 then Binary64.positional true d
      else scientific d

def text : Number → List Char
  | .int n => (toString n.val).toList
  | .float x => floatText x

def digitValue (c : Char) : Nat := c.toNat - '0'.toNat

/-- Appends digits to a significand as long as it stays below `2 ^ 64`, and gives the digits left. -/
def absorb (significand : Nat) : List Char → Nat × List Char
  | [] => (significand, [])
  | c :: cs =>
    let longer := significand * 10 + digitValue c
    if longer < Nat.pow 2 64 then absorb longer cs else (significand, c :: cs)

def digitsValue (cs : List Char) : Nat :=
  cs.foldl (fun n c => n * 10 + digitValue c) 0

def powerOfTen (k : Nat) : Binary64 := .ofNat (Nat.pow 10 k)

/-- A floating-point number divided `times` times by `10 ^ 308` and then by `10 ^ k`. -/
def divideDown (x : Binary64) (k : Nat) : Nat → Binary64
  | 0 => x.div (powerOfTen k)
  | times + 1 => if x.isZero then x else divideDown (x.div (powerOfTen 308)) k times

/-- A floating-point number divided by `10 ^ k`, by at most `10 ^ 308` at a time. -/
def scaleDown (x : Binary64) (k : Nat) : Binary64 :=
  divideDown x (k - (k - 1) / 308 * 308) ((k - 1) / 308)

/-- `significand * 10 ^ exponent`; there is none if it is too large. -/
def scaled? (negative : Bool) (significand : Nat) (exponent : Int) : Option Binary64 :=
  let x := Binary64.ofNat significand
  let magnitude? :=
    if exponent < 0 then some (scaleDown x (-exponent).toNat)
    else if exponent ≤ 308 then
      let y := x.mul (powerOfTen exponent.toNat)
      if y.isFinite then some y else none
    else if x.isZero then some x else none
  magnitude?.map fun y => if negative then y.neg else y

/-- The digits of a number as they stand in a text. -/
structure Spelling where
  negative : Bool
  whole : List Char
  fraction : Option (List Char)
  exponent : Option (Bool × List Char)

/-- The number that a spelling denotes; there is none if it is too large. -/
def ofSpelling? (s : Spelling) : Option Number :=
  let (whole, dropped) := absorb 0 s.whole
  if s.fraction.isNone && s.exponent.isNone && dropped.isEmpty then
    if s.negative then
      some (if whole = 0 ∨ Nat.pow 2 63 < whole then .float (Binary64.ofNat whole).neg
        else ofInt (-whole))
    else some (ofInt whole)
  else
    let digits := s.fraction.getD []
    let (significand, unread) := absorb whole digits
    let places : Int := dropped.length - (digits.length - unread.length : Nat)
    match s.exponent with
    | none => (scaled? s.negative significand places).map .float
    | some (down, ds) =>
      let e := digitsValue ds
      if Nat.pow 2 31 ≤ e then
        if significand ≠ 0 ∧ !down then none
        else some (.float (.ofParts s.negative 0))
      else (scaled? s.negative significand (if down then places - e else places + e)).map .float

/-- Splits the digits at the start of a text from the rest; there is at least one. -/
def digits? (cs : List Char) : Option (List Char × List Char) :=
  match cs.takeWhile Char.isDigit with
  | [] => none
  | ds => some (ds, cs.dropWhile Char.isDigit)

/-- The digits before the point: a zero stands alone. -/
def whole? (cs : List Char) : Option (List Char × List Char) :=
  match digits? cs with
  | some ('0' :: _ :: _, _) => none
  | r => r

def fraction? (cs : List Char) : Option (Option (List Char) × List Char) :=
  match cs with
  | '.' :: rest => (digits? rest).map fun (ds, rest) => (some ds, rest)
  | _ => some (none, cs)

def exponent? (cs : List Char) : Option (Option (Bool × List Char) × List Char) :=
  let digitsAfter (down : Bool) (rest : List Char) :=
    (digits? rest).map fun (ds, rest) => (some (down, ds), rest)
  let signed (rest : List Char) :=
    match rest with
    | '-' :: rest => digitsAfter true rest
    | '+' :: rest => digitsAfter false rest
    | _ => digitsAfter false rest
  match cs with
  | 'e' :: rest => signed rest
  | 'E' :: rest => signed rest
  | _ => some (none, cs)

/-- The spelling at the start of a text, and the rest of the text. -/
def spelling? (cs : List Char) : Option (Spelling × List Char) := do
  let (negative, cs) := match cs with
    | '-' :: rest => (true, rest)
    | _ => (false, cs)
  let (whole, cs) ← whole? cs
  let (fraction, cs) ← fraction? cs
  let (exponent, cs) ← exponent? cs
  some (⟨negative, whole, fraction, exponent⟩, cs)

/-- The number at the start of a text, and the rest of the text. -/
def read? (cs : List Char) : Option (Number × List Char) := do
  let (s, rest) ← spelling? cs
  let n ← ofSpelling? s
  some (n, rest)

end Number

end QueryTree
