import QueryTree.Binary64.Basic

/-!
# The shortest decimal of a number

A finite number is written with the fewest decimal digits that read back as the same number, and of
the decimals with so many digits it is the nearest one. The search goes through the decimal grids
of one to seventeen digits. If a grid has a point that reads back, then one of the two points next
to the number does. A number can lie in the middle between both; which of them is then taken is up
to the format.
-/
namespace QueryTree

/-- The decimal fraction `digits * 10 ^ exponent`. -/
structure Decimal where
  digits : Nat
  exponent : Int
  deriving DecidableEq, Repr

namespace Decimal

def numerator (d : Decimal) : Nat := d.digits * Nat.pow 10 d.exponent.toNat
def denominator (d : Decimal) : Nat := Nat.pow 10 (-d.exponent).toNat

def toBinary64 (negative : Bool) (d : Decimal) : Binary64 :=
  Binary64.ofRatio negative d.numerator d.denominator

/-- Moves the zeros at the end of the digits into the exponent, at most `count` of them. -/
def dropZeros (count : Nat) (d : Decimal) : Decimal :=
  match count with
  | 0 => d
  | count + 1 =>
    if d.digits % 10 = 0 then dropZeros count ⟨d.digits / 10, d.exponent + 1⟩ else d

def digitText (d : Decimal) : List Char := Nat.toDigits 10 d.digits

def leadingExponent (d : Decimal) : Int := d.exponent + d.digitText.length - 1

end Decimal

namespace Binary64

/-- The least `j ≤ fuel` with `1 ≤ num * 10 ^ j / den`. -/
def leadingZeros (fuel num den : Nat) : Nat :=
  match fuel with
  | 0 => 0
  | fuel + 1 => if den ≤ num then 0 else leadingZeros fuel (num * 10) den + 1

/-- The exponent `k` with `10 ^ (k - 1) ≤ num / den < 10 ^ k`, for positive `num` and `den`. -/
def decimalExponent (num den : Nat) : Int :=
  if den ≤ num then (Nat.toDigits 10 (num / den)).length
  else 1 - (leadingZeros 400 num den : Int)

/-- Which of two equally near decimals is taken: the upper one, or the one with an even last digit. -/
inductive Tie
  | up | even
  deriving DecidableEq, Repr

/-- Whether the number `num / den` goes to the natural number below it. -/
def Tie.goesBelow (tie : Tie) (num den : Nat) : Bool :=
  2 * (num % den) < den || (2 * (num % den) == den && tie == .even && num / den % 2 == 0)

/-- The decimal with `count` digits nearest to the magnitude among those that read back. -/
def onGrid? (x : Binary64) (tie : Tie) (count : Nat) : Option Decimal :=
  let shift : Int := count - decimalExponent x.numerator x.denominator
  let num := x.numerator * Nat.pow 10 shift.toNat
  let den := x.denominator * Nat.pow 10 (-shift).toNat
  let below : Decimal := ⟨num / den, -shift⟩
  let above : Decimal := ⟨num / den + 1, -shift⟩
  let near := if tie.goesBelow num den then [below, above] else [above, below]
  near.find? fun d => d.toBinary64 x.negative == x

/-- The shortest decimal that reads back as a finite number that is not zero, without its sign. -/
def shortest (x : Binary64) (tie : Tie) : Decimal :=
  let found := ((List.range 17).findSome? fun i => x.onGrid? tie (i + 1)).getD ⟨0, 0⟩
  found.dropZeros 1

/-- Digits written without an exponent; an integer keeps `.0` if `point` says so. -/
def positional (point : Bool) (d : Decimal) : List Char :=
  let digits := d.digitText
  if 0 ≤ d.exponent then
    digits ++ List.replicate d.exponent.toNat '0' ++ (if point then ['.', '0'] else [])
  else
    let places := (-d.exponent).toNat
    let padded := List.replicate (places + 1 - digits.length) '0' ++ digits
    padded.take (padded.length - places) ++ '.' :: padded.drop (padded.length - places)

def signText (x : Binary64) : List Char := if x.negative then ['-'] else []

/-- Text without an exponent and, for an integer, without a point. Ties go up. -/
def plainText (x : Binary64) : String :=
  if !x.isFinite then
    if x.fractionField = 0 then String.ofList (x.signText ++ "inf".toList) else "NaN"
  else if x.isZero then String.ofList (x.signText ++ ['0'])
  else String.ofList (x.signText ++ positional false (x.shortest .up))

end Binary64

end QueryTree
