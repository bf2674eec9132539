/-!
# Binary floating-point numbers of 64 bits

A number is its bit pattern: a sign, an exponent field of eleven bits and a fraction field of
fifty-two. The value of a finite number is `significand * 2 ^ (scale - 1075)`. All arithmetic is
exact arithmetic on natural numbers followed by one rounding to the nearest number, of two equally
near ones to the even one.
-/
namespace QueryTree

structure Binary64 where
  bits : UInt64
  deriving DecidableEq, Repr

namespace Binary64

def negative (x : Binary64) : Bool := x.bits.toNat / Nat.pow 2 63 == 1
def exponentField (x : Binary64) : Nat := x.bits.toNat / Nat.pow 2 52 % Nat.pow 2 11
def fractionField (x : Binary64) : Nat := x.bits.toNat % Nat.pow 2 52

def isFinite (x : Binary64) : Bool := x.exponentField != 2047
def isZero (x : Binary64) : Bool := x.exponentField == 0 && x.fractionField == 0

def significand (x : Binary64) : Nat :=
  if x.exponentField = 0 then x.fractionField else x.fractionField + Nat.pow 2 52

def scale (x : Binary64) : Nat := max x.exponentField 1

/-- The magnitude of a finite number as a fraction: its numerator. -/
def numerator (x : Binary64) : Nat := x.significand * Nat.pow 2 (x.scale - 1075)

/-- The magnitude of a finite number as a fraction: its denominator. -/
def denominator (x : Binary64) : Nat := Nat.pow 2 (1075 - x.scale)

/-- The number with a given sign and magnitude bits. -/
def ofParts (negative : Bool) (magnitude : Nat) : Binary64 :=
  ⟨UInt64.ofNat (magnitude + if negative then Nat.pow 2 63 else 0)⟩

/-- The exponent `k` with `2 ^ k ≤ num / den < 2 ^ (k + 1)`, for positive `num` and `den`. -/
def binaryExponent (num den : Nat) : Int :=
  let k : Int := (Nat.log2 num : Int) - Nat.log2 den
  if den * Nat.pow 2 k.toNat ≤ num * Nat.pow 2 (-k).toNat then k else k - 1

/-- A quotient rounded to the nearest natural number, of two equally near ones to the even one. -/
def roundDiv (num den : Nat) : Nat :=
  let q := num / den
  let r := num % den
  if 2 * r > den || (2 * r == den && q % 2 == 1) then q + 1 else q

/-- The number nearest to a fraction; a magnitude beyond the largest finite one is infinite. -/
def ofRatio (negative : Bool) (num den : Nat) : Binary64 :=
  if num = 0 then ofParts negative 0
  else
    let scale := max (binaryExponent num den + 1023).toNat 1
    let rounded := roundDiv (num * Nat.pow 2 (1075 - scale)) (den * Nat.pow 2 (scale - 1075))
    ofParts negative (min ((scale - 1) * Nat.pow 2 52 + rounded) (2047 * Nat.pow 2 52))

def ofNat (n : Nat) : Binary64 := ofRatio false n 1

def ofInt (n : Int) : Binary64 := ofRatio (n < 0) n.natAbs 1

def neg (x : Binary64) : Binary64 := ofParts (!x.negative) (x.bits.toNat % Nat.pow 2 63)

def mul (x y : Binary64) : Binary64 :=
  ofRatio (x.negative != y.negative) (x.numerator * y.numerator) (x.denominator * y.denominator)

/-- The quotient of finite numbers, the second of which is not zero. -/
def div (x y : Binary64) : Binary64 :=
  ofRatio (x.negative != y.negative) (x.numerator * y.denominator) (x.denominator * y.numerator)

end Binary64

end QueryTree
