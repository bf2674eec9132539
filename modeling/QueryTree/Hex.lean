/-!
# Hexadecimal digits

Digits are written in small letters and read in letters of either case.
-/
namespace QueryTree.Hex

def digit (n : Nat) : Char :=
  if n < 10 then Char.ofNat ('0'.toNat + n) else Char.ofNat ('a'.toNat + (n - 10))

def value? (c : Char) : Option Nat :=
  if '0' ≤ c ∧ c ≤ '9' then some (c.toNat - '0'.toNat)
  else if 'a' ≤ c ∧ c ≤ 'f' then some (c.toNat - 'a'.toNat + 10)
  else if 'A' ≤ c ∧ c ≤ 'F' then some (c.toNat - 'A'.toNat + 10)
  else none

theorem value?_digit (n : Nat) (h : n < 16) : value? (digit n) = some n := by
  revert n
  decide +kernel

/-- The number written in digits, the highest first. -/
def number? (ds : List Char) : Option Nat :=
  ds.foldlM (fun n d => (value? d).map (n * 16 + ·)) 0

end QueryTree.Hex
