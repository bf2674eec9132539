import QueryTree.Uuid

/-!
# Identifiers read back

Every identifier is read from its text, which has the hyphens of the five groups. The text can be
taken neither for one in braces nor for a resource name, since it starts with a digit.
-/
namespace QueryTree

namespace Hex

theorem number?_append (ds : List Char) (n : Nat) (d : Nat) (hd : d < 16)
    (h : number? ds = some n) : number? (ds ++ [digit d]) = some (n * 16 + d) := by
  rw [number?] at h
  simp [number?, h, value?_digit d hd]

/-- The digits of a number, the highest first, are read as that number. -/
private theorem number?_range (count n : Nat) :
    number? ((List.range count).map fun i => digit (n / Nat.pow 16 (count - 1 - i) % 16)) =
      some (n % Nat.pow 16 count) := by
  induction count generalizing n with
  | zero => simp [number?, Nat.mod_one]
  | succ count ih =>
    have hshift : (List.range count).map (fun i => digit (n / Nat.pow 16 (count - i) % 16)) =
        (List.range count).map fun i => digit (n / 16 / Nat.pow 16 (count - 1 - i) % 16) := by
      refine List.map_congr_left fun i hi => ?_
      have hi : i < count := List.mem_range.mp hi
      have hexponent : count - i = (count - 1 - i) + 1 := by omega
      rw [hexponent, Nat.div_div_eq_div_mul, Nat.mul_comm 16]
      rfl
    have hlast := number?_append _ _ (n % 16) (Nat.mod_lt n (by decide)) (ih (n / 16))
    simp only [List.range_succ, List.map_append, List.map_cons, List.map_nil, Nat.add_sub_cancel,
      Nat.sub_self]
    rw [hshift]
    have hvalue : n % Nat.pow 16 (count + 1) = n / 16 % Nat.pow 16 count * 16 + n % 16 := by
      rw [Nat.pow_eq, Nat.pow_succ', Nat.mod_mul]
      show n % 16 + 16 * (n / 16 % Nat.pow 16 count) = _
      omega
    rw [hvalue, ← hlast]
    simp

end Hex

namespace Uuid

private theorem number?_digits (u : Uuid) : Hex.number? u.digits = some u.bits.toNat := by
  have hdigits := Hex.number?_range 32 u.bits.toNat
  have hbits : u.bits.toNat < Nat.pow 16 32 := u.bits.isLt
  rwa [Nat.mod_eq_of_lt hbits] at hdigits

private theorem ofDigits?_digits (u : Uuid) : ofDigits? u.digits = some u := by
  have hlength : u.digits.length = 32 := by simp [digits]
  simp [ofDigits?, number?_digits, hlength]

/-- The text of an identifier is taken apart into the digits that it was put together from. -/
theorem ofGroups?_text (u : Uuid) : ofGroups? u.text.toList = some u := by
  rw [← ofDigits?_digits u, text, String.toList_ofList, digits]
  generalize (fun i => Hex.digit (u.bits.toNat / Nat.pow 16 (31 - i) % 16)) = f
  rfl

private theorem digit_opens_nothing (n : Nat) (h : n < 16) :
    Hex.digit n ≠ '\x7b' ∧ (Hex.digit n).toLower ≠ 'u' := by
  revert n
  decide +kernel

/-- Every identifier reads back from its text. -/
theorem read?_text (u : Uuid) : read? u.text = some u := by
  have hgroups := ofGroups?_text u
  have hhead : u.text.toList.head? =
      some (Hex.digit (u.bits.toNat / Nat.pow 16 31 % 16)) := by
    rw [text, String.toList_ofList]
    rfl
  obtain ⟨hbrace, hscheme⟩ :=
    digit_opens_nothing (u.bits.toNat / Nat.pow 16 31 % 16) (Nat.mod_lt _ (by decide))
  generalize Hex.digit (u.bits.toNat / Nat.pow 16 31 % 16) = c at hhead hbrace hscheme
  match htext : u.text.toList with
  | [] =>
    rw [htext] at hhead
    exact absurd hhead nofun
  | d :: cs =>
    rw [htext] at hhead hgroups
    obtain rfl : d = c := Option.some.inj hhead
    have hurn : resourceScheme = 'u' :: "rn:uuid:".toList := by decide
    have hlead : (d.toLower :: cs.map Char.toLower).take resourceScheme.length ≠
        resourceScheme := by
      rw [hurn, List.length_cons, List.take_succ_cons]
      exact fun h => hscheme (List.cons.inj h).1
    rw [read?, htext]
    split
    · exact absurd (List.cons.inj ‹_›).1 hbrace
    · simp [hlead, hgroups]

end Uuid

end QueryTree
