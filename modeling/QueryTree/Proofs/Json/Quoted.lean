import QueryTree.Json.Quoted

/-!
# Quoted text reads back

Every character is written as an escape or as itself, and what is written for one character is read
as that character alone, whatever was read before it and whatever follows.
-/
namespace QueryTree

private theorem Hex.number?_two (hi lo : Nat) (hhi : hi < 16) (hlo : lo < 16) :
    Hex.number? ['0', '0', Hex.digit hi, Hex.digit lo] = some (hi * 16 + lo) := by
  have hzero : Hex.value? '0' = some 0 := by decide
  simp [Hex.number?, hzero, Hex.value?_digit hi hhi, Hex.value?_digit lo hlo]

namespace Quoted

private theorem readOnto_escape (c : Char) (done rest : List Char) :
    readOnto done (escape c ++ rest) = readOnto (c :: done) rest := by
  unfold escape
  split
  · subst c; rfl
  split
  · subst c; rfl
  split
  · subst c; rfl
  split
  · subst c; rfl
  split
  · subst c; rfl
  split
  · obtain rfl : c = '\x08' := Char.toNat_inj.mp ‹c.toNat = 8›
    rfl
  split
  · obtain rfl : c = '\x0c' := Char.toNat_inj.mp ‹c.toNat = 12›
    rfl
  split
  · have hunit : unit? '0' '0' (Hex.digit (c.toNat / 16)) (Hex.digit (c.toNat % 16)) =
        some c.toNat := by
      rw [unit?, Hex.number?_two _ _ (by omega) (by omega), Nat.div_add_mod']
    have hhigh : isHighSurrogate c.toNat = false := by simp [isHighSurrogate]; omega
    have hlow : isLowSurrogate c.toNat = false := by simp [isLowSurrogate]; omega
    simp [readOnto, hunit, hhigh, hlow]
  · rename_i hquote hslash _ _ _ _ _ hcontrol
    rw [List.singleton_append, readOnto]
    · exact if_neg hcontrol
    · exact hquote
    · exact fun _ _ _ _ _ h _ => hslash h
    · exact fun _ _ h _ => hslash h

/-- What is written for a text is read up to its closing quote. -/
private theorem readOnto_flatMap_escape (cs done rest : List Char) :
    readOnto done (cs.flatMap escape ++ '"' :: rest) = some (done.reverse ++ cs, rest) := by
  induction cs generalizing done with
  | nil => simp [readOnto]
  | cons c cs ih =>
    rw [List.flatMap_cons, List.append_assoc, readOnto_escape, ih]
    simp

theorem read?_escape (s : String) (rest : List Char) :
    read? (s.toList.flatMap escape ++ '"' :: rest) = some (s, rest) := by
  simp [read?, readOnto_flatMap_escape]

end Quoted

end QueryTree
