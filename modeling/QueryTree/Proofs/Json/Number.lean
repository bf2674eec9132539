import QueryTree.Json.Number

/-!
# Numbers read back

What reads as a number reads as the same number where something follows that cannot be part of a
number. Integers that are held exactly read back from their digits. Of a floating-point number this
is not so in general, for it is read through a scaling that rounds.
-/
namespace QueryTree.Number

def isPart (c : Char) : Bool := c.isDigit || ['.', 'e', 'E', '-', '+'].contains c

/-- Whether what follows a number cannot be part of it. -/
def Ends (rest : List Char) : Prop := ∀ c ∈ rest.head?, isPart c = false

def leaving {α : Type} (rest : List Char) : Option (α × List Char) → Option (α × List Char) :=
  Option.map fun (x, left) => (x, left ++ rest)

variable {rest : List Char}

theorem Ends.ne (h : Ends rest) {c d : Char} (hc : c ∈ rest.head?) (hd : isPart d = true) :
    c ≠ d := by
  rintro rfl
  exact absurd hd (by simp [h c hc])

theorem Ends.isDigit (h : Ends rest) {c : Char} (hc : c ∈ rest.head?) : c.isDigit = false :=
  (Bool.or_eq_false_iff.mp (h c hc)).1

private theorem takeWhile_isDigit_append (h : Ends rest) (cs : List Char) :
    (cs ++ rest).takeWhile Char.isDigit = cs.takeWhile Char.isDigit := by
  induction cs with
  | nil => cases rest with
    | nil => rfl
    | cons c rest => simp [h.isDigit (c := c) rfl]
  | cons c cs ih => simp only [List.cons_append, List.takeWhile_cons, ih]

private theorem dropWhile_isDigit_append (h : Ends rest) (cs : List Char) :
    (cs ++ rest).dropWhile Char.isDigit = cs.dropWhile Char.isDigit ++ rest := by
  induction cs with
  | nil => cases rest with
    | nil => rfl
    | cons c rest => simp [h.isDigit (c := c) rfl]
  | cons c cs ih =>
    simp only [List.cons_append, List.dropWhile_cons, ih]
    split <;> rfl

theorem digits?_append (h : Ends rest) (cs : List Char) :
    digits? (cs ++ rest) = leaving rest (digits? cs) := by
  rw [digits?, digits?, takeWhile_isDigit_append h, dropWhile_isDigit_append h]
  split <;> rfl

private theorem whole?_append (h : Ends rest) (cs : List Char) :
    whole? (cs ++ rest) = leaving rest (whole? cs) := by
  rw [whole?, whole?, digits?_append h]
  match digits? cs with
  | none => rfl
  | some ([], left) => rfl
  | some ([c], left) => simp [leaving]
  | some (c :: c' :: ds, left) =>
    by_cases hc : c = '0'
    · subst hc; rfl
    · simp [leaving, hc]

private theorem fraction?_append (h : Ends rest) (cs : List Char) :
    fraction? (cs ++ rest) = leaving rest (fraction? cs) := by
  match cs, rest with
  | [], [] => rfl
  | [], c :: rest => simp [fraction?, leaving, h.ne rfl (d := '.') rfl]
  | c :: cs, rest =>
    by_cases hc : c = '.'
    · subst hc
      simp only [List.cons_append, fraction?, digits?_append h]
      cases digits? cs <;> rfl
    · simp [fraction?, leaving, hc]

theorem exponent?_unsigned {c : Char} (hminus : c ≠ '-') (hplus : c ≠ '+') (cs : List Char) :
    exponent? ('e' :: c :: cs) =
      (digits? (c :: cs)).map fun (ds, left) => (some (false, ds), left) := by
  simp [exponent?, hminus, hplus]

theorem exponent?_append_mark (h : Ends rest) (cs : List Char) :
    exponent? ('e' :: (cs ++ rest)) = leaving rest (exponent? ('e' :: cs)) := by
  match cs, rest with
  | [], [] => rfl
  | [], c :: rest =>
    have hnone : digits? (c :: rest) = none := digits?_append h []
    rw [List.nil_append, exponent?_unsigned (h.ne rfl rfl) (h.ne rfl rfl), hnone]
    rfl
  | c :: cs, rest =>
    by_cases hminus : c = '-'
    · subst hminus
      simp only [List.cons_append, exponent?, digits?_append h]
      cases digits? cs <;> rfl
    by_cases hplus : c = '+'
    · subst hplus
      simp only [List.cons_append, exponent?, digits?_append h]
      cases digits? cs <;> rfl
    rw [List.cons_append, exponent?_unsigned hminus hplus, exponent?_unsigned hminus hplus,
      ← List.cons_append, digits?_append h]
    cases digits? (c :: cs) <;> rfl

private theorem exponent?_append (h : Ends rest) (cs : List Char) :
    exponent? (cs ++ rest) = leaving rest (exponent? cs) := by
  match cs, rest with
  | [], [] => rfl
  | [], c :: rest => simp [exponent?, leaving, h.ne rfl (d := 'e') rfl, h.ne rfl (d := 'E') rfl]
  | c :: cs, rest =>
    by_cases he : c = 'e'
    · subst he
      exact exponent?_append_mark h cs
    by_cases hE : c = 'E'
    · subst hE
      exact exponent?_append_mark h cs
    simp [exponent?, leaving, he, hE]

def magnitude? (negative : Bool) (cs : List Char) : Option (Spelling × List Char) := do
  let (whole, cs) ← whole? cs
  let (fraction, cs) ← fraction? cs
  let (exponent, cs) ← exponent? cs
  some (⟨negative, whole, fraction, exponent⟩, cs)

theorem spelling?_cons {c : Char} (hc : c ≠ '-') (cs : List Char) :
    spelling? (c :: cs) = magnitude? false (c :: cs) := by
  simp [spelling?, magnitude?, hc]

theorem magnitude?_append (h : Ends rest) (negative : Bool) (cs : List Char) :
    magnitude? negative (cs ++ rest) = leaving rest (magnitude? negative cs) := by
  rw [magnitude?, magnitude?, whole?_append h]
  cases whole? cs with
  | none => rfl
  | some whole =>
    simp only [leaving, Option.map_some, Option.bind_eq_bind, Option.bind_some, fraction?_append h]
    cases fraction? whole.2 with
    | none => rfl
    | some fraction =>
      simp only [leaving, Option.map_some, Option.bind_some, exponent?_append h]
      cases exponent? fraction.2 <;> rfl

private theorem spelling?_append (h : Ends rest) (cs : List Char) :
    spelling? (cs ++ rest) = leaving rest (spelling? cs) := by
  match cs, rest with
  | [], [] => rfl
  | [], c :: rest =>
    rw [List.nil_append, spelling?_cons (h.ne rfl rfl)]
    exact magnitude?_append h false []
  | c :: cs, rest =>
    by_cases hc : c = '-'
    · subst hc
      exact magnitude?_append h true cs
    · rw [List.cons_append, spelling?_cons hc, spelling?_cons hc]
      exact magnitude?_append h false (c :: cs)

/-- What follows a number makes no difference to it. -/
theorem read?_append (h : Ends rest) (cs : List Char) :
    read? (cs ++ rest) = leaving rest (read? cs) := by
  rw [read?, read?, spelling?_append h]
  cases spelling? cs with
  | none => rfl
  | some s =>
    obtain ⟨s, left⟩ := s
    cases hn : ofSpelling? s <;> simp [leaving, hn]

private theorem head?_toDigits {n : Nat} (hn : 0 < n) : (Nat.toDigits 10 n).head? ≠ some '0' := by
  induction n using Nat.base_induction 10 (by decide) with
  | single m hm => simp [Nat.toDigits_of_lt_base hm]; omega
  | digit m k hk hm ih =>
    rw [← Nat.toDigits_append_toDigits (by decide) hm hk]
    match hdigits : Nat.toDigits 10 m with
    | [] => exact absurd hdigits Nat.toDigits_ne_nil
    | c :: cs =>
      rw [hdigits] at ih
      exact ih hm

private theorem digits?_toDigits (n : Nat) :
    digits? (Nat.toDigits 10 n) = some (Nat.toDigits 10 n, []) := by
  have hdigit : ∀ c ∈ Nat.toDigits 10 n, c.isDigit = true :=
    fun c hc => Nat.isDigit_of_mem_toDigits (by decide) (by decide) hc
  rw [digits?, ← List.append_nil (Nat.toDigits 10 n), List.takeWhile_append_of_pos hdigit,
    List.dropWhile_append_of_pos hdigit]
  simp only [List.takeWhile_nil, List.dropWhile_nil, List.append_nil]
  split
  · exact absurd ‹_› Nat.toDigits_ne_nil
  · rfl

/-- No integer is written with a zero in front, which would not be read. -/
private theorem whole?_toDigits (n : Nat) :
    whole? (Nat.toDigits 10 n) = some (Nat.toDigits 10 n, []) := by
  rw [whole?, digits?_toDigits]
  split
  · rename_i hzero
    obtain rfl | hn := Nat.eq_zero_or_pos n
    · simp at hzero
    · simp only [Option.some.injEq, Prod.mk.injEq] at hzero
      exact absurd (by rw [hzero.1]; rfl) (head?_toDigits hn)
  · rfl

theorem magnitude?_toDigits (negative : Bool) (n : Nat) :
    magnitude? negative (Nat.toDigits 10 n) =
      some (⟨negative, Nat.toDigits 10 n, none, none⟩, []) := by
  simp [magnitude?, whole?_toDigits, fraction?, exponent?]

private theorem spelling?_toDigits (n : Nat) :
    spelling? (Nat.toDigits 10 n) = some (⟨false, Nat.toDigits 10 n, none, none⟩, []) := by
  rw [← magnitude?_toDigits]
  match hdigits : Nat.toDigits 10 n with
  | [] => exact absurd hdigits Nat.toDigits_ne_nil
  | c :: cs =>
    have hc : c.isDigit = true :=
      Nat.isDigit_of_mem_toDigits (b := 10) (n := n) (by decide) (by decide) (by simp [hdigits])
    exact spelling?_cons (by rintro rfl; exact absurd hc (by decide)) cs

private theorem absorb_of_lt (cs : List Char) (significand : Nat)
    (h : Nat.ofDigitChars 10 cs significand < Nat.pow 2 64) :
    absorb significand cs = (Nat.ofDigitChars 10 cs significand, []) := by
  induction cs generalizing significand with
  | nil => rfl
  | cons c cs ih =>
    have hstep : significand * 10 + digitValue c =
        10 * significand + (c.toNat - '0'.toNat) := by rw [Nat.mul_comm, digitValue]
    rw [Nat.ofDigitChars_cons, ← hstep] at h ⊢
    -- a significand only grows as digits are appended
    have hgrows : significand * 10 + digitValue c ≤
        Nat.ofDigitChars 10 cs (significand * 10 + digitValue c) := by
      rw [Nat.ofDigitChars_eq_ofDigitChars_zero]
      exact Nat.le_add_right_of_le (Nat.le_mul_of_pos_left _ (Nat.pow_pos (by decide)))
    rw [absorb, if_pos (Nat.lt_of_le_of_lt hgrows h), ih _ h]

/-- The number that an integer's digits spell, with or without a sign. -/
theorem absorb_toDigits {n : Nat} (hn : n < Nat.pow 2 64) :
    absorb 0 (Nat.toDigits 10 n) = (n, []) := by
  have hvalue : Nat.ofDigitChars 10 (Nat.toDigits 10 n) 0 = n := Nat.ofDigitChars_ten_toDigits
  rw [absorb_of_lt _ _ (hvalue.symm ▸ hn), hvalue]

private theorem ofSpelling?_toDigits {n : Nat} (hn : n < Nat.pow 2 64) :
    ofSpelling? ⟨false, Nat.toDigits 10 n, none, none⟩ = some (ofInt n) := by
  simp [ofSpelling?, absorb_toDigits hn]

private theorem ofSpelling?_toDigits_neg {n : Nat} (hpos : 0 < n) (hn : n ≤ Nat.pow 2 63) :
    ofSpelling? ⟨true, Nat.toDigits 10 n, none, none⟩ = some (ofInt (-n)) := by
  have habsorb := absorb_toDigits (Nat.lt_of_le_of_lt hn (by decide))
  have hsize : ¬ (n = 0 ∨ Nat.pow 2 63 < n) := by omega
  simp only [ofSpelling?, habsorb, if_neg hsize]
  rfl

/-- An integer that is held exactly reads back from its text. -/
theorem read?_text_int (n : ExactInt) : read? (Number.int n).text = some (.int n, []) := by
  obtain ⟨n, hn⟩ := n
  have hofInt : ofInt n = .int ⟨n, hn⟩ := dif_pos hn
  cases n with
  | ofNat n =>
    have htext : (toString (Int.ofNat n)).toList = Nat.toDigits 10 n := Nat.toList_repr
    have hvalue := ofSpelling?_toDigits (n := n) (by simp at hn ⊢; omega)
    simp only [text, htext, read?, spelling?_toDigits, Option.bind_eq_bind, Option.bind_some, hvalue]
    exact congrArg (fun x => some (x, [])) hofInt
  | negSucc n =>
    have htext : (toString (Int.negSucc n)).toList = '-' :: Nat.toDigits 10 (n + 1) := by
      simp [Int.repr]
    have hspelling : spelling? ('-' :: Nat.toDigits 10 (n + 1)) =
        some (⟨true, Nat.toDigits 10 (n + 1), none, none⟩, []) := magnitude?_toDigits true (n + 1)
    have hvalue := ofSpelling?_toDigits_neg (n := n + 1) (by omega) (by simp; omega)
    simp only [text, htext, read?, hspelling, Option.bind_eq_bind, Option.bind_some, hvalue]
    exact congrArg (fun x => some (x, [])) hofInt

/-- Whether a number reads back from its text. What is not finite does not. -/
def ReadsBack (n : Number) : Prop := read? n.text = some (n, [])

instance (n : Number) : Decidable n.ReadsBack :=
  inferInstanceAs (Decidable (read? n.text = some (n, [])))

theorem readsBack_int (n : ExactInt) : (Number.int n).ReadsBack := read?_text_int n

theorem ReadsBack.read?_append {n : Number} (h : n.ReadsBack) (hrest : Ends rest) :
    read? (n.text ++ rest) = some (n, rest) := by
  rw [Number.read?_append hrest, h]
  rfl

/-- What reads as a number starts with a digit or a minus sign. -/
theorem head_of_read? {c : Char} {cs : List Char} {r : Number × List Char}
    (h : read? (c :: cs) = some r) : c = '-' ∨ c.isDigit = true := by
  by_cases hminus : c = '-'
  · exact .inl hminus
  · refine .inr (Bool.of_not_eq_false fun hdigit => ?_)
    have hdigits : digits? (c :: cs) = none := by simp [digits?, hdigit]
    simp [read?, spelling?_cons hminus, magnitude?, whole?, hdigits] at h

end QueryTree.Number
