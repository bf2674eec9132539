import QueryTree.Sql.Compile

/-!
# Literals

A value that is written in place is quoted text, or a number or a word. Numbers and words are made of
digits, a point and a few letters; a minus sign stands in front of a negative number and nowhere
else.
-/
namespace QueryTree

/-- Quoted text is read one character at a time, whatever the reader does with it, if what is written
for each character takes the reader from the characters before it to those up to it. -/
theorem Quotation.in_quotes {β : Type} (mark : Char) (F : List Char → List Char → β)
    (hF : ∀ ds c rest, F ds ((if c = mark then [mark, mark] else [c]) ++ rest) = F (ds ++ [c]) rest)
    (ds cs rest : List Char) :
    F ds (cs.flatMap (fun c => if c = mark then [mark, mark] else [c]) ++ rest) =
      F (ds ++ cs) rest := by
  induction cs generalizing ds with
  | nil => simp
  | cons c cs ih =>
    rw [List.flatMap_cons, List.append_assoc, hF, ih, List.append_assoc]
    rfl

namespace Value

/-- The characters of words that stand for values, and the point. -/
def wordChars : List Char := ['N', 'U', 'L', 't', 'r', 'u', 'e', 'f', 'a', 'l', 's', 'i', 'n', '.']

/-- A character of a number without its sign, or of a word that stands for a value. -/
def isBareChar (c : Char) : Bool := c.isDigit || wordChars.contains c

/-- A number below zero, the negative zero or the negative infinity. -/
def isNegative : Value → Bool
  | int n => n.toInt < 0
  | float x => x.negative && (x.isFinite || x.fractionField == 0)
  | _ => false

def sign (negative : Bool) : List Char := if negative then ['-'] else []

def Bare (cs : List Char) : Prop := cs ≠ [] ∧ ∀ c ∈ cs, isBareChar c = true

instance (cs : List Char) : Decidable (Bare cs) :=
  decidable_of_iff (cs ≠ [] ∧ cs.all isBareChar = true) (and_congr_right fun _ => List.all_eq_true)

private theorem isBareChar_of_isDigit {c : Char} (h : c.isDigit = true) : isBareChar c = true := by
  simp [isBareChar, h]

theorem toList_toString (n : Nat) : (toString n).toList = Nat.toDigits 10 n := by
  rw [Nat.toString_eq_repr, Nat.toList_repr]

theorem bare_digits (n : Nat) : Bare (Nat.toDigits 10 n) :=
  ⟨Nat.toDigits_ne_nil, fun _ hc =>
    isBareChar_of_isDigit (Nat.isDigit_of_mem_toDigits (by decide) (by decide) hc)⟩

end Value

open Value (isBareChar Bare sign)

namespace Binary64

private theorem bare_positional (d : Decimal) : Bare (positional false d) := by
  have hdigits := Value.bare_digits d.digits
  have hzeros (k : Nat) : ∀ c ∈ List.replicate k '0', isBareChar c = true := fun c hc => by
    rw [List.eq_of_mem_replicate hc]
    decide
  have hpadded (k : Nat) : ∀ c ∈ List.replicate k '0' ++ d.digitText, isBareChar c = true :=
    List.forall_mem_append.mpr ⟨hzeros k, hdigits.2⟩
  rw [positional]
  split
  · refine ⟨fun h => hdigits.1 (List.append_eq_nil_iff.mp (List.append_eq_nil_iff.mp h).1).1, ?_⟩
    simp only [Bool.false_eq_true, if_false, List.append_nil]
    exact List.forall_mem_append.mpr ⟨hdigits.2, hzeros _⟩
  · refine ⟨by simp, List.forall_mem_append.mpr
      ⟨fun c hc => hpadded _ c (List.mem_of_mem_take hc), List.forall_mem_cons.mpr
        ⟨by decide, fun c hc => hpadded _ c (List.mem_of_mem_drop hc)⟩⟩⟩

end Binary64

namespace Output

/-- The text of a literal: quoted text, or characters of a number or a word, which a sign leads if
the number is negative. -/
theorem literal_cases (d : Dialect) (v : Value) :
    (v.isNegative = false ∧ ∃ cs, literal d v = .ofList (Value.quote cs)) ∨
      ∃ cs, Bare cs ∧ (literal d v).toList = sign v.isNegative ++ cs := by
  cases v with
  | string | bytes | uuid | timestamp | json => exact .inl ⟨rfl, _, rfl⟩
  | null => exact .inr ⟨"NULL".toList, by decide, rfl⟩
  | bool b => exact .inr ⟨(d.boolLiteral b).toList, by cases d <;> cases b <;> decide, rfl⟩
  | int n =>
    right
    show ∃ cs, Bare cs ∧ (toString n.toInt).toList = sign (decide (n.toInt < 0)) ++ cs
    cases n.toInt with
    | ofNat k => exact ⟨_, Value.bare_digits k, Value.toList_toString k⟩
    | negSucc k =>
      refine ⟨_, Value.bare_digits (k + 1), ?_⟩
      have htext : toString (Int.negSucc k) = "-" ++ toString (k + 1) := rfl
      rw [htext, String.toList_append, Value.toList_toString, sign,
        if_pos (decide_eq_true (Int.negSucc_lt_zero k))]
      rfl
  | float x =>
    right
    show ∃ cs, Bare cs ∧
      x.plainText.toList = sign (x.negative && (x.isFinite || x.fractionField == 0)) ++ cs
    rw [Binary64.plainText]
    by_cases hfinite : x.isFinite = true
    · by_cases hzero : x.isZero = true
      · exact ⟨['0'], by decide, by simp [hfinite, hzero, Binary64.signText, sign]⟩
      · exact ⟨_, Binary64.bare_positional (x.shortest .up),
          by simp [hfinite, hzero, Binary64.signText, sign]⟩
    · by_cases hfraction : x.fractionField = 0
      · exact ⟨"inf".toList, by decide, by simp [hfinite, hfraction, Binary64.signText, sign]⟩
      · exact ⟨"NaN".toList, by decide, by simp [hfinite, hfraction, sign]⟩

end Output

end QueryTree
