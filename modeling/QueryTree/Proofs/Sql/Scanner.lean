import Mathlib.Tactic.SplitIfs
import QueryTree.Proofs.Sql.Literals

/-!
# A scanner of quotes and parentheses

The scanner reads SQL one character at a time. It knows whether it stands in quotes, and counts the
parentheses that are open outside of them. Text is balanced if the scanner gets through it and ends
as it began: so the text neither leaves its surroundings nor swallows a part of them.

Names and values are balanced whatever characters they hold, because a quote in quoted text is
written twice: the scanner leaves the quotes and is back in them at the next character.
-/
namespace QueryTree

/-- Where a scanner stands: in quotes with a given mark or outside, and in how many parentheses. -/
structure Scanner where
  mark : Option Char
  depth : Nat
  deriving DecidableEq, Repr

namespace Scanner

/-- Reads a character. A parenthesis must not be closed where none is open. -/
def step : Scanner → Char → Option Scanner
  | ⟨some q, n⟩, c => some (if c = q then ⟨none, n⟩ else ⟨some q, n⟩)
  | ⟨none, n⟩, c =>
    if c = '\'' ∨ c = '"' then some ⟨some c, n⟩
    else if c = '(' then some ⟨none, n + 1⟩
    else if c = ')' then (if n = 0 then none else some ⟨none, n - 1⟩)
    else some ⟨none, n⟩

def scan (s : Scanner) (cs : List Char) : Option Scanner := cs.foldlM step s

def raise (k : Nat) (s : Scanner) : Scanner := { s with depth := s.depth + k }

variable (s : Scanner)

theorem scan_append (cs ds : List Char) : s.scan (cs ++ ds) = (s.scan cs).bind (·.scan ds) :=
  List.foldlM_append

/-- What is open around a text does not matter to it. -/
private theorem step_raise {s' : Scanner} {c : Char} (h : s.step c = some s') (k : Nat) :
    (s.raise k).step c = some (s'.raise k) := by
  obtain ⟨_ | q, n⟩ := s
  · simp only [step] at h
    -- The cases are the kinds of character: a quote, each parenthesis, and all others.
    split_ifs at h with hquote hopen hclose hzero <;> obtain rfl := Option.some.inj h
    · simp [raise, step, hquote]
    · simp [raise, step, hopen]
      omega
    · simp [raise, step, hclose]
      omega
    · simp [raise, step, hquote, hopen, hclose]
  · obtain rfl := Option.some.inj h
    by_cases hc : c = q <;> simp [raise, step, hc]

private theorem scan_raise {s' : Scanner} {cs : List Char} (h : s.scan cs = some s') (k : Nat) :
    (s.raise k).scan cs = some (s'.raise k) := by
  induction cs generalizing s with
  | nil =>
    obtain rfl := Option.some.inj h
    rfl
  | cons c cs ih =>
    obtain ⟨t, hstep, hscan⟩ := Option.bind_eq_some_iff.mp h
    exact Option.bind_eq_some_iff.mpr ⟨t.raise k, s.step_raise hstep k, ih t hscan⟩

/-- The characters that mean something to a scanner outside of quotes. -/
def signs : List Char := ['\'', '"', '(', ')']

def isNeutral (c : Char) : Bool := !signs.contains c

/-- What no sign is, is neutral. -/
theorem isNeutral_of {f : Char → Bool} (hsigns : signs.all (!f ·) = true) {c : Char}
    (h : f c = true) : isNeutral c = true := by
  have hc : c ∉ signs := fun hc => by simpa [h] using List.all_eq_true.mp hsigns c hc
  simpa [isNeutral] using hc

private theorem step_neutral {c : Char} (h : isNeutral c = true) (n : Nat) :
    step ⟨none, n⟩ c = some ⟨none, n⟩ := by
  simp only [isNeutral, signs, List.contains_cons, List.contains_nil, Bool.not_eq_true',
    Bool.or_false, Bool.or_eq_false_iff, beq_eq_false_iff_ne] at h
  simp [step, h]

private theorem scan_neutral {cs : List Char} (h : ∀ c ∈ cs, isNeutral c = true) (n : Nat) :
    scan ⟨none, n⟩ cs = some ⟨none, n⟩ := by
  induction cs with
  | nil => rfl
  | cons c cs ih =>
    obtain ⟨hc, hcs⟩ := List.forall_mem_cons.mp h
    exact Option.bind_eq_some_iff.mpr ⟨_, step_neutral hc n, ih hcs⟩

/-- In quotes the scanner does not leave them for good, since it finds every quote twice. -/
theorem scan_doubled (q : Char) (hq : q = '\'' ∨ q = '"') (cs rest : List Char) (n : Nat) :
    scan ⟨some q, n⟩ (cs.flatMap (fun c => if c = q then [q, q] else [c]) ++ rest) =
      scan ⟨some q, n⟩ rest :=
  Quotation.in_quotes q (fun _ => scan ⟨some q, n⟩)
    (fun _ c _ => by by_cases hc : c = q <;> simp [hc, scan, step, hq]) [] cs rest

end Scanner

open Scanner in
/-- The scanner gets through a text and ends outside of quotes, in no parentheses. -/
def Balanced (s : String) : Prop := scan ⟨none, 0⟩ s.toList = some ⟨none, 0⟩

instance (s : String) : Decidable (Balanced s) := inferInstanceAs (Decidable (_ = _))

namespace Balanced

open Scanner

variable {s t : String}

/-- Balanced text can stand in any parentheses. -/
theorem scan_eq (h : Balanced s) (n : Nat) : scan ⟨none, n⟩ s.toList = some ⟨none, n⟩ := by
  simpa [raise] using scan_raise _ h n

theorem append (hs : Balanced s) (ht : Balanced t) : Balanced (s ++ t) := by
  rw [Balanced, String.toList_append, scan_append, hs]
  exact ht

theorem parens (hs : Balanced s) : Balanced ("(" ++ s ++ ")") := by
  rw [Balanced, String.toList_append, scan_append, String.toList_append, scan_append]
  show ((scan ⟨none, 1⟩ s.toList).bind fun x => x.scan [')']) = _
  rw [hs.scan_eq]
  rfl

theorem of_neutral (h : ∀ c ∈ s.toList, isNeutral c = true) : Balanced s := scan_neutral h 0

/-- Text in quotes is balanced whatever it is. -/
theorem quoted (q : Char) (hq : q = '\'' ∨ q = '"') (cs : List Char) :
    Balanced (.ofList (q :: (cs.flatMap (fun c => if c = q then [q, q] else [c]) ++ [q]))) := by
  have hopen : step ⟨none, 0⟩ q = some ⟨some q, 0⟩ := by simp [step, hq]
  have hclose : scan ⟨some q, 0⟩ [q] = some ⟨none, 0⟩ := by simp [scan, step]
  rw [Balanced, String.toList_ofList]
  refine Option.bind_eq_some_iff.mpr ⟨_, hopen, ?_⟩
  exact (scan_doubled q hq cs [q] 0).trans hclose

end Balanced

private theorem Identifier.isNeutral_of_isWordChar {c : Char} (h : isWordChar c = true) :
    Scanner.isNeutral c = true :=
  Scanner.isNeutral_of (by decide +kernel) h

theorem Dialect.balanced_identifier (d : Dialect) (s : String) : Balanced (d.identifier s) := by
  have hquote : Balanced (Identifier.quote s) := .quoted '"' (.inr rfl) s.toList
  cases d with
  | sqlite => exact hquote
  | postgres =>
    show Balanced (if Identifier.isPlain s then s else Identifier.quote s)
    split_ifs with hplain
    · simp only [Identifier.isPlain, Bool.and_eq_true, List.all_eq_true] at hplain
      exact .of_neutral fun c hc => Identifier.isNeutral_of_isWordChar (hplain.2 c hc).1
    · exact hquote

theorem Scanner.isNeutral_of_bare {cs : List Char} (h : Value.Bare cs) :
    ∀ c ∈ cs, isNeutral c = true := fun c hc => isNeutral_of (by decide) (h.2 c hc)

private theorem Balanced.natText (n : Nat) : Balanced (toString n) := by
  refine .of_neutral ?_
  rw [Value.toList_toString]
  exact Scanner.isNeutral_of_bare (Value.bare_digits n)

theorem Output.balanced_literal (d : Dialect) (v : Value) : Balanced (literal d v) := by
  rcases literal_cases d v with ⟨-, cs, htext⟩ | ⟨cs, hbare, htext⟩
  · rw [htext]
    exact .quoted '\'' (.inl rfl) cs
  · have hsign : ∀ c ∈ Value.sign v.isNegative, Scanner.isNeutral c = true := by
      cases v.isNegative <;> exact List.all_eq_true.mp (by decide)
    refine .of_neutral ?_
    rw [htext]
    exact List.forall_mem_append.mpr ⟨hsign, Scanner.isNeutral_of_bare hbare⟩

theorem Dialect.balanced_placeholder (d : Dialect) (n : Nat) : Balanced (d.placeholder n) := by
  cases d with
  | postgres => exact .append (by decide) (.natText n)
  | sqlite => exact (by decide : Balanced "?")

end QueryTree
