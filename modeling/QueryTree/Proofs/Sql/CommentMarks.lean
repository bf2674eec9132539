import Mathlib.Data.List.Chain
import QueryTree.Proofs.Sql.Literals
import QueryTree.Proofs.Sql.Tokens

/-!
# Comment marks

Two minus signs side by side outside of quotes begin a comment. Only an operator ends with a minus
sign, and only an operator or a negative number that is written in place begins with one. So a row
of pieces has a comment in it if and only if, somewhere in it, an operator that is a minus sign
stands right before a piece that begins with one.
-/
namespace QueryTree

inductive MarkScanner
  | outside | afterMinus | quoted (q : Char) | comment
  deriving DecidableEq, Repr

namespace MarkScanner

def step : MarkScanner → Char → MarkScanner
  | comment, _ => comment
  | quoted q, c => if c = q then outside else quoted q
  | outside, c => if c = '\'' ∨ c = '"' then quoted c else if c = '-' then afterMinus else outside
  | afterMinus, c => if c = '\'' ∨ c = '"' then quoted c else if c = '-' then comment else outside

def scan (s : MarkScanner) (cs : List Char) : MarkScanner := cs.foldl step s

/-- Whether the scanner stands neither in quotes nor in a comment. -/
def IsOpen (s : MarkScanner) : Prop := s = outside ∨ s = afterMinus

def marks : List Char := ['-', '\'', '"']

def isCalm (c : Char) : Bool := !marks.contains c

def Calm (cs : List Char) : Prop := cs ≠ [] ∧ ∀ c ∈ cs, isCalm c = true

instance (cs : List Char) : Decidable (Calm cs) :=
  decidable_of_iff (cs ≠ [] ∧ cs.all isCalm = true) (and_congr_right fun _ => List.all_eq_true)

variable {s : MarkScanner}

theorem scan_append (cs ds : List Char) : s.scan (cs ++ ds) = (s.scan cs).scan ds :=
  List.foldl_append

theorem scan_comment (cs : List Char) : comment.scan cs = comment := by
  induction cs with
  | nil => rfl
  | cons c cs ih => exact ih

private theorem step_calm {c : Char} (h : isCalm c = true) (hs : s.IsOpen) :
    s.step c = outside := by
  have hc : c ≠ '-' ∧ c ≠ '\'' ∧ c ≠ '"' := by simpa [isCalm, marks] using h
  rcases hs with rfl | rfl <;> simp [step, hc]

theorem scan_calm {cs : List Char} (h : Calm cs) (hs : s.IsOpen) : s.scan cs = outside := by
  obtain ⟨hne, hcs⟩ := h
  induction cs generalizing s with
  | nil => contradiction
  | cons c cs ih =>
    obtain ⟨hc, hcs⟩ := List.forall_mem_cons.mp hcs
    have hstep : s.scan (c :: cs) = outside.scan cs := congrArg (scan · cs) (step_calm hc hs)
    rw [hstep]
    cases cs with
    | nil => rfl
    | cons d ds => exact ih (.inl rfl) (List.cons_ne_nil d ds) hcs

/-- In quotes the scanner does not leave them for good, since it finds every quote twice. -/
theorem scan_doubled (q : Quotes) (cs rest : List Char) :
    (quoted q.mark).scan (cs.flatMap (fun c => if c = q.mark then [q.mark, q.mark] else [c]) ++ rest) =
      (quoted q.mark).scan rest := by
  refine Quotation.in_quotes q.mark (fun _ => (quoted q.mark).scan) (fun _ c rest => ?_) [] cs rest
  by_cases hc : c = q.mark
  · cases q <;> simp [hc, scan, step, Quotes.mark]
  · simp [hc, scan, step]

theorem scan_quoted (q : Quotes) (cs : List Char) (hs : s.IsOpen) :
    s.scan (q.mark :: (cs.flatMap (fun c => if c = q.mark then [q.mark, q.mark] else [c]) ++
      [q.mark])) = outside := by
  have hopen : s.step q.mark = quoted q.mark := by
    rcases hs with rfl | rfl <;> cases q <;> rfl
  have hclose : (quoted q.mark).scan [q.mark] = outside := by simp [scan, step]
  show (s.step q.mark).scan _ = outside
  rw [hopen, scan_doubled, hclose]

end MarkScanner

open MarkScanner in
/-- Whether a text has two minus signs side by side outside of quotes. -/
def StartsComment (s : String) : Prop := outside.scan s.toList = comment

instance (s : String) : Decidable (StartsComment s) := inferInstanceAs (Decidable (_ = _))

namespace Piece

/-- Whether what is written for a piece begins with a minus sign. -/
def leadsMinus (m : ValueMode) : Piece → Bool
  | .word s => s == "-"
  | .value v => m == .inline && v.isNegative
  | _ => false

/-- Whether what is written for a piece ends with a minus sign. -/
def endsMinus : Piece → Bool
  | .word s => s == "-"
  | _ => false

/-- A piece with no marks in it, apart from an operator that is a minus sign. -/
def Tame : Piece → Prop
  | .word s => s = "-" ∨ MarkScanner.Calm s.toList
  | .verbatim s => MarkScanner.Calm s.toList
  | .name _ | .value _ => True

def text (d : Dialect) (m : ValueMode) (n : Nat) : Piece → String
  | .word s | .verbatim s => s
  | .name s => d.identifier s
  | .value v =>
    match m with
    | .bind => d.placeholder (n + 1)
    | .inline => Output.literal d v

private theorem sql_add (d : Dialect) (m : ValueMode) (o : Output) (x : Piece) :
    (o.add d m x).sql = o.sql ++ x.text d m o.parameters.size := by
  cases x <;> cases m <;> rfl

end Piece

namespace MarkScanner

variable {s : MarkScanner} (d : Dialect)

/-- What no mark is, is calm. -/
theorem isCalm_of {f : Char → Bool} (hmarks : marks.all (!f ·) = true) {c : Char}
    (h : f c = true) : isCalm c = true := by
  have hc : c ∉ marks := fun hc => by simpa [h] using List.all_eq_true.mp hmarks c hc
  simpa [isCalm] using hc

theorem calm_of_bare {cs : List Char} (h : Value.Bare cs) : Calm cs :=
  ⟨h.1, fun c hc => isCalm_of (by decide) (h.2 c hc)⟩

private theorem calm_toList_toString (n : Nat) : Calm (toString n).toList := by
  rw [Value.toList_toString]
  exact calm_of_bare (Value.bare_digits n)

private theorem scan_identifier (n : String) (hs : s.IsOpen) :
    s.scan (d.identifier n).toList = outside := by
  have hquote : s.scan (Identifier.quote n).toList = outside := by
    rw [Identifier.quote, String.toList_ofList]
    exact scan_quoted .double n.toList hs
  cases d with
  | sqlite => exact hquote
  | postgres =>
    show s.scan (if Identifier.isPlain n then n else Identifier.quote n).toList = outside
    split
    next hplain =>
      have hmarks : marks.all (!Identifier.isWordChar ·) = true := by decide +kernel
      simp only [Identifier.isPlain, Bool.and_eq_true, List.all_eq_true] at hplain
      refine scan_calm ⟨fun hnil => ?_, fun c hc => isCalm_of hmarks (hplain.2 c hc).1⟩ hs
      simp [hnil, Identifier.startsWord] at hplain
    next => exact hquote

private theorem scan_placeholder (n : Nat) (hs : s.IsOpen) :
    s.scan (d.placeholder n).toList = outside := by
  cases d with
  | sqlite =>
    show s.scan "?".toList = outside
    exact scan_calm (by decide) hs
  | postgres =>
    have hdollar : s.scan "$".toList = outside := scan_calm (by decide) hs
    show s.scan ("$" ++ toString n).toList = outside
    rw [String.toList_append, scan_append, hdollar]
    exact scan_calm (calm_toList_toString n) (.inl rfl)

private theorem scan_literal (v : Value) (hs : s.IsOpen) :
    s.scan (Output.literal d v).toList =
      if s = afterMinus ∧ v.isNegative = true then comment else outside := by
  rcases Output.literal_cases d v with ⟨hpos, cs, htext⟩ | ⟨cs, hbare, htext⟩
  · rw [htext, String.toList_ofList, if_neg (by simp [hpos])]
    exact scan_quoted .single cs hs
  · have hcalm := calm_of_bare hbare
    rw [htext]
    cases hneg : v.isNegative with
    | false =>
      rw [if_neg (by simp)]
      exact scan_calm hcalm hs
    | true =>
      show (s.step '-').scan cs = _
      rcases hs with rfl | rfl
      · exact scan_calm hcalm (.inr rfl)
      · exact scan_comment cs

/-- After a piece the scanner is in a comment if the piece completes the mark of one, and otherwise
stands where the piece ends. -/
private theorem scan_text (m : ValueMode) (n : Nat) {x : Piece} (hx : x.Tame) (hs : s.IsOpen) :
    s.scan (x.text d m n).toList =
      if s = afterMinus ∧ x.leadsMinus m = true then comment
      else if x.endsMinus = true then afterMinus else outside := by
  have hword {w : String} (hw : Calm w.toList) : s.scan w.toList = outside ∧ (w == "-") = false := by
    refine ⟨scan_calm hw hs, beq_eq_false_iff_ne.mpr ?_⟩
    rintro rfl
    exact absurd hw (by decide)
  cases x with
  | word w =>
    rcases hx with rfl | hw
    · rcases hs with rfl | rfl <;>
        simp [Piece.text, Piece.leadsMinus, Piece.endsMinus, scan, step]
    · obtain ⟨hscan, hminus⟩ := hword hw
      simp [Piece.text, Piece.leadsMinus, Piece.endsMinus, hscan, hminus]
  | verbatim w => simp [Piece.text, Piece.leadsMinus, Piece.endsMinus, (hword hx).1]
  | name w => simp [Piece.text, Piece.leadsMinus, Piece.endsMinus, scan_identifier d w hs]
  | value v =>
    cases m with
    | bind => simp [Piece.text, Piece.leadsMinus, Piece.endsMinus, scan_placeholder d (n + 1) hs]
    | inline => simp [Piece.text, Piece.leadsMinus, Piece.endsMinus, scan_literal d v hs]

end MarkScanner

/-- Pieces that do not make the mark of a comment where they meet. -/
def Apart (m : ValueMode) (x y : Piece) : Prop := ¬(x.endsMinus = true ∧ y.leadsMinus m = true)

namespace Output

open MarkScanner

variable (d : Dialect) (m : ValueMode)

theorem scan_add (o : Output) (x : Piece) : outside.scan (o.add d m x).sql.toList =
    (outside.scan o.sql.toList).scan (x.text d m o.parameters.size).toList := by
  rw [Piece.sql_add, String.toList_append, scan_append]

private theorem scan_addAll_of_comment {o : Output} (ps : List Piece)
    (ho : outside.scan o.sql.toList = comment) :
    outside.scan (o.addAll d m ps).sql.toList = comment := by
  induction ps generalizing o with
  | nil => exact ho
  | cons x ps ih =>
    refine ih (o := o.add d m x) ?_
    rw [scan_add, ho, scan_comment]

/-- A row of pieces brings an output into a comment if its first piece completes the mark of one or
two pieces make one where they meet. -/
theorem scan_addAll {ps : List Piece} (hps : ∀ x ∈ ps, x.Tame) {o : Output} {s : MarkScanner}
    (hs : s.IsOpen) (ho : outside.scan o.sql.toList = s) :
    outside.scan (o.addAll d m ps).sql.toList = comment ↔
      (s = afterMinus ∧ ∃ x ∈ ps.head?, x.leadsMinus m = true) ∨ ¬ps.IsChain (Apart m) := by
  induction ps generalizing o s with
  | nil =>
    have hne : s ≠ comment := by rcases hs with rfl | rfl <;> nofun
    have hsql : outside.scan (o.addAll d m []).sql.toList = s := ho
    simp [hsql, hne]
  | cons x ps ih =>
    obtain ⟨hx, hps⟩ := List.forall_mem_cons.mp hps
    have hadd := scan_add d m o x
    rw [ho, MarkScanner.scan_text d m _ hx hs] at hadd
    have hcons : o.addAll d m (x :: ps) = (o.add d m x).addAll d m ps := rfl
    rw [hcons]
    by_cases hmark : s = afterMinus ∧ x.leadsMinus m = true
    · rw [if_pos hmark] at hadd
      exact iff_of_true (scan_addAll_of_comment d m ps hadd) (.inl ⟨hmark.1, x, rfl, hmark.2⟩)
    · rw [if_neg hmark] at hadd
      have hfirst : ¬(s = afterMinus ∧ ∃ y ∈ (x :: ps).head?, y.leadsMinus m = true) := by
        simpa using hmark
      rw [or_iff_right hfirst, List.isChain_cons]
      by_cases hend : x.endsMinus = true
      · have hapart : (∀ y ∈ ps.head?, Apart m x y) ↔
            ¬∃ y ∈ ps.head?, y.leadsMinus m = true := by
          simp [Apart, hend]
        rw [if_pos hend] at hadd
        rw [ih hps (.inr rfl) hadd, hapart, not_and_or, not_not, eq_self, true_and]
      · rw [if_neg hend] at hadd
        rw [ih hps (.inl rfl) hadd]
        simp [Apart, hend]

/-- What is written for a row of pieces has a comment in it if and only if two of its pieces make the
mark of one where they meet. -/
theorem startsComment_addAll {ps : List Piece} (hps : ∀ x ∈ ps, x.Tame) :
    StartsComment (empty.addAll d m ps).sql ↔ ¬ps.IsChain (Apart m) := by
  rw [StartsComment, scan_addAll d m hps (.inl rfl) rfl]
  simp

end Output

end QueryTree
