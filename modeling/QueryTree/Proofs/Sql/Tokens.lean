import QueryTree.Proofs.Sql.Literals
import QueryTree.Sql.Compile
import QueryTree.Unicode.Blank

/-!
# Tokens

The lexer takes SQL apart into words, quoted texts and signs. It reads one character at a time; a
quote in quoted text is written twice, so that a closing quote is known only by what follows it.

The tokens of two texts that are put together are those of the one and then those of the other,
provided that one of the two keeps the words apart where they meet. Every name is one token, from
which it can be read back.
-/
namespace QueryTree

inductive Quotes
  | single | double
  deriving DecidableEq, Repr

def Quotes.mark : Quotes → Char
  | single => '\''
  | double => '"'

inductive Token
  | word (cs : List Char)
  | quoted (q : Quotes) (cs : List Char)
  | sign (c : Char)
  deriving DecidableEq, Repr

def Token.keyword (s : String) : Token := .word s.toList

/-- What a lexer has of a token that is not over. -/
inductive Lexer
  | between
  | word (cs : List Char)
  | quoted (q : Quotes) (cs : List Char)
  /-- Quoted text is over unless the mark is written a second time. -/
  | closing (q : Quotes) (cs : List Char)
  deriving DecidableEq, Repr

namespace Lexer

open Identifier (isWordChar)

/-- The tokens that are over, and what there is of the next one. -/
abbrev State := List Token × Lexer

def State.after (ts : List Token) (s : State) : State := (ts ++ s.1, s.2)

def start (c : Char) : State :=
  if isWordChar c then ([], word [c])
  else if c = '"' then ([], quoted .double [])
  else if c = '\'' then ([], quoted .single [])
  else if Unicode.isBlank c then ([], between)
  else ([.sign c], between)

def finish : Lexer → List Token
  | between => []
  | word cs => [.word cs]
  | quoted q cs => [.quoted q cs]
  | closing q cs => [.quoted q cs]

def step : Lexer → Char → State
  | between, c => start c
  | word cs, c => if isWordChar c then ([], word (cs ++ [c])) else (start c).after [.word cs]
  | quoted q cs, c => ([], if c = q.mark then closing q cs else quoted q (cs ++ [c]))
  | closing q cs, c =>
    if c = q.mark then ([], quoted q (cs ++ [c])) else (start c).after [.quoted q cs]

def run : Lexer → List Char → State
  | l, [] => ([], l)
  | l, c :: cs => (run (l.step c).2 cs).after (l.step c).1

def inQuotes : Lexer → Bool
  | quoted _ _ => true
  | _ => false

/-- A character that ends the word before it and belongs to no word. -/
def separates (c : Char) : Bool := !isWordChar c && c != '"' && c != '\''

variable (l : Lexer)

theorem run_append (cs ds : List Char) :
    l.run (cs ++ ds) = ((l.run cs).2.run ds).after (l.run cs).1 := by
  induction cs generalizing l with
  | nil => rfl
  | cons c cs ih => simp [run, ih, State.after]

private theorem step_separates {c : Char} (hl : l.inQuotes = false) (hc : separates c = true) :
    l.step c = (start c).after l.finish := by
  obtain ⟨⟨hword, hdouble⟩, hsingle⟩ : (isWordChar c = false ∧ c ≠ '"') ∧ c ≠ '\'' := by
    simpa [separates] using hc
  cases l with
  | between => rfl
  | word cs => simp [step, hword, finish]
  | quoted => contradiction
  | closing q cs =>
    have hmark : c ≠ q.mark := by cases q <;> assumption
    simp [step, hmark, finish]

/-- After a separating character it does not matter which token stood before it. -/
private theorem run_separates {c : Char} (cs : List Char) (hl : l.inQuotes = false)
    (hc : separates c = true) : l.run (c :: cs) = (between.run (c :: cs)).after l.finish := by
  have hstart : between.step c = start c := rfl
  rw [run, run, l.step_separates hl hc, hstart]
  simp [State.after]

private theorem run_word {cs : List Char} (h : ∀ c ∈ cs, isWordChar c = true) (ds : List Char) :
    (word ds).run cs = ([], word (ds ++ cs)) := by
  induction cs generalizing ds with
  | nil => simp [run]
  | cons c cs ih =>
    obtain ⟨hc, hcs⟩ := List.forall_mem_cons.mp h
    simp [run, step, hc, ih hcs, State.after]

/-- Quoted text in which the mark is written twice is read as the text. -/
private theorem run_doubled (q : Quotes) (ds cs rest : List Char) :
    (quoted q ds).run (cs.flatMap (fun c => if c = q.mark then [q.mark, q.mark] else [c]) ++ rest) =
      (quoted q (ds ++ cs)).run rest :=
  Quotation.in_quotes q.mark (fun ds => (quoted q ds).run)
    (fun _ c _ => by by_cases hc : c = q.mark <;> simp [hc, run, step, State.after]) ds cs rest

end Lexer

/-- The tokens of a text. -/
def lex (s : String) : List Token :=
  (Lexer.between.run s.toList).1 ++ (Lexer.between.run s.toList).2.finish

/-- A text with given tokens, no quoted text of which is left open. -/
def Lexes (s : String) (ts : List Token) : Prop :=
  lex s = ts ∧ (Lexer.between.run s.toList).2.inQuotes = false

instance (s : String) (ts : List Token) : Decidable (Lexes s ts) :=
  inferInstanceAs (Decidable (_ ∧ _))

/-- A text that keeps words apart on both of its sides. -/
def Parts (s : String) (ts : List Token) : Prop :=
  s.toList.head?.any Lexer.separates = true ∧ Lexer.between.run s.toList = (ts, .between)

instance (s : String) (ts : List Token) : Decidable (Parts s ts) :=
  inferInstanceAs (Decidable (_ ∧ _))

namespace Lexes

open Lexer

variable {s t u : String} {ts us vs : List Token}

theorem of_run {l : Lexer} (h : between.run s.toList = (ts, l)) (hl : l.inQuotes = false) :
    Lexes s (ts ++ l.finish) := by
  simp [Lexes, lex, h, hl]

/-- A text that is one token. -/
theorem of_run_nil {l : Lexer} (h : between.run s.toList = ([], l)) (hl : l.inQuotes = false) :
    Lexes s l.finish :=
  of_run h hl

/-- A text at the end of which no token is open may be followed by any other. -/
theorem after (hs : between.run s.toList = (ts, between)) (ht : Lexes t us) :
    Lexes (s ++ t) (ts ++ us) := by
  obtain ⟨rfl, ht⟩ := ht
  have hrun : between.run (s ++ t).toList = (between.run t.toList).after ts := by
    rw [String.toList_append, run_append, hs]
  simpa [lex] using of_run hrun ht

theorem run_parts (hs : Lexes s ts) (ht : Parts t us) :
    between.run (s ++ t).toList = (ts ++ us, between) := by
  obtain ⟨rfl, hs⟩ := hs
  obtain ⟨hhead, hrun⟩ := ht
  rw [String.toList_append, run_append]
  cases ht : t.toList with
  | nil => simp [ht] at hhead
  | cons c cs =>
    rw [ht] at hhead hrun
    rw [run_separates _ cs hs (by simpa using hhead), hrun]
    simp [lex, State.after]

/-- Texts may stand on both sides of a text that keeps words apart. -/
theorem parted (hs : Lexes s ts) (ht : Parts t us) (hu : Lexes u vs) :
    Lexes (s ++ t ++ u) (ts ++ us ++ vs) :=
  .after (hs.run_parts ht) hu

/-- A text between blanks keeps apart what stands around it. -/
theorem spaced (h : Lexes s ts) : Parts (" " ++ s ++ " ") ts := by
  have hblank : Parts " " [] := by decide +kernel
  have hrun := (after hblank.2 h).run_parts hblank
  exact ⟨by simpa using hblank.1, by simpa using hrun⟩

/-- Text between quotes, in which the mark is written twice, is one token. -/
theorem quoted (q : Quotes) (cs : List Char) :
    Lexes (.ofList (q.mark :: (cs.flatMap (fun c => if c = q.mark then [q.mark, q.mark] else [c]) ++
      [q.mark]))) [.quoted q cs] := by
  have hopen : between.step q.mark = ([], .quoted q []) := by cases q <;> decide +kernel
  refine .of_run_nil (l := closing q cs) ?_ rfl
  rw [String.toList_ofList, run, hopen]
  simp [run_doubled, run, step, State.after]

/-- A name between quotes is one token. -/
theorem quote (s : String) : Lexes (Identifier.quote s) [.quoted .double s.toList] :=
  quoted .double s.toList

theorem word {cs : List Char} (hcs : cs ≠ [])
    (h : ∀ c ∈ cs, Identifier.isWordChar c = true) : Lexes (.ofList cs) [.word cs] := by
  refine .of_run_nil (l := .word cs) ?_ rfl
  cases cs with
  | nil => contradiction
  | cons c cs =>
    obtain ⟨hc, hcs⟩ := List.forall_mem_cons.mp h
    simp [run, step, start, hc, run_word hcs, State.after]

end Lexes

theorem isDigit_of_mem_toString {n : Nat} {c : Char} (h : c ∈ (toString n).toList) :
    c.isDigit = true := by
  rw [Nat.toString_eq_repr, Nat.toList_repr] at h
  exact Nat.isDigit_of_mem_toDigits (by decide) (by decide) h

theorem Identifier.isWordChar_of_isDigit {c : Char} (h : c.isDigit = true) :
    isWordChar c = true := by
  have hrange : Unicode.isNumeric c = true := by
    obtain ⟨hfirst, hlast⟩ := Char.isDigit_iff_toNat.mp h
    refine List.any_eq_true.mpr ⟨(0x30, 0x39), .head _, ?_⟩
    simpa using And.intro hfirst hlast
  simp [isWordChar, hrange]

namespace Dialect

def nameToken : Dialect → String → Token
  | postgres, s => if Identifier.isPlain s then .word s.toList else .quoted .double s.toList
  | sqlite, s => .quoted .double s.toList

variable (d : Dialect)

theorem lexes_identifier (s : String) : Lexes (d.identifier s) [d.nameToken s] := by
  cases d with
  | sqlite => exact .quote s
  | postgres =>
    by_cases hplain : Identifier.isPlain s = true
    · have hword : s.toList ≠ [] ∧ ∀ c ∈ s.toList, Identifier.isWordChar c = true := by
        simp only [Identifier.isPlain, Bool.and_eq_true, List.all_eq_true] at hplain
        obtain ⟨⟨-, hstarts⟩, hall⟩ := hplain
        exact ⟨fun hnil => by simp [hnil, Identifier.startsWord] at hstarts,
          fun c hc => (hall c hc).1⟩
      simpa [identifier, nameToken, Identifier.escape, hplain] using Lexes.word hword.1 hword.2
    · simpa [identifier, nameToken, Identifier.escape, hplain] using Lexes.quote s

/-- A name can be read back from its token. -/
theorem nameToken_injective {s t : String} (h : d.nameToken s = d.nameToken t) : s = t := by
  have hchars : s.toList = t.toList := by
    cases d with
    | sqlite => simpa [nameToken] using h
    | postgres =>
      simp only [nameToken] at h
      -- A word is not quoted text, so the two names are written in the same way.
      split at h <;> split at h <;> simp_all
  exact String.toList_injective hchars

/-- A word that is no name without quotes is the token of no name. -/
theorem nameToken_ne_word {s : String} (w : String) (hw : Identifier.isPlain w = false) :
    d.nameToken s ≠ .keyword w := by
  intro h
  cases d with
  | sqlite => simp [nameToken, Token.keyword] at h
  | postgres =>
    by_cases hs : Identifier.isPlain s = true
    · rw [nameToken, if_pos hs] at h
      obtain rfl := String.toList_injective (Token.word.inj h)
      simp [hs] at hw
    · simp [nameToken, hs, Token.keyword] at h

def placeholderTokens : Dialect → Nat → List Token
  | postgres, n => [.sign '$', .word (toString n).toList]
  | sqlite, _ => [.sign '?']

theorem lexes_placeholder (n : Nat) : Lexes (d.placeholder n) (d.placeholderTokens n) := by
  cases d with
  | sqlite => exact (by decide +kernel : Lexes "?" [.sign '?'])
  | postgres =>
    have hdollar : Lexer.between.run "$".toList = ([.sign '$'], .between) := by decide +kernel
    have hword : ∀ c ∈ (toString n).toList, Identifier.isWordChar c = true := fun c hc =>
      Identifier.isWordChar_of_isDigit (isDigit_of_mem_toString hc)
    have hdigits : (toString n).toList ≠ [] := by
      rw [Nat.toString_eq_repr, Nat.toList_repr]
      exact Nat.toDigits_ne_nil
    have hnumber : Lexes (toString n) [.word (toString n).toList] := by
      simpa only [String.ofList_toList] using Lexes.word hdigits hword
    exact .after hdollar hnumber

end Dialect

end QueryTree
