import QueryTree.Proofs.Sql.Literals
import QueryTree.Proofs.Uuid
import QueryTree.Sql.Compile

/-!
# Names and literals read back

Names and literals stand between quotes, in which a quote is written twice; some names stand without.
A scanner in front of one of them takes exactly what was written and finds what it was written for,
whatever follows that cannot go on it. So no name and no value ends its text early or reaches into
what follows, and different ones have different texts.
-/
namespace QueryTree

namespace Quotation

/-- A text between marks, in which the mark is written twice. -/
def write (mark : Char) (cs : List Char) : List Char :=
  mark :: (cs.flatMap (fun c => if c = mark then [mark, mark] else [c]) ++ [mark])

/-- The text after an opening mark up to the mark that closes it, and what follows that. A mark that
is written twice stands for itself. -/
def read? (mark : Char) : List Char → Option (List Char × List Char)
  | [] => none
  | c :: cs =>
    if c = mark then
      match cs with
      | [] => some ([], [])
      | d :: ds =>
        if d = mark then (read? mark ds).map fun (text, rest) => (mark :: text, rest)
        else some ([], d :: ds)
    else (read? mark cs).map fun (text, rest) => (c :: text, rest)

/-- The text between marks with which a text begins, and what follows it. -/
def scan? (mark : Char) : List Char → Option (List Char × List Char)
  | [] => none
  | c :: cs => if c = mark then read? mark cs else none

variable {mark : Char} {rest : List Char}

private theorem read?_close (h : rest.head? ≠ some mark) :
    read? mark (mark :: rest) = some ([], rest) := by
  cases rest with
  | nil => simp [read?]
  | cons d ds =>
    have hd : d ≠ mark := by simpa using h
    simp [read?, hd]

/-- What is written for a character is read as that character. -/
private theorem read?_character (c : Char) (cs : List Char) :
    read? mark ((if c = mark then [mark, mark] else [c]) ++ cs) =
      (read? mark cs).map fun (text, rest) => (c :: text, rest) := by
  by_cases hc : c = mark
  · simp [hc, read?]
  · cases cs <;> simp [hc, read?]

private theorem read?_doubled (h : rest.head? ≠ some mark) (cs : List Char) :
    read? mark (cs.flatMap (fun c => if c = mark then [mark, mark] else [c]) ++ mark :: rest) =
      some (cs, rest) := by
  have hread := in_quotes mark
    (fun ds rest => (read? mark rest).map fun (text, rest) => (ds ++ text, rest)) (fun ds c cs => ?_)
    [] cs (mark :: rest)
  · simpa [read?_close h] using hread
  · simp [read?_character, Function.comp_def]

theorem scan?_write (h : rest.head? ≠ some mark) (cs : List Char) :
    scan? mark (write mark cs ++ rest) = some (cs, rest) := by
  have hread := read?_doubled h cs
  simpa [write, scan?] using hread

end Quotation

namespace Unicode

def smallLetters : List Char := "abcdefghijklmnopqrstuvwxyz".toList

theorem lowerChar_small : ∀ c ∈ smallLetters, c ≠ 'Σ' ∧ lowerChar c = [c] := by
  have hall : (smallLetters.all fun c => c ≠ 'Σ' ∧ lowerChar c = [c]) = true := by decide +kernel
  simpa using hall

private theorem lowerFrom_of_small {cs : List Char} (h : ∀ c ∈ cs, c ∈ smallLetters)
    (before : List Char) : lowerFrom before cs = cs := by
  induction cs generalizing before with
  | nil => rfl
  | cons c cs ih =>
    obtain ⟨hc, hcs⟩ := List.forall_mem_cons.mp h
    obtain ⟨hsigma, hlower⟩ := lowerChar_small c hc
    simp [lowerFrom, hsigma, hlower, ih hcs]

end Unicode

namespace Identifier

/-- The name with which a text begins, and what follows it. A name stands between quotes or is a run
of characters that may stand in a name, the first of which is no numeral. -/
def scan? : List Char → Option (List Char × List Char)
  | [] => none
  | c :: cs =>
    if c = '"' then Quotation.read? '"' cs
    else if isWordChar c && !Unicode.isNumeric c then
      some ((c :: cs).takeWhile isWordChar, (c :: cs).dropWhile isWordChar)
    else none

/-- What follows a name is no part of it. -/
def Ends (rest : List Char) : Prop := ∀ c ∈ rest.head?, c ≠ '"' ∧ isWordChar c = false

instance : (rest : List Char) → Decidable (Ends rest)
  | [] => isTrue nofun
  | c :: _ => decidable_of_iff (c ≠ '"' ∧ isWordChar c = false) (by simp [Ends])

variable {rest : List Char}

theorem scan?_quote (h : Ends rest) (name : String) :
    scan? ((quote name).toList ++ rest) = some (name.toList, rest) := by
  have hmark : rest.head? ≠ some '"' := fun hquote => (h '"' hquote).1 rfl
  have hscan := Quotation.scan?_write hmark name.toList
  simpa [quote, scan?, Quotation.write, Quotation.scan?] using hscan

theorem isPlain_iff {name : String} : isPlain name = true ↔
    (Unicode.lowercase name ∉ reservedWords ∧ startsWord name.toList = true) ∧
      ∀ c ∈ name.toList, isWordChar c = true ∧ Unicode.isUppercase c = false := by
  simp [isPlain]

private theorem not_isWordChar_quote : isWordChar '"' = false := by decide +kernel

theorem scan?_word (h : Ends rest) {c : Char} {cs : List Char}
    (hfirst : Unicode.isNumeric c = false) (hall : ∀ x ∈ c :: cs, isWordChar x = true) :
    scan? (c :: cs ++ rest) = some (c :: cs, rest) := by
  have hc : isWordChar c = true := hall c List.mem_cons_self
  have hquote : c ≠ '"' := by
    rintro rfl
    exact Bool.false_ne_true (not_isWordChar_quote.symm.trans hc)
  have hrest : rest.takeWhile isWordChar = [] ∧ rest.dropWhile isWordChar = rest := by
    cases rest with
    | nil => exact ⟨rfl, rfl⟩
    | cons d ds =>
      have hd : isWordChar d = false := (h d rfl).2
      simp [hd]
  have htake : (c :: cs ++ rest).takeWhile isWordChar = c :: cs := by
    rw [List.takeWhile_append_of_pos hall, hrest.1, List.append_nil]
  have hdrop : (c :: cs ++ rest).dropWhile isWordChar = rest := by
    rw [List.dropWhile_append_of_pos hall, hrest.2]
  rw [List.cons_append] at htake hdrop ⊢
  simp [scan?, hquote, hc, hfirst, htake, hdrop]

theorem scan?_plain (h : Ends rest) {name : String} (hplain : isPlain name = true) :
    scan? (name.toList ++ rest) = some (name.toList, rest) := by
  obtain ⟨⟨-, hstarts⟩, hall⟩ := isPlain_iff.mp hplain
  cases hname : name.toList with
  | nil => simp [hname, startsWord] at hstarts
  | cons c cs =>
    rw [hname] at hstarts hall
    exact scan?_word h (by simpa [startsWord] using hstarts) fun x hx => (hall x hx).1

private theorem lowercase_reserved {w : String} (h : w ∈ reservedWords) :
    Unicode.lowercase w = w := by
  have hsmall : ∀ w ∈ reservedWords, (w.toList.all fun c => c ∈ Unicode.smallLetters) = true := by
    decide +kernel
  have hletters : ∀ c ∈ w.toList, c ∈ Unicode.smallLetters := by simpa using hsmall w h
  rw [Unicode.lowercase, Unicode.lowerFrom_of_small hletters, String.ofList_toList]

/-- A plain name is no reserved word, though only its small letters are compared with them. -/
private theorem not_reserved_of_isPlain {name : String} (h : isPlain name = true) :
    name ∉ reservedWords := fun hmem =>
  (isPlain_iff.mp h).1.1 ((lowercase_reserved hmem).symm ▸ hmem)

end Identifier

namespace Dialect

open Identifier (Ends scan?)

theorem scan?_identifier {rest : List Char} (h : Ends rest) (d : Dialect) (name : String) :
    scan? ((d.identifier name).toList ++ rest) = some (name.toList, rest) := by
  have hquote := Identifier.scan?_quote h name
  cases d with
  | sqlite => exact hquote
  | postgres =>
    show scan? ((if Identifier.isPlain name then name else Identifier.quote name).toList ++ rest) = _
    split
    next hplain => exact Identifier.scan?_plain h hplain
    next => exact hquote

theorem identifier_injective (d : Dialect) : Function.Injective d.identifier := by
  intro name name' heq
  have hends : Ends [] := nofun
  have hname := scan?_identifier hends d name
  rw [heq, scan?_identifier hends d name'] at hname
  exact (String.toList_injective (Prod.mk.inj (Option.some.inj hname)).1).symm

theorem isPlain_of_unquoted {name : String}
    (h : (postgres.identifier name).toList.head? ≠ some '"') : Identifier.isPlain name = true := by
  by_cases hplain : Identifier.isPlain name = true
  · exact hplain
  · refine absurd ?_ h
    show (if Identifier.isPlain name then name else Identifier.quote name).toList.head? = _
    rw [if_neg hplain, Identifier.quote, String.toList_ofList]
    rfl

/-- Every name is read back from its text in a dialect, in front of whatever cannot go on a name. A
name that has no quotes around it is in small letters and is no reserved word. So different names
have different texts. -/
theorem names_read_back :
    (∀ (d : Dialect) (name : String) (rest : List Char), Ends rest →
      scan? ((d.identifier name).toList ++ rest) = some (name.toList, rest)) ∧
    (∀ name : String, (postgres.identifier name).toList.head? ≠ some '"' →
      (∀ c ∈ (postgres.identifier name).toList, Unicode.isUppercase c = false) ∧
        postgres.identifier name ∉ Identifier.reservedWords) ∧
    ∀ d : Dialect, Function.Injective d.identifier := by
  refine ⟨fun d name rest h => scan?_identifier h d name, fun name h => ?_, identifier_injective⟩
  have hplain := isPlain_of_unquoted h
  have htext : postgres.identifier name = name := if_pos hplain
  rw [htext]
  exact ⟨fun c hc => ((Identifier.isPlain_iff.mp hplain).2 c hc).2,
    Identifier.not_reserved_of_isPlain hplain⟩

theorem names_read_back_quoteInside :
    (Ends [')'] ∧ (postgres.identifier "größe").toList.head? ≠ some '"') ∧
    scan? ((postgres.identifier "a\"\"\"").toList ++ [')']) = some ("a\"\"\"".toList, [')']) ∧
    postgres.identifier "größe" ∉ Identifier.reservedWords := by
  have hends : Ends [')'] := by decide +kernel
  have hunquoted : (postgres.identifier "größe").toList.head? ≠ some '"' := by decide +kernel
  obtain ⟨hscan, hplain, -⟩ := names_read_back
  exact ⟨⟨hends, hunquoted⟩, hscan postgres "a\"\"\"" [')'] hends, (hplain _ hunquoted).2⟩

end Dialect

namespace Hex

def smallDigits : List Char := "0123456789abcdef".toList

def bytes? : List Char → Option (List UInt8)
  | [] => some []
  | [_] => none
  | a :: b :: cs => do
    let n ← number? [a, b]
    let bs ← bytes? cs
    some (UInt8.ofNat n :: bs)

theorem digit_mem_smallDigits (n : Nat) (h : n < 16) : digit n ∈ smallDigits := by
  revert n
  decide +kernel

private theorem number?_pair {hi lo : Nat} (hhi : hi < 16) (hlo : lo < 16) :
    number? [digit hi, digit lo] = some (hi * 16 + lo) := by
  have hfirst : number? [digit hi] = some hi := by
    simpa using number?_append [] 0 hi hhi rfl
  exact number?_append [digit hi] hi lo hlo hfirst

end Hex

namespace Value

/-- The text between single quotes with which a text begins, and what follows it. -/
def scan? : List Char → Option (List Char × List Char) := Quotation.scan? '\''

section

variable {rest : List Char}

theorem scan?_quote (h : rest.head? ≠ some '\'') (cs : List Char) :
    scan? ((String.ofList (quote cs)).toList ++ rest) = some (cs, rest) := by
  rw [String.toList_ofList]
  exact Quotation.scan?_write h cs

theorem quote_injective {cs ds : List Char}
    (h : String.ofList (quote cs) = String.ofList (quote ds)) : cs = ds := by
  have hnothing : ([] : List Char).head? ≠ some '\'' := nofun
  have hscan := scan?_quote hnothing cs
  rw [h, scan?_quote hnothing ds] at hscan
  exact (Prod.mk.inj (Option.some.inj hscan)).1.symm

end

theorem bytes?_byteText (bs : List UInt8) : Hex.bytes? (bs.flatMap byteText) = some bs := by
  induction bs with
  | nil => rfl
  | cons b bs ih =>
    have hb := b.toNat_lt
    have hpair : Hex.number? (byteText b) = some b.toNat := by
      rw [byteText, Hex.number?_pair (by omega) (by omega), Nat.div_add_mod']
    rw [List.flatMap_cons]
    show (Hex.number? (byteText b) >>= fun n => _) = _
    rw [hpair]
    simp [ih]

private theorem length_byteText (bs : List UInt8) :
    (bs.flatMap byteText).length = 2 * bs.length := by
  induction bs with
  | nil => rfl
  | cons b bs ih =>
    have hpair : (byteText b).length = 2 := rfl
    rw [List.flatMap_cons, List.length_append, ih, hpair, List.length_cons]
    omega

private theorem mem_byteText {bs : List UInt8} {c : Char} (h : c ∈ bs.flatMap byteText) :
    c ∈ Hex.smallDigits := by
  obtain ⟨b, -, hc⟩ := List.mem_flatMap.mp h
  have hb := b.toNat_lt
  simp only [byteText, List.mem_cons, List.not_mem_nil, or_false] at hc
  rcases hc with rfl | rfl
  · exact Hex.digit_mem_smallDigits _ (by omega)
  · exact Hex.digit_mem_smallDigits _ (by omega)

theorem byteText_injective {bs bs' : List UInt8}
    (h : bs.flatMap byteText = bs'.flatMap byteText) : bs = bs' := by
  have hbytes := bytes?_byteText bs
  rw [h, bytes?_byteText bs'] at hbytes
  exact (Option.some.inj hbytes).symm

/-- The literal of a text, of a JSON value or of bytes is read back, and what follows it is left as it
is, unless that begins with a quote. The literal holds the text itself, the compact text of the value,
or the bytes in pairs of hexadecimal digits. So different texts have different literals, and so have
different bytes. -/
theorem literals_read_back :
    (∀ rest : List Char, rest.head? ≠ some '\'' →
      (∀ s, scan? ((string s).literal.toList ++ rest) = some (s.toList, rest)) ∧
      (∀ x, scan? ((json x).literal.toList ++ rest) = some (x.compactText.toList, rest)) ∧
      ∀ bs, ∃ digits,
        scan? ((bytes bs).literal.toList ++ rest) = some ('\\' :: 'x' :: digits, rest) ∧
        digits.length = 2 * bs.length ∧ (∀ c ∈ digits, c ∈ Hex.smallDigits) ∧
        Hex.bytes? digits = some bs) ∧
    Function.Injective (fun s => (string s).literal) ∧
    Function.Injective fun bs => (bytes bs).literal := by
  refine ⟨fun rest h => ⟨fun s => scan?_quote h _, fun x => ?_, fun bs => ?_⟩, fun s s' h => ?_,
    fun bs bs' h => ?_⟩
  · rw [JsonTree.compactText_eq, String.toList_ofList]
    exact scan?_quote h _
  · exact ⟨_, scan?_quote h _, length_byteText bs, fun c => mem_byteText, bytes?_byteText bs⟩
  · exact String.toList_injective (quote_injective h)
  · have hdigits := (List.cons.inj (List.cons.inj (quote_injective h)).2).2
    exact byteText_injective hdigits

/-- A text that tries to end its literal and to begin a comment, and what could follow it. -/
theorem literals_read_back_quotesAtEnds :
    [')'].head? ≠ some '\'' ∧
    scan? ((string "'\\'); --'").literal.toList ++ [')']) = some ("'\\'); --'".toList, [')']) := by
  have hrest : [')'].head? ≠ some '\'' := by decide
  exact ⟨hrest, (literals_read_back.1 [')'] hrest).1 "'\\'); --'"⟩

end Value

end QueryTree
