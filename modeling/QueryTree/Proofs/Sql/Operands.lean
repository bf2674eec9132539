import QueryTree.Proofs.Sql.Literals
import QueryTree.Proofs.Sql.ConditionText

/-!
# Operands

A condition compares columns and values. Whatever their names are, and whether values are bound or
written in place, no token of an operand takes part in how a condition is read. For a literal this is
so because no number has the letters of a word that does.
-/
namespace QueryTree

open Token (Quiet StartsAtom)

theorem Dialect.quiet_nameToken (d : Dialect) (n : String) : Token.Quiet (d.nameToken n) := by
  have hopens : (d.nameToken n).opens = 0 := by
    cases d with
    | sqlite => rfl
    | postgres =>
      rw [nameToken]
      split <;> rfl
  refine ⟨hopens, fun w hw => d.nameToken_ne_word w ?_⟩
  simp only [List.mem_cons, List.not_mem_nil, or_false] at hw
  rcases hw with rfl | rfl <;> decide +kernel

private theorem Dialect.startsAtom_nameToken (d : Dialect) (n : String) (ts : List Token) :
    StartsAtom (d.nameToken n :: ts) := by
  refine ⟨_, ts, rfl, fun h => ?_, d.nameToken_ne_word "not" (by decide +kernel)⟩
  have := (d.quiet_nameToken n).1
  simp [h, Token.opens] at this

private theorem Dialect.quiet_placeholderTokens (d : Dialect) (k : Nat) :
    ∀ t ∈ d.placeholderTokens k, t.Quiet := by
  have hdigit : ∀ c ∈ (toString k).toList, c.isDigit = true := fun _ => isDigit_of_mem_toString
  cases d with
  | sqlite => exact List.forall_mem_singleton.mpr (by decide)
  | postgres =>
    refine List.forall_mem_cons.mpr ⟨by decide, List.forall_mem_singleton.mpr ⟨rfl, ?_⟩⟩
    intro w hw h
    have hchars : (toString k).toList = w.toList := Token.word.inj h
    rw [hchars] at hdigit
    simp only [List.mem_cons, List.not_mem_nil, or_false] at hw
    rcases hw with rfl | rfl
    · have hletter : 'a'.isDigit = true := hdigit 'a' (by simp)
      exact absurd hletter (by decide)
    · have hletter : 'o'.isDigit = true := hdigit 'o' (by simp)
      exact absurd hletter (by decide)

private theorem Dialect.startsAtom_placeholderTokens (d : Dialect) (k : Nat) :
    StartsAtom (d.placeholderTokens k) := by
  cases d <;> exact ⟨_, _, rfl, by decide, by decide⟩

/-- Tokens of an operand. -/
def Token.IsOperand (ts : List Token) : Prop := (∀ t ∈ ts, t.Quiet) ∧ StartsAtom ts

open Token (IsOperand)

private theorem Token.isOperand_dotted {ts us : List Token} (hts : IsOperand ts)
    (hus : IsOperand us) : IsOperand (ts ++ [.sign '.'] ++ us) := by
  obtain ⟨t, rest, rfl, hopening, hnot⟩ := hts.2
  refine ⟨?_, t, rest ++ [.sign '.'] ++ us, by simp, hopening, hnot⟩
  exact List.forall_mem_append.mpr ⟨List.forall_mem_append.mpr
    ⟨hts.1, List.forall_mem_singleton.mpr (by decide)⟩, hus.1⟩

namespace Token

/-- A token of a number or of a word that stands for a value. -/
def Bare : Token → Prop
  | word cs => ∀ c ∈ cs, Value.isBareChar c = true
  | sign c => Value.isBareChar c = true
  | quoted _ _ => False

variable {t : Token}

theorem Bare.ne_keyword (h : Bare t) {w : String} (hw : w.toList.all Value.isBareChar = false) :
    t ≠ .keyword w := by
  rintro rfl
  exact absurd ((List.all_eq_true.mpr h).symm.trans hw) (by decide)

theorem Bare.ne_sign (h : Bare t) {c : Char} (hc : Value.isBareChar c = false) : t ≠ .sign c := by
  rintro rfl
  exact absurd (h.symm.trans hc) (by decide)

/-- No word by which a condition is read is made of the letters of values. -/
private theorem Bare.quiet (h : Bare t) : Quiet t := by
  refine ⟨?_, fun w hw => h.ne_keyword ?_⟩
  · rw [opens.eq_def]
    split
    · exact absurd rfl (h.ne_sign (by decide))
    · exact absurd rfl (h.ne_sign (by decide))
    · rfl
  · simp only [List.mem_cons, List.not_mem_nil, or_false] at hw
    rcases hw with rfl | rfl <;> decide

private theorem isOperand_of_bare {ts : List Token} (h : ∀ t ∈ ts, Bare t) (hne : ts ≠ []) :
    IsOperand ts := by
  obtain ⟨t, us, rfl⟩ := List.exists_cons_of_ne_nil hne
  have ht : Bare t := h t (.head _)
  exact ⟨fun t ht => (h t ht).quiet, t, us, rfl, ht.ne_sign (by decide), ht.ne_keyword (by decide)⟩

end Token

namespace Lexer

/-- A lexer that has read characters of a number or of a word. -/
def Bare : Lexer → Prop
  | between => True
  | word cs => ∀ c ∈ cs, Value.isBareChar c = true
  | _ => False

variable {l : Lexer} {c : Char}

theorem start_bare (h : Value.isBareChar c = true) :
    start c = ([], .word [c]) ∨ start c = ([.sign c], .between) := by
  rcases Bool.or_eq_true_iff.mp h with hdigit | hword
  · have hc := Identifier.isWordChar_of_isDigit hdigit
    exact .inl (by rw [start, if_pos hc])
  · have hall : Value.wordChars.all fun c =>
        start c = ([], .word [c]) ∨ start c = ([.sign c], .between) := by
      decide +kernel
    exact of_decide_eq_true (List.all_eq_true.mp hall c (by simpa using hword))

private theorem step_bare (hl : l.Bare) (hc : Value.isBareChar c = true) :
    (∀ t ∈ (l.step c).1, t.Bare) ∧ (l.step c).2.Bare := by
  have hstart : (∀ t ∈ (start c).1, t.Bare) ∧ (start c).2.Bare := by
    rcases start_bare hc with h | h <;> rw [h]
    · exact ⟨List.forall_mem_nil _, List.forall_mem_singleton.mpr hc⟩
    · exact ⟨List.forall_mem_singleton.mpr hc, trivial⟩
  cases l with
  | between => exact hstart
  | word cs =>
    rw [step]
    split
    · exact ⟨List.forall_mem_nil _,
        List.forall_mem_append.mpr ⟨hl, List.forall_mem_singleton.mpr hc⟩⟩
    · exact ⟨List.forall_mem_cons.mpr ⟨hl, hstart.1⟩, hstart.2⟩
  | quoted | closing => exact hl.elim

private theorem run_bare {cs : List Char} (hl : l.Bare)
    (hcs : ∀ c ∈ cs, Value.isBareChar c = true) :
    (∀ t ∈ (l.run cs).1, t.Bare) ∧ (l.run cs).2.Bare := by
  induction cs generalizing l with
  | nil => exact ⟨nofun, hl⟩
  | cons c cs ih =>
    obtain ⟨hc, hcs⟩ := List.forall_mem_cons.mp hcs
    obtain ⟨htokens, hnext⟩ := step_bare hl hc
    obtain ⟨hrest, hlast⟩ := ih hnext hcs
    exact ⟨List.forall_mem_append.mpr ⟨htokens, hrest⟩, hlast⟩

theorem Bare.finish (hl : l.Bare) : l.inQuotes = false ∧ ∀ t ∈ l.finish, t.Bare := by
  cases l with
  | between => exact ⟨rfl, nofun⟩
  | word cs => exact ⟨rfl, List.forall_mem_singleton.mpr hl⟩
  | quoted | closing => exact hl.elim

/-- What has been read of a token is not lost. -/
private theorem run_ne_nil {l : Lexer} (hl : l.finish ≠ []) (cs : List Char) :
    (l.run cs).1 ≠ [] ∨ (l.run cs).2.finish ≠ [] := by
  induction cs generalizing l with
  | nil => exact .inr hl
  | cons c cs ih =>
    have hstep : (l.step c).1 ≠ [] ∨ (l.step c).2.finish ≠ [] := by
      cases l with
      | between => contradiction
      | word ds | closing q ds =>
        rw [step]
        split
        · exact .inr (List.cons_ne_nil _ _)
        · exact .inl (List.cons_ne_nil _ _)
      | quoted q ds =>
        rw [step]
        split <;> exact .inr (List.cons_ne_nil _ _)
    rw [run, State.after]
    rcases hstep with hfirst | hopen
    · exact .inl (List.append_ne_nil_of_left_ne_nil hfirst _)
    · exact (ih hopen).imp (List.append_ne_nil_of_right_ne_nil _) id

end Lexer

namespace Lexes

open Lexer

/-- A number or a word is read as tokens that take no part in how a condition is read. -/
theorem bare {cs : List Char} (h : Value.Bare cs) :
    ∃ ts, Lexes (.ofList cs) ts ∧ IsOperand ts := by
  obtain ⟨hne, hcs⟩ := h
  obtain ⟨htokens, hlast⟩ := run_bare (l := between) trivial hcs
  obtain ⟨hquotes, hfinish⟩ := hlast.finish
  obtain ⟨c, cs, rfl⟩ := List.exists_cons_of_ne_nil hne
  refine ⟨_, .of_run (by rw [String.toList_ofList]) hquotes,
    Token.isOperand_of_bare (List.forall_mem_append.mpr ⟨htokens, hfinish⟩) ?_⟩
  have hsome : (between.run (c :: cs)).1 ≠ [] ∨ (between.run (c :: cs)).2.finish ≠ [] := by
    have hstep : between.step c = start c := rfl
    rw [run, hstep, State.after]
    rcases start_bare (hcs c (.head _)) with hstart | hstart <;> rw [hstart]
    · exact run_ne_nil (l := Lexer.word [c]) (List.cons_ne_nil _ _) cs
    · exact .inl (List.cons_ne_nil _ _)
  rcases hsome with hfirst | hopen
  · exact List.append_ne_nil_of_left_ne_nil hfirst _
  · exact List.append_ne_nil_of_right_ne_nil _ hopen

/-- Whatever a value is, its literal is an operand. -/
theorem literal (d : Dialect) (v : Value) :
    ∃ ts, Lexes (Output.literal d v) ts ∧ IsOperand ts := by
  rcases Output.literal_cases d v with ⟨-, cs, htext⟩ | ⟨cs, hbare, htext⟩
  · rw [htext]
    exact ⟨_, quoted .single cs, List.forall_mem_singleton.mpr ⟨rfl, nofun⟩, _, [], rfl, nofun, nofun⟩
  · obtain ⟨ts, hts, hoperand⟩ := bare hbare
    cases hneg : v.isNegative with
    | false =>
      have hplain : Output.literal d v = .ofList cs := by
        rw [← String.ofList_toList (s := Output.literal d v), htext, hneg]
        rfl
      exact ⟨ts, hplain ▸ hts, hoperand⟩
    | true =>
      have hsigned : Output.literal d v = "-" ++ .ofList cs := by
        rw [← String.ofList_toList (s := Output.literal d v), htext, hneg]
        simp [Value.sign]
      refine ⟨.sign '-' :: ts, ?_, List.forall_mem_cons.mpr ⟨by decide, hoperand.1⟩, _, ts, rfl,
        by decide, by decide⟩
      have hsign : between.run "-".toList = ([.sign '-'], between) := by decide +kernel
      rw [hsigned]
      exact .after hsign hts

end Lexes

/-- What a comparison compares: a column, which may be led by a table, a column or all columns
written with dots, or a value. -/
inductive Operand
  | column (name : String)
  | reference (table : Option ObjectName) (column : String)
  | dotted (s : String)
  | value (v : Value)
  deriving DecidableEq

def ObjectName.toTable : ObjectName → Node .table
  | ⟨none, n⟩ => Tree.tableNamed n
  | ⟨some s, n⟩ => .table (Tree.qualified s n)

namespace Operand

def toNode : Operand → AnyNode
  | column n => .any (Tree.columnNamed n)
  | reference t n => .any (.reference (.ofOption (t.map ObjectName.toTable))
      (.any (Tree.columnNamed n)))
  | dotted s => Expression.reference s
  | value v => Expression.value v

def pieces (x : Operand) : List Piece := x.toNode.pieces .bare

def owners (names : List String) : List Piece := names.flatMap fun n => [.name n, .word "."]

/-- What is last in a reference: a column or all columns. -/
def IsLast (x : Piece) : Prop := x = .word "*" ∨ ∃ n, x = .name n

theorem columnOrAll_cases (cs : List Char) :
    Tree.columnOrAll cs = .any .selectAll ∨ ∃ n, Tree.columnOrAll cs = .any (Tree.columnNamed n) := by
  rw [Tree.columnOrAll]
  split
  · exact .inl rfl
  · exact .inr ⟨_, rfl⟩

private theorem pieces_owned (cs : List Char) (c : AnyNode) : ∃ names, ∀ p,
    (Tree.pieces (.any (.reference (.some (Tree.tableOfChars cs)) c)) p) =
      owners names ++ c.pieces p := by
  rw [Tree.tableOfChars]
  split
  next schema name _ =>
    exact ⟨[Tree.part schema, Tree.part name], fun _ => rfl⟩
  next => exact ⟨[Tree.part cs], fun _ => rfl⟩

private theorem pieces_reference (s : String) : ∃ names last, IsLast last ∧
    ∀ p, (Expression.reference s).pieces p = owners names ++ [last] := by
  rw [Expression.reference, Tree.parseReference]
  cases Tree.splitLast? s.toList with
  | some parts =>
    obtain ⟨names, hpieces⟩ := pieces_owned parts.1 (Tree.columnOrAll parts.2)
    rcases columnOrAll_cases parts.2 with hcolumn | ⟨n, hcolumn⟩
    · exact ⟨names, .word "*", .inl rfl, fun p => (hpieces p).trans (by rw [hcolumn]; rfl)⟩
    · exact ⟨names, .name n, .inr ⟨n, rfl⟩, fun p => (hpieces p).trans (by rw [hcolumn]; rfl)⟩
  | none =>
    rcases columnOrAll_cases s.toList with hcolumn | ⟨n, hcolumn⟩ <;> rw [hcolumn]
    · exact ⟨[], _, .inl rfl, fun _ => rfl⟩
    · exact ⟨[], _, .inr ⟨n, rfl⟩, fun _ => rfl⟩

/-- An operand is a value, or names with dots between them of which the last may be a star. -/
theorem pieces_cases : (x : Operand) → (∃ v, x = value v) ∨ ∃ names last, IsLast last ∧
    ∀ p, x.toNode.pieces p = owners names ++ [last]
  | value v => .inl ⟨v, rfl⟩
  | column n | reference none n => .inr ⟨[], .name n, .inr ⟨n, rfl⟩, fun _ => rfl⟩
  | reference (some ⟨none, t⟩) n => .inr ⟨[t], .name n, .inr ⟨n, rfl⟩, fun _ => rfl⟩
  | reference (some ⟨some s, t⟩) n => .inr ⟨[s, t], .name n, .inr ⟨n, rfl⟩, fun _ => rfl⟩
  | dotted s => .inr (pieces_reference s)

theorem pieces_toNode (x : Operand) (p : Place) : x.toNode.pieces p = x.pieces := by
  rcases x.pieces_cases with ⟨v, rfl⟩ | ⟨_, _, _, hpieces⟩
  · rfl
  · exact (hpieces p).trans (hpieces .bare).symm

variable (d : Dialect) (m : ValueMode)

theorem addsTokens_name (n : String) : AddsTokens d m [.name n] IsOperand :=
  .name ⟨List.forall_mem_singleton.mpr (d.quiet_nameToken n), d.startsAtom_nameToken n []⟩

private theorem addsTokens_last {x : Piece} (h : IsLast x) : AddsTokens d m [x] IsOperand := by
  rcases h with rfl | ⟨n, rfl⟩
  · exact fun o => ⟨"*", [.sign '*'], rfl, by decide +kernel,
      List.forall_mem_singleton.mpr (by decide), _, [], rfl, by decide, by decide⟩
  · exact addsTokens_name d m n

private theorem addsTokens_owned (names : List String) {ps : List Piece}
    (h : AddsTokens d m ps IsOperand) : AddsTokens d m (owners names ++ ps) IsOperand := by
  induction names with
  | nil => exact h
  | cons n names ih =>
    have howners : owners (n :: names) ++ ps = [.name n] ++ ([.word "."] ++ (owners names ++ ps)) := by
      simp [owners]
    rw [howners]
    exact (addsTokens_name d m n).parted "." [.sign '.'] (fun _ => rfl) (by decide +kernel) ih
      fun _ _ => Token.isOperand_dotted

private theorem addsTokens_value (v : Value) : AddsTokens d m [.value v] IsOperand := by
  cases m with
  | bind => exact .bound fun k => ⟨d.quiet_placeholderTokens k, d.startsAtom_placeholderTokens k⟩
  | inline =>
    obtain ⟨ts, hts, hoperand⟩ := Lexes.literal d v
    exact fun o => ⟨Output.literal d v, ts, rfl, hts, hoperand⟩

theorem addsTokens (x : Operand) : AddsTokens d m x.pieces IsOperand := by
  rcases x.pieces_cases with ⟨v, rfl⟩ | ⟨names, last, hlast, hpieces⟩
  · exact addsTokens_value d m v
  · rw [pieces, hpieces]
    exact addsTokens_owned d m names (addsTokens_last d m hlast)

end Operand

end QueryTree
