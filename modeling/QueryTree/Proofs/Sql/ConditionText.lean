import QueryTree.Expression
import QueryTree.Proofs.Sql.Precedence

/-!
# The text of conditions

What a row of pieces adds to an output is a text with tokens of its own, whether values are bound or
written in place. The text of a condition is read as a condition with the same symbols, in which the
tokens of each atom are one atom, if none of them takes part in how a condition is read.
-/
namespace QueryTree

open Token (IsAtom)

/-- What a row of pieces adds to any output is a text whose tokens have a property. -/
def AddsTokens (d : Dialect) (m : ValueMode) (ps : List Piece) (P : List Token → Prop) : Prop :=
  ∀ o : Output, ∃ s ts, (o.addAll d m ps).sql = o.sql ++ s ∧ Lexes s ts ∧ P ts

namespace AddsTokens

variable {d : Dialect} {m : ValueMode} {ps qs ws : List Piece} {P Q R : List Token → Prop}

theorem mono (h : AddsTokens d m ps P) (hPQ : ∀ ts, P ts → Q ts) : AddsTokens d m ps Q := fun o =>
  let ⟨s, ts, hsql, hs, hts⟩ := h o
  ⟨s, ts, hsql, hs, hPQ ts hts⟩

theorem name {n : String} (h : P [d.nameToken n]) : AddsTokens d m [.name n] P :=
  fun _ => ⟨d.identifier n, _, rfl, d.lexes_identifier n, h⟩

theorem bound {v : Value} (h : ∀ k, P (d.placeholderTokens k)) : AddsTokens d .bind [.value v] P :=
  fun o => ⟨_, _, rfl, d.lexes_placeholder (o.parameters.size + 1), h _⟩

theorem nil (h : P []) : AddsTokens d m [] P :=
  fun _ => ⟨"", [], String.append_empty.symm, by decide, h⟩

/-- A row may stand after words at the end of which no token is open. -/
theorem after (w : String) (ts : List Token)
    (hws : ∀ o : Output, o.addAll d m ws = o.write w)
    (hw : Lexer.between.run w.toList = (ts, .between)) (hqs : AddsTokens d m qs Q)
    (hR : ∀ us, Q us → R (ts ++ us)) : AddsTokens d m (ws ++ qs) R := by
  intro o
  obtain ⟨t, us, hsql, ht, hus⟩ := hqs (o.write w)
  refine ⟨w ++ t, ts ++ us, ?_, .after hw ht, hR us hus⟩
  calc (o.addAll d m (ws ++ qs)).sql
    _ = ((o.addAll d m ws).addAll d m qs).sql := by
      rw [Output.addAll, List.foldl_append]
      rfl
    _ = o.sql ++ (w ++ t) := by
      rw [hws, hsql]
      exact String.append_assoc

/-- Rows may stand on both sides of words that keep others apart. -/
theorem parted (hps : AddsTokens d m ps P) (w : String) (ts : List Token)
    (hws : ∀ o : Output, o.addAll d m ws = o.write w) (hw : Parts w ts)
    (hqs : AddsTokens d m qs Q) (hR : ∀ us vs, P us → Q vs → R (us ++ ts ++ vs)) :
    AddsTokens d m (ps ++ (ws ++ qs)) R := by
  intro o
  obtain ⟨s, us, hsqls, hs, hus⟩ := hps o
  obtain ⟨t, vs, hsqlt, ht, hvs⟩ := hqs ((o.addAll d m ps).write w)
  refine ⟨s ++ w ++ t, us ++ ts ++ vs, ?_, hs.parted hw ht, hR us vs hus hvs⟩
  calc (o.addAll d m (ps ++ (ws ++ qs))).sql
    _ = (((o.addAll d m ps).addAll d m ws).addAll d m qs).sql := by
      rw [Output.addAll, List.foldl_append, List.foldl_append]
      rfl
    _ = o.sql ++ (s ++ w ++ t) := by
      rw [hws, hsqlt, Output.write, hsqls]
      simp only [String.append_assoc]

theorem parens (h : AddsTokens d m ps P) (hR : ∀ us, P us → R (.sign '(' :: (us ++ [.sign ')']))) :
    AddsTokens d m ([.word "("] ++ (ps ++ [.word ")"])) R := by
  have hinner : AddsTokens d m (ps ++ ([.word ")"] ++ []))
      (fun ts => ∃ us, P us ∧ ts = us ++ [.sign ')']) :=
    h.parted ")" [.sign ')'] (fun _ => rfl) (by decide +kernel) (nil (P := (· = [])) rfl)
      fun us vs hus hvs => ⟨us, hus, by rw [hvs, List.append_nil]⟩
  refine .after "(" [.sign '('] (fun _ => rfl) (by decide +kernel) hinner ?_
  rintro us ⟨vs, hvs, rfl⟩
  exact hR vs hvs

end AddsTokens

def Symbol.pieces {α : Type} (f : α → List Piece) : Symbol α → List Piece
  | atom a => f a
  | not => [.word "not", .word " "]
  | and => [.word " and "]
  | or => [.word " or "]
  | opening => [.word "("]
  | closing => [.word ")"]

namespace Condition

variable {α : Type}

/-- The node that is a condition, given the nodes of its atoms. -/
def toNode (f : α → AnyNode) : Condition α → AnyNode
  | atom a => f a
  | not c => Expression.not (c.toNode f)
  | and l r => .any (.and (l.toNode f) (r.toNode f))
  | or l r => .any (.or (l.toNode f) (r.toNode f))
  | parens c => Expression.parens (c.toNode f)

variable {f : α → AnyNode} {g : α → List Piece}

/-- A condition is laid out symbol by symbol, wherever it stands. -/
theorem pieces_toNode (hf : ∀ a p, (f a).pieces p = g a) (c : Condition α) (p : Place) :
    (c.toNode f).pieces p = c.write (Symbol.pieces g) := by
  induction c generalizing p with
  | atom a => simpa [toNode, Symbol.pieces] using hf a p
  | not c ih =>
    calc (c.not.toNode f).pieces p
      _ = [.word "not", .word " "] ++ (c.toNode f).pieces p := by
        simp [toNode, Expression.not, Expression.unary, Tree.view, Tree.pieces, Layout.sql,
          Form.toSql, layout, Sql.word, Sql.when, Operator.symbol, Operator.isKeyword]
      _ = c.not.write (Symbol.pieces g) := by rw [ih, write_not, Symbol.pieces]
  | and l r ihl ihr =>
    calc ((l.and r).toNode f).pieces p
      _ = (l.toNode f).pieces p ++ ([.word " and "] ++ (r.toNode f).pieces p) := by
        simp [toNode, Tree.view, Tree.pieces, Layout.sql, Form.toSql, layout, Sql.word]
      _ = (l.and r).write (Symbol.pieces g) := by rw [ihl, ihr, write_and, Symbol.pieces]
  | or l r ihl ihr =>
    calc ((l.or r).toNode f).pieces p
      _ = (l.toNode f).pieces p ++ ([.word " or "] ++ (r.toNode f).pieces p) := by
        simp [toNode, Tree.view, Tree.pieces, Layout.sql, Form.toSql, layout, Sql.word]
      _ = (l.or r).write (Symbol.pieces g) := by rw [ihl, ihr, write_or, Symbol.pieces]
  | parens c ih =>
    calc (c.parens.toNode f).pieces p
      _ = [.word "("] ++ ((c.toNode f).pieces .bare ++ [.word ")"]) := by
        simp [toNode, Expression.parens, Tree.view, Tree.pieces, Layout.sql, Form.toSql, layout,
          Sql.word, Sql.parens]
      _ = c.parens.write (Symbol.pieces g) := by rw [ih, write_parens, Symbol.pieces, Symbol.pieces]

/-- Tokens that are written for an atom after some output. -/
def WrittenFor (d : Dialect) (m : ValueMode) (g : α → List Piece) (ts : List Token) (a : α) : Prop :=
  ∃ (o : Output) (s : String), (o.addAll d m (g a)).sql = o.sql ++ s ∧ Lexes s ts

variable {d : Dialect} {m : ValueMode}

/-- Tokens with which a condition is written after some output. -/
def IsWritten (d : Dialect) (m : ValueMode) (g : α → List Piece) (c : Condition α)
    (ts : List Token) : Prop :=
  ∃ T : Condition (List Token), T.tokens = ts ∧ T.Legible ∧ T.Matches (WrittenFor d m g) c

theorem isWritten_atom {a : α} {ts : List Token} (hatom : IsAtom ts) (h : WrittenFor d m g ts a) :
    IsWritten d m g (atom a) ts :=
  ⟨atom ts, tokens_atom ts, legible_atom.mpr hatom, .atom h⟩

/-- The text of a condition is read as a condition of the same symbols. -/
theorem addsTokens (hg : ∀ a, AddsTokens d m (g a) IsAtom) (c : Condition α) :
    AddsTokens d m (c.write (Symbol.pieces g)) (IsWritten d m g c) := by
  induction c with
  | atom a =>
    intro o
    obtain ⟨s, ts, hsql, hs, hatom⟩ := hg a o
    rw [write_atom]
    exact ⟨s, ts, hsql, hs, isWritten_atom hatom ⟨o, s, hsql, hs⟩⟩
  | not c ih =>
    rw [write_not]
    refine .after "not " [.keyword "not"] (fun _ => ?_) (by decide +kernel) ih ?_
    · simp [Symbol.pieces, Output.addAll, Output.add, Output.write, String.append_assoc]
    · rintro us ⟨T, rfl, hlegible, hmatches⟩
      exact ⟨T.not, tokens_not, legible_not.mpr hlegible, .not hmatches⟩
  | and l r ihl ihr =>
    rw [write_and]
    refine ihl.parted " and " [.keyword "and"] (fun _ => rfl) (by decide +kernel) ihr ?_
    rintro us vs ⟨T, rfl, hT, hTl⟩ ⟨T', rfl, hT', hTr⟩
    exact ⟨T.and T', by simp, legible_and.mpr ⟨hT, hT'⟩, .and hTl hTr⟩
  | or l r ihl ihr =>
    rw [write_or]
    refine ihl.parted " or " [.keyword "or"] (fun _ => rfl) (by decide +kernel) ihr ?_
    rintro us vs ⟨T, rfl, hT, hTl⟩ ⟨T', rfl, hT', hTr⟩
    exact ⟨T.or T', by simp, legible_or.mpr ⟨hT, hT'⟩, .or hTl hTr⟩
  | parens c ih =>
    rw [write_parens]
    refine ih.parens ?_
    rintro us ⟨T, rfl, hlegible, hmatches⟩
    exact ⟨T.parens, tokens_parens, legible_parens.mpr hlegible, .parens hmatches⟩

/-- The text of a condition is read as its regrouping. -/
theorem addsTokens_regroup (hg : ∀ a, AddsTokens d m (g a) IsAtom) (c : Condition α) :
    AddsTokens d m (c.write (Symbol.pieces g))
      fun ts => ∃ T, Reads ts T ∧ T.Matches (WrittenFor d m g) c.regroup := by
  rw [← write_regroup]
  refine (addsTokens hg c.regroup).mono ?_
  rintro ts ⟨T, rfl, hlegible, hmatches⟩
  exact ⟨T, ⟨hmatches.grouped (grouped_regroup c), hlegible, rfl⟩, hmatches⟩

end Condition

end QueryTree
