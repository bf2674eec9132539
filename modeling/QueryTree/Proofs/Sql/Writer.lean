import QueryTree.Proofs.Sql.Replacement
import QueryTree.Proofs.Sql.Template

/-!
# Writers

SQL can also be read as a program for a writer, which has the output so far, the mode of values and
the place in which it is. A statement goes to another place for what it holds, and so do the positions
that delimit a statement, and raw text. Each of them comes back to the place that it left. So whatever
node is written, the writer is in its place and mode again afterwards, and nothing that was written
before is touched. What is added depends on the output so far only by the number of its parameters.
-/
namespace QueryTree

structure Writer where
  output : Output
  mode : ValueMode
  place : Place
  deriving DecidableEq

namespace Writer

def start (s : Statement) : Writer := ⟨.empty, s.valueMode, .bare⟩

def put (d : Dialect) (x : Piece) : StateM Writer Unit :=
  modify fun w => { w with output := w.output.add d w.mode x }

def enter (p : Place) : StateM Writer Place :=
  modifyGet fun w => (w.place, { w with place := p })

def leave (p : Place) : StateM Writer Unit := modify fun w => { w with place := p }

def after (d : Dialect) (ps : List Piece) (w : Writer) : Writer :=
  { w with output := w.output.addAll d w.mode ps }

theorem after_append (d : Dialect) (ps qs : List Piece) (w : Writer) :
    w.after d (ps ++ qs) = (w.after d ps).after d qs :=
  congrArg (Writer.mk · w.mode w.place) (w.output.addAll_append d w.mode ps qs)

end Writer

namespace Sql

open Writer

variable (d : Dialect)

/-- Writes SQL from left to right. Only in the nested place is a statement put in parentheses. -/
def write : Sql → StateM Writer Unit
  | empty => pure ()
  | piece x => put d x
  | append a b => do
    a.write
    b.write
  | placed p a => do
    let before ← enter p
    a.write
    leave before
  | statement body => do
    let before ← enter .nested
    if before = .nested then put d (.word "(")
    body.write
    if before = .nested then put d (.word ")")
    leave before

/-- A writer adds the pieces for the place in which it is, and comes back to that place. -/
theorem write_apply (a : Sql) (w : Writer) : a.write d w = ((), w.after d (a.pieces w.place)) := by
  induction a generalizing w with
  | empty => rfl
  | piece x => rfl
  | append a b iha ihb =>
    have hpieces : (append a b).pieces w.place = a.pieces w.place ++ b.pieces w.place :=
      pieces_append a b w.place
    rw [hpieces, after_append]
    show b.write d (a.write d w).2 = _
    rw [iha, ihb]
    rfl
  | placed p a ih =>
    show leave w.place (a.write d { w with place := p }).2 = _
    rw [ih]
    rfl
  | statement body ih =>
    obtain ⟨o, m, p⟩ := w
    cases p with
    | bare =>
      show leave .bare (body.write d ⟨o, m, .nested⟩).2 = _
      rw [ih]
      rfl
    | nested =>
      show leave .nested (put d (.word ")") (body.write d ⟨o.write "(", m, .nested⟩).2).2 = _
      rw [ih, pieces_statement_nested, ← List.cons_append, after_append]
      rfl

end Sql

/-- What pieces add to an output that has `n` parameters: their text with something in the place of each
value, and the values that are bound. -/
def Output.share (d : Dialect) (n : Nat) : ValueMode → List Piece → Output
  | .bind, ps =>
    let values := ps.filterMap Piece.value?
    ⟨(Template.ofPieces d ps).fill (d.placeholders n values.length), values.toArray⟩
  | .inline, ps => ⟨(Template.ofPieces d ps).fill ((ps.filterMap Piece.value?).map (literal d)), #[]⟩

theorem Output.addAll_eq_share (d : Dialect) (m : ValueMode) (o : Output) (ps : List Piece) :
    o.addAll d m ps = ⟨o.sql ++ (share d o.parameters.size m ps).sql,
      o.parameters ++ (share d o.parameters.size m ps).parameters⟩ := by
  cases m with
  | bind => exact o.addAll_bind d ps
  | inline => rw [o.addAll_inline d ps]; exact congrArg (Output.mk _) Array.append_empty.symm

namespace Tree

def write (d : Dialect) (t : AnyNode) : StateM Writer Unit := t.sql.write d

/-- What a node adds to an output that has `n` parameters. -/
def share (d : Dialect) (m : ValueMode) (p : Place) (n : Nat) (t : AnyNode) : Output :=
  .share d n m (t.pieces p)

/-- Whatever a writer has written and wherever it is, after a node it is in the same place and mode,
and has the same output with the share of the node behind it. The share is told by the node, the
dialect, the mode, the place and the number of parameters. What is written in this way is what is
compiled: the output for a node, and the SQL of a statement with its parameters. -/
theorem write_adds_share (d : Dialect) :
    (∀ (t : AnyNode) (w : Writer),
      let w' := (t.write d w).2
      let added := t.share d w.mode w.place w.output.parameters.size
      (w'.place = w.place ∧ w'.mode = w.mode) ∧
      (w'.output.sql = w.output.sql ++ added.sql ∧
        w'.output.parameters = w.output.parameters ++ added.parameters) ∧
      w'.output = w.output.addNode d w.mode w.place t) ∧
    ∀ s : Statement, (s.toNode.write d (Writer.start s)).2.output = s.compile d := by
  have hwrite (t : AnyNode) (w : Writer) : (t.write d w).2 = w.after d (t.pieces w.place) :=
    congrArg Prod.snd (t.sql.write_apply d w)
  refine ⟨fun t w => ?_, fun s => ?_⟩
  · have hshare := Output.addAll_eq_share d w.mode w.output (t.pieces w.place)
    dsimp only
    rw [hwrite]
    exact ⟨⟨rfl, rfl⟩, ⟨congrArg Output.sql hshare, congrArg Output.parameters hshare⟩, rfl⟩
  · rw [hwrite]
    rfl

end Tree

end QueryTree
