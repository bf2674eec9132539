import QueryTree.Proofs.Sql.Operands

/-!
# Comparisons

A comparison of an operand with another, or with a list of others, is an atom of conditions, wherever
it stands and whatever becomes of its values.
-/
namespace QueryTree

open Token (Whole IsAtom)

/-- A comparison of an operand with another or with a list of others. -/
structure Comparison where
  left : Operand
  operator : Operator
  right : Operand ⊕ List Operand
  deriving DecidableEq

namespace Comparison

def rightNode : Operand ⊕ List Operand → AnyNode
  | .inl x => x.toNode
  | .inr xs => .any (.valueList (.ofList (xs.map Operand.toNode)))

def toNode (x : Comparison) : AnyNode :=
  Expression.binary x.left.toNode x.operator (rightNode x.right)

def morePieces (xs : List Operand) : List Piece := xs.flatMap fun x => .word ", " :: x.pieces

def listPieces : List Operand → List Piece
  | [] => []
  | x :: xs => x.pieces ++ morePieces xs

def rightPieces : Operand ⊕ List Operand → List Piece
  | .inl x => x.pieces
  | .inr xs => [.word "("] ++ (listPieces xs ++ [.word ")"])

def pieces (x : Comparison) : List Piece :=
  x.left.pieces ++ ([.word " ", .word x.operator.symbol, .word " "] ++ rightPieces x.right)

private theorem pieces_eachLed (xs : List Operand) (p : Place) :
    (Sql.eachLed ", " (Tree.ofList (xs.map Operand.toNode)).view).pieces p = morePieces xs := by
  induction xs with
  | nil => rfl
  | cons x xs ih =>
    calc (Sql.eachLed ", " (Tree.ofList ((x :: xs).map Operand.toNode)).view).pieces p
      _ = ([.word ", "] ++ x.toNode.pieces p) ++
          (Sql.eachLed ", " (Tree.ofList (xs.map Operand.toNode)).view).pieces p := by
        simp [Tree.ofList, Tree.view, Tree.pieces, Sql.eachLed, Sql.word]
      _ = morePieces (x :: xs) := by
        rw [ih, x.pieces_toNode, morePieces, morePieces, List.flatMap_cons]
        rfl

private theorem pieces_rightNode (y : Operand ⊕ List Operand) (p : Place) :
    (rightNode y).pieces p = rightPieces y := by
  match y with
  | .inl y => exact y.pieces_toNode p
  | .inr [] => rfl
  | .inr (y :: ys) =>
    calc (rightNode (.inr (y :: ys))).pieces p
      _ = [.word "("] ++ ((y.toNode.pieces p ++
          (Sql.eachLed ", " (Tree.ofList (ys.map Operand.toNode)).view).pieces p) ++
            [.word ")"]) := by
        simp [rightNode, Tree.ofList, Tree.view, Tree.pieces, Layout.sql, Form.toSql, layout,
          Sql.parens, Sql.commas, Sql.word]
      _ = rightPieces (.inr (y :: ys)) := by
        rw [pieces_eachLed, y.pieces_toNode, rightPieces, listPieces]

theorem pieces_toNode (x : Comparison) (p : Place) : x.toNode.pieces p = x.pieces := by
  calc x.toNode.pieces p
    _ = x.left.toNode.pieces p ++ ([.word " ", .word x.operator.symbol, .word " "] ++
        (rightNode x.right).pieces p) := by
      simp [toNode, Expression.binary, Tree.view, Tree.pieces, Layout.sql, Form.toSql, layout,
        Sql.word]
    _ = x.pieces := by rw [pieces_rightNode, Operand.pieces_toNode, pieces]

private theorem lexes_operator (o : Operator) :
    Lexes o.symbol (lex o.symbol) ∧ ∀ t ∈ lex o.symbol, t.Quiet := by
  cases o <;> decide +kernel

variable (d : Dialect) (m : ValueMode)

private theorem addsTokens_list {ps : List Piece} (hps : AddsTokens d m ps (∀ t ∈ ·, t.Quiet))
    (xs : List Operand) : AddsTokens d m (ps ++ morePieces xs) (∀ t ∈ ·, t.Quiet) := by
  induction xs generalizing ps with
  | nil => simpa [morePieces] using hps
  | cons x xs ih =>
    have hcomma : AddsTokens d m (ps ++ ([.word ", "] ++ x.pieces)) (∀ t ∈ ·, t.Quiet) :=
      hps.parted ", " [.sign ','] (fun _ => rfl) (by decide +kernel)
        ((x.addsTokens d m).mono fun _ h => h.1) fun us vs hus hvs =>
          List.forall_mem_append.mpr ⟨List.forall_mem_append.mpr
            ⟨hus, List.forall_mem_singleton.mpr (by decide)⟩, hvs⟩
    simpa [morePieces] using ih hcomma

private theorem addsTokens_right (y : Operand ⊕ List Operand) :
    AddsTokens d m (rightPieces y) Whole := by
  match y with
  | .inl y => exact (y.addsTokens d m).mono fun _ h => .of_quiet h.1
  | .inr ys =>
    have hlist : AddsTokens d m (listPieces ys) (∀ t ∈ ·, t.Quiet) := by
      cases ys with
      | nil => exact .nil (by simp)
      | cons y ys => exact addsTokens_list d m ((y.addsTokens d m).mono fun _ h => h.1) ys
    exact hlist.parens fun us hus => .parens (Whole.of_quiet hus).closed

/-- The text of a comparison is an atom. -/
theorem addsTokens (x : Comparison) : AddsTokens d m x.pieces IsAtom := by
  obtain ⟨hlexes, hquiet⟩ := lexes_operator x.operator
  refine (x.left.addsTokens d m).parted _ _ ?_ hlexes.spaced
    (addsTokens_right d m x.right) ?_
  · intro o
    simp [Output.addAll, Output.add, Output.write, String.append_assoc]
  · rintro us vs ⟨hus, t, rest, rfl, hopening, hnot⟩ hvs
    refine ⟨?_, t, rest ++ lex x.operator.symbol ++ vs, by simp, hopening, hnot⟩
    exact ((Whole.of_quiet hus).append (.of_quiet hquiet)).append hvs

end Comparison

end QueryTree
