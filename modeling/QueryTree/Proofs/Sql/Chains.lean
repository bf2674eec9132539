import QueryTree.Proofs.Sql.Comparisons

/-!
# Chains of conditions

Expressions are built of comparisons by chains of `and` and `or`, by `not` and by parentheses. No
chain is written with an operand that binds less tightly than the chain: a chain of two or more
terms has parentheses around it, a chain of one term is the term, and a chain of none is a word. So
what is built is a factor, however it is nested, and its text is read as what it means.
-/
namespace QueryTree

open Condition (Delimited Matches WrittenFor)
open Token (IsAtom)

/-- What is built of atoms by chains, negation and parentheses. -/
inductive Formula (α : Type)
  | atom (a : α)
  | chain (k : Connective) (es : List (Formula α))
  | not (e : Formula α)
  | parens (e : Formula α)

namespace Connective

def build : Connective → List AnyNode → AnyNode
  | and => Expression.all
  | or => Expression.any

def constant : Bool → AnyNode
  | true => Expression.raw "true"
  | false => Expression.raw "false"

end Connective

namespace Formula

variable {α : Type}

@[elab_as_elim, induction_eliminator]
theorem ind {motive : Formula α → Prop} (atom : ∀ a, motive (.atom a))
    (chain : ∀ k es, (∀ e ∈ es, motive e) → motive (.chain k es))
    (not : ∀ e, motive e → motive (.not e)) (parens : ∀ e, motive e → motive (.parens e)) :
    ∀ e, motive e
  | .atom a => atom a
  | .chain k es => chain k es fun e _ => ind atom chain not parens e
  | .not e => not e (ind atom chain not parens e)
  | .parens e => parens e (ind atom chain not parens e)

/-- The node that is built, given the nodes of the atoms. -/
def toNode (f : α → AnyNode) : Formula α → AnyNode
  | atom a => f a
  | chain k es => k.build (es.map (toNode f))
  | not e => Expression.not (e.toNode f)
  | parens e => Expression.parens (e.toNode f)

/-- What is meant, given the truth of the atoms: a conjunction is true if there is nothing in it,
and a disjunction is false. -/
def eval (v : α → Bool) : Formula α → Bool
  | atom a => v a
  | chain k es => k.holds (es.map (eval v))
  | not e => !e.eval v
  | parens e => e.eval v

/-- The atoms in their order, and the truth of every chain without terms. -/
def leaves : Formula α → List (α ⊕ Bool)
  | atom a => [.inl a]
  | chain k es => if es.isEmpty then [.inr (k.holds [])] else es.flatMap leaves
  | not e => e.leaves
  | parens e => e.leaves

end Formula

namespace Connective

variable {α : Type} (k : Connective)

/-- A chain with parentheses around it if it has two or more terms. -/
def enclose : List (Condition (α ⊕ Bool)) → Condition (α ⊕ Bool)
  | [] => .atom (.inr (k.holds []))
  | [c] => c
  | c :: cs => .parens (k.chain c cs)

variable {k}

private theorem toNode_chain (f : α → AnyNode) (c : Condition α) (cs : List (Condition α)) :
    (k.chain c cs).toNode f = (cs.map (Condition.toNode f)).foldl
      (fun l r => (k.join (.atom l) (.atom r)).toNode id) (c.toNode f) := by
  induction cs generalizing c with
  | nil => rfl
  | cons d ds ih =>
    have hjoin : (k.join c d).toNode f =
        (k.join (.atom (c.toNode f)) (.atom (d.toNode f))).toNode id := by
      cases k <;> rfl
    have hstep : k.chain c (d :: ds) = k.chain (k.join c d) ds := rfl
    rw [hstep, ih, hjoin]
    rfl

private theorem toNode_enclose (f : α → AnyNode) (cs : List (Condition (α ⊕ Bool))) :
    (k.enclose cs).toNode (Sum.elim f constant) =
      k.build (cs.map (Condition.toNode (Sum.elim f constant))) := by
  match cs with
  | [] => cases k <;> rfl
  | [c] => cases k <;> rfl
  | c :: d :: ds =>
    have hparens : (k.enclose (c :: d :: ds)).toNode (Sum.elim f constant) =
        Expression.parens ((k.chain c (d :: ds)).toNode (Sum.elim f constant)) := rfl
    rw [hparens, toNode_chain]
    cases k <;> rfl

private theorem delimited_enclose {cs : List (Condition (α ⊕ Bool))}
    (h : ∀ c ∈ cs, Delimited .factor c) : Delimited .factor (k.enclose cs) := by
  match cs, h with
  | [], _ => exact .atom _
  | [c], h => exact h c (.head _)
  | c :: d :: ds, h =>
    have hlevel {c : Condition (α ⊕ Bool)} (hc : Delimited .factor c) : Delimited k.level c := by
      cases k
      · exact .factor hc
      · exact .conjunction (.factor hc)
    have hchain : Delimited k.level (k.chain c (d :: ds)) :=
      delimited_chain (hlevel (h c (.head _))) fun e he => hlevel (h e (.tail _ he))
    refine .parens ?_
    cases k
    · exact .conjunction hchain
    · exact hchain

private theorem atoms_enclose (cs : List (Condition (α ⊕ Bool))) :
    (k.enclose cs).atoms =
      if cs.isEmpty then [.inr (k.holds [])] else cs.flatMap Condition.atoms := by
  match cs with
  | [] => exact Condition.atoms_atom _
  | [c] => simp [enclose]
  | c :: d :: ds => exact (Condition.atoms_parens _).trans (atoms_chain c (d :: ds))

private theorem eval_enclose (v : α → Bool) (cs : List (Condition (α ⊕ Bool))) :
    (k.enclose cs).eval (Sum.elim v id) = k.holds (cs.map (Condition.eval (Sum.elim v id))) := by
  match cs with
  | [] => rfl
  | [c] => exact (holds_singleton _).symm
  | c :: d :: ds => exact eval_chain (Sum.elim v id) c (d :: ds)

end Connective

namespace Formula

variable {α : Type}

def condition : Formula α → Condition (α ⊕ Bool)
  | atom a => .atom (.inl a)
  | chain k es => k.enclose (es.map condition)
  | not e => .not e.condition
  | parens e => .parens e.condition

theorem toNode_condition (f : α → AnyNode) (e : Formula α) :
    e.condition.toNode (Sum.elim f Connective.constant) = e.toNode f := by
  induction e with
  | atom a => rw [condition, toNode, Condition.toNode, Sum.elim_inl]
  | chain k es ih =>
    rw [condition, Connective.toNode_enclose, List.map_map, toNode]
    exact congrArg k.build (List.map_congr_left ih)
  | not e ih => rw [condition, toNode, Condition.toNode, ih]
  | parens e ih => rw [condition, toNode, Condition.toNode, ih]

theorem delimited_condition (e : Formula α) : Delimited .factor e.condition := by
  induction e with
  | atom a =>
    rw [condition]
    exact .atom _
  | chain k es ih =>
    rw [condition]
    exact Connective.delimited_enclose (List.forall_mem_map.mpr ih)
  | not e ih =>
    rw [condition]
    exact .not ih
  | parens e ih =>
    rw [condition]
    exact .parens (.conjunction (.factor ih))

theorem eval_condition (v : α → Bool) (e : Formula α) :
    e.condition.eval (Sum.elim v id) = e.eval v := by
  induction e with
  | atom a => rw [condition, eval, Condition.eval, Sum.elim_inl]
  | chain k es ih =>
    rw [condition, Connective.eval_enclose, List.map_map, eval]
    exact congrArg k.holds (List.map_congr_left ih)
  | not e ih => rw [condition, eval, Condition.eval, ih]
  | parens e ih => rw [condition, eval, Condition.eval, ih]

theorem atoms_condition (e : Formula α) : e.condition.atoms = e.leaves := by
  induction e with
  | atom a => rw [condition, leaves, Condition.atoms_atom]
  | chain k es ih =>
    rw [condition, Connective.atoms_enclose, leaves, List.isEmpty_map, List.flatMap_map,
      List.flatMap_def, List.flatMap_def, List.map_congr_left ih]
  | not e ih => rw [condition, leaves, Condition.atoms_not, ih]
  | parens e ih => rw [condition, leaves, Condition.atoms_parens, ih]

/-- The node of a comparison, or of a chain without terms. -/
def leafNode : Comparison ⊕ Bool → AnyNode := Sum.elim Comparison.toNode Connective.constant

/-- Tokens of the text of a leaf, wherever it is written. -/
def WrittenAs (d : Dialect) (m : ValueMode) (ts : List Token) (x : Comparison ⊕ Bool) : Prop :=
  ∃ (o : Output) (p : Place) (s : String),
    (o.addNode d m p (leafNode x)).sql = o.sql ++ s ∧ Lexes s ts

namespace Leaf

def pieces : Comparison ⊕ Bool → List Piece
  | .inl x => x.pieces
  | .inr b => [.verbatim (toString b)]

theorem pieces_leafNode (x : Comparison ⊕ Bool) (p : Place) : (leafNode x).pieces p = pieces x := by
  match x with
  | .inl x => exact x.pieces_toNode p
  | .inr true => rfl
  | .inr false => rfl

theorem addsTokens (d : Dialect) (m : ValueMode) (x : Comparison ⊕ Bool) :
    AddsTokens d m (pieces x) IsAtom := by
  match x with
  | .inl x => exact x.addsTokens d m
  | .inr b =>
    have hbare : Value.Bare (toString b).toList := by cases b <;> decide
    obtain ⟨ts, hts, hquiet, hstarts⟩ := Lexes.bare hbare
    rw [String.ofList_toList] at hts
    exact fun o => ⟨toString b, ts, rfl, hts, .of_quiet hquiet, hstarts⟩

end Leaf

theorem writtenAs {d : Dialect} {m : ValueMode} {ts : List Token} {x : Comparison ⊕ Bool}
    (h : WrittenFor d m Leaf.pieces ts x) : WrittenAs d m ts x := by
  obtain ⟨o, s, hsql, hlexes⟩ := h
  rw [← Leaf.pieces_leafNode x .bare] at hsql
  exact ⟨o, .bare, s, hsql, hlexes⟩

theorem pieces_toNode (e : Formula Comparison) (p : Place) :
    (e.toNode Comparison.toNode).pieces p = e.condition.write (Symbol.pieces Leaf.pieces) := by
  rw [← toNode_condition]
  exact Condition.pieces_toNode Leaf.pieces_leafNode e.condition p

/-- However an expression is built of comparisons, its text is read by precedence in one way only:
as a factor over its comparisons in their order, which under every assignment of truth to the
comparisons means what the expression does. -/
theorem built_means (e : Formula Comparison) (d : Dialect) (m : ValueMode) (p : Place) (o : Output) :
    ∃ text ts T G,
      (o.addNode d m p (e.toNode Comparison.toNode)).sql = o.sql ++ text ∧
      Lexes text ts ∧ Reads ts T ∧ (∀ T', Reads ts T' → T' = T) ∧
      T.Grouped .factor ∧ T.Matches (WrittenAs d m) G ∧ G.atoms = e.leaves ∧
      ∀ v, G.eval (Sum.elim v id) = e.eval v := by
  obtain ⟨text, ts, hsql, hlexes, T, hreads, hmatches⟩ :=
    e.condition.addsTokens_regroup (Leaf.addsTokens d m) o
  obtain ⟨hgrouped, heval⟩ := e.delimited_condition.regroup
  rw [← pieces_toNode e p] at hsql
  refine ⟨text, ts, T, e.condition.regroup, hsql, hlexes, hreads, fun T' hT' => hT'.unique hreads,
    hmatches.grouped hgrouped, hmatches.mono fun _ _ => writtenAs, ?_, fun v => ?_⟩
  · rw [Condition.atoms, Condition.write_regroup]
    exact e.atoms_condition
  · rw [heval, eval_condition]

end Formula

end QueryTree
