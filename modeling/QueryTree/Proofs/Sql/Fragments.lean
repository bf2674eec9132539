import QueryTree.Script

/-!
# Raw text as it is written

Raw text that surrounds its parameters is written fragment by fragment: the first fragment, and then
for each parameter the parameter, in the nested place, with the fragment behind it. Nothing of either
is left out. A node that is shown by itself is the parameter of raw text that is empty.
-/
namespace QueryTree

namespace Output

variable (d : Dialect) (m : ValueMode)

theorem write_empty (o : Output) : o.write "" = o :=
  congrArg (Output.mk · o.parameters) String.append_empty

/-- Adds a parameter of raw text and the fragment behind it. -/
def addTurn (o : Output) (turn : AnyNode × String) : Output :=
  (o.addNode d m .nested turn.1).write turn.2

theorem addAll_interleave (turns : List (AnyNode × String)) (first : String) (o : Output) :
    o.addAll d m ((interleave (first :: turns.map Prod.snd)
        (Tree.ofList (turns.map Prod.fst)).view).pieces .nested) =
      turns.foldl (addTurn d m) (o.write first) := by
  induction turns generalizing first o with
  | nil => rfl
  | cons turn turns ih =>
    obtain ⟨t, s⟩ := turn
    show o.addAll d m ((Sql.verbatim first ++ t.view ++ interleave (s :: turns.map Prod.snd)
      (Tree.ofList (turns.map Prod.fst)).view).pieces .nested) = _
    rw [Sql.pieces_append, Sql.pieces_append, addAll_append, addAll_append, ih]
    rfl

/-- Raw text that surrounds its parameters is a fragment and turns of a parameter and a fragment. -/
theorem exists_turns {fragments : List String} {parameters : Slot (.many .any)}
    (h : fragments.length = parameters.toList.length + 1) :
    ∃ (first : String) (turns : List (AnyNode × String)),
      fragments = first :: turns.map Prod.snd ∧ parameters = .ofList (turns.map Prod.fst) := by
  cases fragments with
  | nil => exact nomatch h
  | cons first rest =>
    have hlength : parameters.toList.length = rest.length := (Nat.succ.inj h).symm
    refine ⟨first, parameters.toList.zip rest, ?_, ?_⟩
    · rw [List.map_snd_zip (Nat.le_of_eq hlength.symm)]
    · rw [List.map_fst_zip (Nat.le_of_eq hlength), Tree.ofList_toList]

/-- Raw text is written from its first fragment to its last, with the parameters in between. -/
theorem addNode_raw (turns : List (AnyNode × String)) (first : String) (o : Output) (p : Place) :
    o.addNode d m p (.any (.raw (first :: turns.map Prod.snd) (.ofList (turns.map Prod.fst)))) =
      turns.foldl (addTurn d m) (o.write first) :=
  addAll_interleave d m turns first o

end Output

/-- A node by itself has the text that it has in the nested place. -/
theorem Tree.fragment_eq (d : Dialect) (t : AnyNode) :
    t.fragment d = Output.empty.addNode d .bind .nested t := by
  refine (Output.addNode_raw d .bind [(t, "")] "" .empty .bare).trans ?_
  rw [List.foldl_cons, List.foldl_nil, Output.addTurn, Output.write_empty, Output.write_empty]

end QueryTree
