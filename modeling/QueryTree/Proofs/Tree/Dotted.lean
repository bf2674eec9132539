import Mathlib.Data.List.DropRight
import QueryTree.Proofs.Sql.Fragments

/-!
# References with dots

A reference is read from one, two or three parts with dots between them: the last is a column or an
asterisk, the one before it a table and the first a schema. Blanks around the parts do not count. The
text of what is read has the same parts, each as the dialect writes names; where all names are written
as they are, reading and writing come back to the same text.
-/
namespace QueryTree

namespace Unicode

/-- A text is what is left of another without the blanks at its ends. -/
structure IsTrimmed (core cs : List Char) : Prop where
  around : ∃ left right, cs = left ++ core ++ right ∧ ∀ c ∈ left ++ right, isBlank c = true
  first : ∀ c ∈ core.head?, isBlank c = false
  last : ∀ c ∈ core.getLast?, isBlank c = false

theorem isTrimmed_trimBlanks (cs : List Char) : IsTrimmed (trimBlanks cs) cs := by
  have htrim : trimBlanks cs = (cs.dropWhile isBlank).rdropWhile isBlank := rfl
  have hright : cs.dropWhile isBlank =
      trimBlanks cs ++ (cs.dropWhile isBlank).rtakeWhile isBlank :=
    (List.rdropWhile_append_rtakeWhile ..).symm
  refine ⟨⟨cs.takeWhile isBlank, (cs.dropWhile isBlank).rtakeWhile isBlank, ?_, ?_⟩, ?_, ?_⟩
  · rw [List.append_assoc, ← hright, List.takeWhile_append_dropWhile]
  · intro c hc
    rcases List.mem_append.mp hc with hc | hc
    · exact List.mem_takeWhile_imp hc
    · exact List.mem_rtakeWhile_imp hc
  · intro c hc
    have hfirst : (cs.dropWhile isBlank).head? = some c := by
      rw [hright, List.head?_append, hc]
      rfl
    have hnot := List.head?_dropWhile_not isBlank cs
    rw [hfirst] at hnot
    simpa using hnot
  · intro c hc
    rw [htrim] at hc
    have hne : (cs.dropWhile isBlank).rdropWhile isBlank ≠ [] := by
      rintro hnil
      rw [hnil] at hc
      contradiction
    have hnot := List.rdropWhile_last_not isBlank _ hne
    rw [List.getLast?_eq_some_getLast hne] at hc
    obtain rfl := Option.some.inj hc
    simpa using hnot

theorem trimBlanks_eq_self {cs : List Char} (h : ∀ c ∈ cs, isBlank c = false) :
    trimBlanks cs = cs := by
  obtain ⟨left, right, hcs, hblank⟩ := (isTrimmed_trimBlanks cs).around
  have hnothing : left ++ right = [] := by
    refine List.eq_nil_iff_forall_not_mem.mpr fun c hc => ?_
    have hmem : c ∈ cs := by
      rw [hcs]
      rcases List.mem_append.mp hc with hc | hc
      · exact List.mem_append_left _ (List.mem_append_left _ hc)
      · exact List.mem_append_right _ hc
    exact Bool.false_ne_true ((h c hmem).symm.trans (hblank c hc))
  obtain ⟨rfl, rfl⟩ := List.append_eq_nil_iff.mp hnothing
  simpa using hcs.symm

end Unicode

namespace Tree

open Unicode (trimBlanks isBlank)

section

variable {cs : List Char} (h : '.' ∉ cs)

include h

theorem ne_dot {c : Char} (hc : c ∈ cs) : (c != '.') = true :=
  bne_iff_ne.mpr fun hdot => h (hdot ▸ hc)

theorem splitFirst?_append (rest : List Char) :
    splitFirst? (cs ++ '.' :: rest) = Option.some (cs, rest) := by
  have hall : ∀ c ∈ cs, (c != '.') = true := fun c => ne_dot h
  rw [splitFirst?, List.dropWhile_append_of_pos hall, List.takeWhile_append_of_pos hall]
  simp

theorem splitFirst?_eq_none : splitFirst? cs = Option.none := by
  have hnothing : cs.dropWhile (· != '.') = [] := List.dropWhile_eq_nil_iff.mpr fun c => ne_dot h
  rw [splitFirst?, hnothing]

theorem splitLast?_append (before : List Char) :
    splitLast? (before ++ '.' :: cs) = Option.some (before, cs) := by
  have hreverse : '.' ∉ cs.reverse := fun hdot => h (List.mem_reverse.mp hdot)
  have hsplit := splitFirst?_append hreverse before.reverse
  simp [splitLast?, hsplit]

theorem splitLast?_eq_none : splitLast? cs = Option.none := by
  have hreverse : '.' ∉ cs.reverse := fun hdot => h (List.mem_reverse.mp hdot)
  rw [splitLast?, splitFirst?_eq_none hreverse, Option.map_none]

end

end Tree

inductive DottedName
  | column (last : String)
  | inTable (table last : String)
  | inSchema (schema table last : String)
  deriving DecidableEq

namespace DottedName

open QueryTree.Tree (tableNamed qualified columnNamed)

def owners : DottedName → List String
  | column _ => []
  | inTable table _ => [table]
  | inSchema schema table _ => [schema, table]

def last : DottedName → String
  | column last | inTable _ last | inSchema _ _ last => last

def all (x : DottedName) : List String := x.owners ++ [x.last]

def text (x : DottedName) : String := ".".intercalate x.all

def trimmed (s : String) : String := Tree.part s.toList

/-- What the last part stands for: all columns if it is an asterisk, and otherwise a column. -/
def lastNode (s : String) : AnyNode :=
  if trimmed s = "*" then .any .selectAll else .any (columnNamed (trimmed s))

/-- What the parts stand for. An asterisk without a table is no reference. -/
def node : DottedName → AnyNode
  | column s =>
    if trimmed s = "*" then .any .selectAll
    else .any (.reference .none (.any (columnNamed (trimmed s))))
  | inTable t s => .any (.reference (.some (tableNamed (trimmed t))) (lastNode s))
  | inSchema r t s =>
    .any (.reference (.some (.table (qualified (trimmed r) (trimmed t)))) (lastNode s))

def lastText (d : Dialect) (s : String) : String :=
  if trimmed s = "*" then "*" else d.identifier (trimmed s)

/-- The parts as a dialect writes them, with dots between them. -/
def textIn (d : Dialect) (x : DottedName) : String :=
  ".".intercalate (x.owners.map (fun s => d.identifier (trimmed s)) ++ [lastText d x.last])

theorem parseReference_text {x : DottedName} (h : ∀ s ∈ x.all, '.' ∉ s.toList) :
    Tree.parseReference x.text = x.node := by
  cases x with
  | column s =>
    have hs : '.' ∉ s.toList := h s (.head _)
    show Tree.parseReference s = _
    rw [Tree.parseReference, Tree.splitLast?_eq_none hs, node]
    by_cases hall : trimmed s = "*"
    · have hcolumn : Tree.columnOrAll s.toList = .any .selectAll := if_pos hall
      rw [if_pos hall]
      dsimp only
      rw [hcolumn]
      rfl
    · have hcolumn : Tree.columnOrAll s.toList = .any (columnNamed (trimmed s)) := if_neg hall
      rw [if_neg hall]
      dsimp only
      rw [hcolumn]
  | inTable t s =>
    have ht : '.' ∉ t.toList := h t (.head _)
    have hs : '.' ∉ s.toList := h s (.tail _ (.head _))
    have htext : (inTable t s).text.toList = t.toList ++ '.' :: s.toList := by
      simp [text, all, owners, last]
    rw [Tree.parseReference, htext, Tree.splitLast?_append hs]
    dsimp only
    rw [Tree.tableOfChars, Tree.splitFirst?_eq_none ht]
    rfl
  | inSchema r t s =>
    have hr : '.' ∉ r.toList := h r (.head _)
    have hs : '.' ∉ s.toList := h s (.tail _ (.tail _ (.head _)))
    have htext : (inSchema r t s).text.toList = (r.toList ++ '.' :: t.toList) ++ '.' :: s.toList := by
      simp [text, all, owners, last]
    rw [Tree.parseReference, htext, Tree.splitLast?_append hs]
    dsimp only
    rw [Tree.tableOfChars, Tree.splitFirst?_append hr]
    rfl

def lastPiece (s : String) : Piece := if trimmed s = "*" then .word "*" else .name (trimmed s)

theorem pieces_lastNode (s : String) (p : Place) : (lastNode s).pieces p = [lastPiece s] := by
  rw [lastNode, lastPiece]
  split <;> rfl

private theorem pieces_node (x : DottedName) (p : Place) : x.node.pieces p =
    x.owners.flatMap (fun s => [.name (trimmed s), .word "."]) ++ [lastPiece x.last] := by
  -- The last part is kept apart, so that nothing has to look at which of the two it is.
  have howned (t : String) (c : AnyNode) :
      (Tree.any (.reference (.some (tableNamed t)) c)).pieces p =
        [.name t, .word "."] ++ c.pieces p := rfl
  have hqualified (r t : String) (c : AnyNode) :
      (Tree.any (.reference (.some (.table (qualified r t))) c)).pieces p =
        [.name r, .word ".", .name t, .word "."] ++ c.pieces p := rfl
  cases x with
  | column s =>
    rw [node, last, lastPiece]
    split <;> rfl
  | inTable t s =>
    rw [node, howned, pieces_lastNode]
    rfl
  | inSchema r t s =>
    rw [node, hqualified, pieces_lastNode]
    rfl

private theorem add_lastPiece (d : Dialect) (m : ValueMode) (o : Output) (s : String) :
    o.add d m (lastPiece s) = o.write (lastText d s) := by
  rw [lastPiece, lastText]
  split <;> rfl

theorem addNode_node (d : Dialect) (m : ValueMode) (p : Place) (o : Output) (x : DottedName) :
    o.addNode d m p x.node = o.write (x.textIn d) := by
  rw [Output.addNode, pieces_node, Output.addAll_append]
  show Output.add d m _ (lastPiece x.last) = _
  rw [add_lastPiece]
  cases x <;>
    simp [owners, last, textIn, Output.addAll, Output.add, Output.write, String.append_assoc]

theorem fragment_node (d : Dialect) (x : DottedName) : x.node.fragment d = ⟨x.textIn d, #[]⟩ := by
  rw [Tree.fragment_eq, addNode_node]
  exact congrArg (Output.mk · #[]) String.empty_append

/-- In PostgreSQL plain names without blanks are written as they are. -/
theorem textIn_plain {x : DottedName}
    (hblank : ∀ s ∈ x.all, ∀ c ∈ s.toList, Unicode.isBlank c = false)
    (howners : ∀ s ∈ x.owners, Identifier.isPlain s = true)
    (hlast : x.last = "*" ∨ Identifier.isPlain x.last = true) : x.textIn .postgres = x.text := by
  have htrimmed : ∀ s ∈ x.all, trimmed s = s := fun s hs => by
    rw [trimmed, Tree.part, Unicode.trimBlanks_eq_self (hblank s hs), String.ofList_toList]
  have hbefore : x.owners.map (fun s => Dialect.postgres.identifier (trimmed s)) = x.owners := by
    refine (List.map_congr_left fun s hs => ?_).trans (List.map_id _)
    rw [htrimmed s (List.mem_append_left _ hs)]
    exact if_pos (howners s hs)
  have hend : lastText .postgres x.last = x.last := by
    rw [lastText, htrimmed _ (List.mem_append_right _ (List.mem_singleton_self _))]
    split
    next h => exact h.symm
    next h => exact if_pos (hlast.resolve_left h)
  rw [textIn, hbefore, hend]
  rfl

/-- The parts of a reference, none of which has a dot in it, are read as what they stand for without
the blanks around them. The text of that in a dialect is the parts again, written as names, with dots
between them. In PostgreSQL it is the text that was read if no part has a blank and all names are
plain. -/
theorem references_read_back {x : DottedName} (h : ∀ s ∈ x.all, '.' ∉ s.toList) :
    (Tree.parseReference x.text = x.node ∧
      ∀ s, Unicode.IsTrimmed (trimmed s).toList s.toList) ∧
    (∀ d, (Tree.parseReference x.text).fragment d = ⟨x.textIn d, #[]⟩) ∧
    ((∀ s ∈ x.all, ∀ c ∈ s.toList, Unicode.isBlank c = false) →
      (∀ s ∈ x.owners, Identifier.isPlain s = true) →
      (x.last = "*" ∨ Identifier.isPlain x.last = true) →
        (Tree.parseReference x.text).fragment .postgres = ⟨x.text, #[]⟩) := by
  rw [parseReference_text h]
  refine ⟨⟨rfl, fun s => ?_⟩, fun d => fragment_node d x, fun hblank howners hlast => ?_⟩
  · rw [trimmed, Tree.part, String.toList_ofList]
    exact Unicode.isTrimmed_trimBlanks s.toList
  · rw [fragment_node, textIn_plain hblank howners hlast]

/-- All columns of a table, with blanks around each part and a name that has to be quoted. -/
def padded : DottedName := .inSchema " app" "Person\t" " * "

def plain : DottedName := .inTable "person" "größe"

theorem references_read_back_padded :
    ((∀ s ∈ padded.all, '.' ∉ s.toList) ∧
      (∀ s ∈ plain.all, '.' ∉ s.toList) ∧
      (∀ s ∈ plain.all, ∀ c ∈ s.toList, Unicode.isBlank c = false) ∧
      (∀ s ∈ plain.owners, Identifier.isPlain s = true) ∧ Identifier.isPlain plain.last = true) ∧
    Tree.parseReference padded.text =
      .any (.reference (.some (.table (qualified "app" "Person"))) (.any .selectAll)) ∧
    (Tree.parseReference padded.text).fragment .postgres = ⟨"app.\"Person\".*", #[]⟩ ∧
    (Tree.parseReference "person.größe").fragment .postgres = ⟨"person.größe", #[]⟩ := by
  have hpadded : ∀ s ∈ padded.all, '.' ∉ s.toList := by decide +kernel
  have hplain : ∀ s ∈ plain.all, '.' ∉ s.toList := by decide +kernel
  have hblank : ∀ s ∈ plain.all, ∀ c ∈ s.toList, Unicode.isBlank c = false := by
    have hnone : ∀ s ∈ plain.all, s.toList.any Unicode.isBlank = false := by decide +kernel
    exact fun s hs c hc => Bool.eq_false_iff.mpr (List.any_eq_false.mp (hnone s hs) c hc)
  have howners : ∀ s ∈ plain.owners, Identifier.isPlain s = true := by decide +kernel
  have hlast : Identifier.isPlain plain.last = true := by decide +kernel
  have hnode : padded.node =
      .any (.reference (.some (.table (qualified "app" "Person"))) (.any .selectAll)) := by
    decide +kernel
  have htext : padded.textIn .postgres = "app.\"Person\".*" := by decide +kernel
  obtain ⟨⟨hread, -⟩, hwritten, -⟩ := references_read_back hpadded
  obtain ⟨-, -, hback⟩ := references_read_back hplain
  exact ⟨⟨hpadded, hplain, hblank, howners, hlast⟩, hread.trans hnode,
    (hwritten .postgres).trans (congrArg (Output.mk · #[]) htext),
    hback hblank howners (.inr hlast)⟩

end DottedName

end QueryTree
