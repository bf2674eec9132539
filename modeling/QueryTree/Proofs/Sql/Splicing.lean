import QueryTree.Proofs.Tree.Values
import QueryTree.Pipeline

/-!
# Values spliced into raw text

Raw text made from a text and values has a value for each question mark. When it is compiled, the
text comes back with a placeholder in the place of each question mark, numbered from one, and the
values are bound in their order.

The text is split at its question marks and put together again piece by piece, so the induction is on
its characters. What it carries is the output so far: its parameters give the number of the next one.
-/
namespace QueryTree

namespace Raw

/-- A text with its question marks replaced, each by what there is for its number. -/
def replaceMarks (f : Nat → String) : Nat → List Char → List Char
  | _, [] => []
  | n, c :: cs =>
    if c = '?' then (f n).toList ++ replaceMarks f (n + 1) cs else c :: replaceMarks f n cs

@[simp] theorem replaceMarks_self (n : Nat) (cs : List Char) :
    replaceMarks (fun _ => "?") n cs = cs := by
  induction cs generalizing n with
  | nil => rfl
  | cons c cs ih =>
    by_cases hc : c = '?'
    · simp [replaceMarks, hc, ih]
    · simp [replaceMarks, hc, ih]

theorem splitMarks_mark (cs : List Char) : splitMarks ('?' :: cs) = [] :: splitMarks cs := rfl

theorem splitMarks_cons {c : Char} (hc : c ≠ '?') {cs p : List Char} {ps : List (List Char)}
    (h : splitMarks cs = p :: ps) : splitMarks (c :: cs) = (c :: p) :: ps := by
  simp [splitMarks, h]

theorem exists_splitMarks (cs : List Char) : ∃ p ps, splitMarks cs = p :: ps := by
  induction cs with
  | nil => exact ⟨[], [], rfl⟩
  | cons c cs ih =>
    obtain ⟨p, ps, h⟩ := ih
    by_cases hc : c = '?'
    · exact ⟨[], splitMarks cs, hc ▸ splitMarks_mark cs⟩
    · exact ⟨c :: p, ps, splitMarks_cons hc h⟩

theorem length_splitMarks (cs : List Char) :
    (splitMarks cs).length = cs.count '?' + 1 := by
  induction cs with
  | nil => rfl
  | cons c cs ih =>
    by_cases hc : c = '?'
    · subst hc
      rw [splitMarks_mark, List.length_cons, ih, List.count_cons_self]
    · obtain ⟨p, ps, hcs⟩ := exists_splitMarks cs
      rw [splitMarks_cons hc hcs, List.count_cons_of_ne hc, ← ih, hcs]
      rfl

/-- The pieces of a text split at its question marks, with values between its parts. -/
def splice (cs : List Char) (vs : List Value) : List Piece :=
  (interleave ((splitMarks cs).map String.ofList) (vs.map fun v => .piece (.value v))).pieces .nested

theorem splice_nil : splice [] [] = [.verbatim ""] := rfl

theorem splice_mark (cs : List Char) (v : Value) (vs : List Value) :
    splice ('?' :: cs) (v :: vs) = .verbatim "" :: .value v :: splice cs vs := rfl

/-- Fragments begin with the first of them, and what follows does not depend on it. -/
private theorem pieces_interleave (ss : List String) (as : List Sql) (p : Place) :
    ∃ ps, ∀ s, (interleave (s :: ss) as).pieces p = .verbatim s :: ps := by
  cases as with
  | nil => exact ⟨(interleave ss []).pieces p, fun s => Sql.pieces_append (.verbatim s) _ p⟩
  | cons a as =>
    refine ⟨a.pieces p ++ (interleave ss as).pieces p, fun s => ?_⟩
    rw [interleave, Sql.pieces_append, Sql.pieces_append]
    rfl

theorem exists_splice {c : Char} (hc : c ≠ '?') (cs : List Char) (vs : List Value) :
    ∃ p ps, splice cs vs = .verbatim (.ofList p) :: ps ∧
      splice (c :: cs) vs = .verbatim (.ofList (c :: p)) :: ps := by
  obtain ⟨p, qs, h⟩ := exists_splitMarks cs
  obtain ⟨ps, hps⟩ := pieces_interleave (qs.map String.ofList)
    (vs.map fun v => .piece (.value v)) .nested
  refine ⟨p, ps, ?_, ?_⟩
  · rw [splice, h]
    exact hps (.ofList p)
  · rw [splice, splitMarks_cons hc h]
    exact hps (.ofList (c :: p))

section

variable (d : Dialect)

theorem addAll_splice {cs : List Char} {vs : List Value} (h : cs.count '?' = vs.length)
    (o : Output) : o.addAll d .bind (splice cs vs) =
      ⟨o.sql ++ String.ofList (replaceMarks d.placeholder (o.parameters.size + 1) cs),
        o.parameters ++ vs.toArray⟩ := by
  induction cs generalizing vs o with
  | nil =>
    obtain rfl : vs = [] := List.eq_nil_of_length_eq_zero h.symm
    simp [splice_nil, Output.addAll, Output.add, Output.write, replaceMarks]
  | cons c cs ih =>
    by_cases hc : c = '?'
    · subst hc
      match vs with
      | [] => exact absurd h (by simp)
      | v :: vs =>
        have hcs : cs.count '?' = vs.length := by simpa using h
        rw [splice_mark]
        show Output.addAll d .bind ((o.write "").add d .bind (.value v)) (splice cs vs) = _
        rw [ih hcs]
        simp [Output.add, Output.write, replaceMarks, String.append_assoc]
    · have hcs : cs.count '?' = vs.length := by rwa [List.count_cons_of_ne hc] at h
      obtain ⟨p, ps, hsplice, hcons⟩ := exists_splice hc cs vs
      have hsplit (before : String) (ds : List Char) :
          before ++ String.ofList (c :: ds) = before ++ String.ofList [c] ++ String.ofList ds := by
        rw [String.append_assoc, ← String.ofList_append, List.singleton_append]
      -- One character more at the front is as if it had been written before.
      have hwrite : o.write (.ofList (c :: p)) = (o.write (.ofList [c])).write (.ofList p) :=
        congrArg (Output.mk · o.parameters) (hsplit o.sql p)
      have hrest := ih hcs (o.write (.ofList [c]))
      rw [hsplice] at hrest
      rw [hcons, replaceMarks, if_neg hc, hsplit]
      show Output.addAll d .bind (o.write (.ofList (c :: p))) ps = _
      rw [hwrite]
      exact hrest

end

private theorem view_values (ts : List (Node .value)) :
    (Tree.ofList (ts.map Tree.any)).view = ts.map fun t => Sql.piece (.value t.held) := by
  induction ts with
  | nil => rfl
  | cons t ts ih =>
    match t with
    | .value v =>
      show Sql.piece (.value v) :: (Tree.ofList (ts.map Tree.any)).view = _
      rw [ih]
      rfl

theorem withValues_eq (sql : String) (values : List (Node .value)) :
    withValues sql values =
      if sql.toList.count '?' = values.length then
        .ok (.raw ((splitMarks sql.toList).map String.ofList) (.ofList (values.map .any)))
      else .error (.rawArity (sql.toList.count '?' + 1) values.length) := by
  simp only [withValues, ofParts, List.length_map, length_splitMarks, Nat.add_right_cancel_iff]

theorem compile_withValues (d : Dialect) {sql : String} {values : List (Node .value)}
    (h : sql.toList.count '?' = values.length) :
    (Statement.ofRaw (.raw ((splitMarks sql.toList).map String.ofList)
      (.ofList (values.map .any)))).compile d =
      ⟨String.ofList (replaceMarks d.placeholder 1 sql.toList), (values.map Tree.held).toArray⟩ := by
  have hcount : sql.toList.count '?' = (values.map Tree.held).length := by
    rw [h, List.length_map]
  have hpieces : (interleave ((splitMarks sql.toList).map String.ofList)
      (Tree.ofList (values.map Tree.any)).view).pieces .nested =
      splice sql.toList (values.map Tree.held) := by
    rw [view_values, splice, List.map_map]
    rfl
  have hrun := addAll_splice d hcount Output.empty
  rw [← hpieces] at hrun
  refine hrun.trans ?_
  simp [Output.empty]

theorem compile_verbatim (d : Dialect) (sql : String) :
    (Compiled.verbatim sql).query.compile d = ⟨sql, #[]⟩ := by
  show (⟨"" ++ sql, #[]⟩ : Output) = ⟨sql, #[]⟩
  rw [String.empty_append]

/-- A text and values make raw text if and only if there is a value for each question mark of the text;
otherwise the numbers are reported. Raw text made from them binds these values in order. Its SQL is the
text as it was in the dialect that marks a parameter by a question mark, and in the other the text with
the number of each question mark, after a sign, in its place. Text that is taken as it is compiles to
itself. -/
theorem values_spliced :
    (∀ (sql : String) (values : List (Node .value)),
      (∀ e, withValues sql values = .error e ↔ sql.toList.count '?' ≠ values.length ∧
        e = .rawArity (sql.toList.count '?' + 1) values.length) ∧
      (sql.toList.count '?' = values.length → ∃ t, withValues sql values = .ok t ∧
        (∀ d, ((Statement.ofRaw t).compile d).parameters.toList = values.map Tree.held) ∧
        ((Statement.ofRaw t).compile .sqlite).sql = sql ∧
        ((Statement.ofRaw t).compile .postgres).sql =
          .ofList (replaceMarks (fun n => "$" ++ toString n) 1 sql.toList))) ∧
    ∀ (sql : String) (d : Dialect), (Compiled.verbatim sql).query.compile d = ⟨sql, #[]⟩ := by
  refine ⟨fun sql values => ⟨fun e => ?_, fun h => ?_⟩, fun sql d => compile_verbatim d sql⟩
  · rw [withValues_eq]
    by_cases h : sql.toList.count '?' = values.length
    · simp [h]
    · simp [h, eq_comm]
  · refine ⟨_, (withValues_eq sql values).trans (if_pos h), fun d => ?_, ?_, ?_⟩
    · rw [compile_withValues d h]
    · rw [compile_withValues .sqlite h]
      show String.ofList (replaceMarks (fun _ => "?") 1 sql.toList) = sql
      rw [replaceMarks_self, String.ofList_toList]
    · rw [compile_withValues .postgres h]
      rfl

/-- Question marks side by side, at both ends and in quotes. -/
def marksEverywhere : String := "?? = '?' or ?"

theorem values_spliced_marksEverywhere :
    let values : List (Node .value) :=
      [.value (.int 1), .value .null, .value (.int 3), .value (.int 4)]
    marksEverywhere.toList.count '?' = values.length ∧
    ∃ t, withValues marksEverywhere values = .ok t ∧
      (∀ d, ((Statement.ofRaw t).compile d).parameters.toList = [.int 1, .null, .int 3, .int 4]) ∧
      ((Statement.ofRaw t).compile .sqlite).sql = marksEverywhere ∧
      ((Statement.ofRaw t).compile .postgres).sql = "$1$2 = '$3' or $4" := by
  intro values
  have hcount : marksEverywhere.toList.count '?' = values.length := by decide +kernel
  obtain ⟨t, ht, hparameters, hsqlite, hpostgres⟩ :=
    (values_spliced.1 marksEverywhere values).2 hcount
  have htext : String.ofList (replaceMarks (fun n => "$" ++ toString n) 1 marksEverywhere.toList) =
      "$1$2 = '$3' or $4" := by decide +kernel
  exact ⟨hcount, t, ht, hparameters, hsqlite, hpostgres.trans htext⟩

end Raw

end QueryTree
