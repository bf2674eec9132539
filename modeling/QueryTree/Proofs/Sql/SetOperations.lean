import QueryTree.Proofs.Sql.Tokens
import QueryTree.Query.Select

/-!
# Set operations

A selection that is combined with others is written with the operations one after another, and an
operand is written without parentheses. So the text tells the tables and the operations in their
order, but not which selection an operation belongs to: every combination has the text of the one in
which all operations belong to the outermost selection.
-/
namespace QueryTree

private theorem Sql.pieces_eachLed_append (s : String) (as bs : List Sql) (p : Place) :
    (eachLed s (as ++ bs)).pieces p = (eachLed s as).pieces p ++ (eachLed s bs).pieces p := by
  induction as with
  | nil => rfl
  | cons a as ih => simp [eachLed, ih]

theorem Tree.view_eq_map {s : Shape} : (ts : Slot (.many s)) →
    ts.view = (ts.toList.map view : List (SlotLayout s))
  | .nil => rfl
  | .cons t ts => congrArg (t.view :: ·) (view_eq_map ts)

theorem Tree.view_concat {s : Shape} (ts : Slot (.many s)) (t : Slot s) :
    (ts.concat t).view = ((ts.view : List (SlotLayout s)) ++ [t.view] : List (SlotLayout s)) := by
  rw [view_eq_map, view_eq_map, concat, toList_ofList, List.map_append]
  rfl

theorem SetOperator.words_injective {o o' : SetOperator} (h : o.words = o'.words) : o = o' := by
  cases o <;> cases o' <;> first | rfl | exact absurd h (by decide)

def SetOperator.lead (o : SetOperator) (all : Bool) : List Piece :=
  [.word " ", .word o.words, .word " "] ++ if all then [.word "all "] else []

/-- A set operation is written after everything else of the selection to which it is added. -/
theorem Select.pieces_combine (q : Select) (o : SetOperator) (t : AnyNode) (all : Bool) :
    Tree.pieces (.any (q.combine o t all).toNode) .bare =
      Tree.pieces (.any q.toNode) .bare ++ (o.lead all ++ t.pieces .bare) := by
  have hview : ((q.setOperations.concat (.setOperation o t all)).view : List Sql) =
      (q.setOperations.view : List Sql) ++
        [Sql.word o.words ++ Sql.word " " ++ Sql.when all "all " ++ Sql.placed .bare t.view] :=
    Tree.view_concat ..
  have hoperation : (Sql.eachLed " "
      [Sql.word o.words ++ Sql.word " " ++ Sql.when all "all " ++ Sql.placed .bare t.view]).pieces
        .nested = o.lead all ++ t.pieces .bare := by
    cases all <;> simp [Sql.eachLed, Sql.when, Sql.word, SetOperator.lead, Tree.pieces]
  simp only [Tree.pieces, Select.combine, Select.toNode, Tree.view, Layout.sql, Form.toSql, layout,
    Sql.pieces_statement_bare, Sql.pieces_append, hview, Sql.pieces_eachLed_append, hoperation]
  exact (List.append_assoc ..).symm

theorem Tree.concat_inj {s : Shape} {ts us : Slot (.many s)} {t u : Slot s}
    (h : ts.concat t = us.concat u) : ts = us ∧ t = u := by
  have htoList := congrArg toList h
  simp only [concat, toList_ofList] at htoList
  obtain ⟨hlists, hlast⟩ := List.append_inj' htoList rfl
  exact ⟨by rw [← ofList_toList ts, hlists, ofList_toList], List.singleton_inj.mp hlast⟩

theorem Select.combine_inj {q q' : Select} {o o' : SetOperator} {t t' : AnyNode} {all all' : Bool}
    (h : q.combine o t all = q'.combine o' t' all') : q = q' ∧ o = o' ∧ t = t' ∧ all = all' := by
  cases q
  cases q'
  obtain ⟨rfl, rfl, rfl, rfl, rfl, rfl, rfl, rfl, rfl, rfl, rfl, hoperations⟩ := mk.inj h
  obtain ⟨rfl, hoperation⟩ := Tree.concat_inj hoperations
  simpa using hoperation

theorem Select.toNode_injective {q q' : Select} (h : q.toNode = q'.toNode) : q = q' := by
  simpa using congrArg ofNode h

/-- Selections of all rows of a table that are combined by set operations. -/
inductive Combination
  | table (name : String)
  | combine (left : Combination) (o : SetOperator) (all : Bool) (right : Combination)
  deriving DecidableEq

structure TableOperation where
  operator : SetOperator
  all : Bool
  table : String
  deriving DecidableEq

namespace Combination

def select : Combination → Select
  | table n => .ofTables [.any (Tree.tableNamed n)]
  | combine l o all r => l.select.combine o (.any r.select.toNode) all

def statement (c : Combination) : Statement := ⟨.selectQuery, c.select.toNode, rfl⟩

def first : Combination → String
  | table n => n
  | combine l _ _ _ => l.first

def operations : Combination → List TableOperation
  | table _ => []
  | combine l o all r => l.operations ++ ⟨o, all, r.first⟩ :: r.operations

def attach (c : Combination) (x : TableOperation) : Combination :=
  c.combine x.operator x.all (table x.table)

/-- The combination in which all operations belong to the outermost selection. -/
def flatten (c : Combination) : Combination := c.operations.foldl attach (table c.first)

theorem first_foldl_attach (c : Combination) (xs : List TableOperation) :
    (xs.foldl attach c).first = c.first := by
  induction xs generalizing c with
  | nil => rfl
  | cons x xs ih => exact ih _

theorem operations_foldl_attach (c : Combination) (xs : List TableOperation) :
    (xs.foldl attach c).operations = c.operations ++ xs := by
  induction xs generalizing c with
  | nil => simp
  | cons x xs ih => simp [ih, attach, operations, first]

theorem flatten_eq_iff {c c' : Combination} :
    c.flatten = c'.flatten ↔ c.first = c'.first ∧ c.operations = c'.operations := by
  constructor
  · intro h
    have hfirst := congrArg first h
    have hoperations := congrArg operations h
    simp only [flatten, first_foldl_attach, operations_foldl_attach] at hfirst hoperations
    exact ⟨hfirst, hoperations⟩
  · rintro ⟨hfirst, hoperations⟩
    rw [flatten, flatten, hfirst, hoperations]

/-- The pieces of a selection of all rows of a table. -/
def tablePieces (n : String) : List Piece :=
  [.word "select ", .word "*", .word " ", .word "from ", .name n]

def operationPieces (x : TableOperation) : List Piece :=
  x.operator.lead x.all ++ tablePieces x.table

private theorem pieces_select (c : Combination) :
    Tree.pieces (.any c.select.toNode) .bare =
      tablePieces c.first ++ c.operations.flatMap operationPieces := by
  induction c with
  | table n => rfl
  | combine l o all r ihl ihr =>
    rw [select, Select.pieces_combine, ihl, ihr]
    simp [first, operations, operationPieces]

variable (d : Dialect)

def tableTokens (n : String) : List Token :=
  [.keyword "select", .sign '*', .keyword "from", d.nameToken n]

def operationTokens (x : TableOperation) : List Token :=
  .keyword x.operator.words :: (if x.all then [.keyword "all"] else []) ++ tableTokens d x.table

theorem addAll_table (o : Output) (n : String) :
    o.addAll d .bind (tablePieces n) = o.write ("select * from " ++ d.identifier n) := by
  simp [tablePieces, Output.addAll, Output.add, Output.write, String.append_assoc]

private theorem addAll_lead (o : Output) (operator : SetOperator) (all : Bool) :
    o.addAll d .bind (operator.lead all) =
      o.write (" " ++ operator.words ++ " " ++ if all then "all " else "") := by
  cases all <;>
    simp [SetOperator.lead, Output.addAll, Output.add, Output.write, String.append_assoc]

theorem lexes_table (n : String) :
    Lexes ("select * from " ++ d.identifier n) (tableTokens d n) := by
  have hselect : Lexer.between.run "select * from ".toList =
      ([.keyword "select", .sign '*', .keyword "from"], .between) := by decide +kernel
  exact .after hselect (d.lexes_identifier n)

private theorem lexes_operation {o : Output} {ts : List Token} (h : Lexes o.sql ts)
    (x : TableOperation) :
    Lexes (o.addAll d .bind (operationPieces x)).sql (ts ++ operationTokens d x) := by
  obtain ⟨operator, all, n⟩ := x
  have hword : Lexes operator.words [.keyword operator.words] := by
    cases operator <;> decide +kernel
  have hall : Lexer.between.run (if all then "all " else "").toList =
      (if all then [.keyword "all"] else [], .between) := by
    cases all <;> decide +kernel
  have hsql : (o.addAll d .bind (operationPieces ⟨operator, all, n⟩)).sql =
      o.sql ++ (" " ++ operator.words ++ " ") ++
        ((if all then "all " else "") ++ ("select * from " ++ d.identifier n)) := by
    calc (o.addAll d .bind (operationPieces ⟨operator, all, n⟩)).sql
      _ = ((o.addAll d .bind (operator.lead all)).addAll d .bind (tablePieces n)).sql := by
        rw [operationPieces, Output.addAll, List.foldl_append]
        rfl
      _ = _ := by
        rw [addAll_lead, addAll_table, Output.write, Output.write]
        simp only [String.append_assoc]
  rw [hsql]
  simpa [operationTokens] using h.parted hword.spaced (.after hall (lexes_table d n))

private theorem lexes_operations {o : Output} {ts : List Token} (h : Lexes o.sql ts)
    (xs : List TableOperation) :
    Lexes (o.addAll d .bind (xs.flatMap operationPieces)).sql
      (ts ++ xs.flatMap (operationTokens d)) := by
  induction xs generalizing o ts with
  | nil => simpa [Output.addAll] using h
  | cons x xs ih =>
    rw [List.flatMap_cons, List.flatMap_cons, Output.addAll, List.foldl_append, ← List.append_assoc]
    exact ih (lexes_operation d h x)

theorem compile_eq (c : Combination) :
    c.statement.compile d = (Output.empty.addAll d .bind (tablePieces c.first)).addAll d .bind
      (c.operations.flatMap operationPieces) := by
  show Output.empty.addAll d .bind (Tree.pieces (.any c.select.toNode) .bare) = _
  rw [pieces_select, Output.addAll, List.foldl_append]
  rfl

theorem lexes_sql (c : Combination) :
    Lexes (c.statement.compile d).sql
      (tableTokens d c.first ++ c.operations.flatMap (operationTokens d)) := by
  rw [compile_eq, addAll_table]
  exact lexes_operations d (by simpa [Output.write, Output.empty] using lexes_table d c.first) _

private theorem operationTokens_append_inj {x y : TableOperation} {ts us : List Token}
    (h : operationTokens d x ++ ts = operationTokens d y ++ us) : x = y ∧ ts = us := by
  obtain ⟨o, all, n⟩ := x
  obtain ⟨o', all', n'⟩ := y
  obtain ⟨rfl, hwords, hname, hrest⟩ : all = all' ∧ o.words.toList = o'.words.toList ∧
      d.nameToken n = d.nameToken n' ∧ ts = us := by
    cases all <;> cases all' <;> simp_all [operationTokens, tableTokens, Token.keyword]
  obtain rfl := SetOperator.words_injective (String.toList_injective hwords)
  obtain rfl := d.nameToken_injective hname
  exact ⟨rfl, hrest⟩

private theorem flatMap_operationTokens_inj {xs ys : List TableOperation}
    (h : xs.flatMap (operationTokens d) = ys.flatMap (operationTokens d)) : xs = ys := by
  induction xs generalizing ys with
  | nil =>
    cases ys with
    | nil => rfl
    | cons y ys => simp [operationTokens] at h
  | cons x xs ih =>
    cases ys with
    | nil => simp [operationTokens] at h
    | cons y ys =>
      obtain ⟨rfl, hrest⟩ := operationTokens_append_inj d h
      rw [ih hrest]

theorem sql_eq_iff (c c' : Combination) :
    (c.statement.compile d).sql = (c'.statement.compile d).sql ↔ c.flatten = c'.flatten := by
  rw [flatten_eq_iff]
  constructor
  · intro h
    have htokens := (lexes_sql d c).1.symm.trans ((congrArg lex h).trans (lexes_sql d c').1)
    obtain ⟨hfirst, hoperations⟩ := List.append_inj htokens rfl
    have hname : d.nameToken c.first = d.nameToken c'.first := by
      simpa [tableTokens] using hfirst
    exact ⟨d.nameToken_injective hname, flatMap_operationTokens_inj d hoperations⟩
  · rintro ⟨hfirst, hoperations⟩
    rw [compile_eq, compile_eq, hfirst, hoperations]

theorem select_injective {c c' : Combination} (h : c.select = c'.select) : c = c' := by
  have hleaf {n : String} {q : Select} {o t all} (h : (table n).select = q.combine o t all) :
      False := by
    have hnil := congrArg (·.setOperations.toList) h
    simp [select, Select.ofTables, Select.combine, Tree.concat] at hnil
  induction c generalizing c' with
  | table n =>
    cases c' with
    | table n' =>
      obtain rfl : n = n' := by
        simpa [select, Select.ofTables, Clause.tables, Tree.ofList, Tree.tableNamed, Tree.bare]
          using h
      rfl
    | combine => exact (hleaf h).elim
  | combine l o all r ihl ihr =>
    cases c' with
    | table => exact (hleaf h.symm).elim
    | combine l' o' all' r' =>
      obtain ⟨hl, rfl, hr, rfl⟩ := Select.combine_inj h
      have hnode : r.select.toNode = r'.select.toNode := by simpa using hr
      rw [ihl hl, ihr (Select.toNode_injective hnode)]

theorem eq_table_of_operations_eq_nil {c : Combination} (h : c.operations = []) :
    c = table c.first := by
  cases c with
  | table n => rfl
  | combine l o all r => simp [operations] at h

theorem flatten_eq_self {c : Combination} (h : c.operations.length ≤ 1) : c.flatten = c := by
  cases c with
  | table n => rfl
  | combine l o all r =>
    have hlength : l.operations.length + (r.operations.length + 1) ≤ 1 := by
      simpa [operations] using h
    have hl : l = table l.first :=
      eq_table_of_operations_eq_nil (List.length_eq_zero_iff.mp (by omega))
    have hr : r = table r.first :=
      eq_table_of_operations_eq_nil (List.length_eq_zero_iff.mp (by omega))
    rw [hl, hr]
    rfl

private theorem foldl_attach_injective {c c' : Combination} (xs : List TableOperation)
    (h : xs.foldl attach c = xs.foldl attach c') : c = c' := by
  induction xs generalizing c c' with
  | nil => exact h
  | cons x xs ih => exact (combine.inj (ih h)).1

/-- The second of two operations may belong to the first operand or to the selection. -/
theorem exists_other_of_operations {c : Combination} {x y : TableOperation}
    {xs : List TableOperation} (h : c.operations = x :: y :: xs) :
    ∃ c', c'.flatten = c.flatten ∧ c' ≠ c.flatten := by
  let grouped := (table c.first).combine x.operator x.all ((table x.table).attach y)
  refine ⟨xs.foldl attach grouped, flatten_eq_iff.mpr ⟨?_, ?_⟩, ?_⟩
  · rw [first_foldl_attach]
    rfl
  · rw [operations_foldl_attach, h]
    rfl
  · intro heq
    rw [flatten, h] at heq
    have hbase : grouped = ((table c.first).attach x).attach y := foldl_attach_injective xs heq
    exact nomatch (combine.inj hbase).2.2.2

/-- The text of a combination tells the tables and the operations in their order, and nothing else.
So two combinations have the same text if and only if they are the same once all operations belong
to the outermost selection, and the text determines the tree if and only if there is at most one
operation. -/
theorem sql_determines_iff (c : Combination) :
    (∀ c' : Combination,
        (c'.statement.compile d).sql = (c.statement.compile d).sql ↔ c'.flatten = c.flatten) ∧
      ((∀ c' : Combination, (c'.statement.compile d).sql = (c.statement.compile d).sql →
        c'.select.toNode = c.select.toNode) ↔ c.operations.length ≤ 1) := by
  refine ⟨fun c' => sql_eq_iff d c' c, fun h => ?_, fun h c' hsql => ?_⟩
  · have hsame (c' : Combination) (hflat : c'.flatten = c.flatten) : c' = c :=
      select_injective (Select.toNode_injective (h c' ((sql_eq_iff d c' c).mpr hflat)))
    match hoperations : c.operations with
    | [] | [_] => simp
    | x :: y :: xs =>
      obtain ⟨c', hflat, hne⟩ := exists_other_of_operations hoperations
      have hself : c.flatten = c :=
        hsame _ (flatten_eq_iff.mpr ⟨first_foldl_attach .., operations_foldl_attach ..⟩)
      exact absurd ((hsame c' hflat).trans hself.symm) hne
  · have hflat := (sql_eq_iff d c' c).mp hsql
    have hlength : c'.operations.length ≤ 1 := (flatten_eq_iff.mp hflat).2 ▸ h
    have hsame : c' = c := by rw [← flatten_eq_self hlength, hflat, flatten_eq_self h]
    rw [hsame]

/-- The rows of `a` that are not in the difference of `b` and `c`. -/
def differenceOfDifference : Combination :=
  (table "a").combine .except false ((table "b").combine .except false (table "c"))

/-- Different combinations may have the same text: a difference that is subtracted falls apart into
two tables that are subtracted one after the other. -/
theorem not_forall_grouping_kept :
    ¬∀ (d : Dialect) (c c' : Combination),
      (c.statement.compile d).sql = (c'.statement.compile d).sql →
        c.select.toNode = c'.select.toNode := by
  intro h
  have hsql : (differenceOfDifference.statement.compile .postgres).sql =
      (differenceOfDifference.flatten.statement.compile .postgres).sql := by decide +kernel
  exact absurd (h _ _ _ hsql) (by decide)

end Combination

end QueryTree
