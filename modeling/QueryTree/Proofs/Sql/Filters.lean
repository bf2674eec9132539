import QueryTree.Proofs.Sql.Comparisons
import QueryTree.Query.Delete
import QueryTree.Query.Select
import QueryTree.Query.Update

/-!
# Successive filters

A filter that is added to a query joins the filters before it by `and`, and no parentheses are
written. So the clause is read as the regrouping of the conjunction: it is true if every filter is,
and false otherwise, provided that each filter is delimited and, if there are several, none of them
is a disjunction without parentheses.
-/
namespace QueryTree

open Condition (WrittenFor)

inductive RowQuery
  | select (q : Select)
  | update (q : Update)
  | delete (q : Delete)

namespace RowQuery

def filter : RowQuery → Optional .whereClause
  | select q => q.filter
  | update q => q.filter
  | delete q => q.filter

def setFilter (w : Optional .whereClause) : RowQuery → RowQuery
  | select q => select { q with filter := w }
  | update q => update { q with filter := w }
  | delete q => delete { q with filter := w }

def restrict (t : AnyNode) : RowQuery → RowQuery
  | select q => select (q.restrict t)
  | update q => update (q.restrict t)
  | delete q => delete (q.restrict t)

def statement : RowQuery → Statement
  | select q => ⟨.selectQuery, q.toNode, Eq.refl true⟩
  | update q => ⟨.updateQuery, q.toNode, Eq.refl true⟩
  | delete q => ⟨.deleteQuery, q.toNode, Eq.refl true⟩

theorem restrict_eq (q : RowQuery) (t : AnyNode) :
    q.restrict t = q.setFilter (Clause.both q.filter t) := by
  cases q <;> rfl

@[simp] theorem filter_setFilter (q : RowQuery) (w : Optional .whereClause) :
    (q.setFilter w).filter = w := by
  cases q <;> rfl

@[simp] theorem setFilter_setFilter (q : RowQuery) (w w' : Optional .whereClause) :
    (q.setFilter w).setFilter w' = q.setFilter w' := by
  cases q <;> rfl

private theorem setFilter_filter (q : RowQuery) : q.setFilter q.filter = q := by
  cases q <;> rfl

def restrictAll (q : RowQuery) (cs : List (Condition Comparison)) : RowQuery :=
  cs.foldl (fun q c => q.restrict (c.toNode Comparison.toNode)) q

def clause (c : Condition Comparison) : Node .whereClause :=
  .whereClause (c.toNode Comparison.toNode)

theorem restrictAll_clause (q : RowQuery) (c : Condition Comparison)
    (cs : List (Condition Comparison)) :
    (q.setFilter (.some (clause c))).restrictAll cs =
      q.setFilter (.some (clause (c.joined cs))) := by
  induction cs generalizing c with
  | nil => rfl
  | cons d ds ih =>
    have hstep : (q.setFilter (.some (clause c))).restrict (d.toNode Comparison.toNode) =
        q.setFilter (.some (clause (c.and d))) := by
      rw [restrict_eq, filter_setFilter, setFilter_setFilter]
      rfl
    rw [restrictAll, List.foldl_cons, hstep]
    exact ih (c.and d)

/-- The conjunction of the conditions becomes the filter. -/
private theorem restrictAll_cons {q : RowQuery} (h : q.filter = .none) (c : Condition Comparison)
    (cs : List (Condition Comparison)) :
    q.restrictAll (c :: cs) = q.setFilter (.some (clause (c.joined cs))) := by
  have hfirst : q.restrict (c.toNode Comparison.toNode) = q.setFilter (.some (clause c)) := by
    rw [restrict_eq, h]
    rfl
  rw [← restrictAll_clause, ← hfirst]
  rfl

def beforeFilter : RowQuery → Sql
  | select q => ctesBefore q.ctes.view ++ .word "select " ++ .when q.distinct "distinct " ++
      (if List.isEmpty (α := Sql) q.selections.view then .word "*"
        else .commas q.selections.view) ++
      .led " " (Option.map tableList q.tables.view) ++ .eachLed " " q.joins.view
  | update q => ctesBefore q.ctes.view ++ .word "update " ++ q.target.view ++
      (if List.isEmpty (α := Sql) q.updates.view then .empty
        else .word " set " ++ .commas q.updates.view) ++
      .led " " (Option.map tableList q.tables.view) ++ .eachLed " " q.joins.view
  | delete q => ctesBefore q.ctes.view ++ .word "delete " ++ tableList q.tables.view ++
      .led " using " (Option.map Sql.commas q.others.view) ++ .eachLed " " q.joins.view

def afterFilter : RowQuery → Sql
  | select q => .led " " q.groupBy.view ++ .led " " q.having.view ++ .led " " q.orderBy.view ++
      .led " " q.limit.view ++ .led " " q.offset.view ++ .eachLed " " q.setOperations.view
  | update q => .led " " q.returning.view
  | delete q => .led " " q.returning.view

/-- Everything else of a query is written as if there were no filter. -/
theorem pieces_setFilter (q : RowQuery) (w : Optional .whereClause) :
    (q.setFilter w).statement.toNode.pieces .bare =
      q.beforeFilter.pieces .nested ++
        ((Sql.led " " w.view).pieces .nested ++ q.afterFilter.pieces .nested) := by
  cases q <;>
    simp [setFilter, statement, Statement.toNode, Select.toNode, Update.toNode, Delete.toNode,
      beforeFilter, afterFilter, Tree.pieces, Tree.view, Layout.sql, Form.toSql, layout]

theorem valueMode_statement (q : RowQuery) : q.statement.valueMode = .bind := by
  cases q <;> rfl

/-- The text of a query without a filter, up to where the filter would stand. -/
def textBefore (d : Dialect) (q : RowQuery) : Output :=
  Output.empty.addAll d .bind (q.beforeFilter.pieces .nested)

theorem compile_eq {q : RowQuery} (h : q.filter = .none) (d : Dialect) :
    q.statement.compile d = (q.textBefore d).addAll d .bind (q.afterFilter.pieces .nested) := by
  have hpieces := q.pieces_setFilter q.filter
  rw [setFilter_filter, h] at hpieces
  rw [Statement.compile, Output.addNode, valueMode_statement, hpieces, Output.addAll,
    List.foldl_append]
  rfl

theorem compile_restrictAll {q : RowQuery} (h : q.filter = .none) (d : Dialect)
    (c : Condition Comparison) (cs : List (Condition Comparison)) :
    (q.restrictAll (c :: cs)).statement.compile d =
      (((q.textBefore d).write " where ").addAll d .bind
        ((c.joined cs).write (Symbol.pieces Comparison.pieces))).addAll d .bind
          (q.afterFilter.pieces .nested) := by
  have hclause : (Sql.led " " (Tree.some (clause (c.joined cs))).view).pieces .nested =
      [.word " ", .word "where "] ++ (c.joined cs).write (Symbol.pieces Comparison.pieces) := by
    rw [← Condition.pieces_toNode Comparison.pieces_toNode (c.joined cs) .nested]
    simp [clause, Tree.view, Tree.pieces, layout, Sql.led, Sql.word]
  have hwhere (o : Output) :
      o.addAll d .bind [.word " ", .word "where "] = o.write " where " := by
    simp [Output.addAll, Output.add, Output.write, String.append_assoc]
  rw [Statement.compile, Output.addNode, valueMode_statement, restrictAll_cons h,
    pieces_setFilter, hclause, ← hwhere]
  simp only [textBefore, Output.addAll, List.foldl_append]

/-- The text of a clause is read as a condition over the comparisons of some conditions, in their
order, that is true if and only if all the conditions are. -/
def MeansAll (d : Dialect) (clause : String) (cs : List (Condition Comparison)) : Prop :=
  ∃ T G, Reads (lex clause) T ∧ T.Matches (WrittenFor d .bind Comparison.pieces) G ∧
    G.atoms = cs.flatMap Condition.atoms ∧ ∀ v, G.eval v = cs.all (Condition.eval v)

theorem meansAll_iff {d : Dialect} {clause : String} {c : Condition Comparison}
    {cs : List (Condition Comparison)} {T : Condition (List Token)} (hT : Reads (lex clause) T)
    (hmatches : T.Matches (WrittenFor d .bind Comparison.pieces) (c.joined cs).regroup) :
    MeansAll d clause (c :: cs) ↔
      ∀ v, (c.joined cs).regroup.eval v = (c :: cs).all (Condition.eval v) := by
  have hatoms : (c.joined cs).regroup.atoms = (c :: cs).flatMap Condition.atoms := by
    rw [Condition.atoms, Condition.write_regroup]
    exact c.atoms_joined cs
  constructor
  · rintro ⟨T', G, hT', hmatches', hG, heval⟩
    obtain rfl := hT.unique hT'
    obtain rfl := hmatches'.unique hmatches (hG.trans hatoms.symm)
    exact heval
  · exact fun heval => ⟨T, _, hT, hmatches, hatoms, heval⟩

/-- Filters that can be joined by `and` as they are: there is a single one, or none of them is a
disjunction, and in each of them every operand binds at least as tightly as its operator. -/
def CanJoin (c : Condition Comparison) (cs : List (Condition Comparison)) : Prop :=
  cs = [] ∧ c.Delimited .disjunction ∨ ∀ f ∈ c :: cs, f.Delimited .conjunction

/-- The filter of a query is written between the rest of it, and is read as the regrouping of the
conjunction of the conditions that were added. So it means that all of them hold if and only if the
regrouping means the same as the conjunction; in particular if they can be joined as they are. -/
theorem restrictAll_means (q : RowQuery) (h : q.filter = .none) (d : Dialect)
    (c : Condition Comparison) (cs : List (Condition Comparison)) :
    ∃ (clause : String) (parameters : Array Value),
      q.statement.compile d = (q.textBefore d).addAll d .bind (q.afterFilter.pieces .nested) ∧
      (q.restrictAll (c :: cs)).statement.compile d =
        Output.addAll d .bind ⟨(q.textBefore d).sql ++ " where " ++ clause, parameters⟩
          (q.afterFilter.pieces .nested) ∧
      (∃ T, Reads (lex clause) T ∧
        T.Matches (WrittenFor d .bind Comparison.pieces) (c.joined cs).regroup) ∧
      (MeansAll d clause (c :: cs) ↔
        ∀ v, (c.joined cs).regroup.eval v = (c :: cs).all (Condition.eval v)) ∧
      (CanJoin c cs → MeansAll d clause (c :: cs)) := by
  let start := (q.textBefore d).write " where "
  let written := start.addAll d .bind ((c.joined cs).write (Symbol.pieces Comparison.pieces))
  obtain ⟨clause, ts, hsql, hlexes, T, hT, hmatches⟩ :=
    (c.joined cs).addsTokens_regroup (Comparison.addsTokens d .bind) start
  obtain rfl := hlexes.1
  have hwritten : written = ⟨(q.textBefore d).sql ++ " where " ++ clause, written.parameters⟩ :=
    congrArg (fun s => Output.mk s written.parameters) hsql
  have hmeans := meansAll_iff hT hmatches
  refine ⟨clause, written.parameters, compile_eq h d, ?_, ⟨T, hT, hmatches⟩, hmeans,
    fun hjoin => hmeans.mpr fun v => ?_⟩
  · rw [compile_restrictAll h, ← hwritten]
  · have hdelimited : (c.joined cs).Delimited .disjunction := by
      rcases hjoin with ⟨rfl, hc⟩ | hall
      · exact hc
      · obtain ⟨hc, hcs⟩ := List.forall_mem_cons.mp hall
        exact .conjunction (Condition.delimited_joined hc hcs)
    rw [hdelimited.regroup.2, Condition.eval_joined]

def persons : RowQuery := .select (.ofTables [.any (Tree.tableNamed "person")])

def equals (column : String) (n : Int64) : Condition Comparison :=
  .atom ⟨.reference none column, .eq, .inl (.value (.int n))⟩

theorem restrictAll_means_persons :
    let c := equals "a" 1
    let cs := [Condition.parens (.or (equals "b" 2) (equals "c" 3))]
    persons.filter = .none ∧ CanJoin c cs ∧
      ∃ clause parameters, (persons.restrictAll (c :: cs)).statement.compile .postgres =
          ⟨"select * from person" ++ " where " ++ clause, parameters⟩ ∧
        MeansAll .postgres clause (c :: cs) := by
  intro c cs
  have hjoin : CanJoin c cs := by
    have hequals (n v) : (equals n v).Delimited .conjunction := .factor (.atom _)
    refine .inr (List.forall_mem_cons.mpr ⟨hequals "a" 1, List.forall_mem_singleton.mpr ?_⟩)
    exact .factor (.parens (.or (.conjunction (hequals "b" 2)) (.conjunction (hequals "c" 3))))
  obtain ⟨clause, parameters, -, hcompile, -, -, hmeans⟩ :=
    restrictAll_means persons rfl .postgres c cs
  have hbefore : (persons.textBefore .postgres).sql = "select * from person" := by decide +kernel
  rw [hbefore] at hcompile
  exact ⟨rfl, hjoin, clause, parameters, hcompile, hmeans hjoin⟩

/-- Filters do not meet in every case: a disjunction is torn apart by the filter after it. -/
theorem not_forall_filters_meet :
    ¬∀ (d : Dialect) (q : RowQuery) (c : Condition Comparison) (cs : List (Condition Comparison))
      (clause : String), q.filter = .none →
        ((q.restrictAll (c :: cs)).statement.compile d).sql =
          (q.statement.compile d).sql ++ " where " ++ clause →
        MeansAll d clause (c :: cs) := by
  intro h
  let c := Condition.or (equals "a" 1) (equals "b" 2)
  let cs := [equals "c" 3]
  have hmeans : MeansAll .postgres "a = $1 or b = $2 and c = $3" (c :: cs) :=
    h .postgres persons c cs _ rfl (by decide +kernel)
  obtain ⟨clause, ts, hsql, hlexes, T, hT, hmatches⟩ :=
    (c.joined cs).addsTokens_regroup (Comparison.addsTokens .postgres .bind) .empty
  have hwritten : (Output.empty.addAll .postgres .bind
      ((c.joined cs).write (Symbol.pieces Comparison.pieces))).sql =
        "a = $1 or b = $2 and c = $3" := by decide +kernel
  obtain rfl : clause = "a = $1 or b = $2 and c = $3" := by
    rw [← hwritten, hsql]
    exact String.empty_append.symm
  obtain rfl := hlexes.1
  -- Where only the first comparison is true, the clause is true and the second filter is not.
  have heval := (meansAll_iff hT hmatches).mp hmeans fun x => x.left = .reference none "a"
  exact absurd heval (by decide)

end RowQuery

end QueryTree
