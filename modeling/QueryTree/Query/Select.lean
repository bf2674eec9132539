import QueryTree.Query.Clause

/-!
# Selections of rows
-/
namespace QueryTree

structure Select where
  ctes : Optional .withClause := .none
  distinct : Bool := false
  selections : Many .selection := .nil
  tables : Optional .fromClause := .none
  joins : Many .join := .nil
  filter : Optional .whereClause := .none
  groupBy : Optional .groupBy := .none
  having : Optional .having := .none
  orderBy : Optional .orderBy := .none
  limit : Optional .limit := .none
  offset : Optional .offset := .none
  setOperations : Many .setOperation := .nil

namespace Select

def toNode (q : Select) : Node .selectQuery :=
  .selectQuery q.ctes q.distinct q.selections q.tables q.joins q.filter q.groupBy q.having q.orderBy
    q.limit q.offset q.setOperations

def ofNode : Node .selectQuery → Select
  | .selectQuery ctes distinct selections tables joins filter groupBy having orderBy limit offset
      setOperations =>
    ⟨ctes, distinct, selections, tables, joins, filter, groupBy, having, orderBy, limit, offset,
      setOperations⟩

@[simp] theorem ofNode_toNode (q : Select) : ofNode q.toNode = q := rfl

def ofTables (ts : List AnyNode) : Select := { tables := Clause.tables ts }

/-- A selection from a single table, written with dots. -/
def ofTable (s : String) : Select := ofTables [.any (Tree.parseTable s)]

def select (q : Select) (ts : List AnyNode) : Select :=
  { q with selections := .ofList (q.selections.toList ++ ts.map .selection) }

def join (q : Select) (j : Node .join) : Select := { q with joins := q.joins.concat j }

def restrict (q : Select) (t : AnyNode) : Select := { q with filter := Clause.both q.filter t }

def declare (q : Select) (ts : List (Node .commonTable)) : Select :=
  { q with ctes := Clause.commonTables ts }

def group (q : Select) (ts : List AnyNode) : Select :=
  { q with groupBy := .some (.groupBy (.ofList ts)) }

def restrictGroups (q : Select) (t : AnyNode) : Select := { q with having := .some (.having t) }

def orderItems : Optional .orderBy → Many .orderByItem
  | .none => .nil
  | .some (.orderBy items) => items

def order (q : Select) (t : AnyNode) (d : Option Direction) : Select :=
  { q with orderBy := .some (.orderBy ((orderItems q.orderBy).concat (.orderByItem t d))) }

def limitTo (q : Select) (t : AnyNode) : Select := { q with limit := .some (.limit t) }

def skip (q : Select) (t : AnyNode) : Select := { q with offset := .some (.offset t) }

def combine (q : Select) (o : SetOperator) (t : AnyNode) (all : Bool) : Select :=
  { q with setOperations := q.setOperations.concat (.setOperation o t all) }

def unique (q : Select) : Select := { q with distinct := true }

end Select

end QueryTree
