import QueryTree.Query.Clause

/-!
# Deletions of rows
-/
namespace QueryTree

structure Delete where
  ctes : Optional .withClause := .none
  tables : Node .fromClause
  others : Optional .fromClause := .none
  joins : Many .join := .nil
  filter : Optional .whereClause := .none
  returning : Optional .returning := .none

namespace Delete

def toNode (q : Delete) : Node .deleteQuery :=
  .deleteQuery q.ctes q.tables q.others q.joins q.filter q.returning

def ofNode : Node .deleteQuery → Delete
  | .deleteQuery ctes tables others joins filter returning =>
    ⟨ctes, tables, others, joins, filter, returning⟩

@[simp] theorem ofNode_toNode (q : Delete) : ofNode q.toNode = q := rfl

def ofTables (ts : List AnyNode) : Delete := { tables := .fromClause (.ofList ts) }

/-- Gives the tables that only the conditions use. -/
def setOthers (q : Delete) (ts : List AnyNode) : Delete := { q with others := Clause.tables ts }

def join (q : Delete) (j : Node .join) : Delete := { q with joins := q.joins.concat j }

def restrict (q : Delete) (t : AnyNode) : Delete := { q with filter := Clause.both q.filter t }

def answer (q : Delete) (ts : List AnyNode) : Delete := { q with returning := Clause.returning ts }

def declare (q : Delete) (ts : List (Node .commonTable)) : Delete :=
  { q with ctes := Clause.commonTables ts }

end Delete

end QueryTree
