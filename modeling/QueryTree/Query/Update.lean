import QueryTree.Query.Clause

/-!
# Changes of rows
-/
namespace QueryTree

structure Update where
  ctes : Optional .withClause := .none
  target : AnyNode
  updates : Many .columnUpdate := .nil
  tables : Optional .fromClause := .none
  joins : Many .join := .nil
  filter : Optional .whereClause := .none
  returning : Optional .returning := .none

namespace Update

def toNode (q : Update) : Node .updateQuery :=
  .updateQuery q.ctes q.target q.updates q.tables q.joins q.filter q.returning

def ofNode : Node .updateQuery → Update
  | .updateQuery ctes target updates tables joins filter returning =>
    ⟨ctes, target, updates, tables, joins, filter, returning⟩

@[simp] theorem ofNode_toNode (q : Update) : ofNode q.toNode = q := rfl

/-- A change of a table, which may stand under another name. -/
def ofTarget (t : AnyNode) : Update := { target := t }

def assign (q : Update) (name : String) (t : AnyNode) : Update :=
  { q with updates := q.updates.concat (.columnUpdate (Tree.columnNamed name) t) }

def setTables (q : Update) (ts : List AnyNode) : Update := { q with tables := Clause.tables ts }

def join (q : Update) (j : Node .join) : Update := { q with joins := q.joins.concat j }

def restrict (q : Update) (t : AnyNode) : Update := { q with filter := Clause.both q.filter t }

def answer (q : Update) (ts : List AnyNode) : Update := { q with returning := Clause.returning ts }

def declare (q : Update) (ts : List (Node .commonTable)) : Update :=
  { q with ctes := Clause.commonTables ts }

end Update

end QueryTree
