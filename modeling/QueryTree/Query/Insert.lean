import QueryTree.Query.Clause

/-!
# Insertions of rows
-/
namespace QueryTree

structure Insert where
  ctes : Optional .withClause := .none
  target : Node .table
  columns : Many .column := .nil
  rows : Slot (.optional .any) := .none
  returning : Optional .returning := .none

namespace Insert

def toNode (q : Insert) : Node .insertQuery :=
  .insertQuery q.ctes q.target q.columns q.rows q.returning

def ofNode : Node .insertQuery → Insert
  | .insertQuery ctes target columns rows returning => ⟨ctes, target, columns, rows, returning⟩

@[simp] theorem ofNode_toNode (q : Insert) : ofNode q.toNode = q := rfl

def into (t : Node .table) : Insert := { target := t }

def setColumns (q : Insert) (names : List String) : Insert :=
  { q with columns := Tree.columnsNamed names }

def setRows (q : Insert) (t : AnyNode) : Insert := { q with rows := .some t }

def answer (q : Insert) (ts : List AnyNode) : Insert := { q with returning := Clause.returning ts }

def declare (q : Insert) (ts : List (Node .commonTable)) : Insert :=
  { q with ctes := Clause.commonTables ts }

end Insert

end QueryTree
