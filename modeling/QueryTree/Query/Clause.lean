import QueryTree.Tree.Dotted

/-!
# Clauses

The clauses that several kinds of query share.
-/
namespace QueryTree.Clause

def selections (ts : List AnyNode) : Many .selection := .ofList (ts.map .selection)

def tables (ts : List AnyNode) : Optional .fromClause := .some (.fromClause (.ofList ts))

def returning (ts : List AnyNode) : Optional .returning := .some (.returning (selections ts))

def join (type : JoinType) (target : AnyNode) (condition : Option AnyNode) : Node .join :=
  .join type target (.ofOption (condition.map .onClause))

def commonTable (name : String) (t : AnyNode) : Node .commonTable :=
  .commonTable (.commonTableName (Tree.tableNamed name) .nil) t

def commonTables (ts : List (Node .commonTable)) : Optional .withClause :=
  .some (.withClause false (.ofList ts))

def both : Optional .whereClause → AnyNode → Optional .whereClause
  | .none, t => .some (.whereClause t)
  | .some (.whereClause u), t => .some (.whereClause (.any (.and u t)))

end QueryTree.Clause
