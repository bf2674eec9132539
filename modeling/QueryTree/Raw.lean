import QueryTree.Node
import QueryTree.Error

/-!
# Raw text

Raw text surrounds its parameters: it has one more fragment than parameters, and is read as the
first fragment, the first parameter, the second fragment and so on.
-/
namespace QueryTree.Raw

/-- Raw text of fragments and parameters that fit together. -/
def ofParts (fragments : List String) (parameters : List AnyNode) : Except Error (Node .raw) :=
  if fragments.length = parameters.length + 1 then .ok (.raw fragments (.ofList parameters))
  else .error (.rawArity fragments.length parameters.length)

def verbatim (sql : String) : Node .raw := .raw [sql] .nil

def splitMarks : List Char → List (List Char)
  | [] => [[]]
  | '?' :: cs => [] :: splitMarks cs
  | c :: cs =>
    match splitMarks cs with
    | [] => [[c]]
    | p :: ps => (c :: p) :: ps

/-- Raw text in which question marks stand for values. Every question mark does, also one between
quotes. -/
def withValues (sql : String) (values : List (Node .value)) : Except Error (Node .raw) :=
  ofParts ((splitMarks sql.toList).map String.ofList) (values.map .any)

end QueryTree.Raw
