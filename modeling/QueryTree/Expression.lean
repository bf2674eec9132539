import QueryTree.Raw
import QueryTree.Tree.Dotted
import QueryTree.Tree.OfJson

/-!
# Expressions

Expressions are nodes; the functions here make those that are written most. An expression may also
come as JSON, and is then taken only if it is a node written down.
-/
namespace QueryTree.Expression

/-- A column or all columns, written with dots. -/
def reference (s : String) : AnyNode := Tree.parseReference s

/-- A value, which is bound as a parameter. -/
def value (v : Value) : AnyNode := .any (.value v)

/-- Text that is taken as it is. -/
def raw (sql : String) : AnyNode := .any (Raw.verbatim sql)

def binary (l : AnyNode) (o : Operator) (r : AnyNode) : AnyNode :=
  .any (.binaryOperation l (.operator o) r)

def unary (o : Operator) (t : AnyNode) : AnyNode := .any (.unaryOperation (.operator o) t)

def parens (t : AnyNode) : AnyNode := .any (.parens t)

def not (t : AnyNode) : AnyNode := unary .not t

def hasRows (query : AnyNode) : AnyNode := unary .existsRow (parens query)

/-- Combines terms from the left. Two or more terms are put into parentheses, so that they can stand
anywhere; for no term there is a text. -/
def chain (combine : AnyNode → AnyNode → AnyNode) (none : String) : List AnyNode → AnyNode
  | [] => raw none
  | [t] => t
  | t :: ts => parens (ts.foldl combine t)

/-- The conjunction of terms, which is true if there is none. -/
def all (ts : List AnyNode) : AnyNode := chain (fun l r => .any (.and l r)) "true" ts

/-- The disjunction of terms, which is false if there is none. -/
def any (ts : List AnyNode) : AnyNode := chain (fun l r => .any (.or l r)) "false" ts

def call (name : String) (arguments : List AnyNode) : AnyNode :=
  .any (.function name (.ofList arguments) false)

def named (t : AnyNode) (name : String) : AnyNode := .any (.aliased t (.identifier name))

/-- The text that a JSON object has as its kind. -/
def kindText? (x : Json) : Option String :=
  match x.get? "kind" with
  | some (.string s) => some s
  | _ => none

/-- Whether a JSON value has the form of a node. -/
def isNodeLike (x : Json) : Bool := (kindText? x).isSome

/-- Whether a JSON value has the form of a node under another name. -/
def isAliasLike (x : Json) : Bool :=
  kindText? x = some Kind.aliased.name && (x.get? "alias").isSome && (x.get? "node").isSome

def invalid (x : Json) : Error := .invalidExpression x.compactText

/-- Takes a node written down. Whatever is no such node is invalid, but an unknown kind is reported
as such. -/
def ofJson (x : Json) : Except Error AnyNode :=
  if isNodeLike x then
    match Tree.ofJson x with
    | .ok t => .ok t
    | .error (.unknownKind tag) => .error (.unknownKind tag)
    | .error _ => .error (invalid x)
  else .error (invalid x)

/-- Takes a node with another name written down. -/
def aliasOfJson (x : Json) : Except Error AnyNode :=
  if isAliasLike x then ofJson x else .error (invalid x)

end QueryTree.Expression
