import QueryTree.Sql.Dialect
import QueryTree.Sql.Layout

/-!
# Compiling statements

Pieces become text in a dialect. In queries and raw text the values are bound: each slot becomes a
placeholder and its value a parameter. Statements that define schema objects take no parameters;
there each value is written as a literal in its slot.
-/
namespace QueryTree

/-- What becomes of values. -/
inductive ValueMode
  | bind | inline
  deriving DecidableEq, Repr

/-- SQL text with the parameters bound so far. -/
structure Output where
  sql : String
  parameters : Array Value
  deriving DecidableEq

namespace Output

def empty : Output := ⟨"", #[]⟩

def write (o : Output) (s : String) : Output := { o with sql := o.sql ++ s }

/-- A value as it is written in place. -/
def literal (d : Dialect) : Value → String
  | .bool b => d.boolLiteral b
  | v => v.literal

def add (d : Dialect) (m : ValueMode) (o : Output) : Piece → Output
  | .word s => o.write s
  | .verbatim s => o.write s
  | .name s => o.write (d.identifier s)
  | .value v =>
    match m with
    | .bind => { (o.write (d.placeholder (o.parameters.size + 1))) with
        parameters := o.parameters.push v }
    | .inline => o.write (literal d v)

def addAll (d : Dialect) (m : ValueMode) (o : Output) (ps : List Piece) : Output :=
  ps.foldl (add d m) o

theorem addAll_append (d : Dialect) (m : ValueMode) (o : Output) (ps qs : List Piece) :
    o.addAll d m (ps ++ qs) = (o.addAll d m ps).addAll d m qs :=
  List.foldl_append

def addNode (d : Dialect) (m : ValueMode) (p : Place) (o : Output) (t : AnyNode) : Output :=
  o.addAll d m (t.pieces p)

end Output

structure Statement where
  kind : Kind
  node : Node kind
  isRoot : kind.isRoot = true

namespace Statement

def toNode (s : Statement) : AnyNode := .any s.node

def ofNode : AnyNode → Except Error Statement
  | .any (k := k) t => if h : k.isRoot = true then .ok ⟨k, t, h⟩ else .error (.notRoot k)

/-- Raw text is a statement. -/
def ofRaw (t : Node .raw) : Statement := ⟨.raw, t, rfl⟩

/-- Values are bound in queries and in raw text. -/
def valueMode (s : Statement) : ValueMode :=
  if s.kind.isQuery || s.kind == .raw then .bind else .inline

def compile (d : Dialect) (s : Statement) : Output :=
  Output.empty.addNode d s.valueMode .bare s.toNode

end Statement

end QueryTree
