import QueryTree.Expression
import QueryTree.Query.Select
import QueryTree.Query.Insert
import QueryTree.Query.Update
import QueryTree.Query.Delete
import QueryTree.Definition
import QueryTree.Pipeline

/-!
# Scripts

A script builds trees on a stack. An instruction pops its operands from the top down, then the node
that it refines, and pushes the result. It holds names of choices and written nodes as they come;
they are read when it runs.
-/
namespace QueryTree

inductive Fault
  | error (e : Error)
  | unknownOperator (text : String)
  | underflow
  | wrongKind
  deriving DecidableEq, Repr

abbrev Stack := List AnyNode

/-- A run that works on a stack and may fail. -/
abbrev Run := StateT Stack (Except Fault)

structure Refinement where
  kind : Kind
  apply : Node kind → Node kind

namespace Refinement

def ofSelect (f : Select → Select) : Refinement := ⟨.selectQuery, fun t => (f (.ofNode t)).toNode⟩

def ofInsert (f : Insert → Insert) : Refinement := ⟨.insertQuery, fun t => (f (.ofNode t)).toNode⟩

def ofUpdate (f : Update → Update) : Refinement := ⟨.updateQuery, fun t => (f (.ofNode t)).toNode⟩

def ofDelete (f : Delete → Delete) : Refinement := ⟨.deleteQuery, fun t => (f (.ofNode t)).toNode⟩

/-- The refinement of a node, if it is of the right kind. -/
def run? (r : Refinement) (t : AnyNode) : Option AnyNode :=
  (t.as? r.kind).map fun u => .any (r.apply u)

end Refinement

namespace Run

def fail {α : Type} (f : Fault) : Run α := fun _ => .error f

def ofExcept {α : Type} (r : Except Error α) : Run α :=
  fun s => match r with
    | .ok x => .ok (x, s)
    | .error e => .error (.error e)

def push (t : AnyNode) : Run Unit := fun s => .ok ((), t :: s)

def pop : Run AnyNode
  | [] => .error .underflow
  | t :: s => .ok (t, s)

/-- Pops the topmost nodes, which come in the order in which they were pushed. -/
def popMany (n : Nat) : Run (List AnyNode) :=
  fun s => if n ≤ s.length then .ok ((s.take n).reverse, s.drop n) else .error .underflow

def expect (k : Kind) (t : AnyNode) : Run (Node k) :=
  match t.as? k with
  | some t => pure t
  | none => fail .wrongKind

def popManyOf (k : Kind) (n : Nat) : Run (List (Node k)) := do
  (← popMany n).mapM (expect k)

/-- Refines the top by the first refinement for its kind. -/
def refine (rs : List Refinement) : Run Unit := do
  let t ← pop
  match rs.findSome? (·.run? t) with
  | some t => push t
  | none => fail .wrongKind

def refineOne (k : Kind) (f : Node k → Node k) : Run Unit := refine [⟨k, f⟩]

def read {α : Type} (reader : Json → Except Defect α) (x : Json) : Run α :=
  ofExcept ((reader x).mapError .malformed)

def readChoice {α : Type} [Named α] : Json → Run α := read (readVariant false)

/-- Reads a choice that may be left out. -/
def readOption {α : Type} [Named α] : Json → Run (Option α) :=
  read (readOptional (readVariant false))

def operator (s : String) : Run Operator :=
  match Operator.parse? s with
  | some o => pure o
  | none => fail (.unknownOperator s)

/-- Pops an operand and pushes what is made of it. -/
def onOne (f : AnyNode → AnyNode) : Run Unit := do push (f (← pop))

/-- Pops operands and pushes what is made of them. -/
def onMany (n : Nat) (f : List AnyNode → AnyNode) : Run Unit := do push (f (← popMany n))

end Run

inductive Instruction
  | node (x : Json)
  | reference (name : String)
  | value (x : Json)
  | raw (sql : String)
  | rawValues (sql : String) (n : Nat)
  | rawParts (fragments : List String) (n : Nat)
  | compare (operator : String)
  | all (n : Nat)
  | any (n : Nat)
  | not
  | hasRows
  | parens
  | unary (operator : Json)
  | call (name : String) (n : Nat)
  | named (name : String)
  | table (name : String)
  | bareTable (name : String)
  | column (name : String)
  | valueList (n : Nat)
  | values (n : Nat)
  | copy
  | swap
  | drop
  | selectTable (name : String)
  | select (n : Nat)
  | insertInto (name : String)
  | deleteFrom (n : Nat)
  | update
  | selections (n : Nat)
  | distinct
  | group (n : Nat)
  | having
  | limit
  | offset
  | filter
  | join (type : Json) (conditional : Bool)
  | order (direction : Json)
  | combine (operator : Json) (all : Bool)
  | commonTable (name : String)
  | declare (n : Nat)
  | columns (names : List String)
  | rows
  | returning (n : Nat)
  | assign (name : String)
  | tables (n : Nat)
  | others (n : Nat)
  | columnDefinition (name type : String)
  | primaryKey
  | notNull
  | defaultTo
  | refer (name : String) (names : List String) (onDelete : Json)
  | unique
  | createTable (name : String)
  | alterTable (name : String)
  | dropTable (name : String)
  | addColumn
  | ifNotExists
  | ifExists
  | renameTo (name : String)
  | moveTo (schema : String)
  | dropColumn (name : String)
  | renameColumn (name new : String)
  | createView (name : String)
  | showing
  | orReplace
  | materialized
  | createIndex (name : String)
  | indexTable (name : String) (names : List String)
  | createType (name : String)
  | oneOf (texts : List String)
  | createSchema (name : String)
  | dropView (name : String)
  | dropIndex (name : String)
  | dropSchema (name : String)
  | dropType (name : String)
  deriving DecidableEq

namespace Instruction

open Run Refinement
open QueryTree.Tree (parseTable tableNamed columnNamed)

def run : Instruction → Run Unit
  | node x => do push (← ofExcept (Tree.ofJson x))
  | reference s => push (Expression.reference s)
  | value x => do push (Expression.value (← read (Value.ofJson false) x))
  | raw sql => push (Expression.raw sql)
  | rawValues sql n => do
    let values ← popManyOf .value n
    push (.any (← ofExcept (Raw.withValues sql values)))
  | rawParts fragments n => do
    let ts ← popMany n
    push (.any (← ofExcept (Raw.ofParts fragments ts)))
  | compare s => do
    let o ← operator s
    let r ← pop
    let l ← pop
    push (Expression.binary l o r)
  | all n => onMany n Expression.all
  | any n => onMany n Expression.any
  | not => onOne Expression.not
  | hasRows => onOne Expression.hasRows
  | parens => onOne Expression.parens
  | unary o => do
    let o ← readChoice o
    onOne (Expression.unary o)
  | call name n => onMany n (Expression.call name)
  | named name => onOne (Expression.named · name)
  | table s => push (.any (parseTable s))
  | bareTable s => push (.any (tableNamed s))
  | column s => push (.any (columnNamed s))
  | valueList n => onMany n fun ts => .any (.valueList (.ofList ts))
  | values n => do push (.any (.values (.ofList (← popManyOf .valueList n))))
  | copy => do
    let t ← pop
    push t
    push t
  | swap => do
    let t ← pop
    let u ← pop
    push t
    push u
  | drop => do
    let _ ← pop
  | selectTable s => push (.any (Select.ofTable s).toNode)
  | select n => onMany n fun ts => .any (Select.ofTables ts).toNode
  | insertInto s => push (.any (Insert.into (parseTable s)).toNode)
  | deleteFrom n => onMany n fun ts => .any (Delete.ofTables ts).toNode
  | update => onOne fun t => .any (Update.ofTarget t).toNode
  | selections n => do
    let ts ← popMany n
    refine [ofSelect (·.select ts)]
  | distinct => refine [ofSelect (·.unique)]
  | group n => do
    let ts ← popMany n
    refine [ofSelect (·.group ts)]
  | having => do
    let t ← pop
    refine [ofSelect (·.restrictGroups t)]
  | limit => do
    let t ← pop
    refine [ofSelect (·.limitTo t)]
  | offset => do
    let t ← pop
    refine [ofSelect (·.skip t)]
  | filter => do
    let t ← pop
    refine [ofSelect (·.restrict t), ofUpdate (·.restrict t), ofDelete (·.restrict t),
      ⟨.createIndex, CreateIndex.restrict t⟩]
  | join type conditional => do
    let type ← readChoice type
    let condition ← if conditional then some <$> pop else pure none
    let j := Clause.join type (← pop) condition
    refine [ofSelect (·.join j), ofUpdate (·.join j), ofDelete (·.join j)]
  | order direction => do
    let t ← pop
    let d ← readOption direction
    refine [ofSelect (·.order t d)]
  | combine o keepsAll => do
    let o ← readChoice o
    let t ← pop
    refine [ofSelect (·.combine o t keepsAll)]
  | commonTable name => onOne fun t => .any (Clause.commonTable name t)
  | declare n => do
    let ts ← popManyOf .commonTable n
    refine [ofSelect (·.declare ts), ofInsert (·.declare ts), ofUpdate (·.declare ts),
      ofDelete (·.declare ts)]
  | columns names => refine [ofInsert (·.setColumns names)]
  | rows => do
    let t ← pop
    refine [ofInsert (·.setRows t)]
  | returning n => do
    let ts ← popMany n
    refine [ofInsert (·.answer ts), ofUpdate (·.answer ts), ofDelete (·.answer ts)]
  | assign name => do
    let t ← pop
    refine [ofUpdate (·.assign name t)]
  | tables n => do
    let ts ← popMany n
    refine [ofUpdate (·.setTables ts)]
  | others n => do
    let ts ← popMany n
    refine [ofDelete (·.setOthers ts)]
  | columnDefinition name type => push (.any (ColumnDefinition.typed name type))
  | primaryKey => refineOne _ ColumnDefinition.primaryKey
  | notNull => refineOne _ ColumnDefinition.notNull
  | defaultTo => do
    let t ← pop
    refineOne _ (ColumnDefinition.defaultTo t)
  | refer name names onDelete => do
    let action ← readOption onDelete
    refineOne _ (ColumnDefinition.refer (foreignKey (parseTable name) names action))
  | unique => refine [⟨_, ColumnDefinition.unique⟩, ⟨_, CreateIndex.unique⟩]
  | createTable s => push (.any (CreateTable.of (parseTable s)))
  | alterTable s => push (.any (AlterTable.of (parseTable s)))
  | dropTable s => push (.any (DropTable.of (parseTable s)))
  | addColumn => do
    let c ← expect .columnDefinition (← pop)
    refine [⟨_, CreateTable.addColumn c⟩, ⟨_, AlterTable.addColumn c⟩]
  | ifNotExists => refineOne _ CreateTable.ifNotExists
  | ifExists => refineOne _ DropTable.ifExists
  | renameTo s => refineOne _ (AlterTable.renameTo (parseTable s))
  | moveTo schema => refineOne _ (AlterTable.moveTo schema)
  | dropColumn name => refineOne _ (AlterTable.dropColumn name)
  | renameColumn name new => refineOne _ (AlterTable.renameColumn name new)
  | createView name => push (.any (CreateView.of name))
  | showing => do
    let t ← pop
    refineOne _ (CreateView.showing t)
  | orReplace => refineOne _ CreateView.orReplace
  | materialized => refineOne _ CreateView.materialized
  | createIndex name => push (.any (CreateIndex.of name))
  | indexTable s names => refineOne _ (CreateIndex.setTable (parseTable s) names)
  | createType name => push (.any (CreateType.of name))
  | oneOf texts => refineOne _ (CreateType.oneOf texts)
  | createSchema name => push (.any (CreateSchema.of name))
  | dropView name => push (.any (QueryTree.dropView name))
  | dropIndex name => push (.any (QueryTree.dropIndex name))
  | dropSchema name => push (.any (QueryTree.dropSchema name))
  | dropType name => push (.any (QueryTree.dropType name))

/-- The stack after an instruction has run a number of times. -/
def repeated (i : Instruction) : Nat → Stack → Except Fault Stack
  | 0, s => .ok s
  | n + 1, s =>
    match i.run s with
    | .ok (_, s) => i.repeated n s
    | .error f => .error f

end Instruction

/-- A step of a script and how often it is taken. -/
structure Step where
  instruction : Instruction
  times : Nat := 1

/-- Runs a script. A step that fails leaves the stack as it was. The answer of a step is its fault,
if it failed, and the stack after it. -/
def runScript : List Step → Stack → List (Option Fault × Stack)
  | [], _ => []
  | p :: ps, s =>
    match p.instruction.repeated p.times s with
    | .ok s => (none, s) :: runScript ps s
    | .error f => (some f, s) :: runScript ps s

namespace Tree

/-- The SQL of a node as it stands among other text, with its values bound. -/
def fragment (d : Dialect) (t : AnyNode) : Output :=
  (Statement.ofRaw (.raw ["", ""] (.ofList [t]))).compile d

end Tree

end QueryTree
