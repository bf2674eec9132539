import QueryTree.Qualification
import QueryTree.Raw

/-!
# Pipelines

A pipeline runs statements through its stages, in order, and compiles what comes out. Stages keep
their state from one statement to the next.
-/
namespace QueryTree

/-- What can happen to a statement before it is compiled. -/
structure Stage where
  name : String
  State : Type
  state : State
  transformer : Transformer State

namespace Stage

def withSchema (schema : String) : Stage :=
  ⟨"with_schema", Scope, Scope.empty, Qualification.transformer schema⟩

/-- Transforms a statement, and gives the stage with its new state. -/
def run (p : Stage) (s : Statement) : Except Error (Option Statement) × Stage :=
  let (r, state) := p.transformer.statement s p.state
  (r, { p with state })

end Stage

/-- A compiled statement, with the statement as the stages left it. -/
structure Compiled where
  query : Statement
  output : Output

/-- Text that is taken as it is, without compiling. -/
def Compiled.verbatim (sql : String) : Compiled := ⟨.ofRaw (Raw.verbatim sql), ⟨sql, #[]⟩⟩

/-- Runs a statement through stages. The result is none if every stage kept it. -/
def runStages : List Stage → Statement → Except Error (Option Statement) × List Stage
  | [], _ => (.ok none, [])
  | p :: ps, s =>
    match p.run s with
    | (.error e, p) => (.error e, p :: ps)
    | (.ok none, p) =>
      let (r, ps) := runStages ps s
      (r, p :: ps)
    | (.ok (some s), p) =>
      let (r, ps) := runStages ps s
      (r.map fun t => some (t.getD s), p :: ps)

structure Pipeline where
  dialect : Dialect
  stages : List Stage

namespace Pipeline

/-- A pipeline that qualifies with each of some schemas. -/
def ofSchemas (d : Dialect) (schemas : List String) : Pipeline :=
  ⟨d, schemas.map Stage.withSchema⟩

def transform (p : Pipeline) (s : Statement) : Except Error (Option Statement) × Pipeline :=
  let (r, stages) := runStages p.stages s
  (r, { p with stages })

def compile (p : Pipeline) (s : Statement) : Except Error Compiled × Pipeline :=
  let (r, p) := p.transform s
  (r.map fun t => ⟨t.getD s, (t.getD s).compile p.dialect⟩, p)

end Pipeline

end QueryTree
