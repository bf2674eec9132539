import QueryTree.CommandLine.Help
import QueryTree.Config
import QueryTree.Tree.OfJson
import QueryTree.Tree.ToJson

/-!
# Sessions

A session runs the program once. It sees its surroundings only through a record of actions, so it
can be run on a system or on a description of one.
-/
namespace QueryTree

inductive ReadFault
  | missing | denied | notDirectory | isDirectory | nameTooLong | notText
  | other (reason : String)
  deriving DecidableEq, Repr

namespace ReadFault

def message : ReadFault → String
  | missing => "No such file or directory (os error 2)"
  | denied => "Permission denied (os error 13)"
  | notDirectory => "Not a directory (os error 20)"
  | isDirectory => "Is a directory (os error 21)"
  | nameTooLong => "File name too long (os error 36)"
  | notText => "stream did not contain valid UTF-8"
  | other reason => reason

def isAbsent : ReadFault → Bool
  | missing | notDirectory | nameTooLong => true
  | _ => false

end ReadFault

/-- What a session can do with its surroundings. -/
structure Surroundings (m : Type → Type) where
  /-- The value of an environment variable. -/
  environment : String → m (Option String)
  /-- All input. -/
  input : m (Except ReadFault String)
  /-- The contents of a file. -/
  contents : String → m (Except ReadFault String)
  /-- A new identifier for a query. -/
  newId : m String

structure Outcome where
  status : Nat
  output : String
  complaint : String
  deriving DecidableEq, Repr

inductive Failure
  | config (e : Error)
  | read (file : String) (f : ReadFault)
  | load (file : String) (e : Error)
  | compile (e : Error)
  deriving DecidableEq, Repr

namespace Failure

/-- An error followed by its cause, if it has one. -/
def withCause : Error → String
  | .malformed d => (Error.malformed d).message ++ ": " ++ d.message
  | .unreadable reason => (Error.unreadable reason).message ++ ": " ++ reason
  | e => e.message

def message : Failure → String
  | config e => "Failed to load config: " ++ withCause e
  | read file f => "Failed to read " ++ file ++ ": " ++ f.message
  | load file e => "Failed to load tree from " ++ file ++ ": " ++ withCause e
  | compile e => withCause e

end Failure

namespace Compiled

def json (c : Compiled) (id : String) : String :=
  (JsonTree.objectOf
    [("query", c.query.toNode.toJson), ("query_id", .string id), ("sql", .string c.output.sql),
     ("parameters", .arrayOf (c.output.parameters.toList.map Value.toJson))]).indentedText ++ "\n"

def parameterLines : List Value → Nat → List String
  | [], _ => []
  | v :: vs, n => ("  " ++ toString n ++ " = " ++ v.literal) :: parameterLines vs (n + 1)

/-- All about a compiled statement, for a reader. -/
def text (c : Compiled) (id : String) : String :=
  let parameters := match c.output.parameters.toList with
    | [] => []
    | vs => ["", "Parameters:"] ++ parameterLines vs 1
  lines (["Generated SQL:", c.output.sql] ++ parameters ++ ["", "Query id: " ++ id])

def shown (c : Compiled) (id : String) : Format → String
  | .text => c.text id
  | .json => c.json id

end Compiled

def kindLine (k : Kind) : String := if k.isRoot then k.name ++ " (root)" else k.name

namespace Surroundings

variable {m : Type → Type} [Monad m] (S : Surroundings m)

/-- Where the configuration can be: here, or in the directory for configurations, which
an environment variable gives or which is in the home directory. -/
def configFiles : m (List String) := do
  let files (directory : String) : List String :=
    ["sqlnode.toml", directory ++ "/sqlnode/config.toml"]
  match ← S.environment "XDG_CONFIG_HOME" with
  | some directory => if directory.startsWith "/" then return files directory
  | none => pure ()
  match ← S.environment "HOME" with
  | some home => return files (home ++ "/.config")
  | none => return ["sqlnode.toml"]

/-- The configuration in the first file that there is. -/
def firstConfig : List String → m (Except Error Config)
  | [] => pure (.ok {})
  | file :: files => do
    match ← S.contents file with
    | .ok s => pure (Config.ofToml s)
    | .error f => if f.isAbsent then firstConfig files else pure (.error (.unreadable f.message))

/-- The text of a file, or the input in place of a file with a hyphen as its name. -/
def textOf (file : String) : m (Except Failure String) := do
  if file = "-" then return (← S.input).mapError (.read "stdin")
  else return (← S.contents file).mapError (.read file)

/-- The compiled statement in a file, with what is told about it. -/
def compileFile (file : String) (schema : Option String) (dialect : Option Dialect) :
    m (Except Failure (Compiled × String)) := do
  match ← S.firstConfig (← S.configFiles) with
  | .error e => pure (.error (.config e))
  | .ok found =>
    let config : Config := ⟨dialect.getD found.dialect, schema.or found.schema⟩
    match ← S.textOf file with
    | .error f => pure (.error f)
    | .ok s =>
      match Tree.ofText s with
      | .error e => pure (.error (.load file e))
      | .ok t =>
        match Statement.ofNode t with
        | .error e => pure (.error (.compile e))
        | .ok s =>
          match ((Pipeline.ofConfig config).compile s).1 with
          | .error e => pure (.error (.compile e))
          | .ok c =>
            pure (.ok (c, "Compiling: " ++ s.kind.name ++ " (" ++ config.dialect.name ++ ")\n"))

def perform (r : Request) : m Outcome := do
  match r.command with
  | .compile file schema dialect format =>
    match ← S.compileFile file schema dialect with
    | .error f => pure ⟨1, "", "Error: " ++ f.message ++ "\n"⟩
    | .ok (c, told) => pure ⟨0, c.shown (← S.newId) format, if r.verbose then told else ""⟩
  | .raw sql format => pure ⟨0, (Compiled.verbatim sql).shown (← S.newId) format, ""⟩
  | .kinds => pure ⟨0, lines (Kind.all.map kindLine), ""⟩

def session (arguments : List String) : m Outcome := do
  let schema ← S.environment "SQLNODE_SCHEMA"
  match Request.ofArguments schema arguments with
  | .ok r => S.perform r
  | .error (.help t) => pure ⟨0, t.helpText schema, ""⟩
  | .error .version => pure ⟨0, versionText, ""⟩
  | .error .misuse => pure ⟨2, "", Topic.program.helpText schema⟩

end Surroundings

end QueryTree
