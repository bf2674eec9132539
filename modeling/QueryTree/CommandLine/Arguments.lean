import QueryTree.Sql.Dialect

/-!
# Arguments

The arguments of the program are a command with its operands and options. An option is given as a
long name after two hyphens or as a letter after one. Flags take no value; the value of any other
option follows an equals sign, follows the letter, or is the next argument. After two hyphens alone
every argument is an operand. Arguments are read from left to right, so a request for help counts if
it comes before the first mistake.
-/
namespace QueryTree

inductive Format
  | text | json
  deriving DecidableEq, Repr

def Format.ofName? : String → Option Format
  | "text" => some text
  | "json" => some json
  | _ => none

inductive Command
  | compile (file : String) (schema : Option String) (dialect : Option Dialect) (format : Format)
  | raw (sql : String) (format : Format)
  | kinds
  deriving DecidableEq, Repr

/-- What help is about. -/
inductive Topic
  | program | compile | raw | kinds | help
  deriving DecidableEq, Repr

namespace Topic

/-- The names of the topics that are commands. -/
def names : List (String × Topic) :=
  [("compile", compile), ("raw", raw), ("kinds", kinds), ("help", help)]

def ofName? (s : String) : Option Topic := names.lookup s

def capacity : Topic → Nat
  | compile | raw => 1
  | program | kinds | help => 0

end Topic

/-- Why the arguments ask for no command to run. -/
inductive Stop
  | help (topic : Topic)
  | version
  | misuse
  deriving DecidableEq, Repr

inductive Choice
  | verbose | help | version | schema | dialect | format
  deriving DecidableEq, Repr

namespace Choice

def ofLetter? : Char → Option Choice
  | 'v' => some verbose
  | 'h' => some help
  | 'V' => some version
  | 's' => some schema
  | 'd' => some dialect
  | 'f' => some format
  | _ => none

def ofLong? : String → Option Choice
  | "verbose" => some verbose
  | "help" => some help
  | "version" => some version
  | "schema" => some schema
  | "dialect" => some dialect
  | "format" => some format
  | _ => none

def belongs : Choice → Topic → Bool
  | verbose, t | help, t => t != .help
  | version, t => t == .program
  | schema, t | dialect, t => t == .compile
  | format, t => t == .compile || t == .raw

def takesValue : Choice → Bool
  | schema | dialect | format => true
  | verbose | help | version => false

end Choice

structure Given where
  verbose : Bool := false
  schema : Option String := none
  dialect : Option Dialect := none
  format : Option Format := none
  operands : List String := []
  deriving DecidableEq, Repr

namespace Given

/-- Takes a flag. None may be given twice. -/
def flag (g : Given) (t : Topic) : Choice → Except Stop Given
  | .verbose => if g.verbose then .error .misuse else .ok { g with verbose := true }
  | .help => .error (.help t)
  | .version => .error .version
  | _ => .error .misuse

/-- Takes an option with its value. None may be given twice. -/
def option (g : Given) (c : Choice) (s : String) : Except Stop Given :=
  match c with
  | .schema => if g.schema.isSome then .error .misuse else .ok { g with schema := some s }
  | .dialect =>
    match g.dialect, Dialect.parse s with
    | none, .ok d => .ok { g with dialect := some d }
    | _, _ => .error .misuse
  | .format =>
    match g.format, Format.ofName? s with
    | none, some f => .ok { g with format := some f }
    | _, _ => .error .misuse
  | _ => .error .misuse

/-- Takes operands, as far as the topic has room for them. -/
def takeOperands (g : Given) (t : Topic) (xs : List String) : Except Stop Given :=
  if g.operands.length + xs.length ≤ t.capacity then .ok { g with operands := g.operands ++ xs }
  else .error .misuse

/-- Takes letters after a hyphen. The outcome may be an option whose value is still to come. -/
def letters (g : Given) (t : Topic) : List Char → Except Stop (Given × Option Choice)
  | [] => .ok (g, none)
  | l :: ls =>
    match Choice.ofLetter? l with
    | none => .error .misuse
    | some c =>
      if !c.belongs t then .error .misuse
      else if c.takesValue then
        match ls with
        | [] => .ok (g, some c)
        | '=' :: value => do .ok (← g.option c (String.ofList value), none)
        | value => do .ok (← g.option c (String.ofList value), none)
      else do (← g.flag t c).letters t ls

/-- Takes a long option. The outcome may be an option whose value is still to come. -/
def long (g : Given) (t : Topic) (cs : List Char) : Except Stop (Given × Option Choice) :=
  match Choice.ofLong? (String.ofList (cs.takeWhile (· != '='))) with
  | none => .error .misuse
  | some c =>
    if !c.belongs t then .error .misuse
    else
      match cs.dropWhile (· != '='), c.takesValue with
      | [], true => .ok (g, some c)
      | [], false => do .ok (← g.flag t c, none)
      | _ :: value, true => do .ok (← g.option c (String.ofList value), none)
      | _ :: _, false => .error .misuse

/-- Takes arguments. For the program itself this ends before the first operand, which is the name of
a command. -/
def scan (t : Topic) : Given → (pending : Option Choice) → List String →
    Except Stop (Given × List String)
  | g, none, [] => .ok (g, [])
  | _, some _, [] => .error .misuse
  | g, pending, x :: xs =>
    match x.toList, pending with
    | ['-', '-'], none =>
      if t = .program then .error .misuse else do .ok (← g.takeOperands t xs, [])
    | '-' :: '-' :: cs, none => do
      let (g, pending) ← g.long t cs
      scan t g pending xs
    | '-' :: c :: cs, none => do
      let (g, pending) ← g.letters t (c :: cs)
      scan t g pending xs
    | _, none =>
      if t = .program then .ok (g, x :: xs) else do scan t (← g.takeOperands t [x]) none xs
    | '-' :: _ :: _, some _ => .error .misuse
    | _, some c => do scan t (← g.option c x) none xs

/-- The command that has been given, with a schema for the case that no option gives one. -/
def command (g : Given) (fallback : Option String) : Topic → Except Stop Command
  | .compile =>
    match g.operands with
    | [file] => .ok (.compile file (g.schema.or fallback) g.dialect (g.format.getD .text))
    | _ => .error .misuse
  | .raw =>
    match g.operands with
    | [sql] => .ok (.raw sql (g.format.getD .text))
    | _ => .error .misuse
  | .kinds => .ok .kinds
  | .program | .help => .error .misuse

end Given

/-- What a user asks for: a command, and whether to tell more about it. -/
structure Request where
  command : Command
  verbose : Bool
  deriving DecidableEq, Repr

/-- The help that the arguments of the help command ask for. -/
def helpAbout : List String → Stop
  | [] => .help .program
  | [s] =>
    match Topic.ofName? s with
    | some t => .help t
    | none => .misuse
  | _ => .misuse

/-- Reads the arguments. If no option gives the schema, it is the given one, if any. -/
def Request.ofArguments (fallback : Option String) (xs : List String) : Except Stop Request := do
  let (outer, rest) ← Given.scan .program {} none xs
  match rest with
  | [] => .error .misuse
  | s :: xs =>
    match Topic.ofName? s with
    | none => .error .misuse
    | some .help => .error (helpAbout xs)
    | some t => do
      let (inner, _) ← Given.scan t {} none xs
      .ok ⟨← inner.command fallback t, outer.verbose || inner.verbose⟩

end QueryTree
