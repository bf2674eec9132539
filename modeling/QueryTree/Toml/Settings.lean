import QueryTree.Toml.Text

/-!
# Settings in TOML

A document has on each line an assignment, the header of a table or nothing; a line may end with a
comment. It is read as the list of its settings: the texts in it, and the tables and lists that hold
nothing, each with the names on the way to it. Lists that hold something are not read, and neither
are numbers, truth values and dates.
-/
namespace QueryTree.Toml

/-- The names on the way from the document to something in it. -/
abbrev Path := List String

inductive Leaf
  | text (s : String)
  | nothing
  deriving DecidableEq, Repr

structure Setting where
  path : Path
  leaf : Leaf
  deriving DecidableEq, Repr

def isBlank (c : Char) : Bool := c == ' ' || c == '\t'

def skipBlanks (cs : List Char) : List Char := cs.dropWhile isBlank

/-- Passes over a comment, if there is one. -/
def skipComment : List Char → List Char
  | '#' :: rest => rest.dropWhile isPlain
  | cs => cs

def endLine? (cs : List Char) : Option (List Char) :=
  match skipComment (skipBlanks cs) with
  | [] => some []
  | '\n' :: rest => some rest
  | '\r' :: '\n' :: rest => some rest
  | _ => none

def isNameChar (c : Char) : Bool := c.isAlphanum || c == '_' || c == '-'

def name? (cs : List Char) : Reading :=
  match cs.takeWhile isNameChar with
  | [] => line? cs
  | name => some (name, cs.dropWhile isNameChar)

/-- Reads names with dots between them and blanks around them. -/
def path? (cs : List Char) : Option (Path × List Char) :=
  match name? (skipBlanks cs) with
  | none => none
  | some (name, rest) =>
    match _hrest : skipBlanks rest with
    | '.' :: rest =>
      if _h : rest.length < cs.length then
        (path? rest).map fun (names, rest) => (String.ofList name :: names, rest)
      else none
    | rest => some ([String.ofList name], rest)
termination_by cs.length

/-- What follows the bracket that closes a list without members. Blanks, comments and line breaks
may come before it. -/
def closeList? (cs : List Char) : Option (List Char) :=
  match skipBlanks cs with
  | ']' :: rest => some rest
  | _ =>
    match endLine? cs with
    | none => none
    | some rest => if _h : rest.length < cs.length then closeList? rest else none
termination_by cs.length

/-- The settings of what stands at a path. -/
def under (p : Path) (ss : List Setting) : List Setting :=
  ss.map fun s => { s with path := p ++ s.path }

/-- Whether one path goes through the other or is the same. -/
def meets (p q : Path) : Bool := p.isPrefixOf q || q.isPrefixOf p

/-- Reads the settings of a value, or the entries of a table in braces up to the one that closes it.
The first argument bounds the number of calls. -/
def readValue : Nat → (inTable : Bool) → List Char → Option (List Setting × List Char)
  | 0, _, _ => none
  | _ + 1, false, '[' :: rest => (closeList? rest).map fun rest => ([⟨[], .nothing⟩], rest)
  | fuel + 1, false, '\x7b' :: rest =>
    match skipBlanks rest with
    | '\x7d' :: rest => some ([⟨[], .nothing⟩], rest)
    | rest => readValue fuel true rest
  | _ + 1, false, cs => (text? cs).map fun (s, rest) => ([⟨[], .text (String.ofList s)⟩], rest)
  | fuel + 1, true, cs => do
    let (p, rest) ← path? cs
    match rest with
    | '=' :: rest =>
      let (ss, rest) ← readValue fuel false (skipBlanks rest)
      match skipBlanks rest with
      | '\x7d' :: rest => some (under p ss, rest)
      | ',' :: rest =>
        let (others, rest) ← readValue fuel true rest
        if others.any (meets p ·.path) then none else some (under p ss ++ others, rest)
      | _ => none
    | _ => none

inductive Line
  | empty
  | header (p : Path)
  | assignment (p : Path) (ss : List Setting)
  deriving DecidableEq, Repr

/-- Reads the path in the brackets of a header. -/
def header? (cs : List Char) : Option (Path × List Char) := do
  match ← path? cs with
  | (p, ']' :: rest) => some (p, rest)
  | _ => none

def assignment? (cs : List Char) : Option (Line × List Char) := do
  match ← path? cs with
  | (p, '=' :: rest) =>
    let (ss, rest) ← readValue cs.length false (skipBlanks rest)
    some (.assignment p ss, rest)
  | _ => none

/-- Reads a line and gives what follows it. -/
def lineOf? (cs : List Char) : Option (Line × List Char) :=
  match endLine? cs with
  | some rest => some (.empty, rest)
  | none => do
    let (line, rest) ← match skipBlanks cs with
      | '[' :: rest => (header? rest).map fun (p, rest) => (Line.header p, rest)
      | cs => assignment? cs
    some (line, ← endLine? rest)

def lines? : List Char → Option (List Line)
  | [] => some []
  | c :: cs =>
    match lineOf? (c :: cs) with
    | none => none
    | some (line, rest) =>
      if _h : rest.length < (c :: cs).length then (line :: ·) <$> lines? rest else none
termination_by cs => cs.length
decreasing_by assumption

structure Document where
  /-- The path of the header above, or of the whole document. -/
  current : Path := []
  /-- The paths of headers. -/
  headers : List Path := []
  /-- The paths at which values stand. -/
  values : List Path := []
  /-- The paths that names with dots go through. -/
  dotted : List Path := []
  settings : List Setting := []

namespace Document

/-- The paths beyond a start that a path from there goes through. -/
def through (start : Path) (p : Path) : List Path :=
  (List.range (p.length - 1)).map fun n => start ++ p.take (n + 1)

/-- Takes a line. No table has two headers, no value is given twice or extended, and a table that
names with dots go through has no header. -/
def add (d : Document) : Line → Option Document
  | .empty => some d
  | .header p =>
    if d.headers.contains p || d.dotted.contains p || d.values.any (·.isPrefixOf p) then none
    else some { d with current := p, headers := p :: d.headers }
  | .assignment p ss =>
    let path := d.current ++ p
    let dotted := through d.current p
    if d.values.any (meets path) || d.headers.any path.isPrefixOf ||
        dotted.any d.headers.contains then none
    else some { d with
      values := path :: d.values
      dotted := dotted ++ d.dotted
      settings := d.settings ++ under path ss }

/-- The tables with a header under which there is nothing. -/
def emptyTables (d : Document) : List Path :=
  d.headers.filter fun p =>
    !(d.headers.any fun q => p != q && p.isPrefixOf q) && !d.values.any (p.isPrefixOf ·)

def allSettings (d : Document) : List Setting :=
  d.settings ++ d.emptyTables.map (⟨·, .nothing⟩)

end Document

/-- The settings of a document. A byte order mark before it is passed over. -/
def read? (s : String) : Option (List Setting) := do
  let lines ← lines? (match s.toList with
    | '\uFEFF' :: cs => cs
    | cs => cs)
  let d ← lines.foldlM Document.add {}
  some d.allSettings

end QueryTree.Toml
