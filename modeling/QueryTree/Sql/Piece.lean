import QueryTree.Value

/-!
# Pieces of SQL

SQL is laid out as a row of pieces before a dialect is chosen: words of the language, names, text
that the tree supplies as it is, and slots for values. A statement is written in parentheses unless
the place where it stands delimits it, so what is laid out depends on that place.
-/
namespace QueryTree

inductive Piece
  /-- Words and signs of SQL. -/
  | word (text : String)
  /-- Text taken from the tree as it is. -/
  | verbatim (text : String)
  | name (text : String)
  | value (v : Value)
  deriving DecidableEq

/-- Where a node stands: in a place that delimits a statement by itself, or inside other text. -/
inductive Place
  | bare | nested
  deriving DecidableEq, Repr

inductive Sql
  | empty
  | piece (x : Piece)
  | append (a b : Sql)
  /-- SQL that is laid out for one place wherever it stands. -/
  | placed (p : Place) (a : Sql)
  /-- A statement: inside other text it stands in parentheses, and what it holds is inside it. -/
  | statement (body : Sql)
  deriving DecidableEq

namespace Sql

instance : Append Sql := ⟨append⟩

def word (s : String) : Sql := piece (.word s)
def verbatim (s : String) : Sql := piece (.verbatim s)
def name (s : String) : Sql := piece (.name s)

/-- Words that are written only if a flag is set. -/
def when (flag : Bool) (s : String) : Sql := if flag then word s else empty

def led (lead : String) : Option Sql → Sql
  | none => empty
  | some a => word lead ++ a

/-- A list, every member of which is led by the same words. -/
def eachLed (lead : String) : List Sql → Sql
  | [] => empty
  | a :: as => word lead ++ a ++ eachLed lead as

def commas : List Sql → Sql
  | [] => empty
  | a :: as => a ++ eachLed ", " as

def parens (a : Sql) : Sql := word "(" ++ a ++ word ")"

/-- A list in parentheses, led by words, that is left out if it has no members. -/
def ledParens (lead : String) : List Sql → Sql
  | [] => empty
  | as => word lead ++ parens (commas as)

/-- The pieces in a given place, with more pieces after them. -/
def piecesOnto : Sql → Place → List Piece → List Piece
  | empty, _, rest => rest
  | piece x, _, rest => x :: rest
  | append a b, p, rest => a.piecesOnto p (b.piecesOnto p rest)
  | placed q a, _, rest => a.piecesOnto q rest
  | statement body, .bare, rest => body.piecesOnto .nested rest
  | statement body, .nested, rest => .word "(" :: body.piecesOnto .nested (.word ")" :: rest)

def pieces (a : Sql) (p : Place) : List Piece := a.piecesOnto p []

theorem piecesOnto_eq (a : Sql) (p : Place) (rest : List Piece) :
    a.piecesOnto p rest = a.pieces p ++ rest := by
  unfold pieces
  induction a generalizing p rest with
  | empty => rfl
  | piece x => rfl
  | append a b iha ihb => simp [piecesOnto, ihb p rest, iha p (_ ++ _), iha p (b.piecesOnto p [])]
  | placed q a ih => exact ih q rest
  | statement body ih =>
    cases p
    · exact ih .nested rest
    · simp [piecesOnto, ih .nested (.word ")" :: _)]

@[simp] theorem pieces_append (a b : Sql) (p : Place) :
    (a ++ b).pieces p = a.pieces p ++ b.pieces p :=
  piecesOnto_eq a p (b.pieces p)

@[simp] theorem pieces_empty (p : Place) : empty.pieces p = [] := rfl

@[simp] theorem pieces_piece (x : Piece) (p : Place) : (piece x).pieces p = [x] := rfl

@[simp] theorem pieces_placed (q : Place) (a : Sql) (p : Place) :
    (placed q a).pieces p = a.pieces q := rfl

@[simp] theorem pieces_statement_bare (body : Sql) :
    (statement body).pieces .bare = body.pieces .nested := rfl

@[simp] theorem pieces_statement_nested (body : Sql) :
    (statement body).pieces .nested = .word "(" :: (body.pieces .nested ++ [.word ")"]) :=
  congrArg (Piece.word "(" :: ·) (piecesOnto_eq body .nested [.word ")"])

end Sql

end QueryTree
