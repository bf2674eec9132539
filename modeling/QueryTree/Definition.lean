import QueryTree.Tree.Dotted

/-!
# Definitions of schema objects

New and changed tables, views, indexes, schemas and types, and those to drop. Each starts as the
plainest of its kind; what else it says is added one by one.
-/
namespace QueryTree

open QueryTree.Tree (bare columnNamed columnsNamed)

/-- A foreign key that refers to columns of a table. -/
def foreignKey (t : Node .table) (names : List String) (action : Option DeleteAction) :
    Node .references :=
  .references t (columnsNamed names) action

namespace ColumnDefinition

def typed (name type : String) : Node .columnDefinition :=
  .columnDefinition (columnNamed name) (.dataType type) .none false false false .none

def primaryKey : Node .columnDefinition → Node .columnDefinition
  | .columnDefinition c t r _ n u d => .columnDefinition c t r true n u d

def notNull : Node .columnDefinition → Node .columnDefinition
  | .columnDefinition c t r p _ u d => .columnDefinition c t r p true u d

def unique : Node .columnDefinition → Node .columnDefinition
  | .columnDefinition c t r p n _ d => .columnDefinition c t r p n true d

def refer (r : Node .references) : Node .columnDefinition → Node .columnDefinition
  | .columnDefinition c t _ p n u d => .columnDefinition c t (.some r) p n u d

def defaultTo (d : AnyNode) : Node .columnDefinition → Node .columnDefinition
  | .columnDefinition c t r p n u _ => .columnDefinition c t r p n u (.some d)

end ColumnDefinition

namespace AlterTable

def of (t : Node .table) : Node .alterTable := .alterTable t .none .none .nil

def renameTo (new : Node .table) : Node .alterTable → Node .alterTable
  | .alterTable t _ s cs => .alterTable t (.some new) s cs

def moveTo (schema : String) : Node .alterTable → Node .alterTable
  | .alterTable t r _ cs => .alterTable t r (.some (.identifier schema)) cs

def change (c : AnyNode) : Node .alterTable → Node .alterTable
  | .alterTable t r s cs => .alterTable t r s (cs.concat c)

def addColumn (c : Node .columnDefinition) : Node .alterTable → Node .alterTable :=
  change (.any (.addColumn c))

def dropColumn (name : String) : Node .alterTable → Node .alterTable :=
  change (.any (.dropColumn (columnNamed name)))

def renameColumn (name new : String) : Node .alterTable → Node .alterTable :=
  change (.any (.renameColumn (columnNamed name) (columnNamed new)))

end AlterTable

namespace CreateTable

def of (t : Node .table) : Node .createTable := .createTable t false false .nil

def addColumn (c : Node .columnDefinition) : Node .createTable → Node .createTable
  | .createTable t p i cs => .createTable t p i (cs.concat c)

def ifNotExists : Node .createTable → Node .createTable
  | .createTable t p _ cs => .createTable t p true cs

end CreateTable

namespace CreateView

def of (name : String) : Node .createView :=
  .createView (bare name) false false false false .nil .none

def showing (q : AnyNode) : Node .createView → Node .createView
  | .createView n t m r i cs _ => .createView n t m r i cs (.some q)

def orReplace : Node .createView → Node .createView
  | .createView n t m _ i cs q => .createView n t m true i cs q

def materialized : Node .createView → Node .createView
  | .createView n t _ r i cs q => .createView n t true r i cs q

end CreateView

namespace CreateIndex

def of (name : String) : Node .createIndex :=
  .createIndex (.identifier name) .none .nil false false none .none

/-- Gives the table and the columns of the index. -/
def setTable (t : Node .table) (names : List String) : Node .createIndex → Node .createIndex
  | .createIndex n _ _ u i m f =>
    .createIndex n (.some t) (.ofList (names.map fun s => .any (columnNamed s))) u i m f

def unique : Node .createIndex → Node .createIndex
  | .createIndex n t cs _ i m f => .createIndex n t cs true i m f

def restrict (f : AnyNode) : Node .createIndex → Node .createIndex
  | .createIndex n t cs u i m _ => .createIndex n t cs u i m (.some (.whereClause f))

end CreateIndex

namespace CreateSchema

def of (name : String) : Node .createSchema := .createSchema (.identifier name) false

end CreateSchema

namespace CreateType

def of (name : String) : Node .createType := .createType (bare name) .none

/-- Makes the type one of listed texts. -/
def oneOf (texts : List String) : Node .createType → Node .createType
  | .createType n _ =>
    .createType n (.some (.valueList (.ofList (texts.map fun s => .any (.value (.string s))))))

end CreateType

namespace DropTable

def of (t : Node .table) : Node .dropTable := .dropTable t false false

def ifExists : Node .dropTable → Node .dropTable
  | .dropTable t _ c => .dropTable t true c

end DropTable

def dropView (name : String) : Node .dropView := .dropView (bare name) false false false

def dropIndex (name : String) : Node .dropIndex := .dropIndex (bare name) .none false false

def dropSchema (name : String) : Node .dropSchema := .dropSchema (.identifier name) false false

def dropType (name : String) : Node .dropType := .dropType (bare name) false

end QueryTree
