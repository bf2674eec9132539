import QueryTree.Pipeline
import QueryTree.Toml.Settings

/-!
# Configuration

A configuration gives the dialect and may give the schema of a pipeline. It is written as settings
`dialect` and `schema`. The dialect is given by its name, or by a table in which nothing stands
under its name.
-/
namespace QueryTree

structure Config where
  dialect : Dialect := .postgres
  schema : Option String := none
  deriving DecidableEq, Repr

namespace Config

open Toml (Setting)

def dialectNamed? : String → Option Dialect
  | "postgres" => some .postgres
  | "sqlite" => some .sqlite
  | _ => none

def dialectOf? : Setting → Option Dialect
  | ⟨["dialect"], .text s⟩ => dialectNamed? s
  | ⟨["dialect", s], .nothing⟩ => dialectNamed? s
  | _ => none

def schemaOf? : Setting → Option String
  | ⟨["schema"], .text s⟩ => some s
  | _ => none

/-- The configuration of some settings, each of which gives a part of it that no other gives. -/
def ofSettings? (ss : List Setting) : Option Config := do
  let (forSchema, forDialect) := ss.partition fun s => s.path == ["schema"]
  let schema ← match forSchema with
    | [] => some none
    | [s] => (schemaOf? s).map some
    | _ => none
  let dialect ← match forDialect with
    | [] => some .postgres
    | [s] => dialectOf? s
    | _ => none
  some ⟨dialect, schema⟩

/-- The configuration that a text holds. -/
def ofToml (s : String) : Except Error Config :=
  match (Toml.read? s).bind ofSettings? with
  | some c => .ok c
  | none => .error .badConfig

end Config

def Pipeline.ofConfig (c : Config) : Pipeline := Pipeline.ofSchemas c.dialect c.schema.toList

end QueryTree
