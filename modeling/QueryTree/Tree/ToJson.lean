import QueryTree.Node

/-!
# Trees written as JSON

A node becomes an object with a member for each of its fields, in order. Where a node of any kind
may stand, its kind comes first, as the member `kind`; where the kind is fixed, it is left out.
Everything is written, also what could be left out.
-/
namespace QueryTree.Tree

/-- What of a JSON value a part of a tree becomes. -/
@[reducible] def jsonPart : Part → JsonPart
  | .slot (.node _) => .members
  | .slot (.many _) => .items
  | .slot _ => .value
  | .fields _ => .members

def close : {p : JsonPart} → JsonTree p → Json
  | .value, x => x
  | .items, xs => .array xs
  | .members, ms => .object ms

/-- The name of a choice that may be left open. -/
def choiceJson {α : Type} [Named α] : Option α → Json
  | Option.none => .null
  | Option.some x => .string (Named.name x)

def atomJson : (a : Atom) → a.Carrier → Json
  | .text, s => .string s
  | .texts, ss => .arrayOf (ss.map .string)
  | .optionalText, s => match s with
    | Option.none => .null
    | Option.some s => .string s
  | .flag, b => .bool b
  | .value, v => v.toJson
  | .operator, o => .string (Named.name o)
  | .joinType, j => .string (Named.name j)
  | .direction, d => choiceJson d
  | .setOperator, o => .string (Named.name o)
  | .deleteAction, a => choiceJson a

def written : {p : Part} → Tree p → JsonTree (jsonPart p)
  | _, .atom (a := a) x => atomJson a x
  | _, .node _ fields => fields.written
  | _, .any (k := k) t => .object (.member "kind" (.string k.name) t.written)
  | _, .none => .null
  | _, .some t => close t.written
  | _, .nil => .nil
  | _, .cons t ts => .cons (close t.written) ts.written
  | _, .done => .empty
  | _, .field (f := f) t rest => .member f.name (close t.written) rest.written

def toJson (t : AnyNode) : Json := t.written

/-- A node as text, one member a line. -/
def toText (t : AnyNode) : String := t.toJson.indentedText

end QueryTree.Tree
