import QueryTree.Error
import QueryTree.Json.Reader
import QueryTree.Tree.ToJson

/-!
# Trees read from JSON

A value is a tree if every kind it names is known and if what it holds fits the grammar. Unknown
kinds are looked for first, through the whole value. Fields may come in any order and others among
them are passed over; instead of an object a node may also be an array of its fields in order, led
by its kind where the kind is not fixed.
-/
namespace QueryTree

/-- The first `kind` that names none, objects before what they hold. What a runtime value holds is
not looked at. -/
def JsonTree.foreignKind? : {p : JsonPart} → JsonTree p → Option String
  | _, .object ms =>
    match ms.memberList.lookup "kind" with
    | none => ms.foreignKind?
    | some (.string s) =>
      match Kind.ofName? s with
      | none => some s
      | some .value => none
      | some _ => ms.foreignKind?
    | some x => some (compactText x)
  | _, .array xs => xs.foreignKind?
  | _, .cons x xs =>
    match x.foreignKind? with
    | some s => some s
    | none => xs.foreignKind?
  | _, .member _ x rest =>
    match x.foreignKind? with
    | some s => some s
    | none => rest.foreignKind?
  | _, _ => none

/-- Whether nothing is under the name of a choice: null, and inside a tree also an empty object. -/
def isNothing (insideTree : Bool) (x : Json) : Bool :=
  x = .null || (insideTree && x = .object .empty)

/-- A choice from a closed list: its name, or an object with its name as the only key and nothing
under it. -/
def readVariant {α : Type} [Named α] (insideTree : Bool) (x : Json) : Except Defect α :=
  let named (s : String) : Except Defect α :=
    match Named.find? s with
    | some x => .ok x
    | none => .error (.unknownVariant s)
  match x with
  | .string s => named s
  | .object (.member s x .empty) =>
    match named s with
    | .ok y => if isNothing insideTree x then .ok y else .error .unfit
    | .error e => .error e
  | _ => .error .unfit

def readOptional {α : Type} (read : Json → Except Defect α) : Json → Except Defect (Option α)
  | .null => .ok none
  | x => some <$> read x

def readText : Json → Except Defect String
  | .string s => .ok s
  | _ => .error .unfit

namespace Value

def variants : List String :=
  ["Null", "Bool", "Int", "Float", "String", "Bytes", "Uuid", "Timestamp", "Json"]

def byte? : Json → Option UInt8
  | .number (.int n) => if 0 ≤ n.val ∧ n.val < 256 then some (UInt8.ofNat n.val.toNat) else none
  | _ => none

def payload? : String → Json → Option Value
  | "Bool", .bool b => some (.bool b)
  | "Int", .number (.int n) =>
    if n.val < 9223372036854775808 then some (.int (Int64.ofInt n.val)) else none
  | "Float", .number n => some (.float n.toBinary64)
  | "String", .string s => some (.string s)
  | "Bytes", .array xs => (xs.itemList.mapM byte?).map .bytes
  | "Uuid", .string s => (Uuid.read? s).map .uuid
  | "Timestamp", .string s => (Timestamp.read? s).map .timestamp
  | "Json", x => some (.json x)
  | _, _ => none

/-- A runtime value from the way it is written. -/
def ofJson (insideTree : Bool) : Json → Except Defect Value
  | .string s =>
    if s = "Null" then .ok .null
    else if s ∈ variants then .error .unfit
    else .error (.unknownVariant s)
  | .object (.member s x .empty) =>
    if s = "Null" then
      if isNothing insideTree x then .ok .null else .error .unfit
    else if s ∈ variants then
      match payload? s x with
      | some v => .ok v
      | none => .error .unfit
    else .error (.unknownVariant s)
  | _ => .error .unfit

end Value

def readAtom : (a : Atom) → Json → Except Defect a.Carrier
  | .text, x => readText x
  | .texts, .array xs => xs.itemList.mapM readText
  | .texts, _ => .error .unfit
  | .optionalText, x => readOptional readText x
  | .flag, .bool b => .ok b
  | .flag, _ => .error .unfit
  | .value, x => Value.ofJson true x
  | .operator, x => readVariant true x
  | .joinType, x => readVariant true x
  | .direction, x => readOptional (readVariant true) x
  | .setOperator, x => readVariant true x
  | .deleteAction, x => readOptional (readVariant true) x

/-- What is in a field that is left out. -/
def Field.absent (f : Field) : Except Defect (Slot f.shape) :=
  if f.mandatory then .error (.missingField f.name)
  else match f.shape with
    | .optional _ => .ok .none
    | .many _ => .ok .nil
    | .atom .flag => .ok (.atom false)
    | .atom .optionalText => .ok (.atom (none : Option String))
    | .atom .direction => .ok (.atom (none : Option Direction))
    | .atom .deleteAction => .ok (.atom (none : Option DeleteAction))
    | _ => .error (.missingField f.name)

/-- A way to read a JSON value as what stands in a field of a given shape. -/
abbrev Reader := (s : Shape) → Except Defect (Slot s)

/-- A JSON value inside another, and the way to read it. -/
structure Child where
  json : Json
  read : Reader

/-- A field with what was read for it. -/
structure Entry where
  field : Field
  content : Slot field.shape

namespace Entry

def lookup? (f : Field) : List Entry → Option (Slot f.shape)
  | [] => none
  | ⟨g, t⟩ :: rest => if h : g = f then some (h ▸ t) else lookup? f rest

/-- Reads the members that are fields, in the order of the members. -/
def readAll (fs : List Field) : List (String × Child) → Except Defect (List Entry)
  | [] => .ok []
  | (key, child) :: rest =>
    match fs.find? fun f => f.name == key with
    | none => readAll fs rest
    | some f => do
      let t ← child.read f.shape
      let entries ← readAll fs rest
      .ok (⟨f, t⟩ :: entries)

end Entry

namespace Tree

/-- The fields in order, from what was read for them. -/
def ofEntries (entries : List Entry) : (fs : List Field) → Except Defect (Tree (.fields fs))
  | [] => .ok .done
  | f :: fs => do
    let t ← match Entry.lookup? f entries with
      | Option.some t => .ok t
      | Option.none => f.absent
    let rest ← ofEntries entries fs
    .ok (.field t rest)

/-- The fields in order, from the items of an array; at its end fields may be left out. -/
def ofItems : (fs : List Field) → List Child → Except Defect (Tree (.fields fs))
  | [], [] => .ok .done
  | [], _ :: _ => .error .unfit
  | f :: fs, [] => do
    let t ← if f.mandatory then .error .unfit else f.absent
    let rest ← ofItems fs []
    .ok (.field t rest)
  | f :: fs, c :: cs => do
    let t ← c.read f.shape
    let rest ← ofItems fs cs
    .ok (.field t rest)

/-- A node with given fields. Raw text has one fragment more than it has parameters. -/
def ofFields : (k : Kind) → Tree (.fields k.fields) → Except Defect (Node k)
  | .raw, .field (.atom fragments) (.field parameters .done) =>
    let count := parameters.toList.length
    if fragments.length = count + 1 then .ok (.raw fragments parameters)
    else .error (.rawArity fragments.length count)
  | k, fields => .ok (.node k fields)

/-- A node of a fixed kind, from the items of an array or the members of an object. -/
def readNode (k : Kind) (x : Json) (items : List Child) (members : List (String × Child)) :
    Except Defect (Node k) :=
  match x with
  | .array _ => ofItems k.fields items >>= ofFields k
  | .object _ => do
    let entries ← Entry.readAll k.fields members
    let fields ← ofEntries entries k.fields
    ofFields k fields
  | _ => .error .unfit

/-- The kind that a tag names, or to which it is the index in the list of all kinds. -/
def readKind : Json → Except Defect Kind
  | .string s =>
    match Kind.ofName? s with
    | Option.some k => .ok k
    | Option.none => .error (.unknownVariant s)
  | .number (.int n) =>
    match if 0 ≤ n.val then Kind.all[n.val.toNat]? else Option.none with
    | Option.some k => .ok k
    | Option.none => .error .unfit
  | _ => .error .unfit

def readTagged (x : Json) (items : List Child) (members : List (String × Child)) :
    Except Defect AnyNode :=
  match x, items with
  | .array _, [] => .error (.missingField "kind")
  | .array xs, tag :: items => do
    let k ← readKind tag.json
    let t ← readNode k (.array xs) items []
    .ok (.any t)
  | .object ms, _ =>
    match ms.memberList.lookup "kind" with
    | Option.none => .error (.missingField "kind")
    | Option.some tag => do
      let k ← readKind tag
      let t ← readNode k (.object ms) [] members
      .ok (.any t)
  | _, _ => .error .unfit

/-- Reads a list of places of one shape. -/
def readMany (s : Shape) : List Child → Except Defect (Slot (.many s))
  | [] => .ok .nil
  | c :: cs => do
    let t ← c.read s
    let ts ← readMany s cs
    .ok (.cons t ts)

/-- Reads a value as what stands in a field, given its items and members. -/
def readSlot (x : Json) (items : List Child) (members : List (String × Child)) :
    (s : Shape) → Except Defect (Slot s)
  | .atom a => Tree.atom <$> readAtom a x
  | .node k => readNode k x items members
  | .any => readTagged x items members
  | .optional s =>
    match x with
    | .null => .ok .none
    | _ => Tree.some <$> readSlot x items members s
  | .many s =>
    match x with
    | .array _ => readMany s items
    | _ => .error .unfit

end Tree

namespace JsonTree

/-- The ways to read a value, the items of an array and the members of an object. -/
@[reducible] def Readings : JsonPart → Type
  | .value => Reader
  | .items => List Child
  | .members => List (String × Child)

def readings : {p : JsonPart} → JsonTree p → Readings p
  | _, .null => Tree.readSlot .null [] []
  | _, .bool b => Tree.readSlot (.bool b) [] []
  | _, .number n => Tree.readSlot (.number n) [] []
  | _, .string s => Tree.readSlot (.string s) [] []
  | _, .array xs => Tree.readSlot (.array xs) xs.readings []
  | _, .object ms => Tree.readSlot (.object ms) [] ms.readings
  | _, .nil => []
  | _, .cons x xs => ⟨x, x.readings⟩ :: xs.readings
  | _, .empty => []
  | _, .member k x rest => (k, ⟨x, x.readings⟩) :: rest.readings

end JsonTree

namespace Tree

/-- The node that a value with known kinds only is; as a whole it must name its kind. -/
def ofKnownJson (x : Json) : Except Defect AnyNode :=
  match x with
  | .array (.cons (.number _) _) => .error .unfit
  | x => x.readings .any

def ofJson (x : Json) : Except Error AnyNode :=
  match x.foreignKind? with
  | Option.some tag => .error (.unknownKind tag)
  | Option.none => (ofKnownJson x).mapError .malformed

def ofText (s : String) : Except Error AnyNode :=
  match JsonTree.read? JsonTree.maxDepth s with
  | Option.some x => ofJson x
  | Option.none => .error (.malformed .unfit)

end Tree

end QueryTree
