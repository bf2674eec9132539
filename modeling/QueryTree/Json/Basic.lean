import QueryTree.Json.Number

/-!
# JSON values

Values, the items of an array and the members of an object are one family, indexed by which of the
three they are, so that one induction goes through all of them. Members keep their order; a value
read from text has them in ascending order of their keys.
-/
namespace QueryTree

inductive JsonPart
  | value | items | members
  deriving DecidableEq

inductive JsonTree : JsonPart → Type
  | null : JsonTree .value
  | bool (b : Bool) : JsonTree .value
  | number (n : Number) : JsonTree .value
  | string (s : String) : JsonTree .value
  | array (items : JsonTree .items) : JsonTree .value
  | object (members : JsonTree .members) : JsonTree .value
  | nil : JsonTree .items
  | cons (item : JsonTree .value) (rest : JsonTree .items) : JsonTree .items
  | empty : JsonTree .members
  | member (key : String) (value : JsonTree .value) (rest : JsonTree .members) : JsonTree .members
  deriving DecidableEq

abbrev Json := JsonTree .value
abbrev JsonItems := JsonTree .items
abbrev JsonMembers := JsonTree .members

namespace JsonTree

def toItems : List Json → JsonItems
  | [] => .nil
  | x :: xs => .cons x (toItems xs)

def itemList : {p : JsonPart} → JsonTree p → List Json
  | _, .cons x xs => x :: xs.itemList
  | _, _ => []

def toMembers : List (String × Json) → JsonMembers
  | [] => .empty
  | (k, x) :: xs => .member k x (toMembers xs)

def memberList : {p : JsonPart} → JsonTree p → List (String × Json)
  | _, .member k x xs => (k, x) :: xs.memberList
  | _, _ => []

def arrayOf (xs : List Json) : Json := .array (toItems xs)

def objectOf (xs : List (String × Json)) : Json := .object (toMembers xs)

def ofInt (n : Int) : Json := .number (.ofInt n)

/-- The member of an object with a given key; other values have none. -/
def get? (key : String) : Json → Option Json
  | .object ms => ms.memberList.lookup key
  | _ => none

/-- Puts a member where its key belongs in ascending order, in place of one with the same key. -/
def insertMember (key : String) (value : Json) : List (String × Json) → List (String × Json)
  | [] => [(key, value)]
  | (k, x) :: rest =>
    if key < k then (key, value) :: (k, x) :: rest
    else if key = k then (key, value) :: rest
    else (k, x) :: insertMember key value rest

/-- Members in ascending order of their keys; of two with the same key the later one. -/
def sortMembers (ms : List (String × Json)) : List (String × Json) :=
  ms.foldl (fun done (k, x) => insertMember k x done) []

/-- A value with the members of every object in ascending order of their keys. -/
def sorted : {p : JsonPart} → JsonTree p → JsonTree p
  | _, .null => .null
  | _, .bool b => .bool b
  | _, .number n => .number n
  | _, .string s => .string s
  | _, .array items => .array items.sorted
  | _, .object ms => .object (toMembers (sortMembers ms.sorted.memberList))
  | _, .nil => .nil
  | _, .cons x xs => .cons x.sorted xs.sorted
  | _, .empty => .empty
  | _, .member k x rest => .member k x.sorted rest.sorted

@[simp] theorem itemList_toItems (xs : List Json) : (toItems xs).itemList = xs := by
  induction xs with
  | nil => rfl
  | cons x xs ih => simp [toItems, itemList, ih]

@[simp] theorem memberList_toMembers (xs : List (String × Json)) :
    (toMembers xs).memberList = xs := by
  induction xs with
  | nil => rfl
  | cons x xs ih => simp [toMembers, memberList, ih]

end JsonTree

end QueryTree
