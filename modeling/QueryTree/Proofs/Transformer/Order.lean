import QueryTree.Proofs.Transformer.Run
import QueryTree.Proofs.Tree.Reading
import QueryTree.Query.Select

/-!
# The order of a walk

A tree that is written down has an object for each of its nodes. Read from the first object to the
last, these are the nodes in the order in which a walk goes through their hooks, each of them once
and by the hook of its kind. An object that says its kind stands where any node may; for such a node
the hook for all nodes comes first. All statements are nodes of this sort.
-/
namespace QueryTree

open QueryTree.Transformer (run_node run_some run_cons run_field)

/-- A node of a written tree. -/
structure NodeObject where
  kind : Kind
  /-- Whether the node stands where any may, so that its object says its kind. -/
  tagged : Bool
  /-- The members of the object that are fields of the node. -/
  fields : List (String × Json)

/-- What stands in a place if it is not left empty. -/
def Shape.present : Shape → Shape
  | .optional s => s.present
  | s => s

namespace JsonTree

def withoutTag (ms : JsonMembers) : List (String × Json) :=
  ms.memberList.filter fun m => m.1 != "kind"

def saidKind? (ms : JsonMembers) : Option Kind :=
  match ms.memberList.lookup "kind" with
  | some (.string name) => Kind.ofName? name
  | _ => none

/-- The kind of the node that an object is, in a place of a given shape. -/
def nodeKind? (ms : JsonMembers) : Shape → Option Kind
  | .node k => some k
  | .any => ms.saidKind?
  | _ => none

/-- What is known of a part of JSON before it is read: the shape of the place in which a value or
the items of an array stand, or the fields that an object may have. -/
@[reducible] def Known : JsonPart → Type
  | .value => Shape
  | .items => Shape
  | .members => List Field

/-- The node objects in JSON, from the first to the last: an object comes before those inside it,
and its members in the order in which they are written. -/
def nodeObjects : {p : JsonPart} → JsonTree p → Known p → List NodeObject
  | _, .object ms, shape =>
    match ms.nodeKind? shape.present with
    | some k => ⟨k, shape.present = .any, ms.withoutTag⟩ :: ms.nodeObjects k.fields
    | none => []
  | _, .array items, shape =>
    match shape.present with
    | .many s => items.nodeObjects s
    | _ => []
  | _, .cons x xs, s => x.nodeObjects s ++ xs.nodeObjects s
  | _, .member key x rest, fields =>
    (match fields.find? (·.name == key) with
      | some f => x.nodeObjects f.shape
      | none => []) ++ rest.nodeObjects fields
  | _, .null, _ | _, .bool _, _ | _, .number _, _ | _, .string _, _ | _, .nil, _
  | _, .empty, _ => []

end JsonTree

namespace NodeObject

def json (o : NodeObject) : Json := .objectOf (("kind", .string o.kind.name) :: o.fields)

/-- The hooks that a node goes through: that for all nodes, given as none, if it stands where any
may, and then that of its kind. -/
def hooks (o : NodeObject) : List (Option Kind × Json) :=
  (if o.tagged then [(none, o.json)] else []) ++ [(some o.kind, o.json)]

end NodeObject

namespace Transformer

/-- A call of a hook. -/
inductive Call
  | any (t : AnyNode)
  | node (k : Kind) (t : Node k)

namespace Call

/-- The kind whose hook is called, or none for the hook for all nodes, with the node written
down. -/
def written : Call → Option Kind × Json
  | .any t => (none, t.toJson)
  | .node k t => (some k, (Tree.any t).toJson)

/-- A call of the hook of a kind, with the node written down. -/
def ofKind? (c : Call) : Option (Kind × Json) :=
  match c.written with
  | (some k, x) => some (k, x)
  | (none, _) => none

/-- The statement that is given to the hook for all nodes. -/
def statement? : Call → Option AnyNode
  | .any t => if t.kind.isRoot then some t else none
  | .node _ _ => none

/-- The statement that is given to the hook of its kind. -/
def statementOfKind? : Call → Option AnyNode
  | .any _ => none
  | .node k t => if k.isRoot then some (.any t) else none

end Call

/-- The transformer that records the calls of its hooks and walks on. -/
def recording : Transformer (List Call) where
  onAny t walk := do
    modify (· ++ [.any t])
    walk
  onNode k t walk := do
    modify (· ++ [.node k t])
    walk

end Transformer

def Shape.apartFromStatements : Shape → Bool
  | .node k => !k.isRoot
  | .atom _ | .any => true
  | .optional s | .many s => s.apartFromStatements

def Part.apartFromStatements : Part → Bool
  | .slot s => s.apartFromStatements
  | .fields fs => fs.all fun f => f.shape.apartFromStatements

theorem Kind.apartFromStatements_fields (k : Kind) :
    (Part.fields k.fields).apartFromStatements = true := by
  cases k <;> decide

namespace Tree

open Transformer (Call)

def calls : {p : Part} → Tree p → List Call
  | _, .atom _ => []
  | _, .node k fields => .node k (.node k fields) :: fields.calls
  | _, .any t => .any (.any t) :: t.calls
  | _, .none => []
  | _, .some t => t.calls
  | _, .nil => []
  | _, .cons t ts => t.calls ++ ts.calls
  | _, .done => []
  | _, .field t rest => t.calls ++ rest.calls

theorem run_recording {p : Part} (t : Tree p) (record : List Call) :
    Transformer.recording.run t record = (Option.none, record ++ t.calls) := by
  induction t generalizing record with
  | node k fields ih =>
    show ((Transformer.recording.run fields (record ++ _)).1.map _, _) = _
    rw [ih, List.append_assoc]
    rfl
  | any t ih =>
    show ((Transformer.recording.run t (record ++ _)).1.map _, _) = _
    rw [ih, List.append_assoc]
    rfl
  | some t ih =>
    rw [run_some, ih]
    rfl
  | cons t ts iht ihts =>
    rw [run_cons, iht, ihts, calls, List.append_assoc]
    rfl
  | field t rest iht ihrest =>
    rw [run_field, iht, ihrest, calls, List.append_assoc]
    rfl
  | atom x | none | nil | done =>
    rw [calls, List.append_nil]
    rfl

theorem map_fst_memberList_written : {fs : List Field} → (t : Tree (.fields fs)) →
    t.written.memberList.map Prod.fst = fs.map Field.name
  | _, .done => rfl
  | _, .field (f := f) _ rest => congrArg (f.name :: ·) rest.map_fst_memberList_written

theorem toMembers_memberList_written : {fs : List Field} → (t : Tree (.fields fs)) →
    JsonTree.toMembers t.written.memberList = t.written
  | _, .done => rfl
  | _, .field (f := f) t rest =>
    congrArg (JsonTree.member f.name (close t.written)) rest.toMembers_memberList_written

variable {k : Kind}

theorem withoutTag_written (fields : Tree (.fields k.fields)) :
    fields.written.withoutTag = fields.written.memberList := by
  refine List.filter_eq_self.mpr fun m hm => bne_iff_ne.mpr fun hkind => ?_
  have hname : "kind" ∈ k.fields.map Field.name := by
    rw [← map_fst_memberList_written fields, ← hkind]
    exact List.mem_map_of_mem hm
  exact (List.nodup_cons.mp k.fields_nodup).1 hname

/-- The object of a node, with or without its kind in it. -/
def object (tagged : Bool) (fields : Tree (.fields k.fields)) : NodeObject :=
  ⟨k, tagged, fields.written.memberList⟩

theorem json_object (tagged : Bool) (fields : Tree (.fields k.fields)) :
    (object tagged fields).json = (Tree.any (.node k fields)).toJson := by
  show JsonTree.object (.member "kind" (.string k.name) (.toMembers fields.written.memberList)) = _
  rw [toMembers_memberList_written]
  rfl

theorem nodeObjects_node (fields : Tree (.fields k.fields)) :
    (JsonTree.object fields.written).nodeObjects (.node k) =
      object false fields :: fields.written.nodeObjects k.fields := by
  rw [object, ← withoutTag_written]
  rfl

/-- The kind that is written in an object is the one that is read off it. -/
private theorem nodeObjects_any (fields : Tree (.fields k.fields)) :
    (Tree.any (.node k fields)).toJson.nodeObjects .any =
      object true fields :: fields.written.nodeObjects k.fields := by
  have hkind : (JsonTree.member "kind" (.string k.name) fields.written).nodeKind? .any =
      Option.some k := Kind.ofName?_name k
  have hfind : k.fields.find? (·.name == "kind") = Option.none :=
    List.find?_eq_none.mpr fun f hf hname =>
      (List.nodup_cons.mp k.fields_nodup).1 (eq_of_beq hname ▸ List.mem_map_of_mem hf)
  show JsonTree.nodeObjects (.object (.member "kind" (.string k.name) fields.written)) Shape.any = _
  rw [JsonTree.nodeObjects, show Shape.any.present = .any from rfl, hkind, object,
    ← withoutTag_written]
  dsimp only
  rw [JsonTree.nodeObjects, hfind]
  rfl

private theorem nodeObjects_atom (x : Json) (a : Atom) : x.nodeObjects (.atom a) = [] := by
  cases x <;> rfl

private theorem nodeObjects_optional (x : Json) (s : Shape) :
    x.nodeObjects (.optional s) = x.nodeObjects s := by
  cases x <;> rfl

/-- The hooks for the node objects of a written part are those that are called on a walk of it. For
fields these objects are told among the members of their node. -/
def InWrittenOrder : {p : Part} → Tree p → Prop
  | .slot s, t =>
    ((close t.written).nodeObjects s).flatMap NodeObject.hooks = t.calls.map Call.written
  | .fields fs, t => ∀ all : List Field, (all.map Field.name).Nodup → fs ⊆ all →
    (t.written.nodeObjects all).flatMap NodeObject.hooks = t.calls.map Call.written

theorem inWrittenOrder {p : Part} (t : Tree p) : t.InWrittenOrder := by
  induction t with
  | atom x =>
    rw [InWrittenOrder, nodeObjects_atom]
    rfl
  | node k fields ih =>
    have hfields := ih k.fields (List.nodup_cons.mp k.fields_nodup).2 (List.Subset.refl _)
    show ((JsonTree.object fields.written).nodeObjects (.node k)).flatMap _ = _
    rw [nodeObjects_node, List.flatMap_cons, hfields, NodeObject.hooks, json_object]
    rfl
  | @any k t ih =>
    match t with
    | .node k fields =>
      -- The object is that of the node in a place of its own kind, but for the kind in it.
      have hnode : ((JsonTree.object fields.written).nodeObjects (.node k)).flatMap _ = _ := ih
      rw [nodeObjects_node, List.flatMap_cons, NodeObject.hooks, json_object] at hnode
      show ((Tree.any (.node k fields)).toJson.nodeObjects .any).flatMap _ = _
      rw [nodeObjects_any, List.flatMap_cons, NodeObject.hooks, json_object]
      exact congrArg ((Option.none, (Tree.any (.node k fields)).toJson) :: ·) hnode
  | none => rfl
  | some t ih =>
    show (JsonTree.nodeObjects (close t.written) _).flatMap _ = _
    rw [nodeObjects_optional]
    exact ih
  | nil => rfl
  | cons t ts iht ihts =>
    show ((close t.written).nodeObjects _ ++ ts.written.nodeObjects _).flatMap _ = _
    rw [List.flatMap_append, calls, List.map_append]
    exact congrArg₂ (· ++ ·) iht ihts
  | done => exact fun _ _ _ => rfl
  | @field f fs t rest iht ihrest =>
    intro all hall hsub
    have hfind : all.find? (·.name == f.name) = Option.some f :=
      Field.find?_name hall (hsub List.mem_cons_self)
    show (JsonTree.nodeObjects (JsonTree.member f.name _ _) all).flatMap _ = _
    rw [JsonTree.nodeObjects, hfind, List.flatMap_append, calls, List.map_append,
      ihrest all hall fun g hg => hsub (List.mem_cons_of_mem _ hg)]
    exact congrArg (· ++ _) iht

theorem statements_calls : {p : Part} → (t : Tree p) → p.apartFromStatements = true →
    t.calls.filterMap Call.statement? = t.calls.filterMap Call.statementOfKind?
  | _, .atom _, _ => rfl
  | _, .node k fields, h => by
    have hk : k.isRoot = false := Bool.not_eq_true' _ ▸ h
    have ih := statements_calls fields k.apartFromStatements_fields
    simp [calls, List.filterMap_cons, Call.statement?, Call.statementOfKind?, hk, ih]
  | _, .any (.node k fields), _ => by
    have ih := statements_calls fields k.apartFromStatements_fields
    by_cases hk : k.isRoot <;>
      simp [calls, List.filterMap_cons, Call.statement?, Call.statementOfKind?, Tree.kind, hk, ih]
  | _, .none, _ => rfl
  | _, .some t, h => statements_calls t h
  | _, .nil, _ => rfl
  | _, .cons t ts, h => by
    rw [calls, List.filterMap_append, List.filterMap_append, statements_calls t h,
      statements_calls ts h]
  | _, .done, _ => rfl
  | _, .field t rest, h => by
    obtain ⟨ht, hrest⟩ := Bool.and_eq_true_iff.mp h
    rw [calls, List.filterMap_append, List.filterMap_append, statements_calls t ht,
      statements_calls rest hrest]

end Tree

namespace Transformer

private theorem filterMap_ofKind?_calls (objects : List NodeObject) {calls : List Call}
    (h : objects.flatMap NodeObject.hooks = calls.map Call.written) :
    calls.filterMap Call.ofKind? = objects.map fun o => (o.kind, o.json) := by
  let ofKind : Option Kind × Json → Option (Kind × Json) := fun x => x.1.map (·, x.2)
  have hone (o : NodeObject) : o.hooks.filterMap ofKind = [(o.kind, o.json)] := by
    obtain ⟨k, tagged, fields⟩ := o
    cases tagged <;> rfl
  calc calls.filterMap Call.ofKind?
    _ = (calls.map Call.written).filterMap ofKind := by
      rw [List.filterMap_map]
      congr 1
      funext c
      cases c <;> rfl
    _ = objects.flatMap fun o => o.hooks.filterMap ofKind := by rw [← h, List.filterMap_flatMap]
    _ = objects.map fun o => (o.kind, o.json) := by
      rw [funext hone]
      exact List.map_eq_flatMap.symm

/-- The statements that are given to the hooks of their kinds are told by the calls of these
hooks. -/
theorem map_toJson_statementOfKind? (calls : List Call) :
    (calls.filterMap Call.statementOfKind?).map Tree.toJson =
      ((calls.filterMap Call.ofKind?).filter fun x => x.1.isRoot).map Prod.snd := by
  rw [List.map_filterMap, List.filter_filterMap, List.map_filterMap]
  congr 1
  funext c
  cases c with
  | any t => rfl
  | node k t =>
    cases hk : k.isRoot <;>
      simp [Call.statementOfKind?, Call.ofKind?, Call.written, Option.filter, hk]

/-- A walk that only records the hooks it goes through records those of the node objects of the
written tree, in the order in which they are written. Each node goes once through the hook of its
kind, and if it stands where any node may, which holds of the first node, it goes through the hook
for all nodes just before. The statements in the tree are all of the latter sort, so each of them
goes once through the hook for all nodes. -/
theorem recording_in_written_order (t : AnyNode) :
    let calls := (recording.run t []).2
    let objects := t.toJson.nodeObjects .any
    calls.map Call.written = objects.flatMap NodeObject.hooks ∧
    calls.filterMap Call.ofKind? = objects.map (fun o => (o.kind, o.json)) ∧
    (calls.filterMap Call.statement?).map Tree.toJson =
      (objects.filter fun o => o.kind.isRoot).map NodeObject.json := by
  have hcalls : (recording.run t []).2 = t.calls := congrArg Prod.snd (t.run_recording [])
  dsimp only
  rw [hcalls]
  have horder : (t.toJson.nodeObjects .any).flatMap NodeObject.hooks = t.calls.map Call.written :=
    t.inWrittenOrder
  have hkinds := filterMap_ofKind?_calls _ horder
  refine ⟨horder.symm, hkinds, ?_⟩
  rw [t.statements_calls rfl, map_toJson_statementOfKind?, hkinds, List.filter_map, List.map_map]
  rfl

end Transformer

/-- The node objects of a selection from one table. -/
example : ((Tree.toJson (.any (Select.toNode { tables := .some (.fromClause (.cons (.any (.table
    (.schemableIdentifier .none (.identifier "t")))) .nil)) }))).nodeObjects .any).map
      (fun o => (o.kind, o.tagged)) =
    [(.selectQuery, true), (.fromClause, false), (.table, true), (.schemableIdentifier, false),
      (.identifier, false)] := by
  decide

end QueryTree
