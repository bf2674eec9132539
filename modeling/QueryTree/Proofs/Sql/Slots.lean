import QueryTree.Proofs.Tree.Values
import QueryTree.Sql.Layout

/-!
# Slots

A slot is a value in SQL with the place in which it stands. The rule for each kind of node keeps the
slots of its fields and their order, and puts each field in a place that depends on nothing but the
kind and the place of the node. So the slots in the SQL of a tree can be told from the tree. Two
rules ask for more: raw text loses parameters that its fragments do not surround, and a column
definition writes its default before its foreign key.
-/
namespace QueryTree

/-- The place that a node sets for what stands in a field. Statements and raw text have it nested,
positions that delimit have it bare, and the rest set no place. -/
@[simp] def Kind.setsPlace : Kind → String → Option Place
  | .selectQuery, _ | .updateQuery, _ | .deleteQuery, _ | .raw, _ => some .nested
  | .insertQuery, field => if field = "values" then some .bare else some .nested
  | .parens, _ => some .bare
  | .setOperation, field | .commonTable, field =>
    if field = "expression" then some .bare else none
  | .createView, field => if field = "as_query" then some .bare else none
  | _, _ => none

/-- The place of what stands in a field, for a node in a given place. -/
@[simp] def Kind.place (k : Kind) (field : String) (p : Place) : Place := (k.setsPlace field).getD p

/-- A value in a given place. -/
abbrev PlacedValue := Place × Value

def Piece.value? : Piece → Option Value
  | .value v => some v
  | .word _ | .verbatim _ | .name _ => none

/-- The slot that a piece in a given place is, if it is one. -/
def Piece.slot? (x : Place × Piece) : Option PlacedValue := x.2.value?.map (x.1, ·)

namespace Sql

/-- The pieces of SQL, each with the place that is in force where it stands. -/
def placedPieces : Sql → Place → List (Place × Piece)
  | empty, _ => []
  | piece x, p => [(p, x)]
  | append a b, p => a.placedPieces p ++ b.placedPieces p
  | placed q a, _ => a.placedPieces q
  | statement body, .bare => body.placedPieces .nested
  | statement body, .nested =>
    (.nested, .word "(") :: (body.placedPieces .nested ++ [(.nested, .word ")")])

/-- The slots of SQL in a given place, from left to right. -/
def slots (a : Sql) (p : Place) : List PlacedValue := (a.placedPieces p).filterMap Piece.slot?

variable (a b : Sql) (s : String) (flag : Bool) (p q : Place)

theorem map_snd_placedPieces : (a.placedPieces p).map Prod.snd = a.pieces p := by
  induction a generalizing p with
  | empty => rfl
  | piece x => rfl
  | append a b iha ihb =>
    rw [show Sql.append a b = a ++ b from rfl, pieces_append, ← iha, ← ihb]
    exact List.map_append
  | placed q a ih => exact ih q
  | statement body ih =>
    cases p with
    | bare => exact ih .nested
    | nested => simp [placedPieces, ih .nested]

theorem filterMap_value?_pieces :
    (a.pieces p).filterMap Piece.value? = (a.slots p).map Prod.snd := by
  rw [← map_snd_placedPieces, slots, List.filterMap_map, List.map_filterMap]
  congr 1
  funext x
  show x.2.value? = (x.2.value?.map (x.1, ·)).map Prod.snd
  cases x.2.value? <;> rfl

@[simp] theorem slots_empty : empty.slots p = [] := rfl

@[simp] theorem slots_append : (a ++ b).slots p = a.slots p ++ b.slots p := List.filterMap_append

@[simp] theorem slots_value (v : Value) : (piece (.value v)).slots p = [(p, v)] := rfl

@[simp] theorem slots_word : (word s).slots p = [] := rfl

@[simp] theorem slots_verbatim : (verbatim s).slots p = [] := rfl

@[simp] theorem slots_name : (name s).slots p = [] := rfl

@[simp] theorem slots_placed : (placed q a).slots p = a.slots q := rfl

@[simp] theorem slots_statement : (statement a).slots p = a.slots .nested := by
  cases p with
  | bare => rfl
  | nested =>
    show List.filterMap Piece.slot? (a.placedPieces .nested ++ [(.nested, .word ")")]) = _
    rw [List.filterMap_append]
    exact List.append_nil _

@[simp] theorem slots_when : (when flag s).slots p = [] := by
  cases flag <;> rfl

@[simp] theorem slots_parens : (parens a).slots p = a.slots p := by simp [parens]

@[simp] theorem slots_led (x : Option Sql) : (led s x).slots p = x.toList.flatMap (slots · p) := by
  cases x <;> simp [led]

variable (as : List Sql)

@[simp] theorem slots_eachLed : (eachLed s as).slots p = as.flatMap (slots · p) := by
  induction as with
  | nil => rfl
  | cons a as ih => simp [eachLed, ih]

@[simp] theorem slots_commas : (commas as).slots p = as.flatMap (slots · p) := by
  cases as <;> simp [commas]

@[simp] theorem slots_ledParens : (ledParens s as).slots p = as.flatMap (slots · p) := by
  cases as <;> simp [ledParens]

@[simp] theorem slots_tableList : (tableList as).slots p = as.flatMap (slots · p) := by
  simp [tableList]

@[simp] theorem slots_object (n : ObjectName) : (object n).slots p = [] := by
  cases h : n.schema <;> simp [object, h]

@[simp] theorem slots_ctesBefore (x : Option Sql) :
    (ctesBefore x).slots p = x.toList.flatMap (slots · p) := by
  cases x <;> simp [ctesBefore]

@[simp] theorem slots_ifExists : (ifExists flag).slots p = [] := slots_when _ flag p

@[simp] theorem slots_ifNotExists : (ifNotExists flag).slots p = [] := slots_when _ flag p

@[simp] theorem slots_cascade : (cascade flag).slots p = [] := slots_when _ flag p

private theorem slots_interleave {fragments : List String} {parameters : List Sql}
    (h : fragments.length = parameters.length + 1) :
    (interleave fragments parameters).slots p = parameters.flatMap (slots · p) := by
  induction parameters generalizing fragments with
  | nil =>
    obtain ⟨s, rfl⟩ := List.length_eq_one_iff.mp h
    rfl
  | cons a as ih =>
    cases fragments with
    | nil => cases h
    | cons s ss => simp [interleave, ih (Nat.succ.inj h)]

@[simp] theorem flatMap_slots_toList {α : Type} (f : α → Sql) (x : Option α) :
    (x.map f).toList.flatMap (slots · p) = x.toList.flatMap fun a => (f a).slots p := by
  cases x <;> simp

end Sql

/-- The slots in what a node is to the node around it. -/
@[simp] def Form.slots : (f : Form) → f.Carrier → Place → List PlacedValue
  | .name, _, _ => []
  | .text, _, _ => []
  | .object, _, _ => []
  | .operator, _, _ => []
  | .tables, as, p => as.flatMap (Sql.slots · p)
  | .sql, a, p => a.slots p

theorem Form.slots_toSql (f : Form) (x : f.Carrier) (p : Place) :
    (f.toSql x).slots p = f.slots x p := by
  cases f <;> simp [Form.toSql]

@[simp] def SlotLayout.slots : (s : Shape) → SlotLayout s → Place → List PlacedValue
  | .atom a, x, p => (Tree.atomValues a x).map (p, ·)
  | .node k, l, p => k.form.slots l p
  | .any, a, p => Sql.slots a p
  | .optional s, x, p => x.toList.flatMap (slots s · p)
  | .many s, xs, p => xs.flatMap (slots s · p)

/-- The slots of fields, each of which has a place of its own. -/
@[simp] def FieldLayouts.slots : (fs : List Field) → FieldLayouts fs → (String → Place) →
    List PlacedValue
  | [], _, _ => []
  | f :: fs, (x, rest), placeOf =>
    SlotLayout.slots f.shape x (placeOf f.name) ++ slots fs rest placeOf

/-- What makes a rule write the slots of the fields in the order of the fields. -/
def InOrder : (k : Kind) → FieldLayouts k.fields → Prop
  | .raw, (fragments, parameters, _) => fragments.length = parameters.length + 1
  | .columnDefinition, (_, _, references, _) =>
    ∀ p, references.toList.flatMap (Sql.slots · p) = []
  | _, _ => True

theorem slots_layout (k : Kind) (l : FieldLayouts k.fields) (h : InOrder k l) (p : Place) :
    k.form.slots (layout k l) p = FieldLayouts.slots k.fields l (k.place · p) := by
  have nothing {α : Type} (xs : List α) : xs.flatMap (fun _ => ([] : List PlacedValue)) = [] := by
    simp
  cases k
  -- Rules that tell apart whether something is there are taken in both cases.
  case reference =>
    obtain ⟨_ | table, column, _⟩ := l <;> simp [layout]
  case raw =>
    have hlen : l.1.length = l.2.1.length + 1 := h
    simp [layout, Tree.atomValues, Sql.slots_interleave _ hlen]
  case orderByItem =>
    obtain ⟨node, _ | direction, _⟩ := l <;> simp [layout, Tree.atomValues]
  case commonTableName =>
    obtain ⟨table, _ | ⟨column, columns⟩, _⟩ := l <;> simp [layout, List.flatMap_map, nothing]
  case selectQuery =>
    obtain ⟨ctes, distinct, _ | ⟨selection, selections⟩, _⟩ := l <;> simp [layout, Tree.atomValues]
  case insertQuery =>
    obtain ⟨ctes, target, columns, _ | values, returning, _⟩ := l <;>
      simp [layout, List.flatMap_map, nothing]
  case updateQuery =>
    obtain ⟨ctes, table, _ | ⟨update, updates⟩, _⟩ := l <;> simp [layout]
  case columnDefinition =>
    have hrefs : ∀ p, List.flatMap (Sql.slots · p) (Option.toList l.2.2.1) = [] := h
    simp [layout, Tree.atomValues, hrefs]
  case references =>
    obtain ⟨table, columns, _ | action, _⟩ := l <;>
      simp [layout, Tree.atomValues, List.flatMap_map, nothing]
  case alterTable =>
    obtain ⟨table, renameTo, schema, _ | ⟨alteration, alterations⟩, _⟩ := l <;>
      simp [layout, nothing]
  all_goals simp [layout, Tree.atomValues, List.flatMap_map, nothing]

/-- Where a part of a tree stands: a slot in one place, each of several fields in its own. -/
@[reducible] def Part.Places : Part → Type
  | .slot _ => Place
  | .fields _ => String → Place

def PartLayout.slots : (p : Part) → PartLayout p → p.Places → List PlacedValue
  | .slot s => SlotLayout.slots s
  | .fields fs => FieldLayouts.slots fs

namespace Tree

def slots : {p : Part} → Tree p → p.Places → List PlacedValue
  | _, .atom (a := a) x, q => (atomValues a x).map (q, ·)
  | _, .node k fields, q => fields.slots (k.place · q)
  | _, .any t, q => t.slots q
  | _, .none, _ => []
  | _, .some t, q => t.slots q
  | _, .nil, _ => []
  | _, .cons t ts, q => t.slots q ++ ts.slots q
  | _, .done, _ => []
  | _, .field (f := f) t rest, placeOf => t.slots (placeOf f.name) ++ rest.slots placeOf

/-- The slots of a tree hold its values. -/
theorem map_snd_slots {p : Part} (t : Tree p) (q : p.Places) :
    (t.slots q).map Prod.snd = t.allValues := by
  induction t with
  | atom x => exact (List.map_map ..).trans (List.map_id _)
  | node k fields ih => exact ih _
  | any t ih => exact ih q
  | none => rfl
  | some t ih => exact ih q
  | nil => rfl
  | cons t ts iht ihts => rw [slots, List.map_append, iht, ihts, allValues]
  | done => rfl
  | field t rest iht ihrest => rw [slots, List.map_append, iht, ihrest, allValues]

theorem length_view {s : Shape} : (ts : Slot (.many s)) →
    List.length (α := SlotLayout s) ts.view = ts.toList.length
  | .nil => rfl
  | .cons _ ts => congrArg (· + 1) (length_view ts)

private theorem slots_references (p : Place) : (x : Optional .references) →
    (Option.toList x.view).flatMap (Sql.slots · p) = []
  | .none => rfl
  | .some (.node _ fields) => by
    have h := slots_layout .references fields.view trivial p
    have hfields : FieldLayouts.slots Kind.references.fields fields.view
        (Kind.references.place · p) = [] := by
      simp [Tree.atomValues]
    simpa [view] using h.trans hfields

theorem inOrder_view {k : Kind} (fields : Tree (.fields k.fields)) (h : NodeFits k fields) :
    InOrder k fields.view := by
  cases k
  case raw =>
    match fields with
    | .field (.atom fragments) (.field parameters .done) =>
      exact h.trans (congrArg (· + 1) (length_view parameters).symm)
  case columnDefinition =>
    match fields with
    | .field _ (.field _ (.field refs _)) => exact fun p => slots_references p refs
  all_goals trivial

/-- The slots in the SQL of a tree are the slots of the tree. -/
theorem slots_view {p : Part} (t : Tree p) (h : t.RawFits) (q : p.Places) :
    PartLayout.slots p t.view q = t.slots q := by
  induction t with
  | atom x => rfl
  | node k fields ih => exact (slots_layout k _ (inOrder_view fields h.1) q).trans (ih h.2 _)
  | @any k t ih => exact (Form.slots_toSql k.form _ q).trans (ih h q)
  | none => rfl
  | some t ih => exact (List.append_nil _).trans (ih h q)
  | nil => rfl
  | cons t ts iht ihts =>
    rw [slots, ← iht h.1, ← ihts h.2]
    rfl
  | done => rfl
  | field t rest iht ihrest =>
    rw [slots, ← iht h.1, ← ihrest h.2]
    rfl

theorem filterMap_value?_pieces (t : AnyNode) (h : t.RawFits) (p : Place) :
    (t.pieces p).filterMap Piece.value? = t.allValues :=
  calc (t.pieces p).filterMap Piece.value?
    _ = (Sql.slots t.view p).map Prod.snd := Sql.filterMap_value?_pieces t.view p
    _ = (t.slots p).map Prod.snd := congrArg _ (slots_view t h p)
    _ = t.allValues := t.map_snd_slots p

end Tree

end QueryTree
