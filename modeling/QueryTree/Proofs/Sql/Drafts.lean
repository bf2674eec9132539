import QueryTree.Sql.Layout

/-!
# Drafts

How SQL depends on the schemas of the names in it. A draft is a list of pieces in which the names of
objects that have no schema of their own are left open; a choice of schemas for these names completes
it. SQL that is given for every choice is drafted if it comes from one draft. Every way to put SQL
together keeps this, and so do the rules for the kinds of node, since none of them looks at a schema
other than to write it down.
-/
namespace QueryTree

/-- A schema, or none, for the names that have none of their own. It may depend on the name and on a
mark of the place where the name stands. -/
abbrev SchemaChoice := String → Bool → Option String

/-- A piece of SQL, or the name of an object with the mark of its place. -/
inductive Draft
  | piece (x : Piece)
  | object (name : String) (mark : Bool)

def Draft.pieces (c : SchemaChoice) : Draft → List Piece
  | .piece x => [x]
  | .object n mark => (Sql.object ⟨c n mark, n⟩).pieces .bare

/-- Whatever schemas are chosen, the SQL comes from one draft. -/
def Drafted (a : SchemaChoice → Sql) : Prop :=
  ∀ p, ∃ draft : List Draft, ∀ c, (a c).pieces p = draft.flatMap (Draft.pieces c)

inductive Fixed {α : Type} : (SchemaChoice → α) → Prop
  | mk (x : α) : Fixed fun _ => x

/-- Names of objects: one with a schema of its own or none for good, or one that is left open. -/
inductive DraftedName : (SchemaChoice → ObjectName) → Prop
  | fixed (n : ObjectName) : DraftedName fun _ => n
  | chosen (n : String) (mark : Bool) : DraftedName fun c => ⟨c n mark, n⟩

inductive DraftedList {α : Type} (P : (SchemaChoice → α) → Prop) : (SchemaChoice → List α) → Prop
  | nil : DraftedList P fun _ => []
  | cons {x xs} : P x → DraftedList P xs → DraftedList P fun c => x c :: xs c

inductive DraftedOption {α : Type} (P : (SchemaChoice → α) → Prop) :
    (SchemaChoice → Option α) → Prop
  | none : DraftedOption P fun _ => none
  | some {x} : P x → DraftedOption P fun c => some (x c)

theorem DraftedList.of_fixed {α : Type} {P : (SchemaChoice → α) → Prop} (h : ∀ x, P fun _ => x) :
    (xs : List α) → DraftedList P fun _ => xs
  | [] => .nil
  | x :: xs => .cons (h x) (of_fixed h xs)

namespace DraftedOption

variable {α β : Type} {P : (SchemaChoice → α) → Prop} {Q : (SchemaChoice → β) → Prop}
  {x : SchemaChoice → Option α}

theorem fixed (h : DraftedOption Fixed x) : Fixed x := by
  cases h with
  | none => exact ⟨Option.none⟩
  | some h =>
    obtain ⟨x⟩ := h
    exact ⟨Option.some x⟩

theorem map {g : α → β} (hg : ∀ y, P y → Q fun c => g (y c)) (h : DraftedOption P x) :
    DraftedOption Q fun c => (x c).map g := by
  cases h with
  | none => exact .none
  | some h => exact .some (hg _ h)

end DraftedOption

namespace Drafted

variable {a b : SchemaChoice → Sql} {as : SchemaChoice → List Sql} {x : SchemaChoice → Option Sql}
  {n : SchemaChoice → ObjectName}

theorem fixed (a : Sql) : Drafted fun _ => a := fun p =>
  ⟨(a.pieces p).map .piece, fun c => by simp [List.flatMap_map, Draft.pieces]⟩

theorem append (ha : Drafted a) (hb : Drafted b) : Drafted fun c => a c ++ b c := fun p => by
  obtain ⟨first, ha⟩ := ha p
  obtain ⟨second, hb⟩ := hb p
  exact ⟨first ++ second, fun c => by rw [Sql.pieces_append, ha, hb, List.flatMap_append]⟩

theorem placed (q : Place) (ha : Drafted a) : Drafted fun c => .placed q (a c) := fun _ => ha q

theorem parens (ha : Drafted a) : Drafted fun c => .parens (a c) :=
  ((fixed (.word "(")).append ha).append (fixed (.word ")"))

theorem statement (ha : Drafted a) : Drafted fun c => .statement (a c)
  | .bare => ha .nested
  | .nested => by
    obtain ⟨draft, h⟩ := ha.parens .nested
    refine ⟨draft, fun c => ?_⟩
    rw [← h, Sql.pieces_statement_nested]
    simp [Sql.parens, Sql.word]

theorem object (hn : DraftedName n) : Drafted fun c => Sql.object (n c) := by
  cases hn with
  | fixed n => exact fixed _
  | chosen n mark =>
    refine fun p => ⟨[.object n mark], fun c => ?_⟩
    show (Sql.object ⟨c n mark, n⟩).pieces p = (Sql.object ⟨c n mark, n⟩).pieces .bare ++ []
    cases c n mark <;> rfl

theorem led (lead : String) (hx : DraftedOption Drafted x) :
    Drafted fun c => Sql.led lead (x c) := by
  cases hx with
  | none => exact fixed _
  | some hx => exact (fixed _).append hx

theorem ctesBefore (hx : DraftedOption Drafted x) :
    Drafted fun c => QueryTree.ctesBefore (x c) := by
  cases hx with
  | none => exact fixed _
  | some hx => exact hx.append (fixed _)

theorem eachLed (lead : String) (has : DraftedList Drafted as) :
    Drafted fun c => Sql.eachLed lead (as c) := by
  induction has with
  | nil => exact fixed _
  | cons ha _ ih => exact ((fixed _).append ha).append ih

theorem commas (has : DraftedList Drafted as) : Drafted fun c => Sql.commas (as c) := by
  cases has with
  | nil => exact fixed _
  | cons ha has => exact ha.append (eachLed _ has)

theorem ledParens (lead : String) (has : DraftedList Drafted as) :
    Drafted fun c => Sql.ledParens lead (as c) := by
  cases has with
  | nil => exact fixed _
  | cons ha has => exact (fixed _).append (parens (commas (.cons ha has)))

theorem tableList (has : DraftedList Drafted as) : Drafted fun c => QueryTree.tableList (as c) :=
  (fixed _).append (commas has)

theorem interleave (fragments : List String) (has : DraftedList Drafted as) :
    Drafted fun c => QueryTree.interleave fragments (as c) := by
  induction fragments generalizing as with
  | nil => exact fixed _
  | cons s ss ih =>
    cases has with
    | nil => exact (fixed _).append (ih .nil)
    | cons ha has => exact ((fixed _).append ha).append (ih has)

/-- A rule may tell apart whether a list has members. -/
theorem ite_isEmpty {α : Type} {P : (SchemaChoice → α) → Prop} {xs : SchemaChoice → List α}
    (hxs : DraftedList P xs) (ha : Drafted a) (hb : Drafted b) :
    Drafted fun c => if (xs c).isEmpty then a c else b c := by
  cases hxs with
  | nil => exact ha
  | cons _ _ => exact hb

end Drafted

@[reducible] def Form.Drafted : (fm : Form) → (SchemaChoice → fm.Carrier) → Prop
  | .name, x => Fixed x
  | .text, x => Fixed x
  | .object, x => DraftedName x
  | .operator, x => Fixed x
  | .tables, x => DraftedList QueryTree.Drafted x
  | .sql, x => QueryTree.Drafted x

theorem Form.drafted_toSql (fm : Form) {x : SchemaChoice → fm.Carrier} (h : fm.Drafted x) :
    QueryTree.Drafted fun c => fm.toSql (x c) := by
  cases fm with
  | name | text | operator =>
    obtain ⟨x⟩ := h
    exact .fixed _
  | object => exact .object h
  | tables => exact .tableList h
  | sql => exact h

@[reducible] def SlotDrafted : (s : Shape) → (SchemaChoice → SlotLayout s) → Prop
  | .atom _, x => Fixed x
  | .node k, x => k.form.Drafted x
  | .any, x => Drafted x
  | .optional s, x => DraftedOption (SlotDrafted s) x
  | .many s, x => DraftedList (SlotDrafted s) x

inductive FieldsDrafted : (fs : List Field) → (SchemaChoice → FieldLayouts fs) → Prop
  | nil : FieldsDrafted [] fun _ => ()
  | cons {f fs y z} : SlotDrafted f.shape y → FieldsDrafted fs z →
      FieldsDrafted (f :: fs) fun c => (y c, z c)

theorem FieldsDrafted.rest {f : Field} {fs : List Field}
    {x : SchemaChoice → FieldLayouts (f :: fs)} (h : FieldsDrafted (f :: fs) x) :
    FieldsDrafted fs fun c => (x c).2 := by
  cases h with
  | cons _ h => exact h

theorem DraftedList.map_fixed {α : Type} {g : α → Sql} {xs : SchemaChoice → List α}
    (h : DraftedList Fixed xs) : DraftedList Drafted fun c => (xs c).map g := by
  induction h with
  | nil => exact .nil
  | cons hx _ ih =>
    obtain ⟨x⟩ := hx
    exact .cons (.fixed _) ih

namespace DraftedOption

theorem map_fixed {α : Type} {g : α → Sql} {x : SchemaChoice → Option α}
    (h : DraftedOption Fixed x) : DraftedOption Drafted fun c => (x c).map g :=
  h.map fun _ ⟨_⟩ => .fixed _

theorem map_object {x : SchemaChoice → Option ObjectName} (h : DraftedOption DraftedName x) :
    DraftedOption Drafted fun c => (x c).map Sql.object :=
  h.map fun _ => .object

private theorem map_bare {x : SchemaChoice → Option ObjectName} (h : DraftedOption DraftedName x) :
    DraftedOption Drafted fun c => (x c).map fun n => Sql.name n.bare :=
  h.map fun
    | _, .fixed n => .fixed (Sql.name n.bare)
    | _, .chosen n _ => .fixed (Sql.name n)

private theorem map_placed {q : Place} {x : SchemaChoice → Option Sql}
    (h : DraftedOption Drafted x) : DraftedOption Drafted fun c => (x c).map (Sql.placed q) :=
  h.map fun _ => .placed q

variable {x : SchemaChoice → Option (List Sql)}

private theorem map_commas (h : DraftedOption (DraftedList Drafted) x) :
    DraftedOption Drafted fun c => (x c).map Sql.commas :=
  h.map fun _ => .commas

theorem map_tableList (h : DraftedOption (DraftedList Drafted) x) :
    DraftedOption Drafted fun c => (x c).map tableList :=
  h.map fun _ => .tableList

end DraftedOption

open Drafted in
/-- Every rule keeps what is drafted. A row for each kind of node follows the rule piece by piece. -/
theorem layout_drafted : (k : Kind) → {l : SchemaChoice → FieldLayouts k.fields} →
    FieldsDrafted k.fields l → k.form.Drafted fun c => layout k (l c)
  | .identifier, _, .cons ⟨s⟩ .nil => ⟨s⟩
  | .schemableIdentifier, _, .cons schema (.cons ⟨n⟩ .nil) =>
    match DraftedOption.fixed schema with
    | ⟨schema⟩ => .fixed ⟨schema, n⟩
  | .table, _, .cons name .nil => name
  | .column, _, .cons name .nil => name
  | .reference, _, .cons .none (.cons column .nil) => (fixed _).append column
  | .reference, _, .cons (.some table) (.cons column .nil) =>
    (object table).append (fixed _) |>.append column
  | .selectAll, _, .nil => fixed _
  | .aliased, _, .cons node (.cons ⟨_⟩ .nil) => node.append (fixed _) |>.append (fixed _)
  | .raw, _, .cons ⟨fragments⟩ (.cons parameters .nil) =>
    (Drafted.interleave fragments parameters).placed _
  | .value, _, .cons ⟨_⟩ .nil => fixed _
  | .valueList, _, .cons values .nil => (commas values).parens
  | .values, _, .cons rows .nil => (fixed _).append (commas rows)
  | .operator, _, .cons ⟨o⟩ .nil => ⟨o⟩
  | .binaryOperation, _, .cons left (.cons ⟨_⟩ (.cons right .nil)) =>
    left.append (fixed _) |>.append (fixed _) |>.append (fixed _) |>.append right
  | .unaryOperation, _, .cons ⟨_⟩ (.cons operand .nil) => (fixed _).append operand
  | .and, _, .cons left (.cons right .nil) => left.append (fixed _) |>.append right
  | .or, _, .cons left (.cons right .nil) => left.append (fixed _) |>.append right
  | .parens, _, .cons node .nil => (node.placed _).parens
  | .function, _, .cons ⟨_⟩ (.cons arguments (.cons ⟨_⟩ .nil)) =>
    (fixed _).append ((fixed _).append (commas arguments)).parens
  | .selection, _, .cons node .nil => node
  | .fromClause, _, .cons tables .nil => tables
  | .join, _, .cons ⟨_⟩ (.cons table (.cons on .nil)) => (fixed _).append table |>.append (led _ on)
  | .onClause, _, .cons condition .nil => (fixed _).append condition
  | .whereClause, _, .cons condition .nil => (fixed _).append condition
  | .groupBy, _, .cons items .nil => (fixed _).append (commas items)
  | .having, _, .cons condition .nil => (fixed _).append condition
  | .orderBy, _, .cons items .nil => (fixed _).append (commas items)
  | .orderByItem, _, .cons node (.cons ⟨_⟩ .nil) => node.append (fixed _)
  | .limit, _, .cons node .nil => (fixed _).append node
  | .offset, _, .cons node .nil => (fixed _).append node
  | .returning, _, .cons selections .nil => (fixed _).append (commas selections)
  | .columnUpdate, _, .cons ⟨_⟩ (.cons value .nil) => (fixed _).append value
  | .setOperation, _, .cons ⟨_⟩ (.cons expression (.cons ⟨_⟩ .nil)) =>
    (fixed _).append (expression.placed _)
  | .withClause, _, .cons ⟨_⟩ (.cons tables .nil) => (fixed _).append (commas tables)
  | .commonTable, _, .cons name (.cons expression .nil) =>
    name.append (fixed _) |>.append (expression.placed _).parens
  | .commonTableName, _, .cons table (.cons columns .nil) =>
    (object table).append (ite_isEmpty columns (fixed _) (commas columns.map_fixed).parens)
  | .selectQuery, _, .cons ctes (.cons ⟨_⟩ (.cons selections (.cons tables (.cons joins (.cons filter
      (.cons groupBy (.cons having (.cons orderBy (.cons limit (.cons offset
      (.cons setOperations .nil))))))))))) =>
    statement <| (Drafted.ctesBefore ctes).append (fixed _) |>.append (fixed _)
      |>.append (ite_isEmpty selections (fixed _) (commas selections))
      |>.append (led _ tables.map_tableList) |>.append (eachLed _ joins) |>.append (led _ filter)
      |>.append (led _ groupBy) |>.append (led _ having) |>.append (led _ orderBy)
      |>.append (led _ limit) |>.append (led _ offset) |>.append (eachLed _ setOperations)
  | .insertQuery, _, .cons ctes (.cons target (.cons columns (.cons .none
      (.cons returning .nil)))) =>
    statement <| (Drafted.ctesBefore ctes).append (fixed _) |>.append (object target)
      |>.append (ledParens _ columns.map_fixed) |>.append (fixed _) |>.append (led _ returning)
  | .insertQuery, _, .cons ctes (.cons target (.cons columns (.cons (.some values)
      (.cons returning .nil)))) =>
    statement <| (Drafted.ctesBefore ctes).append (fixed _) |>.append (object target)
      |>.append (ledParens _ columns.map_fixed) |>.append ((fixed _).append (values.placed _))
      |>.append (led _ returning)
  | .updateQuery, _, .cons ctes (.cons table (.cons updates (.cons tables (.cons joins (.cons filter
      (.cons returning .nil)))))) =>
    statement <| (Drafted.ctesBefore ctes).append (fixed _) |>.append table
      |>.append (ite_isEmpty updates (fixed _) ((fixed _).append (commas updates)))
      |>.append (led _ tables.map_tableList) |>.append (eachLed _ joins) |>.append (led _ filter)
      |>.append (led _ returning)
  | .deleteQuery, _, .cons ctes (.cons tables (.cons others (.cons joins (.cons filter
      (.cons returning .nil))))) =>
    statement <| (Drafted.ctesBefore ctes).append (fixed _) |>.append (Drafted.tableList tables)
      |>.append (led _ others.map_commas) |>.append (eachLed _ joins) |>.append (led _ filter)
      |>.append (led _ returning)
  | .dataType, _, .cons ⟨s⟩ .nil => ⟨s⟩
  | .columnDefinition, _, .cons ⟨_⟩ (.cons ⟨_⟩ (.cons references (.cons ⟨_⟩ (.cons ⟨_⟩ (.cons ⟨_⟩
      (.cons default .nil)))))) =>
    (fixed _).append (led _ default) |>.append (led _ references)
  | .references, _, .cons table (.cons columns (.cons ⟨_⟩ .nil)) =>
    (fixed _).append (object table) |>.append (ledParens _ columns.map_fixed) |>.append (fixed _)
  | .addColumn, _, .cons column .nil => (fixed _).append column
  | .dropColumn, _, .cons ⟨_⟩ .nil => fixed _
  | .renameColumn, _, .cons ⟨_⟩ (.cons ⟨_⟩ .nil) => fixed _
  | .alterTable, _, .cons table (.cons renameTo (.cons schema (.cons alterations .nil))) =>
    (fixed _).append (object table) |>.append (led _ renameTo.map_bare)
      |>.append (led _ schema.map_fixed)
      |>.append (ite_isEmpty alterations (fixed _) ((fixed _).append (commas alterations)))
  | .createTable, _, .cons table (.cons ⟨_⟩ (.cons ⟨_⟩ (.cons columns .nil))) =>
    (fixed _).append (object table) |>.append (fixed _) |>.append (commas columns).parens
  | .createView, _, .cons view (.cons ⟨_⟩ (.cons ⟨_⟩ (.cons ⟨_⟩ (.cons ⟨_⟩ (.cons columns
      (.cons query .nil)))))) =>
    (fixed _).append (object view) |>.append (ledParens _ columns.map_fixed)
      |>.append (led _ query.map_placed)
  | .createIndex, _, .cons ⟨_⟩ (.cons table (.cons columns (.cons ⟨_⟩ (.cons ⟨_⟩ (.cons ⟨_⟩
      (.cons filter .nil)))))) =>
    (fixed _).append (led _ table.map_object) |>.append (fixed _) |>.append (ledParens _ columns)
      |>.append (led _ filter)
  | .createSchema, _, .cons ⟨_⟩ (.cons ⟨_⟩ .nil) => fixed _
  | .createType, _, .cons type (.cons values .nil) =>
    (fixed _).append (object type) |>.append (led _ values)
  | .dropTable, _, .cons table (.cons ⟨_⟩ (.cons ⟨_⟩ .nil)) =>
    (fixed _).append (object table) |>.append (fixed _)
  | .dropView, _, .cons view (.cons ⟨_⟩ (.cons ⟨_⟩ (.cons ⟨_⟩ .nil))) =>
    (fixed _).append (object view) |>.append (fixed _)
  | .dropIndex, _, .cons index (.cons table (.cons ⟨_⟩ (.cons ⟨_⟩ .nil))) =>
    (fixed _).append (object index) |>.append (led _ table.map_object) |>.append (fixed _)
  | .dropSchema, _, .cons ⟨_⟩ (.cons ⟨_⟩ (.cons ⟨_⟩ .nil)) => fixed _
  | .dropType, _, .cons type (.cons ⟨_⟩ .nil) => (fixed _).append (object type)

@[reducible] def PartDrafted : (p : Part) → (SchemaChoice → PartLayout p) → Prop
  | .slot s, x => SlotDrafted s x
  | .fields fs, x => FieldsDrafted fs x

end QueryTree
