import QueryTree.Proofs.Sql.Slots

/-!
# Replacing values

Other SQL may be put into the slots of SQL as other nodes may be put into the places of values, and
laying out a tree commutes with that: no rule looks at what stands in a slot. Hence the pieces of a
tree are told by the slots of the tree with marks in the places of some of its nodes.
-/
namespace QueryTree

/-- What stands for a piece in a given place after values are replaced. -/
def Piece.replaced (f : Value → Sql) : Place × Piece → List Piece
  | (p, .value v) => (f v).pieces p
  | (_, x) => [x]

namespace Sql

def replace (f : Value → Sql) : Sql → Sql
  | piece (.value v) => f v
  | piece x => piece x
  | empty => empty
  | append a b => append (a.replace f) (b.replace f)
  | placed p a => placed p (a.replace f)
  | statement a => statement (a.replace f)

variable (f : Value → Sql) (a b : Sql) (s : String) (flag : Bool) (p : Place)

theorem pieces_replace :
    (a.replace f).pieces p = (a.placedPieces p).flatMap (Piece.replaced f) := by
  induction a generalizing p with
  | empty => rfl
  | piece x => cases x <;> simp [placedPieces, replace, Piece.replaced]
  | append a b iha ihb =>
    rw [placedPieces, List.flatMap_append, ← iha, ← ihb]
    exact pieces_append ..
  | placed q a ih => exact ih q
  | statement a ih =>
    cases p with
    | bare => exact ih .nested
    | nested => simp [placedPieces, replace, Piece.replaced, ih .nested]

@[simp] theorem replace_empty : empty.replace f = empty := rfl

@[simp] theorem replace_append : (a ++ b).replace f = a.replace f ++ b.replace f := rfl

@[simp] theorem replace_word : (word s).replace f = word s := rfl

@[simp] theorem replace_verbatim : (verbatim s).replace f = verbatim s := rfl

@[simp] theorem replace_name : (name s).replace f = name s := rfl

@[simp] theorem replace_placed : (placed p a).replace f = placed p (a.replace f) := rfl

@[simp] theorem replace_statement : (statement a).replace f = statement (a.replace f) := rfl

@[simp] theorem replace_when : (when flag s).replace f = when flag s := by
  cases flag <;> rfl

@[simp] theorem replace_parens : (parens a).replace f = parens (a.replace f) := rfl

@[simp] theorem replace_led (x : Option Sql) : (led s x).replace f = led s (x.map (replace f)) := by
  cases x <;> rfl

variable (as : List Sql)

@[simp] theorem replace_eachLed : (eachLed s as).replace f = eachLed s (as.map (replace f)) := by
  induction as with
  | nil => rfl
  | cons a as ih => simp [eachLed, ih]

@[simp] theorem replace_commas : (commas as).replace f = commas (as.map (replace f)) := by
  cases as <;> simp [commas]

@[simp] theorem replace_ledParens :
    (ledParens s as).replace f = ledParens s (as.map (replace f)) := by
  cases as <;> simp [ledParens]

@[simp] theorem replace_tableList : (tableList as).replace f = tableList (as.map (replace f)) := by
  simp [tableList]

@[simp] theorem replace_object (n : ObjectName) : (object n).replace f = object n := by
  cases h : n.schema <;> simp [object, h]

@[simp] theorem replace_ctesBefore (x : Option Sql) :
    (ctesBefore x).replace f = ctesBefore (x.map (replace f)) := by
  cases x <;> rfl

@[simp] theorem replace_ifExists : (ifExists flag).replace f = ifExists flag := replace_when f _ _

@[simp] theorem replace_ifNotExists : (ifNotExists flag).replace f = ifNotExists flag :=
  replace_when f _ _

@[simp] theorem replace_cascade : (cascade flag).replace f = cascade flag := replace_when f _ _

@[simp] theorem replace_interleave (fragments : List String) (parameters : List Sql) :
    (interleave fragments parameters).replace f =
      interleave fragments (parameters.map (replace f)) := by
  induction fragments generalizing parameters with
  | nil => rfl
  | cons s ss ih => cases parameters <;> simp [interleave, ih]

end Sql

@[simp] def Form.replace (f : Value → Sql) : (fm : Form) → fm.Carrier → fm.Carrier
  | .name => id
  | .text => id
  | .object => id
  | .operator => id
  | .tables => List.map (Sql.replace f)
  | .sql => Sql.replace f

theorem Form.replace_toSql (f : Value → Sql) (fm : Form) (x : fm.Carrier) :
    (fm.toSql x).replace f = fm.toSql (fm.replace f x) := by
  cases fm <;> simp [Form.toSql]

@[simp] def SlotLayout.replace (f : Value → Sql) : (s : Shape) → SlotLayout s → SlotLayout s
  | .atom _ => id
  | .node k => k.form.replace f
  | .any => Sql.replace f
  | .optional s => Option.map (replace f s)
  | .many s => List.map (replace f s)

@[simp] def FieldLayouts.replace (f : Value → Sql) : (fs : List Field) → FieldLayouts fs →
    FieldLayouts fs
  | [], _ => ()
  | g :: fs, (x, rest) => (SlotLayout.replace f g.shape x, replace f fs rest)

/-- No rule looks at what stands in a slot. -/
theorem layout_replace (f : Value → Sql) {k : Kind} (h : k ≠ .value) (l : FieldLayouts k.fields) :
    layout k (FieldLayouts.replace f k.fields l) = k.form.replace f (layout k l) := by
  cases k
  case value => exact absurd rfl h
  -- Rules that tell apart whether something is there are taken in both cases.
  case reference => obtain ⟨_ | table, column, _⟩ := l <;> simp [layout]
  case orderByItem => obtain ⟨node, _ | direction, _⟩ := l <;> simp [layout]
  case withClause => obtain ⟨_ | _, tables, _⟩ := l <;> simp [layout]
  case commonTableName =>
    obtain ⟨table, _ | ⟨column, columns⟩, _⟩ := l <;> simp [layout, Function.comp_def]
  case selectQuery =>
    obtain ⟨ctes, distinct, _ | ⟨selection, selections⟩, _⟩ := l <;>
      simp [layout, Function.comp_def]
  case insertQuery =>
    obtain ⟨ctes, target, columns, _ | values, returning, _⟩ := l <;>
      simp [layout, Function.comp_def]
  case updateQuery =>
    obtain ⟨ctes, table, _ | ⟨update, updates⟩, _⟩ := l <;> simp [layout, Function.comp_def]
  case references =>
    obtain ⟨table, columns, _ | action, _⟩ := l <;> simp [layout, Function.comp_def]
  case alterTable =>
    obtain ⟨table, renameTo, schema, _ | ⟨alteration, alterations⟩, _⟩ := l <;>
      simp [layout, Function.comp_def]
  case createTable => obtain ⟨table, _ | _, existing, columns, _⟩ := l <;> simp [layout]
  case dropView => obtain ⟨view, _ | _, existing, cascades, _⟩ := l <;> simp [layout]
  all_goals simp [layout, Function.comp_def]

def PartLayout.replace (f : Value → Sql) : (p : Part) → PartLayout p → PartLayout p
  | .slot s => SlotLayout.replace f s
  | .fields fs => FieldLayouts.replace f fs

namespace Tree

def sql (t : AnyNode) : Sql := t.view

theorem view_replaceValues (g : Value → AnyNode) {p : Part} (hp : p.valueless = true) (t : Tree p) :
    (t.replaceValues g).view = PartLayout.replace (fun v => (g v).sql) p t.view := by
  induction t with
  | atom x => rfl
  | node k fields ih =>
    show layout k (fields.replaceValues g).view = k.form.replace _ (layout k fields.view)
    rw [ih (Kind.valueless_fields hp)]
    exact layout_replace _ (bne_iff_ne.mp hp) _
  | @any k t ih =>
    by_cases hk : k = .value
    · subst hk
      match t with
      | .value v => rfl
    · rw [replaceValues_any g hk]
      show k.form.toSql (t.replaceValues g).view = Sql.replace _ (k.form.toSql t.view)
      rw [ih (bne_iff_ne.mpr hk), Form.replace_toSql]
      rfl
  | none => rfl
  | some t ih => exact congrArg Option.some (ih hp)
  | nil => rfl
  | cons t ts iht ihts =>
    show (t.replaceValues g).view :: (ts.replaceValues g).view = _
    rw [iht hp, ihts hp]
    rfl
  | done => rfl
  | field t rest iht ihrest =>
    obtain ⟨ht, hrest⟩ := Part.valueless_cons hp
    show ((t.replaceValues g).view, (rest.replaceValues g).view) = _
    rw [iht ht, ihrest hrest]
    rfl

/-- The pieces of a tree with other nodes in the places of its values. -/
theorem pieces_replaceValues (g : Value → AnyNode) (t : AnyNode) (p : Place) :
    (t.replaceValues g).pieces p =
      (t.sql.placedPieces p).flatMap (Piece.replaced fun v => (g v).sql) := by
  rw [← Sql.pieces_replace]
  exact congrArg (Sql.pieces · p) (view_replaceValues g rfl t)

end Tree

end QueryTree
