import Mathlib.Data.Option.Basic
import QueryTree.Proofs.Sql.CommentMarks
import QueryTree.Proofs.Sql.Scanner

/-!
# How SQL is put together

Every rule of layout puts SQL together from the same few things in the same few ways. What holds of
these and is kept by these ways thus holds of whatever is laid out.

SQL may be open at either side: with an operator or a number there, it could run together with what
it meets. Where two parts meet, one of them is closed on that side, by a word or a name, in all rules
but one: a unary operator stands right before its operand.
-/
namespace QueryTree

/-- A word that neither opens nor closes anything and has no mark of a comment. -/
def Plain (s : String) : Prop := Balanced s ∧ MarkScanner.Calm s.toList

instance (s : String) : Decidable (Plain s) := inferInstanceAs (Decidable (_ ∧ _))

theorem Sql.pieces_parens (a : Sql) (p : Place) :
    (Sql.parens a).pieces p = .word "(" :: (a.pieces p ++ [.word ")"]) := by
  simp [Sql.parens, Sql.word]

/-- SQL that is put together as the rules do it, with whether it is closed on the left and on the
right. The texts in it that a tree supplies and the operands of unary operators in it are as given. -/
inductive Composed (T : String → Prop) (J : Operator → Sql → Prop) : Bool → Bool → Sql → Prop
  | empty : Composed T J true true .empty
  | word {s : String} : Plain s → Composed T J true true (.word s)
  | symbol (o : Operator) : Composed T J false false (.word o.symbol)
  | name (s : String) : Composed T J true true (.name s)
  | verbatim {s : String} : T s → Composed T J true true (.verbatim s)
  | value (v : Value) : Composed T J false true (.piece (.value v))
  /-- Of two parts one is closed where they meet. -/
  | append {l r l' r' : Bool} {a b : Sql} : Composed T J l r a → Composed T J l' r' b →
      (h : (r || l') = true := by decide) → Composed T J (l && l') (r && r') (a ++ b)
  /-- A piece closes what it is put before. -/
  | before {x : Piece} {l l' r : Bool} {a : Sql} : Composed T J l true (.piece x) →
      Composed T J l' r a → Composed T J l r (.piece x ++ a)
  /-- A piece closes what it is put behind. -/
  | behind {x : Piece} {l r r' : Bool} {a : Sql} : Composed T J l r a →
      Composed T J true r' (.piece x) → Composed T J l r' (a ++ .piece x)
  | parens {l r : Bool} {a : Sql} : Composed T J l r a → Composed T J true true (.parens a)
  | placed {l r : Bool} {a : Sql} (q : Place) : Composed T J l r a → Composed T J l r (.placed q a)
  | statement {l r : Bool} {a : Sql} : Composed T J l r a → Composed T J l r (.statement a)
  /-- Here both may be open. -/
  | unary {o : Operator} {a : Sql} : J o a → Composed T J false false a →
      Composed T J false false (.word o.symbol ++ .when o.isKeyword " " ++ a)
  /-- What is closed can be taken for open. -/
  | left {l r : Bool} {a : Sql} : Composed T J l r a → Composed T J false r a
  | right {l r : Bool} {a : Sql} : Composed T J l r a → Composed T J l false a

namespace Composed

variable {T : String → Prop} {J : Operator → Sql → Prop} {l r l' r' : Bool} {a b : Sql}
  {as : List Sql} {x : Option Sql} {s t : String}

abbrev Any (T : String → Prop) (J : Operator → Sql → Prop) (a : Sql) : Prop :=
  Composed T J false false a

theorem any (ha : Composed T J l r a) : Any T J a := ha.left.right

theorem plain (h : Plain s := by decide) : Composed T J true true (.word s) := word h

/-- SQL led by a word. -/
theorem led (ha : Composed T J l r a) (h : Plain s := by decide) :
    Composed T J true r (.word s ++ a) := .before (word h) ha

/-- SQL with a word at its end. -/
theorem ended (ha : Composed T J l r a) (h : Plain s := by decide) :
    Composed T J l true (a ++ .word s) := .behind ha (word h)

theorem ite {c : Prop} [Decidable c] (ha : Composed T J l r a) (hb : Composed T J l r b) :
    Composed T J l r (if c then a else b) := by
  by_cases hc : c
  · exact if_pos hc ▸ ha
  · exact if_neg hc ▸ hb

theorem wordIte {flag : Bool} (hs : Plain s := by decide) (ht : Plain t := by decide) :
    Composed T J true true (.word (if flag then s else t)) := by
  cases flag
  · exact word ht
  · exact word hs

theorem when {flag : Bool} (h : Plain s := by decide) : Composed T J true true (.when flag s) :=
  ite (word h) empty

theorem object (n : ObjectName) : Composed T J true true (.object n) := by
  obtain ⟨_ | s, n⟩ := n
  · exact empty.append (name n)
  · exact (name s).ended.append (name n)

theorem ledOption (h : ∀ a ∈ x, Any T J a) (hs : Plain s := by decide) :
    Composed T J true false (.led s x) := by
  cases x with
  | none => exact empty.right
  | some a => exact (h a rfl).led hs

theorem ctesBefore (h : ∀ a ∈ x, Any T J a) : Composed T J false true (QueryTree.ctesBefore x) := by
  cases x with
  | none => exact empty.left
  | some a => exact (h a rfl).ended

theorem eachLed (h : ∀ a ∈ as, Any T J a) (hs : Plain s := by decide) :
    Composed T J true false (.eachLed s as) := by
  induction as with
  | nil => exact empty.right
  | cons a as ih =>
    obtain ⟨ha, has⟩ := List.forall_mem_cons.mp h
    exact (ha.led hs).append (ih has)

theorem commas (h : ∀ a ∈ as, Any T J a) : Any T J (.commas as) := by
  cases as with
  | nil => exact empty.any
  | cons a as =>
    obtain ⟨ha, has⟩ := List.forall_mem_cons.mp h
    exact ha.append (eachLed has)

theorem ledParens (h : ∀ a ∈ as, Any T J a) (hs : Plain s := by decide) :
    Composed T J true true (.ledParens s as) := by
  cases as with
  | nil => exact empty
  | cons a as => exact (commas h).parens.led hs

theorem tableList (h : ∀ a ∈ as, Any T J a) : Composed T J true false (QueryTree.tableList as) :=
  (commas h).led

theorem interleave {fragments : List String} (hs : ∀ s ∈ fragments, T s)
    (h : ∀ a ∈ as, Any T J a) : Composed T J true false (QueryTree.interleave fragments as) := by
  induction fragments generalizing as with
  | nil => exact empty.right
  | cons s ss ih =>
    obtain ⟨hs, hss⟩ := List.forall_mem_cons.mp hs
    cases as with
    | nil => exact before (verbatim hs) (ih hss h)
    | cons a as =>
      obtain ⟨ha, has⟩ := List.forall_mem_cons.mp h
      exact (before (verbatim hs) ha).append (ih hss has)

variable {α : Type} {f : α → Sql}

theorem inList (h : ∀ y, Composed T J l r (f y)) (ys : List α) : ∀ a ∈ ys.map f, Any T J a :=
  List.forall_mem_map.mpr fun y _ => (h y).any

theorem inOption {ys : Option α} (h : ∀ y ∈ ys, Composed T J l r (f y)) :
    ∀ a ∈ ys.map f, Any T J a :=
  Option.forall_mem_map.mpr fun y hy => (h y hy).any

end Composed

def Kind.verbatims : (k : Kind) → FieldLayouts k.fields → List String
  | .raw, (fragments, _) => fragments
  | .function, (func, _) => [func]
  | .dataType, (s, _) => [s]
  | .createIndex, (_, _, _, _, _, method, _) => method.toList
  | _, _ => []

/-- If a rule puts an operator right before an operand, the two are such. -/
def Kind.Joins (J : Operator → Sql → Prop) : (k : Kind) → FieldLayouts k.fields → Prop
  | .unaryOperation, (o, operand, _) => J o operand
  | _, _ => True

variable {T : String → Prop} {J : Operator → Sql → Prop}

@[reducible] def Form.Composed (T : String → Prop) (J : Operator → Sql → Prop) :
    (fm : Form) → fm.Carrier → Prop
  | .name, _ => True
  | .text, s => T s
  | .object, _ => True
  | .operator, _ => True
  | .tables, as => ∀ a ∈ as, Composed.Any T J a
  | .sql, a => Composed.Any T J a

theorem Form.composed_toSql (fm : Form) {x : fm.Carrier} (h : fm.Composed T J x) :
    Composed.Any T J (fm.toSql x) := by
  cases fm with
  | name => exact (Composed.name x).any
  | text => exact (Composed.verbatim h).any
  | object => exact (Composed.object x).any
  | operator => exact .symbol x
  | tables => exact (Composed.tableList h).any
  | sql => exact h

@[reducible] def SlotComposed (T : String → Prop) (J : Operator → Sql → Prop) :
    (s : Shape) → SlotLayout s → Prop
  | .atom _, _ => True
  | .node k, x => k.form.Composed T J x
  | .any, x => Composed.Any T J x
  | .optional s, x => ∀ y ∈ x, SlotComposed T J s y
  | .many s, x => ∀ y ∈ x, SlotComposed T J s y

inductive FieldsComposed (T : String → Prop) (J : Operator → Sql → Prop) :
    (fs : List Field) → FieldLayouts fs → Prop
  | nil : FieldsComposed T J [] ()
  | cons {f fs x rest} : SlotComposed T J f.shape x → FieldsComposed T J fs rest →
      FieldsComposed T J (f :: fs) (x, rest)

open Composed in
/-- A row for each kind of node follows its rule piece by piece. -/
theorem layout_composed : (k : Kind) → (l : FieldLayouts k.fields) →
    (∀ s ∈ k.verbatims l, T s) → k.Joins J l → FieldsComposed T J k.fields l →
    k.form.Composed T J (layout k l)
  | .identifier, _, _, _, _ => trivial
  | .schemableIdentifier, _, _, _, _ => trivial
  | .table, _, _, _, _ => trivial
  | .column, _, _, _, _ => trivial
  | .reference, (none, _), _, _, .cons _ (.cons column .nil) => empty.append column |>.any
  | .reference, (some n, _), _, _, .cons _ (.cons column .nil) =>
    (object n).ended.append column |>.any
  | .selectAll, _, _, _, .nil => any plain
  | .aliased, (_, n, _), _, _, .cons node (.cons _ .nil) => node.ended.append (name n) |>.any
  | .raw, _, h, _, .cons _ (.cons parameters .nil) =>
    (Composed.interleave h parameters).placed _ |>.any
  | .value, (v, _), _, _, _ => (value v).any
  | .valueList, _, _, _, .cons values .nil => (commas values).parens.any
  | .values, _, _, _, .cons rows .nil => (commas rows).led.any
  | .operator, _, _, _, _ => trivial
  | .binaryOperation, (_, o, _), _, _, .cons first (.cons _ (.cons second .nil)) =>
    (first.ended.append (symbol o)).ended.append second |>.any
  | .unaryOperation, _, _, h, .cons _ (.cons operand .nil) => unary h operand
  | .and, _, _, _, .cons first (.cons second .nil) => first.ended.append second |>.any
  | .or, _, _, _, .cons first (.cons second .nil) => first.ended.append second |>.any
  | .parens, _, _, _, .cons node .nil => (node.placed _).parens.any
  | .function, (func, _), h, _, .cons _ (.cons arguments (.cons _ .nil)) =>
    (verbatim (h func (.head _))).append (append when (commas arguments)).parens |>.any
  | .selection, _, _, _, .cons node .nil => node
  | .fromClause, _, _, _, .cons tables .nil => tables
  | .join, (type, _), _, _, .cons _ (.cons table (.cons on .nil)) =>
    (word (by cases type <;> decide)).ended.append table |>.append (ledOption on) |>.any
  | .onClause, _, _, _, .cons condition .nil => condition.led.any
  | .whereClause, _, _, _, .cons condition .nil => condition.led.any
  | .groupBy, _, _, _, .cons items .nil => (commas items).led.any
  | .having, _, _, _, .cons condition .nil => condition.led.any
  | .orderBy, _, _, _, .cons items .nil => (commas items).led.any
  | .orderByItem, (_, none, _), _, _, .cons node _ => node.append empty |>.any
  | .orderByItem, (_, some d, _), _, _, .cons node _ =>
    node.append (led (word (by cases d <;> decide))) |>.any
  | .limit, _, _, _, .cons node .nil => node.led.any
  | .offset, _, _, _, .cons node .nil => node.led.any
  | .returning, _, _, _, .cons selections .nil => (commas selections).led.any
  | .columnUpdate, (n, _), _, _, .cons _ (.cons new .nil) => (name n).ended.append new |>.any
  | .setOperation, (o, _), _, _, .cons _ (.cons expression (.cons _ .nil)) =>
    (word (by cases o <;> decide)).ended.append when |>.append (expression.placed _) |>.any
  | .withClause, _, _, _, .cons _ (.cons tables .nil) => append wordIte (commas tables) |>.any
  | .commonTable, _, _, _, .cons tableName (.cons expression .nil) =>
    tableName.ended.append (expression.placed _).parens |>.any
  | .commonTableName, (n, columns, _), _, _, _ =>
    (object n).append (ite empty (commas (inList name columns)).parens) |>.any
  | .selectQuery, _, _, _, .cons ctes (.cons _ (.cons selections (.cons tables (.cons joins
      (.cons filter (.cons groupBy (.cons having (.cons orderBy (.cons limit (.cons offset
      (.cons setOperations .nil))))))))))) =>
    any <| statement <| (Composed.ctesBefore ctes).ended.append when
      |>.append (ite (any plain) (commas selections))
      |>.append (ledOption (inOption fun y hy => Composed.tableList (tables y hy)))
      |>.append (eachLed joins)
      |>.append (ledOption filter) |>.append (ledOption groupBy) |>.append (ledOption having)
      |>.append (ledOption orderBy) |>.append (ledOption limit) |>.append (ledOption offset)
      |>.append (eachLed setOperations)
  | .insertQuery, (_, n, columns, none, _), _, _, .cons ctes (.cons _ (.cons _ (.cons _
      (.cons returning .nil)))) =>
    any <| statement <| (Composed.ctesBefore ctes).ended.append (object n)
      |>.append (ledParens (inList name columns)) |>.ended |>.append (ledOption returning)
  | .insertQuery, (_, n, columns, some _, _), _, _, .cons ctes (.cons _ (.cons _ (.cons values
      (.cons returning .nil)))) =>
    any <| statement <| (Composed.ctesBefore ctes).ended.append (object n)
      |>.append (ledParens (inList name columns))
      |>.append ((values _ rfl).placed _).led |>.append (ledOption returning)
  | .updateQuery, _, _, _, .cons ctes (.cons table (.cons updates (.cons tables (.cons joins
      (.cons filter (.cons returning .nil)))))) =>
    any <| statement <| (Composed.ctesBefore ctes).ended.append table
      |>.append (ite empty.right (commas updates).led)
      |>.append (ledOption (inOption fun y hy => Composed.tableList (tables y hy)))
      |>.append (eachLed joins)
      |>.append (ledOption filter) |>.append (ledOption returning)
  | .deleteQuery, _, _, _, .cons ctes (.cons tables (.cons others (.cons joins (.cons filter
      (.cons returning .nil))))) =>
    any <| statement <| (Composed.ctesBefore ctes).ended.append (Composed.tableList tables)
      |>.append (ledOption (inOption fun y hy => commas (others y hy))) |>.append (eachLed joins)
      |>.append (ledOption filter) |>.append (ledOption returning)
  | .dataType, (s, _), h, _, _ => h s (.head _)
  | .columnDefinition, (n, _), _, _, .cons _ (.cons type (.cons references (.cons _ (.cons _
      (.cons _ (.cons default .nil)))))) =>
    (name n).ended.append (verbatim type) |>.append when |>.append when |>.append when
      |>.append (ledOption default) |>.append (ledOption references) |>.any
  | .references, (n, columns, none, _), _, _, _ =>
    (object n).led.append (ledParens (inList name columns)) |>.append empty |>.any
  | .references, (n, columns, some action, _), _, _, _ =>
    (object n).led.append (ledParens (inList name columns))
      |>.append (word (by cases action <;> decide)).led |>.any
  | .addColumn, _, _, _, .cons column .nil => column.led.any
  | .dropColumn, (n, _), _, _, _ => (name n).led.any
  | .renameColumn, (n, new, _), _, _, _ => (name n).led.ended.append (name new) |>.any
  | .alterTable, (n, _, _, _), _, _, .cons _ (.cons _ (.cons _ (.cons alterations .nil))) =>
    (object n).led.append (ledOption (inOption fun new _ => name new.bare))
      |>.append (ledOption (inOption fun s _ => name s))
      |>.append (ite empty.right (commas alterations).led) |>.any
  | .createTable, (n, _), _, _, .cons _ (.cons _ (.cons _ (.cons columns .nil))) =>
    append wordIte when |>.append (object n) |>.ended |>.append (commas columns).parens |>.any
  | .createView, (n, _, _, _, _, columns, _), _, _, .cons _ (.cons _ (.cons _ (.cons _ (.cons _
      (.cons _ (.cons query .nil)))))) =>
    (led when).append when |>.append when |>.ended |>.append when
      |>.append (object n) |>.append (ledParens (inList name columns))
      |>.append (ledOption (inOption fun y hy => (query y hy).placed _)) |>.any
  | .createIndex, (n, _), h, _, .cons _ (.cons _ (.cons columns (.cons _ (.cons _ (.cons _
      (.cons filter .nil)))))) =>
    append wordIte when |>.append (name n) |>.append (ledOption (inOption fun t _ => object t))
      |>.append (ledOption (inOption fun s hs => verbatim (h s (Option.mem_toList.mpr hs))))
      |>.append (ledParens columns) |>.append (ledOption filter) |>.any
  | .createSchema, (n, _), _, _, _ => (led when).append (name n) |>.any
  | .createType, (n, _), _, _, .cons _ (.cons values .nil) =>
    (object n).led.append (ledOption values) |>.any
  | .dropTable, (n, _), _, _, _ => (led when).append (object n) |>.append when |>.any
  | .dropView, (n, _), _, _, _ => append wordIte when |>.append (object n) |>.append when |>.any
  | .dropIndex, (n, _), _, _, _ =>
    (led when).append (object n) |>.append (ledOption (inOption fun t _ => object t))
      |>.append when |>.any
  | .dropSchema, (n, _), _, _, _ => (led when).append (name n) |>.append when |>.any
  | .dropType, (n, _), _, _, _ => (led when).append (object n) |>.any

namespace Tree

/-- What is written of a tree as it is: the fragments of raw text, the names of functions, the types
of columns and the methods of indexes. -/
def verbatims : {p : Part} → Tree p → List String
  | _, .atom _ => []
  | _, .node k fields => k.verbatims fields.view ++ fields.verbatims
  | _, .any t => t.verbatims
  | _, .none => []
  | _, .some t => t.verbatims
  | _, .nil => []
  | _, .cons t ts => t.verbatims ++ ts.verbatims
  | _, .done => []
  | _, .field t rest => t.verbatims ++ rest.verbatims

/-- A unary operation as an operator with its operand; other nodes are none. -/
def ownOperation : (k : Kind) → Tree (.fields k.fields) → List (Operator × AnyNode)
  | .unaryOperation, .field (.node _ (.field (.atom o) .done)) (.field operand .done) =>
    [(o, operand)]
  | _, _ => []

def operations : {p : Part} → Tree p → List (Operator × AnyNode)
  | _, .atom _ => []
  | _, .node k fields => ownOperation k fields ++ fields.operations
  | _, .any t => t.operations
  | _, .none => []
  | _, .some t => t.operations
  | _, .nil => []
  | _, .cons t ts => t.operations ++ ts.operations
  | _, .done => []
  | _, .field t rest => t.operations ++ rest.operations

private theorem joins_of_ownOperation {k : Kind} (fields : Tree (.fields k.fields))
    (h : ∀ x ∈ ownOperation k fields, J x.1 x.2.view) : k.Joins J fields.view := by
  cases k
  case unaryOperation =>
    match fields with
    | .field (.node _ (.field (.atom o) .done)) (.field operand .done) =>
      exact h (o, operand) (.head _)
  all_goals trivial

end Tree

@[reducible] def PartComposed (T : String → Prop) (J : Operator → Sql → Prop) :
    (p : Part) → PartLayout p → Prop
  | .slot s, x => SlotComposed T J s x
  | .fields fs, x => FieldsComposed T J fs x

theorem Tree.composed {p : Part} (t : Tree p) (hT : ∀ s ∈ t.verbatims, T s)
    (hJ : ∀ x ∈ t.operations, J x.1 x.2.view) : PartComposed T J p t.view := by
  induction t with
  | atom x => trivial
  | node k fields ih =>
    obtain ⟨hown, hT⟩ := List.forall_mem_append.mp hT
    obtain ⟨hjoins, hJ⟩ := List.forall_mem_append.mp hJ
    exact layout_composed k _ hown (joins_of_ownOperation fields hjoins) (ih hT hJ)
  | any t ih => exact Form.composed_toSql _ (ih hT hJ)
  | none => exact fun _ hy => nomatch hy
  | some t ih =>
    intro y hy
    obtain rfl := Option.some.inj hy
    exact ih hT hJ
  | nil => exact fun _ hy => nomatch hy
  | cons t ts iht ihts =>
    obtain ⟨hTt, hTts⟩ := List.forall_mem_append.mp hT
    obtain ⟨hJt, hJts⟩ := List.forall_mem_append.mp hJ
    exact List.forall_mem_cons.mpr ⟨iht hTt hJt, ihts hTts hJts⟩
  | done => exact .nil
  | field t rest iht ihrest =>
    obtain ⟨hTt, hTrest⟩ := List.forall_mem_append.mp hT
    obtain ⟨hJt, hJrest⟩ := List.forall_mem_append.mp hJ
    exact .cons (iht hTt hJt) (ihrest hTrest hJrest)

end QueryTree
