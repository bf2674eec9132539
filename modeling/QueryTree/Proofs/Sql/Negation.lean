import QueryTree.Proofs.Sql.Beginnings
import QueryTree.Proofs.Sql.Composition
import QueryTree.Proofs.Sql.Delimiters
import QueryTree.Query.Select

/-!
# Minus signs before operands

A unary operator that is a sign stands right before its operand. So SQL has a comment in it where the
sign is a minus and the operand begins with one itself: another such operation, an operator, or a
negative number that is written in place. In every other way to put SQL together, a word stands
between an operator and what may begin with a minus sign.
-/
namespace QueryTree

/-- A row of pieces in which no mark of a comment is made, with whether one could be made at its left
or its right end. -/
structure Tidy (m : ValueMode) (l r : Bool) (ps : List Piece) : Prop where
  apart : ps.IsChain (Apart m)
  left : l = true → ∀ x ∈ ps.head?, x.leadsMinus m = false
  right : r = true → ∀ x ∈ ps.getLast?, x.endsMinus = false

theorem Apart.of_left {m : ValueMode} {x y : Piece} (h : x.endsMinus = false) : Apart m x y :=
  fun hxy => Bool.noConfusion (h.symm.trans hxy.1)

theorem Apart.of_right {m : ValueMode} {x y : Piece} (h : y.leadsMinus m = false) : Apart m x y :=
  fun hxy => Bool.noConfusion (h.symm.trans hxy.2)

namespace Tidy

variable {m : ValueMode} {l r l' r' : Bool} {ps qs : List Piece} {x : Piece} {s : String}

theorem nil : Tidy m true true [] := ⟨.nil, fun _ => nofun, fun _ => nofun⟩

theorem single (hl : l = true → x.leadsMinus m = false) (hr : r = true → x.endsMinus = false) :
    Tidy m l r [x] where
  apart := .singleton x
  left h := by simpa using hl h
  right h := by simpa using hr h

theorem word (h : MarkScanner.Calm s.toList) : Tidy m true true [.word s] := by
  have hs : (s == "-") = false := by
    refine beq_eq_false_iff_ne.mpr ?_
    rintro rfl
    exact absurd h (by decide)
  exact single (fun _ => hs) fun _ => hs

theorem append (hps : Tidy m l r ps) (hqs : Tidy m l' r' qs) (h : (r || l') = true) :
    Tidy m (l && l') (r && r') (ps ++ qs) where
  apart := by
    refine List.isChain_append.mpr ⟨hps.apart, hqs.apart, fun x hx y hy => ?_⟩
    rcases Bool.or_eq_true_iff.mp h with h | h
    · exact .of_left (hps.right h x hx)
    · exact .of_right (hqs.left h y hy)
  left h x hx := by
    obtain ⟨hl, hl'⟩ := Bool.and_eq_true_iff.mp h
    rw [List.head?_append, Option.mem_def, Option.or_eq_some_iff] at hx
    exact hx.elim (hps.left hl x) fun hx => hqs.left hl' x hx.2
  right h x hx := by
    obtain ⟨hr, hr'⟩ := Bool.and_eq_true_iff.mp h
    rw [List.getLast?_append, Option.mem_def, Option.or_eq_some_iff] at hx
    exact hx.elim (hqs.right hr' x) fun hx => hps.right hr x hx.2

theorem before (hx : Tidy m l true [x]) (hps : Tidy m l' r ps) : Tidy m l r (x :: ps) where
  apart := List.isChain_cons.mpr ⟨fun _ _ => .of_left (hx.right rfl x rfl), hps.apart⟩
  left := hx.left
  right h y hy := by
    cases ps with
    | nil =>
      obtain rfl := Option.some.inj hy
      exact hx.right rfl x rfl
    | cons z ps => exact hps.right h y (by simpa using hy)

theorem behind (hps : Tidy m l r ps) (hx : Tidy m true r' [x]) : Tidy m l r' (ps ++ [x]) where
  apart := List.isChain_append.mpr ⟨hps.apart, hx.apart, fun _ _ y hy => .of_right (hx.left rfl y hy)⟩
  left h y hy := by
    rw [List.head?_append, Option.mem_def, Option.or_eq_some_iff] at hy
    exact hy.elim (hps.left h y) fun hy => hx.left rfl y hy.2
  right h y hy := hx.right h y (by simpa using hy)

theorem parens (hps : Tidy m l r ps) : Tidy m true true (.word "(" :: (ps ++ [.word ")"])) :=
  before (word (by decide)) (hps.behind (word (by decide)))

/-- A piece before a row with which it makes no mark; neither end is known to be closed. -/
theorem cons (hx : ∀ y ∈ ps.head?, Apart m x y) (hps : Tidy m l r ps) :
    Tidy m false false (x :: ps) where
  apart := List.isChain_cons.mpr ⟨hx, hps.apart⟩
  left := nofun
  right := nofun

theorem weaken (h : Tidy m l r ps) (hl : l' = true → l = true) (hr : r' = true → r = true) :
    Tidy m l' r' ps := ⟨h.apart, h.left ∘ hl, h.right ∘ hr⟩

end Tidy

theorem Operator.calm_symbol (o : Operator) : o.symbol = "-" ∨ MarkScanner.Calm o.symbol.toList := by
  cases o <;> decide

/-- An operator and an operand that make no mark of a comment where they meet. -/
def JoinsApart (m : ValueMode) (o : Operator) (operand : Sql) : Prop :=
  o.symbol = "-" → Begins m false operand

def CalmText (s : String) : Prop := MarkScanner.Calm s.toList

instance (s : String) : Decidable (CalmText s) := inferInstanceAs (Decidable (MarkScanner.Calm _))

namespace Composed

variable {m : ValueMode} {T : String → Prop} {J : Operator → Sql → Prop} {l r : Bool} {a : Sql}

theorem tame (h : Composed CalmText J l r a) (p : Place) : ∀ x ∈ a.pieces p, x.Tame := by
  have hparen {ps : List Piece} (h : ∀ x ∈ ps, x.Tame) :
      ∀ x ∈ Piece.word "(" :: (ps ++ [.word ")"]), x.Tame :=
    List.forall_mem_cons.mpr ⟨.inr (by decide), List.forall_mem_append.mpr
      ⟨h, List.forall_mem_singleton.mpr (.inr (by decide))⟩⟩
  induction h generalizing p with
  | empty => exact nofun
  | word h => exact List.forall_mem_singleton.mpr (.inr h.2)
  | symbol o => exact List.forall_mem_singleton.mpr o.calm_symbol
  | name s => exact List.forall_mem_singleton.mpr trivial
  | verbatim h => exact List.forall_mem_singleton.mpr h
  | value v => exact List.forall_mem_singleton.mpr trivial
  | append _ _ _ iha ihb | before _ _ iha ihb | behind _ _ iha ihb =>
    rw [Sql.pieces_append]
    exact List.forall_mem_append.mpr ⟨iha p, ihb p⟩
  | parens _ ih =>
    rw [Sql.pieces_parens]
    exact hparen (ih p)
  | placed q _ ih => exact ih q
  | statement _ ih =>
    cases p with
    | bare => exact ih .nested
    | nested =>
      rw [Sql.pieces_statement_nested]
      exact hparen (ih .nested)
  | @unary o a _ _ ih =>
    rw [Sql.pieces_append, Sql.pieces_append]
    refine List.forall_mem_append.mpr ⟨List.forall_mem_append.mpr
      ⟨List.forall_mem_singleton.mpr o.calm_symbol, ?_⟩, ih p⟩
    cases o.isKeyword with
    | false => exact nofun
    | true => exact List.forall_mem_singleton.mpr (.inr (by decide))
  | left _ ih => exact ih p
  | right _ ih => exact ih p

theorem tidy (h : Composed T (JoinsApart m) l r a) (p : Place) : Tidy m l r (a.pieces p) := by
  induction h generalizing p with
  | empty => exact .nil
  | word h => exact .word h.2
  | symbol o => exact .single nofun nofun
  | name s => exact .single (fun _ => rfl) fun _ => rfl
  | verbatim _ => exact .single (fun _ => rfl) fun _ => rfl
  | value v => exact .single nofun fun _ => rfl
  | append _ _ h iha ihb =>
    rw [Sql.pieces_append]
    exact (iha p).append (ihb p) h
  | before _ _ ihx iha => exact (ihx p).before (iha p)
  | behind _ _ iha ihx =>
    rw [Sql.pieces_append]
    exact (iha p).behind (ihx p)
  | parens _ ih =>
    rw [Sql.pieces_parens]
    exact (ih p).parens
  | placed q _ ih => exact ih q
  | statement _ ih =>
    cases p with
    | bare => exact ih .nested
    | nested =>
      rw [Sql.pieces_statement_nested]
      exact (ih .nested).parens.weaken (fun _ => rfl) fun _ => rfl
  | @unary o a hjoins _ ih =>
    rw [Sql.pieces_append, Sql.pieces_append]
    cases hk : o.isKeyword with
    | true =>
      have hsymbol : Tidy m false false [.word o.symbol] := .single nofun nofun
      exact (hsymbol.behind (.word (by decide))).append (ih p) rfl
    | false =>
      refine (ih p).cons fun y hy hmark => ?_
      obtain ⟨x, rest, hpieces, hx⟩ := hjoins (beq_iff_eq.mp hmark.1) p
      rw [hpieces] at hy
      obtain rfl := Option.some.inj hy
      exact Bool.noConfusion (hx.symm.trans hmark.2)
  | left _ ih => exact (ih p).weaken nofun id
  | right _ ih => exact (ih p).weaken id nofun

end Composed

/-- Whether a place takes nodes of a given kind and no others. -/
def Shape.asks (k : Kind) : Shape → Bool
  | .node j => j == k
  | .optional s | .many s => s.asks k
  | .atom _ | .any => false

def Part.asks (k : Kind) : Part → Bool
  | .slot s => s.asks k
  | .fields fs => fs.any fun f => f.shape.asks k

/-- A unary operation stands only where any node may. -/
theorem Kind.not_asks_unaryOperation (k : Kind) :
    (Part.fields k.fields).asks .unaryOperation = false := by
  cases k <;> decide

private theorem Part.not_asks_cons {k : Kind} {f : Field} {fs : List Field}
    (h : (Part.fields (f :: fs)).asks k = false) :
    (Part.slot f.shape).asks k = false ∧ (Part.fields fs).asks k = false :=
  Bool.or_eq_false_iff.mp h

namespace Tree

theorem eq_of_mem_ownOperation {k : Kind} {fields : Tree (.fields k.fields)} {x : Operator × AnyNode}
    (h : x ∈ ownOperation k fields) :
    k = .unaryOperation ∧ Tree.any (.node k fields) = Expression.unary x.1 x.2 := by
  cases k
  case unaryOperation =>
    match fields with
    | .field (.node _ (.field (.atom o) .done)) (.field operand .done) =>
      obtain rfl := List.mem_singleton.mp h
      exact ⟨rfl, rfl⟩
  all_goals exact nomatch h

/-- Every unary operation in a tree fills an opening of it. -/
theorem exists_fill_unary {x : Operator × AnyNode} : {p : Part} → p.asks .unaryOperation = false →
    (t : Tree p) → x ∈ t.operations → ∃ C : Opening p, t = C.fill (Expression.unary x.1 x.2)
  | _, _, .any (.node k fields), h => by
    rcases List.mem_append.mp h with hown | h
    · exact ⟨.here, (eq_of_mem_ownOperation hown).2⟩
    · obtain ⟨C, rfl⟩ := exists_fill_unary k.not_asks_unaryOperation fields h
      exact ⟨.any (.node k C), rfl⟩
  | .slot (.node k), hp, .node _ fields, h => by
    rcases List.mem_append.mp h with hown | h
    · exact absurd (eq_of_mem_ownOperation hown).1 (beq_eq_false_iff_ne.mp hp)
    · obtain ⟨C, rfl⟩ := exists_fill_unary k.not_asks_unaryOperation fields h
      exact ⟨.node k C, rfl⟩
  | .slot (.optional s), hp, .some t, h => by
    have hs : (Part.slot s).asks .unaryOperation = false := hp
    obtain ⟨C, rfl⟩ := exists_fill_unary hs t h
    exact ⟨.present C, rfl⟩
  | .slot (.many s), hp, .cons t ts, h => by
    have hs : (Part.slot s).asks .unaryOperation = false := hp
    rcases List.mem_append.mp h with h | h
    · obtain ⟨C, rfl⟩ := exists_fill_unary hs t h
      exact ⟨.head C ts, rfl⟩
    · obtain ⟨C, rfl⟩ := exists_fill_unary hp ts h
      exact ⟨.tail t C, rfl⟩
  | _, hp, .field t rest, h => by
    obtain ⟨ht, hrest⟩ := Part.not_asks_cons hp
    rcases List.mem_append.mp h with h | h
    · obtain ⟨C, rfl⟩ := exists_fill_unary ht t h
      exact ⟨.field C rest, rfl⟩
    · obtain ⟨C, rfl⟩ := exists_fill_unary hrest rest h
      exact ⟨.later t C, rfl⟩

private theorem rawFits_of_rawFree {p : Part} (t : Tree p) (h : t.rawFree = true) : t.RawFits := by
  induction t with
  | node k fields ih =>
    obtain ⟨hk, h⟩ := rawFree_node h
    refine ⟨?_, ih h⟩
    cases k
    case raw => exact absurd rfl hk
    all_goals trivial
  | any t ih | some t ih => exact ih h
  | cons t ts iht ihts | field t ts iht ihts =>
    obtain ⟨ht, hts⟩ := Bool.and_eq_true_iff.mp h
    exact ⟨iht ht, ihts hts⟩
  | atom x | none | nil | done => trivial

end Tree

private theorem Opening.rawFree_of_fill {u : AnyNode} {p : Part} (C : Opening p)
    (h : (C.fill u).rawFree = true) : u.rawFree = true := by
  induction C with
  | here => exact h
  | node k C ih => exact ih (Tree.rawFree_node h).2
  | any C ih | present C ih => exact ih h
  | head C ts ih | field C ts ih => exact ih (Bool.and_eq_true_iff.mp h).1
  | tail t C ih | later t C ih => exact ih (Bool.and_eq_true_iff.mp h).2

namespace Tree

/-- Whether somewhere in a tree a minus sign that is a unary operator has an operand that begins with a
minus sign. -/
def DoublesMinus (m : ValueMode) {p : Part} (t : Tree p) : Prop :=
  ∃ x ∈ t.operations, x.1.symbol = "-" ∧ x.2.leadsMinus m = true

instance (m : ValueMode) {p : Part} (t : Tree p) : Decidable (t.DoublesMinus m) :=
  inferInstanceAs (Decidable (∃ _ ∈ _, _))

variable {m : ValueMode} {t : AnyNode}

theorem begins_operand (hraw : t.rawFree = true) {x : Operator × AnyNode} (hx : x ∈ t.operations) :
    Begins m (x.2.leadsMinus m) x.2.view := by
  obtain ⟨C, rfl⟩ := exists_fill_unary rfl t hx
  have hunary : (Expression.unary x.1 x.2).rawFree = true := C.rawFree_of_fill hraw
  exact begins x.2 (rawFree_field (rawFree_field (rawFree_node hunary).2).2).1

/-- A minus sign stands right before its operand. -/
theorem pieces_unary_minus {o : Operator} (ho : o.symbol = "-") (operand : AnyNode) (p : Place) :
    (Expression.unary o operand).pieces p = .word "-" :: operand.pieces p := by
  have hkeyword : o.isKeyword = false := by
    cases o
    case not | existsRow | notExistsRow => exact absurd ho (by decide)
    all_goals rfl
  show (Sql.word o.symbol ++ Sql.when o.isKeyword " " ++ operand.view).pieces p = _
  rw [hkeyword, ho]
  rfl

theorem isChain_pieces_iff (hraw : t.rawFree = true) (p : Place) :
    (t.pieces p).IsChain (Apart m) ↔ ¬t.DoublesMinus m := by
  constructor
  · rintro h ⟨x, hx, hsymbol, hleads⟩
    have hoperand : Begins m true x.2.view := hleads ▸ begins_operand hraw hx
    obtain ⟨C, rfl⟩ := exists_fill_unary rfl t hx
    obtain ⟨before, after, hfill⟩ := C.pieces_fill (rawFits_of_rawFree _ hraw) p
    rw [hfill, pieces_unary_minus hsymbol] at h
    obtain ⟨y, rest, hpieces, hy⟩ := hoperand (C.place p)
    have hminus := List.isChain_cons.mp h.left_of_append.right_of_append
    exact hminus.1 y (by rw [pieces, hpieces]; rfl) ⟨rfl, hy⟩
  · intro h
    have hjoins : ∀ x ∈ t.operations, JoinsApart m x.1 x.2.view := by
      intro x hx hsymbol
      have hleads : x.2.leadsMinus m = false := by
        by_contra hleads
        exact h ⟨x, hx, hsymbol, Bool.eq_true_of_not_eq_false hleads⟩
      exact hleads ▸ begins_operand hraw hx
    have hview : Composed.Any (fun _ => True) (JoinsApart m) t.view :=
      t.composed (fun _ _ => trivial) hjoins
    exact (hview.tidy p).apart

/-- What is written for a tree without raw text has a comment in it if and only if a unary minus in the
tree has an operand that begins with a minus sign. -/
theorem startsComment_addNode_iff (hraw : t.rawFree = true) (htexts : ∀ s ∈ t.verbatims, CalmText s)
    (d : Dialect) (p : Place) :
    StartsComment (Output.empty.addNode d m p t).sql ↔ t.DoublesMinus m := by
  have hview : Composed.Any CalmText (fun _ _ => True) t.view :=
    t.composed htexts fun _ _ => trivial
  calc StartsComment (Output.empty.addNode d m p t).sql
    _ ↔ ¬(t.pieces p).IsChain (Apart m) := Output.startsComment_addAll d m (hview.tame p)
    _ ↔ t.DoublesMinus m := by rw [isChain_pieces_iff hraw, not_not]

end Tree

/-- A statement without raw text, in which the texts that the tree supplies are free of marks, has a
comment in it if and only if a unary minus in it has an operand that begins with a minus sign. -/
theorem Statement.startsComment_iff (s : Statement) (hraw : s.node.rawFree = true)
    (htexts : ∀ x ∈ s.node.verbatims, CalmText x) (d : Dialect) :
    (∀ m, StartsComment (Output.empty.addNode d m .bare s.toNode).sql ↔ s.node.DoublesMinus m) ∧
      (StartsComment (s.compile d).sql ↔ s.node.DoublesMinus s.valueMode) :=
  have hmode (m : ValueMode) :
      StartsComment (Output.empty.addNode d m .bare s.toNode).sql ↔ s.node.DoublesMinus m :=
    Tree.startsComment_addNode_iff hraw htexts d .bare
  ⟨hmode, hmode s.valueMode⟩

/-- A new column, by default the negative of a negative number. -/
def defaultsToNegative : Statement where
  kind := .alterTable
  node := .alterTable (.table (.schemableIdentifier .none (.identifier "t"))) .none .none
    (.cons (.any (.addColumn (.columnDefinition (.column (.identifier "a")) (.dataType "integer")
      .none false false false
      (.some (Expression.unary .minus (Expression.value (.int (-1)))))))) .nil)
  isRoot := Eq.refl true

theorem Statement.startsComment_iff_defaultsToNegative :
    (defaultsToNegative.node.rawFree = true ∧
      ∀ x ∈ defaultsToNegative.node.verbatims, CalmText x) ∧
    ∀ d, StartsComment (defaultsToNegative.compile d).sql ∧
      ¬StartsComment (Output.empty.addNode d .bind .bare defaultsToNegative.toNode).sql := by
  have hraw : defaultsToNegative.node.rawFree = true := by decide
  have htexts : ∀ x ∈ defaultsToNegative.node.verbatims, CalmText x := by decide
  refine ⟨⟨hraw, htexts⟩, fun d => ?_⟩
  obtain ⟨hmode, hcompile⟩ := Statement.startsComment_iff defaultsToNegative hraw htexts d
  exact ⟨hcompile.mpr (by decide), (hmode .bind).not.mpr (by decide)⟩

/-- A selection of the negative of the negative of a column. -/
def negatedTwice : Statement where
  kind := .selectQuery
  node := (((Select.ofTable "t").select [Expression.unary .minus (Expression.unary .minus
    (Expression.reference "a"))])).toNode
  isRoot := Eq.refl true

/-- The operator and the operand do run together, with no other text of the tree around. -/
theorem Statement.not_forall_not_startsComment :
    ¬∀ s : Statement, s.node.rawFree = true → (∀ x ∈ s.node.verbatims, CalmText x) →
      ∀ d, ¬StartsComment (s.compile d).sql := by
  intro h
  exact h negatedTwice (by decide +kernel) (by decide +kernel) .sqlite (by decide +kernel)

end QueryTree
