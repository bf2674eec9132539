import Mathlib.Data.Fintype.EquivFin
import QueryTree.Proofs.Sql.Replacement
import QueryTree.Proofs.Sql.Template
import QueryTree.Proofs.Tree.Opening
import QueryTree.Expression
import QueryTree.Query.Select

/-!
# Queries inside trees

A query that stands in a tree is written in parentheses or without. The innermost node around it that
sets a place decides: statements and raw text set a place where it gets them, and positions that
delimit set one where it does not. A position that delimits thus takes the parentheses away from all
that it holds, down to the next statement, and not only from the query that it holds directly.
-/
namespace QueryTree

/-- A value stands once in a row of slots, in a given place. -/
def Once (v : Value) (q : Place) (slots : List PlacedValue) : Prop :=
  ∃ l₁ l₂ : List PlacedValue, slots = l₁ ++ (q, v) :: l₂ ∧ ∀ x ∈ l₁ ++ l₂, x.2 ≠ v

namespace Once

variable {v : Value} {q : Place} {slots others : List PlacedValue}

theorem append (h : Once v q slots) (ho : ∀ x ∈ others, x.2 ≠ v) : Once v q (slots ++ others) := by
  obtain ⟨l₁, l₂, rfl, hne⟩ := h
  refine ⟨l₁, l₂ ++ others, by simp, fun x hx => ?_⟩
  rw [← List.append_assoc, List.mem_append] at hx
  exact hx.elim (hne x) (ho x)

theorem prepend (h : Once v q slots) (ho : ∀ x ∈ others, x.2 ≠ v) : Once v q (others ++ slots) := by
  obtain ⟨l₁, l₂, rfl, hne⟩ := h
  refine ⟨others ++ l₁, l₂, by simp, fun x hx => ?_⟩
  rw [List.append_assoc, List.mem_append] at hx
  exact hx.elim (ho x) (hne x)

end Once

namespace Opening

def place : {p : Part} → Opening p → p.Places → Place
  | _, .here, q => q
  | _, .node k C, q => C.place (k.place · q)
  | _, .any C, q => C.place q
  | _, .present C, q => C.place q
  | _, .head C _, q => C.place q
  | _, .tail _ C, q => C.place q
  | _, .field (f := f) C _, placeOf => C.place (placeOf f.name)
  | _, .later _ C, placeOf => C.place placeOf

/-- The place that a part in given places has for the part that an opening leads to. -/
def start : {p : Part} → Opening p → p.Places → Place
  | .slot _, _, q => q
  | .fields _, C, placeOf => placeOf C.label

def setting (step : Kind × String) : Option Place := step.1.setsPlace step.2

/-- The places that are set on the way to the open place, from the root. -/
def settings {p : Part} (C : Opening p) : List Place := C.path.filterMap setting

def innermost {p : Part} (C : Opening p) : Option Place := C.settings.getLast?

private theorem place_eq {p : Part} (C : Opening p) (q : p.Places) :
    C.place q = C.innermost.getD (C.start q) := by
  induction C with
  | here => rfl
  | node k C ih =>
    have hpath : (Opening.node k C).settings =
        (k.setsPlace C.label).toList ++ C.settings := by
      simp only [settings, path, List.filterMap_cons, setting]
      cases k.setsPlace C.label <;> rfl
    rw [place, ih, innermost, innermost, hpath]
    show C.settings.getLast?.getD ((k.setsPlace C.label).getD q) = _
    cases k.setsPlace C.label with
    | none => rfl
    | some r => cases h : C.settings.getLast? <;> simp [List.getLast?_cons, h]
  | any C ih => exact ih q
  | present C ih => exact ih q
  | head C ts ih => exact ih q
  | tail t C ih => exact ih q
  | field C rest ih => exact ih _
  | later t C ih => exact ih q

/-- The slots of an opening that is filled with a value of which it has no other. -/
private theorem once_slots_fill {v : Value} {p : Part} (C : Opening p) (q : p.Places)
    (hv : v ∉ C.outerValues) : Once v (C.place q) ((C.fill (.any (.value v))).slots q) := by
  have hother {r : Part} (t : Tree r) (q : r.Places) (ht : v ∉ t.allValues) :
      ∀ x ∈ t.slots q, x.2 ≠ v := fun x hx he =>
    ht (t.map_snd_slots q ▸ he ▸ List.mem_map_of_mem hx)
  induction C with
  | here => exact ⟨[], [], rfl, nofun⟩
  | node k C ih => exact ih _ hv
  | any C ih => exact ih q hv
  | present C ih => exact ih q hv
  | head C ts ih =>
    obtain ⟨hC, hts⟩ := not_or.mp (List.mem_append.not.mp hv)
    exact (ih q hC).append (hother ts q hts)
  | tail t C ih =>
    obtain ⟨ht, hC⟩ := not_or.mp (List.mem_append.not.mp hv)
    exact (ih q hC).prepend (hother t q ht)
  | field C rest ih =>
    obtain ⟨hC, hrest⟩ := not_or.mp (List.mem_append.not.mp hv)
    exact (ih _ hC).append (hother rest q hrest)
  | later t C ih =>
    obtain ⟨ht, hC⟩ := not_or.mp (List.mem_append.not.mp hv)
    exact (ih q hC).prepend (hother t _ ht)

end Opening

private theorem Piece.eq_value_of_slot? {x : Place × Piece} {q : Place} {v : Value}
    (h : Piece.slot? x = some (q, v)) : x = (q, .value v) := by
  obtain ⟨r, x⟩ := x
  cases x with
  | value w =>
    cases h
    rfl
  | word s => cases h
  | verbatim s => cases h
  | name s => cases h

namespace Sql

def put (v : Value) (b : Sql) (w : Value) : Sql := if w = v then b else piece (.value w)

theorem flatMap_replaced_put (v : Value) (b : Sql) (xs : List (Place × Piece))
    (h : ∀ x ∈ xs.filterMap Piece.slot?, x.2 ≠ v) :
    xs.flatMap (Piece.replaced (put v b)) = xs.map Prod.snd := by
  induction xs with
  | nil => rfl
  | cons x xs ih =>
    have hx : Piece.replaced (put v b) x = [x.2] := by
      obtain ⟨r, x⟩ := x
      cases x with
      | value w =>
        have hw : w ≠ v := h (r, w) (by simp [Piece.slot?, Piece.value?])
        simp [Piece.replaced, put, hw]
      | word s => rfl
      | verbatim s => rfl
      | name s => rfl
    rw [List.flatMap_cons, hx, List.map_cons, ih fun y hy => h y ?_]
    · rfl
    · rw [List.filterMap_cons]
      cases Piece.slot? x with
      | none => exact hy
      | some z => exact List.mem_cons_of_mem _ hy

/-- Only the pieces of what is put in the place of a value change if the value has a single slot. -/
private theorem pieces_replace_put {a : Sql} {p q : Place} {v : Value} (h : Once v q (a.slots p)) :
    ∃ before after : List Piece, ∀ b : Sql,
      (a.replace (put v b)).pieces p = before ++ b.pieces q ++ after := by
  obtain ⟨l₁, l₂, heq, hne⟩ := h
  obtain ⟨xs, ys, hxs, hl₁, hys⟩ := List.filterMap_eq_append_iff.mp heq
  obtain ⟨zs, y, ws, rfl, hzs, hy, hl₂⟩ := List.filterMap_eq_cons_iff.mp hys
  obtain rfl := Piece.eq_value_of_slot? hy
  refine ⟨(xs ++ zs).map Prod.snd, ws.map Prod.snd, fun b => ?_⟩
  have hbefore : ∀ x ∈ (xs ++ zs).filterMap Piece.slot?, x.2 ≠ v := by
    rw [List.filterMap_append, hl₁, List.filterMap_eq_nil_iff.mpr hzs, List.append_nil]
    exact fun x hx => hne x (List.mem_append_left _ hx)
  have hafter : ∀ x ∈ ws.filterMap Piece.slot?, x.2 ≠ v := by
    rw [hl₂]
    exact fun x hx => hne x (List.mem_append_right _ hx)
  have hput : Piece.replaced (put v b) (q, .value v) = b.pieces q := by
    simp [Piece.replaced, put]
  rw [pieces_replace, hxs, ← List.append_assoc, List.flatMap_append, List.flatMap_cons, hput,
    flatMap_replaced_put v b _ hbefore, flatMap_replaced_put v b _ hafter, List.append_assoc]

end Sql

instance : Infinite Value := Infinite.of_injective Value.string fun _ _ h => by
  cases h
  rfl

namespace Opening

variable {u : AnyNode}

/-- What fills an opening is written in the place of the opening, with pieces around it that do not
depend on what it is. -/
theorem pieces_fill (C : Opening (.slot .any)) (h : (C.fill u).RawFits) (p : Place) :
    ∃ before after : List Piece, ∀ v : AnyNode,
      (C.fill v).pieces p = before ++ v.pieces (C.place p) ++ after := by
  obtain ⟨w, hw⟩ := Infinite.exists_notMem_finset C.outerValues.toFinset
  have hfresh : w ∉ C.outerValues := fun hmem => hw (List.mem_toFinset.mpr hmem)
  have hraw : (C.fill (.any (.value w))).RawFits := C.rawFits_fill h ⟨trivial, trivial, trivial⟩
  have honce : Once w (C.place p) ((C.fill (.any (.value w))).sql.slots p) := by
    rw [show (C.fill (.any (.value w))).sql.slots p = (C.fill (.any (.value w))).slots p from
      Tree.slots_view _ hraw p]
    exact C.once_slots_fill p hfresh
  obtain ⟨before, after, hpieces⟩ := Sql.pieces_replace_put honce
  refine ⟨before, after, fun v => ?_⟩
  -- The value `w` is a mark: what fills the opening takes its place.
  have hfill : (C.fill (.any (.value w))).replaceValues
      (fun x => if x = w then v else .any (.value x)) = C.fill v := by
    have hkeep : ∀ x ∈ C.outerValues, (if x = w then v else .any (.value x)) = .any (.value x) :=
      fun x hx => if_neg fun (he : x = w) => hfresh (he ▸ hx)
    rw [C.replaceValues_fill _ w rfl hkeep, if_pos rfl]
  have hput : (fun x => Tree.sql (if x = w then v else .any (.value x))) = Sql.put w v.sql := by
    funext x
    by_cases hx : x = w
    · rw [if_pos hx, Sql.put, if_pos hx]
    · rw [if_neg hx, Sql.put, if_neg hx]
      rfl
  calc (C.fill v).pieces p
    _ = (Sql.replace (Sql.put w v.sql) (C.fill (.any (.value w))).sql).pieces p := by
      rw [← hfill, Tree.pieces_replaceValues, ← Sql.pieces_replace, hput]
    _ = before ++ v.pieces (C.place p) ++ after := hpieces v.sql

/-- A query puts parentheses around itself where its place is nested. -/
theorem pieces_query : (v : AnyNode) → v.kind.isQuery = true → (p : Place) →
    v.pieces p = if p = .nested then .word "(" :: (v.pieces .bare ++ [.word ")"]) else v.pieces .bare
  | .any (k := k) (.node _ fields), h, .bare => rfl
  | .any (k := k) (.node _ fields), h, .nested => by
    cases k
    case selectQuery => exact Sql.pieces_statement_nested _
    case insertQuery => exact Sql.pieces_statement_nested _
    case updateQuery => exact Sql.pieces_statement_nested _
    case deleteQuery => exact Sql.pieces_statement_nested _
    all_goals cases h

/-- Whether the node that the open place is a part of supplies delimiters for it. -/
def Delimited (C : Opening (.slot .any)) : Prop :=
  C.path.getLast?.bind setting = some .bare

instance (C : Opening (.slot .any)) : Decidable C.Delimited := inferInstanceAs (Decidable (_ = _))

theorem innermost_of_delimited {C : Opening (.slot .any)} (h : C.Delimited) :
    C.innermost = some .bare := by
  obtain ⟨step, hlast, hsets⟩ := Option.bind_eq_some_iff.mp h
  obtain ⟨steps, hpath⟩ := List.getLast?_eq_some_iff.mp hlast
  rw [innermost, settings, hpath, List.filterMap_append, List.filterMap_cons_some hsets]
  exact List.getLast?_concat

theorem place_eq_nested_iff (C : Opening (.slot .any)) :
    C.place .bare = .nested ↔ C.innermost = some .nested := by
  rw [place_eq]
  cases C.innermost with
  | none => exact ⟨nofun, nofun⟩
  | some p => simp

/-- A query inside a statement is written in parentheses of its own if and only if the innermost node
around it that sets a place has it nested. There are none in a position that delimits, at whatever
depth, and none in a definition, unless a query or raw text stands between. -/
theorem compile_fill_query (C : Opening (.slot .any)) (h : (C.fill u).RawFits) :
    (C.Delimited → C.innermost = some .bare) ∧
    ∃ before after : List Piece,
      (∀ v : AnyNode, (C.fill v).pieces .bare = before ++ v.pieces (C.place .bare) ++ after) ∧
      ∀ v : AnyNode, v.kind.isQuery = true → ∀ s : Statement, s.toNode = C.fill v → ∀ d,
        s.compile d = Output.empty.addAll d s.valueMode (before ++
          (if C.innermost = some .nested then .word "(" :: (v.pieces .bare ++ [.word ")"])
            else v.pieces .bare) ++ after) := by
  obtain ⟨before, after, hpieces⟩ := C.pieces_fill h .bare
  refine ⟨innermost_of_delimited, before, after, hpieces, fun v hv s hs d => ?_⟩
  rw [Statement.compile, Output.addNode, hs, hpieces, pieces_query v hv,
    if_congr C.place_eq_nested_iff rfl rfl]

/-- A selection that is filtered by a comparison in parentheses, with one side of it open. -/
def comparedInParens : Opening (.slot .any) :=
  .any (.node .selectQuery (.later .none (.later (.atom false) (.later .nil (.later .none
    (.later .nil (.field (.present (.node .whereClause (.field (.any (.node .parens (.field
      (.any (.node .binaryOperation (.field .here (.field (.operator .eq)
        (.field (Expression.value (.int 1)) .done))))) .done))) .done)))
      (.field .none (.field .none (.field .none (.field .none (.field .none
        (.field .nil .done)))))))))))))

theorem compile_fill_query_comparedInParens :
    (comparedInParens.fill (.any Tree.selectAll)).RawFits ∧
    (¬comparedInParens.Delimited ∧ comparedInParens.innermost = some .bare) ∧
    ∃ before after : List Piece, ∀ v : AnyNode, v.kind.isQuery = true →
      ∀ s : Statement, s.toNode = comparedInParens.fill v → ∀ d,
        s.compile d = Output.empty.addAll d s.valueMode (before ++ v.pieces .bare ++ after) :=
  have hraw : (comparedInParens.fill (.any Tree.selectAll)).RawFits := by decide
  have ⟨_, before, after, _, hquery⟩ := compile_fill_query comparedInParens hraw
  ⟨hraw, ⟨by decide, rfl⟩, before, after, hquery⟩

/-- A query is not in parentheses of its own in every place that does not delimit. -/
theorem not_forall_query_in_parens :
    ¬∀ (C : Opening (.slot .any)) (u : AnyNode), (C.fill u).RawFits → C.path ≠ [] →
      ¬C.Delimited → ∃ before after : List Piece, ∀ v : AnyNode,
        (C.fill v).pieces .bare = before ++ v.pieces .nested ++ after := by
  intro h
  obtain ⟨before, after, hpieces⟩ :=
    h comparedInParens (.any Tree.selectAll) (by decide) nofun (by decide)
  -- The pieces around the open place are counted with a single word in it and with a query.
  have hword : 11 = (before ++ [Piece.word "*"] ++ after).length :=
    congrArg List.length (hpieces (.any Tree.selectAll))
  have hquery : 12 = (before ++
      [Piece.word "(", Piece.word "select ", Piece.word "*", Piece.word ")"] ++ after).length :=
    congrArg List.length (hpieces (.any (Select.toNode {})))
  simp only [List.length_append, List.length_cons, List.length_nil] at hword hquery
  omega

end Opening

end QueryTree
