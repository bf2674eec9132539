import QueryTree.Proofs.Sql.Parameters
import QueryTree.Proofs.Sql.Replacement

/-!
# SQL without its values

The template of a tree is determined by the tree with nothing in the places of its values. So what
stands in the slots is all in which SQL depends on values: placeholders, numbered in order, where
values are bound, and literals where they are inlined.
-/
namespace QueryTree

/-- The piece with nothing in its slot, if it is one. -/
def Piece.blank : Piece → Piece
  | .value _ => .value .null
  | x => x

private theorem Template.ofPieces_blank (d : Dialect) (ps : List Piece) :
    ofPieces d (ps.map Piece.blank) = ofPieces d ps := by
  induction ps with
  | nil => rfl
  | cons x ps ih => cases x <;> simp [Piece.blank, ofPieces, ih]

namespace Tree

variable (d : Dialect) (p : Place)

def template (t : AnyNode) : Template := .ofPieces d (t.pieces p)

private theorem pieces_blank (t : AnyNode) : t.blank.pieces p = (t.pieces p).map Piece.blank := by
  have hone (x : Place × Piece) :
      Piece.replaced (fun _ => Tree.sql (.any (.value .null))) x = [x.2.blank] := by
    obtain ⟨q, x⟩ := x
    cases x <;> rfl
  calc t.blank.pieces p
    _ = (t.sql.placedPieces p).flatMap (Piece.replaced fun _ => Tree.sql (.any (.value .null))) :=
      pieces_replaceValues _ t p
    _ = (t.sql.placedPieces p).map (Piece.blank ∘ Prod.snd) := by
      rw [funext hone]
      exact List.map_eq_flatMap.symm
    _ = (t.pieces p).map Piece.blank := by
      rw [← List.map_map, Sql.map_snd_placedPieces]
      rfl

/-- The template of a node does not depend on its values. -/
theorem template_blank (t : AnyNode) : t.blank.template d p = t.template d p := by
  rw [template, pieces_blank, Template.ofPieces_blank, template]

theorem length_template {t : AnyNode} (h : t.RawFits) :
    (t.template d p).rest.length = t.allValues.length := by
  rw [template, Template.length_ofPieces, t.filterMap_value?_pieces h]

end Tree

namespace Output

variable (d : Dialect) (p : Place) (o : Output) {t : AnyNode}

private theorem addNode_bind (h : t.RawFits) :
    o.addNode d .bind p t =
      ⟨o.sql ++ (t.template d p).fill (d.placeholders o.parameters.size t.allValues.length),
       o.parameters ++ t.allValues.toArray⟩ := by
  rw [addNode, addAll_bind, t.filterMap_value?_pieces h, Tree.template]

theorem addNode_inline (h : t.RawFits) :
    o.addNode d .inline p t =
      ⟨o.sql ++ (t.template d p).fill (t.allValues.map (literal d)), o.parameters⟩ := by
  rw [addNode, addAll_inline, t.filterMap_value?_pieces h, Tree.template]

end Output

namespace Statement

theorem kind_blank (s : Statement) : s.toNode.blank.kind = s.kind := by
  obtain ⟨k, t, hk⟩ := s
  have hvalue : k ≠ .value := fun h => absurd (h ▸ hk) (by decide)
  exact congrArg Tree.kind (Tree.replaceValues_any _ hvalue t)

theorem binds_of_blank_eq {s s' : Statement} (h : s.toNode.blank = s'.toNode.blank)
    (hs : s.Binds) : s'.Binds := by
  have hkind : s.kind = s'.kind := by rw [← kind_blank, h, kind_blank]
  rwa [Binds, ← hkind]

variable (d : Dialect) {s : Statement}

theorem compile_of_binds (h : s.Binds) :
    (s.compile d).sql = (s.toNode.template d .bare).fill
      (d.placeholders 0 (s.toNode.template d .bare).rest.length) := by
  rw [compile, valueMode_of_binds h, Output.addNode, Output.addAll_bind, Tree.template,
    Template.length_ofPieces]
  exact String.empty_append

theorem compile_of_not_binds (h : ¬s.Binds) (hraw : s.node.RawFits) :
    s.compile d =
      ⟨(s.toNode.template d .bare).fill (s.node.allValues.map (Output.literal d)), #[]⟩ := by
  have hnode : s.toNode.RawFits := hraw
  rw [compile, valueMode_of_not_binds h, Output.addNode_inline d _ _ hnode]
  exact congrArg (Output.mk · #[]) String.empty_append

/-- SQL depends on values in its slots only. The template of a node, which is the template of the node
without its values, has a slot for each value; placeholders fill them in order where values are bound,
and literals do where values are inlined. So queries that differ in their values have the same SQL,
numbered from one, and definitions have their values where a query has placeholders. -/
theorem values_only_in_slots :
    (∀ t : AnyNode, t.RawFits → ∀ (d : Dialect) (p : Place) (o : Output),
      (t.blank.template d p).rest.length = t.allValues.length ∧
      o.addNode d .bind p t =
        ⟨o.sql ++ (t.blank.template d p).fill
          (d.placeholders o.parameters.size t.allValues.length),
         o.parameters ++ t.allValues.toArray⟩ ∧
      o.addNode d .inline p t =
        ⟨o.sql ++ (t.blank.template d p).fill (t.allValues.map (Output.literal d)),
         o.parameters⟩) ∧
    (∀ s s' : Statement, s.Binds → s.toNode.blank = s'.toNode.blank →
      ∀ d, (s.compile d).sql = (s'.compile d).sql) ∧
    (∀ s : Statement, s.Binds → s.node.RawFits →
      (s.compile .postgres).sql = (s.toNode.blank.template .postgres .bare).fill
        ((List.range' 1 s.node.allValues.length).map fun n => "$" ++ toString n)) ∧
    ∀ s : Statement, ¬s.Binds → s.node.RawFits → ∀ d,
      s.compile d = ⟨(s.toNode.blank.template d .bare).fill
        (s.node.allValues.map (Output.literal d)), #[]⟩ := by
  refine ⟨fun t h d p o => ?_, fun s s' hs hblank d => ?_, fun s hs hraw => ?_,
    fun s hs hraw d => ?_⟩
  · rw [Tree.template_blank]
    exact ⟨Tree.length_template d p h, Output.addNode_bind d p o h, Output.addNode_inline d p o h⟩
  · have htemplate : s.toNode.template d .bare = s'.toNode.template d .bare := by
      rw [← Tree.template_blank, hblank, Tree.template_blank]
    rw [compile_of_binds d hs, compile_of_binds d (binds_of_blank_eq hblank hs), htemplate]
  · have hnode : s.toNode.RawFits := hraw
    rw [compile_of_binds _ hs, Tree.length_template _ _ hnode, Tree.template_blank]
    rfl
  · rw [compile_of_not_binds d hs hraw, Tree.template_blank]

/-- A table with a column that holds nothing unless it is given something. -/
def emptyByDefault : Statement where
  kind := .createTable
  node := .createTable (.table (.schemableIdentifier .none (.identifier "t"))) false false
    (.cons (.columnDefinition (.column (.identifier "c")) (.dataType "text") .none false false false
      (.some (.any (.value .null)))) .nil)
  isRoot := rfl

theorem values_only_in_slots_rawAndInner :
    let s' := { rawAndInner with
      node := rawAndInner.node.replaceValues fun _ => .any (.value .null) }
    (rawAndInner.toNode.RawFits ∧ rawAndInner.Binds ∧ rawAndInner.toNode.blank = s'.toNode.blank ∧
      ¬emptyByDefault.Binds ∧ emptyByDefault.node.RawFits) ∧
    (∀ d p, (rawAndInner.toNode.blank.template d p).rest.length = 4) ∧
    (∀ d, (rawAndInner.compile d).sql = (s'.compile d).sql) ∧
    (rawAndInner.compile .postgres).sql =
      (rawAndInner.toNode.blank.template .postgres .bare).fill ["$1", "$2", "$3", "$4"] ∧
    ∀ d, emptyByDefault.compile d =
      ⟨(emptyByDefault.toNode.blank.template d .bare).fill ["NULL"], #[]⟩ :=
  have hraw : rawAndInner.toNode.RawFits := by decide
  have hbinds : rawAndInner.Binds := by decide
  have hinlines : ¬emptyByDefault.Binds := by decide
  have hdefault : emptyByDefault.node.RawFits := by decide
  ⟨⟨hraw, hbinds, rfl, hinlines, hdefault⟩,
    fun d p => (values_only_in_slots.1 _ hraw d p .empty).1,
    values_only_in_slots.2.1 _ _ hbinds rfl,
    values_only_in_slots.2.2.1 _ hbinds hraw,
    values_only_in_slots.2.2.2 _ hinlines hdefault⟩

end Statement

end QueryTree
