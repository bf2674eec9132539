import QueryTree.Proofs.Sql.Slots
import QueryTree.Sql.Compile

/-!
# Templates

A template is the text of SQL around its slots. It is written in the same way whether values are
bound or inlined: only what is put into the slots differs.
-/
namespace QueryTree

/-- Text with slots in it: the text before the first slot, and the text after each. -/
structure Template where
  first : String
  rest : List String
  deriving DecidableEq

namespace Template

def fill (T : Template) (texts : List String) : String :=
  T.first ++ String.join (List.zipWith (· ++ ·) texts T.rest)

def after (s : String) (T : Template) : Template := ⟨s ++ T.first, T.rest⟩

def slotBefore (T : Template) : Template := ⟨"", T.first :: T.rest⟩

@[simp] theorem rest_after (s : String) (T : Template) : (T.after s).rest = T.rest := rfl

@[simp] theorem length_slotBefore (T : Template) :
    T.slotBefore.rest.length = T.rest.length + 1 := rfl

@[simp] theorem fill_after (s : String) (T : Template) (texts : List String) :
    (T.after s).fill texts = s ++ T.fill texts := String.append_assoc

@[simp] theorem fill_slotBefore (T : Template) (s : String) (texts : List String) :
    T.slotBefore.fill (s :: texts) = s ++ T.fill texts := by
  simp [fill, slotBefore, String.append_assoc]

def ofPieces (d : Dialect) : List Piece → Template
  | [] => ⟨"", []⟩
  | .word s :: ps => (ofPieces d ps).after s
  | .verbatim s :: ps => (ofPieces d ps).after s
  | .name s :: ps => (ofPieces d ps).after (d.identifier s)
  | .value _ :: ps => (ofPieces d ps).slotBefore

variable (d : Dialect)

theorem length_ofPieces (ps : List Piece) :
    (ofPieces d ps).rest.length = (ps.filterMap Piece.value?).length := by
  induction ps with
  | nil => rfl
  | cons x ps ih => cases x <;> simp [ofPieces, List.filterMap_cons, Piece.value?, ih]

end Template

def Dialect.placeholders (d : Dialect) (m k : Nat) : List String :=
  (List.range' (m + 1) k).map d.placeholder

namespace Output

variable (d : Dialect) (o : Output)

theorem addAll_bind (ps : List Piece) :
    o.addAll d .bind ps =
      ⟨o.sql ++ (Template.ofPieces d ps).fill
        (d.placeholders o.parameters.size (ps.filterMap Piece.value?).length),
       o.parameters ++ (ps.filterMap Piece.value?).toArray⟩ := by
  induction ps generalizing o with
  | nil => simp [addAll, Template.ofPieces, Template.fill, Dialect.placeholders]
  | cons x ps ih =>
    rw [addAll, List.foldl_cons]
    refine (ih _).trans ?_
    cases x <;>
      simp [add, write, Template.ofPieces, List.filterMap_cons, Piece.value?, Dialect.placeholders,
        List.range'_succ, String.append_assoc]

theorem addAll_inline (ps : List Piece) :
    o.addAll d .inline ps =
      ⟨o.sql ++ (Template.ofPieces d ps).fill ((ps.filterMap Piece.value?).map (literal d)),
       o.parameters⟩ := by
  induction ps generalizing o with
  | nil => simp [addAll, Template.ofPieces, Template.fill]
  | cons x ps ih =>
    rw [addAll, List.foldl_cons]
    refine (ih _).trans ?_
    cases x <;>
      simp [add, write, Template.ofPieces, List.filterMap_cons, Piece.value?, String.append_assoc]

end Output

namespace Statement

/-- Whether a statement binds its values: queries and raw text do, definitions of schema objects do
not. -/
def Binds (s : Statement) : Prop := s.kind.isQuery = true ∨ s.kind = .raw

instance (s : Statement) : Decidable s.Binds := inferInstanceAs (Decidable (_ ∨ _))

theorem valueMode_of_binds {s : Statement} (h : s.Binds) : s.valueMode = .bind := by
  rw [valueMode, if_pos]
  simpa [Binds] using h

theorem valueMode_of_not_binds {s : Statement} (h : ¬s.Binds) : s.valueMode = .inline := by
  rw [valueMode, if_neg]
  simpa [Binds] using h

end Statement

end QueryTree
