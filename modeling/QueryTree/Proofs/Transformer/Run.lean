import QueryTree.Transformer

/-!
# Runs of transformers

What a run does to each part of a tree: the change it makes and the state it leaves. A change of a
whole is read off the changes of its parts, so that the tree after a run can be told from the trees
after the runs of the parts.
-/
namespace QueryTree

namespace Change

variable {p q r : Part}

theorem apply_map (make : Tree p → Tree q) (t : Tree p) (a : Change p) :
    Change.apply (a.map make) (make t) = make (a.apply t) := by
  cases a <;> rfl

theorem apply_both (make : Tree p → Tree q → Tree r) (t : Tree p) (u : Tree q)
    (a : Change p) (b : Change q) :
    (Change.both make t u a b).apply (make t u) = make (a.apply t) (b.apply u) := by
  cases a <;> cases b <;> rfl

theorem both_eq_none {make : Tree p → Tree q → Tree r} {t : Tree p} {u : Tree q} {a : Change p}
    {b : Change q} : Change.both make t u a b = none ↔ a = none ∧ b = none := by
  cases a <;> cases b <;> simp [Change.both]

end Change

namespace Transformer

variable {σ : Type} (T : Transformer σ) {h : Shape}

theorem run_node (k : Kind) (fields : Tree (.fields k.fields)) :
    T.run (.node k fields) =
      T.onNode k (.node k fields) ((·.map (.node k)) <$> T.run fields) := rfl

theorem run_some (t : Slot h) (s : σ) :
    T.run (.some t) s = ((T.run t s).1.map .some, (T.run t s).2) := rfl

theorem run_cons (t : Slot h) (ts : Slot (.many h)) (s : σ) :
    T.run (.cons t ts) s =
      (Change.both .cons t ts (T.run t s).1 (T.run ts (T.run t s).2).1,
        (T.run ts (T.run t s).2).2) := rfl

theorem run_field {f : Field} {fs : List Field} (t : Slot f.shape) (rest : Tree (.fields fs))
    (s : σ) :
    T.run (.field t rest) s =
      (Change.both .field t rest (T.run t s).1 (T.run rest (T.run t s).2).1,
        (T.run rest (T.run t s).2).2) := rfl

end Transformer

end QueryTree
