import QueryTree.Node
import QueryTree.Sql.Compile

/-!
# Transformers

A transformer changes trees with the help of a state. It has a hook for the nodes in places that
take any kind, and for each kind a hook for the nodes of that kind. A hook is given the node and the
walk of what the node holds. It may run the walk and hand on its result, or give a new node instead.

A change says whether a tree was kept: what was not replaced, and holds nothing that was replaced,
is handed back as the very tree it was.
-/
namespace QueryTree

/-- The outcome of transforming a tree: none if the tree is kept, or the new tree. -/
abbrev Change (p : Part) := Option (Tree p)

namespace Change

/-- The tree after a change. -/
def apply {p : Part} (r : Change p) (t : Tree p) : Tree p := r.getD t

/-- The change of what is put together from two parts: it is kept if both are. -/
def both {p q r : Part} (make : Tree p → Tree q → Tree r) (t : Tree p) (u : Tree q) :
    Change p → Change q → Change r
  | none, none => none
  | a, b => some (make (a.getD t) (b.getD u))

end Change

structure Transformer (σ : Type) where
  onAny : AnyNode → StateM σ (Change (.slot .any)) → StateM σ (Change (.slot .any)) :=
    fun _ walk => walk
  onNode : (k : Kind) → Node k → StateM σ (Change (.slot (.node k))) →
      StateM σ (Change (.slot (.node k))) :=
    fun _ _ walk => walk

namespace Transformer

variable {σ : Type}

def identity : Transformer Unit := {}

/-- Transforms a part of a tree: parts are walked in order, and each node goes through its hooks. -/
def run (T : Transformer σ) : {p : Part} → Tree p → StateM σ (Change p)
  | _, .atom _ => pure none
  | _, .node k fields => T.onNode k (.node k fields) ((·.map (.node k)) <$> T.run fields)
  | _, .any t => T.onAny (.any t) ((·.map .any) <$> T.run t)
  | _, .none => pure none
  | _, .some t => (·.map .some) <$> T.run t
  | _, .nil => pure none
  | _, .cons t ts => do
    let a ← T.run t
    let b ← T.run ts
    pure (Change.both .cons t ts a b)
  | _, .done => pure none
  | _, .field t rest => do
    let a ← T.run t
    let b ← T.run rest
    pure (Change.both .field t rest a b)

/-- Transforms a statement, which must stay one of its kind. -/
def statement (T : Transformer σ) (s : Statement) : StateM σ (Except Error (Option Statement)) := do
  match ← T.run s.toNode with
  | none => pure (.ok none)
  | some t =>
    if t.kind = s.kind then pure ((Statement.ofNode t).map some)
    else pure (.error (.kindChanged s.kind t.kind))

end Transformer

end QueryTree
