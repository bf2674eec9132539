import QueryTree.Proofs.Qualification.Scope
import QueryTree.Proofs.Qualification.Targets

/-!
# The lexical rule of qualification

Which names qualification gives a schema to can be told from where they stand. A bare name stands for
a table if some statement around it has it as a target and none declares it. Names at the head of a
common table expression stay, foreign keys always refer to tables, and nothing else changes. The main
statement is that a run, which brings names into scope and takes them out again, comes to the tree
that this rule describes.
-/
namespace QueryTree.Qualification

open QueryTree.Tree (bareName)

def withSchema (schema : String) : Node .schemableIdentifier → Node .schemableIdentifier
  | .schemableIdentifier .none name => .schemableIdentifier (.some (.identifier schema)) name
  | .schemableIdentifier (.some s) name => .schemableIdentifier (.some s) name

def referTo (schema : String) : Node .references → Node .references
  | .references (.table name) columns action =>
    .references (.table (withSchema schema name)) columns action

/-- A bare name stands for a table among the statements around it. -/
def StandsForTable (enclosing : List AnyNode) (n : String) : Prop :=
  (∃ t ∈ enclosing, Target n t) ∧ ∀ t ∈ enclosing, ¬Declares n t

instance (enclosing : List AnyNode) (n : String) : Decidable (StandsForTable enclosing n) :=
  inferInstanceAs (Decidable (_ ∧ _))

/-- The rule for a node, from the node as it was and the node with its fields rewritten. -/
def rewriteNode (schema : String) (enclosing : List AnyNode) :
    (k : Kind) → (old new : Node k) → Node k
  | .schemableIdentifier, old, _ =>
    if StandsForTable enclosing (bareName old) then withSchema schema old else old
  | .references, _, new => referTo schema new
  | .commonTableName, old, _ => old
  | _, _, new => new

/-- The tree that the lexical rule gives, in the statements around it, innermost first. -/
def lexical (schema : String) : (enclosing : List AnyNode) → {p : Part} → Tree p → Tree p
  | _, _, .atom x => .atom x
  | e, _, .node k fields =>
    rewriteNode schema e k (.node k fields) (.node k (lexical schema e fields))
  | e, _, .any (k := k) t => .any (lexical schema (if k.isRoot then .any t :: e else e) t)
  | _, _, .none => .none
  | e, _, .some t => .some (lexical schema e t)
  | _, _, .nil => .nil
  | e, _, .cons t ts => .cons (lexical schema e t) (lexical schema e ts)
  | _, _, .done => .done
  | e, _, .field t rest => .field (lexical schema e t) (lexical schema e rest)

/-- A scope holds what the enclosing statements say of names. A name that is declared counts as no
table, whether the scope holds it as a target or not. -/
structure Agrees (enclosing : List AnyNode) (s : Scope) : Prop where
  ctes : ∀ n, n ∈ s.ctes ↔ ∃ t ∈ enclosing, Declares n t
  tables : ∀ n, n ∉ s.ctes → (n ∈ s.tables ↔ ∃ t ∈ enclosing, Target n t)

variable {schema : String} {enclosing : List AnyNode} {s : Scope} {k : Kind}

theorem agrees_empty : Agrees [] Scope.empty where
  ctes n := by simp [Scope.empty]
  tables n _ := by simp [Scope.empty]

theorem Agrees.enter (h : Agrees enclosing s) (t : Node k) :
    Agrees (.any t :: enclosing) (s.enter t) where
  ctes n := by
    rw [Scope.enter, List.mem_append, mem_commonTables, h.ctes n]
    simp
  tables n hn := by
    have houter : n ∉ s.ctes := fun hc => hn (List.mem_append_right _ hc)
    have hfresh : n ∈ s.fresh t ↔ Target n (.any t) ∧ n ∉ s.tables := by
      rw [Scope.mem_fresh, mem_targets]
      exact ⟨fun h => ⟨h.1, h.2.1⟩, fun h => ⟨h.1, h.2, hn⟩⟩
    simp only [Scope.enter, List.mem_append, hfresh, List.mem_cons, exists_eq_or_imp]
    rw [← h.tables n houter]
    by_cases hs : n ∈ s.tables
    · exact ⟨fun _ => .inr hs, fun _ => .inr hs⟩
    · exact or_congr_left (and_iff_left hs)

theorem Agrees.qualifies_iff (h : Agrees enclosing s) (n : String) :
    s.qualifies n = true ↔ StandsForTable enclosing n := by
  have hq : s.qualifies n = true ↔ n ∈ s.tables ∧ n ∉ s.ctes := by
    simp [Scope.qualifies, and_comm]
  have hc : n ∉ s.ctes ↔ ∀ t ∈ enclosing, ¬Declares n t := by
    rw [h.ctes n]
    simp
  rw [hq, StandsForTable, ← hc]
  exact and_congr_left (h.tables n)

private theorem apply_qualifyName (h : Agrees enclosing s) (t : Node .schemableIdentifier) :
    Change.apply (qualifyName schema s t) t =
      if StandsForTable enclosing (bareName t) then withSchema schema t else t := by
  match t with
  | .schemableIdentifier .none (.identifier n) =>
    show Change.apply (if s.qualifies n then _ else _) _ =
      if StandsForTable enclosing n then _ else _
    by_cases hn : StandsForTable enclosing n
    · rw [if_pos ((h.qualifies_iff n).mpr hn), if_pos hn]
      rfl
    · rw [if_neg (fun hq => hn ((h.qualifies_iff n).mp hq)), if_neg hn]
      rfl
  | .schemableIdentifier (.some schema') (.identifier n) => exact (ite_self _).symm

private theorem apply_qualifyReferences (t : Node .references)
    (r : Change (.slot (.node .references))) :
    Change.apply ((qualifyReferences schema (r.apply t)).or r) t = referTo schema (r.apply t) := by
  generalize h : r.apply t = u
  match u with
  | .references (.table (.schemableIdentifier .none name)) columns action => rfl
  | .references (.table (.schemableIdentifier (.some schema') name)) columns action => exact h

/-- The names in a name are not names of tables. -/
theorem run_name (fields : Tree (.fields (Kind.fields .schemableIdentifier))) (s : Scope) :
    (transformer schema).run fields s = (none, s) := by
  match fields with
  | .field .none (.field (.identifier _) .done) => rfl
  | .field (.some (.identifier _)) (.field (.identifier _) .done) => rfl

theorem apply_onNode (h : Agrees enclosing s) (fields : Tree (.fields k.fields))
    (ih : ((transformer schema).run fields s).1.apply fields = lexical schema enclosing fields) :
    Change.apply ((transformer schema).run (.node k fields) s).1 (.node k fields) =
      lexical schema enclosing (.node k fields) := by
  have hwalk : Change.apply (((transformer schema).run fields s).1.map (Tree.node k))
      (.node k fields) = .node k (lexical schema enclosing fields) := by
    rw [Change.apply_map, ih]
  cases k
  case schemableIdentifier =>
    rw [Transformer.run_node]
    show Change.apply ((qualifyName schema _ (Change.apply (Option.map _ _) _)).or
      (Option.map _ _)) _ = _
    rw [run_scope, run_name]
    show Change.apply ((qualifyName schema s _).or none) _ = _
    rw [Option.or_none]
    exact apply_qualifyName h _
  case references =>
    exact (apply_qualifyReferences _ _).trans (congrArg (referTo schema) hwalk)
  case commonTableName => rfl
  all_goals exact hwalk

theorem apply_run (h : Agrees enclosing s) {p : Part} (t : Tree p) :
    ((transformer schema).run t s).1.apply t = lexical schema enclosing t := by
  induction t generalizing s enclosing with
  | atom x => rfl
  | node k fields ih => exact apply_onNode h fields (ih h)
  | @any k t ih =>
    rw [lexical]
    cases hk : k.isRoot with
    | true =>
      rw [run_root hk, Change.apply_map, ih (h.enter t)]
      rfl
    | false =>
      rw [run_fragment hk, Change.apply_map, ih h]
      rfl
  | none => rfl
  | some t ih => rw [Transformer.run_some, Change.apply_map, ih h, lexical]
  | nil => rfl
  | cons t ts iht ihts =>
    rw [Transformer.run_cons, Change.apply_both, run_scope, iht h, ihts h, lexical]
  | done => rfl
  | field t rest iht ihrest =>
    rw [Transformer.run_field, Change.apply_both, run_scope, iht h, ihrest h, lexical]

/-- Qualification of a node of any kind, whatever it holds, comes to what the lexical rule says. -/
theorem apply_qualify (schema : String) (t : AnyNode) :
    (qualify schema t).apply t = lexical schema [] t :=
  apply_run agrees_empty t

end QueryTree.Qualification
