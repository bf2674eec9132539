import QueryTree.Proofs.Transformer.Run
import QueryTree.Substitution

/-!
# What a run keeps

A hook that is overridden answers for its node in one of two ways: it gives a new node, or it walks
the node and hands on what the walk gives. What else it does, to the state or with what it sees, is
its own affair. A run keeps a tree if and only if no hook has given a new node in it. One new node
is enough to make new ones of all that it stands in, up to the root, also if it is equal to the node
that it replaces.
-/
namespace QueryTree

open QueryTree.Transformer (run_cons run_field)

inductive Answer (σ : Type) (p : Part)
  /-- It gives a new node and does not walk the old one. -/
  | replace (new : Tree p) (after : σ)
  /-- It walks the node from some state. Given what comes of that, it leaves a state of its choice
  and gives a new node, or none to hand on what the walk has given. -/
  | walk (before : σ) (next : Change p → σ → Option (Tree p) × σ)

namespace Answer

variable {σ : Type} {p : Part}

def default (s : σ) : Answer σ p := .walk s fun _ after => (none, after)

/-- What comes after the walk from which an answer goes on. -/
def afterWalk (walk : StateM σ (Change p)) (before : σ)
    (next : Change p → σ → Option (Tree p) × σ) : Option (Tree p) × σ :=
  next (walk before).1 (walk before).2

/-- The outcome of an answer, given the walk of the node. -/
def outcome (walk : StateM σ (Change p)) : Answer σ p → Change p × σ
  | .replace new after => (some new, after)
  | .walk before next =>
    ((afterWalk walk before next).1.or (walk before).1, (afterWalk walk before next).2)

def GivesNew (walk : StateM σ (Change p)) : Answer σ p → Prop
  | .replace _ _ => True
  | .walk before next => (afterWalk walk before next).1.isSome

variable {walk : StateM σ (Change p)} {a : Answer σ p}

theorem outcome_eq_none_iff : (a.outcome walk).1 = none ↔
    ¬a.GivesNew walk ∧ ∀ before next, a = .walk before next → (walk before).1 = none := by
  cases a with
  | replace new after => exact ⟨nofun, fun h => absurd trivial h.1⟩
  | walk before next =>
    rw [outcome, Option.or_eq_none_iff, GivesNew, Option.not_isSome_iff_eq_none]
    refine and_congr_right fun _ => ⟨fun h _ _ heq => ?_, fun h => h before next rfl⟩
    cases heq
    exact h

end Answer

structure Overrides (σ : Type) where
  onAny : AnyNode → σ → Answer σ (.slot .any) := fun _ => .default
  onNode : (k : Kind) → Node k → σ → Answer σ (.slot (.node k)) := fun _ _ => .default

namespace Overrides

variable {σ : Type} (O : Overrides σ)

def transformer : Transformer σ where
  onAny t walk s := (O.onAny t s).outcome walk
  onNode k t walk s := (O.onNode k t s).outcome walk

def walkAny {k : Kind} (t : Node k) : StateM σ (Change (.slot .any)) :=
  (·.map .any) <$> O.transformer.run t

def walkNode {k : Kind} (fields : Tree (.fields k.fields)) : StateM σ (Change (.slot (.node k))) :=
  (·.map (.node k)) <$> O.transformer.run fields

/-- From a part of a tree in a state, a run comes to another part, in some state. -/
inductive Reaches : {p q : Part} → Tree p → σ → Tree q → σ → Prop
  | here {p} (t : Tree p) (s) : Reaches t s t s
  | node {k fields s before next q s'} {u : Tree q} :
      O.onNode k (.node k fields) s = .walk before next → Reaches fields before u s' →
        Reaches (.node k fields) s u s'
  | any {k s before next q s'} {t : Node k} {u : Tree q} :
      O.onAny (.any t) s = .walk before next → Reaches t before u s' → Reaches (.any t) s u s'
  | some {h s q s'} {t : Slot h} {u : Tree q} : Reaches t s u s' → Reaches (.some t) s u s'
  | head {h s q s'} {t : Slot h} {ts} {u : Tree q} : Reaches t s u s' → Reaches (.cons t ts) s u s'
  | tail {h s q s'} {t : Slot h} {ts} {u : Tree q} :
      Reaches ts (O.transformer.run t s).2 u s' → Reaches (.cons t ts) s u s'
  | field {f : Field} {fs s q s'} {t : Slot f.shape} {rest : Tree (.fields fs)} {u : Tree q} :
      Reaches t s u s' → Reaches (.field t rest) s u s'
  | later {f : Field} {fs s q s'} {t : Slot f.shape} {rest : Tree (.fields fs)} {u : Tree q} :
      Reaches rest (O.transformer.run t s).2 u s' → Reaches (.field t rest) s u s'

/-- The hook for a node gives a new node in its place. -/
def Replaces : {p : Part} → Tree p → σ → Prop
  | _, .node k fields, s => (O.onNode k (.node k fields) s).GivesNew (O.walkNode fields)
  | _, .any t, s => (O.onAny (.any t) s).GivesNew (O.walkAny t)
  | _, .atom _, _ | _, .none, _ | _, .some _, _ | _, .nil, _ | _, .cons _ _, _ | _, .done, _
  | _, .field _ _, _ => False

/-- No hook gives a new node in the run of a part from a state. -/
def ReplacesNothing {p : Part} (t : Tree p) (s : σ) : Prop :=
  ∀ ⦃q⦄ (u : Tree q) (s' : σ), O.Reaches t s u s' → ¬O.Replaces u s'

variable {O}

theorem Reaches.trans {p q r : Part} {t : Tree p} {u : Tree q} {v : Tree r} {s s' s'' : σ}
    (h : O.Reaches t s u s') (h' : O.Reaches u s' v s'') : O.Reaches t s v s'' := by
  induction h with
  | here t s => exact h'
  | node hwalk _ ih => exact .node hwalk (ih h')
  | any hwalk _ ih => exact .any hwalk (ih h')
  | some _ ih => exact .some (ih h')
  | head _ ih => exact .head (ih h')
  | tail _ ih => exact .tail (ih h')
  | field _ ih => exact .field (ih h')
  | later _ ih => exact .later (ih h')

variable {h : Shape} {k : Kind} {s : σ}

private theorem replacesNothing_node (fields : Tree (.fields k.fields)) :
    O.ReplacesNothing (.node k fields) s ↔
      ¬(O.onNode k (.node k fields) s).GivesNew (O.walkNode fields) ∧
        ∀ before next, O.onNode k (.node k fields) s = .walk before next →
          O.ReplacesNothing fields before := by
  constructor
  · exact fun hnone =>
      ⟨hnone _ s (.here _ s), fun _ _ hwalk _ u s' hu => hnone u s' (.node hwalk hu)⟩
  · intro ⟨hhere, hfields⟩ _ u s' hu
    cases hu with
    | here => exact hhere
    | node hwalk hu => exact hfields _ _ hwalk u s' hu

private theorem replacesNothing_any (t : Node k) :
    O.ReplacesNothing (.any t) s ↔
      ¬(O.onAny (.any t) s).GivesNew (O.walkAny t) ∧
        ∀ before next, O.onAny (.any t) s = .walk before next → O.ReplacesNothing t before := by
  constructor
  · exact fun hnone =>
      ⟨hnone _ s (.here _ s), fun _ _ hwalk _ u s' hu => hnone u s' (.any hwalk hu)⟩
  · intro ⟨hhere, ht⟩ _ u s' hu
    cases hu with
    | here => exact hhere
    | any hwalk hu => exact ht _ _ hwalk u s' hu

private theorem replacesNothing_cons (t : Slot h) (ts : Slot (.many h)) :
    O.ReplacesNothing (.cons t ts) s ↔
      O.ReplacesNothing t s ∧ O.ReplacesNothing ts (O.transformer.run t s).2 := by
  constructor
  · exact fun hnone =>
      ⟨fun _ u s' hu => hnone u s' (.head hu), fun _ u s' hu => hnone u s' (.tail hu)⟩
  · intro ⟨ht, hts⟩ _ u s' hu
    cases hu with
    | here => exact id
    | head hu => exact ht u s' hu
    | tail hu => exact hts u s' hu

private theorem replacesNothing_field {f : Field} {fs : List Field} (t : Slot f.shape)
    (rest : Tree (.fields fs)) :
    O.ReplacesNothing (.field t rest) s ↔
      O.ReplacesNothing t s ∧ O.ReplacesNothing rest (O.transformer.run t s).2 := by
  constructor
  · exact fun hnone =>
      ⟨fun _ u s' hu => hnone u s' (.field hu), fun _ u s' hu => hnone u s' (.later hu)⟩
  · intro ⟨ht, hrest⟩ _ u s' hu
    cases hu with
    | here => exact id
    | field hu => exact ht u s' hu
    | later hu => exact hrest u s' hu

/-- What a run makes of a part is kept if and only if no hook gives a new node in it. -/
theorem run_eq_none_iff {p : Part} (t : Tree p) (s : σ) :
    (O.transformer.run t s).1 = none ↔ O.ReplacesNothing t s := by
  induction t generalizing s with
  | node k fields ih =>
    rw [replacesNothing_node]
    refine Answer.outcome_eq_none_iff.trans (and_congr_right fun _ => ?_)
    exact forall₃_congr fun before _ _ => Option.map_eq_none_iff.trans (ih before)
  | any t ih =>
    rw [replacesNothing_any]
    refine Answer.outcome_eq_none_iff.trans (and_congr_right fun _ => ?_)
    exact forall₃_congr fun before _ _ => Option.map_eq_none_iff.trans (ih before)
  | some t ih =>
    refine Option.map_eq_none_iff.trans ((ih s).trans ⟨fun hnone _ u s' hu => ?_, ?_⟩)
    · cases hu with
      | here => exact id
      | some hu => exact hnone u s' hu
    · exact fun hnone _ u s' hu => hnone u s' (.some hu)
  | cons t ts iht ihts => rw [run_cons, Change.both_eq_none, iht, ihts, replacesNothing_cons]
  | field t rest iht ihrest =>
    rw [run_field, Change.both_eq_none, iht, ihrest, replacesNothing_field]
  | atom x | none | nil | done =>
    refine ⟨fun _ _ u s' hu => ?_, fun _ => rfl⟩
    cases hu
    exact id

theorem isSome_run {p q : Part} {t : Tree p} {u : Tree q} {s s' : σ} (hu : O.Reaches t s u s')
    (hnew : O.Replaces u s') : (O.transformer.run t s).1.isSome := by
  rw [← Option.ne_none_iff_isSome, Ne, run_eq_none_iff]
  exact fun h => h u s' hu hnew

/-- Hooks of which none is overridden. -/
theorem transformer_default : ({} : Overrides Unit).transformer = Transformer.identity := rfl

theorem identity_run {p : Part} (t : Tree p) : (Transformer.identity.run t ()).1 = none := by
  rw [← transformer_default, run_eq_none_iff]
  intro q u s' _
  cases u <;> simp [Replaces, Answer.GivesNew, Answer.default, Answer.afterWalk]

/-- A run hands back the very tree that it was given if and only if no hook has given a new node in
it, and the transformer without hooks of its own always does. A new node makes all the parts new in
which it stands, from that node to the root. -/
theorem run_keeps_iff (O : Overrides σ) :
    (∀ {p : Part} (t : Tree p) (s : σ),
      (O.transformer.run t s).1 = none ↔
        ∀ ⦃q⦄ (u : Tree q) (s' : σ), O.Reaches t s u s' → ¬O.Replaces u s') ∧
    (∀ {p q r : Part} (t : Tree p) (v : Tree q) (u : Tree r) (s s' s'' : σ),
      O.Reaches t s v s' → O.Reaches v s' u s'' → O.Replaces u s'' →
        (O.transformer.run v s').1.isSome ∧ (O.transformer.run t s).1.isSome) ∧
    ∀ {p : Part} (t : Tree p), (Transformer.identity.run t ()).1 = none :=
  ⟨run_eq_none_iff,
    fun _ _ _ _ _ _ hv hu hnew => ⟨isSome_run hu hnew, isSome_run (hv.trans hu) hnew⟩,
    identity_run⟩

end Overrides

namespace Rules

/-- The answers by which rules replace nodes, with the record of hooks as the state. -/
def overrides (r : Rules) : Overrides (Array String) where
  onAny t record :=
    let record := record.push ("*" ++ t.kind.name)
    match r.nodes with
    | some (k, new) => if t.kind = k then .replace new record else .default record
    | none => .default record
  onNode k t record :=
    let record := record.push (label k)
    match r.replacement k t with
    | some new => .replace new record
    | none => .default record

theorem transformer_overrides (r : Rules) : r.overrides.transformer = r.transformer := by
  unfold Overrides.transformer transformer overrides
  congr 1
  · funext t walk record
    dsimp only
    cases r.nodes with
    | none => rfl
    | some rule =>
      dsimp only
      by_cases h : t.kind = rule.1
      · rw [if_pos h, if_pos h]
        rfl
      · rw [if_neg h, if_neg h]
        rfl
  · funext k t walk record
    dsimp only
    cases r.replacement k t <;> rfl

def renewed : Rules where
  identifiers := [("b", "b")]

def tableInSchema : Node .table :=
  .table (.schemableIdentifier (.some (.identifier "a")) (.identifier "b"))

theorem run_keeps_iff_renewed :
    let O := renewed.overrides
    let name : Node .identifier := .identifier "b"
    let record := #["table", "schemable_identifier", "identifier"]
    (O.Reaches tableInSchema #[] tableInSchema #[] ∧ O.Reaches tableInSchema #[] name record ∧
      O.Replaces name record) ∧
    (O.transformer.run tableInSchema #[]).1 = some tableInSchema ∧
    (O.transformer.run tableInSchema #[]).1.isSome :=
  have hname : renewed.overrides.Reaches tableInSchema #[] (.identifier "b")
      #["table", "schemable_identifier", "identifier"] :=
    .node rfl (.field (.node rfl (.later (.field (.here _ _)))))
  ⟨⟨.here _ _, hname, trivial⟩, rfl,
    ((Overrides.run_keeps_iff renewed.overrides).2.1 _ _ _ _ _ _ (.here _ _) hname trivial).1⟩

end Rules

end QueryTree
