import QueryTree.Pipeline
import QueryTree.Proofs.Sql.Fragments
import QueryTree.Proofs.Transformer.Sharing
import QueryTree.Proofs.Tree.Loading
import QueryTree.Proofs.Tree.Opening

/-!
# Raw text in rewritten trees

Raw text surrounds its parameters when it is made and when it is loaded, and rewriting keeps that. A
hook may give any node in which raw text fits. A walk takes fragments over as they are and gives one
parameter for each that there was. So in whatever comes of loading, making and rewriting every raw text
has one more fragment than parameters, and all of both are written.
-/
namespace QueryTree

open QueryTree.Transformer (run_some run_cons run_field)

theorem Change.rawFits_or {p : Part} {t : Tree p} {a r : Change p} (hr : (r.apply t).RawFits)
    (ha : ∀ new ∈ a, new.RawFits) : (Change.apply (a.or r) t).RawFits := by
  cases a with
  | none => exact hr
  | some new => exact ha new rfl

/-- Every hook, given a node in which raw text fits and walks that keep it so, answers with a node in
which raw text fits. -/
structure Transformer.GivesFit {σ : Type} (T : Transformer σ) : Prop where
  onAny (t : AnyNode) (walk : StateM σ (Change (.slot .any))) (ht : t.RawFits)
    (hwalk : ∀ s, ((walk s).1.apply t).RawFits) (s : σ) : ((T.onAny t walk s).1.apply t).RawFits
  onNode (k : Kind) (t : Node k) (walk : StateM σ (Change (.slot (.node k)))) (ht : t.RawFits)
    (hwalk : ∀ s, ((walk s).1.apply t).RawFits) (s : σ) : ((T.onNode k t walk s).1.apply t).RawFits

def Answer.GivesFit {σ : Type} {p : Part} (t : Tree p) : Answer σ p → Prop
  | .replace new _ => new.RawFits
  | .walk _ next => ∀ r s, (Change.apply r t).RawFits → ∀ new ∈ (next r s).1, new.RawFits

namespace Overrides

variable {σ : Type} {O : Overrides σ}

theorem rawFits_outcome {p : Part} {t : Tree p} {walk : StateM σ (Change p)}
    (hwalk : ∀ s, ((walk s).1.apply t).RawFits) {a : Answer σ p} (ha : a.GivesFit t) :
    ((a.outcome walk).1.apply t).RawFits := by
  cases a with
  | replace new after => exact ha
  | walk before next => exact Change.rawFits_or (hwalk before) (ha _ _ (hwalk before))

/-- A transformer keeps raw text fit if it fits in the new nodes that its hooks give. -/
theorem givesFit (hany : ∀ t s, (O.onAny t s).GivesFit t)
    (hnode : ∀ k t s, (O.onNode k t s).GivesFit t) : O.transformer.GivesFit where
  onAny t _ _ hwalk s := rawFits_outcome hwalk (hany t s)
  onNode k t _ _ hwalk s := rawFits_outcome hwalk (hnode k t s)

end Overrides

namespace Tree

theorem rawFits_identifier : (t : Node .identifier) → t.RawFits
  | .identifier _ => ⟨trivial, trivial, trivial⟩

theorem rawFits_schemableIdentifier : (t : Node .schemableIdentifier) → t.RawFits
  | .schemableIdentifier .none name => ⟨trivial, trivial, rawFits_identifier name, trivial⟩
  | .schemableIdentifier (.some schema) name =>
    ⟨trivial, rawFits_identifier schema, rawFits_identifier name, trivial⟩

theorem rawFits_table : (t : Node .table) → t.RawFits
  | .table name => ⟨trivial, rawFits_schemableIdentifier name, trivial⟩

end Tree

namespace Rules

variable {r : Rules}

private theorem rawFits_replacement {k : Kind} {t new : Node k} (h : r.replacement k t = some new) :
    new.RawFits := by
  cases k
  case table => exact Tree.rawFits_table new
  case identifier => exact Tree.rawFits_identifier new
  case column =>
    match t with
    | .column (.identifier n) =>
      obtain ⟨s, -, rfl⟩ := Option.map_eq_some_iff.mp h
      exact ⟨trivial, Tree.rawFits_identifier _, trivial⟩
  case dataType =>
    match t with
    | .dataType text =>
      obtain ⟨s, -, rfl⟩ := Option.map_eq_some_iff.mp h
      exact ⟨trivial, trivial, trivial⟩
  case operator =>
    match t with
    | .operator o =>
      obtain ⟨s, -, rfl⟩ := Option.map_eq_some_iff.mp h
      exact ⟨trivial, trivial, trivial⟩
  case value =>
    match t with
    | .value v =>
      obtain ⟨s, -, rfl⟩ := Option.map_eq_some_iff.mp h
      exact ⟨trivial, trivial, trivial⟩
  all_goals exact nomatch h

/-- Rules keep raw text fit if it fits in the node that they put in place of a kind. -/
theorem givesFit (hnodes : ∀ rule ∈ r.nodes, rule.2.RawFits) : r.transformer.GivesFit := by
  rw [← transformer_overrides]
  refine Overrides.givesFit (fun t record => ?_) fun k t record => ?_
  · unfold overrides
    dsimp only
    split
    · split
      · exact hnodes _ ‹_›
      · nofun
    · nofun
  · unfold overrides
    dsimp only
    split
    · exact rawFits_replacement ‹_›
    · nofun

end Rules

namespace Qualification

variable (schema : String)

private theorem rawFits_qualifyReferences {t : Node .references} (ht : t.RawFits) :
    ∀ new ∈ qualifyReferences schema t, new.RawFits := by
  intro new hnew
  match t with
  | .references (.table (.schemableIdentifier .none name)) columns action =>
    obtain rfl := Option.some.inj hnew
    exact ⟨trivial, Tree.rawFits_table _, ht.2.2⟩
  | .references (.table (.schemableIdentifier (.some _) name)) columns action => exact nomatch hnew

/-- Qualification keeps raw text fit. -/
theorem givesFit : (transformer schema).GivesFit where
  onAny t walk _ hwalk s := by
    match t with
    | .any (k := k) t =>
      show ((onAny (.any t) walk s).1.apply (.any t)).RawFits
      unfold onAny
      dsimp only
      split
      · exact hwalk _
      · exact hwalk s
  onNode k t walk ht hwalk s := by
    cases k
    case schemableIdentifier => exact Tree.rawFits_schemableIdentifier _
    case references =>
      exact Change.rawFits_or (hwalk s) (rawFits_qualifyReferences schema (hwalk s))
    case commonTableName => exact ht
    all_goals exact hwalk s

end Qualification

namespace Transformer

variable {σ : Type} (T : Transformer σ)

/-- A run gives as many members of a list as there were. -/
theorem length_run {h : Shape} : (ts : Slot (.many h)) → (s : σ) →
    ((T.run ts s).1.apply ts).toList.length = ts.toList.length
  | .nil, _ => rfl
  | .cons t ts, s => by
    rw [run_cons, Change.apply_both]
    exact congrArg (· + 1) (length_run ts _)

private theorem nodeFits_run {k : Kind} {fields : Tree (.fields k.fields)}
    (h : Tree.NodeFits k fields) (s : σ) : Tree.NodeFits k ((T.run fields s).1.apply fields) := by
  cases k
  case raw =>
    match fields with
    | .field (.atom fragments) (.field parameters .done) =>
      rw [run_field, Change.apply_both, run_field, Change.apply_both]
      exact h.trans (congrArg (· + 1) (T.length_run parameters s).symm)
  all_goals trivial

variable {T}

/-- A run keeps raw text fit if every hook does. -/
private theorem GivesFit.rawFits_run (hT : T.GivesFit) {p : Part} {t : Tree p} (ht : t.RawFits)
    (s : σ) : ((T.run t s).1.apply t).RawFits := by
  induction t generalizing s with
  | atom | none | nil | done => exact ht
  | node k fields ih =>
    -- A hook may start the walk in any state, so the walk has to fit whatever the state is.
    refine hT.onNode k _ _ ht (fun s => ?_) s
    show (Change.apply ((T.run fields s).1.map (.node k)) _).RawFits
    rw [Change.apply_map]
    exact ⟨T.nodeFits_run ht.1 s, ih ht.2 s⟩
  | any t ih =>
    refine hT.onAny _ _ ht (fun s => ?_) s
    show (Change.apply ((T.run t s).1.map .any) _).RawFits
    rw [Change.apply_map]
    exact ih ht s
  | some t ih =>
    rw [run_some, Change.apply_map]
    exact ih ht s
  | cons t ts iht ihts =>
    rw [run_cons, Change.apply_both]
    exact ⟨iht ht.1 s, ihts ht.2 _⟩
  | field t rest iht ihrest =>
    rw [run_field, Change.apply_both]
    exact ⟨iht ht.1 s, ihrest ht.2 _⟩

end Transformer

/-- A part of a tree that is loaded from JSON, made with raw text that was made of fragments and
parameters, of a text alone or of a text with values, or rewritten. -/
inductive Obtained : {p : Part} → Tree p → Prop
  | loaded {x : Json} {t : AnyNode} : Tree.ofJson x = .ok t → Obtained t
  | loadedText {text : String} {t : AnyNode} : Tree.ofText text = .ok t → Obtained t
  | loadedPart {x : Json} {h : Shape} {t : Slot h} : x.readings h = .ok t → Obtained t
  | raw {fragments : List String} {parameters : List AnyNode} {t : Node .raw} :
      (∀ u ∈ parameters, Obtained u) → Raw.ofParts fragments parameters = .ok t → Obtained t
  | verbatim (sql : String) : Obtained (Raw.verbatim sql)
  | withValues {sql : String} {values : List (Node .value)} {t : Node .raw} :
      Raw.withValues sql values = .ok t → Obtained t
  | node {k : Kind} {fields : Tree (.fields k.fields)} : k ≠ .raw → Obtained fields →
      Obtained (.node k fields)
  | atom {a : Atom} (x : a.Carrier) : Obtained (.atom x)
  | any {k : Kind} {t : Node k} : Obtained t → Obtained (.any t)
  | none {h : Shape} : Obtained (.none : Slot (.optional h))
  | some {h : Shape} {t : Slot h} : Obtained t → Obtained (.some t)
  | nil {h : Shape} : Obtained (.nil : Slot (.many h))
  | cons {h : Shape} {t : Slot h} {ts : Slot (.many h)} : Obtained t → Obtained ts →
      Obtained (.cons t ts)
  | done : Obtained .done
  | field {f : Field} {fs : List Field} {t : Slot f.shape} {rest : Tree (.fields fs)} :
      Obtained t → Obtained rest → Obtained (.field t rest)
  | rewritten {σ : Type} {T : Transformer σ} {p : Part} {t : Tree p} (s : σ) : T.GivesFit →
      Obtained t → Obtained ((T.run t s).1.apply t)

private theorem Tree.rawFits_ofList {h : Shape} {ts : List (Slot h)} (hts : ∀ t ∈ ts, t.RawFits) :
    (ofList ts).RawFits := by
  induction ts with
  | nil => trivial
  | cons t ts ih =>
    obtain ⟨ht, hts⟩ := List.forall_mem_cons.mp hts
    exact ⟨ht, ih hts⟩

theorem Raw.rawFits_ofParts {fragments : List String} {parameters : List AnyNode} {t : Node .raw}
    (hparameters : ∀ u ∈ parameters, u.RawFits) (h : ofParts fragments parameters = .ok t) :
    t.RawFits := by
  unfold ofParts at h
  split at h
  · obtain rfl := Except.ok.inj h
    have hlength : fragments.length = (Tree.ofList parameters).toList.length + 1 := by
      rwa [Tree.toList_ofList]
    exact ⟨hlength, trivial, Tree.rawFits_ofList hparameters, trivial⟩
  · exact nomatch h

private theorem Tree.nodeFits_of_ne {k : Kind} (hk : k ≠ .raw) (fields : Tree (.fields k.fields)) :
    NodeFits k fields := by
  cases k
  case raw => exact absurd rfl hk
  all_goals trivial

/-- What stands in the open place of a tree in which raw text fits. -/
theorem Opening.rawFits_of_fill {u : AnyNode} {p : Part} (C : Opening p) (h : (C.fill u).RawFits) :
    u.RawFits := by
  induction C with
  | here => exact h
  | node k C ih => exact ih h.2
  | any C ih => exact ih h
  | present C ih => exact ih h
  | head C ts ih => exact ih h.1
  | tail t C ih => exact ih h.2
  | field C rest ih => exact ih h.1
  | later t C ih => exact ih h.2

namespace Obtained

theorem rawFits {p : Part} {t : Tree p} (h : Obtained t) : t.RawFits := by
  induction h with
  | loaded h => exact Tree.rawFits_of_ofJson h
  | loadedText h => exact Tree.rawFits_of_ofText h
  | loadedPart hread => exact JsonTree.rawFits_of_readings hread
  | raw _ h ih => exact Raw.rawFits_ofParts ih h
  | verbatim sql => exact ⟨rfl, trivial, trivial, trivial⟩
  | withValues h =>
    refine Raw.rawFits_ofParts (List.forall_mem_map.mpr fun v _ => ?_) h
    match v with
    | .value v => exact ⟨trivial, trivial, trivial⟩
  | node hk _ ih => exact ⟨Tree.nodeFits_of_ne hk _, ih⟩
  | atom | none | nil | done => trivial
  | any _ ih | some _ ih => exact ih
  | cons _ _ iht ihts => exact ⟨iht, ihts⟩
  | field _ _ iht ihrest => exact ⟨iht, ihrest⟩
  | rewritten s hT _ ih => exact hT.rawFits_run ih s

end Obtained

theorem Statement.toNode_of_ofNode {t : AnyNode} {u : Statement} (h : ofNode t = .ok u) :
    u.toNode = t := by
  match t with
  | .any (k := k) t =>
    by_cases hk : k.isRoot = true
    · exact Except.ok.inj ((dif_pos hk).symm.trans h) ▸ rfl
    · exact nomatch (dif_neg hk).symm.trans h

/-- A statement that a transformer gives is what a run makes of the old one. -/
theorem Transformer.run_of_statement {σ : Type} {T : Transformer σ} {s u : Statement} {state : σ}
    (h : (T.statement s state).1 = .ok (some u)) : (T.run s.toNode state).1 = some u.toNode := by
  unfold statement at h
  dsimp only [bind, StateT.bind] at h
  cases hrun : T.run s.toNode state with
  | mk new after =>
    rw [hrun] at h
    cases new with
    | none => exact nomatch h
    | some t =>
      by_cases hkind : t.kind = s.kind
      · simp only [hkind, if_true] at h
        obtain ⟨v, hv, huv⟩ := exists_of_map_eq_ok (f := some) (a := Statement.ofNode t) h
        rw [← Option.some.inj huv, Statement.toNode_of_ofNode hv]
      · simp only [hkind, if_false] at h
        exact nomatch h

namespace Obtained

theorem statement {σ : Type} {T : Transformer σ} (hT : T.GivesFit) {s u : Statement} {state : σ}
    (hs : Obtained s.toNode) (h : (T.statement s state).1 = .ok (Option.some u)) :
    Obtained u.toNode := by
  have hrun := hs.rewritten state hT
  rwa [Transformer.run_of_statement h] at hrun

/-- What the stages of a pipeline make of a statement, one after another. -/
theorem stages {ps : List Stage} (hps : ∀ p ∈ ps, p.transformer.GivesFit) {s u : Statement}
    (hs : Obtained s.toNode) (h : (runStages ps s).1 = .ok (Option.some u)) :
    Obtained u.toNode := by
  induction ps generalizing s u with
  | nil => exact nomatch h
  | cons p ps ih =>
    obtain ⟨hp, hps⟩ := List.forall_mem_cons.mp hps
    rw [runStages] at h
    split at h
    next => exact nomatch h
    next => exact ih hps hs h
    next v p' hv =>
      have hnew : Obtained v.toNode := hs.statement hp (congrArg Prod.fst hv)
      obtain ⟨w, hw, hu⟩ := exists_of_map_eq_ok (a := (runStages ps v).1)
        (f := fun w => Option.some (w.getD v)) h
      obtain rfl := Option.some.inj hu
      cases w with
      | none => exact hnew
      | some w => exact ih hps hnew hw

/-- All raw text in a tree that is obtained surrounds its parameters. Wherever it stands, it has exactly
one more fragment than parameters, and it is written as its first fragment and then each parameter with
the fragment behind it, so that no fragment and no parameter is left out. -/
theorem raw_surrounds_parameters {p : Part} {t : Tree p} (ht : Obtained t) :
    t.RawFits ∧
    ∀ (C : Opening p) (fragments : List String) (parameters : Slot (.many .any)),
      t = C.fill (.any (.raw fragments parameters)) →
        fragments.length = parameters.toList.length + 1 ∧
        ∃ (first : String) (turns : List (AnyNode × String)),
          fragments = first :: turns.map Prod.snd ∧ parameters.toList = turns.map Prod.fst ∧
          ∀ (d : Dialect) (m : ValueMode) (place : Place) (o : Output),
            o.addNode d m place (.any (.raw fragments parameters)) =
              turns.foldl (Output.addTurn d m) (o.write first) := by
  refine ⟨ht.rawFits, fun C fragments parameters hC => ?_⟩
  have hfits : (Tree.any (.raw fragments parameters)).RawFits := C.rawFits_of_fill (hC ▸ ht.rawFits)
  have hlength : fragments.length = parameters.toList.length + 1 := hfits.1
  obtain ⟨first, turns, rfl, rfl⟩ := Output.exists_turns hlength
  exact ⟨hlength, first, turns, rfl, Tree.toList_ofList _, fun d m place o =>
    Output.addNode_raw d m turns first o place⟩

def explained (table : Node .schemableIdentifier) (selected : AnyNode) : Statement :=
  .ofRaw (.raw ["explain ", "; select ", ""]
    (.ofList [.any (.dropTable (.table table) false false), selected]))

def knownAge : Node .raw := .raw ["coalesce(", ", 0)"] (.ofList [.any (Tree.columnNamed "age")])

def selectedPlace (table : Node .schemableIdentifier) : Opening (.slot .any) :=
  .any <| .node .raw <| .later (.atom ["explain ", "; select ", ""]) <| .field
    (.tail (.any (.dropTable (.table table) false false)) (.head .here .nil)) .done

def explainedJson : Json :=
  .arrayOf [.string "Raw",
    .arrayOf [.string "explain ", .string "; select ", .string ""],
    .arrayOf [
      .objectOf [("kind", .string "DropTable"),
        ("table", .objectOf [("table", .objectOf [("identifier",
          .objectOf [("name", .string "person")])])])],
      .objectOf [("kind", .string "Value"), ("value", .objectOf [("Int", .ofInt 1)])]]]

def agesForValues : Rules where
  nodes := Option.some (.value, .any knownAge)

def agesInSchema : List Stage := [⟨"rules", _, #[], agesForValues.transformer⟩, .withSchema "app"]

theorem raw_surrounds_parameters_explained :
    let after := explained (Tree.qualified "app" "person") (.any knownAge)
    Obtained after.toNode ∧ after.toNode.RawFits ∧
    after.toNode = (selectedPlace (Tree.qualified "app" "person")).fill (.any knownAge) ∧
    ["coalesce(", ", 0)"].length = [Tree.any (Tree.columnNamed "age")].length + 1 ∧
    ∃ (first : String) (turns : List (AnyNode × String)),
      ["coalesce(", ", 0)"] = first :: turns.map Prod.snd ∧
      [Tree.any (Tree.columnNamed "age")] = turns.map Prod.fst ∧
      ∀ (d : Dialect) (m : ValueMode) (place : Place) (o : Output),
        o.addNode d m place (.any knownAge) = turns.foldl (Output.addTurn d m) (o.write first) := by
  have hloaded : Tree.ofJson explainedJson =
      .ok (explained (Tree.bare "person") (.any (.value (.int 1)))).toNode := by rfl
  have hrules : agesForValues.transformer.GivesFit := by
    refine Rules.givesFit fun rule hrule => ?_
    obtain rfl := Option.some.inj hrule
    decide
  have hstages : ∀ p ∈ agesInSchema, p.transformer.GivesFit :=
    List.forall_mem_cons.mpr ⟨hrules, List.forall_mem_singleton.mpr (Qualification.givesFit "app")⟩
  have hrun : (runStages agesInSchema (explained (Tree.bare "person") (.any (.value (.int 1))))).1 =
      .ok (Option.some (explained (Tree.qualified "app" "person") (.any knownAge))) := by rfl
  have hafter := (Obtained.loaded hloaded).stages hstages hrun
  obtain ⟨hfits, hwritten⟩ := raw_surrounds_parameters hafter
  exact ⟨hafter, hfits, rfl, hwritten (selectedPlace (Tree.qualified "app" "person"))
    ["coalesce(", ", 0)"] (.ofList [.any (Tree.columnNamed "age")]) rfl⟩

end Obtained

end QueryTree
