import QueryTree.Proofs.Tree.Values
import QueryTree.Tree.OfJson

/-!
# What is in loaded trees

Whatever is loaded from JSON has raw text that fits, and each of its values was read as one, so that it
meets whatever all values meet that are read. A node of raw text is checked when its fields have been
read, in the one function in which a node is made of its fields, so it is checked at any depth and
whether its fields come as members of an object or as items of an array. The other ways to fill a place
hand on what was read for the places inside.
-/
namespace QueryTree

/-- A computation that comes to a result has come to one at each step. -/
theorem exists_of_bind_eq_ok {ε α β : Type} {a : Except ε α} {f : α → Except ε β} {y : β}
    (h : a >>= f = .ok y) : ∃ x, a = .ok x ∧ f x = .ok y := by
  cases a with
  | error e => exact nomatch h
  | ok x => exact ⟨x, rfl, h⟩

theorem exists_of_map_eq_ok {ε α β : Type} {a : Except ε α} {f : α → β} {y : β}
    (h : f <$> a = .ok y) : ∃ x, a = .ok x ∧ f x = y := by
  cases a with
  | error e => exact nomatch h
  | ok x => exact ⟨x, rfl, Except.ok.inj h⟩

/-- Raw text in a tree fits, and every value in it meets a condition. -/
structure Tree.Fits (P : Value → Prop) {p : Part} (t : Tree p) : Prop where
  raw : t.RawFits
  values : ∀ v ∈ t.allValues, P v

def Reader.Fits (P : Value → Prop) (r : Reader) : Prop := ∀ s t, r s = .ok t → t.Fits P

variable {P : Value → Prop}

namespace Tree

theorem Fits.node {k : Kind} {fields : Tree (.fields k.fields)} (hk : NodeFits k fields)
    (h : fields.Fits P) : (Tree.node k fields).Fits P :=
  ⟨⟨hk, h.raw⟩, h.values⟩

theorem Fits.any {k : Kind} {t : Node k} (h : t.Fits P) : (Tree.any t).Fits P := ⟨h.raw, h.values⟩

theorem Fits.some {s : Shape} {t : Slot s} (h : t.Fits P) : (Tree.some t).Fits P :=
  ⟨h.raw, h.values⟩

theorem Fits.cons {s : Shape} {t : Slot s} {ts : Slot (.many s)} (ht : t.Fits P)
    (hts : ts.Fits P) : (Tree.cons t ts).Fits P :=
  ⟨⟨ht.raw, hts.raw⟩, List.forall_mem_append.mpr ⟨ht.values, hts.values⟩⟩

theorem Fits.field {f : Field} {fs : List Field} {t : Slot f.shape} {rest : Tree (.fields fs)}
    (ht : t.Fits P) (hrest : rest.Fits P) : (Tree.field t rest).Fits P :=
  ⟨⟨ht.raw, hrest.raw⟩, List.forall_mem_append.mpr ⟨ht.values, hrest.values⟩⟩

theorem fits_none (s : Shape) : (Tree.none : Slot (.optional s)).Fits P := ⟨trivial, nofun⟩

theorem fits_nil (s : Shape) : (Tree.nil : Slot (.many s)).Fits P := ⟨trivial, nofun⟩

theorem fits_done : Tree.done.Fits P := ⟨trivial, nofun⟩

end Tree

/-- What is left out stands for nothing, in which there is neither raw text nor a value. -/
theorem Field.fits_absent {f : Field} {t : Slot f.shape} (h : f.absent = .ok t) : t.Fits P := by
  obtain ⟨name, shape, mandatory⟩ := f
  cases mandatory with
  | true => exact nomatch h
  | false =>
    cases shape with
    | atom a =>
      match t with
      | .atom x =>
        refine ⟨trivial, ?_⟩
        cases a
        case value => exact nomatch h
        all_goals nofun
    | optional s => exact Except.ok.inj h ▸ Tree.fits_none s
    | many s => exact Except.ok.inj h ▸ Tree.fits_nil s
    | node k | any => exact nomatch h

namespace Entry

variable {fs : List Field}

private theorem fits_lookup? {es : List Entry} (hes : ∀ e ∈ es, e.content.Fits P) {f : Field}
    {t : Slot f.shape} (h : lookup? f es = some t) : t.Fits P := by
  induction es with
  | nil => exact nomatch h
  | cons e es ih =>
    obtain ⟨hfirst, hrest⟩ := List.forall_mem_cons.mp hes
    by_cases hfield : e.field = f
    · subst hfield
      rw [lookup?, dif_pos rfl] at h
      exact Option.some.inj h ▸ hfirst
    · rw [lookup?, dif_neg hfield] at h
      exact ih hrest h

private theorem fits_readAll {ms : List (String × Child)} (hms : ∀ m ∈ ms, m.2.read.Fits P)
    {es : List Entry} (h : readAll fs ms = .ok es) : ∀ e ∈ es, e.content.Fits P := by
  induction ms generalizing es with
  | nil =>
    obtain rfl := Except.ok.inj h
    nofun
  | cons m ms ih =>
    obtain ⟨key, child⟩ := m
    obtain ⟨hchild, hms⟩ := List.forall_mem_cons.mp hms
    cases hfind : fs.find? fun f => f.name == key with
    | none =>
      simp only [readAll, hfind] at h
      exact ih hms h
    | some f =>
      simp only [readAll, hfind] at h
      obtain ⟨t, ht, h⟩ := exists_of_bind_eq_ok h
      obtain ⟨rest, hrest, h⟩ := exists_of_bind_eq_ok h
      obtain rfl := Except.ok.inj h
      exact List.forall_mem_cons.mpr ⟨hchild _ _ ht, ih hms hrest⟩

end Entry

namespace Tree

variable {k : Kind}

theorem fits_ofEntries {es : List Entry} (hes : ∀ e ∈ es, e.content.Fits P) :
    {fs : List Field} → {t : Tree (.fields fs)} → ofEntries es fs = .ok t → t.Fits P
  | [], _, h => Except.ok.inj h ▸ fits_done
  | f :: fs, t, h => by
    rw [ofEntries] at h
    cases hlookup : Entry.lookup? f es with
    | some first =>
      simp only [hlookup] at h
      obtain ⟨_, hfirst, h⟩ := exists_of_bind_eq_ok h
      obtain ⟨rest, hrest, h⟩ := exists_of_bind_eq_ok h
      obtain rfl := Except.ok.inj hfirst
      exact Except.ok.inj h ▸ (Entry.fits_lookup? hes hlookup).field (fits_ofEntries hes hrest)
    | none =>
      simp only [hlookup] at h
      obtain ⟨first, hfirst, h⟩ := exists_of_bind_eq_ok h
      obtain ⟨rest, hrest, h⟩ := exists_of_bind_eq_ok h
      exact Except.ok.inj h ▸ (Field.fits_absent hfirst).field (fits_ofEntries hes hrest)

theorem fits_ofItems : {fs : List Field} → {cs : List Child} → (∀ c ∈ cs, c.read.Fits P) →
    {t : Tree (.fields fs)} → ofItems fs cs = .ok t → t.Fits P
  | [], [], _, _, h => Except.ok.inj h ▸ fits_done
  | f :: fs, [], hcs, t, h => by
    rw [ofItems] at h
    split at h
    · exact nomatch h
    · obtain ⟨first, hfirst, h⟩ := exists_of_bind_eq_ok h
      obtain ⟨rest, hrest, h⟩ := exists_of_bind_eq_ok h
      exact Except.ok.inj h ▸ (Field.fits_absent hfirst).field (fits_ofItems hcs hrest)
  | f :: fs, c :: cs, hcs, t, h => by
    obtain ⟨hc, hcs⟩ := List.forall_mem_cons.mp hcs
    rw [ofItems] at h
    obtain ⟨first, hfirst, h⟩ := exists_of_bind_eq_ok h
    obtain ⟨rest, hrest, h⟩ := exists_of_bind_eq_ok h
    exact Except.ok.inj h ▸ (hc _ _ hfirst).field (fits_ofItems hcs hrest)

/-- Fields make a node only if raw text among them surrounds its parameters. -/
theorem fits_ofFields {fields : Tree (.fields k.fields)} (hfields : fields.Fits P) {t : Node k}
    (h : ofFields k fields = .ok t) : t.Fits P := by
  cases k
  case raw =>
    match fields with
    | .field (.atom fragments) (.field parameters .done) =>
      by_cases hlength : fragments.length = parameters.toList.length + 1
      · exact Except.ok.inj ((if_pos hlength).symm.trans h) ▸ hfields.node hlength
      · exact nomatch (if_neg hlength).symm.trans h
  all_goals exact Except.ok.inj h ▸ hfields.node trivial

variable {x : Json} {items : List Child} {members : List (String × Child)}

section

variable (hitems : ∀ c ∈ items, c.read.Fits P) (hmembers : ∀ m ∈ members, m.2.read.Fits P)

include hitems

private theorem fits_readMany {s : Shape} {t : Slot (.many s)} (h : readMany s items = .ok t) :
    t.Fits P := by
  induction items generalizing t with
  | nil => exact Except.ok.inj h ▸ fits_nil s
  | cons c cs ih =>
    obtain ⟨hc, hcs⟩ := List.forall_mem_cons.mp hitems
    obtain ⟨first, hfirst, h⟩ := exists_of_bind_eq_ok h
    obtain ⟨rest, hrest, h⟩ := exists_of_bind_eq_ok h
    exact Except.ok.inj h ▸ (hc _ _ hfirst).cons (ih hcs hrest)

include hmembers

theorem fits_readNode {t : Node k} (h : readNode k x items members = .ok t) : t.Fits P := by
  cases x with
  | array xs =>
    obtain ⟨fields, hfields, h⟩ := exists_of_bind_eq_ok h
    exact fits_ofFields (fits_ofItems hitems hfields) h
  | object ms =>
    obtain ⟨es, hes, h⟩ := exists_of_bind_eq_ok h
    obtain ⟨fields, hfields, h⟩ := exists_of_bind_eq_ok h
    exact fits_ofFields (fits_ofEntries (Entry.fits_readAll hmembers hes) hfields) h
  | null | bool | number | string => exact nomatch h

private theorem fits_readTagged {t : AnyNode} (h : readTagged x items members = .ok t) :
    t.Fits P := by
  cases x with
  | array xs =>
    cases items with
    | nil => cases h
    | cons tag items =>
      obtain ⟨-, hitems⟩ := List.forall_mem_cons.mp hitems
      obtain ⟨k, -, h⟩ := exists_of_bind_eq_ok h
      obtain ⟨node, hnode, h⟩ := exists_of_bind_eq_ok h
      exact Except.ok.inj h ▸ (fits_readNode hitems (List.forall_mem_nil _) hnode).any
  | object ms =>
    cases hkind : ms.memberList.lookup "kind" with
    | none =>
      simp only [readTagged, hkind] at h
      cases h
    | some tag =>
      simp only [readTagged, hkind] at h
      obtain ⟨k, -, h⟩ := exists_of_bind_eq_ok h
      obtain ⟨node, hnode, h⟩ := exists_of_bind_eq_ok h
      exact Except.ok.inj h ▸ (fits_readNode (List.forall_mem_nil _) hmembers hnode).any
  | null | bool | number | string => cases h

end

variable (hP : ∀ x v, Value.ofJson true x = .ok v → P v)

include hP

private theorem fits_readAtom {a : Atom} {y : a.Carrier} (h : readAtom a x = .ok y) :
    (Tree.atom y).Fits P := by
  refine ⟨trivial, ?_⟩
  cases a
  case value =>
    intro v hv
    exact List.mem_singleton.mp hv ▸ hP x y h
  all_goals nofun

/-- What is read of a value fits if what is read of its items and members does. -/
theorem fits_readSlot (hitems : ∀ c ∈ items, c.read.Fits P)
    (hmembers : ∀ m ∈ members, m.2.read.Fits P) : Reader.Fits P (readSlot x items members) := by
  intro s
  induction s with
  | atom a =>
    intro t h
    obtain ⟨y, hy, rfl⟩ := exists_of_map_eq_ok h
    exact fits_readAtom hP hy
  | node k => exact fun t => fits_readNode hitems hmembers
  | any => exact fun t => fits_readTagged hitems hmembers
  | optional s ih =>
    intro t h
    cases x with
    | null => exact Except.ok.inj h ▸ fits_none s
    | _ =>
      obtain ⟨u, hu, rfl⟩ := exists_of_map_eq_ok h
      exact (ih u hu).some
  | many s =>
    intro t h
    cases x with
    | array xs => exact fits_readMany hitems h
    | _ => exact nomatch h

end Tree

namespace JsonTree

/-- What is read of a value, of each item of an array or of each member of an object fits. -/
def ReadingsFit (P : Value → Prop) : {p : JsonPart} → Readings p → Prop
  | .value, r => Reader.Fits P r
  | .items, cs => ∀ c ∈ cs, c.read.Fits P
  | .members, ms => ∀ m ∈ ms, m.2.read.Fits P

theorem readingsFit_readings (hP : ∀ x v, Value.ofJson true x = .ok v → P v) {p : JsonPart}
    (x : JsonTree p) : ReadingsFit P x.readings := by
  induction x with
  | null | bool | number | string => exact Tree.fits_readSlot hP nofun nofun
  | array xs ih => exact Tree.fits_readSlot hP ih nofun
  | object ms ih => exact Tree.fits_readSlot hP nofun ih
  | nil | empty => nofun
  | cons x xs ihx ihxs => exact List.forall_mem_cons.mpr ⟨ihx, ihxs⟩
  | member k x rest ihx ihrest => exact List.forall_mem_cons.mpr ⟨ihx, ihrest⟩

theorem rawFits_of_readings {x : Json} {s : Shape} {t : Slot s} (h : x.readings s = .ok t) :
    t.RawFits :=
  (readingsFit_readings (P := fun _ => True) (fun _ _ _ => trivial) x s t h).raw

end JsonTree

namespace Tree

theorem ofJson_eq_ok {x : Json} {t : AnyNode} :
    ofJson x = .ok t ↔ x.foreignKind? = Option.none ∧ ofKnownJson x = .ok t := by
  rw [ofJson]
  cases x.foreignKind? with
  | some tag => simp
  | none =>
    cases ofKnownJson x with
    | ok u =>
      change Except.ok u = .ok t ↔ _
      simp
    | error e =>
      change Except.error _ = .ok t ↔ _
      simp

/-- Whatever is loaded from a JSON value fits, for any condition that values meet that are read. -/
theorem fits_of_ofJson (hP : ∀ x v, Value.ofJson true x = .ok v → P v) {x : Json} {t : AnyNode}
    (h : ofJson x = .ok t) : t.Fits P := by
  obtain ⟨-, h⟩ := ofJson_eq_ok.mp h
  unfold ofKnownJson at h
  split at h
  · exact nomatch h
  · exact JsonTree.readingsFit_readings hP x .any t h

theorem rawFits_of_ofJson {x : Json} {t : AnyNode} (h : ofJson x = .ok t) : t.RawFits :=
  (fits_of_ofJson (P := fun _ => True) (fun _ _ _ => trivial) h).raw

theorem rawFits_of_ofText {s : String} {t : AnyNode} (h : ofText s = .ok t) : t.RawFits := by
  unfold ofText at h
  split at h
  · exact rawFits_of_ofJson h
  · exact nomatch h

end Tree

end QueryTree
