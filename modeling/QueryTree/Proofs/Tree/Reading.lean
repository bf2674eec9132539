import Mathlib.Data.List.Nodup
import QueryTree.Proofs.Tree.PlainData

/-!
# Trees read back from JSON

A node is read off the members of its object in whatever order they stand, so it does not matter
that they are written in the order of the fields and read in the order of their names. What a node
holds reads back, field by field, if what stands in each field does; so one induction over the tree
has a case for each way to fill a place, and the fields of all kinds of node are one case of it.
-/
namespace QueryTree

namespace Tree

/-- The fields of a node, each with what is in it. -/
def entries : {fs : List Field} → Tree (.fields fs) → List Entry
  | _, .done => []
  | _, .field (f := f) t rest => ⟨f, t⟩ :: rest.entries

theorem map_field_entries : {fs : List Field} → (t : Tree (.fields fs)) →
    t.entries.map Entry.field = fs
  | _, .done => rfl
  | _, .field (f := f) _ rest => congrArg (f :: ·) rest.map_field_entries

end Tree

namespace Entry

/-- The member that a field becomes, with its own members in order. -/
def member (e : Entry) : String × Json := (e.field.name, (Tree.close e.content.written).sorted)

/-- Whether what is in a field reads back. -/
def ReadsBack (e : Entry) : Prop := e.member.2.readings e.field.shape = .ok e.content

end Entry

namespace Tree

variable {fs : List Field}

theorem memberList_written : {fs : List Field} → (t : Tree (.fields fs)) →
    t.written.sorted.memberList = t.entries.map Entry.member
  | _, .done => rfl
  | _, .field _ rest => congrArg (_ :: ·) rest.memberList_written

theorem field_mem {t : Tree (.fields fs)} {e : Entry} (he : e ∈ t.entries) : e.field ∈ fs := by
  have hmem : e.field ∈ t.entries.map Entry.field := List.mem_map_of_mem he
  rwa [map_field_entries] at hmem

/-- Where fields have different names, an entry is the only one for its name. -/
theorem entry_unique (hfs : (fs.map Field.name).Nodup) {t : Tree (.fields fs)} {e e' : Entry}
    (he : e ∈ t.entries) (he' : e' ∈ t.entries) (hname : e.field.name = e'.field.name) : e = e' := by
  have hnames : (t.entries.map fun e => e.field.name).Nodup := by
    rw [← map_field_entries t, List.map_map] at hfs
    exact hfs
  exact List.inj_on_of_nodup_map hnames he he' hname

end Tree

theorem Field.find?_name {fs : List Field} (hfs : (fs.map Field.name).Nodup) {f : Field}
    (hf : f ∈ fs) : fs.find? (fun g => g.name == f.name) = some f := by
  induction fs with
  | nil => exact absurd hf List.not_mem_nil
  | cons g fs ih =>
    obtain ⟨hg, hfs⟩ := List.nodup_cons.mp hfs
    rcases List.mem_cons.mp hf with rfl | hf
    · simp
    · have hne : g.name ≠ f.name := fun h => hg (h ▸ List.mem_map_of_mem hf)
      rw [List.find?_cons_of_neg (by simpa using hne)]
      exact ih hfs hf

namespace JsonTree

theorem readings_members : (ms : JsonMembers) →
    ms.readings = ms.memberList.map fun m => (m.1, ⟨m.2, m.2.readings⟩)
  | .empty => rfl
  | .member k x rest => congrArg ((k, (⟨x, x.readings⟩ : Child)) :: ·) (readings_members rest)

end JsonTree

namespace Entry

variable {fs : List Field}

private theorem lookup?_of_mem {es : List Entry} {e : Entry} (he : e ∈ es)
    (hunique : ∀ e' ∈ es, e'.field = e.field → e' = e) : lookup? e.field es = some e.content := by
  induction es with
  | nil => exact absurd he List.not_mem_nil
  | cons e' es ih =>
    by_cases hfield : e'.field = e.field
    · obtain rfl := hunique e' List.mem_cons_self hfield
      simp [lookup?]
    · have hmem : e ∈ es := by
        rcases List.mem_cons.mp he with rfl | hmem
        · exact absurd rfl hfield
        · exact hmem
      rw [lookup?, dif_neg hfield]
      exact ih hmem fun e' he' => hunique e' (List.mem_cons_of_mem _ he')

/-- Of the members of an object those are read that are fields, in whatever order they stand. -/
private theorem readAll_of_forall {t : Tree (.fields fs)} (hfs : (fs.map Field.name).Nodup)
    (ht : ∀ e ∈ t.entries, e.ReadsBack) {ms : List (String × Json)}
    (hms : ∀ m ∈ ms, (∀ f ∈ fs, f.name ≠ m.1) ∨ ∃ e ∈ t.entries, e.member = m) :
    ∃ es, readAll fs (ms.map fun m => (m.1, ⟨m.2, m.2.readings⟩)) = .ok es ∧
      (∀ e ∈ es, e ∈ t.entries) ∧ ∀ e ∈ t.entries, e.member ∈ ms → e ∈ es := by
  induction ms with
  | nil => exact ⟨[], rfl, nofun, nofun⟩
  | cons m ms ih =>
    obtain ⟨es, hread, hsub, hall⟩ := ih fun m hm => hms m (List.mem_cons_of_mem _ hm)
    rcases hms m List.mem_cons_self with hother | ⟨e, he, rfl⟩
    · have hfind : fs.find? (fun f => f.name == m.1) = none :=
        List.find?_eq_none.mpr fun f hf => by simpa using hother f hf
      refine ⟨es, ?_, hsub, ?_⟩
      · rw [List.map_cons, readAll, hfind]
        exact hread
      · intro e he hmem
        rcases List.mem_cons.mp hmem with rfl | hmem
        · exact absurd rfl (hother _ (Tree.field_mem he))
        · exact hall e he hmem
    · have hfind : fs.find? (fun f => f.name == e.member.1) = some e.field :=
        Field.find?_name hfs (Tree.field_mem he)
      have hcontent : e.member.2.readings e.field.shape = .ok e.content := ht e he
      refine ⟨e :: es, ?_, ?_, ?_⟩
      · rw [List.map_cons, readAll, hfind]
        simp only [hcontent, hread]
        rfl
      · intro e' he'
        rcases List.mem_cons.mp he' with rfl | he'
        · exact he
        · exact hsub e' he'
      · intro e' he' hmem
        rcases List.mem_cons.mp hmem with heq | hmem
        · have hname : e'.field.name = e.field.name := congrArg Prod.fst heq
          exact Tree.entry_unique hfs he' he hname ▸ List.mem_cons_self
        · exact List.mem_cons_of_mem _ (hall e' he' hmem)

end Entry

namespace Tree

variable {fs : List Field} {k : Kind}

theorem ofEntries_eq {es : List Entry} : {fs : List Field} → {t : Tree (.fields fs)} →
    (∀ e ∈ t.entries, Entry.lookup? e.field es = Option.some e.content) → ofEntries es fs = .ok t
  | _, .done, _ => rfl
  | f :: fs, .field t rest, h => by
    have hfirst : Entry.lookup? f es = Option.some t := h ⟨f, t⟩ List.mem_cons_self
    have hrest : ofEntries es fs = .ok rest :=
      ofEntries_eq fun e he => h e (List.mem_cons_of_mem _ he)
    rw [ofEntries, hfirst, hrest]
    rfl

private theorem ofFields_eq {fields : Tree (.fields k.fields)} (h : NodeFits k fields) :
    ofFields k fields = .ok (.node k fields) := by
  cases k with
  | raw =>
    match fields with
    | .field (.atom fragments) (.field parameters .done) => exact if_pos h
  | _ => rfl

/-- A node is read from an object that has the members of all its fields, and no others except the
one that names the kind. -/
private theorem readNode_object {fields : Tree (.fields k.fields)} (hfits : NodeFits k fields)
    (hfields : ∀ e ∈ fields.entries, e.ReadsBack) {ms : JsonMembers}
    (hsub : ∀ m ∈ ms.memberList, m.1 = "kind" ∨ ∃ e ∈ fields.entries, e.member = m)
    (hall : ∀ e ∈ fields.entries, e.member ∈ ms.memberList) :
    readNode k (.object ms) [] ms.readings = .ok (.node k fields) := by
  obtain ⟨hkind, hnames⟩ := List.nodup_cons.mp k.fields_nodup
  have hms : ∀ m ∈ ms.memberList,
      (∀ f ∈ k.fields, f.name ≠ m.1) ∨ ∃ e ∈ fields.entries, e.member = m := by
    intro m hm
    rcases hsub m hm with htag | he
    · exact .inl fun f hf hname => hkind (htag ▸ hname ▸ List.mem_map_of_mem hf)
    · exact .inr he
  obtain ⟨es, hread, hes, hmem⟩ := Entry.readAll_of_forall hnames hfields hms
  have hlookup : ∀ e ∈ fields.entries, Entry.lookup? e.field es = Option.some e.content := by
    intro e he
    refine Entry.lookup?_of_mem (hmem e he (hall e he)) ?_
    intro e' he' hfield
    exact entry_unique hnames (hes e' he') he (congrArg Field.name hfield)
  have hfields : ofEntries es k.fields = .ok fields := ofEntries_eq hlookup
  rw [← JsonTree.readings_members] at hread
  simp only [readNode, hread]
  show (ofEntries es k.fields >>= ofFields k) = _
  rw [hfields]
  exact ofFields_eq hfits

end Tree

/-- Whether null says that nothing is there: what may be absent is a node, which is not written as
null. -/
def Shape.readable : Shape → Bool
  | .optional (.node _) | .optional .any => true
  | .optional _ => false
  | .many s => s.readable
  | .atom _ | .node _ | .any => true

def Part.readable : Part → Bool
  | .slot s => s.readable
  | .fields fs => fs.all fun f => f.shape.readable

private theorem Shape.readable_of_optional {s : Shape} (h : (Shape.optional s).readable = true) :
    s.readable = true := by
  cases s with
  | node k => rfl
  | any => rfl
  | atom a | optional s | many s => exact absurd h Bool.false_ne_true

theorem Kind.readable_fields (k : Kind) : (Part.fields k.fields).readable = true := by
  cases k <;> decide

private theorem JsonTree.readings_atom (x : Json) (a : Atom) :
    x.readings (.atom a) = Tree.atom <$> readAtom a x := by
  cases x <;> rfl

private theorem JsonTree.readings_optional {x : Json} (hx : x ≠ .null) (s : Shape) :
    x.readings (.optional s) = Tree.some <$> x.readings s := by
  cases x with
  | null => exact absurd rfl hx
  | bool b | number n | string s | array items | object ms => rfl

namespace Tree

variable {s : Shape} {k : Kind}

private theorem sorted_close_ne_null {s : Shape} (hs : (Shape.optional s).readable = true)
    (t : Slot s) : (close t.written).sorted ≠ .null := by
  match s, t with
  | .node k, .node _ fields => nofun
  | .any, .any t => nofun
  | .atom a, _ | .optional s, _ | .many s, _ => exact absurd hs Bool.false_ne_true

/-- What stands in a place, or in each of the fields of a node, reads back. -/
def ReadsBack : {p : Part} → Tree p → Prop
  | .slot s, t => (close t.written).sorted.readings s = .ok t
  | .fields _, t => ∀ e ∈ t.entries, e.ReadsBack

def tag (k : Kind) : String × Json := ("kind", .string k.name)

def members (tagged : Bool) (fields : Tree (.fields k.fields)) : List (String × Json) :=
  if tagged then tag k :: fields.entries.map Entry.member else fields.entries.map Entry.member

theorem nodup_members (tagged : Bool) (fields : Tree (.fields k.fields)) :
    ((members tagged fields).map Prod.fst).Nodup := by
  have hnames : (fields.entries.map Entry.member).map Prod.fst = k.fields.map Field.name := by
    conv_rhs => rw [← map_field_entries fields]
    simp [Entry.member]
  cases tagged with
  | true =>
    rw [members, if_pos rfl, List.map_cons, hnames]
    exact k.fields_nodup
  | false =>
    rw [members, if_neg Bool.false_ne_true, hnames]
    exact (List.nodup_cons.mp k.fields_nodup).2

theorem mem_members {tagged : Bool} {fields : Tree (.fields k.fields)} {m : String × Json} :
    m ∈ members tagged fields ↔ tagged = true ∧ m = tag k ∨ ∃ e ∈ fields.entries, e.member = m := by
  cases tagged <;> simp [members]

def inOrder (tagged : Bool) (fields : Tree (.fields k.fields)) : JsonMembers :=
  JsonTree.toMembers (JsonTree.sortMembers (members tagged fields))

theorem mem_inOrder {tagged : Bool} {fields : Tree (.fields k.fields)} {m : String × Json} :
    m ∈ (inOrder tagged fields).memberList ↔ m ∈ members tagged fields := by
  rw [inOrder, JsonTree.memberList_toMembers]
  exact (JsonTree.sortMembers_perm (nodup_members tagged fields)).mem_iff

theorem sorted_node (fields : Tree (.fields k.fields)) :
    (close (Tree.node k fields).written).sorted = .object (inOrder false fields) := by
  show JsonTree.object (JsonTree.toMembers (JsonTree.sortMembers _)) = _
  rw [written, memberList_written]
  rfl

theorem sorted_any (fields : Tree (.fields k.fields)) :
    (close (Tree.any (.node k fields)).written).sorted = .object (inOrder true fields) := by
  show JsonTree.object (JsonTree.toMembers (JsonTree.sortMembers
    (tag k :: (Tree.node k fields).written.sorted.memberList))) = _
  rw [written, memberList_written]
  rfl

theorem readNode_written {fields : Tree (.fields k.fields)} (hfits : NodeFits k fields)
    (hfields : ∀ e ∈ fields.entries, e.ReadsBack) (tagged : Bool) :
    readNode k (.object (inOrder tagged fields)) [] (inOrder tagged fields).readings =
      .ok (.node k fields) := by
  refine readNode_object hfits hfields ?_ ?_
  · intro m hm
    rcases mem_members.mp (mem_inOrder.mp hm) with ⟨-, rfl⟩ | he
    · exact .inl rfl
    · exact .inr he
  · intro e he
    exact mem_inOrder.mpr (mem_members.mpr (.inr ⟨e, he, rfl⟩))

theorem lookup_inOrder {tagged : Bool} {fields : Tree (.fields k.fields)} {m : String × Json}
    (hm : m ∈ members tagged fields) :
    (inOrder tagged fields).memberList.lookup m.1 = Option.some m.2 := by
  have hnodup := nodup_members tagged fields
  have hkeys : ((inOrder tagged fields).memberList.map Prod.fst).Nodup := by
    rw [inOrder, JsonTree.memberList_toMembers]
    exact ((JsonTree.sortMembers_perm hnodup).map Prod.fst).nodup_iff.mpr hnodup
  exact JsonTree.lookup_of_mem hkeys (mem_inOrder.mpr hm)

theorem lookup_tag_inOrder (fields : Tree (.fields k.fields)) :
    (inOrder true fields).memberList.lookup "kind" = Option.some (.string k.name) :=
  lookup_inOrder (m := tag k) (mem_members.mpr (.inl ⟨rfl, rfl⟩))

private theorem readTagged_written {fields : Tree (.fields k.fields)} (hfits : NodeFits k fields)
    (hfields : ∀ e ∈ fields.entries, e.ReadsBack) :
    readTagged (.object (inOrder true fields)) [] (inOrder true fields).readings =
      .ok (.any (.node k fields)) := by
  have hkind : readKind (.string k.name) = .ok k := by rw [readKind, Kind.ofName?_name]
  simp only [readTagged, lookup_tag_inOrder, hkind]
  show (readNode k (.object (inOrder true fields)) [] (inOrder true fields).readings >>= _) = _
  rw [readNode_written hfits hfields true]
  rfl

/-- What is written for a tree reads back, if its raw text fits and its values are regular. -/
theorem readsBack : {p : Part} → (t : Tree p) → p.readable = true → t.RawFits →
    (∀ v ∈ t.allValues, v.Regular) → t.ReadsBack
  | _, .atom x, _, _, hvalues => by
    have hsorted := sorted_atomJson x hvalues
    have hread := readAtom_atomJson x hvalues
    show JsonTree.readings (atomJson _ x).sorted _ = _
    rw [hsorted, JsonTree.readings_atom, hread]
    rfl
  | _, .node k fields, _, ⟨hfits, hraw⟩, hvalues => by
    have hfields := fields.readsBack k.readable_fields hraw hvalues
    rw [ReadsBack, sorted_node]
    exact readNode_written hfits hfields false
  | _, .any (.node k fields), _, ⟨hfits, hraw⟩, hvalues => by
    have hfields := fields.readsBack k.readable_fields hraw hvalues
    rw [ReadsBack, sorted_any]
    exact readTagged_written hfits hfields
  | _, .none, _, _, _ => rfl
  | .slot (.optional s), .some t, hs, hraw, hvalues => by
    have hread : (close t.written).sorted.readings s = .ok t :=
      t.readsBack (Shape.readable_of_optional hs) hraw hvalues
    show JsonTree.readings (close t.written).sorted _ = _
    rw [JsonTree.readings_optional (sorted_close_ne_null hs t), hread]
    rfl
  | _, .nil, _, _, _ => rfl
  | .slot (.many s), .cons t ts, hs, hraw, hvalues => by
    have ht : (close t.written).sorted.readings s = .ok t :=
      t.readsBack hs hraw.1 fun v hv => hvalues v (List.mem_append_left _ hv)
    have hts : readMany s ts.written.sorted.readings = .ok ts :=
      ts.readsBack hs hraw.2 fun v hv => hvalues v (List.mem_append_right _ hv)
    show readMany s (⟨(close t.written).sorted, (close t.written).sorted.readings⟩ ::
      ts.written.sorted.readings) = _
    simp only [readMany, ht, hts]
    rfl
  | _, .done, _, _, _ => nofun
  | .fields (f :: fs), .field t rest, hs, hraw, hvalues => by
    obtain ⟨hf, hfs⟩ := Bool.and_eq_true_iff.mp hs
    intro e he
    rcases List.mem_cons.mp he with rfl | he
    · exact t.readsBack hf hraw.1 fun v hv => hvalues v (List.mem_append_left _ hv)
    · exact rest.readsBack hfs hraw.2 (fun v hv => hvalues v (List.mem_append_right _ hv)) e he

end Tree

end QueryTree
