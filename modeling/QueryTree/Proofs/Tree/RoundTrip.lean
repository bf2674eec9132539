import QueryTree.Proofs.Json.Text
import QueryTree.Proofs.Tree.Reading

/-!
# Loading undoes writing

A tree that is written as JSON and loaded again is the same tree. Loading looks for unknown kinds
before it reads anything; what a runtime value holds is left out of this search, so that a value may
carry objects with any member of the name `kind`. From text the tree is loaded if it is nested as
deep as the reader allows, and otherwise nothing is.
-/
namespace QueryTree

namespace JsonTree

theorem foreignKind?_members : (ms : JsonMembers) →
    (∀ m ∈ ms.memberList, m.2.foreignKind? = none) → ms.foreignKind? = none
  | .empty, _ => rfl
  | .member k x rest, h => by
    have hx : x.foreignKind? = none := h (k, x) List.mem_cons_self
    rw [foreignKind?, hx]
    exact foreignKind?_members rest fun m hm => h m (List.mem_cons_of_mem _ hm)

private theorem foreignKind?_strings (ss : List String) :
    (arrayOf (ss.map JsonTree.string)).foreignKind? = none := by
  induction ss with
  | nil => rfl
  | cons s ss ih => exact ih

end JsonTree

namespace Tree

variable {k : Kind}

theorem foreignKind?_atomJson {a : Atom} (ha : a ≠ .value) (x : a.Carrier) :
    (atomJson a x).foreignKind? = Option.none := by
  cases a with
  | value => exact absurd rfl ha
  | texts => exact JsonTree.foreignKind?_strings x
  | optionalText | direction | deleteAction => cases x <;> rfl
  | text | flag | operator | joinType | setOperator => rfl

/-- Whether all kinds that are named in what is written are known. -/
def NamesKinds : {p : Part} → Tree p → Prop
  | .slot _, t => (close t.written).sorted.foreignKind? = Option.none
  | .fields _, t => ∀ e ∈ t.entries, e.member.2.foreignKind? = Option.none

theorem foreignKind?_inOrder {tagged : Bool} {fields : Tree (.fields k.fields)}
    (h : fields.NamesKinds) : (inOrder tagged fields).foreignKind? = Option.none := by
  refine JsonTree.foreignKind?_members _ fun m hm => ?_
  rcases mem_members.mp (mem_inOrder.mp hm) with ⟨-, rfl⟩ | ⟨e, he, rfl⟩
  · rfl
  · exact h e he

/-- A node in a place for its kind alone has no member of the name `kind`. -/
theorem lookup_kind_inOrder (fields : Tree (.fields k.fields)) :
    (inOrder false fields).memberList.lookup "kind" = Option.none := by
  refine List.lookup_eq_none_iff.mpr fun m hm => bne_iff_ne.mpr fun hkind => ?_
  rcases mem_members.mp (mem_inOrder.mp hm) with ⟨htagged, -⟩ | ⟨e, he, rfl⟩
  · exact Bool.false_ne_true htagged
  · have hname : e.field.name = "kind" := hkind.symm
    have hmem : e.field.name ∈ k.fields.map Field.name := List.mem_map_of_mem (field_mem he)
    exact (List.nodup_cons.mp k.fields_nodup).1 (hname ▸ hmem)

private theorem namesKinds_node {fields : Tree (.fields k.fields)} (h : fields.NamesKinds) :
    (Tree.node k fields).NamesKinds := by
  rw [NamesKinds, sorted_node, JsonTree.foreignKind?, lookup_kind_inOrder]
  exact foreignKind?_inOrder h

theorem namesKinds_any {fields : Tree (.fields k.fields)} (h : k ≠ .value → fields.NamesKinds) :
    (Tree.any (.node k fields)).NamesKinds := by
  rw [NamesKinds, sorted_any, JsonTree.foreignKind?, lookup_tag_inOrder]
  by_cases hk : k = .value
  · subst hk
    rfl
  · simp only [Kind.ofName?_name]
    exact foreignKind?_inOrder (h hk)

/-- Every kind that is written is known, whatever the values hold: a value stands in a node of its
own, and from there on nothing is searched. -/
theorem namesKinds : {p : Part} → (t : Tree p) → p.valueless = true → t.NamesKinds
  | .slot (.atom a), .atom x, h => by
    have hvalues : ∀ v ∈ atomValues a x, v.Regular := by
      rw [atomValues_of_valueless h]
      nofun
    have hsorted := sorted_atomJson x hvalues
    show (atomJson a x).sorted.foreignKind? = Option.none
    rw [hsorted]
    exact foreignKind?_atomJson (bne_iff_ne.mp h) x
  | .slot (.node k), .node _ fields, h =>
    namesKinds_node (fields.namesKinds (Kind.valueless_fields h))
  | _, .any (.node k fields), _ =>
    namesKinds_any fun hk => fields.namesKinds (Kind.valueless_fields (bne_iff_ne.mpr hk))
  | _, .none, _ => rfl
  | .slot (.optional s), .some t, h => t.namesKinds h
  | _, .nil, _ => rfl
  | .slot (.many s), .cons t ts, h => by
    have ht : (close t.written).sorted.foreignKind? = Option.none := t.namesKinds h
    have hts : ts.written.sorted.foreignKind? = Option.none := ts.namesKinds h
    show (JsonTree.cons (close t.written).sorted ts.written.sorted).foreignKind? = Option.none
    rw [JsonTree.foreignKind?, ht]
    exact hts
  | _, .done, _ => nofun
  | .fields (f :: fs), .field t rest, h => by
    obtain ⟨hf, hfs⟩ := Part.valueless_cons h
    intro e he
    rcases List.mem_cons.mp he with rfl | he
    · exact t.namesKinds hf
    · exact rest.namesKinds hfs e he

theorem ofJson_sorted_toJson {t : AnyNode} (hraw : t.RawFits)
    (hvalues : ∀ v ∈ t.allValues, v.Regular) : ofJson t.toJson.sorted = .ok t := by
  have hkinds : t.toJson.sorted.foreignKind? = Option.none := t.namesKinds rfl
  have hread : t.toJson.sorted.readings .any = .ok t := t.readsBack rfl hraw hvalues
  have hobject : ofKnownJson t.toJson.sorted = t.toJson.sorted.readings .any := by
    match t with
    | .any (.node k fields) => rfl
  simp only [ofJson, hkinds, hobject, hread]
  rfl

theorem ofText_toText {t : AnyNode} (hraw : t.RawFits) (hvalues : ∀ v ∈ t.allValues, v.Regular)
    (hfloats : ∀ x, .float x ∈ t.toJson.numbers → (Number.float x).ReadsBack) :
    ofText t.toText =
      if t.toJson.depth ≤ JsonTree.maxDepth then .ok t else .error (.malformed .unfit) := by
  have hnumbers : ∀ n ∈ t.toJson.numbers, n.ReadsBack
    | .int n, _ => Number.readsBack_int n
    | .float x, hx => hfloats x hx
  have hread := JsonTree.read?_indentedText t.toJson hnumbers JsonTree.maxDepth
  rw [ofText, toText, hread]
  by_cases hdepth : t.toJson.depth ≤ JsonTree.maxDepth
  · simp only [if_pos hdepth]
    exact ofJson_sorted_toJson hraw hvalues
  · simp only [if_neg hdepth]

/-- A tree of any kind is loaded back from what is written for it, if its raw text fits and its
values are regular: from the JSON value as it is, and from text, if every floating-point number reads
back from its own, where that is nested no deeper than the reader allows. From text that is nested
deeper nothing is loaded. -/
theorem loading_undoes_writing (t : AnyNode) (hraw : t.RawFits)
    (hvalues : ∀ v ∈ t.allValues, v.Regular) :
    ofJson t.toJson.sorted = .ok t ∧
      ((∀ x, .float x ∈ t.toJson.numbers → (Number.float x).ReadsBack) →
        ofText t.toText =
          if t.toJson.depth ≤ JsonTree.maxDepth then .ok t else .error (.malformed .unfit)) :=
  ⟨ofJson_sorted_toJson hraw hvalues, fun hfloats => ofText_toText hraw hvalues hfloats⟩

/-- Raw text around a JSON value with members of the name `kind` that name none, a floating-point
number, an identifier and a point in time. -/
def carrier : AnyNode :=
  .any (.raw ["f(", ", ", ", ", ", ", ")"] (.ofList
    [.any (.value (.json (.objectOf [("items", .arrayOf [.objectOf [("kind", .string "Nothing")]]),
        ("kind", .ofInt 5)]))),
      .any (.value (.float (.ofRatio false 1 10))),
      .any (.value (.uuid ⟨0x0123456789abcdef0123456789abcdef⟩)),
      .any (.value (.timestamp ⟨739313, ⟨84600, by decide⟩, ⟨500000000, by decide⟩⟩))]))

theorem loading_undoes_writing_carrier :
    (carrier.RawFits ∧ (∀ v ∈ carrier.allValues, v.Regular) ∧
      ∀ x, .float x ∈ carrier.toJson.numbers → (Number.float x).ReadsBack) ∧
    ofJson carrier.toJson.sorted = .ok carrier ∧ ofText carrier.toText = .ok carrier := by
  have hraw : carrier.RawFits := by decide
  have hvalues : ∀ v ∈ carrier.allValues, v.Regular := by decide +kernel
  have hnumbers : ∀ n ∈ carrier.toJson.numbers, n.ReadsBack := by decide +kernel
  have hdepth : carrier.toJson.depth ≤ JsonTree.maxDepth := by decide +kernel
  have hfloats : ∀ x, .float x ∈ carrier.toJson.numbers → (Number.float x).ReadsBack :=
    fun x hx => hnumbers (.float x) hx
  obtain ⟨hvalue, htext⟩ := loading_undoes_writing carrier hraw hvalues
  exact ⟨⟨hraw, hvalues, hfloats⟩, hvalue, (htext hfloats).trans (if_pos hdepth)⟩

end Tree

end QueryTree
