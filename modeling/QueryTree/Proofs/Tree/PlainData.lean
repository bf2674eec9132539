import Mathlib.Data.Nat.Init
import QueryTree.Tree.OfJson
import QueryTree.Proofs.Json.Sorting
import QueryTree.Proofs.Uuid
import QueryTree.Proofs.Tree.Values

/-!
# Plain data reads back

What stands in a field without nodes is read as what it was before it was written. A choice from a
closed list is found by its name. A runtime value is found by the name of its variant, and what the
variant holds is of a form that no other reading takes; for floating-point numbers, points in time
and JSON values this asks something of the value itself.
-/
namespace QueryTree

/-- A closed list in which every value is found by its name. -/
class Named.Lawful (α : Type) [Named α] : Prop where
  find?_name : ∀ x : α, Named.find? (Named.name x) = some x

instance : Named.Lawful Operator := ⟨fun x => by cases x <;> rfl⟩
instance : Named.Lawful JoinType := ⟨fun x => by cases x <;> rfl⟩
instance : Named.Lawful Direction := ⟨fun x => by cases x <;> rfl⟩
instance : Named.Lawful SetOperator := ⟨fun x => by cases x <;> rfl⟩
instance : Named.Lawful DeleteAction := ⟨fun x => by cases x <;> rfl⟩

section

variable {α : Type} [Named α] [Named.Lawful α] (insideTree : Bool)

theorem readVariant_name (x : α) : readVariant insideTree (.string (Named.name x)) = .ok x := by
  simp [readVariant, Named.Lawful.find?_name x]

theorem readOptional_choiceJson (x : Option α) :
    readOptional (readVariant insideTree) (Tree.choiceJson x) = .ok x := by
  cases x with
  | none => rfl
  | some x =>
    show some <$> readVariant insideTree (.string (Named.name x)) = _
    rw [readVariant_name]
    rfl

end

namespace Value

private theorem byte?_toNat (b : UInt8) : byte? (.ofInt b.toNat) = some b := by
  have hb := b.toNat_lt
  have hexact : -9223372036854775808 ≤ (b.toNat : Int) ∧ (b.toNat : Int) < 18446744073709551616 := by
    omega
  have hnumber : Number.ofInt b.toNat = .int ⟨b.toNat, hexact⟩ := dif_pos hexact
  have hbyte : 0 ≤ (b.toNat : Int) ∧ (b.toNat : Int) < 256 := by omega
  rw [JsonTree.ofInt, hnumber, byte?, if_pos hbyte]
  simp

private theorem payload?_int (n : Int64) : payload? "Int" (.ofInt n.toInt) = some (.int n) := by
  have hlow := n.le_toInt
  have hhigh := n.toInt_lt
  have hexact : -9223372036854775808 ≤ n.toInt ∧ n.toInt < 18446744073709551616 := by omega
  have hnumber : Number.ofInt n.toInt = .int ⟨n.toInt, hexact⟩ := dif_pos hexact
  have hint : n.toInt < 9223372036854775808 := by omega
  rw [JsonTree.ofInt, hnumber, payload?, if_pos hint]
  simp

private theorem mapM_byte? (bs : List UInt8) :
    (bs.map fun b => JsonTree.ofInt b.toNat).mapM byte? = some bs := by
  induction bs with
  | nil => rfl
  | cons b bs ih => simp [List.mapM_cons, byte?_toNat, ih]

/-- The values that are told apart by what is written for them. A number has to be finite, since
what is not is written as null; a point in time has to read back from its text, and the members of a
JSON value are in the order in which such values keep them. -/
def Regular : Value → Prop
  | .float x => x.isFinite = true
  | .timestamp t => Timestamp.read? (t.textWith "Z") = some t
  | .json x => x.sorted = x
  | .null | .bool _ | .int _ | .string _ | .bytes _ | .uuid _ => True

instance : (v : Value) → Decidable v.Regular
  | .float x => inferInstanceAs (Decidable (x.isFinite = true))
  | .timestamp t => inferInstanceAs (Decidable (Timestamp.read? (t.textWith "Z") = some t))
  | .json x => inferInstanceAs (Decidable (x.sorted = x))
  | .null | .bool _ | .int _ | .string _ | .bytes _ | .uuid _ => isTrue trivial

theorem sorted_toJson {v : Value} (hv : v.Regular) : v.toJson.sorted = v.toJson := by
  cases v with
  | json x =>
    have hx : x.sorted = x := hv
    rw [toJson, JsonTree.sorted_single, hx]
  | bytes bs =>
    rw [toJson, JsonTree.sorted_single, JsonTree.sorted_arrayOf, List.map_map]
    rfl
  | null | bool b | int n | float x | string s | uuid u | timestamp t => rfl

theorem ofJson_toJson (insideTree : Bool) {v : Value} (hv : v.Regular) :
    ofJson insideTree v.toJson = .ok v := by
  cases v with
  | null => rfl
  | bool b => rfl
  | int n =>
    have hpayload := payload?_int n
    simp [toJson, JsonTree.objectOf, JsonTree.toMembers, ofJson, variants, hpayload]
  | float x => rfl
  | string s => rfl
  | bytes bs =>
    have hbytes := mapM_byte? bs
    simp [toJson, JsonTree.objectOf, JsonTree.toMembers, JsonTree.arrayOf, ofJson, variants,
      payload?, hbytes]
  | uuid u =>
    simp [toJson, JsonTree.objectOf, JsonTree.toMembers, ofJson, variants, payload?,
      Uuid.read?_text]
  | timestamp t =>
    have hread : Timestamp.read? (t.textWith "Z") = some t := hv
    simp [toJson, JsonTree.objectOf, JsonTree.toMembers, ofJson, variants, payload?, hread]
  | json x => rfl

end Value

private theorem mapM_readText (ss : List String) :
    (ss.map JsonTree.string).mapM readText = .ok ss := by
  induction ss with
  | nil => rfl
  | cons s ss ih => rw [List.map_cons, List.mapM_cons, ih]; rfl

namespace Tree

theorem sorted_atomJson {a : Atom} (x : a.Carrier) (hx : ∀ v ∈ atomValues a x, v.Regular) :
    (atomJson a x).sorted = atomJson a x := by
  cases a with
  | value => exact Value.sorted_toJson (hx x (List.mem_singleton.mpr rfl))
  | texts => rw [atomJson, JsonTree.sorted_arrayOf, List.map_map]; rfl
  | optionalText => cases x <;> rfl
  | direction => cases x <;> rfl
  | deleteAction => cases x <;> rfl
  | text | flag | operator | joinType | setOperator => rfl

theorem readAtom_atomJson {a : Atom} (x : a.Carrier) (hx : ∀ v ∈ atomValues a x, v.Regular) :
    readAtom a (atomJson a x) = .ok x := by
  cases a with
  | text => rfl
  | texts => exact (congrArg _ (JsonTree.itemList_toItems _)).trans (mapM_readText x)
  | optionalText => cases x <;> rfl
  | flag => rfl
  | value => exact Value.ofJson_toJson true (hx x (List.mem_singleton.mpr rfl))
  | operator => exact readVariant_name true x
  | joinType => exact readVariant_name true x
  | direction => exact readOptional_choiceJson true x
  | setOperator => exact readVariant_name true x
  | deleteAction => exact readOptional_choiceJson true x

end Tree

end QueryTree
