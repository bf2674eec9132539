import QueryTree.Proofs.Qualification.Aliases

/-!
# Tables of other schemas

A query may read a table of a schema of its own and refer to it by its bare name. Scopes hold bare
names and not the schemas of the tables, so such a reference is given the new schema although the
table keeps the old one, and the two no longer belong together. Only where a statement around the
reference declares its name as that of a common table expression does the reference stay bare.
-/
namespace QueryTree

namespace Qualification

open QueryTree.Tree (bareName tableNamed)

variable {k : Kind} {n : String}

/-- The name by which a query knows one of its targets: the other name that it is given, or the bare
name of a table without one. -/
def exposedName? : AnyNode → Option String
  | .any (.table name) => some (bareName name)
  | .any (.aliased _ (.identifier n)) => some n
  | _ => none

/-- A query knows a target by a name, and no target other than this. -/
structure KnowsOnly (n : String) (target : AnyNode) (S : Node k) : Prop where
  mem : target ∈ tableExpressions S
  only : ∀ t ∈ tableExpressions S, exposedName? t = some n → t = target

private theorem target_of_mem_tableExpressions {S : Node k} (hk : readsTables k = true)
    {name : Node .schemableIdentifier} (h : .any (.table name) ∈ tableExpressions S) :
    Target (bareName name) (.any S) :=
  (target_iff hk S).mpr (.inl ⟨name, rfl, h⟩)

/-- A name that a query has among its targets stands for a table in it, unless it is declared as
that of a common table expression. -/
private theorem standsForTable_of_target {S : Node k} {outer : List AnyNode}
    (h : Target n (.any S)) :
    StandsForTable (.any S :: outer) n ↔ ∀ t ∈ .any S :: outer, ¬Declares n t :=
  and_iff_right ⟨_, .head _, h⟩

theorem schema_eq_of_referenceIn_eq {schema q : String} {c c' : AnyNode}
    (h : referenceIn schema n c = referenceIn q n c') : schema = q := by
  cases h
  rfl

variable {S : Node k} {outer : List AnyNode} {column : AnyNode}

/-- A reference calls by its bare name a table that the query reads in a schema `q`, and nothing
else that the query reads is known by this name. The reference stays bare if a statement around it
declares the name as that of a common table expression. Otherwise it is given the new schema, so it
goes on naming the table that the query reads only if that schema is `q`. -/
theorem read_qualify_tableInSchema (schema q : String) (P : Opening (.slot .any))
    (hk : readsTables k = true) (hown : P.statements (referenceTo n column) = .any S :: outer)
    (hknows : KnowsOnly n (.any (.table (Tree.qualified q n))) S) :
    let t := P.fill (referenceTo n column)
    let declared := ∃ u ∈ .any S :: outer, Declares n u
    ∃ column',
      (declared → P.read ((qualify schema t).apply t) = some (referenceTo n column')) ∧
      (¬declared → P.read ((qualify schema t).apply t) = some (referenceIn schema n column')) ∧
      ((∃ c, P.read ((qualify schema t).apply t) = some (referenceTo n c) ∨
          P.read ((qualify schema t).apply t) = some (referenceIn q n c)) ↔
        declared ∨ schema = q) := by
  intro t declared
  have htarget : Target n (.any S) := target_of_mem_tableExpressions hk hknows.mem
  have hstands : StandsForTable (.any S :: outer) n ↔ ¬declared := by
    rw [standsForTable_of_target htarget]
    simp [declared]
  obtain ⟨column', hread⟩ := read_qualify_referenceTo schema P n column
  rw [hown] at hread
  by_cases hdeclared : declared
  · rw [if_neg fun h => hstands.mp h hdeclared] at hread
    exact ⟨column', fun _ => hread, fun h => absurd hdeclared h,
      fun _ => .inl hdeclared, fun _ => ⟨column', .inl hread⟩⟩
  · rw [if_pos (hstands.mpr hdeclared)] at hread
    refine ⟨column', fun h => absurd h hdeclared, fun _ => hread, ?_, ?_⟩
    · rintro ⟨c, h | h⟩
      · exact nomatch hread.symm.trans h
      · exact .inr (schema_eq_of_referenceIn_eq (Option.some.inj (hread.symm.trans h)))
    · rintro (h | rfl)
      · exact absurd h hdeclared
      · exact ⟨column', .inr hread⟩

/-- Persons of another schema, with an operand of the condition on them open. -/
def otherPersons : Opening (.slot (.node .selectQuery)) :=
  filteredBy (.cons (.any (.table (Tree.qualified "other" "person"))) .nil)
    (.any (.node .binaryOperation (.field .here (.field (.operator .eq)
      (.field (Expression.value (.int 1)) .done)))))

def idOfPerson : AnyNode := referenceTo "person" (.any (Tree.columnNamed "id"))

theorem statements_otherPersons :
    (Opening.any otherPersons).statements idOfPerson = [.any (otherPersons.fill idOfPerson)] := rfl

theorem knowsOnly_otherPersons :
    KnowsOnly "person" (.any (.table (Tree.qualified "other" "person")))
      (otherPersons.fill idOfPerson) where
  mem := .head _
  only _ ht _ := List.mem_singleton.mp ht

theorem read_qualify_tableInSchema_otherPersons :
    let t := Tree.any (otherPersons.fill idOfPerson)
    KnowsOnly "person" (.any (.table (Tree.qualified "other" "person")))
        (otherPersons.fill idOfPerson) ∧
      ∃ column', (Opening.any otherPersons).read ((qualify "app" t).apply t) =
        some (referenceIn "app" "person" column') := by
  intro t
  have hdeclared : ¬∃ u ∈ [t], Declares "person" u := by decide
  obtain ⟨column', -, hread, -⟩ := read_qualify_tableInSchema "app" "other" (.any otherPersons) rfl
    statements_otherPersons knowsOnly_otherPersons
  exact ⟨knowsOnly_otherPersons, column', hread hdeclared⟩

/-- A reference to a table of another schema is not left alone in every case. -/
theorem not_forall_schema_kept :
    ¬∀ (schema q : String) (P : Opening (.slot .any)) (n : String) (column : AnyNode) (k : Kind)
      (S : Node k) (outer : List AnyNode), readsTables k = true →
      P.statements (referenceTo n column) = .any S :: outer →
      KnowsOnly n (.any (.table (Tree.qualified q n))) S →
      ∃ c, P.read ((qualify schema (P.fill (referenceTo n column))).apply
          (P.fill (referenceTo n column))) = some (referenceTo n c) ∨
        P.read ((qualify schema (P.fill (referenceTo n column))).apply
          (P.fill (referenceTo n column))) = some (referenceIn q n c) := by
  intro h
  obtain ⟨c, hread⟩ := h "app" "other" (.any otherPersons) "person" _ .selectQuery _ _ rfl
    statements_otherPersons knowsOnly_otherPersons
  have hcode : (Opening.any otherPersons).read
      ((qualify "app" (.any (otherPersons.fill idOfPerson))).apply
        (.any (otherPersons.fill idOfPerson))) =
      some (referenceIn "app" "person" (.any (Tree.columnNamed "id"))) := by
    decide +kernel
  rcases hread with hread | hread
  · exact nomatch hcode.symm.trans hread
  · have hschema : "app" = "other" := schema_eq_of_referenceIn_eq (Option.some.inj
      (hcode.symm.trans hread))
    exact absurd hschema (by decide)

end Qualification

end QueryTree
