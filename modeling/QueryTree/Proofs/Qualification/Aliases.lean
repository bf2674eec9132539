import QueryTree.Expression
import QueryTree.Proofs.Qualification.Positions

/-!
# Aliases and qualification

A query may give a table another name, by which its references then call the table. Scopes hold the
names of tables and know nothing of aliases, so a reference to an alias stays bare only as long as
no statement around it has a table of the same name. If one does, the reference is taken to be to
that table, although the alias hides it. Only the names of common table expressions are protected.
-/
namespace QueryTree

namespace Qualification

open QueryTree.Tree (bareName tableNamed)

def listedTables : Node .fromClause → List AnyNode
  | .fromClause tables => tables.toList

def optionalListedTables (tables : Optional .fromClause) : List AnyNode :=
  (tables.toOption.map listedTables).getD []

def tableOfJoin : Node .join → AnyNode
  | .join _ table _ => table

/-- What a query reads or changes, as it is written: tables, with or without another name, and
whatever else stands in their places. Nodes of other kinds have nothing of the sort. -/
def tableExpressions : {k : Kind} → Node k → List AnyNode
  | _, .selectQuery _ _ _ tables joins _ _ _ _ _ _ _ =>
    optionalListedTables tables ++ joins.toList.map tableOfJoin
  | _, .updateQuery _ table _ tables joins _ _ =>
    table :: optionalListedTables tables ++ joins.toList.map tableOfJoin
  | _, .deleteQuery _ tables others joins _ _ =>
    listedTables tables ++ optionalListedTables others ++ joins.toList.map tableOfJoin
  | _, _ => []

variable {k : Kind} {n : String}

def GivesAlias (n : String) (S : Node k) : Prop :=
  ∃ t, .any (.aliased t (.identifier n)) ∈ tableExpressions S

/-- A query has a table of a given bare name among its targets, under no other name. -/
def HasPlainTable (n : String) (S : Node k) : Prop :=
  ∃ name, bareName name = n ∧ .any (.table name) ∈ tableExpressions S

/-- A query has a table of a given bare name among its targets and gives it another name. -/
def HasRenamedTable (n : String) (S : Node k) : Prop :=
  ∃ name other, bareName name = n ∧ .any (.aliased (.any (.table name)) other) ∈ tableExpressions S

/-- The kinds of query that read or change what they have in a list of tables. -/
def readsTables (k : Kind) : Bool := k == .selectQuery || k == .updateQuery || k == .deleteQuery

theorem optionalTables_eq (tables : Optional .fromClause) :
    optionalTables tables = (optionalListedTables tables).flatMap tableIn := by
  match tables with
  | .none => rfl
  | .some (.fromClause _) => rfl

theorem joinedTables_eq (joins : Many .join) :
    joinedTables joins = (joins.toList.map tableOfJoin).flatMap tableIn := by
  have hjoin (j : Node .join) : joinedTable j = tableIn (tableOfJoin j) :=
    match j with
    | .join _ _ _ => rfl
  rw [joinedTables, List.flatMap_map, funext hjoin]

theorem targets_eq (hk : readsTables k = true) (S : Node k) :
    targets S = (tableExpressions S).flatMap tableIn := by
  cases k
  case selectQuery =>
    match S with
    | .selectQuery _ _ _ tables joins _ _ _ _ _ _ _ =>
      show optionalTables tables ++ joinedTables joins =
        (optionalListedTables tables ++ _).flatMap tableIn
      rw [List.flatMap_append, optionalTables_eq, joinedTables_eq]
  case updateQuery =>
    match S with
    | .updateQuery _ table _ tables joins _ _ =>
      show tableIn table ++ optionalTables tables ++ joinedTables joins =
        (table :: _ ++ _).flatMap tableIn
      rw [List.flatMap_append, List.flatMap_cons, optionalTables_eq, joinedTables_eq]
  case deleteQuery =>
    match S with
    | .deleteQuery _ (.fromClause tables) others joins _ _ =>
      show tables.toList.flatMap tableIn ++ optionalTables others ++ joinedTables joins =
        (tables.toList ++ _ ++ _).flatMap tableIn
      rw [List.flatMap_append, List.flatMap_append, optionalTables_eq, joinedTables_eq]
  all_goals cases hk

/-- A query has a bare name among its targets if it has a table of that name, under another name or
not. -/
theorem target_iff (hk : readsTables k = true) (S : Node k) :
    Target n (.any S) ↔ HasPlainTable n S ∨ HasRenamedTable n S := by
  rw [← mem_targets, targets_eq hk, List.mem_flatMap]
  constructor
  · rintro ⟨t, ht, hn⟩
    cases mem_tableIn.mp hn with
    | table hname => exact .inl ⟨_, hname, ht⟩
    | aliased hname => exact .inr ⟨_, _, hname, ht⟩
  · rintro (⟨name, hname, ht⟩ | ⟨name, other, hname, ht⟩)
    · exact ⟨_, ht, mem_tableIn.mpr (.table hname)⟩
    · exact ⟨_, ht, mem_tableIn.mpr (.aliased hname)⟩

variable {column : AnyNode} {S : Node k} {outer : List AnyNode}

/-- What it takes that a query with other statements around it leaves a name bare of which it has no
table, unless under another name: some of the statements declares the name as that of a common table
expression, or neither the query has a table of the name behind an alias nor a statement around the
query has one at all. -/
def LeavesBare (n : String) (S : Node k) (outer : List AnyNode) : Prop :=
  (∃ t ∈ .any S :: outer, Declares n t) ∨ ¬HasRenamedTable n S ∧ ∀ t ∈ outer, ¬Target n t

theorem leavesBare_iff (hk : readsTables k = true) (hplain : ¬HasPlainTable n S) :
    LeavesBare n S outer ↔ ¬StandsForTable (.any S :: outer) n := by
  have htarget : (∃ t ∈ .any S :: outer, Target n t) ↔
      HasRenamedTable n S ∨ ∃ t ∈ outer, Target n t := by
    simp [target_iff hk, hplain]
  rw [StandsForTable, htarget, LeavesBare]
  constructor
  · rintro (⟨t, ht, hn⟩ | ⟨hrenamed, houter⟩) ⟨htarget, hdeclares⟩
    · exact hdeclares t ht hn
    · rcases htarget with h | ⟨t, ht, hn⟩
      · exact hrenamed h
      · exact houter t ht hn
  · intro h
    by_cases hdeclares : ∃ t ∈ .any S :: outer, Declares n t
    · exact .inl hdeclares
    · have hnone : ∀ t ∈ .any S :: outer, ¬Declares n t := fun t ht hn => hdeclares ⟨t, ht, hn⟩
      exact .inr ⟨fun hrenamed => h ⟨.inl hrenamed, hnone⟩,
        fun t ht hn => h ⟨.inr ⟨t, ht, hn⟩, hnone⟩⟩

/-- A reference belongs to a query that has no table of the name by which the reference calls its
table, unless under another name. So if the name is known to the query, it is an alias. Whether the
reference stays bare is told by the tables of the same name, in the query behind an alias or in the
statements around it. -/
theorem read_qualify_alias (schema : String) (P : Opening (.slot .any))
    (hk : readsTables k = true) (hown : P.statements (referenceTo n column) = .any S :: outer)
    (hplain : ¬HasPlainTable n S) :
    let t := P.fill (referenceTo n column)
    ∃ column',
      (LeavesBare n S outer →
        P.read ((qualify schema t).apply t) = some (referenceTo n column')) ∧
      (¬LeavesBare n S outer →
        P.read ((qualify schema t).apply t) = some (referenceIn schema n column')) := by
  intro t
  obtain ⟨column', hread⟩ := read_qualify_referenceTo schema P n column
  refine ⟨column', fun h => ?_, fun h => ?_⟩
  · have hstands : ¬StandsForTable (.any S :: outer) n := (leavesBare_iff hk hplain).mp h
    rw [hread, hown, if_neg hstands]
  · have hstands : StandsForTable (.any S :: outer) n :=
      Decidable.of_not_not fun hstands => h ((leavesBare_iff hk hplain).mpr hstands)
    rw [hread, hown, if_pos hstands]

/-- A selection from tables with a place open in the condition on its rows. -/
def filteredBy (tables : Slot (.many .any)) (C : Opening (.slot .any)) :
    Opening (.slot (.node .selectQuery)) :=
  .node .selectQuery (.later .none (.later (.atom false) (.later .nil
    (.later (.some (.fromClause tables)) (.later .nil
      (.field (.present (.node .whereClause (.field C .done))) (.field .none (.field .none
        (.field .none (.field .none (.field .none (.field .nil .done))))))))))))

/-- Persons under the name of orders, with an operand of their condition open. -/
def personsAsOrders : Opening (.slot (.node .selectQuery)) :=
  filteredBy (.cons (Expression.named (.any (tableNamed "person")) "orders") .nil)
    (.any (.node .binaryOperation (.field .here (.field (.operator .eq)
      (.field (Expression.value (.int 1)) .done)))))

def ordersWithPersons : Opening (.slot .any) :=
  .any (filteredBy (.cons (.any (tableNamed "orders")) .nil)
    (.any (.node .unaryOperation (.later (.operator .existsRow)
      (.field (.any (.node .parens (.field (.any personsAsOrders) .done))) .done)))))

def idOfOrders : AnyNode := referenceTo "orders" (.any (Tree.columnNamed "id"))

theorem statements_ordersWithPersons :
    ordersWithPersons.statements idOfOrders =
      [.any (personsAsOrders.fill idOfOrders), ordersWithPersons.fill idOfOrders] := rfl

theorem not_hasPlainTable_personsAsOrders :
    ¬HasPlainTable "orders" (personsAsOrders.fill idOfOrders) := by
  rintro ⟨name, -, hmem⟩
  exact nomatch List.mem_singleton.mp hmem

theorem read_qualify_alias_ordersWithPersons :
    let t := ordersWithPersons.fill idOfOrders
    ¬HasPlainTable "orders" (personsAsOrders.fill idOfOrders) ∧
      ∃ column', ordersWithPersons.read ((qualify "app" t).apply t) =
        some (referenceIn "app" "orders" column') := by
  intro t
  have hplain := not_hasPlainTable_personsAsOrders
  have hleaves : ¬LeavesBare "orders" (personsAsOrders.fill idOfOrders) [t] := by
    rw [leavesBare_iff rfl hplain]
    decide
  obtain ⟨column', -, hread⟩ :=
    read_qualify_alias "app" ordersWithPersons rfl statements_ordersWithPersons hplain
  exact ⟨hplain, column', hread hleaves⟩

/-- A reference to an alias does not stay bare in every case. -/
theorem not_forall_alias_stays_bare :
    ¬∀ (schema : String) (P : Opening (.slot .any)) (n : String) (column : AnyNode) (k : Kind)
      (S : Node k) (outer : List AnyNode), readsTables k = true →
      P.statements (referenceTo n column) = .any S :: outer → GivesAlias n S →
      ¬HasPlainTable n S → ∃ column', P.read ((qualify schema (P.fill (referenceTo n column))).apply
        (P.fill (referenceTo n column))) = some (referenceTo n column') := by
  intro h
  have halias : GivesAlias "orders" (personsAsOrders.fill idOfOrders) :=
    ⟨.any (tableNamed "person"), .head _⟩
  obtain ⟨column', hread⟩ := h "app" ordersWithPersons "orders" _ .selectQuery _ _ rfl
    statements_ordersWithPersons halias not_hasPlainTable_personsAsOrders
  have hcode : ordersWithPersons.read ((qualify "app" (ordersWithPersons.fill idOfOrders)).apply
      (ordersWithPersons.fill idOfOrders)) =
      some (referenceIn "app" "orders" (.any (Tree.columnNamed "id"))) := by
    decide +kernel
  exact nomatch hcode.symm.trans hread

end Qualification

end QueryTree
