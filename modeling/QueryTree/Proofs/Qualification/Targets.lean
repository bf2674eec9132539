import QueryTree.Qualification
import QueryTree.Query.Delete
import QueryTree.Query.Insert
import QueryTree.Query.Select
import QueryTree.Query.Update

/-!
# Targets and declarations

Rules for two questions about a statement: whether a bare name is among its own targets, and whether
its common table expressions declare that name. The lists `targets` and `commonTables`, from which
scopes are made, hold exactly the names that the rules give.
-/
namespace QueryTree.Qualification

open QueryTree.Tree (bareName tableName)

/-- A table with a bare name, by itself or directly under another name. A schema of its own makes no
difference. -/
inductive IsTable (n : String) : AnyNode → Prop
  | table {name} : bareName name = n → IsTable n (.any (.table name))
  | aliased {name other} : bareName name = n →
      IsTable n (.any (.aliased (.any (.table name)) other))

inductive ListsTable (n : String) : Node .fromClause → Prop
  | mem {tables t} : t ∈ tables.toList → IsTable n t → ListsTable n (.fromClause tables)

inductive JoinsTable (n : String) (joins : Many .join) : Prop
  | mem {type t on} : .join type t on ∈ joins.toList → IsTable n t → JoinsTable n joins

/-- A statement has a bare name among its own targets. -/
inductive Target (n : String) : AnyNode → Prop
  | selectFrom {q : Select} {tables} :
      q.tables = .some tables → ListsTable n tables → Target n (.any q.toNode)
  | selectJoin {q : Select} : JoinsTable n q.joins → Target n (.any q.toNode)
  | insertInto {q : Insert} : tableName q.target = n → Target n (.any q.toNode)
  | updateTable {q : Update} : IsTable n q.target → Target n (.any q.toNode)
  | updateFrom {q : Update} {tables} :
      q.tables = .some tables → ListsTable n tables → Target n (.any q.toNode)
  | updateJoin {q : Update} : JoinsTable n q.joins → Target n (.any q.toNode)
  | deleteFrom {q : Delete} : ListsTable n q.tables → Target n (.any q.toNode)
  | deleteUsing {q : Delete} {tables} :
      q.others = .some tables → ListsTable n tables → Target n (.any q.toNode)
  | deleteJoin {q : Delete} : JoinsTable n q.joins → Target n (.any q.toNode)
  | alterTable {t new schema changes} :
      tableName t = n → Target n (.any (.alterTable t new schema changes))
  | createTable {t temporary existing columns} :
      tableName t = n → Target n (.any (.createTable t temporary existing columns))
  | createView {name temporary materialized orReplace existing columns query} :
      bareName name = n →
        Target n (.any (.createView name temporary materialized orReplace existing columns query))
  | createIndex {name t columns unique existing method filter} :
      tableName t = n →
        Target n (.any (.createIndex name (.some t) columns unique existing method filter))
  | createType {name values} : bareName name = n → Target n (.any (.createType name values))
  | dropTable {t existing cascade} :
      tableName t = n → Target n (.any (.dropTable t existing cascade))
  | dropView {name materialized existing cascade} :
      bareName name = n → Target n (.any (.dropView name materialized existing cascade))
  | dropIndex {name t existing cascade} :
      bareName name = n → Target n (.any (.dropIndex name t existing cascade))
  | dropIndexTable {name t existing cascade} :
      tableName t = n → Target n (.any (.dropIndex name (.some t) existing cascade))
  | dropType {name existing} : bareName name = n → Target n (.any (.dropType name existing))

inductive DeclaredIn (n : String) : Optional .withClause → Prop
  | mem {recursive tables t columns query} :
      .commonTable (.commonTableName t columns) query ∈ tables.toList → tableName t = n →
        DeclaredIn n (.some (.withClause recursive tables))

/-- A statement declares a bare name as that of a common table expression. -/
inductive Declares (n : String) : AnyNode → Prop
  | select {q : Select} : DeclaredIn n q.ctes → Declares n (.any q.toNode)
  | insert {q : Insert} : DeclaredIn n q.ctes → Declares n (.any q.toNode)
  | update {q : Update} : DeclaredIn n q.ctes → Declares n (.any q.toNode)
  | delete {q : Delete} : DeclaredIn n q.ctes → Declares n (.any q.toNode)

variable {n : String}

theorem mem_tableIn : {t : AnyNode} → (n ∈ tableIn t ↔ IsTable n t)
  | .any (k := k) t => by
    cases k
    case table =>
      match t with
      | .table name =>
        exact ⟨fun h => .table (List.mem_singleton.mp h).symm,
          fun | .table h => List.mem_singleton.mpr h.symm⟩
    case aliased =>
      match t with
      | .aliased (.any (k := j) u) other =>
        cases j
        case table =>
          match u with
          | .table name =>
            exact ⟨fun h => .aliased (List.mem_singleton.mp h).symm,
              fun | .aliased h => List.mem_singleton.mpr h.symm⟩
        all_goals
          cases u
          constructor <;> (intro h; cases h)
    all_goals
      cases t
      constructor <;> (intro h; cases h)

theorem mem_tablesOf {tables : Node .fromClause} : n ∈ tablesOf tables ↔ ListsTable n tables := by
  match tables with
  | .fromClause ts =>
    constructor
    · intro h
      obtain ⟨t, ht, hn⟩ := List.mem_flatMap.mp h
      exact .mem ht (mem_tableIn.mp hn)
    · rintro ⟨ht, hn⟩
      exact List.mem_flatMap.mpr ⟨_, ht, mem_tableIn.mpr hn⟩

theorem mem_optionalTables {tables : Optional .fromClause} :
    n ∈ optionalTables tables ↔ ∃ ts, tables = .some ts ∧ ListsTable n ts := by
  cases tables with
  | none => exact ⟨(nomatch ·), fun ⟨_, h, _⟩ => nomatch h⟩
  | some ts =>
    rw [show optionalTables (.some ts) = tablesOf ts from rfl, mem_tablesOf]
    exact ⟨fun h => ⟨ts, rfl, h⟩, fun ⟨_, h, hn⟩ => by cases h; exact hn⟩

theorem mem_joinedTables {joins : Many .join} : n ∈ joinedTables joins ↔ JoinsTable n joins := by
  constructor
  · intro h
    obtain ⟨j, hj, hn⟩ := List.mem_flatMap.mp h
    match j with
    | .join type t on => exact .mem hj (mem_tableIn.mp hn)
  · rintro ⟨hj, hn⟩
    exact List.mem_flatMap.mpr ⟨_, hj, mem_tableIn.mpr hn⟩

theorem mem_optionalTable {t : Optional .table} :
    n ∈ optionalTable t ↔ ∃ u, t = .some u ∧ tableName u = n := by
  cases t with
  | none => exact ⟨(nomatch ·), fun ⟨_, h, _⟩ => nomatch h⟩
  | some u =>
    rw [show optionalTable (.some u) = [tableName u] from rfl, List.mem_singleton]
    exact ⟨fun h => ⟨u, rfl, h.symm⟩, fun ⟨_, h, hn⟩ => by cases h; exact hn.symm⟩

private theorem select_target (q : Select) (h : n ∈ targets q.toNode) :
    Target n (.any q.toNode) := by
  rcases List.mem_append.mp h with h | h
  · obtain ⟨ts, ht, hn⟩ := mem_optionalTables.mp h
    exact .selectFrom ht hn
  · exact .selectJoin (mem_joinedTables.mp h)

private theorem update_target (q : Update) (h : n ∈ targets q.toNode) :
    Target n (.any q.toNode) := by
  rcases List.mem_append.mp h with h | h
  · rcases List.mem_append.mp h with h | h
    · exact .updateTable (mem_tableIn.mp h)
    · obtain ⟨ts, ht, hn⟩ := mem_optionalTables.mp h
      exact .updateFrom ht hn
  · exact .updateJoin (mem_joinedTables.mp h)

private theorem delete_target (q : Delete) (h : n ∈ targets q.toNode) :
    Target n (.any q.toNode) := by
  rcases List.mem_append.mp h with h | h
  · rcases List.mem_append.mp h with h | h
    · exact .deleteFrom (mem_tablesOf.mp h)
    · obtain ⟨ts, ht, hn⟩ := mem_optionalTables.mp h
      exact .deleteUsing ht hn
  · exact .deleteJoin (mem_joinedTables.mp h)

private theorem target_of_mem {k : Kind} {t : Node k} (h : n ∈ targets t) : Target n (.any t) := by
  cases k
  case selectQuery =>
    match t with
    | .selectQuery a b c d e f g i j l m o =>
      exact select_target ⟨a, b, c, d, e, f, g, i, j, l, m, o⟩ h
  case insertQuery =>
    match t with
    | .insertQuery a b c d e =>
      exact .insertInto (q := ⟨a, b, c, d, e⟩) (List.mem_singleton.mp h).symm
  case updateQuery =>
    match t with
    | .updateQuery a b c d e f g => exact update_target ⟨a, b, c, d, e, f, g⟩ h
  case deleteQuery =>
    match t with
    | .deleteQuery a b c d e f => exact delete_target ⟨a, b, c, d, e, f⟩ h
  case alterTable =>
    match t with
    | .alterTable _ _ _ _ => exact .alterTable (List.mem_singleton.mp h).symm
  case createTable =>
    match t with
    | .createTable _ _ _ _ => exact .createTable (List.mem_singleton.mp h).symm
  case createView =>
    match t with
    | .createView _ _ _ _ _ _ _ => exact .createView (List.mem_singleton.mp h).symm
  case createIndex =>
    match t with
    | .createIndex _ _ _ _ _ _ _ =>
      obtain ⟨u, rfl, hn⟩ := mem_optionalTable.mp h
      exact .createIndex hn
  case createType =>
    match t with
    | .createType _ _ => exact .createType (List.mem_singleton.mp h).symm
  case dropTable =>
    match t with
    | .dropTable _ _ _ => exact .dropTable (List.mem_singleton.mp h).symm
  case dropView =>
    match t with
    | .dropView _ _ _ _ => exact .dropView (List.mem_singleton.mp h).symm
  case dropIndex =>
    match t with
    | .dropIndex _ _ _ _ =>
      rcases List.mem_cons.mp h with h | h
      · exact .dropIndex h.symm
      · obtain ⟨u, rfl, hn⟩ := mem_optionalTable.mp h
        exact .dropIndexTable hn
  case dropType =>
    match t with
    | .dropType _ _ => exact .dropType (List.mem_singleton.mp h).symm
  -- nodes of the other kinds have no targets
  all_goals
    cases t
    cases h

theorem Target.mem_targets {k : Kind} {t : Node k} (h : Target n (.any t)) : n ∈ targets t := by
  cases h with
  | selectFrom ht hn => exact List.mem_append_left _ (mem_optionalTables.mpr ⟨_, ht, hn⟩)
  | selectJoin hn => exact List.mem_append_right _ (mem_joinedTables.mpr hn)
  | updateTable hn => exact List.mem_append_left _ (List.mem_append_left _ (mem_tableIn.mpr hn))
  | updateFrom ht hn =>
    exact List.mem_append_left _ (List.mem_append_right _ (mem_optionalTables.mpr ⟨_, ht, hn⟩))
  | updateJoin hn => exact List.mem_append_right _ (mem_joinedTables.mpr hn)
  | deleteFrom hn => exact List.mem_append_left _ (List.mem_append_left _ (mem_tablesOf.mpr hn))
  | deleteUsing ht hn =>
    exact List.mem_append_left _ (List.mem_append_right _ (mem_optionalTables.mpr ⟨_, ht, hn⟩))
  | deleteJoin hn => exact List.mem_append_right _ (mem_joinedTables.mpr hn)
  | createIndex hn => exact mem_optionalTable.mpr ⟨_, rfl, hn⟩
  | dropIndex hn => exact List.mem_cons.mpr (.inl hn.symm)
  | dropIndexTable hn => exact List.mem_cons_of_mem _ (mem_optionalTable.mpr ⟨_, rfl, hn⟩)
  | insertInto hn | alterTable hn | createTable hn | createView hn | createType hn | dropTable hn
  | dropView hn | dropType hn => exact List.mem_singleton.mpr hn.symm

theorem mem_targets {k : Kind} {t : Node k} : n ∈ targets t ↔ Target n (.any t) :=
  ⟨target_of_mem, Target.mem_targets⟩

theorem mem_declaredNames {ctes : Optional .withClause} :
    n ∈ declaredNames ctes ↔ DeclaredIn n ctes := by
  cases ctes with
  | none => exact ⟨(nomatch ·), (nomatch ·)⟩
  | some clause =>
    match clause with
    | .withClause recursive tables =>
      constructor
      · intro h
        obtain ⟨u, hu, hn⟩ := List.mem_map.mp h
        match u with
        | .commonTable (.commonTableName t columns) query => exact .mem hu hn
      · rintro ⟨hu, hn⟩
        exact List.mem_map.mpr ⟨_, hu, hn⟩

theorem mem_commonTables {k : Kind} {t : Node k} : n ∈ commonTables t ↔ Declares n (.any t) := by
  constructor
  · intro h
    cases k
    case selectQuery =>
      match t with
      | .selectQuery a b c d e f g i j l m o =>
        exact .select (q := ⟨a, b, c, d, e, f, g, i, j, l, m, o⟩) (mem_declaredNames.mp h)
    case insertQuery =>
      match t with
      | .insertQuery a b c d e =>
        exact .insert (q := ⟨a, b, c, d, e⟩) (mem_declaredNames.mp h)
    case updateQuery =>
      match t with
      | .updateQuery a b c d e f g =>
        exact .update (q := ⟨a, b, c, d, e, f, g⟩) (mem_declaredNames.mp h)
    case deleteQuery =>
      match t with
      | .deleteQuery a b c d e f =>
        exact .delete (q := ⟨a, b, c, d, e, f⟩) (mem_declaredNames.mp h)
    -- nodes of the other kinds declare nothing
    all_goals
      cases t
      cases h
  · intro h
    cases h with
    | select h | insert h | update h | delete h => exact mem_declaredNames.mpr h

instance (n : String) : (t : AnyNode) → Decidable (Target n t)
  | .any _ => decidable_of_iff _ mem_targets

instance (n : String) : (t : AnyNode) → Decidable (Declares n t)
  | .any _ => decidable_of_iff _ mem_commonTables

end QueryTree.Qualification
