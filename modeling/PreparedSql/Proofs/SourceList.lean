import PreparedSql.Proofs.ClauseFaults
import PreparedSql.Proofs.Introduced

/-! The sources in FROM, by their keys. Each table of an implicit join stands in the comma list
where it occurs first, unless it is the primary source or an explicit join introduces it; the
primary source stands in front, and a query in which it would be dropped is refused. -/

namespace PreparedSql

/-- The name, and the alias behind it. -/
def SourceKey.fromSql (key : SourceKey) : String :=
  match key.aliasName with
  | some aliasName => key.name ++ " " ++ aliasName
  | none => key.name

theorem TableRef.fromSql_eq (ref : TableRef) : ref.fromSql = ref.key.fromSql := rfl

theorem TableRef.label_eq_of_key {ref other : TableRef} (same : ref.key = other.key) :
    ref.label = other.label := by
  obtain ⟨names, aliases⟩ := SourceKey.mk.inj same
  unfold label
  rw [names, aliases]

theorem map_key_addSource (sources : List TableRef) (ref : TableRef) :
    (addSource sources ref).map TableRef.key =
      if ref.key ∈ sources.map TableRef.key then sources.map TableRef.key
      else sources.map TableRef.key ++ [ref.key] := by
  have present : sources.any (·.key == ref.key) = true ↔ ref.key ∈ sources.map TableRef.key := by
    rw [List.any_eq_true, List.mem_map]
    simp only [beq_iff_eq]
  unfold addSource
  simp only [present]
  split
  next => rfl
  next => rw [List.map_append, List.map_singleton]

/-- A last entry is new when it is none of those kept and none of those before it. -/
theorem append_eraseDups_append_singleton {α : Type} [DecidableEq α] (kept entries : List α)
    (last : α) :
    kept ++ (entries ++ [last]).eraseDups.filter (· ∉ kept) =
      if last ∈ kept ++ entries.eraseDups.filter (· ∉ kept) then
        kept ++ entries.eraseDups.filter (· ∉ kept)
      else kept ++ entries.eraseDups.filter (· ∉ kept) ++ [last] := by
  have single : [last].eraseDups = [last] := by
    rw [List.eraseDups_cons]
    rfl
  rw [List.eraseDups_append]
  by_cases old : last ∈ kept
  · by_cases again : last ∈ entries <;> simp [List.removeAll, single, old, again]
  · by_cases again : last ∈ entries <;> simp [List.removeAll, single, old, again]

/-- Adding sources adds the keys that are not there, each where it occurs first. -/
theorem map_key_addSources (sources refs : List TableRef) :
    (addSources sources refs).map TableRef.key = sources.map TableRef.key ++
      (refs.map TableRef.key).eraseDups.filter (· ∉ sources.map TableRef.key) := by
  induction refs using List.reverseRecOn with
  | nil => simp [addSources]
  | append_singleton refs ref ih =>
    have last : addSources sources (refs ++ [ref]) = addSource (addSources sources refs) ref :=
      List.foldl_append
    rw [last, map_key_addSource, ih, List.map_append, List.map_singleton,
      append_eraseDups_append_singleton]

namespace Query

variable {query : Query} {dialect : Dialect} {plan : SelectPlan}

/-- The keys of the tables in implicit joins, each where it occurs first, without the primary source
and without the tables that an explicit join introduces. -/
def listedKeys (query : Query) : List SourceKey :=
  (query.implicitTables.map TableRef.key).eraseDups.filter fun key =>
    key ≠ query.primary.key ∧ ∀ join ∈ query.explicitJoins, join.rightTable.key ≠ key

theorem map_key_listedTables (query : Query) :
    query.listedTables.map TableRef.key = query.listedKeys := by
  have added := map_key_addSources [query.primary] query.implicitTables
  obtain ⟨others, whole⟩ := prefix_addSources [query.primary] query.implicitTables
  have behind : others.map TableRef.key = (query.implicitTables.map TableRef.key).eraseDups.filter
      (· ∉ [query.primary].map TableRef.key) := by
    rw [← whole, List.map_append] at added
    exact List.append_cancel_left added
  unfold listedTables listedKeys
  rw [← whole]
  calc (others.filter fun ref => !query.isJoined ref.key).map TableRef.key
      = (others.map TableRef.key).filter fun key => !query.isJoined key := by
        rw [List.filter_map]
        rfl
    _ = _ := by
        rw [behind, List.filter_filter]
        refine List.filter_congr fun key _ => ?_
        rw [Bool.eq_iff_iff]
        simp [isJoined, and_comm]

/-- The primary source and the keys behind it are all different. -/
theorem nodup_listedKeys (query : Query) : (query.primary.key :: query.listedKeys).Nodup := by
  rw [← map_key_listedTables]
  exact query.nodup_listed

/-- Both tables of an implicit join are listed, unless a JOIN clause introduces them. -/
theorem mem_listed_or_joined {entry : JoinEntry} (member : entry ∈ query.joins)
    (implicit : entry.join.isImplicit = true) {table : TableRef} (own : table ∈ entry.tables) :
    table.key ∈ query.primary.key :: query.listedKeys ∨
      ∃ join ∈ query.explicitJoins, join.rightTable.key = table.key := by
  by_cases joined : ∃ join ∈ query.explicitJoins, join.rightTable.key = table.key
  · exact Or.inr joined
  · refine Or.inl (List.mem_cons.2 ?_)
    by_cases primary : table.key = query.primary.key
    · exact Or.inl primary
    · have asked : table ∈ query.implicitTables :=
        List.mem_flatMap.2 ⟨entry, List.mem_filter.2 ⟨member, implicit⟩, own⟩
      refine Or.inr (List.mem_filter.2 ⟨List.mem_eraseDups.2 (List.mem_map_of_mem asked), ?_⟩)
      refine decide_eq_true ⟨primary, fun join explicit same => joined ⟨join, explicit, same⟩⟩

end Query

/-- How FROM writes the primary source: a table with its alias, or the SELECT of a derived table in
parentheses, with its name. -/
def Source.Introduces (dialect : Dialect) (text : String) : Source → Prop
  | .table ref => text = ref.fromSql
  | .derived ref rows => ∃ plan, rows.selectPlan dialect = .ok plan ∧
      text = "(" ++ plan.statement.sql ++ ") AS " ++ ref.table.name

theorem Source.introduces_of_compile {dialect : Dialect} {source : Source} {origin : Fragment}
    (started : source.compile dialect = .ok origin) : source.Introduces dialect origin.sql := by
  cases source with
  | table ref =>
    cases started
    rfl
  | derived ref rows =>
    obtain ⟨plan, planned, rfl⟩ := Source.compile_of_query? rfl started
    refine ⟨plan, planned, ?_⟩
    simp only [parenthesized, Fragment.sql_append, Fragment.sql_text, Statement.sql_fragment,
      String.append_assoc]
    rfl

/-- A primary source can be introduced whose rows, if it is a derived table, have a plan. -/
theorem Source.exists_compile {dialect : Dialect} {source : Source}
    (derived : source.query? ≠ none → dialect.derivedTables = true)
    (planned : ∀ rows, source.query? = some rows → ∃ plan, rows.selectPlan dialect = .ok plan) :
    ∃ origin, source.compile dialect = .ok origin := by
  cases source with
  | table ref => exact ⟨_, rfl⟩
  | derived ref rows =>
    obtain ⟨plan, ran⟩ := planned rows rfl
    have allowed : dialect.checkDerivedTable = .ok () := by
      rw [Dialect.checkDerivedTable, derived nofun]
      rfl
    have written : rows.nested dialect (rows.body dialect) = .ok plan.statement.fragment := by
      rw [rows.nested_eq_selectPlan, ran]
      rfl
    exact ⟨_, Attempt.bind_eq_ok.2 ⟨(), allowed, Attempt.bind_eq_ok.2 ⟨_, written, rfl⟩⟩⟩

namespace Query

variable {query : Query} {dialect : Dialect}

theorem joinedPrimary?_eq_none_iff : query.joinedPrimary? = none ↔
    ¬ ∃ join ∈ query.explicitJoins, join.rightTable.key = query.primary.key := by
  unfold joinedPrimary?
  simp [List.find?_eq_none]

/-- The SELECT list can be resolved when all names in it can. -/
theorem exists_layout (names : ∀ spec, .column spec ∈ query.selection →
    ∃ column, query.resolve spec = .ok column) : ∃ slots, query.layout = .ok slots := by
  unfold layout
  split
  next => exact ⟨_, rfl⟩
  next =>
    have each : ∃ parts, query.selection.mapM query.slots = .ok parts := by
      refine Attempt.exists_mapM_iff.2 fun entry member => ?_
      cases entry with
      | all table => exact ⟨_, rfl⟩
      | raw sql => exact ⟨_, rfl⟩
      | column spec =>
        obtain ⟨column, found⟩ := names spec member
        exact ⟨_, Attempt.map_eq_ok.2 ⟨column, found, rfl⟩⟩
    obtain ⟨parts, ran⟩ := each
    exact ⟨_, Attempt.map_eq_ok.2 ⟨parts, ran, rfl⟩⟩

/-- A query that joins its primary source once more is refused for that, as soon as nothing before
the FROM clause is wrong. -/
theorem selectPlan_of_joinedPrimary {join : Join} (found : query.joinedPrimary? = some join)
    (chained : Chain.Ordered query.joins) (listed : ∃ slots, query.layout = .ok slots)
    (started : ∃ origin, query.source.compile dialect = .ok origin) :
    query.selectPlan dialect = .error (.joinedPrimary query.primary.label) := by
  have chosen := List.find?_eq_some_iff_append.1 found
  have same : join.rightTable.key = query.primary.key := eq_of_beq chosen.1
  obtain ⟨slots, laid⟩ := listed
  obtain ⟨origin, compiled⟩ := started
  have refused : query.fromClause dialect origin =
      .error (.joinedPrimary query.primary.label) := by
    unfold fromClause
    rw [found, ← TableRef.label_eq_of_key same]
  have failed : query.body dialect = .error (.joinedPrimary query.primary.label) := by
    rw [body_eq, Chain.check_eq_ok_iff.2 chained, laid, compiled]
    simp only [bind, Except.bind, refused]
  rw [selectPlan, failed]
  rfl

end Query

/-- The comma list of a planned SELECT begins with the primary source and goes on with the tables
of the implicit joins, each key where it occurs first, but for those that explicit joins
introduce; then comes one JOIN clause for each explicit join, in their order. No key is listed
twice, and no table of an implicit join is left out. A query whose chains, SELECT list and inner
queries are sound is refused for the joins of its primary source just when an explicit join
introduces this source once more. -/
theorem sources_listed_once (query : Query) (dialect : Dialect) :
    (∀ plan, query.selectPlan dialect = .ok plan →
      ∃ clauses primary joined, query.HasClauses dialect clauses ∧
        plan.statement.sql = clauses.sql ∧
        clauses.origin =
          ", ".intercalate (primary :: query.listedKeys.map SourceKey.fromSql) ++
            String.join (joined.map (" " ++ ·)) ∧
        query.source.Introduces dialect primary ∧
        List.Forall₂ (Join.Introduces dialect) query.explicitJoins joined ∧
        (query.primary.key :: query.listedKeys).Nodup ∧
        ∀ entry ∈ query.joins, entry.join.isImplicit = true → ∀ table ∈ entry.tables,
          table.key ∈ query.primary.key :: query.listedKeys ∨
            ∃ join ∈ query.explicitJoins, join.rightTable.key = table.key) ∧
    (Chain.Ordered query.joins →
      (∀ spec, .column spec ∈ query.selection → ∃ column, query.resolve spec = .ok column) →
      (query.source.query? ≠ none → dialect.derivedTables = true) →
      (∀ child ∈ query.innerQueries, ∃ plan, child.selectPlan dialect = .ok plan) →
      ∀ label, query.selectPlan dialect = .error (.joinedPrimary label) ↔
        label = query.primary.label ∧
          ∃ join ∈ query.explicitJoins, join.rightTable.key = query.primary.key) := by
  constructor
  · intro plan planned
    obtain ⟨clauses, -, has, sql, -⟩ := Query.selectPlan_clauses planned
    obtain ⟨source, introduced, started, joining, origin⟩ := has.origin
    have listed : query.listedTables.map TableRef.fromSql =
        query.listedKeys.map SourceKey.fromSql := by
      rw [← Query.map_key_listedTables, List.map_map]
      exact List.map_congr_left fun ref _ => ref.fromSql_eq
    rw [Query.fromClause_sql joining, listed] at origin
    exact ⟨clauses, source.sql, query.joinClauses dialect, has, sql, origin,
      Source.introduces_of_compile started, query.forall₂_joinClauses dialect,
      query.nodup_listedKeys,
      fun entry member implicit table own => Query.mem_listed_or_joined member implicit own⟩
  · intro chained names derived planned label
    cases found : query.joinedPrimary? with
    | none =>
      have absent := Query.joinedPrimary?_eq_none_iff.1 found
      constructor
      · intro failed
        exact (FailsInClause.selectPlan found planned _ failed).elim
      · exact fun ⟨_, present⟩ => absurd present absent
    | some join =>
      have rows : ∀ rows, query.source.query? = some rows →
          ∃ plan, rows.selectPlan dialect = .ok plan :=
        fun rows own => planned rows (Query.mem_innerQueries.2 (Or.inl own))
      rw [Query.selectPlan_of_joinedPrimary found chained (Query.exists_layout names)
        (Source.exists_compile derived rows)]
      have present : ∃ join ∈ query.explicitJoins, join.rightTable.key = query.primary.key := by
        by_contra absent
        exact nomatch found.symm.trans (Query.joinedPrimary?_eq_none_iff.2 absent)
      constructor
      · rintro ⟨⟩
        exact ⟨rfl, present⟩
      · rintro ⟨rfl, -⟩
        rfl

/-- People with the mentors of their mentors, by plain joins. The second person is listed and
joined, and the last one is joined under the given alias. -/
def mentorsQuery (last : Option String) : Query :=
  let person (aliasName : Option String) : TableRef :=
    { table := readingSchema.tables.getD 2 default, aliasName }
  let column (aliasName : Option String) (name : String) : QualifiedColumn :=
    ⟨person aliasName, { name, type := .integer }⟩
  let join (kind : JoinKind) (left right : Option String) : JoinEntry :=
    { join := { kind, first := ⟨column left "mentor_id", column right "id"⟩ } }
  let everyone : Query := { schema := readingSchema, source := .table (person none) }
  { schema := readingSchema
    source := .table (person none)
    joins :=
      [join .implicit none (some "first"), join .implicit (some "first") (some "second"),
       join .left (some "first") (some "second"), join .implicit (some "third") (some "first"),
       join .inner (some "third") last]
    filters := [.inQuery (.named "id") .isIn (everyone.select (.named "mentor_id"))] }

/-- The second person is left to its JOIN clause. Without an alias the last one is the primary
source once more. -/
theorem sources_listed_once_mentors :
    (mentorsQuery (some "last")).listedKeys =
        [⟨"person", some "first"⟩, ⟨"person", some "third"⟩] ∧
      (∃ plan joined, (mentorsQuery (some "last")).selectPlan .sqlite = .ok plan ∧
        List.Forall₂ (Join.Introduces .sqlite) (mentorsQuery (some "last")).explicitJoins joined) ∧
      (mentorsQuery none).selectPlan .sqlite = .error (.joinedPrimary "person") := by
  obtain ⟨listed, -⟩ := sources_listed_once (mentorsQuery (some "last")) .sqlite
  obtain ⟨-, -, joined, -, -, -, -, introduced, -⟩ := listed _ rfl
  refine ⟨by decide, ⟨_, joined, rfl, introduced⟩, ?_⟩
  have chained : Chain.Ordered (mentorsQuery none).joins := Chain.check_eq_ok_iff.1 rfl
  refine ((sources_listed_once (mentorsQuery none) .sqlite).2 chained nofun (absurd rfl) ?_ _).2 ?_
  · rintro child (_ | ⟨_, ⟨⟩⟩)
    exact ⟨_, rfl⟩
  · exact ⟨rfl, _, List.mem_of_getElem? (i := 1) rfl, rfl⟩

end PreparedSql
