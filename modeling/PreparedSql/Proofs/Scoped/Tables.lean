import Mathlib.Data.List.Nodup
import PreparedSql.Proofs.Introduced
import PreparedSql.Proofs.Rows.Segments

/-! Which tables the joins of a query refer to, when all of them follow relations. Each continues
the primary table or an earlier join; so FROM introduces just the tables that are joined, and a
JOIN clause refers to nothing that is introduced behind it. -/

namespace PreparedSql

open Chain

/-- A join that follows a relation, all of whose pairs are between its two tables. -/
structure JoinEntry.FollowsRelation (entry : JoinEntry) : Prop where
  hop : ∃ hop, entry.hop = some hop
  pairs : ∀ pair ∈ entry.join.pairs,
    pair.left.table = entry.join.leftTable ∧ pair.right.table = entry.join.rightTable

theorem JoinEntry.FollowsRelation.table_mem {entry : JoinEntry} (follows : entry.FollowsRelation)
    {pair : ColumnPair} (own : pair ∈ entry.join.pairs) {column : QualifiedColumn}
    (either : column ∈ [pair.left, pair.right]) : column.table ∈ entry.tables := by
  obtain ⟨left, right⟩ := follows.pairs pair own
  rcases List.mem_pair.1 either with rfl | rfl
  · exact List.mem_pair.2 (Or.inl left)
  · exact List.mem_pair.2 (Or.inr right)

/-- All joins follow relations, each from the table it continues. -/
structure RelationJoins (primary : TableRef) (joins : List JoinEntry) : Prop where
  linked : Linked primary joins
  follows : ∀ entry ∈ joins, entry.FollowsRelation

section Hops

variable {schema : Schema} {kind : JoinKind} {name : String} {names : List String}
  {previous : Option Nat} {left primary : TableRef} {aliasName : Option String}
  {joins result : List JoinEntry}

theorem followsRelation_of_hopEntry {entry : JoinEntry}
    (made : hopEntry schema kind name previous left aliasName = .ok entry) :
    entry.FollowsRelation := by
  obtain ⟨relation, -, rest⟩ := Attempt.bind_eq_ok.1 made
  obtain ⟨foreign, -, rest⟩ := Attempt.bind_eq_ok.1 rest
  obtain ⟨join, joined, done⟩ := Attempt.bind_eq_ok.1 rest
  cases Attempt.pure_eq_ok.1 done
  have tables := relationJoin_tables joined
  obtain ⟨own, foreign⟩ := tables join.first List.mem_cons_self
  refine ⟨⟨_, rfl⟩, fun pair member => ?_⟩
  obtain ⟨own', foreign'⟩ := tables pair member
  exact ⟨own'.trans own.symm, foreign'.trans foreign.symm⟩

/-- Joining along a path adds relation joins only. -/
theorem joinHops_follows (follows : ∀ entry ∈ joins, entry.FollowsRelation)
    (ran : joinHops schema kind aliasName names left previous joins = .ok result) :
    ∀ entry ∈ result, entry.FollowsRelation := by
  intro entry member
  rcases mem_joinHops ran entry member with old | ⟨_, _, _, _, made⟩
  · exact follows entry old
  · exact followsRelation_of_hopEntry made

theorem RelationJoins.nil (primary : TableRef) : RelationJoins primary [] where
  linked := (PrefixTree.nil primary).linked
  follows := List.forall_mem_nil _

theorem RelationJoins.joinHops (related : RelationJoins primary joins)
    (ran : joinHops schema kind aliasName names primary none joins = .ok result) :
    RelationJoins primary result where
  linked := (related.linked.joinHops rfl ran).1
  follows := joinHops_follows related.follows ran

end Hops

namespace BuildStep

/-- Tables are joined along relations only. -/
def joinsByRelation : BuildStep → Bool
  | .join _ | .joinHop _ _ => false
  | _ => true

theorem apply_related {step : BuildStep} {query next : Query}
    (byRelation : step.joinsByRelation = true)
    (related : RelationJoins query.primary query.joins) (applied : step.apply query = .ok next) :
    RelationJoins next.primary next.joins := by
  cases step with
  | join added => cases byRelation
  | joinHop added hop => cases byRelation
  | joinRelation path kind aliasName =>
    obtain ⟨joins, ran, done⟩ := Attempt.bind_eq_ok.1 applied
    cases Attempt.pure_eq_ok.1 done
    exact related.joinHops ran
  | _ =>
    cases applied
    exact related

theorem run_related {steps : List BuildStep} {query final : Query}
    (byRelation : ∀ step ∈ steps, step.joinsByRelation = true)
    (related : RelationJoins query.primary query.joins) (ran : run steps query = .ok final) :
    RelationJoins final.primary final.joins := by
  induction steps generalizing query with
  | nil =>
    cases ran
    exact related
  | cons step steps ih =>
    obtain ⟨next, applied, rest⟩ := Attempt.bind_eq_ok.1 ran
    obtain ⟨here, later⟩ := List.forall_mem_cons.1 byRelation
    exact ih later (apply_related here related applied) rest

end BuildStep

namespace Query

variable {query : Query}

/-- The left table of a relation join is the primary table, or the right table of a join that
stands before it. -/
theorem leftTable_of_split (related : RelationJoins query.primary query.joins)
    {before after : List JoinEntry} {entry : JoinEntry}
    (split : query.joins = before ++ entry :: after) :
    entry.join.leftTable = query.primary ∨
      ∃ earlier ∈ before, earlier.join.rightTable = entry.join.leftTable := by
  have here : query.joins[before.length]? = some entry := by
    rw [split]
    simp
  obtain ⟨hop, own⟩ := (related.follows entry (List.mem_of_getElem? here)).hop
  obtain ⟨earlier, table⟩ := related.linked _ entry hop here own
  cases continues : hop.previous with
  | none =>
    rw [continues] at table
    exact Or.inl (Option.some.inj table).symm
  | some previous =>
    rw [continues] at table
    obtain ⟨other, link, there, -, same⟩ := tableAt?_some.1 table
    rw [split, List.getElem?_append_left (earlier previous continues)] at there
    exact Or.inr ⟨other, List.mem_of_getElem? there, same⟩

/-- Both tables of a relation join are among the tables that are joined. -/
theorem mem_joinedTables_of_tables (related : RelationJoins query.primary query.joins)
    {entry : JoinEntry} (member : entry ∈ query.joins) :
    ∀ table ∈ entry.tables, table ∈ query.joinedTables := by
  have right {other : JoinEntry} (inside : other ∈ query.joins) :
      other.join.rightTable ∈ query.joinedTables :=
    List.mem_cons_of_mem _ (List.mem_map.2 ⟨other, inside, rfl⟩)
  intro table either
  obtain ⟨before, after, split⟩ := List.append_of_mem member
  rcases List.mem_pair.1 either with rfl | rfl
  · rcases leftTable_of_split related split with primary | ⟨earlier, inside, same⟩
    · rw [primary]
      exact List.mem_cons_self
    · rw [← same]
      refine right ?_
      rw [split]
      exact List.mem_append_left _ inside
  · exact right member

/-- What is added to the primary source comes from the tables that are joined. -/
theorem mem_joinedTables_of_addSources (related : RelationJoins query.primary query.joins)
    {joins : List JoinEntry} (among : joins ⊆ query.joins) {table : TableRef}
    (member : table ∈ addSources [query.primary] (joins.flatMap JoinEntry.tables)) :
    table ∈ query.joinedTables := by
  rcases mem_addSources member with primary | joined
  · rw [List.mem_singleton.1 primary]
    exact List.mem_cons_self
  · obtain ⟨entry, inside, own⟩ := List.mem_flatMap.1 joined
    exact mem_joinedTables_of_tables related (among inside) table own

/-- The tables in the comma list are joined tables. -/
theorem mem_joinedTables_of_listed (related : RelationJoins query.primary query.joins)
    {table : TableRef} (member : table ∈ query.listedTables) : table ∈ query.joinedTables :=
  mem_joinedTables_of_addSources related (List.filter_subset_self query.joins)
    (List.mem_of_mem_drop (List.mem_filter.1 member).1)

theorem mem_explicitJoins {join : Join} :
    join ∈ query.explicitJoins ↔
      ∃ entry ∈ query.joins, entry.join = join ∧ entry.join.isImplicit = false := by
  unfold explicitJoins
  rw [List.mem_filter, List.mem_map, Bool.not_eq_true']
  constructor
  · rintro ⟨⟨entry, member, rfl⟩, explicit⟩
    exact ⟨entry, member, rfl, explicit⟩
  · rintro ⟨entry, member, rfl, explicit⟩
    exact ⟨⟨entry, member, rfl⟩, explicit⟩

/-- The joins up to an explicit one, which has the explicit joins among them in front of it. -/
theorem explicitJoins_split {place : Nat} {join : Join}
    (here : query.explicitJoins[place]? = some join) :
    ∃ before entry after, query.joins = before ++ entry :: after ∧ entry.join = join ∧
      query.explicitJoins.take place = (before.map JoinEntry.join).filter (!·.isImplicit) := by
  unfold explicitJoins at here ⊢
  generalize query.joins = joins at here ⊢
  induction joins generalizing place with
  | nil => cases here
  | cons first joins ih =>
    cases kind : first.join.isImplicit with
    | true =>
      have skipped (rest : List Join) : (first.join :: rest).filter (!·.isImplicit) =
          rest.filter (!·.isImplicit) := by
        simp [kind]
      rw [List.map_cons, skipped] at here ⊢
      obtain ⟨before, entry, after, split, own, front⟩ := ih here
      refine ⟨first :: before, entry, after, by rw [split]; rfl, own, ?_⟩
      rw [front, List.map_cons, skipped]
    | false =>
      have kept (rest : List Join) : (first.join :: rest).filter (!·.isImplicit) =
          first.join :: rest.filter (!·.isImplicit) := by
        simp [kind]
      rw [List.map_cons, kept] at here ⊢
      cases place with
      | zero => exact ⟨[], first, joins, rfl, Option.some.inj here, rfl⟩
      | succ place =>
        obtain ⟨before, entry, after, split, own, front⟩ := ih here
        refine ⟨first :: before, entry, after, by rw [split]; rfl, own, ?_⟩
        rw [List.take_succ_cons, front, List.map_cons, kept]

section Apart

variable (apart : (query.joinedTables.map TableRef.key).Nodup)

include apart

/-- The primary table and the right tables have keys of their own. -/
theorem keys_apart : (∀ entry ∈ query.joins, query.primary.key ≠ entry.join.rightTable.key) ∧
    (query.joins.map fun entry => entry.join.rightTable.key).Nodup := by
  unfold joinedTables at apart
  rw [List.map_cons, List.map_map, List.nodup_cons] at apart
  refine ⟨fun entry member same => apart.1 ?_, apart.2⟩
  rw [same]
  exact List.mem_map.2 ⟨entry, member, rfl⟩

theorem joinedPrimary?_eq_none : query.joinedPrimary? = none := by
  refine List.find?_eq_none.2 fun join explicit same => ?_
  obtain ⟨entry, member, rfl, -⟩ := mem_explicitJoins.1 explicit
  exact (keys_apart apart).1 entry member (eq_of_beq same).symm

variable (related : RelationJoins query.primary query.joins)

include related

/-- The right table of an implicit join is added to the sources as it is: under its key there is no
other table to be added in its place. -/
theorem rightTable_mem_addSources {entry : JoinEntry} (member : entry ∈ query.joins)
    (implicit : entry.join.isImplicit = true) :
    entry.join.rightTable ∈ addSources [query.primary] query.implicitTables := by
  have own : entry.join.rightTable ∈ entry.tables := List.mem_pair.2 (Or.inr rfl)
  have asked : entry.join.rightTable ∈ query.implicitTables :=
    List.mem_flatMap.2 ⟨entry, List.mem_filter.2 ⟨member, implicit⟩, own⟩
  obtain ⟨source, inside, same⟩ := List.mem_map.1 (key_mem_addSources [query.primary] asked)
  have joined := mem_joinedTables_of_addSources related (List.filter_subset_self _) inside
  have here := mem_joinedTables_of_tables related member _ own
  rwa [← List.inj_on_of_nodup_map apart joined here same]

/-- The right table of an implicit join stands in the comma list. -/
theorem mem_listedTables {entry : JoinEntry} (member : entry ∈ query.joins)
    (implicit : entry.join.isImplicit = true) : entry.join.rightTable ∈ query.listedTables := by
  obtain ⟨other, distinct⟩ := keys_apart apart
  have behind : entry.join.rightTable ∈
      (addSources [query.primary] query.implicitTables).drop 1 := by
    have added := rightTable_mem_addSources apart related member implicit
    obtain ⟨others, whole⟩ := prefix_addSources [query.primary] query.implicitTables
    rw [← whole] at added ⊢
    rcases List.mem_cons.1 added with primary | later
    · exact absurd (congrArg TableRef.key primary.symm) (other entry member)
    · exact later
  have unjoined : query.isJoined entry.join.rightTable.key = false := by
    refine List.any_eq_false.2 fun join explicit same => ?_
    obtain ⟨again, inside, rfl, kind⟩ := mem_explicitJoins.1 explicit
    cases List.inj_on_of_nodup_map distinct inside member (eq_of_beq same)
    rw [implicit] at kind
    cases kind
  exact List.mem_filter.2 ⟨behind, by rw [unjoined]; rfl⟩

/-- FROM introduces each of the tables that are joined, and nothing else. -/
theorem introduced_perm : query.introduced.Perm query.joinedTables := by
  have once : query.introduced.Nodup := by
    refine List.Nodup.of_map TableRef.key
      ((nodup_introduced_iff (joinedPrimary?_eq_none apart)).2 ?_)
    have distinct := (keys_apart apart).2
    have explicit : (query.explicitJoins.map fun join => join.rightTable.key).Sublist
        ((query.joins.map JoinEntry.join).map fun join => join.rightTable.key) :=
      List.filter_sublist.map _
    rw [List.map_map] at explicit
    exact distinct.sublist explicit
  refine (List.perm_ext_iff_of_nodup once apart.of_map).2 fun table => ?_
  unfold introduced
  rw [List.mem_append, List.mem_cons]
  constructor
  · rintro ((rfl | listed) | joined)
    · exact List.mem_cons_self
    · exact mem_joinedTables_of_listed related listed
    · obtain ⟨join, explicit, rfl⟩ := List.mem_map.1 joined
      obtain ⟨entry, member, rfl, -⟩ := mem_explicitJoins.1 explicit
      exact List.mem_cons_of_mem _ (List.mem_map.2 ⟨entry, member, rfl⟩)
  · intro member
    rcases List.mem_cons.1 member with rfl | joined
    · exact Or.inl (Or.inl rfl)
    · obtain ⟨entry, inside, rfl⟩ := List.mem_map.1 joined
      cases kind : entry.join.isImplicit with
      | true => exact Or.inl (Or.inr (mem_listedTables apart related inside kind))
      | false =>
        exact Or.inr (List.mem_map.2
          ⟨entry.join, mem_explicitJoins.2 ⟨entry, inside, rfl, kind⟩, rfl⟩)

/-- The left table of a join stands in the comma list, or is the right table of an explicit join
before it. -/
theorem leftTable_mem_before {before after : List JoinEntry} {entry : JoinEntry}
    (split : query.joins = before ++ entry :: after) :
    entry.join.leftTable ∈ (query.primary :: query.listedTables) ++
      ((before.map JoinEntry.join).filter (!·.isImplicit)).map Join.rightTable := by
  rcases leftTable_of_split related split with primary | ⟨earlier, inside, same⟩
  · rw [primary]
    exact List.mem_cons_self
  · rw [← same]
    cases kind : earlier.join.isImplicit with
    | true =>
      have joined : earlier ∈ query.joins := split ▸ List.mem_append_left _ inside
      exact List.mem_append_left _
        (List.mem_cons_of_mem _ (mem_listedTables apart related joined kind))
    | false =>
      have explicit : earlier.join ∈ (before.map JoinEntry.join).filter (!·.isImplicit) :=
        List.mem_filter.2 ⟨List.mem_map.2 ⟨earlier, inside, rfl⟩, by rw [kind]; rfl⟩
      exact List.mem_append_right _ (List.mem_map.2 ⟨earlier.join, explicit, rfl⟩)

/-- The columns in a JOIN clause belong to tables of the comma list, or to right tables of JOIN
clauses that do not stand behind it. -/
theorem mem_introduced_before {place : Nat} {join : Join}
    (here : query.explicitJoins[place]? = some join) :
    ∀ pair ∈ join.pairs, ∀ column ∈ [pair.left, pair.right],
      column.table ∈ (query.primary :: query.listedTables) ++
        (query.explicitJoins.take (place + 1)).map Join.rightTable := by
  obtain ⟨before, entry, after, split, rfl, front⟩ := explicitJoins_split here
  have member : entry ∈ query.joins := split ▸ List.mem_append_right before List.mem_cons_self
  have last : query.explicitJoins.take (place + 1) =
      (before.map JoinEntry.join).filter (!·.isImplicit) ++ [entry.join] := by
    rw [List.take_add_one, here, front]
    rfl
  intro pair own column either
  rw [last, List.map_append, ← List.append_assoc]
  rcases List.mem_pair.1 ((related.follows entry member).table_mem own either) with left | right
  · rw [left]
    exact List.mem_append_left _ (leftTable_mem_before apart related split)
  · rw [right]
    exact List.mem_append_right _ List.mem_cons_self

/-- The columns of all joins belong to tables that FROM introduces. -/
theorem mem_introduced_of_pairs {entry : JoinEntry} (member : entry ∈ query.joins) :
    ∀ pair ∈ entry.join.pairs, ∀ column ∈ [pair.left, pair.right],
      column.table ∈ query.introduced := by
  intro pair own column either
  have table := (related.follows entry member).table_mem own either
  rw [(introduced_perm apart related).mem_iff]
  exact mem_joinedTables_of_tables related member _ table

end Apart

end Query

end PreparedSql
