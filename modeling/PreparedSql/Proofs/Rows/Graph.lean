import PreparedSql.Dialect.Standard
import PreparedSql.Proofs.Chain.PrefixTree
import PreparedSql.Proofs.Rows.Attach
import PreparedSql.Proofs.Rows.Segments

/-! Reading a row loses and misplaces nothing. The graph has a record at the end of the path of a
join exactly when that join and all those it continues have found a row; the record holds the
cells of the join's own table, and there are no other records. -/

namespace PreparedSql

namespace Chain

variable {joins : List JoinEntry} {found : Nat → Prop}

/-- A place where the join has found its row, as have all the joins that it continues. The primary
table always has its row. -/
inductive Reached (joins : List JoinEntry) (found : Nat → Prop) : Option Nat → Prop where
  | primary : Reached joins found none
  | hop {index : Nat} {hop : Hop} : hopAt? joins index = some hop → found index →
      Reached joins found hop.previous → Reached joins found (some index)

theorem Reached.of_hop {index : Nat} {hop : Hop} (reached : Reached joins found (some index))
    (here : hopAt? joins index = some hop) : found index ∧ Reached joins found hop.previous := by
  cases reached with
  | hop again present before =>
    cases here.symm.trans again
    exact ⟨present, before⟩

theorem Reached.congr {other : Nat → Prop} {place : Option Nat}
    (same : ∀ index, index < joins.length → (found index ↔ other index)) :
    Reached joins found place ↔ Reached joins other place := by
  constructor
  · intro reached
    induction reached with
    | primary => exact .primary
    | hop here present _ ih => exact .hop here ((same _ (lt_length_of_hopAt? here)).1 present) ih
  · intro reached
    induction reached with
    | primary => exact .primary
    | hop here present _ ih => exact .hop here ((same _ (lt_length_of_hopAt? here)).2 present) ih

end Chain

open Chain

theorem Record.contentAt?_eq_some_of_related_nil {record : Record} {names : List String}
    {said : String × List (String × Value)} (nothing : record.related = []) :
    record.contentAt? names = some said ↔ names = [] ∧ said = record.content := by
  cases names with
  | nil => simp [contentAt?, at?, eq_comm]
  | cons name names => simp [contentAt?, at?, related?, nothing, findRelated?]

namespace SelectPlan

variable {plan : SelectPlan} {row : List Value} {root : Record} {count : Nat}

/-- The join at a place has found a row. -/
def Found (plan : SelectPlan) (row : List Value) (index : Nat) : Prop :=
  ∃ entry, plan.joins[index]? = some entry ∧ plan.isUnmatched row entry.join.rightTable = false

theorem found_iff {entry : JoinEntry} (here : plan.joins[count]? = some entry) :
    plan.Found row count ↔ plan.isUnmatched row entry.join.rightTable = false := by
  constructor
  · rintro ⟨other, found, matched⟩
    cases here.symm.trans found
    exact matched
  · exact fun matched => ⟨entry, here, matched⟩

/-- What the graph says when the first joins have been taken: at the end of the path of each of
them that is reached it has the columns of its table, and nothing anywhere else. -/
def Shows (plan : SelectPlan) (row : List Value) (count : Nat) (root : Record) : Prop :=
  ∀ names said, root.contentAt? names = some said ↔
    ∃ place table, Path plan.joins place names ∧
      Reached plan.joins (plan.Found row) place ∧
      (∀ index, place = some index → index < count) ∧
      tableAt? plan.primary plan.joins place = some table ∧
      said = (plan.recordOf row table).content

namespace Shows

theorem start : plan.Shows row 0 (plan.recordOf row plan.primary) := by
  intro names said
  rw [Record.contentAt?_eq_some_of_related_nil rfl]
  constructor
  · rintro ⟨rfl, rfl⟩
    exact ⟨none, plan.primary, .primary, .primary, nofun, rfl, rfl⟩
  · rintro ⟨place, table, path, -, bound, leads, rfl⟩
    cases place with
    | some index => exact absurd (bound index rfl) (Nat.not_lt_zero index)
    | none =>
      cases leads
      exact ⟨path.eq_of_place .primary, rfl⟩

/-- Of the places whose join has been taken, those with a record are the reached ones. -/
theorem isSome_iff (distinct : Distinct plan.joins) (shows : plan.Shows row count root)
    {place : Option Nat} {names : List String} (path : Path plan.joins place names)
    (bound : ∀ index, place = some index → index < count) :
    (root.at? names).isSome = true ↔ Reached plan.joins (plan.Found row) place := by
  constructor
  · intro present
    obtain ⟨record, found⟩ := Option.isSome_iff_exists.1 present
    obtain ⟨other, table, path', reached, -⟩ :=
      (shows names record.content).1 (congrArg (Option.map Record.content) found)
    exact path.eq_of_names distinct path' ▸ reached
  · intro reached
    obtain ⟨table, leads⟩ := path.exists_tableAt? plan.primary
    have said := (shows names _).2 ⟨place, table, path, reached, bound, leads, rfl⟩
    obtain ⟨record, found, -⟩ := Option.map_eq_some_iff.1 said
    exact Option.isSome_iff_exists.2 ⟨record, found⟩

/-- A record has the columns of the table that its path leads to. -/
theorem content_eq (distinct : Distinct plan.joins) (shows : plan.Shows row count root)
    {place : Option Nat} {names : List String} (path : Path plan.joins place names)
    {table : TableRef} (leads : tableAt? plan.primary plan.joins place = some table)
    {record : Record} (found : root.at? names = some record) :
    record.content = (plan.recordOf row table).content := by
  obtain ⟨other, table', path', -, -, leads', same⟩ :=
    (shows names record.content).1 (congrArg (Option.map Record.content) found)
  obtain rfl : place = other := path.eq_of_names distinct path'
  cases leads.symm.trans leads'
  exact same

/-- A join that is not reached has nothing to add. -/
theorem skip (shows : plan.Shows row count root)
    (missed : ¬ Reached plan.joins (plan.Found row) (some count)) :
    plan.Shows row (count + 1) root := by
  intro names said
  rw [shows names said]
  refine exists_congr fun place => exists_congr fun table => and_congr_right fun _ =>
    and_congr_right fun reached => and_congr_left' ?_
  refine forall_congr' fun index => imp_congr_right fun same => ?_
  have other : index ≠ count := by
    rintro rfl
    exact missed (same ▸ reached)
  omega

/-- The record of a reached join is attached at the end of the path that its link leads to. The
paths that go on from there belong to joins further down the list, which come later. -/
theorem attach (ordered : Ordered plan.joins) (distinct : Distinct plan.joins) {hop : Hop}
    {table : TableRef} {names : List String} {changed : Record}
    (here : hopAt? plan.joins count = some hop)
    (leads : tableAt? plan.primary plan.joins (some count) = some table)
    (reached : Reached plan.joins (plan.Found row) (some count))
    (path : Path plan.joins hop.previous names) (shows : plan.Shows row count root)
    (attached : root.modifyAt? (·.attach hop.relation (plan.recordOf row table)) names =
      some changed) : plan.Shows row (count + 1) changed := by
  have own : Path plan.joins (some count) (names ++ [hop.relation]) := .hop here path
  intro whole said
  by_cases below : names ++ [hop.relation] <+: whole
  · obtain ⟨rest, rfl⟩ := below
    have there : changed.contentAt? (names ++ [hop.relation] ++ rest) =
        (plan.recordOf row table).contentAt? rest := by
      rw [List.append_assoc, List.singleton_append]
      exact congrArg (Option.map Record.content) (Record.at?_attached attached rest)
    rw [there, Record.contentAt?_eq_some_of_related_nil rfl]
    constructor
    · rintro ⟨rfl, rfl⟩
      rw [List.append_nil]
      refine ⟨some count, table, own, reached, ?_, leads, rfl⟩
      rintro _ ⟨⟩
      exact Nat.lt_succ_self count
    · rintro ⟨place, table', path', -, bound, leads', rfl⟩
      cases rest with
      | nil =>
        rw [List.append_nil] at path'
        obtain rfl : place = some count := path'.eq_of_names distinct own
        cases leads.symm.trans leads'
        exact ⟨rfl, rfl⟩
      | cons name rest =>
        cases place with
        | none =>
          have empty := path'.eq_of_place .primary
          simp at empty
        | some index =>
          obtain ⟨before, above, earlier⟩ :=
            path'.exists_of_append ordered (List.cons_ne_nil name rest)
          obtain rfl : before = some count := above.eq_of_names distinct own
          have late := earlier count rfl
          have soon := bound index rfl
          omega
  · rw [Record.contentAt?_attached attached below, shows whole said]
    refine exists_congr fun place => exists_congr fun table => and_congr_right fun path' =>
      and_congr_right fun _ => and_congr_left' ?_
    refine forall_congr' fun index => imp_congr_right fun same => ?_
    have other : index ≠ count := by
      rintro rfl
      subst same
      exact below (own.eq_of_place path' ▸ List.prefix_refl _)
    omega

end Shows

/-- One join: it is attached when it is reached, and otherwise the graph stays as it is. -/
theorem attachJoin_shows (ordered : Ordered plan.joins) (distinct : Distinct plan.joins)
    {entry : JoinEntry} (here : plan.joins[count]? = some entry)
    (shows : plan.Shows row count root) :
    ∃ next, plan.attachJoin row root entry = .ok next ∧ plan.Shows row (count + 1) next := by
  cases own : entry.hop with
  | none =>
    refine ⟨root, by simp only [attachJoin, own], shows.skip ?_⟩
    rintro (_ | ⟨there, -, -⟩)
    obtain ⟨same, found, hop⟩ := hopAt?_eq_some.1 there
    cases here.symm.trans found
    rw [own] at hop
    cases hop
  | some hop =>
    have there : hopAt? plan.joins count = some hop := hopAt?_eq_some.2 ⟨entry, here, own⟩
    cases matched : plan.isUnmatched row entry.join.rightTable with
    | true =>
      refine ⟨root, by simp only [attachJoin, own, matched, if_true], shows.skip ?_⟩
      intro reached
      have found := (found_iff here).1 (reached.of_hop there).1
      rw [matched] at found
      cases found
    | false =>
      obtain ⟨names, path⟩ := exists_path ordered there
      have bound : ∀ index, hop.previous = some index → index < count := fun index linked =>
        (ordered count hop index there linked).1
      let attach := fun parent : Record =>
        parent.attach hop.relation (plan.recordOf row entry.join.rightTable)
      have ran : plan.attachJoin row root entry =
          .ok ((root.modifyAt? attach names).getD root) := by
        simp only [attachJoin, own, matched, Hop.modifyParent?, parentPath_eq_ok_iff.2 path]
        rfl
      have parent : (root.modifyAt? attach names).isSome = true ↔
          Reached plan.joins (plan.Found row) hop.previous := by
        rw [Record.modifyAt?_isSome]
        exact shows.isSome_iff distinct path bound
      by_cases before : Reached plan.joins (plan.Found row) hop.previous
      · obtain ⟨changed, attached⟩ := Option.isSome_iff_exists.1 (parent.2 before)
        refine ⟨changed, by rw [ran, attached]; rfl, ?_⟩
        exact shows.attach ordered distinct there (tableAt?_some.2 ⟨entry, hop, here, own, rfl⟩)
          (.hop there ((found_iff here).2 matched) before) path attached
      · have missing : root.modifyAt? attach names = none := by
          simpa using mt parent.1 before
        refine ⟨root, by rw [ran, missing]; rfl, shows.skip ?_⟩
        exact fun reached => before (reached.of_hop there).2

/-- All joins, one after the other. -/
theorem readRow_shows (ordered : Ordered plan.joins) (distinct : Distinct plan.joins)
    (row : List Value) : ∃ root, plan.readRow row = .ok root ∧
      plan.Shows row plan.joins.length root := by
  have loop (done rest : List JoinEntry) (whole : plan.joins = done ++ rest) (root : Record)
      (shows : plan.Shows row done.length root) :
      ∃ final, rest.foldlM (plan.attachJoin row) root = .ok final ∧
        plan.Shows row plan.joins.length final := by
    induction rest generalizing done root with
    | nil =>
      rw [List.append_nil] at whole
      exact ⟨root, rfl, whole ▸ shows⟩
    | cons entry rest ih =>
      have here : plan.joins[done.length]? = some entry := by simp [whole]
      obtain ⟨next, ran, shows'⟩ := attachJoin_shows ordered distinct here shows
      obtain ⟨final, others, result⟩ := ih (done ++ [entry])
        (by rw [whole, List.append_assoc]; rfl) next (by simpa using shows')
      refine ⟨final, ?_, result⟩
      rw [List.foldlM_cons]
      exact Attempt.bind_eq_ok.2 ⟨next, ran, others⟩
  exact loop [] plan.joins rfl _ .start

/-- A join attaches at most one record with nothing below it, so the names stay sorted. -/
theorem attachJoin_sorted {entry : JoinEntry} {next : Record} (sorted : root.Sorted)
    (ran : plan.attachJoin row root entry = .ok next) : next.Sorted := by
  unfold attachJoin at ran
  split at ran
  next =>
    cases ran
    exact sorted
  next hop own =>
    dsimp only at ran
    split at ran
    next =>
      cases ran
      exact sorted
    next =>
      obtain ⟨changed, found, rfl⟩ := Attempt.map_eq_ok.1 ran
      obtain ⟨names, -, rfl⟩ := Attempt.map_eq_ok.1 found
      cases attached : root.modifyAt?
          (·.attach hop.relation (plan.recordOf row entry.join.rightTable)) names with
      | none => exact sorted
      | some changed =>
        refine sorted.modifyAt? (fun found below => ?_) attached
        exact below.attach (.of_related_nil rfl)

/-- Any row of any plan is read as a graph with sorted names. -/
theorem readRow_sorted (ran : plan.readRow row = .ok root) : root.Sorted := by
  have loop (entries : List JoinEntry) (start : Record) (sorted : start.Sorted)
      (ran : entries.foldlM (plan.attachJoin row) start = .ok root) : root.Sorted := by
    induction entries generalizing start with
    | nil =>
      cases ran
      exact sorted
    | cons entry entries ih =>
      rw [List.foldlM_cons] at ran
      obtain ⟨next, first, rest⟩ := Attempt.bind_eq_ok.1 ran
      exact ih next (attachJoin_sorted sorted first) rest
  exact loop plan.joins _ (.of_related_nil rfl) ran

end SelectPlan

namespace Query

variable {query : Query} {dialect : Dialect} {plan : SelectPlan} {row : List Value}

/-- The columns of a join's right table, each with its cell: they stand behind those of the
primary table and of the joins before it. -/
def joinCells (query : Query) (row : List Value) (index : Nat) (entry : JoinEntry) :
    List (Column × Value) :=
  entry.join.rightTable.cellsBehind
    (query.primary :: (query.joins.take index).map (·.join.rightTable)) row

/-- The join at a place has found a row. -/
def Matches (query : Query) (row : List Value) (index : Nat) : Prop :=
  ∃ entry, query.joins[index]? = some entry ∧
    entry.join.rightTable.Matched (query.joinCells row index entry)

/-- The graph that a row of all columns of the primary table and the joins stands for. -/
structure IsGraph (query : Query) (row : List Value) (root : Record) : Prop where
  table : root.table = query.primary.label
  values : root.values = (query.primary.table.columns.map Column.field).zip row
  /-- A relation join has a record at the end of its path if it and all joins it continues have
  found a row, and only then; the record holds its own cells. -/
  joined : ∀ index entry hop, query.joins[index]? = some entry → entry.hop = some hop →
    ∃ names, Chain.parentPath query.joins hop = .ok names ∧
      Path query.joins (some index) (names ++ [hop.relation]) ∧
      ((root.at? (names ++ [hop.relation])).isSome ↔
        Reached query.joins (query.Matches row) (some index)) ∧
      ∀ record, root.at? (names ++ [hop.relation]) = some record →
        record.table = entry.join.rightTable.label ∧
          record.values =
            (query.joinCells row index entry).map fun (column, value) => (column.field, value)
  /-- Every record in the graph is one of these, and the only one at the end of its path. -/
  only : ∀ names record, root.Holds names record → root.at? names = some record ∧
    (names = [] ∨ ∃ index, Path query.joins (some index) names)

/-- The tables on both sides of a join's right table in the SELECT list. -/
theorem joinedTables_split {index : Nat} {entry : JoinEntry}
    (here : query.joins[index]? = some entry) :
    query.joinedTables =
      (query.primary :: (query.joins.take index).map (·.join.rightTable)) ++
        entry.join.rightTable :: (query.joins.drop (index + 1)).map (·.join.rightTable) := by
  obtain ⟨bound, rfl⟩ := List.getElem?_eq_some_iff.1 here
  have whole : query.joins =
      query.joins.take index ++ query.joins[index] :: query.joins.drop (index + 1) := by
    rw [← List.drop_eq_getElem_cons bound, List.take_append_drop]
  unfold joinedTables
  conv => lhs; rw [whole]
  rw [List.map_append, List.map_cons, List.cons_append]

section Reading

variable (layout : plan.layout = tableSlots query.joinedTables)
  (apart : (query.joinedTables.map TableRef.key).Nodup)

include layout apart

theorem cells_primary (row : List Value) :
    plan.cells row query.primary = query.primary.cellsBehind [] row :=
  SelectPlan.cells_eq layout apart

theorem cells_join {index : Nat} {entry : JoinEntry} (here : query.joins[index]? = some entry)
    (row : List Value) :
    plan.cells row entry.join.rightTable = query.joinCells row index entry := by
  have split := joinedTables_split here
  exact SelectPlan.cells_eq (split ▸ layout) (split ▸ apart)

end Reading

/-- A plan that selects all columns of the tables, each under a key of its own, reads a row of
the right length as the graph it stands for. -/
theorem readRow_isGraph (primary : plan.primary = query.primary)
    (joins : plan.joins = query.joins) (layout : plan.layout = tableSlots query.joinedTables)
    (apart : (query.joinedTables.map TableRef.key).Nodup) (ordered : Ordered query.joins)
    (distinct : Distinct query.joins) (enough : row.length = plan.layout.length) :
    ∃ root, plan.readRow row = .ok root ∧ query.IsGraph row root := by
  rw [← joins] at ordered distinct
  obtain ⟨root, ran, shows⟩ := SelectPlan.readRow_shows ordered distinct row
  have found (index : Nat) : plan.Found row index ↔ query.Matches row index := by
    unfold SelectPlan.Found Matches
    rw [joins]
    refine exists_congr fun entry => and_congr_right fun here => ?_
    have split := joinedTables_split here
    exact SelectPlan.isUnmatched_eq_false_iff_matched (split ▸ layout) (split ▸ apart) enough
  have top := shows.content_eq distinct .primary rfl (rfl : root.at? [] = some root)
  rw [primary] at top
  refine ⟨root, ran, ⟨congrArg Prod.fst top, ?_, ?_, ?_⟩⟩
  · have values : root.values = (plan.cells row query.primary).map _ := congrArg Prod.snd top
    rw [values, cells_primary layout apart, List.zip_map_left]
    rfl
  · intro index entry hop here own
    have here' : plan.joins[index]? = some entry := joins ▸ here
    have there : hopAt? plan.joins index = some hop := hopAt?_eq_some.2 ⟨entry, here', own⟩
    obtain ⟨names, path⟩ := exists_path ordered there
    have whole : Path plan.joins (some index) (names ++ [hop.relation]) := .hop there path
    have leads : tableAt? plan.primary plan.joins (some index) = some entry.join.rightTable :=
      tableAt?_some.2 ⟨entry, hop, here', own, rfl⟩
    have bound : ∀ other, some index = some other → other < plan.joins.length := by
      rintro _ ⟨⟩
      exact lt_length_of_hopAt? there
    rw [← joins]
    refine ⟨names, parentPath_eq_ok_iff.2 path, whole, ?_, fun record at' => ?_⟩
    · rw [shows.isSome_iff distinct whole bound]
      exact Reached.congr fun index _ => found index
    · have content := shows.content_eq distinct whole leads at'
      have values : record.values = (plan.cells row entry.join.rightTable).map _ :=
        congrArg Prod.snd content
      exact ⟨congrArg Prod.fst content, by rw [values, cells_join layout apart here]⟩
  · intro names record held
    have there := (SelectPlan.readRow_sorted ran).holds_iff.1 held
    refine ⟨there, ?_⟩
    obtain ⟨place, table, path, -⟩ :=
      (shows names record.content).1 (congrArg (Option.map Record.content) there)
    rw [← joins]
    cases place with
    | none => exact Or.inl (path.eq_of_place .primary)
    | some index => exact Or.inr ⟨index, path⟩

end Query

namespace BuildStep

/-- A call that adds to the SELECT list. -/
def selects : BuildStep → Bool
  | .select _ | .selectAll _ | .selectRaw _ | .selectWithJoins => true
  | _ => false

theorem run_selection {steps : List BuildStep} {query final : Query}
    (unselected : ∀ step ∈ steps, step.selects = false) (ran : run steps query = .ok final) :
    final.selection = query.selection := by
  induction steps generalizing query with
  | nil =>
    cases ran
    rfl
  | cons step steps ih =>
    obtain ⟨next, applied, rest⟩ := Attempt.bind_eq_ok.1 ran
    obtain ⟨here, later⟩ := List.forall_mem_cons.1 unselected
    have same : next.selection = query.selection := by
      cases step with
      | joinRelation path kind aliasName =>
        obtain ⟨joins, -, done⟩ := Attempt.bind_eq_ok.1 applied
        cases Attempt.pure_eq_ok.1 done
        rfl
      | select | selectAll | selectRaw | selectWithJoins => cases here
      | _ =>
        cases applied
        rfl
    rw [ih later rest, same]

end BuildStep

/-- A query on a table, joined along relations in any way that gives every table a key of its own
and no join the hop of another one, selects the tables of all joins: every row of its plan is
read as the graph it stands for. -/
theorem rows_read_as_graphs {schema : Schema} {name : String} {aliasName : Option String}
    {start joined : Query} {steps : List BuildStep} {dialect : Dialect} {plan : SelectPlan}
    {row : List Value} (began : Query.ofTable schema name aliasName = .ok start)
    (unselected : ∀ step ∈ steps, step.selects = false)
    (ran : BuildStep.run steps start = .ok joined)
    (apart : (joined.joinedTables.map TableRef.key).Nodup)
    (distinct : (joined.joins.filterMap JoinEntry.hop).Nodup)
    (planned : joined.selectWithJoins.selectPlan dialect = .ok plan)
    (enough : row.length = plan.layout.length) :
    ∃ root, plan.readRow row = .ok root ∧ joined.IsGraph row root := by
  have fresh : joined.selection = [] := by
    rw [BuildStep.run_selection unselected ran]
    obtain ⟨ref, -, rfl⟩ := Attempt.map_eq_ok.1 began
    rfl
  obtain ⟨chained, slots, primary, joins⟩ := Query.selectPlan_parts planned
  have layout : plan.layout = tableSlots joined.joinedTables :=
    Except.ok.inj (slots.symm.trans (Query.layout_selectWithJoins fresh))
  exact Query.readRow_isGraph primary joins layout apart (Chain.check_eq_ok_iff.1 chained)
    (Chain.distinct_of_nodup distinct) enough

/-- The two people of a book under aliases of their own; the path to a mentor goes on from the
second of them. -/
def peopleSteps : List BuildStep :=
  [.joinRelation "Book.Author" .left (some "author"),
   .filter (.raw "r.id > 7"),
   .joinRelation "Book.Editor" .left (some "editor"),
   .joinRelation "Book.Editor.Mentor" .left none]

/-- What these calls make of the reviews. -/
def peopleQuery : Query :=
  let tableAt (place : Nat) (aliasName : Option String) : TableRef :=
    { table := readingSchema.tables.getD place default, aliasName }
  let column (name : String) : Column := { name, type := .integer }
  let join (left right : TableRef) (own : String) : Join :=
    { kind := .left
      first := ⟨⟨left, column own⟩, ⟨right, { column "id" with primaryKey := true }⟩⟩ }
  let review := tableAt 0 (some "r")
  let book := tableAt 1 none
  let author := tableAt 2 (some "author")
  let editor := tableAt 2 (some "editor")
  { schema := readingSchema
    source := .table review
    filters := [.raw "r.id > 7"]
    joins :=
      [⟨join review book "book_id", some ⟨"Book", none⟩⟩,
       ⟨join book author "author_id", some ⟨"Author", some 0⟩⟩,
       ⟨join book editor "editor_id", some ⟨"Editor", some 0⟩⟩,
       ⟨join editor (tableAt 2 none) "mentor_id", some ⟨"Mentor", some 2⟩⟩] }

/-- The book has an author but no editor; the cells of a mentor lead nowhere. -/
def peopleRow : List Value :=
  let number (value : Int64) : Value := some (.int value)
  [number 1, number 5, number 5, number 7, none, number 7, none, none, none, number 9, none]

theorem rows_read_as_graphs_people :
    ∃ start plan root, Query.ofTable readingSchema "review" (some "r") = .ok start ∧
      (∀ step ∈ peopleSteps, step.selects = false) ∧
      BuildStep.run peopleSteps start = .ok peopleQuery ∧
      (peopleQuery.joinedTables.map TableRef.key).Nodup ∧
      (peopleQuery.joins.filterMap JoinEntry.hop).Nodup ∧
      peopleQuery.selectWithJoins.selectPlan .mysql = .ok plan ∧
      peopleRow.length = plan.layout.length ∧
      plan.readRow peopleRow = .ok root ∧ peopleQuery.IsGraph peopleRow root ∧
      (root.at? ["Book", "Author"]).isSome ∧ (root.at? ["Book", "Editor", "Mentor"]).isNone := by
  have unselected : ∀ step ∈ peopleSteps, step.selects = false := by decide
  have apart : (peopleQuery.joinedTables.map TableRef.key).Nodup := by decide
  have distinct : (peopleQuery.joins.filterMap JoinEntry.hop).Nodup := by decide
  obtain ⟨root, read, graph⟩ := @rows_read_as_graphs readingSchema "review" (some "r") _
    peopleQuery peopleSteps .mysql _ peopleRow rfl unselected rfl apart distinct rfl rfl
  refine ⟨_, _, root, rfl, unselected, rfl, apart, distinct, rfl, rfl, read, graph, ?_⟩
  cases read
  exact ⟨rfl, rfl⟩

end PreparedSql
