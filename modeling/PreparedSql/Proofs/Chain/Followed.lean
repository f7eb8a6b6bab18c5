import PreparedSql.Proofs.Chain.PrefixTree
import PreparedSql.Proofs.Schema.Valid

/-! Joining along paths over a schema that passes its check. The schema alone then says how far a
path leads: whatever has been joined before, and under whatever alias, a path fails at the hop where
the walk from table to table has no way on, and nowhere else. -/

namespace PreparedSql

open Chain

/-- The name is no relation of the table, or one without column pairs. Of relations with the same
name the first one counts. -/
def Table.Closed (table : Table) (name : String) : Prop :=
  ∀ relation, table.relations.find? (·.name == name) = some relation → relation.pairs = []

namespace Schema

/-- The first relation of the name has column pairs and leads from one table to the other. -/
def Leads (schema : Schema) (table : Table) (name : String) (foreign : Table) : Prop :=
  ∃ relation, table.relations.find? (·.name == name) = some relation ∧ relation.pairs ≠ [] ∧
    schema.table relation.foreignTable = .ok foreign

/-- A walk along relations, from a table on, comes to a last table and has no way on from there by
the hop that is next. -/
inductive Stuck (schema : Schema) : Table → List String → Table → String → Prop where
  | here {table : Table} {name : String} {names : List String} :
      table.Closed name → Stuck schema table (name :: names) table name
  | further {table foreign last : Table} {name hop : String} {names : List String} :
      schema.Leads table name foreign → Stuck schema foreign names last hop →
        Stuck schema table (name :: names) last hop

variable {schema : Schema} {table foreign last : Table} {name hop : String} {names : List String}

theorem Leads.not_closed (leads : schema.Leads table name foreign) : ¬ table.Closed name := by
  obtain ⟨relation, found, some, -⟩ := leads
  exact fun closed => some (closed relation found)

theorem Leads.eq {other : Table} (leads : schema.Leads table name foreign)
    (again : schema.Leads table name other) : foreign = other := by
  obtain ⟨relation, found, -, target⟩ := leads
  obtain ⟨relation', found', -, target'⟩ := again
  cases found.symm.trans found'
  exact Except.ok.inj (target.symm.trans target')

theorem Leads.mem_tables (leads : schema.Leads table name foreign) : foreign ∈ schema.tables := by
  obtain ⟨relation, -, -, target⟩ := leads
  exact mem_tables_of_table target

/-- From each table of a valid schema, a name leads to one table or nowhere. -/
theorem closed_or_leads (valid : schema.validate = .ok ()) (known : table ∈ schema.tables)
    (name : String) : table.Closed name ∨ ∃ foreign, schema.Leads table name foreign := by
  cases search : table.relations.find? (·.name == name) with
  | none =>
    left
    intro relation found
    cases search.symm.trans found
  | some relation =>
    have member := List.mem_of_find?_eq_some search
    obtain ⟨foreign, target, -⟩ := validate_eq_ok_iff.1 valid table known relation member
    by_cases empty : relation.pairs = []
    · left
      intro other found
      cases search.symm.trans found
      exact empty
    · right
      exact ⟨foreign, relation, search, empty, target⟩

theorem not_stuck_nil : ¬ schema.Stuck table [] last hop := nofun

theorem stuck_cons_of_closed (closed : table.Closed name) :
    schema.Stuck table (name :: names) last hop ↔ last = table ∧ hop = name := by
  constructor
  · intro stuck
    cases stuck with
    | here => exact ⟨rfl, rfl⟩
    | further leads _ => exact absurd closed leads.not_closed
  · rintro ⟨rfl, rfl⟩
    exact .here closed

theorem stuck_cons_of_leads (leads : schema.Leads table name foreign) :
    schema.Stuck table (name :: names) last hop ↔ schema.Stuck foreign names last hop := by
  constructor
  · intro stuck
    cases stuck with
    | here closed => exact absurd closed leads.not_closed
    | further again later =>
      rw [leads.eq again]
      exact later
  · exact .further leads

end Schema

section Hops

variable {schema : Schema} {kind : JoinKind} {name : String} {names : List String}
  {previous : Option Nat} {left right primary : TableRef} {aliasName : Option String}
  {joins result : List JoinEntry} {foreign : Table}

theorem exists_column_of_knows (knows : left.table.Knows name) :
    ∃ column, left.column name = .ok column := by
  obtain ⟨column, found⟩ := Table.exists_column_iff.2 knows
  exact ⟨⟨left, column⟩, Attempt.map_eq_ok.2 ⟨column, found, rfl⟩⟩

theorem exists_resolvePair {pair : String × String}
    (knows : left.table.Knows pair.1 ∧ right.table.Knows pair.2) :
    ∃ columns, resolvePair left right pair = .ok columns := by
  obtain ⟨own, found⟩ := exists_column_of_knows knows.1
  obtain ⟨remote, found'⟩ := exists_column_of_knows knows.2
  exact ⟨⟨own, remote⟩,
    Attempt.bind_eq_ok.2 ⟨own, found, Attempt.bind_eq_ok.2 ⟨remote, found', rfl⟩⟩⟩

theorem exists_relationJoin {relation : Relation} (some : relation.pairs ≠ [])
    (knows : ∀ pair ∈ relation.pairs, left.table.Knows pair.1 ∧ right.table.Knows pair.2) :
    ∃ join, relationJoin relation kind name left right = .ok join := by
  unfold relationJoin
  cases pairs : relation.pairs with
  | nil => exact absurd pairs some
  | cons pair pairs' =>
    rw [pairs] at knows
    obtain ⟨here, later⟩ := List.forall_mem_cons.1 knows
    obtain ⟨first, found⟩ := exists_resolvePair here
    obtain ⟨more, ran⟩ := Attempt.exists_mapM_iff.2 fun pair member =>
      exists_resolvePair (later pair member)
    exact ⟨⟨kind, first, more⟩,
      Attempt.bind_eq_ok.2 ⟨first, found, Attempt.bind_eq_ok.2 ⟨more, ran, rfl⟩⟩⟩

theorem leads_of_hopEntry {entry : JoinEntry}
    (made : hopEntry schema kind name previous left aliasName = .ok entry) :
    schema.Leads left.table name entry.join.rightTable.table := by
  obtain ⟨relation, search, rest⟩ := Attempt.bind_eq_ok.1 made
  obtain ⟨foreign, target, rest⟩ := Attempt.bind_eq_ok.1 rest
  obtain ⟨join, joined, done⟩ := Attempt.bind_eq_ok.1 rest
  cases Attempt.pure_eq_ok.1 done
  have first := Table.relation_eq_ok_iff.1 search
  have pairs : relation.pairs ≠ [] := by
    intro empty
    unfold relationJoin at joined
    rw [empty] at joined
    cases joined
  have leadsTo : join.rightTable.table = foreign := by
    have tables := (relationJoin_tables joined _ List.mem_cons_self).2
    exact congrArg TableRef.table tables
  rw [leadsTo]
  exact ⟨relation, first, pairs, target⟩

variable (valid : schema.validate = .ok ()) (known : left.table ∈ schema.tables)

include valid known

/-- A hop that leads nowhere cannot be joined, and it is the relation that is said to be unknown. -/
theorem hopEntry_of_closed (closed : left.table.Closed name) :
    hopEntry schema kind name previous left aliasName =
      .error (.unknownRelation left.table.name name) := by
  unfold hopEntry Table.relation
  cases search : left.table.relations.find? (·.name == name) with
  | none => rfl
  | some relation =>
    have member := List.mem_of_find?_eq_some search
    obtain ⟨foreign, target, -⟩ := Schema.validate_eq_ok_iff.1 valid _ known relation member
    show (schema.table relation.foreignTable >>= _) = _
    rw [target]
    show (relationJoin relation kind name left _ >>= _) = _
    unfold relationJoin
    rw [closed relation search]
    rfl

/-- A hop that leads to a table can be joined: its pairs are known columns of both tables. -/
theorem exists_hopEntry_of_leads (leads : schema.Leads left.table name foreign) :
    ∃ entry, hopEntry schema kind name previous left aliasName = .ok entry := by
  obtain ⟨relation, search, some, target⟩ := leads
  have member := List.mem_of_find?_eq_some search
  obtain ⟨foreign', target', knows⟩ := Schema.validate_eq_ok_iff.1 valid _ known relation member
  cases target.symm.trans target'
  have pairs : ∃ join, relationJoin relation kind name left { table := foreign, aliasName } =
      .ok join := exists_relationJoin some knows
  obtain ⟨join, joined⟩ := pairs
  have found : left.table.relation name = .ok relation := Table.relation_eq_ok_iff.2 search
  exact ⟨_, Attempt.bind_eq_ok.2 ⟨relation, found,
    Attempt.bind_eq_ok.2 ⟨foreign, target, Attempt.bind_eq_ok.2 ⟨join, joined, rfl⟩⟩⟩⟩

end Hops

/-- Every relation join continues the table that its link leads to, and goes where the schema leads
from there by the name of its relation. -/
structure Followed (schema : Schema) (primary : TableRef) (joins : List JoinEntry) : Prop where
  linked : Linked primary joins
  leads : ∀ entry ∈ joins, ∀ hop, entry.hop = some hop →
    schema.Leads entry.join.leftTable.table hop.relation entry.join.rightTable.table

namespace Followed

variable {schema : Schema} {kind : JoinKind} {name : String} {names : List String}
  {previous : Option Nat} {left primary : TableRef} {aliasName : Option String}
  {joins result : List JoinEntry}

theorem nil (schema : Schema) (primary : TableRef) : Followed schema primary [] where
  linked := (PrefixTree.nil primary).linked
  leads := List.forall_mem_nil _

/-- A join that follows no relation is not asked where it leads. -/
theorem append_plain (followed : Followed schema primary joins) (join : Join) :
    Followed schema primary (joins ++ [⟨join, none⟩]) where
  linked := followed.linked.append nofun
  leads := by
    intro entry member hop own
    rcases List.mem_append.1 member with old | new
    · exact followed.leads entry old hop own
    · cases List.mem_singleton.1 new
      cases own

theorem append_hop (followed : Followed schema primary joins)
    (place : tableAt? primary joins previous = some left) {entry : JoinEntry}
    (made : hopEntry schema kind name previous left aliasName = .ok entry) :
    Followed schema primary (joins ++ [entry]) ∧
      tableAt? primary (joins ++ [entry]) (some joins.length) = some entry.join.rightTable := by
  obtain ⟨own, starts⟩ := hopEntry_eq_ok made
  have here : (joins ++ [entry])[joins.length]? = some entry :=
    getElem?_append_iff.2 (Or.inr ⟨rfl, rfl⟩)
  refine ⟨⟨followed.linked.append_hop own (starts ▸ place), ?_⟩,
    tableAt?_some.2 ⟨entry, _, here, own, rfl⟩⟩
  intro other member hop named
  rcases List.mem_append.1 member with old | new
  · exact followed.leads other old hop named
  · cases List.mem_singleton.1 new
    cases own.symm.trans named
    rw [starts]
    exact leads_of_hopEntry made

/-- A hop that is used again starts at the same table and leads where the schema does. -/
theorem leads_of_findHop? (followed : Followed schema primary joins)
    (place : tableAt? primary joins previous = some left) {index : Nat} {entry : JoinEntry}
    (found : findHop? joins name previous left = some (index, entry)) :
    schema.Leads left.table name entry.join.rightTable.table ∧
      tableAt? primary joins (some index) = some entry.join.rightTable := by
  obtain ⟨here, own⟩ := findHop?_eq_some found
  obtain ⟨-, table⟩ := followed.linked index entry _ here own
  have same : left = entry.join.leftTable := Option.some.inj (place.symm.trans table)
  rw [same]
  exact ⟨followed.leads entry (List.mem_of_getElem? here) _ own,
    tableAt?_some.2 ⟨entry, _, here, own, rfl⟩⟩

/-- Joining along a path fails just when the walk along it gets stuck, and says where. -/
theorem joinHops_eq_error_iff (valid : schema.validate = .ok ())
    (followed : Followed schema primary joins)
    (place : tableAt? primary joins previous = some left) (known : left.table ∈ schema.tables)
    {reason : CompileError} :
    joinHops schema kind aliasName names left previous joins = .error reason ↔
      ∃ table hop, schema.Stuck left.table names table hop ∧
        reason = .unknownRelation table.name hop := by
  induction names generalizing left previous joins with
  | nil =>
    constructor
    · intro failed
      cases failed
    · rintro ⟨table, hop, stuck, -⟩
      exact absurd stuck Schema.not_stuck_nil
  | cons name names ih =>
    unfold joinHops
    dsimp only
    split
    next index entry reused =>
      obtain ⟨-, found⟩ := Option.ite_none_left_eq_some.1 reused
      obtain ⟨leads, further⟩ := followed.leads_of_findHop? place found
      rw [ih followed further leads.mem_tables]
      simp only [Schema.stuck_cons_of_leads leads]
    next =>
      rcases Schema.closed_or_leads valid known name with closed | ⟨foreign, leads⟩
      · simp only [hopEntry_of_closed valid known closed, Schema.stuck_cons_of_closed closed]
        constructor
        · intro failed
          cases failed
          exact ⟨left.table, name, ⟨rfl, rfl⟩, rfl⟩
        · rintro ⟨table, hop, ⟨rfl, rfl⟩, rfl⟩
          rfl
      · have joined : ∃ entry, hopEntry schema kind name previous left
            (if names.isEmpty then aliasName else none) = .ok entry :=
          exists_hopEntry_of_leads valid known leads
        obtain ⟨entry, made⟩ := joined
        obtain ⟨grown, further⟩ := followed.append_hop place made
        have leads := leads_of_hopEntry made
        rw [made]
        simp only [Schema.stuck_cons_of_leads leads]
        exact ih grown further leads.mem_tables

/-- Joining along a path adds joins that go where the schema leads. -/
theorem joinHops (followed : Followed schema primary joins)
    (place : tableAt? primary joins previous = some left)
    (ran : joinHops schema kind aliasName names left previous joins = .ok result) :
    Followed schema primary result := by
  induction names generalizing left previous joins with
  | nil =>
    cases ran
    exact followed
  | cons name names ih =>
    obtain ⟨_, entry, _, rest, here, own, rfl | ⟨rfl, ⟨_, made⟩, -⟩⟩ := joinHops_cons ran
    · exact ih followed (tableAt?_some.2 ⟨entry, _, here, own, rfl⟩) rest
    · obtain ⟨grown, -⟩ := followed.append_hop place made
      exact ih grown (tableAt?_some.2 ⟨entry, _, here, own, rfl⟩) rest

end Followed

namespace BuildStep

/-- No relation join is added by hand. -/
def joinsBySchema : BuildStep → Bool
  | .joinHop _ _ => false
  | _ => true

theorem apply_followed {step : BuildStep} {query next : Query}
    (bySchema : step.joinsBySchema = true)
    (followed : Followed query.schema query.primary query.joins)
    (applied : step.apply query = .ok next) :
    next.schema = query.schema ∧ Followed next.schema next.primary next.joins := by
  cases step with
  | joinHop added hop => cases bySchema
  | joinRelation path kind aliasName =>
    obtain ⟨joins, ran, done⟩ := Attempt.bind_eq_ok.1 applied
    cases Attempt.pure_eq_ok.1 done
    exact ⟨rfl, followed.joinHops rfl ran⟩
  | join added =>
    cases applied
    exact ⟨rfl, followed.append_plain added⟩
  | _ =>
    cases applied
    exact ⟨rfl, followed⟩

theorem run_followed {steps : List BuildStep} {query final : Query}
    (bySchema : ∀ step ∈ steps, step.joinsBySchema = true)
    (followed : Followed query.schema query.primary query.joins)
    (ran : run steps query = .ok final) :
    final.schema = query.schema ∧ Followed final.schema final.primary final.joins := by
  induction steps generalizing query with
  | nil =>
    cases ran
    exact ⟨rfl, followed⟩
  | cons step steps ih =>
    obtain ⟨next, applied, rest⟩ := Attempt.bind_eq_ok.1 ran
    obtain ⟨here, later⟩ := List.forall_mem_cons.1 bySchema
    obtain ⟨same, grown⟩ := apply_followed here followed applied
    obtain ⟨schema, whole⟩ := ih later grown rest
    exact ⟨schema.trans same, whole⟩

end BuildStep

theorem Query.joinRelation_eq_error_iff {query : Query} {path : String} {kind : JoinKind}
    {aliasName : Option String} {reason : CompileError} :
    query.joinRelation path kind aliasName = .error reason ↔
      joinHops query.schema kind aliasName (Text.splitAll '.' path) query.primary none
        query.joins = .error reason := by
  unfold joinRelation
  rw [Attempt.bind_eq_error]
  constructor
  · rintro (failed | ⟨joins, -, failed⟩)
    · exact failed
    · cases failed
  · exact Or.inl

/-- Over a valid schema, and after any calls that leave relation joins to it, joining along a path
fails just when the walk along the path gets stuck. It then names the relation that is missing on
the table where the walk ends, whatever is joined already, of whatever kind and under any alias. -/
theorem joinRelation_fails_where_stuck {schema : Schema} {name : String}
    {aliasName : Option String} {start query : Query} {steps : List BuildStep}
    (valid : schema.validate = .ok ()) (began : Query.ofTable schema name aliasName = .ok start)
    (bySchema : ∀ step ∈ steps, step.joinsBySchema = true)
    (ran : BuildStep.run steps start = .ok query)
    (path : String) (kind : JoinKind) (joinedAs : Option String) :
    (∀ reason, query.joinRelation path kind joinedAs = .error reason ↔
      ∃ table hop, schema.Stuck start.primary.table (Text.splitAll '.' path) table hop ∧
        reason = .unknownRelation table.name hop) ∧
    ((∃ joined, query.joinRelation path kind joinedAs = .ok joined) ↔
      ∀ table hop, ¬ schema.Stuck start.primary.table (Text.splitAll '.' path) table hop) := by
  obtain ⟨ref, found, rfl⟩ := Attempt.map_eq_ok.1 began
  obtain ⟨table, looked, rfl⟩ := Attempt.map_eq_ok.1 found
  obtain ⟨same, followed⟩ := BuildStep.run_followed bySchema (.nil schema _) ran
  have primary : query.primary = { table, aliasName } :=
    congrArg Source.ref (BuildStep.run_keeps ran).1
  have known : table ∈ schema.tables := Schema.mem_tables_of_table looked
  rw [primary, same] at followed
  have fails (reason : CompileError) : query.joinRelation path kind joinedAs = .error reason ↔
      ∃ last hop, schema.Stuck table (Text.splitAll '.' path) last hop ∧
        reason = .unknownRelation last.name hop := by
    rw [Query.joinRelation_eq_error_iff, primary, same]
    exact followed.joinHops_eq_error_iff valid rfl known
  refine ⟨fails, ?_⟩
  constructor
  · rintro ⟨joined, done⟩ last hop stuck
    have failed := (fails _).2 ⟨last, hop, stuck, rfl⟩
    rw [done] at failed
    cases failed
  · intro free
    cases outcome : query.joinRelation path kind joinedAs with
    | ok joined => exact ⟨joined, rfl⟩
    | error reason =>
      obtain ⟨last, hop, stuck, -⟩ := (fails reason).1 outcome
      exact absurd stuck (free last hop)

/-- Names in different cases, a relation that another one of its name hides, one without pairs, and
a table that no name leads to. -/
def loanSchema : Schema :=
  let column (name : String) : Column := { name, type := .integer }
  { name := "lending"
    tables :=
      [{ name := "loan"
         columns := [column "id", column "book_id"]
         relations :=
           [{ name := "Book", foreignTable := "BOOK", pairs := [("Book_ID", "ID")] },
            { name := "Book", foreignTable := "person", pairs := [("id", "id")] },
            { name := "Shelf", foreignTable := "book" }] },
       { name := "book"
         columns := [column "id", column "author_id"]
         relations :=
           [{ name := "Author", foreignTable := "Person", pairs := [("author_id", "id")] }] },
       { name := "person", columns := [column "id"] },
       { name := "Person"
         columns := [column "number"]
         relations :=
           [{ name := "Mentor", foreignTable := "person", pairs := [("number", "id")] }] }] }

/-- A hop under an alias that the next path goes along as well, and a join of no relation. -/
def loanSteps : List BuildStep :=
  let person : TableRef := { table := { name := "person" } }
  let column : QualifiedColumn := ⟨person, { name := "id", type := .integer }⟩
  [.joinRelation "Book" .left (some "b"), .join { kind := .implicit, first := ⟨column, column⟩ },
    .joinRelation "Book.Author" .inner none]

theorem joinRelation_fails_where_stuck_loans :
    ∃ start query joined, loanSchema.validate = .ok () ∧
      Query.ofTable loanSchema "Loan" (some "l") = .ok start ∧
      (∀ step ∈ loanSteps, step.joinsBySchema = true) ∧
      BuildStep.run loanSteps start = .ok query ∧
      query.joinRelation "Book.Author.Mentor" .inner (some "m") =
        .error (.unknownRelation "person" "Mentor") ∧
      query.joinRelation "Shelf.Author" .left = .error (.unknownRelation "loan" "Shelf") ∧
      query.joinRelation "Book.Author" .right (some "a") = .ok joined := by
  have bySchema : ∀ step ∈ loanSteps, step.joinsBySchema = true := by decide
  have fails := @joinRelation_fails_where_stuck loanSchema "Loan" (some "l") _ _ loanSteps rfl rfl
    bySchema rfl
  have mentor := (fails "Book.Author.Mentor" .inner (some "m")).1
  have shelf := (fails "Shelf.Author" .left none).1
  refine ⟨_, _, _, rfl, rfl, bySchema, rfl, (mentor _).2 ?_, (shelf _).2 ?_, rfl⟩
  · refine ⟨_, "Mentor", .further ⟨_, rfl, List.cons_ne_nil _ _, rfl⟩
      (.further ⟨_, rfl, List.cons_ne_nil _ _, rfl⟩ (.here nofun)), rfl⟩
  · refine ⟨_, "Shelf", .here ?_, rfl⟩
    intro relation found
    cases found
    rfl

end PreparedSql
