import PreparedSql.Proofs.BuildSteps
import PreparedSql.Proofs.Chain.Path

/-! Joining along relation paths builds a tree: its joins are the first parts of the paths that
were asked for, each of them once, and every join stands behind the one it continues. -/

namespace PreparedSql

namespace Chain

variable {primary : TableRef} {joins : List JoinEntry}

/-- The table that a place of the list leads to: that of the relation join there, or, without a
place, the primary table. -/
def tableAt? (primary : TableRef) (joins : List JoinEntry) : Option Nat → Option TableRef
  | none => some primary
  | some index => do
      let entry ← joins[index]?
      let _ ← entry.hop
      return entry.join.rightTable

/-- Every relation join stands behind the relation join it continues, and its left table is the
one that join has led to. -/
def Linked (primary : TableRef) (joins : List JoinEntry) : Prop :=
  ∀ (index : Nat) (entry : JoinEntry) (hop : Hop), joins[index]? = some entry →
    entry.hop = some hop →
      (∀ previous, hop.previous = some previous → previous < index) ∧
        tableAt? primary joins hop.previous = some entry.join.leftTable

theorem tableAt?_some {index : Nat} {table : TableRef} :
    tableAt? primary joins (some index) = some table ↔
      ∃ entry hop, joins[index]? = some entry ∧ entry.hop = some hop ∧
        entry.join.rightTable = table := by
  simp only [tableAt?, Option.bind_eq_bind, Option.bind_eq_some_iff, Option.pure_def,
    Option.some.injEq]
  constructor
  · rintro ⟨entry, here, hop, own, same⟩
    exact ⟨entry, hop, here, own, same⟩
  · rintro ⟨entry, hop, here, own, same⟩
    exact ⟨entry, here, hop, own, same⟩

theorem tableAt?_append {entry : JoinEntry} {place : Option Nat} {table : TableRef}
    (found : tableAt? primary joins place = some table) :
    tableAt? primary (joins ++ [entry]) place = some table := by
  cases place with
  | none => exact found
  | some index =>
    obtain ⟨before, hop, here, own, same⟩ := tableAt?_some.1 found
    exact tableAt?_some.2 ⟨before, hop, getElem?_append_iff.2 (Or.inl here), own, same⟩

/-- Every path leads to a table. -/
theorem Path.exists_tableAt? {place : Option Nat} {names : List String}
    (path : Path joins place names) (primary : TableRef) :
    ∃ table, tableAt? primary joins place = some table := by
  cases path with
  | primary => exact ⟨primary, rfl⟩
  | hop here _ =>
    obtain ⟨entry, found, own⟩ := hopAt?_eq_some.1 here
    exact ⟨_, tableAt?_some.2 ⟨entry, _, found, own, rfl⟩⟩

namespace Linked

theorem ordered (linked : Linked primary joins) : Ordered joins := by
  intro index hop previous here continues
  obtain ⟨entry, found, own⟩ := hopAt?_eq_some.1 here
  obtain ⟨earlier, table⟩ := linked index entry hop found own
  rw [continues] at table
  obtain ⟨before, link, there, same, -⟩ := tableAt?_some.1 table
  exact ⟨earlier previous continues, link, hopAt?_eq_some.2 ⟨before, there, same⟩⟩

/-- A join may be added that starts where its hop says. -/
theorem append (linked : Linked primary joins) {entry : JoinEntry}
    (starts : ∀ hop, entry.hop = some hop →
      tableAt? primary joins hop.previous = some entry.join.leftTable) :
    Linked primary (joins ++ [entry]) := by
  intro index found hop here own
  rcases getElem?_append_iff.1 here with old | ⟨rfl, rfl⟩
  · obtain ⟨earlier, table⟩ := linked index found hop old own
    exact ⟨earlier, tableAt?_append table⟩
  · have table := starts hop own
    refine ⟨fun previous continues => ?_, tableAt?_append table⟩
    rw [continues] at table
    obtain ⟨before, -, there, -, -⟩ := tableAt?_some.1 table
    exact (List.getElem?_eq_some_iff.1 there).1

theorem append_hop (linked : Linked primary joins) {entry : JoinEntry} {hop : Hop}
    (own : entry.hop = some hop)
    (leads : tableAt? primary joins hop.previous = some entry.join.leftTable) :
    Linked primary (joins ++ [entry]) := by
  apply linked.append
  intro other same
  cases own.symm.trans same
  exact leads

end Linked

end Chain

open Chain

section Hops

variable {primary left : TableRef} {joins result : List JoinEntry} {name : String}
  {names front : List String} {previous : Option Nat} {schema : Schema} {kind : JoinKind}
  {aliasName : Option String}

theorem isHop_iff {entry : JoinEntry} :
    entry.isHop name previous left = true ↔
      entry.hop = some ⟨name, previous⟩ ∧ entry.join.leftTable.key = left.key := by
  simp [JoinEntry.isHop]

theorem findHop?_eq_some {index : Nat} {entry : JoinEntry}
    (found : findHop? joins name previous left = some (index, entry)) :
    joins[index]? = some entry ∧ entry.hop = some ⟨name, previous⟩ := by
  obtain ⟨place, first, rest⟩ := Option.bind_eq_some_iff.1 found
  obtain ⟨_, here, same⟩ := Option.bind_eq_some_iff.1 rest
  cases same
  obtain ⟨bound, makes, -⟩ := List.findIdx?_eq_some_iff_getElem.1 first
  have there : joins[index] = entry := (List.getElem?_eq_some_iff.1 here).2
  rw [there] at makes
  exact ⟨here, (isHop_iff.1 makes).1⟩

theorem exists_findHop? {index : Nat} {entry : JoinEntry} (here : joins[index]? = some entry)
    (makes : entry.isHop name previous left = true) :
    ∃ place first, findHop? joins name previous left = some (place, first) := by
  cases search : joins.findIdx? (JoinEntry.isHop name previous left) with
  | none =>
    have other := List.findIdx?_eq_none_iff.1 search entry (List.mem_of_getElem? here)
    rw [makes] at other
    cases other
  | some place =>
    obtain ⟨bound, -, -⟩ := List.findIdx?_eq_some_iff_getElem.1 search
    refine ⟨place, joins[place], ?_⟩
    simp [findHop?, search, List.getElem?_eq_getElem bound]

theorem resolvePair_tables {right : TableRef} {pair : String × String} {columns : ColumnPair}
    (resolved : resolvePair left right pair = .ok columns) :
    columns.left.table = left ∧ columns.right.table = right := by
  obtain ⟨own, found, rest⟩ := Attempt.bind_eq_ok.1 resolved
  obtain ⟨foreign, found', done⟩ := Attempt.bind_eq_ok.1 rest
  cases Attempt.pure_eq_ok.1 done
  obtain ⟨column, -, rfl⟩ := Attempt.map_eq_ok.1 found
  obtain ⟨column', -, rfl⟩ := Attempt.map_eq_ok.1 found'
  exact ⟨rfl, rfl⟩

/-- All pairs of a relation's join are between the two tables. -/
theorem relationJoin_tables {relation : Relation} {right : TableRef} {join : Join}
    (joined : relationJoin relation kind name left right = .ok join) :
    ∀ pair ∈ join.pairs, pair.left.table = left ∧ pair.right.table = right := by
  unfold relationJoin at joined
  split at joined
  next => cases joined
  next =>
    obtain ⟨first, resolved, rest⟩ := Attempt.bind_eq_ok.1 joined
    obtain ⟨more, ran, done⟩ := Attempt.bind_eq_ok.1 rest
    cases Attempt.pure_eq_ok.1 done
    intro pair member
    rcases List.mem_cons.1 member with rfl | later
    · exact resolvePair_tables resolved
    · obtain ⟨names, -, found⟩ := Attempt.exists_of_mem_mapM ran later
      exact resolvePair_tables found

/-- A new join follows the relation from the left table. -/
theorem hopEntry_eq_ok {entry : JoinEntry}
    (made : hopEntry schema kind name previous left aliasName = .ok entry) :
    entry.hop = some ⟨name, previous⟩ ∧ entry.join.leftTable = left := by
  obtain ⟨relation, -, rest⟩ := Attempt.bind_eq_ok.1 made
  obtain ⟨foreign, -, rest⟩ := Attempt.bind_eq_ok.1 rest
  obtain ⟨join, joined, done⟩ := Attempt.bind_eq_ok.1 rest
  cases Attempt.pure_eq_ok.1 done
  exact ⟨rfl, (relationJoin_tables joined _ List.mem_cons_self).1⟩

/-- A hop goes along a join of the list that makes it, or along a new one at the end. Only the
last hop of an aliased path is made anew although it has been made before. -/
theorem joinHops_cons
    (ran : joinHops schema kind aliasName (name :: names) left previous joins = .ok result) :
    ∃ index entry grown,
      joinHops schema kind aliasName names entry.join.rightTable (some index) grown =
        .ok result ∧
      grown[index]? = some entry ∧ entry.hop = some ⟨name, previous⟩ ∧
      (grown = joins ∨ grown = joins ++ [entry] ∧
        (∃ renamed, hopEntry schema kind name previous left renamed = .ok entry) ∧
        (aliasName = none → findHop? joins name previous left = none)) := by
  unfold joinHops at ran
  dsimp only at ran
  split at ran
  next index entry found =>
    obtain ⟨-, search⟩ := Option.ite_none_left_eq_some.1 found
    obtain ⟨here, own⟩ := findHop?_eq_some search
    exact ⟨index, entry, joins, ran, here, own, Or.inl rfl⟩
  next missing =>
    obtain ⟨entry, made, rest⟩ := Attempt.bind_eq_ok.1 ran
    refine ⟨joins.length, entry, joins ++ [entry], rest, ?_, (hopEntry_eq_ok made).1,
      Or.inr ⟨rfl, ⟨_, made⟩, ?_⟩⟩
    · exact getElem?_append_iff.2 (Or.inr ⟨rfl, rfl⟩)
    · rintro rfl
      simpa using missing

/-- A join that is new after joining along a path was made for one of its hops. -/
theorem mem_joinHops
    (ran : joinHops schema kind aliasName names left previous joins = .ok result) :
    ∀ entry ∈ result, entry ∈ joins ∨ ∃ name previous left renamed,
      hopEntry schema kind name previous left renamed = .ok entry := by
  induction names generalizing left previous joins with
  | nil =>
    cases ran
    exact fun _ => Or.inl
  | cons name names ih =>
    obtain ⟨_, own, _, rest, _, _, rfl | ⟨rfl, ⟨renamed, made⟩, -⟩⟩ := joinHops_cons ran
    · exact ih rest
    · intro entry member
      rcases ih rest entry member with grown | new
      · rcases List.mem_append.1 grown with old | last
        · exact Or.inl old
        · cases List.mem_singleton.1 last
          exact Or.inr ⟨name, previous, left, renamed, made⟩
      · exact Or.inr new

/-- Joining along a path keeps the list linked, also when the last hop is made anew. -/
theorem Chain.Linked.joinHops (linked : Linked primary joins)
    (leads : tableAt? primary joins previous = some left)
    (ran : joinHops schema kind aliasName names left previous joins = .ok result) :
    Linked primary result ∧ joins <+: result := by
  induction names generalizing left previous joins with
  | nil =>
    cases ran
    exact ⟨linked, List.prefix_refl _⟩
  | cons name names ih =>
    obtain ⟨index, entry, grown, rest, here, own, old | ⟨new, ⟨_, made⟩, -⟩⟩ := joinHops_cons ran
    · subst old
      exact ih linked (tableAt?_some.2 ⟨entry, _, here, own, rfl⟩) rest
    · subst new
      have further : Linked primary (joins ++ [entry]) :=
        linked.append_hop own ((hopEntry_eq_ok made).2 ▸ leads)
      obtain ⟨whole, later⟩ := ih further (tableAt?_some.2 ⟨entry, _, here, own, rfl⟩) rest
      exact ⟨whole, (List.prefix_append joins [entry]).trans later⟩

/-- A hop that stands in the list is found: its left table is the one that the place before it
leads to. -/
theorem exists_findHop?_of_hopAt? (linked : Linked primary joins)
    (leads : tableAt? primary joins previous = some left) {index : Nat}
    (there : hopAt? joins index = some ⟨name, previous⟩) :
    ∃ place entry, findHop? joins name previous left = some (place, entry) := by
  obtain ⟨entry, here, own⟩ := hopAt?_eq_some.1 there
  have table : tableAt? primary joins previous = some entry.join.leftTable :=
    (linked index entry _ here own).2
  have same : left = entry.join.leftTable := Option.some.inj (leads.symm.trans table)
  exact exists_findHop? here (isHop_iff.2 ⟨own, congrArg TableRef.key same.symm⟩)

/-- A path of hops without an alias adds its first parts to those that are there. -/
theorem joinHops_paths (linked : Linked primary joins) (distinct : Distinct joins)
    (leads : tableAt? primary joins previous = some left) (path : Path joins previous front)
    (ran : joinHops schema kind none names left previous joins = .ok result) :
    Distinct result ∧ ∀ whole, (∃ index, Path result (some index) whole) ↔
      (∃ index, Path joins (some index) whole) ∨
        ∃ part, part ≠ [] ∧ part <+: names ∧ whole = front ++ part := by
  induction names generalizing left previous joins front with
  | nil =>
    cases ran
    refine ⟨distinct, fun whole => ⟨Or.inl, ?_⟩⟩
    rintro (old | ⟨part, some, empty, -⟩)
    · exact old
    · exact absurd (List.prefix_nil.1 empty) some
  | cons name names ih =>
    obtain ⟨index, entry, grown, rest, here, own, step⟩ := joinHops_cons ran
    have parts (whole : List String) :
        (∃ part, part ≠ [] ∧ part <+: name :: names ∧ whole = front ++ part) ↔
          whole = front ++ [name] ∨
            ∃ part, part ≠ [] ∧ part <+: names ∧ whole = front ++ [name] ++ part := by
      constructor
      · rintro ⟨part, some, first, rfl⟩
        rcases List.prefix_cons_iff.1 first with rfl | ⟨more, rfl, later⟩
        · exact absurd rfl some
        · cases more with
          | nil => exact Or.inl rfl
          | cons second others =>
            exact Or.inr ⟨_, List.cons_ne_nil second others, later, by simp⟩
      · rintro (rfl | ⟨part, some, later, rfl⟩)
        · exact ⟨[name], List.cons_ne_nil name [], by simp, rfl⟩
        · exact ⟨name :: part, List.cons_ne_nil name part, by simpa using later, by simp⟩
    have grew : Linked primary grown ∧ Distinct grown ∧ Path grown previous front ∧
        ∀ whole, (∃ place, Path grown (some place) whole) ↔
          (∃ place, Path joins (some place) whole) ∨ whole = front ++ [name] := by
      rcases step with rfl | ⟨rfl, ⟨_, made⟩, fresh⟩
      · refine ⟨linked, distinct, path, fun whole => ⟨Or.inl, ?_⟩⟩
        rintro (old | rfl)
        · exact old
        · exact ⟨index, .hop (hopAt?_eq_some.2 ⟨entry, here, own⟩) path⟩
      · have further : Linked primary (joins ++ [entry]) :=
          linked.append_hop own ((hopEntry_eq_ok made).2 ▸ leads)
        refine ⟨further, distinct.append ?_, path.append, fun whole => ?_⟩
        · intro place hop same there
          cases own.symm.trans same
          obtain ⟨place', first, found⟩ := exists_findHop?_of_hopAt? linked leads there
          rw [fresh rfl] at found
          cases found
        · rw [exists_path_append_iff further.ordered]
          refine or_congr_right ⟨?_, ?_⟩
          · rintro ⟨hop, before, same, other, rfl⟩
            cases own.symm.trans same
            rw [path.eq_of_place other]
          · rintro rfl
            exact ⟨_, front, own, path, rfl⟩
    obtain ⟨linked', distinct', path', added⟩ := grew
    have there : hopAt? grown index = some ⟨name, previous⟩ :=
      hopAt?_eq_some.2 ⟨entry, here, own⟩
    obtain ⟨apart, all⟩ := ih linked' distinct'
      (tableAt?_some.2 ⟨entry, _, here, own, rfl⟩) (.hop there path') rest
    refine ⟨apart, fun whole => ?_⟩
    rw [all, added, parts, or_assoc]

/-- Along a path that has been joined already, nothing is added, whatever kind of join is asked
for. -/
theorem joinHops_of_path (linked : Linked primary joins) (distinct : Distinct joins)
    (leads : tableAt? primary joins previous = some left) (path : Path joins previous front)
    {place : Option Nat} (joined : Path joins place (front ++ names)) :
    joinHops schema kind none names left previous joins = .ok joins := by
  induction names generalizing left previous front with
  | nil => rfl
  | cons name names ih =>
    have further : front ++ name :: names = front ++ [name] ++ names := by simp
    rw [further] at joined
    have above : ∃ place, Path joins place (front ++ [name]) := by
      cases names with
      | nil => exact ⟨place, by simpa using joined⟩
      | cons second others =>
        cases place with
        | none => simpa using Path.eq_of_place joined .primary
        | some index =>
          obtain ⟨before, first, -⟩ :=
            joined.exists_of_append linked.ordered (List.cons_ne_nil second others)
          exact ⟨before, first⟩
    obtain ⟨_, first⟩ := above
    obtain ⟨index, ⟨relation, before⟩, rfl, there, named, rest⟩ :=
      Path.append_singleton_iff.1 first
    obtain rfl : relation = name := named
    obtain rfl : before = previous := rest.eq_of_names distinct path
    obtain ⟨again, entry, found⟩ := exists_findHop?_of_hopAt? linked leads there
    obtain ⟨here, own⟩ := findHop?_eq_some found
    have reused : joinHops schema kind none (relation :: names) left before joins =
        joinHops schema kind none names entry.join.rightTable (some again) joins := by
      simp [joinHops, found]
    rw [reused]
    exact ih (tableAt?_some.2 ⟨entry, _, here, own, rfl⟩)
      (.hop (hopAt?_eq_some.2 ⟨entry, here, own⟩) path) joined

end Hops

/-- The relation joins of a query are the first parts of the paths that were asked for. -/
structure PrefixTree (primary : TableRef) (joins : List JoinEntry) (paths : List (List String)) :
    Prop where
  /-- Each continues an earlier relation join, or none, on the table that this has led to. -/
  linked : Linked primary joins
  /-- The path of each is found along its links, -/
  exists_path : ∀ index hop, hopAt? joins index = some hop → ∃ names,
    parentPath joins hop = .ok names ∧ Path joins (some index) (names ++ [hop.relation])
  /-- and is that of no other one. -/
  place_eq : ∀ first second names, Path joins (some first) names →
    Path joins (some second) names → first = second
  path_iff : ∀ names, (∃ index, Path joins (some index) names) ↔
    names ≠ [] ∧ ∃ path ∈ paths, names <+: path

namespace PrefixTree

variable {primary : TableRef} {joins : List JoinEntry} {paths : List (List String)}

theorem of_distinct (linked : Linked primary joins) (distinct : Distinct joins)
    (path_iff : ∀ names, (∃ index, Path joins (some index) names) ↔
      names ≠ [] ∧ ∃ path ∈ paths, names <+: path) : PrefixTree primary joins paths where
  linked := linked
  exists_path := by
    intro index hop here
    obtain ⟨names, path⟩ := Chain.exists_path linked.ordered here
    exact ⟨names, parentPath_eq_ok_iff.2 path, .hop here path⟩
  place_eq := by
    intro first second names path other
    exact Option.some.inj (path.eq_of_names distinct other)
  path_iff := path_iff

theorem distinct (tree : PrefixTree primary joins paths) : Distinct joins := by
  intro first second hop here again
  obtain ⟨names, -, path⟩ := tree.exists_path first hop here
  obtain ⟨index, hop', same, found, -, rest⟩ := Path.append_singleton_iff.1 path
  cases same
  cases here.symm.trans found
  exact tree.place_eq first second _ path (.hop again rest)

/-- Without joins there is nothing but the primary table. -/
theorem nil (primary : TableRef) : PrefixTree primary [] [] := by
  have none_at (index : Nat) (entry : JoinEntry) : ([] : List JoinEntry)[index]? ≠ some entry := by
    simp
  have none_hops (index : Nat) (hop : Hop) : hopAt? [] index ≠ some hop := by
    simp [hopAt?]
  refine of_distinct (fun index entry _ here => absurd here (none_at index entry))
    (fun first _ hop here => absurd here (none_hops first hop)) fun names => ?_
  constructor
  · rintro ⟨index, path⟩
    cases path with
    | hop here rest => exact absurd here (none_hops index _)
  · rintro ⟨-, path, member, -⟩
    cases member

/-- A join that follows no relation belongs to no path. -/
theorem append_plain (tree : PrefixTree primary joins paths) (join : Join) :
    PrefixTree primary (joins ++ [⟨join, none⟩]) paths := by
  have plain (hop : Hop) : (none : Option Hop) ≠ some hop := Option.some_ne_none hop |>.symm
  have linked : Linked primary (joins ++ [⟨join, none⟩]) :=
    tree.linked.append fun hop own => absurd own (plain hop)
  have distinct : Distinct (joins ++ [⟨join, none⟩]) :=
    tree.distinct.append fun _ hop own => absurd own (plain hop)
  refine of_distinct linked distinct fun names => ?_
  rw [exists_path_append_iff linked.ordered, ← tree.path_iff]
  constructor
  · rintro (old | ⟨hop, front, new, -⟩)
    · exact old
    · exact absurd new (plain hop)
  · exact Or.inl

/-- Joining along one more path. -/
theorem joinHops (tree : PrefixTree primary joins paths) {schema : Schema} {kind : JoinKind}
    {names : List String} {result : List JoinEntry}
    (ran : joinHops schema kind none names primary none joins = .ok result) :
    PrefixTree primary result (paths ++ [names]) := by
  obtain ⟨linked, -⟩ := tree.linked.joinHops rfl ran
  obtain ⟨distinct, all⟩ := joinHops_paths tree.linked tree.distinct rfl .primary ran
  refine of_distinct linked distinct fun whole => ?_
  rw [all, tree.path_iff]
  simp only [List.nil_append, List.mem_append, List.mem_singleton]
  constructor
  · rintro (⟨some, path, member, first⟩ | ⟨part, some, first, rfl⟩)
    · exact ⟨some, path, Or.inl member, first⟩
    · exact ⟨some, names, Or.inr rfl, first⟩
  · rintro ⟨some, path, member | rfl, first⟩
    · exact Or.inl ⟨some, path, member, first⟩
    · exact Or.inr ⟨whole, some, first, rfl⟩

end PrefixTree

namespace BuildStep

/-- The path that a call without an alias joins along. -/
def requested? : BuildStep → Option (List String)
  | .joinRelation path _ none => some (Text.splitAll '.' path)
  | _ => none

/-- Relation joins come from paths only: none is made by hand, and none under an alias. -/
def joinsByPath : BuildStep → Bool
  | .joinHop _ _ => false
  | .joinRelation _ _ aliasName => aliasName.isNone
  | _ => true

variable {paths : List (List String)}

/-- A call leaves the joins as they are, and adds what its path needs behind them. -/
theorem apply_tree {step : BuildStep} {query next : Query} (byPath : step.joinsByPath = true)
    (tree : PrefixTree query.primary query.joins paths) (applied : step.apply query = .ok next) :
    PrefixTree query.primary next.joins (paths ++ step.requested?.toList) ∧
      query.joins <+: next.joins := by
  have same : paths ++ [] = paths := List.append_nil paths
  cases step with
  | joinHop join hop => cases byPath
  | joinRelation path kind aliasName =>
    cases aliasName with
    | some label => cases byPath
    | none =>
      obtain ⟨joins, ran, done⟩ := Attempt.bind_eq_ok.1 applied
      cases Attempt.pure_eq_ok.1 done
      exact ⟨tree.joinHops ran, (tree.linked.joinHops rfl ran).2⟩
  | join added =>
    cases applied
    exact ⟨same.symm ▸ tree.append_plain added, List.prefix_append _ _⟩
  | _ =>
    cases applied
    exact ⟨same.symm ▸ tree, List.prefix_refl _⟩

theorem run_tree {steps : List BuildStep} {query final : Query}
    (byPath : ∀ step ∈ steps, step.joinsByPath = true)
    (tree : PrefixTree query.primary query.joins paths) (ran : run steps query = .ok final) :
    PrefixTree query.primary final.joins (paths ++ steps.filterMap requested?) ∧
      query.joins <+: final.joins := by
  induction steps generalizing query paths with
  | nil =>
    cases ran
    exact ⟨(List.append_nil paths).symm ▸ tree, List.prefix_refl _⟩
  | cons step steps ih =>
    obtain ⟨next, applied, rest⟩ := Attempt.bind_eq_ok.1 ran
    obtain ⟨here, later⟩ := List.forall_mem_cons.1 byPath
    obtain ⟨grown, first⟩ := apply_tree here tree applied
    have primary : next.primary = query.primary :=
      congrArg Source.ref (apply_keeps applied).1
    rw [← primary] at grown
    obtain ⟨whole, second⟩ := ih later grown rest
    have asked : paths ++ (step :: steps).filterMap requested? =
        paths ++ step.requested?.toList ++ steps.filterMap requested? := by
      rw [List.filterMap_cons, List.append_assoc]
      cases step.requested? <;> rfl
    rw [asked, ← primary]
    exact ⟨whole, first.trans second⟩

theorem run_append {front back : List BuildStep} {query final : Query}
    (ran : run (front ++ back) query = .ok final) :
    ∃ middle, run front query = .ok middle ∧ run back middle = .ok final := by
  induction front generalizing query with
  | nil => exact ⟨query, rfl, ran⟩
  | cons step front ih =>
    obtain ⟨next, applied, rest⟩ := Attempt.bind_eq_ok.1 ran
    obtain ⟨middle, before, after⟩ := ih rest
    exact ⟨middle, Attempt.bind_eq_ok.2 ⟨next, applied, before⟩, after⟩

end BuildStep

theorem Query.joinRelation_of_joinHops {query : Query} {path : String} {kind : JoinKind}
    (ran : joinHops query.schema kind none (Text.splitAll '.' path) query.primary none
      query.joins = .ok query.joins) : query.joinRelation path kind = .ok query := by
  unfold joinRelation
  rw [ran]
  cases query
  rfl

/-- After any calls on a table that join relations by their paths, the relation joins are the
first parts of these paths, each once. A path that is joined already adds nothing, and what has
been joined stays in its place, with links that pass the check at every point. -/
theorem relations_form_prefix_tree {schema : Schema} {name : String} {aliasName : Option String}
    {start final : Query} {steps : List BuildStep}
    (began : Query.ofTable schema name aliasName = .ok start)
    (byPath : ∀ step ∈ steps, step.joinsByPath = true)
    (ran : BuildStep.run steps start = .ok final) :
    PrefixTree start.primary final.joins (steps.filterMap BuildStep.requested?) ∧
      (∀ path kind, (∃ asked ∈ steps.filterMap BuildStep.requested?,
          Text.splitAll '.' path <+: asked) →
        final.joinRelation path kind = .ok final) ∧
      ∀ front back, steps = front ++ back → ∃ middle, BuildStep.run front start = .ok middle ∧
        middle.joins <+: final.joins ∧ Chain.check middle.joins = .ok () := by
  have empty : start.joins = [] := by
    obtain ⟨ref, -, rfl⟩ := Attempt.map_eq_ok.1 began
    rfl
  have fresh : PrefixTree start.primary start.joins [] := empty ▸ .nil start.primary
  have whole := BuildStep.run_tree byPath fresh ran
  have primary : final.primary = start.primary := congrArg Source.ref (BuildStep.run_keeps ran).1
  rw [List.nil_append] at whole
  obtain ⟨tree, -⟩ := whole
  refine ⟨tree, ?_, ?_⟩
  · rintro path kind ⟨asked, member, first⟩
    have some : Text.splitAll '.' path ≠ [] := by
      simpa [Text.splitAll] using Text.splitChars_ne_nil '.' path.toList
    obtain ⟨index, joined⟩ := (tree.path_iff _).2 ⟨some, asked, member, first⟩
    apply Query.joinRelation_of_joinHops
    rw [primary]
    exact joinHops_of_path tree.linked tree.distinct rfl .primary joined
  · rintro front back rfl
    obtain ⟨middle, before, after⟩ := BuildStep.run_append ran
    obtain ⟨part, -⟩ := BuildStep.run_tree
      (fun step member => byPath step (List.mem_append_left back member)) fresh before
    have primary' : middle.primary = start.primary :=
      congrArg Source.ref (BuildStep.run_keeps before).1
    obtain ⟨-, later⟩ := BuildStep.run_tree
      (fun step member => byPath step (List.mem_append_right front member))
      (primary' ▸ part) after
    exact ⟨middle, before, later, Chain.check_eq_ok_iff.2 part.linked.ordered⟩

/-- Books that two people work on, each of whom may have a mentor. -/
def readingSchema : Schema :=
  let id : Column := { name := "id", type := .integer, primaryKey := true }
  let column (name : String) : Column := { name, type := .integer }
  { name := "reading"
    tables :=
      [{ name := "review"
         columns := [id, column "book_id"]
         relations := [{ name := "Book", foreignTable := "book", pairs := [("book_id", "id")] }] },
       { name := "book"
         columns := [id, column "author_id", column "editor_id"]
         relations :=
           [{ name := "Author", foreignTable := "person", pairs := [("author_id", "id")] },
            { name := "Editor", foreignTable := "person", pairs := [("editor_id", "id")] }] },
       { name := "person"
         columns := [id, column "mentor_id"]
         relations :=
           [{ name := "Mentor", foreignTable := "person", pairs := [("mentor_id", "id")] }] }] }

/-- The same relation occurs twice in a row, a path begins like another one, and there is a plain
join between the paths. -/
def readingSteps : List BuildStep :=
  let person : TableRef := { table := { name := "person" } }
  let column : QualifiedColumn := ⟨person, { name := "id", type := .integer }⟩
  [.joinRelation "Book.Author.Mentor.Mentor" .left none,
   .join { kind := .implicit, first := ⟨column, column⟩ },
   .filter (.raw "person.id > 7"),
   .joinRelation "Book.Editor.Mentor" .inner none,
   .joinRelation "Book.Author" .right none]

theorem relations_form_prefix_tree_reading :
    ∃ start final, Query.ofTable readingSchema "Review" (some "r") = .ok start ∧
      (∀ step ∈ readingSteps, step.joinsByPath = true) ∧
      BuildStep.run readingSteps start = .ok final ∧ final.joins.length = 7 ∧
      PrefixTree start.primary final.joins
        [["Book", "Author", "Mentor", "Mentor"], ["Book", "Editor", "Mentor"],
          ["Book", "Author"]] ∧
      final.joinRelation "Book.Editor" .left = .ok final := by
  have byPath : ∀ step ∈ readingSteps, step.joinsByPath = true := by decide
  have whole := @relations_form_prefix_tree readingSchema "Review" (some "r") _ _ readingSteps
    rfl byPath rfl
  exact ⟨_, _, rfl, byPath, rfl, rfl, whole.1, whole.2.1 "Book.Editor" .left
    ⟨["Book", "Editor", "Mentor"], by decide, by decide⟩⟩

end PreparedSql
