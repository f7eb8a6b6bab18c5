import PreparedSql.Proofs.Condition.Meaning
import PreparedSql.Proofs.SelectClauses

/-! The WHERE condition of a SELECT means what the query asks for: read back with the precedence
of SQL, it has the truth of all implicit joins and all filters together. -/

namespace PreparedSql

open Condition

variable {dialect : Dialect} {query : Query}

/-- Lists of texts with the separator between them, all of them behind one another. -/
theorem intercalate_flatten (separator : String) {lists : List (List String)}
    (some : ∀ texts ∈ lists, texts ≠ []) :
    separator.intercalate (lists.map separator.intercalate) =
      separator.intercalate lists.flatten := by
  induction lists with
  | nil => rfl
  | cons first rest ih =>
    obtain ⟨here, later⟩ := List.forall_mem_cons.1 some
    cases rest with
    | nil => simp
    | cons second others =>
      have more : (second :: others).flatten ≠ [] := by
        intro empty
        exact later second List.mem_cons_self
          (List.flatten_eq_nil_iff.1 empty second List.mem_cons_self)
      rw [List.map_cons, String.intercalate_cons_of_ne_nil (by simp), ih later]
      exact (String.intercalate_append_of_ne_nil here more).symm

theorem joinedCondition_of_ne_nil {conditions : List String} (some : conditions ≠ []) :
    joinedCondition conditions = Option.some (" AND ".intercalate conditions) := by
  cases conditions with
  | nil => exact absurd rfl some
  | cons first rest => rfl

theorem joinedCondition_eq_none_iff {conditions : List String} :
    joinedCondition conditions = none ↔ conditions = [] := by
  cases conditions <;> simp [joinedCondition]

/-- Conditions that are themselves joined by AND need no parentheses to be joined further. -/
theorem joinedCondition_flatten {lists : List (List String)} (some : ∀ texts ∈ lists, texts ≠ []) :
    joinedCondition (lists.map " AND ".intercalate) = joinedCondition lists.flatten := by
  cases lists with
  | nil => rfl
  | cons first rest =>
    have here : first ≠ [] := some first List.mem_cons_self
    have more : (first :: rest).flatten ≠ [] := by
      intro empty
      exact here (List.flatten_eq_nil_iff.1 empty first List.mem_cons_self)
    rw [joinedCondition_of_ne_nil more, ← intercalate_flatten " AND " some]
    rfl

/-- The equalities of a join, as they are written. -/
def JoinEntry.pairTexts (dialect : Dialect) (ignoreCase : Bool) (entry : JoinEntry) :
    List String :=
  entry.join.pairs.map fun pair => if ignoreCase then pair.foldedSql dialect else pair.sql

theorem lead_pair {valuation : Valuation} (known : dialect ∈ Dialect.standard) {pair : ColumnPair}
    (plain : ∀ text ∈ pair.left.givenTexts ++ pair.right.givenTexts, text.Plain)
    (ignoreCase : Bool) :
    Lead valuation (if ignoreCase then pair.foldedSql dialect else pair.sql) := by
  rw [List.forall_mem_append] at plain
  have folded {column : QualifiedColumn} (own : ∀ text ∈ column.givenTexts, text.Plain) :
      Lead valuation (column.foldedSql dialect) := by
    unfold QualifiedColumn.foldedSql
    split
    next => exact column.lead_folded known own
    next => exact column.lead own
  split
  next => exact (folded plain.1).equals (folded plain.2).tail
  next => exact (pair.left.lead plain.1).equals (pair.right.lead plain.2).tail

namespace Query

/-- The equalities of all implicit joins. -/
def joinTexts (query : Query) (dialect : Dialect) : List String :=
  (query.joins.filter (·.join.isImplicit)).flatMap (·.pairTexts dialect query.foldsCase)

theorem operands_joinTexts (valuation : Valuation) (known : dialect ∈ Dialect.standard)
    (plain : query.Given GivenText.Plain) :
    List.Forall₂ (Operand valuation) (query.joinTexts dialect)
      (query.joinTruths valuation dialect) := by
  have each : ∀ sql ∈ query.joinTexts dialect, Operand valuation sql (leaf valuation sql) := by
    intro sql member
    obtain ⟨entry, inside, here⟩ := List.mem_flatMap.1 member
    obtain ⟨pair, joined, rfl⟩ := List.mem_map.1 here
    refine (lead_pair known ?_ query.foldsCase).operand
    intro text own
    exact plain.joins entry (List.mem_of_mem_filter inside) text
      (List.mem_flatMap.2 ⟨pair, joined, own⟩)
  have truths : query.joinTruths valuation dialect =
      (query.joinTexts dialect).map (leaf valuation) := by
    simp only [joinTruths, joinTexts, JoinEntry.pairTexts, List.map_flatMap, List.map_map,
      Function.comp_def]
  rw [truths, List.forall₂_map_right_iff, List.forall₂_same]
  exact each

/-- The conditions of the joins stand beside the filters without parentheses around them, so
that all equalities count as operands of one AND. -/
theorem joinedCondition_eq (query : Query) (dialect : Dialect) (filters : List String) :
    joinedCondition (query.implicitConditions dialect ++ filters) =
      joinedCondition (query.joinTexts dialect ++ filters) := by
  have conditions : query.implicitConditions dialect ++ filters =
      ((query.joins.filter (·.join.isImplicit)).map (·.pairTexts dialect query.foldsCase) ++
        filters.map ([·])).map " AND ".intercalate := by
    rw [List.map_append, List.map_map, List.map_map]
    refine congrArg₂ _ rfl (Eq.symm ?_)
    simp [Function.comp_def]
  have texts : query.joinTexts dialect ++ filters =
      ((query.joins.filter (·.join.isImplicit)).map (·.pairTexts dialect query.foldsCase) ++
        filters.map ([·])).flatten := by
    rw [List.flatten_append, ← List.flatMap_def, ← List.flatMap_def, List.flatMap_singleton']
    rfl
  rw [conditions, texts]
  apply joinedCondition_flatten
  intro texts member
  rcases List.mem_append.1 member with joined | own
  · obtain ⟨entry, -, rfl⟩ := List.mem_map.1 joined
    exact List.cons_ne_nil _ _
  · obtain ⟨condition, -, rfl⟩ := List.mem_map.1 own
    exact List.cons_ne_nil _ _

/-- What a SELECT asks for is the truth of the operands that its WHERE text is joined from. -/
theorem operands_where (valuation : Valuation) (known : dialect ∈ Dialect.standard)
    (plain : query.Given GivenText.Plain) {filter : Option Fragment}
    (filtered : conjunction query.filters
      (Predicate.compileAll dialect query.scope query.filters) = .ok filter) :
    ∃ truths, query.meaning valuation dialect = .ok (Truth.all truths) ∧
      List.Forall₂ (Operand valuation)
        (query.joinTexts dialect ++ filter.toList.map Fragment.sql) truths := by
  have joins := query.operands_joinTexts valuation known plain
  unfold conjunction at filtered
  unfold meaning
  by_cases hollow : Predicate.allEmpty query.filters = true
  · rw [if_pos hollow] at filtered
    cases filtered
    have none := (Predicate.allEmpty_iff query.filters).1 hollow
    refine ⟨query.joinTruths valuation dialect, ?_, ?_⟩
    · rw [none]
      rfl
    · simpa using joins
  · rw [if_neg hollow] at filtered
    obtain ⟨pieces, compiled, rfl⟩ := Attempt.map_eq_ok.1 filtered
    obtain ⟨truths, meant, operands⟩ :=
      Predicate.operands known plain.scope query.filters plain.filters compiled
    have some : (Predicate.testsOfAll query.filters).isEmpty = false := by
      rw [Bool.eq_false_iff]
      intro empty
      exact hollow ((Predicate.allEmpty_iff query.filters).2 (List.isEmpty_iff.1 empty))
    refine ⟨query.joinTruths valuation dialect ++ [Truth.all truths], ?_, ?_⟩
    · have same : Truth.all (query.joinTruths valuation dialect ++ truths) =
          Truth.all (query.joinTruths valuation dialect ++ [Truth.all truths]) := by
        rw [Truth.all_append, Truth.all_append, Truth.all_singleton]
      rw [some, meant]
      exact congrArg Except.ok same
    · exact List.rel_append joins (.cons (operand_combine .and operands) .nil)

end Query

/-- A SELECT has a WHERE condition just when the query joins implicitly or filters by a test, and
reading the condition back gives what the query asks for. -/
theorem where_reads_back (known : dialect ∈ Dialect.standard)
    (plain : ∀ text ∈ query.givenTexts, text.Plain) {plan : SelectPlan}
    (planned : query.selectPlan dialect = .ok plan) :
    ∃ clauses, query.HasClauses dialect clauses ∧ plan.statement.sql = clauses.sql ∧
      plan.statement.hasWhere = clauses.condition.isSome ∧
      (clauses.condition = none ↔ (∀ entry ∈ query.joins, entry.join.isImplicit = false) ∧
        Predicate.testsOfAll query.filters = []) ∧
      ∀ condition, clauses.condition = some condition → ∀ valuation, ∃ truth,
        query.meaning valuation dialect = .ok truth ∧ read valuation condition = some truth := by
  obtain ⟨clauses, filter, has, sql, present, filtered, whole⟩ := Query.selectPlan_clauses planned
  refine ⟨clauses, has, sql, present, ?_, ?_⟩
  · rw [whole, joinedCondition_eq_none_iff, List.append_eq_nil_iff]
    have joins : query.implicitConditions dialect = [] ↔
        ∀ entry ∈ query.joins, entry.join.isImplicit = false := by
      unfold Query.implicitConditions
      rw [List.map_eq_nil_iff, List.filter_eq_nil_iff]
      simp only [Bool.not_eq_true]
    have filters : filter.toList.map Fragment.sql = [] ↔
        Predicate.testsOfAll query.filters = [] := by
      rw [← Predicate.allEmpty_iff, ← conjunction_isNone filtered, List.map_eq_nil_iff]
      cases filter <;> simp
    rw [joins, filters]
  · intro condition written valuation
    obtain ⟨truths, meant, operands⟩ :=
      Query.operands_where valuation known (Query.given_iff.2 plain) filtered
    refine ⟨Truth.all truths, meant, ?_⟩
    rw [whole, Query.joinedCondition_eq] at written
    have some : query.joinTexts dialect ++ filter.toList.map Fragment.sql ≠ [] := by
      intro empty
      rw [empty] at written
      cases written
    rw [joinedCondition_of_ne_nil some] at written
    cases written
    exact read_conjunction operands some

/-- Readers and what they read, joined on two columns, with nodes that are empty or have one
child only. -/
def readerSearch : Query :=
  let columns : List Column :=
    [{ name := "book", type := .integer }, { name := "name", type := .varchar }]
  let reader : TableRef := { table := { name := "reader", columns } }
  let reading : TableRef := { table := { name := "reading", columns }, aliasName := some "r" }
  let pair (column : Column) : ColumnPair := ⟨⟨reader, column⟩, ⟨reading, column⟩⟩
  let join : Join :=
    { kind := .implicit
      first := pair { name := "book", type := .integer }
      more := [pair { name := "name", type := .varchar }] }
  { schema := ⟨"", [reader.table, reading.table]⟩
    source := .table reader
    joins := [{ join }]
    filters := [
      .any [.all [.any [.raw "r.brand > 1", .compare (.named "name") .like "or"]]],
      .any [.any [], .inList (.named "book") .notIn ([] : List Int64), .all []]]
    foldsCase := true }

theorem where_reads_back_readerSearch :
    Dialect.postgres ∈ Dialect.standard ∧ (∀ text ∈ readerSearch.givenTexts, text.Plain) ∧
      ∃ plan, readerSearch.selectPlan .postgres = .ok plan ∧ plan.statement.hasWhere = true ∧
        ∃ clauses, readerSearch.HasClauses .postgres clauses ∧
          plan.statement.sql = clauses.sql ∧
          ∀ condition, clauses.condition = some condition → ∀ valuation, ∃ truth,
            readerSearch.meaning valuation .postgres = .ok truth ∧
              read valuation condition = some truth := by
  have known : Dialect.postgres ∈ Dialect.standard := Dialect.mem_standard.2 (by simp)
  have plain : ∀ text ∈ readerSearch.givenTexts, text.Plain := by decide +kernel
  obtain ⟨clauses, has, sql, -, -, reads⟩ := where_reads_back known plain rfl
  exact ⟨known, plain, _, rfl, rfl, clauses, has, sql, reads⟩

end PreparedSql
