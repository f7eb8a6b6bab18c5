import PreparedSql.Proofs.Attempt
import PreparedSql.Query.Build
import PreparedSql.Query.Relation

/-! Runs of builder calls: what a query has become after any of them, in any order. -/

namespace PreparedSql

/-- One call on a query under construction. -/
inductive BuildStep where
  | filter (predicate : Predicate)
  | having (predicate : Predicate)
  | join (join : Join)
  | joinHop (join : Join) (hop : Hop)
  | joinRelation (path : String) (kind : JoinKind) (aliasName : Option String)
  | select (spec : ColumnSpec)
  | selectAll (table : TableRef)
  | selectRaw (sql : String)
  | selectWithJoins
  | distinct
  | groupBy (spec : ColumnSpec)
  | orderBy (spec : ColumnSpec) (direction : Direction)
  | orderByRaw (sql : String) (direction : Direction)
  | limit (count : Nat)
  | offset (count : Nat)
  | ignoreCase (flag : Bool)

namespace BuildStep

def apply (query : Query) : BuildStep → Except CompileError Query
  | .filter predicate => .ok (query.filter predicate)
  | .having predicate => .ok (query.having predicate)
  | .join added => .ok (query.join added)
  | .joinHop added hop => .ok (query.joinHop added hop)
  | .joinRelation path kind aliasName => query.joinRelation path kind aliasName
  | .select spec => .ok (query.select spec)
  | .selectAll table => .ok (query.selectAll table)
  | .selectRaw sql => .ok (query.selectRaw sql)
  | .selectWithJoins => .ok query.selectWithJoins
  | .distinct => .ok query.distinct
  | .groupBy spec => .ok (query.groupBy spec)
  | .orderBy spec direction => .ok (query.orderBy spec direction)
  | .orderByRaw sql direction => .ok (query.orderByRaw sql direction)
  | .limit count => .ok (query.limit count)
  | .offset count => .ok (query.offset count)
  | .ignoreCase flag => .ok (query.ignoreCase flag)

/-- The predicate that a call passes to WHERE. -/
def filtered? : BuildStep → Option Predicate
  | .filter predicate => some predicate
  | _ => none

/-- The calls one after the other, each on the query that the one before has left. -/
def run : List BuildStep → Query → Except CompileError Query
  | [], query => .ok query
  | step :: steps, query => do
      let next ← step.apply query
      run steps next

/-- No call touches the source, and only a filter call adds to the filters. -/
theorem apply_keeps {step : BuildStep} {query next : Query}
    (applied : step.apply query = .ok next) :
    next.source = query.source ∧ next.filters = query.filters ++ step.filtered?.toList := by
  have unfiltered : query.filters = query.filters ++ [] := (List.append_nil _).symm
  cases step with
  | joinRelation path kind aliasName =>
    unfold apply Query.joinRelation at applied
    obtain ⟨joins, -, done⟩ := Attempt.bind_eq_ok.1 applied
    cases Attempt.pure_eq_ok.1 done
    exact ⟨rfl, unfiltered⟩
  | filter predicate =>
    cases applied
    exact ⟨rfl, rfl⟩
  | _ =>
    cases applied
    exact ⟨rfl, unfiltered⟩

/-- After a run the source is the old one, and the filters are those of the filter calls. -/
theorem run_keeps {steps : List BuildStep} {query final : Query}
    (ran : run steps query = .ok final) :
    final.source = query.source ∧
      final.filters = query.filters ++ steps.filterMap filtered? := by
  induction steps generalizing query with
  | nil =>
    cases ran
    exact ⟨rfl, (List.append_nil _).symm⟩
  | cons step steps ih =>
    obtain ⟨next, applied, rest⟩ := Attempt.bind_eq_ok.1 ran
    obtain ⟨source, filters⟩ := apply_keeps applied
    obtain ⟨later, more⟩ := ih rest
    refine ⟨later.trans source, ?_⟩
    rw [more, filters, List.append_assoc, List.filterMap_cons]
    cases step.filtered? <;> rfl

end BuildStep

end PreparedSql
