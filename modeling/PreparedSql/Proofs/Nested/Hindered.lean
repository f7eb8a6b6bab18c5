import PreparedSql.Dialect.Standard
import PreparedSql.Proofs.Nested.Within
import PreparedSql.Proofs.SelectClauses
import PreparedSql.Query.Writing

/-! What a dialect is lacking is all that it refuses. A query compiles for a dialect exactly when
it compiles for the generic one and none of its queries, at any depth, asks for something that
the dialect does not have; and what a failure names is then something that the query asks for. -/

namespace PreparedSql

/-- The same attempt twice, once freely and once where something may be in the way. -/
structure Hindered {α β : Type} (obstacle : CompileError → Prop) (free : Except CompileError α)
    (bound : Except CompileError β) : Prop where
  free_of_ok : ∀ result, bound = .ok result → ∃ other, free = .ok other
  /-- Where the second attempt succeeds nothing is in its way, -/
  clear : ∀ result, bound = .ok result → ∀ reason, ¬ obstacle reason
  /-- and where it is the only one to fail, it says what is. -/
  obstacle_of_error : ∀ result reason, free = .ok result → bound = .error reason → obstacle reason

namespace Hindered

variable {α β γ δ : Type} {obstacle other : CompileError → Prop} {free : Except CompileError α}
  {bound : Except CompileError β}

theorem iff_ok (hindered : Hindered obstacle free bound) :
    (∃ result, bound = .ok result) ↔
      (∃ result, free = .ok result) ∧ ∀ reason, ¬ obstacle reason := by
  constructor
  · rintro ⟨result, done⟩
    exact ⟨hindered.free_of_ok result done, hindered.clear result done⟩
  · rintro ⟨⟨result, done⟩, clear⟩
    cases outcome : bound with
    | ok value => exact ⟨value, rfl⟩
    | error reason =>
      exact absurd (hindered.obstacle_of_error result reason done outcome) (clear reason)

theorem congr (hindered : Hindered obstacle free bound)
    (same : ∀ reason, obstacle reason ↔ other reason) : Hindered other free bound := by
  rw [← funext fun reason => propext (same reason)]
  exact hindered

/-- Attempts that succeed together. -/
theorem of_iff (together : (∃ result, free = .ok result) ↔ ∃ result, bound = .ok result) :
    Hindered (fun _ => False) free bound where
  free_of_ok := fun result done => together.2 ⟨result, done⟩
  clear := fun _ _ _ => id
  obstacle_of_error := by
    intro result reason done failed
    obtain ⟨value, present⟩ := together.1 ⟨result, done⟩
    rw [failed] at present
    cases present

theorem refl (attempt : Except CompileError α) : Hindered (fun _ => False) attempt attempt :=
  of_iff Iff.rfl

theorem ok (value : α) (result : β) :
    Hindered (fun _ => False) (.ok value) (.ok result : Except CompileError β) :=
  of_iff ⟨fun _ => ⟨result, rfl⟩, fun _ => ⟨value, rfl⟩⟩

/-- What always succeeds freely is hindered by whatever it fails for. -/
theorem of_free {value : α} (done : free = .ok value) :
    Hindered (fun reason => bound = .error reason) free bound where
  free_of_ok := fun _ _ => ⟨value, done⟩
  clear := by
    intro result present reason failed
    rw [present] at failed
    cases failed
  obstacle_of_error := fun _ _ _ failed => failed

theorem map (hindered : Hindered obstacle free bound) (f : α → γ) (g : β → δ) :
    Hindered obstacle (free.map f) (bound.map g) where
  free_of_ok := by
    intro result done
    obtain ⟨value, present, -⟩ := Attempt.map_eq_ok.1 done
    obtain ⟨value', present'⟩ := hindered.free_of_ok value present
    exact ⟨f value', Attempt.map_eq_ok.2 ⟨value', present', rfl⟩⟩
  clear := by
    intro result done
    obtain ⟨value, present, -⟩ := Attempt.map_eq_ok.1 done
    exact hindered.clear value present
  obstacle_of_error := by
    intro result reason done failed
    obtain ⟨value, present, -⟩ := Attempt.map_eq_ok.1 done
    exact hindered.obstacle_of_error value reason present (Attempt.map_eq_error.1 failed)

/-- One step after the other. -/
theorem bind {next : α → Except CompileError γ} {next' : β → Except CompileError δ}
    (front : Hindered obstacle free bound)
    (back : ∀ value value', free = .ok value → bound = .ok value' →
      Hindered other (next value) (next' value')) :
    Hindered (fun reason => obstacle reason ∨ other reason) (free >>= next) (bound >>= next') where
  free_of_ok := by
    intro result done
    obtain ⟨value', present', rest⟩ := Attempt.bind_eq_ok.1 done
    obtain ⟨value, present⟩ := front.free_of_ok value' present'
    obtain ⟨final, finished⟩ := (back value value' present present').free_of_ok result rest
    exact ⟨final, Attempt.bind_eq_ok.2 ⟨value, present, finished⟩⟩
  clear := by
    intro result done
    obtain ⟨value', present', rest⟩ := Attempt.bind_eq_ok.1 done
    obtain ⟨value, present⟩ := front.free_of_ok value' present'
    rintro reason (here | later)
    · exact front.clear value' present' reason here
    · exact (back value value' present present').clear result rest reason later
  obstacle_of_error := by
    intro result reason done failed
    obtain ⟨value, present, rest⟩ := Attempt.bind_eq_ok.1 done
    rcases Attempt.bind_eq_error.1 failed with here | ⟨value', present', later⟩
    · exact Or.inl (front.obstacle_of_error value reason present here)
    · exact Or.inr ((back value value' present present').obstacle_of_error result reason rest later)

/-- A step that nothing is in the way of, whatever it comes out as. -/
theorem bind_right {next : α → Except CompileError γ} {next' : β → Except CompileError δ}
    (front : Hindered (fun _ => False) free bound)
    (back : ∀ value value', free = .ok value → bound = .ok value' →
      Hindered other (next value) (next' value')) :
    Hindered other (free >>= next) (bound >>= next') :=
  (front.bind back).congr fun _ => iff_of_eq (false_or _)

/-- A last step that nothing is in the way of. -/
theorem bind_left {next : α → Except CompileError γ} {next' : β → Except CompileError δ}
    (front : Hindered obstacle free bound)
    (back : ∀ value value', free = .ok value → bound = .ok value' →
      Hindered (fun _ => False) (next value) (next' value')) :
    Hindered obstacle (free >>= next) (bound >>= next') :=
  (front.bind back).congr fun _ => iff_of_eq (or_false _)

theorem mapM {step : γ → Except CompileError α} {step' : γ → Except CompileError β}
    (each : ∀ entry, Hindered (fun _ => False) (step entry) (step' entry)) (entries : List γ) :
    Hindered (fun _ => False) (entries.mapM step) (entries.mapM step') := by
  induction entries with
  | nil => exact ok [] []
  | cons entry entries ih =>
    rw [List.mapM_cons, List.mapM_cons]
    apply (each entry).bind_right
    intro result result' _ _
    apply ih.bind_right
    intro others others' _ _
    exact ok _ _

end Hindered

/-- A test asks for a limit behind IN where there can be none. -/
inductive Test.Exceeds (dialect : Dialect) : Test → CompileError → Prop where
  | limited {spec : ColumnSpec} {operator : Membership} {query : Query} :
      query.hasLimitOrOffset = true → dialect.limitInMembership = false →
      Test.Exceeds dialect (.inQuery spec operator query)
        (.unsupported dialect.name "LIMIT inside an IN sub-query")

/-- A source asks for a derived table where there are none. -/
inductive Source.Exceeds (dialect : Dialect) : Source → CompileError → Prop where
  | derived {ref : TableRef} {query : Query} : dialect.derivedTables = false →
      Source.Exceeds dialect (.derived ref query)
        (.unsupported dialect.name "sub-queries in FROM")

namespace Query

/-- A query's own clauses ask for something that the dialect does not have. -/
inductive Exceeds (dialect : Dialect) (query : Query) : CompileError → Prop where
  | source {reason : CompileError} :
      query.source.Exceeds dialect reason → query.Exceeds dialect reason
  | test {test : Test} {reason : CompileError} :
      test ∈ query.tests → test.Exceeds dialect reason → query.Exceeds dialect reason
  | limit {feature : String} :
      dialect.limitClause query.rowLimit query.rowOffset = .error feature →
      query.Exceeds dialect (.unsupported dialect.name feature)

/-- Some query, at any depth, asks for something that the dialect does not have. -/
def Obstacle (query : Query) (dialect : Dialect) (reason : CompileError) : Prop :=
  ∃ inner : Query, inner.Within query ∧ inner.Exceeds dialect reason

end Query

def Test.Obstacle (test : Test) (dialect : Dialect) (reason : CompileError) : Prop :=
  test.Exceeds dialect reason ∨
    ∃ query, test.query? = some query ∧ query.Obstacle dialect reason

def Source.Obstacle (source : Source) (dialect : Dialect) (reason : CompileError) : Prop :=
  source.Exceeds dialect reason ∨
    ∃ query, source.query? = some query ∧ query.Obstacle dialect reason

variable {dialect : Dialect}

namespace Query

variable {query : Query}

theorem obstacle_iff_inner {reason : CompileError} : query.Obstacle dialect reason ↔
    query.Exceeds dialect reason ∨ ∃ child ∈ query.innerQueries, child.Obstacle dialect reason := by
  unfold Obstacle
  constructor
  · rintro ⟨inner, within, exceeds⟩
    rcases within_iff.1 within with rfl | ⟨child, member, below⟩
    · exact Or.inl exceeds
    · exact Or.inr ⟨child, member, inner, below, exceeds⟩
  · rintro (exceeds | ⟨child, member, inner, below, exceeds⟩)
    · exact ⟨query, .refl, exceeds⟩
    · exact ⟨inner, .inner member below, exceeds⟩

/-- Whatever is in the way of a query comes from its source or a test, or is its own limit. -/
theorem obstacle_iff {reason : CompileError} : query.Obstacle dialect reason ↔
    (query.source.Obstacle dialect reason ∨ ∃ test ∈ query.tests, test.Obstacle dialect reason) ∨
      ∃ feature, dialect.limitClause query.rowLimit query.rowOffset = .error feature ∧
        reason = .unsupported dialect.name feature := by
  rw [obstacle_iff_inner]
  constructor
  · rintro (exceeds | ⟨child, member, obstacle⟩)
    · cases exceeds with
      | source exceeds => exact Or.inl (Or.inl (Or.inl exceeds))
      | test member exceeds => exact Or.inl (Or.inr ⟨_, member, Or.inl exceeds⟩)
      | limit refused => exact Or.inr ⟨_, refused, rfl⟩
    · rcases mem_innerQueries.1 member with own | ⟨test, inside, own⟩
      · exact Or.inl (Or.inl (Or.inr ⟨child, own, obstacle⟩))
      · exact Or.inl (Or.inr ⟨test, inside, Or.inr ⟨child, own, obstacle⟩⟩)
  · rintro (((exceeds | ⟨child, own, obstacle⟩) |
      ⟨test, inside, exceeds | ⟨child, own, obstacle⟩⟩) | ⟨feature, refused, rfl⟩)
    · exact Or.inl (.source exceeds)
    · exact Or.inr ⟨child, mem_innerQueries.2 (Or.inl own), obstacle⟩
    · exact Or.inl (.test inside exceeds)
    · exact Or.inr ⟨child, mem_innerQueries.2 (Or.inr ⟨test, inside, own⟩), obstacle⟩
    · exact Or.inl (.limit refused)

end Query

namespace Hindered

variable (dialect)

theorem limiting (limit offset : Option Nat) :
    Hindered (fun reason => ∃ feature, dialect.limitClause limit offset = .error feature ∧
        reason = .unsupported dialect.name feature)
      (Dialect.generic.limiting limit offset) (dialect.limiting limit offset) := by
  refine (of_free rfl).congr fun reason => ?_
  unfold Dialect.limiting Dialect.unsupported
  cases dialect.limitClause limit offset <;> simp [eq_comm]

theorem checkDerivedTable (ref : TableRef) (query : Query) :
    Hindered ((Source.derived ref query).Exceeds dialect)
      Dialect.generic.checkDerivedTable dialect.checkDerivedTable := by
  refine (of_free rfl).congr fun reason => ?_
  unfold Dialect.checkDerivedTable Dialect.unsupported
  constructor
  · intro failed
    split at failed
    next => cases failed
    next lacking =>
      cases failed
      exact .derived (Bool.eq_false_iff.2 lacking)
  · rintro ⟨lacking⟩
    rw [lacking]
    rfl

theorem checkMembership (spec : ColumnSpec) (operator : Membership) (query : Query) :
    Hindered ((Test.inQuery spec operator query).Exceeds dialect)
      (Dialect.generic.checkMembership query.hasLimitOrOffset)
      (dialect.checkMembership query.hasLimitOrOffset) := by
  have free : Dialect.generic.checkMembership query.hasLimitOrOffset = .ok () := by
    unfold Dialect.checkMembership
    cases query.hasLimitOrOffset <;> rfl
  refine (of_free free).congr fun reason => ?_
  unfold Dialect.checkMembership Dialect.unsupported
  constructor
  · intro failed
    split at failed
    next asked =>
      cases failed
      rw [Bool.and_eq_true, Bool.not_eq_true'] at asked
      exact .limited asked.1 asked.2
    next => cases failed
  · rintro ⟨limited, lacking⟩
    rw [limited, lacking]
    rfl

/-- Whether a value can be compared depends on the operator alone. -/
theorem valueTest (ignoreCase : Bool) (column : QualifiedColumn) (operator : Comparison)
    (value : Value) :
    Hindered (fun _ => False) (PreparedSql.valueTest .generic ignoreCase column operator value)
      (PreparedSql.valueTest dialect ignoreCase column operator value) := by
  cases value with
  | none => exact refl (PreparedSql.valueTest .generic ignoreCase column operator none)
  | some datum => exact ok _ _

variable (query : Query)

theorem fromClause (origin origin' : Fragment) :
    Hindered (fun _ => False) (query.fromClause .generic origin)
      (query.fromClause dialect origin') := by
  unfold Query.fromClause
  cases query.joinedPrimary? with
  | some join => exact refl _
  | none => exact ok _ _

/-- Whether a query can be sorted depends on its columns alone. -/
theorem orderClause :
    Hindered (fun _ => False) (query.orderClause .generic) (query.orderClause dialect) := by
  have key (target : OrderTarget) :
      Hindered (fun _ => False) (query.orderSql .generic target)
        (query.orderSql dialect target) := by
    cases target with
    | column spec => exact (refl (query.resolve spec)).map _ _
    | raw sql => exact refl _
  unfold Query.orderClause
  split
  next => exact refl _
  next =>
    refine (mapM (fun entry => (key entry.target).map _ _) query.ordering).bind_right ?_
    intro keys keys' _ _
    exact ok _ _

theorem selectWith (body body' : Body) :
    Hindered (fun reason =>
        ∃ feature, dialect.limitClause query.rowLimit query.rowOffset = .error feature ∧
          reason = .unsupported dialect.name feature)
      (query.selectWith .generic body) (query.selectWith dialect body') := by
  apply (orderClause dialect query).bind_right
  intro ordering ordering' _ _
  apply (limiting dialect query.rowLimit query.rowOffset).bind_left
  intro clause clause' _ _
  exact ok _ _

variable {dialect}

/-- Where no test is among the predicates, nothing is in the way of them either. -/
theorem conjunction {predicates : List Predicate} {scope : Scope}
    (pieces : Hindered (fun reason => ∃ test ∈ Predicate.testsOfAll predicates,
        test.Obstacle dialect reason)
      (Predicate.compileAll .generic scope predicates)
      (Predicate.compileAll dialect scope predicates)) :
    Hindered (fun reason => ∃ test ∈ Predicate.testsOfAll predicates, test.Obstacle dialect reason)
      (PreparedSql.conjunction predicates (Predicate.compileAll .generic scope predicates))
      (PreparedSql.conjunction predicates (Predicate.compileAll dialect scope predicates)) := by
  unfold PreparedSql.conjunction
  split
  next empty =>
    rw [(Predicate.allEmpty_iff predicates).1 empty]
    exact (ok _ _).congr fun reason => by simp
  next => exact pieces.map _ _

variable {query}

/-- The body of a query, in terms of its source and its conditions. -/
theorem body
    (source : Hindered (query.source.Obstacle dialect) (query.source.compile .generic)
      (query.source.compile dialect))
    (filters : ∀ scope, Hindered
      (fun reason => ∃ test ∈ Predicate.testsOfAll query.filters, test.Obstacle dialect reason)
      (Predicate.compileAll .generic scope query.filters)
      (Predicate.compileAll dialect scope query.filters))
    (havings : ∀ scope, Hindered
      (fun reason => ∃ test ∈ Predicate.testsOfAll query.havings, test.Obstacle dialect reason)
      (Predicate.compileAll .generic scope query.havings)
      (Predicate.compileAll dialect scope query.havings)) :
    Hindered (fun reason => query.source.Obstacle dialect reason ∨
        ∃ test ∈ query.tests, test.Obstacle dialect reason)
      (query.body .generic) (query.body dialect) := by
  have parts (reason : CompileError) :
      (query.source.Obstacle dialect reason ∨
          (∃ test ∈ Predicate.testsOfAll query.filters, test.Obstacle dialect reason) ∨
          ∃ test ∈ Predicate.testsOfAll query.havings, test.Obstacle dialect reason) ↔
        query.source.Obstacle dialect reason ∨
          ∃ test ∈ query.tests, test.Obstacle dialect reason := by
    unfold Query.tests
    simp only [List.mem_append, or_and_right, exists_or]
  refine Hindered.congr ?_ parts
  rw [Query.body_eq, Query.body_eq]
  apply (refl (Chain.check query.joins)).bind_right
  intro _ _ _ _
  apply (refl query.layout).bind_right
  intro layout layout' _ _
  apply source.bind
  intro origin origin' _ _
  apply (fromClause dialect query origin origin').bind_right
  intro introduced introduced' _ _
  apply (conjunction (filters query.scope)).bind
  intro filter filter' _ _
  apply (refl query.groupClause).bind_right
  intro grouping grouping' _ _
  apply (conjunction (havings query.scope)).bind_left
  intro having having' _ _
  exact ok _ _

/-- A query inside another statement, given its body. -/
theorem nested
    (inner : Hindered (fun reason => query.source.Obstacle dialect reason ∨
        ∃ test ∈ query.tests, test.Obstacle dialect reason)
      (query.body .generic) (query.body dialect)) :
    Hindered (query.Obstacle dialect) (query.nested .generic (query.body .generic))
      (query.nested dialect (query.body dialect)) := by
  refine Hindered.congr ?_ fun reason => Query.obstacle_iff.symm
  exact inner.bind fun body body' _ _ => selectWith dialect query body body'

end Hindered

/-- A test without a query asks for nothing that a dialect may be lacking. -/
theorem Test.obstacle_of_none {test : Test} {reason : CompileError} (plain : test.query? = none) :
    False ↔ test.Obstacle dialect reason := by
  refine ⟨False.elim, ?_⟩
  rintro (exceeds | ⟨query, own, -⟩)
  · cases exceeds
    cases plain
  · rw [plain] at own
    cases own

theorem Test.obstacle_of_some {test : Test} {query : Query} {reason : CompileError}
    (own : test.query? = some query) : test.Exceeds dialect reason ∨ query.Obstacle dialect reason ↔
      test.Obstacle dialect reason := by
  unfold Obstacle
  simp only [own, Option.some.injEq, exists_eq_left']

mutual

theorem Test.compile_hindered (scope : Scope) : (test : Test) →
    Hindered (test.Obstacle dialect) (test.compile .generic scope) (test.compile dialect scope)
  | .compareValue spec operator value => by
      refine Hindered.congr ?_ fun reason => Test.obstacle_of_none rfl
      apply (Hindered.refl (scope.resolve spec)).bind_right
      intro column column' resolved resolved'
      cases resolved.symm.trans resolved'
      exact .valueTest dialect scope.ignoreCase column operator value
  | .compareRaw spec operator sql =>
    (Hindered.refl ((Test.compareRaw spec operator sql).compile .generic scope)).congr
      fun reason => Test.obstacle_of_none rfl
  | .compareQuery spec operator query => by
      have compared (reason : CompileError) : query.Obstacle dialect reason ↔
          (Test.compareQuery spec operator query).Obstacle dialect reason := by
        rw [← Test.obstacle_of_some rfl]
        exact (or_iff_right nofun).symm
      refine Hindered.congr ?_ compared
      apply (Hindered.refl (scope.resolve spec)).bind_right
      intro column column' _ _
      apply (Hindered.nested query.body_hindered).bind_left
      intro nested nested' _ _
      exact .ok _ _
  | .inList spec operator values =>
    (Hindered.refl ((Test.inList spec operator values).compile .generic scope)).congr
      fun reason => Test.obstacle_of_none rfl
  | .inQuery spec operator query => by
      refine Hindered.congr ?_ fun reason => Test.obstacle_of_some rfl
      apply (Hindered.refl (scope.resolve spec)).bind_right
      intro column column' _ _
      apply (Hindered.checkMembership dialect spec operator query).bind
      intro _ _ _ _
      apply (Hindered.nested query.body_hindered).bind_left
      intro nested nested' _ _
      exact .ok _ _
  | .raw sql => (Hindered.ok _ _).congr fun reason => Test.obstacle_of_none rfl

theorem Predicate.compile_hindered (scope : Scope) : (predicate : Predicate) →
    Hindered (fun reason => ∃ test ∈ predicate.tests, test.Obstacle dialect reason)
      (predicate.compile .generic scope) (predicate.compile dialect scope)
  | .leaf settings test => by
      refine (test.compile_hindered (scope.enter settings)).congr fun reason => ?_
      simp [Predicate.tests]
  | .node settings connective children => by
      apply (Predicate.compileAll_hindered (scope.enter settings) children).bind_left
      intro pieces pieces' _ _
      exact .ok _ _

theorem Predicate.compileAll_hindered (scope : Scope) : (children : List Predicate) →
    Hindered (fun reason => ∃ test ∈ Predicate.testsOfAll children, test.Obstacle dialect reason)
      (Predicate.compileAll .generic scope children) (Predicate.compileAll dialect scope children)
  | [] => (Hindered.ok [] []).congr fun reason => by simp [Predicate.testsOfAll]
  | child :: children => by
      refine Hindered.congr ((child.compile_hindered scope).bind fun piece piece' _ _ =>
        (Predicate.compileAll_hindered scope children).bind_left fun pieces pieces' _ _ =>
          .ok _ _) fun reason => ?_
      simp only [Predicate.testsOfAll, List.mem_append, or_and_right, exists_or]

theorem Source.compile_hindered : (source : Source) →
    Hindered (source.Obstacle dialect) (source.compile .generic) (source.compile dialect)
  | .table ref => by
      refine (Hindered.ok _ _).congr fun reason => ⟨False.elim, ?_⟩
      rintro (exceeds | ⟨query, own, -⟩)
      · cases exceeds
      · cases own
  | .derived ref query => by
      have below (reason : CompileError) :
          (Source.derived ref query).Exceeds dialect reason ∨ query.Obstacle dialect reason ↔
            (Source.derived ref query).Obstacle dialect reason := by
        unfold Source.Obstacle
        simp only [Source.query?, Option.some.injEq, exists_eq_left']
      refine Hindered.congr ?_ below
      apply (Hindered.checkDerivedTable dialect ref query).bind
      intro _ _ _ _
      apply (Hindered.nested query.body_hindered).bind_left
      intro nested nested' _ _
      exact .ok _ _

theorem Query.body_hindered : (query : Query) →
    Hindered (fun reason => query.source.Obstacle dialect reason ∨
        ∃ test ∈ query.tests, test.Obstacle dialect reason)
      (query.body .generic) (query.body dialect)
  | { source, filters, havings, .. } =>
    .body source.compile_hindered (fun scope => Predicate.compileAll_hindered scope filters)
      (fun scope => Predicate.compileAll_hindered scope havings)

end

namespace Hindered

variable (query : Query)

theorem selectPlan :
    Hindered (query.Obstacle dialect) (query.selectPlan .generic) (query.selectPlan dialect) := by
  refine Hindered.congr ?_ fun reason => Query.obstacle_iff.symm
  apply query.body_hindered.bind
  intro body body' _ _
  apply (selectWith dialect query body body').bind_left
  intro fragment fragment' _ _
  exact ok _ _

/-- Whether a statement is bounded does not depend on its text. -/
theorem finishMutation (kind : StatementKind) (table : TableRef) (hasWhere : Bool)
    (fragment fragment' : Fragment) :
    Hindered (fun _ => False) (PreparedSql.finishMutation kind table hasWhere fragment)
      (PreparedSql.finishMutation kind table hasWhere fragment') := by
  unfold PreparedSql.finishMutation
  refine bind_right ?_ fun _ _ _ _ => ok _ _
  cases kind <;> exact refl _

theorem deletePlan :
    Hindered
      (fun reason => ∃ test ∈ Predicate.testsOfAll query.filters, test.Obstacle dialect reason)
      (query.deletePlan .generic) (query.deletePlan dialect) := by
  unfold Query.deletePlan
  apply (refl (query.mutationTarget .delete)).bind_right
  intro table table' target target'
  cases target.symm.trans target'
  apply (conjunction (Predicate.compileAll_hindered (query.mutationScope table) _)).bind_left
  intro condition condition' written written'
  have same : condition.isNone = condition'.isNone :=
    Bool.eq_iff_iff.2 ((conjunction_isNone written).trans (conjunction_isNone written').symm)
  rw [← Option.not_isNone, same, Option.not_isNone]
  exact finishMutation _ _ _ _ _

end Hindered

/-- A query has a plan for a dialect exactly when it has one for the generic dialect and nothing in
it, at any depth, asks for what the dialect is lacking; and so for a DELETE, with what its filters
ask for. Where only the dialect is the reason to fail, the failure names what it is lacking. -/
theorem planned_iff_generic (dialect : Dialect) (query : Query) :
    ((∃ plan, query.selectPlan dialect = .ok plan) ↔
        (∃ plan, query.selectPlan .generic = .ok plan) ∧
          ∀ reason, ¬ query.Obstacle dialect reason) ∧
      (∀ plan reason, query.selectPlan .generic = .ok plan →
        query.selectPlan dialect = .error reason → query.Obstacle dialect reason) ∧
      ((∃ statement, query.deletePlan dialect = .ok statement) ↔
        (∃ statement, query.deletePlan .generic = .ok statement) ∧
          ∀ reason, ¬ ∃ test ∈ Predicate.testsOfAll query.filters, test.Obstacle dialect reason) ∧
      ∀ statement reason, query.deletePlan .generic = .ok statement →
        query.deletePlan dialect = .error reason →
        ∃ test ∈ Predicate.testsOfAll query.filters, test.Obstacle dialect reason := by
  have selecting := @Hindered.selectPlan dialect query
  have deleting := @Hindered.deletePlan dialect query
  exact ⟨selecting.iff_ok, selecting.obstacle_of_error, deleting.iff_ok,
    deleting.obstacle_of_error⟩

/-- A dialect without derived tables, offsets, and limits behind IN. -/
def plainDialect : Dialect :=
  { name := "plain"
    limitClause := fun limit offset =>
      if offset.isSome then .error "OFFSET" else .ok (limitOffset limit none)
    derivedTables := false
    limitInMembership := false }

def ordersTable : TableRef :=
  let column (name : String) : Column := { name, type := .integer }
  { table := { name := "orders", columns := [column "id", column "customer"] } }

/-- A single order, after the given number of others. -/
def singleOrder (skipped : Option Nat) : Query :=
  { schema := ⟨"shop", [ordersTable.table]⟩
    source := .table ordersTable
    rowLimit := some 1
    rowOffset := skipped }

/-- The orders whose customer is among the rows of another query, or unknown. -/
def ordersAmong (rows : Query) : Query :=
  { schema := ⟨"shop", [ordersTable.table]⟩
    source := .table ordersTable
    filters := [.any [.isNull (.named "customer"), .inQuery (.named "customer") .isIn rows]] }

/-- The customers of the orders that come after a single one. -/
def laterCustomers (skipped : Option Nat) : Query :=
  { schema := ⟨"shop", [ordersTable.table]⟩
    source := .table ordersTable
    selection := [.column (.named "customer")]
    havings := [.compareQuery (.named "orders.id") .greater (singleOrder skipped)] }

/-- An offset two queries below is refused by a dialect without one; MySQL takes it there, but no
limit right behind IN, also not in a DELETE. -/
theorem planned_iff_generic_orders :
    ∃ deep shallow : Query, deep = ordersAmong (laterCustomers (some 2)) ∧
      shallow = ordersAmong (singleOrder none) ∧
      (∃ plan, deep.selectPlan .generic = .ok plan) ∧
      deep.selectPlan plainDialect = .error (.unsupported "plain" "OFFSET") ∧
      deep.Obstacle plainDialect (.unsupported "plain" "OFFSET") ∧
      (∃ plan, deep.selectPlan .mysql = .ok plan) ∧ (∀ reason, ¬ deep.Obstacle .mysql reason) ∧
      (∃ statement, shallow.deletePlan .generic = .ok statement) ∧
      shallow.deletePlan .mysql =
        .error (.unsupported "mysql" "LIMIT inside an IN sub-query") ∧
      ∃ test ∈ Predicate.testsOfAll shallow.filters,
        test.Obstacle .mysql (.unsupported "mysql" "LIMIT inside an IN sub-query") := by
  have mysql := planned_iff_generic .mysql (ordersAmong (laterCustomers (some 2)))
  have plain := planned_iff_generic plainDialect (ordersAmong (laterCustomers (some 2)))
  have delete := planned_iff_generic .mysql (ordersAmong (singleOrder none))
  exact ⟨_, _, rfl, rfl, ⟨_, rfl⟩, rfl, plain.2.1 _ _ rfl rfl, ⟨_, rfl⟩, (mysql.1.1 ⟨_, rfl⟩).2,
    ⟨_, rfl⟩, rfl, delete.2.2.2 _ _ rfl rfl⟩

end PreparedSql
