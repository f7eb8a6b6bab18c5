import PreparedSql.Proofs.Condition.Plain
import PreparedSql.Proofs.PredicateTests
import PreparedSql.Proofs.StandardDialects
import PreparedSql.Proofs.Template.Statements

/-! What a tree of predicates means, and that its text reads back as an operand with this
meaning. -/

namespace PreparedSql

open Condition

/-- The truth of a single test is that of its text; nothing is in an empty list. -/
def Test.truth (valuation : Valuation) (dialect : Dialect) (scope : Scope) :
    Test → Except CompileError Truth
  | .inList _ .isIn [] => .ok .no
  | .inList _ .notIn [] => .ok .yes
  | test => (test.compile dialect scope).map fun fragment => leaf valuation fragment.sql

namespace Predicate

mutual

def truth (valuation : Valuation) (dialect : Dialect) (scope : Scope) :
    Predicate → Except CompileError Truth
  | .leaf settings test => test.truth valuation dialect (scope.enter settings)
  | .node settings connective children =>
      (truths valuation dialect (scope.enter settings) children).map connective.truth

def truths (valuation : Valuation) (dialect : Dialect) (scope : Scope) :
    List Predicate → Except CompileError (List Truth)
  | [] => .ok []
  | child :: children => do
      let first ← child.truth valuation dialect scope
      let others ← truths valuation dialect scope children
      return first :: others

end

end Predicate

/-- The equalities that the implicit joins ask for. -/
def Query.joinTruths (query : Query) (valuation : Valuation) (dialect : Dialect) : List Truth :=
  (query.joins.filter (·.join.isImplicit)).flatMap fun entry =>
    entry.join.pairs.map fun pair =>
      leaf valuation (if query.foldsCase then pair.foldedSql dialect else pair.sql)

/-- All implicit joins and, if there is a test among them, all filters. -/
def Query.meaning (query : Query) (valuation : Valuation) (dialect : Dialect) :
    Except CompileError Truth :=
  if (Predicate.testsOfAll query.filters).isEmpty then
    .ok (Truth.all (query.joinTruths valuation dialect))
  else (Predicate.truths valuation dialect query.scope query.filters).map fun filters =>
    Truth.all (query.joinTruths valuation dialect ++ filters)

/-- The caller's text is plain. -/
def GivenText.Plain (given : GivenText) : Prop :=
  Condition.Plain given.content

instance (given : GivenText) : Decidable given.Plain :=
  inferInstanceAs (Decidable (Condition.Plain given.content))

variable {valuation : Valuation} {dialect : Dialect}

/-- The parentheses of the template's text match. -/
def Template.Balanced (valuation : Valuation) (template : Template) : Prop :=
  ∃ marks, Scans valuation template.fragment.sql marks

namespace Template

theorem balanced_text {sql : String} :
    Balanced valuation (text sql) ↔ ∃ marks, Scans valuation sql marks := by
  unfold Balanced
  rw [fragment_text]
  rfl

theorem balanced_of_flat {sql : String} (flat : Avoids ['(', ')'] sql) :
    Balanced valuation (text sql) :=
  balanced_text.2 ⟨_, Scans.chars flat⟩

theorem balanced_of_harmless {sql : String} (harmless : Harmless sql) :
    Balanced valuation (text sql) :=
  balanced_of_flat (harmless.mono (by decide))

theorem Balanced.append {first second : Template} (front : Balanced valuation first)
    (back : Balanced valuation second) : Balanced valuation (first ++ second) := by
  obtain ⟨opening, one⟩ := front
  obtain ⟨closing, other⟩ := back
  unfold Balanced
  rw [fragment_append]
  exact ⟨_, one.append other⟩

theorem balanced_upper {sql : String} (inner : ∃ marks, Scans valuation sql marks) :
    ∃ marks, Scans valuation ("UPPER(" ++ sql ++ ")") marks := by
  obtain ⟨marks, -, part, -⟩ := Lead.upper inner
  exact ⟨marks, part.toScans⟩

/-- Compiling for a known dialect keeps parentheses matching. -/
theorem balanced_closed (known : dialect ∈ Dialect.standard) :
    Closed dialect (Balanced valuation) where
  nil := ⟨[], rfl, by simp [fragment, sql, String.join]⟩
  append := Balanced.append
  parenthesized := by
    intro template inner
    obtain ⟨marks, scans⟩ := inner
    unfold Balanced
    rw [fragment_parenthesized]
    exact ⟨_, scans.enclosed⟩
  glue := by
    intro first second front back
    obtain ⟨opening, one⟩ := balanced_text.1 front
    obtain ⟨closing, other⟩ := balanced_text.1 back
    exact balanced_text.2 ⟨_, one.append other⟩
  enclosed := by
    intro sql inner
    obtain ⟨marks, scans⟩ := balanced_text.1 inner
    exact balanced_text.2 ⟨_, scans.enclosed⟩
  word := balanced_of_harmless
  foldCase := by
    intro sql inner
    rw [Dialect.foldCase_of_standard known]
    exact balanced_text.2 (balanced_upper (balanced_text.1 inner))
  foldOrder := by
    intro sql inner
    rw [Dialect.foldOrder_of_standard known]
    exact balanced_text.2 (balanced_upper (balanced_text.1 inner))
  foldedOperator := by
    intro operator folded own
    rcases Dialect.foldedOperator_of_standard known own with rfl | rfl <;>
      exact balanced_of_harmless (by decide)
  limitClause := fun written => balanced_of_harmless (Dialect.limitClause_of_standard known written)
  value := by
    intro column datum
    unfold Balanced
    rw [fragment_single]
    exact ⟨_, Scans.chars (show Avoids ['(', ')'] "?" by decide)⟩
  foldedValue := by
    intro column datum
    unfold Balanced
    rw [fragment_single]
    simp only [Dialect.foldCase_of_standard known]
    exact balanced_upper ⟨_, Scans.chars (by decide)⟩

theorem allows_of_plain {given : GivenText} (plain : given.Plain) :
    Closed.Allows (Balanced valuation) given :=
  balanced_of_flat (plain.1.mono (by decide))

end Template

/-- The text of a query inside a condition has matching parentheses. -/
theorem Query.exists_marks_nested (known : dialect ∈ Dialect.standard) {query : Query}
    (plain : ∀ text ∈ query.givenTexts, text.Plain) {fragment : Fragment}
    (compiled : query.nested dialect (query.body dialect) = .ok fragment) :
    ∃ marks, Scans valuation fragment.sql marks := by
  rw [Query.nested_fragment (query.body_eq_template dialect)] at compiled
  obtain ⟨template, ran, rfl⟩ := Attempt.map_eq_ok.1 compiled
  exact query.selectTemplate_closed (Template.balanced_closed known)
    (fun text member => Template.allows_of_plain (plain text member)) ran

namespace QualifiedColumn

variable {column : QualifiedColumn}

theorem lead (plain : ∀ text ∈ column.givenTexts, text.Plain) : Lead valuation column.sql :=
  Plain.qualified (plain _ (List.mem_cons_of_mem _ column.table.name_label_mem))
    (plain (.name column.column.name) List.mem_cons_self)

theorem lead_folded (known : dialect ∈ Dialect.standard)
    (plain : ∀ text ∈ column.givenTexts, text.Plain) :
    Lead valuation (dialect.foldCase column.sql) := by
  have bare : Lead valuation column.sql := column.lead plain
  obtain ⟨marks, -, part, -⟩ := bare
  rw [Dialect.foldCase_of_standard known]
  exact Lead.upper ⟨marks, part.toScans⟩

end QualifiedColumn

theorem Comparison.tail (operator : Comparison) : Tail valuation operator.sql :=
  Plain.tail (by cases operator <;> decide)

theorem Membership.tail (operator : Membership) : Tail valuation operator.sql :=
  Plain.tail (by cases operator <;> decide)

variable {column : QualifiedColumn}

/-- A comparison with a value is a leaf. -/
theorem lead_valueTest (known : dialect ∈ Dialect.standard)
    (plain : ∀ text ∈ column.givenTexts, text.Plain) {ignoreCase : Bool}
    {operator : Comparison} {value : Value} {fragment : Fragment}
    (compiled : valueTest dialect ignoreCase column operator value = .ok fragment) :
    Lead valuation fragment.sql := by
  have bare : Lead valuation column.sql := column.lead plain
  have mark : Tail valuation "?" := Plain.tail (by decide)
  have spaced (sql : String) : sql ++ " ?" = sql ++ " " ++ "?" := by
    rw [String.append_assoc]
    rfl
  cases value with
  | none =>
    cases operator <;> cases compiled
    · have words : Tail valuation "IS NULL" := Plain.tail (by decide)
      have test := bare.space words
      rwa [String.append_assoc] at test
    · have words : Tail valuation "IS NOT NULL" := Plain.tail (by decide)
      have test := bare.space words
      rwa [String.append_assoc] at test
  | some datum =>
    cases compiled
    show Lead valuation (placeholderTest dialect ignoreCase column operator)
    unfold placeholderTest
    split
    next =>
      split
      next folded own =>
        have word : Tail valuation folded := by
          rcases Dialect.foldedOperator_of_standard known own with rfl | rfl <;>
            exact Plain.tail (by decide)
        rw [spaced]
        exact (bare.space word).space mark
      next =>
        have upper : Lead valuation (dialect.foldCase column.sql) :=
          column.lead_folded known plain
        have folded : Tail valuation (dialect.foldCase "?") := by
          rw [Dialect.foldCase_of_standard known]
          exact (Lead.upper ⟨_, Scans.chars (by decide)⟩).tail
        exact (upper.space operator.tail).space folded
    next =>
      rw [spaced]
      exact (bare.space operator.tail).space mark

/-- A condition on a query in parentheses is a leaf. -/
theorem lead_queryTest (plain : ∀ text ∈ column.givenTexts, text.Plain) {operator : String}
    (word : Tail valuation operator) {nested : Fragment}
    (inner : ∃ marks, Scans valuation nested.sql marks) :
    Lead valuation (queryTest column operator nested).sql := by
  have test := ((column.lead plain).space word).space (Tail.enclosed inner)
  simpa only [queryTest, parenthesized, Fragment.sql_append, Fragment.sql_text,
    String.append_assoc] using test

/-- A condition on a list that is not empty is a leaf. -/
theorem lead_listTest (plain : ∀ text ∈ column.givenTexts, text.Plain) {operator : Membership}
    {values : List Value} (some : values ≠ []) {fragment : Fragment}
    (compiled : listTest column operator values = .ok fragment) :
    Lead valuation fragment.sql := by
  have marks : ∃ marks, Scans valuation (",".intercalate (values.map fun _ => "?")) marks := by
    clear compiled some
    have mark : Scans valuation "?" _ := Scans.chars (by decide)
    induction values with
    | nil =>
      rw [List.map_nil, String.intercalate_nil]
      exact ⟨_, Scans.chars (by decide)⟩
    | cons value values ih =>
      cases values with
      | nil =>
        rw [List.map_singleton, String.intercalate_singleton]
        exact ⟨_, mark⟩
      | cons second rest =>
        obtain ⟨marks, scans⟩ := ih
        have comma : Scans valuation "," _ := Scans.chars (by decide)
        rw [List.map_cons, List.map_cons, String.intercalate_cons_cons]
        exact ⟨_, (mark.append comma).append scans⟩
  have test := ((column.lead plain).space operator.tail).space (Tail.enclosed marks)
  have opening : (" (" : String) = " " ++ "(" := rfl
  cases values with
  | nil => exact absurd rfl some
  | cons value values =>
    simp only [listTest] at compiled
    split at compiled
    next => cases compiled
    next =>
      cases compiled
      simpa only [opening, String.append_assoc] using test

theorem leaf_alwaysTrue (valuation : Valuation) : leaf valuation alwaysTrue = .yes :=
  valuation.always

theorem leaf_alwaysFalse (valuation : Valuation) : leaf valuation alwaysFalse = .no :=
  valuation.never

theorem operand_alwaysTrue : Operand valuation alwaysTrue .yes := by
  rw [← leaf_alwaysTrue valuation]
  exact Plain.operand (by decide)

theorem operand_alwaysFalse : Operand valuation alwaysFalse .no := by
  rw [← leaf_alwaysFalse valuation]
  exact Plain.operand (by decide)

/-- The text of a test reads back as an operand with the truth of the test. -/
theorem Test.operand (known : dialect ∈ Dialect.standard) {scope : Scope} {test : Test}
    (tables : scope.Given GivenText.Plain) (plain : ∀ text ∈ test.givenTexts, text.Plain)
    {fragment : Fragment} (compiled : test.compile dialect scope = .ok fragment) :
    ∃ truth, test.truth valuation dialect scope = .ok truth ∧
      Operand valuation fragment.sql truth := by
  have single (lead : Lead valuation fragment.sql)
      (same : test.truth valuation dialect scope =
        (test.compile dialect scope).map fun fragment => leaf valuation fragment.sql) :
      ∃ truth, test.truth valuation dialect scope = .ok truth ∧
        Operand valuation fragment.sql truth :=
    ⟨leaf valuation fragment.sql, by rw [same, compiled]; rfl, lead.operand⟩
  cases test with
  | compareValue spec operator value =>
    obtain ⟨column, resolved, rest⟩ := Attempt.bind_eq_ok.1 compiled
    exact single (lead_valueTest known (tables.resolve plain resolved) rest) rfl
  | compareRaw spec operator sql =>
    obtain ⟨column, resolved, rest⟩ := Attempt.bind_eq_ok.1 compiled
    cases Attempt.pure_eq_ok.1 rest
    obtain ⟨verbatim, own⟩ := List.forall_mem_cons.1 plain
    exact single (((column.lead (tables.resolve own resolved)).space operator.tail).space
      (Plain.tail verbatim)) rfl
  | compareQuery spec operator query =>
    obtain ⟨column, resolved, rest⟩ := Attempt.bind_eq_ok.1 compiled
    obtain ⟨nested, inner, rest⟩ := Attempt.bind_eq_ok.1 rest
    cases Attempt.pure_eq_ok.1 rest
    obtain ⟨own, below⟩ := List.forall_mem_append.1 plain
    exact single (lead_queryTest (tables.resolve own resolved) operator.tail
      (query.exists_marks_nested known below inner)) rfl
  | inList spec operator values =>
    obtain ⟨column, resolved, rest⟩ := Attempt.bind_eq_ok.1 compiled
    cases values with
    | nil =>
      cases rest
      cases operator
      · exact ⟨.no, rfl, operand_alwaysFalse⟩
      · exact ⟨.yes, rfl, operand_alwaysTrue⟩
    | cons value values =>
      refine single (lead_listTest (tables.resolve plain resolved)
        (List.cons_ne_nil value values) rest) ?_
      cases operator <;> rfl
  | inQuery spec operator query =>
    obtain ⟨column, resolved, rest⟩ := Attempt.bind_eq_ok.1 compiled
    obtain ⟨-, -, rest⟩ := Attempt.bind_eq_ok.1 rest
    obtain ⟨nested, inner, rest⟩ := Attempt.bind_eq_ok.1 rest
    cases Attempt.pure_eq_ok.1 rest
    obtain ⟨own, below⟩ := List.forall_mem_append.1 plain
    exact single (lead_queryTest (tables.resolve own resolved) operator.tail
      (query.exists_marks_nested known below inner)) rfl
  | raw sql =>
    cases compiled
    exact ⟨leaf valuation sql, rfl, Plain.operand (plain (.raw sql) List.mem_cons_self)⟩

/-- A node reads back with the truth of its children under its connective: without parentheses
when there is one child, and as a constant when there is none. -/
theorem operand_combine (connective : Connective) {pieces : List Fragment} {truths : List Truth}
    (operands : List.Forall₂ (Operand valuation) (pieces.map Fragment.sql) truths) :
    Operand valuation (connective.combine pieces).sql (connective.truth truths) := by
  match pieces, operands with
  | [], .nil =>
    cases connective
    · exact operand_alwaysTrue
    · exact operand_alwaysFalse
  | [only], .cons (b := truth) first .nil =>
    have same : connective.truth [truth] = truth := by
      cases connective
      · exact Truth.all_singleton truth
      · exact Truth.any_singleton truth
    rwa [same]
  | first :: second :: rest, operands =>
    have group := Operand.enclosed connective operands nofun
    simpa only [Connective.combine, parenthesized, Fragment.sql_append, Fragment.sql_text,
      Fragment.sql_join] using group

namespace Predicate

mutual

/-- The text of a tree reads back as an operand with the truth of the tree. -/
theorem operand (known : dialect ∈ Dialect.standard) {scope : Scope} {fragment : Fragment}
    (tables : scope.Given GivenText.Plain) : (predicate : Predicate) →
    (∀ text ∈ predicate.givenTexts, text.Plain) →
    predicate.compile dialect scope = .ok fragment →
    ∃ truth, predicate.truth valuation dialect scope = .ok truth ∧
      Operand valuation fragment.sql truth
  | .leaf settings test, plain, compiled => by
      obtain ⟨own, below⟩ := List.forall_mem_append.1 plain
      exact Test.operand known (tables.enter own) below compiled
  | .node settings connective children, plain, compiled => by
      obtain ⟨pieces, ran, rest⟩ := Attempt.bind_eq_ok.1 compiled
      cases Attempt.pure_eq_ok.1 rest
      obtain ⟨own, below⟩ := List.forall_mem_append.1 plain
      obtain ⟨truths, meant, operands⟩ := operands known (tables.enter own) children below ran
      have same : truth valuation dialect scope (.node settings connective children) =
          .ok (connective.truth truths) := by
        rw [truth, meant]
        rfl
      exact ⟨connective.truth truths, same, operand_combine connective operands⟩

theorem operands (known : dialect ∈ Dialect.standard) {scope : Scope} {pieces : List Fragment}
    (tables : scope.Given GivenText.Plain) : (children : List Predicate) →
    (∀ text ∈ givenTextsOfAll children, text.Plain) →
    compileAll dialect scope children = .ok pieces →
    ∃ truths, Predicate.truths valuation dialect scope children = .ok truths ∧
      List.Forall₂ (Operand valuation) (pieces.map Fragment.sql) truths
  | [], _, compiled => by
      cases compiled
      exact ⟨[], rfl, .nil⟩
  | child :: children, plain, compiled => by
      obtain ⟨first, ran, rest⟩ := Attempt.bind_eq_ok.1 compiled
      obtain ⟨others, ranOthers, done⟩ := Attempt.bind_eq_ok.1 rest
      cases Attempt.pure_eq_ok.1 done
      obtain ⟨own, below⟩ := List.forall_mem_append.1 plain
      obtain ⟨truth, meant, operand⟩ := child.operand known tables own ran
      obtain ⟨truths, meantOthers, operands⟩ := operands known tables children below ranOthers
      exact ⟨truth :: truths, by rw [Predicate.truths, meant, meantOthers]; rfl,
        .cons operand operands⟩

end

end Predicate

end PreparedSql
