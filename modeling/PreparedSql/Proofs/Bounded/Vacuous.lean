import PreparedSql.Proofs.Bounded.Mutations
import PreparedSql.Proofs.Condition.Meaning

/-! When the condition of an UPDATE or DELETE asks for nothing. It has a test in it, or it would
have been refused; but a NOT IN over an empty list, and a node without children, are written as
constants. What they make of the condition is known without the truth of any other test. -/

namespace PreparedSql

open Condition

namespace Condition

/-- The blanks around a text are all that is trimmed. -/
theorem exists_trimBlanks (text : List Char) : ∃ front back,
    text = front ++ trimBlanks text ++ back ∧
      ∀ character ∈ front ++ back, character.isWhitespace = true := by
  let rest := text.dropWhile Char.isWhitespace
  have start : text = text.takeWhile Char.isWhitespace ++ rest :=
    List.takeWhile_append_dropWhile.symm
  have finish : rest = trimBlanks text ++ (rest.reverse.takeWhile Char.isWhitespace).reverse := by
    apply List.reverse_injective
    rw [List.reverse_append, List.reverse_reverse]
    unfold trimBlanks
    rw [List.reverse_reverse]
    exact List.takeWhile_append_dropWhile.symm
  refine ⟨text.takeWhile Char.isWhitespace, (rest.reverse.takeWhile Char.isWhitespace).reverse,
    ?_, ?_⟩
  · rw [List.append_assoc, ← finish]
    exact start
  · intro character member
    rcases List.mem_append.1 member with inside | inside
    · exact List.all_eq_true.1 List.all_takeWhile character inside
    · exact List.all_eq_true.1 List.all_takeWhile character (List.mem_reverse.1 inside)

/-- The text is the condition that always holds, up to blanks around it. -/
def IsConstant (text : List Char) : Prop :=
  String.ofList (trimBlanks text) = alwaysTrue

theorem IsConstant.exists_blanks {text : List Char} (constant : IsConstant text) : ∃ front back,
    text = front ++ ['1', '=', '1'] ++ back ∧
      ∀ character ∈ front ++ back, character.isWhitespace = true := by
  obtain ⟨front, back, whole, blank⟩ := exists_trimBlanks text
  have trimmed : trimBlanks text = ['1', '=', '1'] := by
    have letters := congrArg String.toList constant
    rwa [String.toList_ofList] at letters
  rw [trimmed] at whole
  exact ⟨front, back, whole, blank⟩

/-- Any other character than a blank makes a difference. -/
theorem not_isConstant_of_mem {text : List Char} {character : Char} (member : character ∈ text)
    (dark : character.isWhitespace = false) (foreign : character ∉ ['1', '=', '1']) :
    ¬ IsConstant text := by
  intro constant
  obtain ⟨front, back, rfl, blank⟩ := constant.exists_blanks
  have outside : character ∈ front ++ back := by
    simp only [List.mem_append] at member ⊢
    rcases member with (before | inside) | behind
    · exact Or.inl before
    · exact absurd inside foreign
    · exact Or.inr behind
  rw [blank character outside] at dark
  cases dark

/-- The constant has its equals sign right behind a digit, so one behind a blank is another
one. -/
theorem not_isConstant_equal (front back : List Char) :
    ¬ IsConstant (front ++ [' ', '=', ' '] ++ back) := by
  intro constant
  obtain ⟨before, behind, whole, blank⟩ := constant.exists_blanks
  have dark (blanks : List Char) (inside : ∀ character ∈ blanks, character ∈ before ++ behind) :
      '=' ∉ blanks := by
    intro member
    have white := blank '=' (inside '=' member)
    revert white
    decide
  have left : '=' ∉ before ++ ['1'] := by
    simpa using dark before fun _ => List.mem_append_left behind
  have right : '=' ∉ '1' :: behind := by
    simpa using dark behind fun _ => List.mem_append_right before
  have sides : front ++ [' '] ++ '=' :: (' ' :: back) =
      before ++ ['1'] ++ '=' :: ('1' :: behind) := by
    simpa using whole
  obtain ⟨same, -⟩ := (List.append_cons_inj_of_notMem left right).1 sides.symm
  obtain ⟨-, last⟩ := List.append_inj' same rfl
  revert last
  decide

end Condition

variable {dialect : Dialect} {scope : Scope}

/-- The dot of a qualified column is no part of a constant. -/
theorem QualifiedColumn.not_isConstant_append (column : QualifiedColumn) (back : String) :
    ¬ IsConstant (column.sql ++ back).toList := by
  have dot : '.' ∈ column.sql.toList := by simp [QualifiedColumn.sql]
  rw [String.toList_append]
  exact not_isConstant_of_mem (List.mem_append_left _ dot) (by decide) (by decide)

/-- Folding may turn a column and a placeholder into any text, but not what stands between. -/
theorem placeholderTest_not_isConstant (dialect : Dialect) (ignoreCase : Bool)
    (column : QualifiedColumn) (operator : Comparison) :
    ¬ IsConstant (placeholderTest dialect ignoreCase column operator).toList := by
  unfold placeholderTest
  split
  next =>
    split
    next folded _ =>
      rw [String.append_assoc, String.append_assoc]
      exact column.not_isConstant_append _
    next =>
      have letters : (dialect.foldCase column.sql ++ " " ++ operator.sql ++ " " ++
          dialect.foldCase "?").toList = (dialect.foldCase column.sql).toList ++
            (" " ++ operator.sql ++ " ").toList ++ (dialect.foldCase "?").toList := by
        simp only [String.toList_append, List.append_assoc]
      rw [letters]
      by_cases equal : operator = .equal
      · subst equal
        exact not_isConstant_equal _ _
      · have word : ∃ character ∈ operator.sql.toList,
            character.isWhitespace = false ∧ character ∉ ['1', '=', '1'] := by
          cases operator with
          | equal => exact absurd rfl equal
          | notEqual => exact ⟨'!', by decide⟩
          | less | lessOrEqual => exact ⟨'<', by decide⟩
          | greater | greaterOrEqual => exact ⟨'>', by decide⟩
          | like | notLike => exact ⟨'L', by decide⟩
        obtain ⟨character, member, dark, foreign⟩ := word
        refine not_isConstant_of_mem ?_ dark foreign
        simp [member]
  next =>
    rw [String.append_assoc, String.append_assoc]
    exact column.not_isConstant_append _

/-- Nothing to be compared with: the test holds for every row. -/
def Test.holdsBare : Test → Bool
  | .inList _ .notIn [] => true
  | _ => false

/-- The connective over what is known to hold. -/
def Connective.holds : Connective → List Bool → Bool
  | .and => (·.all id)
  | .or => (·.any id)

namespace Predicate

mutual

/-- The predicate holds although no comparison does. -/
def holdsBare : Predicate → Bool
  | .leaf _ test => test.holdsBare
  | .node _ connective children => connective.holds (allHoldBare children)

def allHoldBare : List Predicate → List Bool
  | [] => []
  | child :: children => child.holdsBare :: allHoldBare children

end

end Predicate

/-- Only a test against an empty list is written as a constant. -/
theorem Test.not_isConstant {test : Test} {fragment : Fragment} (written : ∀ sql, test ≠ .raw sql)
    (filled : ∀ column operator, test ≠ .inList column operator [])
    (compiled : test.compile dialect scope = .ok fragment) : ¬ IsConstant fragment.sql.toList := by
  cases test with
  | compareValue spec operator value =>
    obtain ⟨column, -, rest⟩ := Attempt.bind_eq_ok.1 compiled
    cases value with
    | none => cases operator <;> cases rest <;> exact column.not_isConstant_append _
    | some datum =>
      cases rest
      exact placeholderTest_not_isConstant dialect scope.ignoreCase column operator
  | compareRaw spec operator sql =>
    obtain ⟨column, -, rest⟩ := Attempt.bind_eq_ok.1 compiled
    cases Attempt.pure_eq_ok.1 rest
    simp only [rawTest, Fragment.sql_text, String.append_assoc]
    exact column.not_isConstant_append _
  | compareQuery spec operator query =>
    obtain ⟨column, -, rest⟩ := Attempt.bind_eq_ok.1 compiled
    obtain ⟨nested, -, rest⟩ := Attempt.bind_eq_ok.1 rest
    cases Attempt.pure_eq_ok.1 rest
    simp only [queryTest, Fragment.sql_append, Fragment.sql_text, String.append_assoc]
    exact column.not_isConstant_append _
  | inList spec operator values =>
    obtain ⟨column, -, rest⟩ := Attempt.bind_eq_ok.1 compiled
    cases values with
    | nil => exact absurd rfl (filled spec operator)
    | cons value values =>
      simp only [listTest] at rest
      split at rest
      next => cases rest
      next =>
        cases rest
        simp only [String.append_assoc]
        exact column.not_isConstant_append _
  | inQuery spec operator query =>
    obtain ⟨column, -, rest⟩ := Attempt.bind_eq_ok.1 compiled
    obtain ⟨-, -, rest⟩ := Attempt.bind_eq_ok.1 rest
    obtain ⟨nested, -, rest⟩ := Attempt.bind_eq_ok.1 rest
    cases Attempt.pure_eq_ok.1 rest
    simp only [queryTest, Fragment.sql_append, Fragment.sql_text, String.append_assoc]
    exact column.not_isConstant_append _
  | raw sql => exact absurd rfl (written sql)

namespace Test

variable {test : Test} {fragment : Fragment}

/-- A test that compiles has a truth, and the one that holds bare is true whatever else is. -/
theorem truth_of_compile (valuation : Valuation)
    (compiled : test.compile dialect scope = .ok fragment) :
    ∃ truth, test.truth valuation dialect scope = .ok truth ∧
      (test.holdsBare = true → truth = .yes) := by
  unfold Test.truth
  split
  next => exact ⟨.no, rfl, nofun⟩
  next => exact ⟨.yes, rfl, fun _ => rfl⟩
  next empty full =>
    refine ⟨leaf valuation fragment.sql, by rw [compiled]; rfl, fun bare => ?_⟩
    unfold holdsBare at bare
    split at bare
    next column => exact absurd rfl (full column)
    next => cases bare

end Test

/-- Of all tests only the constants hold. -/
def bareValuation : Valuation where
  truth text := if text = alwaysTrue then .yes else .no
  always := rfl
  never := rfl

theorem leaf_bareValuation {sql : String} (other : ¬ IsConstant sql.toList) :
    leaf bareValuation sql = .no := by
  unfold IsConstant at other
  unfold leaf leafTruth bareValuation
  dsimp only
  rw [if_neg other]

def Truth.ofBool : Bool → Truth
  | true => .yes
  | false => .no

/-- With nothing but the constants to hold, a test that is no verbatim text is as true as it is
bare. -/
theorem Test.truth_bareValuation {test : Test} {fragment : Fragment}
    (written : ∀ sql, test ≠ .raw sql) (compiled : test.compile dialect scope = .ok fragment) :
    test.truth bareValuation dialect scope = .ok (Truth.ofBool test.holdsBare) := by
  unfold Test.truth
  split
  next => rfl
  next => rfl
  next empty full =>
    have filled : ∀ column operator, test ≠ .inList column operator [] := by
      rintro column (_ | _) rfl
      · exact empty column rfl
      · exact full column rfl
    have bare : test.holdsBare = false := by
      unfold holdsBare
      split
      next column => exact absurd rfl (full column)
      next => rfl
    have other : leaf bareValuation fragment.sql = .no :=
      leaf_bareValuation (Test.not_isConstant written filled compiled)
    rw [compiled, bare]
    exact congrArg Except.ok other

namespace Connective

theorem truth_ofBool (connective : Connective) (bares : List Bool) :
    connective.truth (bares.map Truth.ofBool) = Truth.ofBool (connective.holds bares) := by
  induction bares with
  | nil => cases connective <;> rfl
  | cons bare bares ih =>
    cases connective with
    | and =>
      have rest : Truth.all (bares.map Truth.ofBool) = Truth.ofBool (bares.all id) := ih
      calc
        Truth.all ((bare :: bares).map Truth.ofBool) =
            (Truth.ofBool bare).and (Truth.all (bares.map Truth.ofBool)) := rfl
        _ = (Truth.ofBool bare).and (Truth.ofBool (bares.all id)) := by rw [rest]
        _ = Truth.ofBool (bare && bares.all id) := by
            cases bare <;> cases bares.all id <;> rfl
    | or =>
      have rest : Truth.any (bares.map Truth.ofBool) = Truth.ofBool (bares.any id) := ih
      calc
        Truth.any ((bare :: bares).map Truth.ofBool) =
            (Truth.ofBool bare).or (Truth.any (bares.map Truth.ofBool)) := rfl
        _ = (Truth.ofBool bare).or (Truth.ofBool (bares.any id)) := by rw [rest]
        _ = Truth.ofBool (bare || bares.any id) := by
            cases bare <;> cases bares.any id <;> rfl

/-- What is known to hold makes a node hold, whatever is not known. -/
theorem truth_eq_yes (connective : Connective) {bares : List Bool} {truths : List Truth}
    (each : List.Forall₂ (fun bare truth => bare = true → truth = .yes) bares truths)
    (holds : connective.holds bares = true) : connective.truth truths = .yes := by
  induction each with
  | nil =>
    cases connective with
    | and => rfl
    | or => cases holds
  | @cons bare truth bares truths here _ ih =>
    cases connective with
    | and =>
      obtain ⟨first, rest⟩ := Bool.and_eq_true_iff.1 holds
      have others : Truth.all truths = .yes := ih rest
      show truth.and (Truth.all truths) = .yes
      rw [here first, others]
      rfl
    | or =>
      rcases Bool.or_eq_true_iff.1 holds with first | rest
      · show truth.or (Truth.any truths) = .yes
        rw [here first]
        rfl
      · have others : Truth.any truths = .yes := ih rest
        show truth.or (Truth.any truths) = .yes
        rw [others]
        cases truth <;> rfl

end Connective

namespace Predicate

mutual

/-- A predicate that compiles has a truth under every valuation, and one that holds bare is true
under all of them. -/
theorem truth_of_compile (valuation : Valuation) {scope : Scope} {fragment : Fragment} :
    (predicate : Predicate) → predicate.compile dialect scope = .ok fragment →
    ∃ truth, predicate.truth valuation dialect scope = .ok truth ∧
      (predicate.holdsBare = true → truth = .yes)
  | .leaf _ _, compiled => Test.truth_of_compile valuation compiled
  | .node settings connective children, compiled => by
      obtain ⟨pieces, ran, -⟩ := Attempt.bind_eq_ok.1 compiled
      obtain ⟨truths, meant, each⟩ := truths_of_compile valuation children ran
      refine ⟨connective.truth truths, ?_, connective.truth_eq_yes each⟩
      rw [truth, meant]
      rfl

theorem truths_of_compile (valuation : Valuation) {scope : Scope} {pieces : List Fragment} :
    (children : List Predicate) → compileAll dialect scope children = .ok pieces →
    ∃ truths, Predicate.truths valuation dialect scope children = .ok truths ∧
      List.Forall₂ (fun bare truth => bare = true → truth = .yes) (allHoldBare children) truths
  | [], _ => ⟨[], rfl, .nil⟩
  | child :: children, compiled => by
      obtain ⟨first, ran, rest⟩ := Attempt.bind_eq_ok.1 compiled
      obtain ⟨others, ranOthers, -⟩ := Attempt.bind_eq_ok.1 rest
      obtain ⟨truth, meant, here⟩ := child.truth_of_compile valuation ran
      obtain ⟨truths, meantOthers, each⟩ := truths_of_compile valuation children ranOthers
      refine ⟨truth :: truths, ?_, .cons here each⟩
      rw [Predicate.truths, meant, meantOthers]
      rfl

end

mutual

/-- With nothing but the constants to hold, a predicate is as true as it is bare. -/
theorem truth_bareValuation {scope : Scope} {fragment : Fragment} : (predicate : Predicate) →
    (∀ sql, Test.raw sql ∉ predicate.tests) → predicate.compile dialect scope = .ok fragment →
    predicate.truth bareValuation dialect scope = .ok (Truth.ofBool predicate.holdsBare)
  | .leaf settings test, written, compiled =>
    Test.truth_bareValuation (fun sql same => written sql (by simp [tests, same])) compiled
  | .node settings connective children, written, compiled => by
      obtain ⟨pieces, ran, -⟩ := Attempt.bind_eq_ok.1 compiled
      rw [truth, truths_bareValuation children written ran, holdsBare, ← connective.truth_ofBool]
      rfl

theorem truths_bareValuation {scope : Scope} {pieces : List Fragment} :
    (children : List Predicate) → (∀ sql, Test.raw sql ∉ testsOfAll children) →
    compileAll dialect scope children = .ok pieces →
    Predicate.truths bareValuation dialect scope children =
      .ok ((allHoldBare children).map Truth.ofBool)
  | [], _, _ => rfl
  | child :: children, written, compiled => by
      obtain ⟨first, ran, rest⟩ := Attempt.bind_eq_ok.1 compiled
      obtain ⟨others, ranOthers, -⟩ := Attempt.bind_eq_ok.1 rest
      have here := child.truth_bareValuation
        (fun sql member => written sql (List.mem_append_left _ member)) ran
      have later := truths_bareValuation children
        (fun sql member => written sql (List.mem_append_right _ member)) ranOthers
      rw [Predicate.truths, here, later]
      rfl

end

end Predicate

namespace Query

variable {query : Query} {statement : Statement} {table : TableRef}

/-- A planned UPDATE or DELETE has the condition of the query behind its last keyword. -/
theorem where_of_finishWhere {kind : StatementKind} {mutation : Mutation} {front : Fragment}
    (guards : Guards mutation kind)
    (finished : finishWhere query dialect kind table front = .ok statement) :
    ∃ condition, query.condition.compile dialect (query.mutationScope table) = .ok condition ∧
      statement.sql = front.sql ++ " WHERE " ++ condition.sql := by
  have test : ∃ predicate ∈ query.filters, predicate.tests ≠ [] := by
    by_contra hollow
    have none : ∀ predicate ∈ query.filters, predicate.tests = [] := by
      simpa using hollow
    rw [finishWhere_of_hollow guards none] at finished
    cases finished
  rw [finishWhere_of_test test] at finished
  obtain ⟨condition, compiled, rfl⟩ := Attempt.map_eq_ok.1 finished
  exact ⟨condition, compiled, rfl⟩

theorem mutationTarget_primary {mutation : Mutation}
    (target : query.mutationTarget mutation = .ok table) : table = query.primary := by
  unfold primary
  rw [mutationTarget_eq target]
  rfl

theorem exists_where_of_plan (planned : query.deletePlan dialect = .ok statement ∨
      ∃ assignments, query.updatePlan assignments dialect = .ok statement) :
    ∃ front condition,
      query.condition.compile dialect (query.mutationScope query.primary) = .ok condition ∧
        statement.sql = front ++ " WHERE " ++ condition.sql := by
  rcases planned with deleted | ⟨assignments, updated⟩
  · obtain ⟨table, target, -⟩ := Attempt.bind_eq_ok.1 deleted
    rw [deletePlan_eq_finishWhere target] at deleted
    obtain ⟨condition, compiled, text⟩ := where_of_finishWhere (Or.inr ⟨rfl, rfl⟩) deleted
    exact ⟨_, condition, mutationTarget_primary target ▸ compiled, text⟩
  · obtain ⟨table, target, rest⟩ := Attempt.bind_eq_ok.1 updated
    obtain ⟨assigned, resolved, -⟩ := Attempt.bind_eq_ok.1 rest
    obtain ⟨present, found⟩ := resolveAssignments_eq_ok_iff.1 resolved
    rw [updatePlan_eq_finishWhere target present found] at updated
    obtain ⟨condition, compiled, text⟩ := where_of_finishWhere (Or.inl ⟨rfl, rfl⟩) updated
    exact ⟨_, condition, mutationTarget_primary target ▸ compiled, text⟩

/-- The WHERE text of a mutation reads back with the meaning of the filters. -/
theorem read_mutationCondition {valuation : Valuation} (known : dialect ∈ Dialect.standard)
    (plain : ∀ text ∈ query.givenTexts, text.Plain) {condition : Fragment}
    (compiled : query.condition.compile dialect (query.mutationScope query.primary) =
      .ok condition) {truth : Truth}
    (meant : query.condition.truth valuation dialect (query.mutationScope query.primary) =
      .ok truth) : read valuation condition.sql = some truth := by
  have given := query.given_iff.2 plain
  have scope : (query.mutationScope query.primary).Given GivenText.Plain := by
    intro ref member
    simp only [Query.mutationScope, List.singleton_append, List.mem_cons, List.not_mem_nil,
      Option.toList_some, or_false, or_self] at member
    subst member
    exact given.primary
  have reads : ∃ truth,
      query.condition.truth valuation dialect (query.mutationScope query.primary) = .ok truth ∧
        Operand valuation condition.sql truth :=
    query.condition.operand known scope given.filters compiled
  obtain ⟨truth', meant', operand⟩ := reads
  cases meant.symm.trans meant'
  have whole := read_conjunction (.cons operand .nil) (List.cons_ne_nil _ _)
  rwa [String.intercalate_singleton, Truth.all_singleton] at whole

theorem read_of_holdsBare (known : dialect ∈ Dialect.standard)
    (plain : ∀ text ∈ query.givenTexts, text.Plain) (bare : query.condition.holdsBare = true)
    {condition : Fragment}
    (compiled : query.condition.compile dialect (query.mutationScope query.primary) =
      .ok condition) (valuation : Valuation) : read valuation condition.sql = some .yes := by
  obtain ⟨truth, meant, holds⟩ := query.condition.truth_of_compile valuation compiled
  cases holds bare
  exact query.read_mutationCondition known plain compiled meant

end Query

/-- The condition that a planned UPDATE or DELETE is bounded by can fail, unless it holds bare:
by empty NOT IN lists, and by nodes without children, alone. Then it holds for every row. -/
theorem condition_fails_iff {query : Query} {dialect : Dialect} {statement : Statement}
    (written : ∀ sql, Test.raw sql ∉ query.condition.tests)
    (planned : query.deletePlan dialect = .ok statement ∨
      ∃ assignments, query.updatePlan assignments dialect = .ok statement) :
    ∃ front condition, statement.sql = front ++ " WHERE " ++ condition.sql ∧
      query.condition.compile dialect (query.mutationScope query.primary) = .ok condition ∧
      (∀ valuation, ∃ truth,
        query.condition.truth valuation dialect (query.mutationScope query.primary) = .ok truth ∧
          (dialect ∈ Dialect.standard → (∀ text ∈ query.givenTexts, text.Plain) →
            read valuation condition.sql = some truth) ∧
          (query.condition.holdsBare = true → truth = .yes)) ∧
      ((∃ valuation, query.condition.truth valuation dialect
          (query.mutationScope query.primary) = .ok .no) ↔
        query.condition.holdsBare = false) := by
  obtain ⟨front, condition, compiled, text⟩ := Query.exists_where_of_plan planned
  refine ⟨front, condition, text, compiled, fun valuation => ?_, ?_, ?_⟩
  · obtain ⟨truth, meant, bare⟩ := query.condition.truth_of_compile valuation compiled
    exact ⟨truth, meant, fun known plain => query.read_mutationCondition known plain compiled meant,
      bare⟩
  · rintro ⟨valuation, fails⟩
    by_contra bare
    obtain ⟨truth, meant, holds⟩ := query.condition.truth_of_compile valuation compiled
    cases holds (by simpa using bare)
    cases meant.symm.trans fails
  · intro bare
    refine ⟨bareValuation, ?_⟩
    rw [query.condition.truth_bareValuation written compiled, bare]
    rfl

def drafts : Query :=
  { schema := draftsSchema, source := .table draftsTable }

/-- The drafts by one comparison, beside a NOT IN over nothing. -/
def boundedDrafts : Query :=
  drafts.filter (.any [.all [.inList (.named "id") .notIn ([] : List Int64),
    .compare (.named "id") .equal (7 : Int64)]])

theorem condition_fails_iff_drafts :
    (∀ sql, Test.raw sql ∉ boundedDrafts.condition.tests) ∧
      ∃ statement, boundedDrafts.deletePlan .postgres = .ok statement ∧
        statement.sql = "DELETE FROM drafts WHERE (1=1 AND drafts.id = ?)" ∧
        ∃ valuation, boundedDrafts.condition.truth valuation .postgres
          (boundedDrafts.mutationScope boundedDrafts.primary) = .ok .no := by
  have written : ∀ sql, Test.raw sql ∉ boundedDrafts.condition.tests := by
    rintro sql (_ | ⟨_, _ | ⟨_, ⟨⟩⟩⟩)
  obtain ⟨-, -, -, -, -, fails⟩ :=
    @condition_fails_iff boundedDrafts .postgres _ written (Or.inl rfl)
  exact ⟨written, _, rfl, by decide +kernel, fails.2 rfl⟩

/-- A NOT IN over nothing, and a comparison or a node without children. -/
def vacuousFilters : List Predicate :=
  [.inList (.named "id") .notIn ([] : List Int64),
   .any [.compare (.named "id") .equal (7 : Int64), .all []]]

/-- Under either the DELETE is planned, with a condition that holds for every row. -/
theorem vacuous_conditions_drafts :
    Query.ofTable draftsSchema "drafts" = .ok drafts ∧
      ∀ filter ∈ vacuousFilters, (∀ sql, Test.raw sql ∉ (drafts.filter filter).condition.tests) ∧
        ∃ condition,
          ((drafts.filter filter).deletePlan .postgres).map Statement.sql =
            .ok ("DELETE FROM drafts WHERE " ++ condition) ∧
          ∀ valuation, read valuation condition = some .yes := by
  have known : Dialect.postgres ∈ Dialect.standard := Dialect.mem_standard.2 (by simp)
  have plain : ∀ filter ∈ vacuousFilters, ∀ text ∈ (drafts.filter filter).givenTexts,
      text.Plain := by decide +kernel
  refine ⟨rfl, fun filter member => ?_⟩
  have here := plain filter member
  rcases List.mem_cons.1 member with rfl | member
  · refine ⟨?_, "1=1", by decide +kernel, ?_⟩
    · rintro sql (_ | ⟨_, ⟨⟩⟩)
    · exact Query.read_of_holdsBare known here rfl rfl
  · cases List.mem_singleton.1 member
    refine ⟨?_, "(drafts.id = ? OR 1=1)", by decide +kernel, ?_⟩
    · rintro sql (_ | ⟨_, ⟨⟩⟩)
    · exact Query.read_of_holdsBare known here rfl rfl

end PreparedSql
