import Mathlib.Data.List.Pairwise
import PreparedSql.Proofs.LogicalNames

/-! Qualified names, as they are written and as they are read. A column is written with the label
of its table in front; the text is cut at its first dot, and the table is looked up by the part
before it, in any case of letters. So what is written for a column leads back to it where labels
have no dot and are told apart by more than their case. -/

namespace PreparedSql

namespace Text

variable {first second third : String}

theorem cutChars_append {separator : Char} {before : List Char} (absent : separator ∉ before)
    (after : List Char) :
    cutChars separator (before ++ separator :: after) = some (before, after) := by
  induction before with
  | nil => simp [cutChars]
  | cons character before ih =>
    rw [List.mem_cons, not_or] at absent
    obtain ⟨different, rest⟩ := absent
    rw [List.cons_append, cutChars, if_neg (Ne.symm different), ih rest]
    rfl

/-- A text is cut in front of the part behind its first dot. -/
theorem cutFirst_append {qualifier : String} (absent : '.' ∉ qualifier.toList) (rest : String) :
    cutFirst '.' (qualifier ++ "." ++ rest) = some (qualifier, rest) := by
  have whole : (qualifier ++ "." ++ rest).toList = qualifier.toList ++ '.' :: rest.toList := by
    rw [String.toList_append, String.toList_append, List.append_assoc]
    rfl
  unfold cutFirst
  rw [whole, cutChars_append absent, Option.map_some]
  show some (String.ofList qualifier.toList, String.ofList rest.toList) = _
  rw [String.ofList_toList, String.ofList_toList]

theorem sameIgnoringCase_trans (front : sameIgnoringCase first second = true)
    (back : sameIgnoringCase second third = true) : sameIgnoringCase first third = true := by
  rw [sameIgnoringCase_iff] at front back ⊢
  exact front.trans back

/-- A dot has no other case, and nothing else has a dot as its lower case. -/
theorem toLower_eq_dot_iff {character : Char} : character.toLower = '.' ↔ character = '.' := by
  constructor
  · intro lowered
    unfold Char.toLower at lowered
    split at lowered
    next upper =>
      have low := UInt32.le_iff_toNat_le.1 upper.1
      have high := UInt32.le_iff_toNat_le.1 upper.2
      have same := congrArg (fun shown : Char => shown.val.toNat) lowered
      simp only [UInt32.toNat_add] at same
      have shift : ('a'.val - 'A'.val).toNat = 32 := rfl
      have capitals : 'A'.val.toNat = 65 ∧ 'Z'.val.toNat = 90 ∧ '.'.val.toNat = 46 := by decide
      omega
    next => exact lowered
  · rintro rfl
    rfl

theorem dot_mem_lowercase_iff (text : String) :
    '.' ∈ (lowercase text).toList ↔ '.' ∈ text.toList := by
  unfold lowercase
  rw [String.toList_ofList, List.mem_map]
  simp only [toLower_eq_dot_iff, exists_eq_right]

/-- Texts that agree but for their case have dots together. -/
theorem dot_mem_iff_of_same (same : sameIgnoringCase first second = true) :
    '.' ∈ first.toList ↔ '.' ∈ second.toList := by
  rw [← dot_mem_lowercase_iff, (sameIgnoringCase_iff first second).1 same, dot_mem_lowercase_iff]

end Text

/-- Another column has the SQL name of the column, in any case, or has it as its logical name. -/
def Column.SharesName (column other : Column) : Prop :=
  Text.sameIgnoringCase other.name column.name = true ∨ other.field = column.name

instance (column other : Column) : Decidable (column.SharesName other) :=
  inferInstanceAs (Decidable (_ ∨ _))

/-- A column is found by its SQL name when it is the only one that has this name. -/
theorem TableRef.column_of_unshared {ref : TableRef} {column : Column}
    (member : column ∈ ref.table.columns)
    (unshared : ∀ other ∈ ref.table.columns, other ≠ column → ¬ column.SharesName other) :
    ref.column column.name = .ok ⟨ref, column⟩ := by
  have answers : column.answersTo column.name = true :=
    Table.answersTo_iff.2 (Or.inr (Text.sameIgnoringCase_refl column.name))
  have first : ref.table.columns.find? (·.answersTo column.name) = some column := by
    cases search : ref.table.columns.find? (·.answersTo column.name) with
    | none => exact absurd answers (List.find?_eq_none.1 search column member)
    | some other =>
      obtain ⟨answered, -⟩ := List.find?_eq_some_iff_append.1 search
      have named := Table.answersTo_iff.1 answered
      by_contra different
      refine unshared other (List.mem_of_find?_eq_some search) ?_ named.symm
      rintro rfl
      exact different rfl
  rw [TableRef.column, Table.column_eq_ok_iff.2 first]
  rfl

namespace ColumnSpec

variable {sources : List TableRef} {ref : TableRef} {qualifier rest : String}

/-- Labels are told apart by more than the case of their letters. -/
def LabelsApart (sources : List TableRef) : Prop :=
  sources.Pairwise fun first second => Text.sameIgnoringCase first.label second.label = false

instance (sources : List TableRef) : Decidable (LabelsApart sources) :=
  inferInstanceAs (Decidable (List.Pairwise _ sources))

theorem resolve_of_qualified (undotted : '.' ∉ qualifier.toList) (table : Option TableRef)
    (sources : List TableRef) (rest : String) :
    (ColumnSpec.named (qualifier ++ "." ++ rest)).resolve table sources =
      (findSource qualifier table sources).bind fun source => source.column rest := by
  simp only [resolve, Text.cutFirst_append undotted]
  rfl

/-- A source is found by its label, in whatever case. The table in scope comes last. -/
theorem findSource_of_label (apart : LabelsApart sources) (member : ref ∈ sources)
    (labelled : Text.sameIgnoringCase qualifier ref.label = true) (table : Option TableRef) :
    findSource qualifier table sources = .ok ref := by
  obtain ⟨before, after, rfl⟩ := List.append_of_mem member
  have others := (List.pairwise_append.1 apart).2.2
  have first : (before ++ ref :: after ++ table.toList).find?
      (Text.sameIgnoringCase ·.label qualifier) = some ref := by
    rw [List.append_assoc, List.cons_append]
    refine List.find?_eq_some_iff_append.2 ⟨?_, before, after ++ table.toList, rfl, ?_⟩
    · rw [Text.sameIgnoringCase_comm]
      exact labelled
    · intro earlier inside
      have different := others earlier inside ref List.mem_cons_self
      rw [Bool.not_eq_true', Bool.eq_false_iff]
      intro same
      rw [Text.sameIgnoringCase_trans same labelled] at different
      cases different
  unfold findSource
  rw [first]

theorem findSource_eq_error_iff {table : Option TableRef} {reason : CompileError} :
    findSource qualifier table sources = .error reason ↔
      reason = .unknownTable qualifier ∧
        ∀ source ∈ sources ++ table.toList,
          Text.sameIgnoringCase source.label qualifier = false := by
  have absent : (sources ++ table.toList).find? (Text.sameIgnoringCase ·.label qualifier) = none ↔
      ∀ source ∈ sources ++ table.toList,
        Text.sameIgnoringCase source.label qualifier = false := by
    simp only [List.find?_eq_none, Bool.not_eq_true]
  rw [← absent]
  unfold findSource
  cases (sources ++ table.toList).find? (Text.sameIgnoringCase ·.label qualifier) with
  | some source => exact ⟨nofun, nofun⟩
  | none => exact ⟨fun failed => ⟨(Except.error.inj failed).symm, rfl⟩,
      fun ⟨same, _⟩ => congrArg Except.error same.symm⟩

end ColumnSpec

/-- What is written for a column of a source is resolved to this column on this source, with the
label in any case: where the labels of all sources are apart, that of the source has no dot, and no
other column of its table shares the name. The table in scope makes no difference. A qualified name
is refused as one of an unknown table just when its qualifier is the label of no source and not that
of the table in scope. -/
theorem qualified_names_lead_back (sources : List TableRef) (table : Option TableRef) :
    (ColumnSpec.LabelsApart sources → ∀ ref ∈ sources, '.' ∉ ref.label.toList →
      ∀ column ∈ ref.table.columns,
        (∀ other ∈ ref.table.columns, other ≠ column → ¬ column.SharesName other) →
        (ColumnSpec.named (QualifiedColumn.sql ⟨ref, column⟩)).resolve table sources =
            .ok ⟨ref, column⟩ ∧
          ∀ label, Text.sameIgnoringCase label ref.label = true →
            (ColumnSpec.named (label ++ "." ++ column.name)).resolve table sources =
              .ok ⟨ref, column⟩) ∧
    ∀ qualifier rest, '.' ∉ qualifier.toList →
      ((ColumnSpec.named (qualifier ++ "." ++ rest)).resolve table sources =
          .error (.unknownTable qualifier) ↔
        ∀ ref ∈ sources ++ table.toList, Text.sameIgnoringCase ref.label qualifier = false) := by
  constructor
  · intro apart ref member undotted column own unshared
    have back (label : String) (same : Text.sameIgnoringCase label ref.label = true) :
        (ColumnSpec.named (label ++ "." ++ column.name)).resolve table sources =
          .ok ⟨ref, column⟩ := by
      have undotted' : '.' ∉ label.toList := mt (Text.dot_mem_iff_of_same same).1 undotted
      rw [ColumnSpec.resolve_of_qualified undotted',
        ColumnSpec.findSource_of_label apart member same]
      exact TableRef.column_of_unshared own unshared
    exact ⟨back ref.label (Text.sameIgnoringCase_refl _), back⟩
  · intro qualifier rest undotted
    rw [ColumnSpec.resolve_of_qualified undotted]
    constructor
    · intro failed
      rcases Attempt.bind_eq_error.1 failed with unknown | ⟨source, -, missing⟩
      · exact (ColumnSpec.findSource_eq_error_iff.1 unknown).2
      · have known := (source.column_lookedUp rest).failed (.unknownTable qualifier)
        cases (known.1 missing).2
    · intro absent
      rw [ColumnSpec.findSource_eq_error_iff.2 ⟨rfl, absent⟩]
      rfl

/-- A task beside the task it waits for. The name of the second column has a dot, and that of the
third is the field of the first. -/
def waitingTasks : List TableRef :=
  let table : Table :=
    { name := "task"
      columns := [{ name := "code", field := "id", type := .integer },
        { name := "due.at", type := .date }, { name := "id", type := .integer }] }
  [{ table }, { table, aliasName := some "Blocker" }]

/-- A column of a shared name is not found again. -/
example : ∀ ref ∈ waitingTasks[0]?, ∀ id ∈ ref.table.columns[2]?,
    ((ColumnSpec.named (QualifiedColumn.sql ⟨ref, id⟩)).resolve none waitingTasks).map
      (·.column.name) = .ok "code" := by
  rintro ref ⟨⟩ id ⟨⟩
  rfl

/-- The column with the dot is found on the second task, whatever the letters of its label. The
name of the table is no label of this task. -/
theorem qualified_names_lead_back_waiting :
    (∀ blocker ∈ waitingTasks[1]?, ∀ due ∈ blocker.table.columns[1]?,
      (ColumnSpec.named (QualifiedColumn.sql ⟨blocker, due⟩)).resolve none waitingTasks =
          .ok ⟨blocker, due⟩ ∧
        (ColumnSpec.named "bLOCKER.due.at").resolve none waitingTasks = .ok ⟨blocker, due⟩) ∧
      (ColumnSpec.named "task.due.at").resolve none (waitingTasks.drop 1) =
        .error (.unknownTable "task") := by
  constructor
  · rintro blocker ⟨⟩ due ⟨⟩
    obtain ⟨written, recased⟩ := (qualified_names_lead_back waitingTasks none).1
      (by decide) _ (List.mem_of_getElem? (i := 1) rfl) (by decide)
      _ (List.mem_of_getElem? (i := 1) rfl) (by decide)
    exact ⟨written, recased "bLOCKER" (by decide)⟩
  · exact ((qualified_names_lead_back (waitingTasks.drop 1) none).2 "task" "due.at"
      (by decide)).2 (by decide)

end PreparedSql
