import PreparedSql.Proofs.Placeholder.Scan
import PreparedSql.Proofs.Template.Closed

/-! Placeholders and parameters stand in step. When names, aliases and verbatim SQL keep their
quotes closed and bring no `?` along, and the dialect writes a folded expression exactly once,
the placeholders of every statement are those of its values, in the order of the parameters. -/

namespace PreparedSql

/-- Quotes are closed, and no `?` stands outside of them. -/
def Quiet (sql : String) : Prop :=
  endsQuoted false sql.toList = false ∧ placeholderCount false sql.toList = 0

instance (sql : String) : Decidable (Quiet sql) :=
  inferInstanceAs (Decidable (_ ∧ _))

/-- The argument is used exactly once, and what is added has no quote and no `?`. -/
def Wraps (around : String → String) : Prop :=
  ∃ front back : String, Avoids ['\'', '?'] front ∧ Avoids ['\'', '?'] back ∧
    ∀ sql, around sql = front ++ sql ++ back

/-- A dialect that leaves the placeholders alone. -/
structure Dialect.Transparent (dialect : Dialect) : Prop where
  foldCase : Wraps dialect.foldCase
  foldOrder : Wraps dialect.foldOrder
  foldedOperator : ∀ operator folded, dialect.foldedOperator operator = some folded →
    Avoids ['\'', '?'] folded
  limitClause : ∀ limit offset clause, dialect.limitClause limit offset = .ok clause →
    Avoids ['\'', '?'] clause

theorem scan_of_no_mark {content : List Char} (quoted : Bool)
    (absent : ∀ character ∈ content, character ∉ ['\'', '?']) :
    endsQuoted quoted content = quoted ∧ placeholderCount quoted content = 0 := by
  induction content with
  | nil => exact ⟨rfl, rfl⟩
  | cons character rest ih =>
    rw [List.forall_mem_cons] at absent
    have later := ih absent.2
    have noQuote : character ≠ '\'' := fun same => absent.1 (by simp [same])
    have noMark : character ≠ '?' := fun same => absent.1 (by simp [same])
    simpa only [endsQuoted, placeholderCount, noQuote, noMark, if_false, false_and] using later

namespace Quiet

theorem of_no_mark {sql : String} (absent : Avoids ['\'', '?'] sql) : Quiet sql :=
  scan_of_no_mark false absent

theorem append {first second : String} (front : Quiet first) (back : Quiet second) :
    Quiet (first ++ second) := by
  unfold Quiet at *
  rw [String.toList_append, endsQuoted_append, placeholderCount_append, front.1, front.2]
  exact ⟨back.1, by rw [back.2]⟩

theorem wrap {around : String → String} (wraps : Wraps around) {sql : String}
    (quiet : Quiet sql) : Quiet (around sql) := by
  obtain ⟨front, back, opening, closing, same⟩ := wraps
  rw [same]
  exact ((of_no_mark opening).append quiet).append (of_no_mark closing)

end Quiet

/-- Verbatim text is quiet, and a value's placeholder is the only one of its piece. -/
def Piece.Quiet : Piece → Prop
  | .text sql => PreparedSql.Quiet sql
  | .value around _ _ => Wraps around

namespace Template

def Quiet (template : Template) : Prop :=
  ∀ piece ∈ template, piece.Quiet

theorem quiet_text {sql : String} : Quiet (text sql) ↔ PreparedSql.Quiet sql :=
  List.forall_mem_singleton

/-- Compiling for a transparent dialect writes quiet text around the values. -/
theorem quiet_closed {dialect : Dialect} (transparent : dialect.Transparent) :
    Closed dialect Quiet where
  nil := by simp [Quiet]
  append front back := List.forall_mem_append.2 ⟨front, back⟩
  parenthesized inner := List.forall_mem_append.2 ⟨List.forall_mem_append.2
    ⟨quiet_text.2 (by decide), inner⟩, quiet_text.2 (by decide)⟩
  glue front back := quiet_text.2 ((quiet_text.1 front).append (quiet_text.1 back))
  enclosed inner := quiet_text.2
    ((PreparedSql.Quiet.append (by decide) (quiet_text.1 inner)).append (by decide))
  word harmless := quiet_text.2 (.of_no_mark (harmless.mono (by decide)))
  foldCase inner := quiet_text.2 ((quiet_text.1 inner).wrap transparent.foldCase)
  foldOrder inner := quiet_text.2 ((quiet_text.1 inner).wrap transparent.foldOrder)
  foldedOperator same := quiet_text.2 (.of_no_mark (transparent.foldedOperator _ _ same))
  limitClause same := quiet_text.2 (.of_no_mark (transparent.limitClause _ _ _ same))
  value _ _ := List.forall_mem_singleton.2 ⟨"", "", by decide, by decide, fun sql => by simp⟩
  foldedValue _ _ := List.forall_mem_singleton.2 transparent.foldCase

end Template

/-- The placeholder of a value, a `?` outside of quotes, behind whatever is written in front. -/
theorem scan_mark {front : List Char}
    (absent : ∀ character ∈ front, character ∉ ['\'', '?']) (back : List Char) :
    endsQuoted false (front ++ '?' :: back) = endsQuoted false back ∧
      placeholderCount false (front ++ '?' :: back) = placeholderCount false back + 1 := by
  have before := scan_of_no_mark false absent
  rw [endsQuoted_append, placeholderCount_append, before.1, before.2]
  simp [endsQuoted, placeholderCount]

theorem fill_mark {front back : List Char}
    (absent : ∀ character ∈ front ++ back, character ∉ ['\'', '?']) (bind : Bind) :
    fillPlaceholders false (front ++ '?' :: back) [bind] =
      front ++ bind.datum.literalChars ++ back := by
  rw [List.forall_mem_append] at absent
  have before := scan_of_no_mark false absent.1
  have rest : fillPlaceholders false ('?' :: back) [bind] = bind.datum.literalChars ++ back := by
    simp [fillPlaceholders, fillPlaceholders_of_none (scan_of_no_mark false absent.2).2]
  have whole := fillPlaceholders_append false front ('?' :: back) [] [bind] before.2.symm
  rw [List.nil_append, before.1, rest, fillPlaceholders_of_none before.2] at whole
  rw [whole, List.append_assoc]

namespace Piece

/-- Scanning the text of one piece ends outside of quotes, meets a placeholder for its value and
fills in the value's literal. -/
theorem Quiet.scan {piece : Piece} (quiet : piece.Quiet) :
    endsQuoted false (piece.sql fun _ => "?").toList = false ∧
      placeholderCount false (piece.sql fun _ => "?").toList = piece.bind?.toList.length ∧
      fillPlaceholders false (piece.sql fun _ => "?").toList piece.bind?.toList =
        (piece.sql fun bind => bind.datum.literal).toList := by
  cases piece with
  | text sql => exact ⟨quiet.1, quiet.2, fillPlaceholders_of_none quiet.2 []⟩
  | value around column datum =>
    obtain ⟨front, back, opening, closing, same⟩ := quiet
    have written (inner : String) :
        (around inner).toList = front.toList ++ (inner.toList ++ back.toList) := by
      rw [same, String.toList_append, String.toList_append, List.append_assoc]
    have marked : (around "?").toList = front.toList ++ '?' :: back.toList := written "?"
    have ended := scan_of_no_mark false closing
    have scanned := scan_mark opening back.toList
    have filled := fun bind => fill_mark (List.forall_mem_append.2 ⟨opening, closing⟩) bind
    simp only [sql, bind?, Option.toList_some, List.length_singleton, marked, scanned, ended,
      filled, written, Datum.literal, String.toList_ofList, List.append_assoc, Nat.zero_add,
      and_self]

end Piece

namespace Template

theorem sql_cons (form : Bind → String) (piece : Piece) (rest : Template) :
    sql form (piece :: rest) = piece.sql form ++ sql form rest := by
  simp only [sql, List.map_cons, String.join_cons]

theorem binds_cons (piece : Piece) (rest : Template) :
    binds (piece :: rest) = piece.bind?.toList ++ binds rest := by
  unfold binds
  rw [List.filterMap_cons]
  cases piece.bind? <;> rfl

/-- Scanning the whole text: every placeholder is that of a value, in the order of the
parameters, and filling them in gives the text with the literals in place. -/
theorem Quiet.scan {template : Template} (quiet : template.Quiet) :
    endsQuoted false template.fragment.sql.toList = false ∧
      placeholderCount false template.fragment.sql.toList = template.binds.length ∧
      fillPlaceholders false template.fragment.sql.toList template.binds =
        template.inlined.toList := by
  induction template with
  | nil => exact ⟨rfl, rfl, rfl⟩
  | cons piece rest ih =>
    obtain ⟨own, others⟩ := List.forall_mem_cons.1 quiet
    obtain ⟨closed, counted, filled⟩ := own.scan
    obtain ⟨restClosed, restCounted, restFilled⟩ := ih others
    simp only [fragment, inlined, sql_cons, binds_cons, String.toList_append] at *
    rw [endsQuoted_append, placeholderCount_append, fillPlaceholders_append _ _ _ _ _ counted.symm,
      closed, counted, filled, restClosed, restCounted, restFilled, List.length_append]
    exact ⟨rfl, rfl, rfl⟩

/-- A statement whose parameters are those of its placeholders. -/
structure Aligned (template : Template) (sql : String) (binds : List Bind) : Prop where
  /-- There are as many placeholders as parameters. -/
  count : placeholderCount false sql.toList = binds.length
  /-- No parameter is NULL. -/
  present : ∀ bind ∈ binds, Value.isNull (some bind.datum) = false
  /-- The parameters are the values of the template, each with the type of its column. -/
  parameters : binds = template.binds
  /-- A value's own `?`, inside of what the dialect writes around it, is outside of quotes and
  has as many placeholders in front of it as the value's parameter has parameters. -/
  sites : ∀ (before : Template) (around : String → String) (column : QualifiedColumn)
    (datum : Datum) (after : Template), template = before ++ .value around column datum :: after →
    ∃ front back : String, (∀ inner, around inner = front ++ inner ++ back) ∧
      sql = (before.fragment.sql ++ front) ++ "?" ++ (back ++ after.fragment.sql) ∧
      endsQuoted false (before.fragment.sql ++ front).toList = false ∧
      placeholderCount false (before.fragment.sql ++ front).toList = before.binds.length ∧
      binds[before.binds.length]? = some ⟨column.type, datum⟩
  /-- Filling the literals in gives the text of the reference compilation. -/
  interpolated : interpolate sql binds = template.inlined

theorem Quiet.sites {before after : Template} {around : String → String}
    {column : QualifiedColumn} {datum : Datum}
    (quiet : Quiet (before ++ .value around column datum :: after)) :
    ∃ front back : String, (∀ inner, around inner = front ++ inner ++ back) ∧
      (fragment (before ++ .value around column datum :: after)).sql =
        (before.fragment.sql ++ front) ++ "?" ++ (back ++ after.fragment.sql) ∧
      endsQuoted false (before.fragment.sql ++ front).toList = false ∧
      placeholderCount false (before.fragment.sql ++ front).toList = before.binds.length ∧
      (binds (before ++ .value around column datum :: after))[before.binds.length]? =
        some ⟨column.type, datum⟩ := by
  obtain ⟨earlier, rest⟩ := List.forall_mem_append.1 quiet
  obtain ⟨⟨front, back, absent, -, same⟩, -⟩ := List.forall_mem_cons.1 rest
  have opening := scan_of_no_mark false absent
  obtain ⟨closed, counted, -⟩ := Quiet.scan earlier
  refine ⟨front, back, same, ?_, ?_, ?_, ?_⟩
  · simp only [fragment, sql_append, sql_cons, Piece.sql, same, String.append_assoc]
  · rw [String.toList_append, endsQuoted_append, closed, opening.1]
  · rw [String.toList_append, placeholderCount_append, closed, counted, opening.2, Nat.add_zero]
  · rw [binds_append, binds_cons, List.getElem?_append_right (Nat.le_refl _), Nat.sub_self]
    rfl

theorem Quiet.aligned {template : Template} (quiet : template.Quiet) :
    template.Aligned template.fragment.sql template.fragment.binds where
  count := quiet.scan.2.1
  present := fun _ _ => rfl
  parameters := rfl
  sites := by
    rintro before around column datum after rfl
    exact quiet.sites
  interpolated := (congrArg String.ofList quiet.scan.2.2).trans String.ofList_toList

end Template

end PreparedSql
