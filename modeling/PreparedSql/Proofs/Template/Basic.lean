import PreparedSql.Query.Compile
import PreparedSql.Value.Literal

/-! Statements as verbatim text with values in between. A template says where each value stands
and which column it belongs to; a fragment, with its text and its parameters apart, is one way
of writing a template down, and the text with the values in place is another. -/

namespace PreparedSql

inductive Piece where
  | text (sql : String)
  /-- A value for a column. What the dialect puts around its placeholder is `around`. -/
  | value (around : String → String) (column : QualifiedColumn) (datum : Datum)

namespace Piece

/-- The piece with its value, if it is one, in the given form. -/
def sql (form : Bind → String) : Piece → String
  | .text sql => sql
  | .value around column datum => around (form ⟨column.type, datum⟩)

/-- The parameter of a value: it has the declared type of the value's column. -/
def bind? : Piece → Option Bind
  | .text _ => none
  | .value _ column datum => some ⟨column.type, datum⟩

end Piece

abbrev Template := List Piece

namespace Template

def text (sql : String) : Template :=
  [.text sql]

/-- The text of the template with every value in the given form. -/
def sql (form : Bind → String) (template : Template) : String :=
  String.join (template.map (Piece.sql form))

def binds (template : Template) : List Bind :=
  template.filterMap Piece.bind?

/-- The text with a `?` for every value, and the parameters. -/
def fragment (template : Template) : Fragment :=
  { sql := template.sql fun _ => "?", binds := template.binds }

/-- The text with the literal of every value in place. -/
def inlined (template : Template) : String :=
  template.sql fun bind => bind.datum.literal

def join (separator : String) (templates : List Template) : Template :=
  [Piece.text separator].intercalate templates

def parenthesized (template : Template) : Template :=
  text "(" ++ template ++ text ")"

/-- Conditions under a connective. -/
def combine (connective : Connective) : List Template → Template
  | [] => text connective.neutral
  | [only] => only
  | templates => parenthesized (join connective.separator templates)

/-- A keyword and the conditions behind it, if there are any. -/
def conditionClause (keyword : String) : List Template → Template
  | [] => text ""
  | conditions => text keyword ++ join " AND " conditions

/-- The AND over a list of predicates, or nothing when no test is among them. -/
def conjunction (predicates : List Predicate) (templates : Except CompileError (List Template)) :
    Except CompileError (Option Template) :=
  if Predicate.allEmpty predicates then .ok none
  else templates.map fun conditions => some (combine .and conditions)

theorem join_cons_cons (separator : String) (first second : Template)
    (rest : List Template) :
    join separator (first :: second :: rest) =
      first ++ text separator ++ join separator (second :: rest) :=
  List.intercalate_cons_cons

theorem sql_append (form : Bind → String) (first second : Template) :
    (first ++ second).sql form = first.sql form ++ second.sql form := by
  simp only [sql, List.map_append, String.join_append]

theorem sql_text (form : Bind → String) (content : String) :
    (text content).sql form = content := by
  simp [sql, text, Piece.sql, String.join]

theorem sql_join (form : Bind → String) (separator : String) (templates : List Template) :
    (join separator templates).sql form =
      separator.intercalate (templates.map (sql form)) := by
  induction templates with
  | nil => simp [join, sql, String.join]
  | cons first others ih =>
    cases others with
    | nil => simp [join]
    | cons second rest =>
      rw [join_cons_cons, sql_append, sql_append, sql_text, ih]
      simp only [List.map_cons, String.intercalate_cons_cons]

theorem binds_text (content : String) : (text content).binds = [] := rfl

theorem binds_append (first second : Template) :
    (first ++ second).binds = first.binds ++ second.binds :=
  List.filterMap_append

theorem binds_join (separator : String) (templates : List Template) :
    (join separator templates).binds = templates.flatMap binds := by
  induction templates with
  | nil => rfl
  | cons first others ih =>
    cases others with
    | nil => simp [join]
    | cons second rest =>
      rw [join_cons_cons, binds_append, binds_append, binds_text, List.append_nil, ih]
      rfl

theorem fragment_append (first second : Template) :
    (first ++ second).fragment = first.fragment ++ second.fragment := by
  simp only [fragment, sql_append, binds_append]
  rfl

theorem fragment_text (content : String) : (text content).fragment = .text content := by
  simp only [fragment, sql_text, binds_text, Fragment.text]

theorem fragment_join (separator : String) (templates : List Template) :
    (join separator templates).fragment = .join separator (templates.map fragment) := by
  simp only [fragment, sql_join, binds_join, Fragment.join, List.map_map, List.flatMap_map]
  rfl

theorem fragment_parenthesized (template : Template) :
    (parenthesized template).fragment = PreparedSql.parenthesized template.fragment := by
  simp only [parenthesized, fragment_append, fragment_text, PreparedSql.parenthesized]

theorem fragment_combine (connective : Connective) (templates : List Template) :
    (combine connective templates).fragment =
      connective.combine (templates.map fragment) := by
  match templates with
  | [] => exact fragment_text _
  | [only] => rfl
  | first :: second :: rest =>
    simp only [combine, fragment_parenthesized, fragment_join, List.map_cons,
      Connective.combine]

theorem fragment_conditionClause (keyword : String) (conditions : List Template) :
    (conditionClause keyword conditions).fragment =
      PreparedSql.conditionClause keyword (conditions.map fragment) := by
  cases conditions with
  | nil => exact fragment_text _
  | cons first rest =>
    simp only [conditionClause, fragment_append, fragment_text, fragment_join, List.map_cons,
      PreparedSql.conditionClause]

theorem fragment_conjunction (predicates : List Predicate)
    (templates : Except CompileError (List Template)) :
    (conjunction predicates templates).map (Option.map fragment) =
      PreparedSql.conjunction predicates (templates.map (List.map fragment)) := by
  unfold conjunction PreparedSql.conjunction
  split
  next => rfl
  next =>
    cases templates with
    | error reason => rfl
    | ok conditions =>
      simp only [Except.map, Option.map_some, fragment_combine]

end Template

end PreparedSql
