import Mathlib.Algebra.Group.Nat.Even
import PreparedSql.Proofs.Literals
import PreparedSql.Proofs.Placeholder.Scan

/-! What filling in placeholders does to a text, place by place. Which places are placeholders is
seen from the text alone, each takes the literal of its own parameter, and since literals are
closed no quote is opened or closed for what stands behind them. -/

namespace PreparedSql

/-- The places of the `?` that have an even number of quotes in front, from left to right. -/
def placeholders (sql : List Char) : List Nat :=
  (List.range sql.length).filter fun place =>
    sql[place]? = some '?' ∧ Even ((sql.take place).count '\'')

/-- A text, cut into its characters, after filling in: one part for each character, when the
placeholders are those at the given places. -/
structure Filled (places : List Nat) (sql : List Char) (binds : List Bind)
    (parts : List (List Char)) : Prop where
  length_eq : parts.length = sql.length
  /-- The literal of a parameter takes the place of the placeholder with the same number. -/
  replaced : ∀ (number place : Nat) (bind : Bind), places[number]? = some place →
    binds[number]? = some bind → parts[place]? = some bind.datum.literalChars
  /-- All other characters stay, also placeholders for which no parameter is left. -/
  kept : ∀ (place : Nat) (character : Char), sql[place]? = some character →
    place ∉ places.take binds.length → parts[place]? = some [character]

namespace Filled

variable {places : List Nat} {sql : List Char} {binds : List Bind} {parts : List (List Char)}

theorem unbound (places : List Nat) (sql : List Char) :
    Filled places sql [] (sql.map fun character => [character]) where
  length_eq := List.length_map _
  replaced number place bind _ present := by simp at present
  kept place character here _ := by rw [List.getElem?_map, here, Option.map_some]

/-- Behind one more part all places are moved on by one. -/
theorem replaced_behind (filled : Filled places sql binds parts) (front : List Char)
    {number place : Nat} {bind : Bind} (numbered : (places.map (· + 1))[number]? = some place)
    (present : binds[number]? = some bind) :
    (front :: parts)[place]? = some bind.datum.literalChars := by
  rw [List.getElem?_map] at numbered
  obtain ⟨earlier, found, rfl⟩ := Option.map_eq_some_iff.1 numbered
  exact filled.replaced number earlier bind found present

theorem kept_behind (filled : Filled places sql binds parts) (front : List Char)
    {place : Nat} {character : Char} (here : sql[place]? = some character)
    (unserved : place + 1 ∉ (places.map (· + 1)).take binds.length) :
    (front :: parts)[place + 1]? = some [character] := by
  rw [← List.map_take] at unserved
  exact filled.kept place character here fun served => unserved (List.mem_map_of_mem served)

/-- A character in front that stays. -/
theorem keep (filled : Filled places sql binds parts) (character : Char) :
    Filled (places.map (· + 1)) (character :: sql) binds ([character] :: parts) where
  length_eq := congrArg (· + 1) filled.length_eq
  replaced _ _ _ numbered present := filled.replaced_behind [character] numbered present
  kept place other here unserved := by
    cases place with
    | zero =>
      cases here
      rfl
    | succ place => exact filled.kept_behind [character] here unserved

/-- A placeholder in front that takes the first parameter. -/
theorem replace (filled : Filled places sql binds parts) (character : Char) (bind : Bind) :
    Filled (0 :: places.map (· + 1)) (character :: sql) (bind :: binds)
      (bind.datum.literalChars :: parts) where
  length_eq := congrArg (· + 1) filled.length_eq
  replaced number place other numbered present := by
    cases number with
    | zero =>
      cases numbered
      cases present
      rfl
    | succ number => exact filled.replaced_behind _ numbered present
  kept place other here unserved := by
    rw [List.length_cons, List.take_succ_cons, List.mem_cons, not_or] at unserved
    cases place with
    | zero => exact absurd rfl unserved.1
    | succ place => exact filled.kept_behind _ here unserved.2

end Filled

/-- Behind an even number of quotes a literal is open just when one was open in front. -/
theorem endsQuoted_eq_self_iff (quoted : Bool) (text : List Char) :
    endsQuoted quoted text = quoted ↔ Even (text.count '\'') := by
  induction text generalizing quoted with
  | nil => exact iff_of_true rfl Even.zero
  | cons character rest ih =>
    by_cases quote : character = '\''
    · rw [endsQuoted, if_pos quote, quote, List.count_cons_self, Nat.even_add_one,
        ← ih (!quoted), Bool.not_eq_not]
    · rw [endsQuoted, if_neg quote, List.count_cons_of_ne quote, ih]

/-- The places of the placeholders when a literal is open in front of the text, or none is. -/
def placeholdersFrom (quoted : Bool) (sql : List Char) : List Nat :=
  (List.range sql.length).filter fun place =>
    sql[place]? = some '?' ∧ endsQuoted quoted (sql.take place) = false

theorem placeholders_eq (sql : List Char) : placeholders sql = placeholdersFrom false sql := by
  unfold placeholders placeholdersFrom
  simp only [endsQuoted_eq_self_iff]

theorem placeholdersFrom_cons (quoted : Bool) (character : Char) (rest : List Char) :
    placeholdersFrom quoted (character :: rest) =
      (if character = '?' ∧ quoted = false then [0] else []) ++
        (placeholdersFrom (if character = '\'' then !quoted else quoted) rest).map (· + 1) := by
  unfold placeholdersFrom
  rw [List.length_cons, List.range_succ_eq_map, List.filter_cons, List.filter_map]
  have later : ((fun place => decide ((character :: rest)[place]? = some '?' ∧
        endsQuoted quoted ((character :: rest).take place) = false)) ∘ Nat.succ) =
      fun place => decide (rest[place]? = some '?' ∧
        endsQuoted (if character = '\'' then !quoted else quoted) (rest.take place) = false) := rfl
  rw [later]
  by_cases mark : character = '?' ∧ quoted = false
  · simp [endsQuoted, mark]
  · simp [endsQuoted, mark]

theorem fillPlaceholders_nil (quoted : Bool) (sql : List Char) :
    fillPlaceholders quoted sql [] = sql := by
  induction sql generalizing quoted with
  | nil => rfl
  | cons character rest ih => simp [fillPlaceholders, ih]

/-- What is not a placeholder stays in front of what is filled in behind it. -/
theorem fillPlaceholders_cons {quoted : Bool} {character : Char}
    (plain : ¬ (character = '?' ∧ quoted = false)) (rest : List Char) (binds : List Bind) :
    fillPlaceholders quoted (character :: rest) binds =
      character ::
        fillPlaceholders (if character = '\'' then !quoted else quoted) rest binds := by
  by_cases quote : character = '\''
  · simp only [fillPlaceholders, if_pos quote]
  · simp only [fillPlaceholders, if_neg quote, if_neg plain]

/-- A placeholder gives way to the literal of the next parameter. -/
theorem fillPlaceholders_mark (rest : List Char) (bind : Bind) (others : List Bind) :
    fillPlaceholders false ('?' :: rest) (bind :: others) =
      bind.datum.literalChars ++ fillPlaceholders false rest others := by
  simp [fillPlaceholders]

/-- The scan fills in the places of the placeholders, and no others. -/
theorem exists_filled (quoted : Bool) (sql : List Char) (binds : List Bind) :
    ∃ parts, Filled (placeholdersFrom quoted sql) sql binds parts ∧
      fillPlaceholders quoted sql binds = parts.flatten := by
  -- Along the text, with the places counted from where the scan stands.
  induction sql generalizing quoted binds with
  | nil =>
    refine ⟨[], ⟨rfl, ?_, ?_⟩, rfl⟩
    · intro number place bind numbered
      simp [placeholdersFrom] at numbered
    · intro place character here
      simp at here
  | cons character rest ih =>
    by_cases mark : character = '?' ∧ quoted = false
    · cases binds with
      | nil =>
        refine ⟨_, Filled.unbound _ _, ?_⟩
        rw [fillPlaceholders_nil, ← List.flatMap_def, List.flatMap_singleton']
      | cons bind others =>
        obtain ⟨rfl, rfl⟩ := mark
        obtain ⟨parts, filled, same⟩ := ih false others
        rw [placeholdersFrom_cons, fillPlaceholders_mark, same]
        exact ⟨_, filled.replace '?' bind, rfl⟩
    · obtain ⟨parts, filled, same⟩ := ih (if character = '\'' then !quoted else quoted) binds
      rw [placeholdersFrom_cons, if_neg mark, List.nil_append, fillPlaceholders_cons mark, same]
      exact ⟨[character] :: parts, filled.keep character, rfl⟩

example : fillPlaceholders false "a = '?' AND b = ?".toList [⟨.varchar, .text "it's ?"⟩] =
    "a = '?' AND b = 'it''s ?'".toList := by decide

/-- Literals are closed, so that filling them in keeps quotes balanced, or not balanced. -/
theorem even_count_fillPlaceholders (quoted : Bool) (sql : List Char) (binds : List Bind) :
    Even ((fillPlaceholders quoted sql binds).count '\'') ↔ Even (sql.count '\'') := by
  induction sql generalizing quoted binds with
  | nil => rfl
  | cons character rest ih =>
    by_cases mark : character = '?' ∧ quoted = false
    · cases binds with
      | nil => rw [fillPlaceholders_nil]
      | cons bind others =>
        obtain ⟨rfl, rfl⟩ := mark
        have closed := bind.datum.even_count_literalChars
        have other : '?' ≠ '\'' := by decide
        rw [fillPlaceholders_mark, List.count_append, Nat.even_add, ih, iff_true_left closed,
          List.count_cons_of_ne other]
    · rw [fillPlaceholders_cons mark, List.count_cons, List.count_cons, Nat.even_add, Nat.even_add,
        ih]

/-- Inlined values are closed literals: SQL reads texts and bytes back from them, they keep quotes
balanced, and filling them in changes nothing but the placeholders that have a parameter. -/
theorem inlined_values_closed :
    (∀ (content : String) (input rest : List Char),
      Literal.readText input = some (content.toList, rest) ↔
        input = (Value.literal (some (.text content))).toList ++ rest ∧
          rest.head? ≠ some '\'') ∧
    (∀ (bytes : List UInt8) (rest : List Char),
      Literal.readBytes ((Value.literal (some (.blob bytes))).toList ++ rest) =
        some (bytes, rest)) ∧
    (∀ value : Value, Even (value.literal.toList.count '\'')) ∧
    ∀ (sql : String) (binds : List Bind),
      (Even ((interpolate sql binds).toList.count '\'') ↔ Even (sql.toList.count '\'')) ∧
      ∃ parts, Filled (placeholders sql.toList) sql.toList binds parts ∧
        interpolate sql binds = String.ofList parts.flatten := by
  refine ⟨?_, ?_, Value.even_count_literal, ?_⟩
  · intro content input rest
    rw [Value.literal, Datum.literal, String.toList_ofList]
    exact Literal.readText_eq_some_iff
  · intro bytes rest
    rw [Value.literal, Datum.literal, String.toList_ofList]
    exact Literal.readBytes_hexadecimal bytes rest
  · intro sql binds
    constructor
    · rw [interpolate, String.toList_ofList]
      exact even_count_fillPlaceholders false sql.toList binds
    · obtain ⟨parts, filled, same⟩ := exists_filled false sql.toList binds
      rw [placeholders_eq]
      exact ⟨parts, filled, congrArg String.ofList same⟩

end PreparedSql
