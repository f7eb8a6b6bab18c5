import PreparedSql.Bind.Interpolate

/-! Placeholders of a text: how many `?` stand outside quoted literals, and what filling them in
does to a text that is put together from parts. -/

namespace PreparedSql

/-- Whether a literal is open behind the text, given whether one is open in front of it. -/
def endsQuoted (quoted : Bool) : List Char → Bool
  | [] => quoted
  | character :: rest => endsQuoted (if character = '\'' then !quoted else quoted) rest

/-- The `?` that stand outside quoted literals. -/
def placeholderCount (quoted : Bool) : List Char → Nat
  | [] => 0
  | character :: rest =>
      if character = '\'' then placeholderCount (!quoted) rest
      else if character = '?' ∧ quoted = false then placeholderCount quoted rest + 1
      else placeholderCount quoted rest

theorem endsQuoted_append (quoted : Bool) (first second : List Char) :
    endsQuoted quoted (first ++ second) = endsQuoted (endsQuoted quoted first) second := by
  induction first generalizing quoted with
  | nil => rfl
  | cons character rest ih => exact ih _

theorem placeholderCount_append (quoted : Bool) (first second : List Char) :
    placeholderCount quoted (first ++ second) =
      placeholderCount quoted first + placeholderCount (endsQuoted quoted first) second := by
  induction first generalizing quoted with
  | nil => simp only [List.nil_append, placeholderCount, endsQuoted, Nat.zero_add]
  | cons character rest ih =>
    simp only [List.cons_append, placeholderCount, endsQuoted]
    split
    next => exact ih _
    next =>
      split
      next => rw [ih]; omega
      next => exact ih _

/-- The first part takes as many parameters as it has placeholders. -/
theorem fillPlaceholders_append (quoted : Bool) (first second : List Char)
    (binds others : List Bind) (enough : binds.length = placeholderCount quoted first) :
    fillPlaceholders quoted (first ++ second) (binds ++ others) =
      fillPlaceholders quoted first binds ++
        fillPlaceholders (endsQuoted quoted first) second others := by
  induction first generalizing quoted binds with
  | nil =>
    have none : binds = [] := List.eq_nil_of_length_eq_zero enough
    simp only [none, List.nil_append, fillPlaceholders, endsQuoted]
  | cons character rest ih =>
    unfold placeholderCount at enough
    simp only [List.cons_append, fillPlaceholders, endsQuoted]
    by_cases quote : character = '\''
    · simp only [quote, if_true] at enough ⊢
      rw [ih _ binds enough, List.cons_append]
    · simp only [quote, if_false] at enough ⊢
      by_cases mark : character = '?' ∧ quoted = false
      · obtain ⟨rfl, rfl⟩ := mark
        cases binds with
        | nil => simp at enough
        | cons bind binds =>
          have fewer : binds.length = placeholderCount false rest := by simpa using enough
          simp only [List.cons_append, and_self, if_true, ih _ binds fewer,
            List.append_assoc]
      · simp only [mark, if_false] at enough ⊢
        rw [ih _ binds enough, List.cons_append]

/-- A text without placeholders is left alone. -/
theorem fillPlaceholders_of_none {quoted : Bool} {content : List Char}
    (bare : placeholderCount quoted content = 0) (binds : List Bind) :
    fillPlaceholders quoted content binds = content := by
  induction content generalizing quoted with
  | nil => rfl
  | cons character rest ih =>
    unfold placeholderCount at bare
    unfold fillPlaceholders
    split
    next quote => rw [ih (by simpa only [quote, if_true] using bare)]
    next plain =>
      split
      next mark => simp [mark] at bare
      next other => rw [ih (by simpa only [plain, other, if_false] using bare)]

end PreparedSql
