import Mathlib.Algebra.Group.Nat.Even
import PreparedSql.Json.Lexer
import PreparedSql.Value.Literal

/-! Literals are closed: SQL reads the literal of a text as this text and the literal of bytes as
these bytes, up to where the literal ends and no further, and no literal leaves a quote open. -/

namespace PreparedSql

namespace Literal

open Json.Lexer (hexValue?)

/-- The content of a text literal behind its opening quote, and what follows the closing one. Two
quotes stand for one, and a quote that stands alone closes the literal. -/
def readContent : List Char → Option (List Char × List Char)
  | [] => none
  | '\'' :: '\'' :: rest => (readContent rest).map (Prod.map ('\'' :: ·) id)
  | '\'' :: rest => some ([], rest)
  | character :: rest => (readContent rest).map (Prod.map (character :: ·) id)

/-- The text literal that the characters begin with. -/
def readText : List Char → Option (List Char × List Char)
  | '\'' :: rest => readContent rest
  | _ => none

/-- Pairs of hexadecimal digits up to a quote, each the value of a byte. -/
def readPairs : List Char → Option (List UInt8 × List Char)
  | '\'' :: rest => some ([], rest)
  | high :: low :: rest => do
      let upper ← hexValue? high
      let lower ← hexValue? low
      let (bytes, behind) ← readPairs rest
      some (UInt8.ofNat (16 * upper + lower) :: bytes, behind)
  | _ => none

/-- The literal of bytes that the characters begin with. -/
def readBytes : List Char → Option (List UInt8 × List Char)
  | 'X' :: '\'' :: rest => readPairs rest
  | _ => none

theorem readContent_doubleQuotes {rest : List Char} (ends : rest.head? ≠ some '\'')
    (content : List Char) :
    readContent (doubleQuotes content ++ '\'' :: rest) = some (content, rest) := by
  induction content with
  | nil =>
    cases rest with
    | nil => rfl
    | cons character behind =>
      have other : character ≠ '\'' := by simpa using ends
      simp [doubleQuotes, readContent, other]
  | cons character content ih =>
    by_cases quote : character = '\''
    · simp [doubleQuotes, readContent, quote, ih]
    · simp [doubleQuotes, readContent, quote, ih]

/-- What is read is the one way to write the content. -/
theorem eq_doubleQuotes_of_readContent {input content rest : List Char}
    (read : readContent input = some (content, rest)) :
    input = doubleQuotes content ++ '\'' :: rest ∧ rest.head? ≠ some '\'' := by
  fun_induction readContent input generalizing content with
  | case1 => cases read
  | case2 behind ih =>
    obtain ⟨⟨inner, left⟩, found, same⟩ := Option.map_eq_some_iff.1 read
    cases same
    obtain ⟨rfl, ends⟩ := ih found
    exact ⟨by simp [doubleQuotes], ends⟩
  | case3 behind single =>
    -- The quote that closes the literal: no other one stands behind it.
    cases read
    refine ⟨rfl, fun first => ?_⟩
    obtain ⟨others, same⟩ := List.head?_eq_some_iff.1 first
    exact single others same
  | case4 character behind _ plain ih =>
    obtain ⟨⟨inner, left⟩, found, same⟩ := Option.map_eq_some_iff.1 read
    cases same
    obtain ⟨rfl, ends⟩ := ih found
    have other : character ≠ '\'' := plain
    exact ⟨by simp [doubleQuotes, other], ends⟩

/-- A text literal ends where no further quote follows, and has no other spelling. -/
theorem readText_eq_some_iff {input content rest : List Char} :
    readText input = some (content, rest) ↔
      input = quoted content ++ rest ∧ rest.head? ≠ some '\'' := by
  have shape : quoted content ++ rest = '\'' :: (doubleQuotes content ++ '\'' :: rest) := by
    simp [quoted]
  rw [shape]
  constructor
  · intro read
    unfold readText at read
    split at read
    next behind =>
      obtain ⟨rfl, ends⟩ := eq_doubleQuotes_of_readContent read
      exact ⟨rfl, ends⟩
    next => cases read
  · rintro ⟨rfl, ends⟩
    exact readContent_doubleQuotes ends content

example : readText "'it''s', ?".toList = some ("it's".toList, ", ?".toList) := by decide

theorem hexValue?_hexDigit : ∀ value < 16, hexValue? (hexDigit value) = some value := by
  decide

theorem ne_quote_of_hexValue? {digit : Char} {value : Nat} (same : hexValue? digit = some value) :
    digit ≠ '\'' := by
  rintro rfl
  revert same
  exact nofun

/-- A byte is written as two digits, the upper half of its value and the lower one. -/
theorem hexByte_digits (byte : UInt8) :
    ∃ high low : Char, hexByte byte = [high, low] ∧
      hexValue? high = some (byte.toNat / 16) ∧ hexValue? low = some (byte.toNat % 16) := by
  have bound : byte.toNat < 256 := byte.toNat_lt
  exact ⟨_, _, rfl, hexValue?_hexDigit _ (by omega), hexValue?_hexDigit _ (by omega)⟩

theorem readPairs_hexByte (byte : UInt8) (rest : List Char) :
    readPairs (hexByte byte ++ rest) = (readPairs rest).map (Prod.map (byte :: ·) id) := by
  obtain ⟨high, low, written, upper, lower⟩ := hexByte_digits byte
  have whole : UInt8.ofNat (16 * (byte.toNat / 16) + byte.toNat % 16) = byte := by
    rw [Nat.div_add_mod]
    exact UInt8.ofNat_toNat
  rw [written, List.cons_append, List.cons_append, List.nil_append, readPairs, upper, lower]
  · simp only [Option.bind_eq_bind, Option.bind_some, whole]
    cases readPairs rest <;> rfl
  · exact fun quote => absurd quote (ne_quote_of_hexValue? upper)

theorem readPairs_flatMap (bytes : List UInt8) (rest : List Char) :
    readPairs (bytes.flatMap hexByte ++ '\'' :: rest) = some (bytes, rest) := by
  induction bytes with
  | nil => rfl
  | cons byte bytes ih =>
    rw [List.flatMap_cons, List.append_assoc, readPairs_hexByte, ih]
    rfl

/-- The literal of bytes ends at its closing quote, whatever follows. -/
theorem readBytes_hexadecimal (bytes : List UInt8) (rest : List Char) :
    readBytes (hexadecimal bytes ++ rest) = some (bytes, rest) := by
  have shape : hexadecimal bytes ++ rest =
      'X' :: '\'' :: (bytes.flatMap hexByte ++ '\'' :: rest) := by
    simp [hexadecimal]
  rw [shape, readBytes, readPairs_flatMap]

theorem count_doubleQuotes (content : List Char) :
    (doubleQuotes content).count '\'' = 2 * content.count '\'' := by
  induction content with
  | nil => rfl
  | cons character content ih =>
    by_cases quote : character = '\''
    · simp only [doubleQuotes, quote, if_true, List.count_cons_self, ih]
      omega
    · simp only [doubleQuotes, quote, if_false, List.count_cons_of_ne quote, ih]

theorem even_count_quoted (content : List Char) : Even ((quoted content).count '\'') := by
  refine ⟨content.count '\'' + 1, ?_⟩
  simp only [quoted, List.cons_append, List.count_cons_self, List.count_append,
    count_doubleQuotes, List.count_nil]
  omega

theorem quote_not_mem_hexByte (byte : UInt8) : '\'' ∉ hexByte byte := by
  obtain ⟨high, low, written, upper, lower⟩ := hexByte_digits byte
  have first := ne_quote_of_hexValue? upper
  have second := ne_quote_of_hexValue? lower
  simp [written, first.symm, second.symm]

theorem even_count_hexadecimal (bytes : List UInt8) :
    Even ((hexadecimal bytes).count '\'') := by
  have absent : '\'' ∉ bytes.flatMap hexByte := by
    rw [List.mem_flatMap]
    rintro ⟨byte, -, member⟩
    exact quote_not_mem_hexByte byte member
  exact ⟨1, by simp [hexadecimal, List.count_eq_zero_of_not_mem absent]⟩

end Literal

namespace Number

theorem quote_not_mem_digits (number : Nat) : '\'' ∉ digits number :=
  fun member => absurd (isDigit_of_mem_digits member) (by decide)

theorem quote_not_mem_signed (number : Int) : '\'' ∉ signed number := by
  unfold signed
  split <;> simp [quote_not_mem_digits]

theorem quote_not_mem_positional (multiple level : Nat) : '\'' ∉ positional multiple level := by
  have absent := quote_not_mem_digits multiple
  have front (count : Nat) : '\'' ∉ (digits multiple).take count :=
    fun member => absent (List.mem_of_mem_take member)
  have back (count : Nat) : '\'' ∉ (digits multiple).drop count :=
    fun member => absent (List.mem_of_mem_drop member)
  simp only [positional]
  split
  next => simp [absent]
  next =>
    split
    next => simp [front, back]
    next => simp [absent]

namespace Binary64

theorem quote_not_mem_magnitudeText (number : Binary64) : '\'' ∉ number.magnitudeText := by
  by_cases zero : number.significand = 0
  · rw [magnitudeText, if_pos zero]
    decide
  · rw [magnitudeText, if_neg zero]
    -- Whatever grid point is found, it is written with digits.
    rcases (RoundingInterval.ofFinite number).coarsest 632 with ⟨multiple, level⟩
    exact quote_not_mem_positional multiple level

theorem quote_not_mem_text (number : Binary64) : '\'' ∉ number.text.toList := by
  have magnitude := number.quote_not_mem_magnitudeText
  unfold text
  split
  next => decide
  next =>
    rw [String.toList_ofList, List.mem_append, not_or]
    constructor
    · split <;> decide
    · split
      next => exact magnitude
      next => decide

end Binary64

end Number

theorem Datum.even_count_literalChars (datum : Datum) : Even (datum.literalChars.count '\'') := by
  have plain {written : List Char} (absent : '\'' ∉ written) : Even (written.count '\'') := by
    rw [List.count_eq_zero_of_not_mem absent]
    exact Even.zero
  cases datum with
  | bool flag => cases flag <;> decide
  | int number => exact plain (Number.quote_not_mem_signed number.toInt)
  | float number => exact plain number.quote_not_mem_text
  | text content => exact Literal.even_count_quoted content.toList
  | blob bytes => exact Literal.even_count_hexadecimal bytes
  | date day => exact Literal.even_count_quoted _
  | time clock => exact Literal.even_count_quoted _
  | timestamp moment => exact Literal.even_count_quoted _

/-- No value leaves a quote open, and NULL has none. -/
theorem Value.even_count_literal (value : Value) : Even (value.literal.toList.count '\'') := by
  cases value with
  | none => decide
  | some datum =>
    rw [Value.literal, Datum.literal, String.toList_ofList]
    exact datum.even_count_literalChars

end PreparedSql
