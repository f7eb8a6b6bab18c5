import Mathlib.Algebra.Group.Nat.Defs
import Mathlib.Data.List.TakeWhile
import PreparedSql.Calendar.Format

/-! Written dates and times are read back. A number is scanned as far as its digits go, so a year
must not be followed by another digit, and blanks are skipped as far as they go; a format that keeps
its directives apart in this way gives every field back that it shows. -/

namespace PreparedSql

namespace Number

/-- Zeros in front do not count. -/
theorem digitsValue_zeros (count : Nat) (written : List Char) :
    digitsValue (List.replicate count '0' ++ written) = digitsValue written := by
  induction count with
  | zero => rfl
  | succ count ih =>
    rw [List.replicate_succ, List.cons_append]
    exact ih

theorem isDigit_of_mem_padded {width number : Nat} {character : Char}
    (member : character ∈ padded width number) : character.isDigit = true := by
  rcases List.mem_append.1 member with zero | digit
  · rw [List.eq_of_mem_replicate zero]
    decide
  · exact isDigit_of_mem_digits digit

theorem padded_ne_nil (width number : Nat) : padded width number ≠ [] :=
  List.append_ne_nil_of_right_ne_nil _ (digits_ne_nil number)

theorem ofDigits?_padded (width number : Nat) : ofDigits? (padded width number) = some number := by
  have all : (padded width number).all Char.isDigit = true :=
    List.all_eq_true.2 fun _ member => isDigit_of_mem_padded member
  have value : digitsValue (padded width number) = number :=
    (digitsValue_zeros _ _).trans (digitsValue_digits number)
  simp only [ofDigits?, ne_eq, padded_ne_nil, not_false_eq_true, all, and_self, if_true, value]

/-- A number that fits is written with exactly as many digits as asked for. -/
theorem length_padded {width number : Nat} (positive : 0 < width) (fits : number < 10 ^ width) :
    (padded width number).length = width := by
  have short : (digits number).length ≤ width :=
    (Nat.length_toDigits_le_iff (by decide) positive).2 fits
  simp only [padded, List.length_append, List.length_replicate]
  omega

end Number

namespace Text

theorem dropBlanks_of_head {text : List Char}
    (visible : ∀ character ∈ text.head?, isBlank character = false) : dropBlanks text = text := by
  cases text with
  | nil => rfl
  | cons character rest =>
    have here : ¬ isBlank character = true := by
      rw [visible character rfl]
      decide
    exact List.dropWhile_cons_of_neg here

theorem not_isBlank_of_isDigit {character : Char} (digit : character.isDigit = true) :
    isBlank character = false := by
  simp only [Char.isDigit, Bool.and_eq_true, decide_eq_true_eq, ge_iff_le,
    UInt32.le_iff_toNat_le] at digit
  have range : 48 ≤ character.toNat ∧ character.toNat ≤ 57 := digit
  simp only [isBlank, Bool.or_eq_false_iff, Bool.and_eq_false_iff, decide_eq_false_iff_not,
    beq_eq_false_iff_ne]
  omega

end Text

namespace Calendar

open Number Text

/-- The text does not go on with a digit. -/
def EndsNumber (text : List Char) : Prop :=
  ∀ character ∈ text.head?, character.isDigit = false

/-- The text does not begin with a blank. -/
def Visible (text : List Char) : Prop :=
  ∀ character ∈ text.head?, isBlank character = false

theorem takeWhile_of_endsNumber {rest : List Char} (ends : EndsNumber rest) (count : Nat) :
    (rest.take count).takeWhile Char.isDigit = [] := by
  cases rest with
  | nil => rw [List.take_nil, List.takeWhile_nil]
  | cons character behind =>
    cases count with
    | zero => rfl
    | succ count =>
      rw [List.take_succ_cons, List.takeWhile_cons, ends character rfl]
      rfl

/-- A written number is scanned back when the text ends it, or when it fills all the places. -/
theorem scanDigits_padded {places width number : Nat} {rest : List Char}
    (room : (padded width number).length ≤ places)
    (ends : (padded width number).length = places ∨ EndsNumber rest) :
    scanDigits places (padded width number ++ rest) = some (number, rest) := by
  have behind :
      (rest.take (places - (padded width number).length)).takeWhile Char.isDigit = [] := by
    rcases ends with full | ends
    · rw [full, Nat.sub_self, List.take_zero, List.takeWhile_nil]
    · exact takeWhile_of_endsNumber ends _
  have found : ((padded width number ++ rest).take places).takeWhile Char.isDigit =
      padded width number := by
    rw [List.take_append, List.take_of_length_le room,
      List.takeWhile_append_of_pos fun _ member => isDigit_of_mem_padded member, behind,
      List.append_nil]
  simp only [scanDigits, found, ofDigits?_padded, Option.map_some, List.drop_left]

theorem head_padded {width number : Nat} (rest : List Char) :
    ∀ character ∈ (padded width number ++ rest).head?, character.isDigit = true := by
  intro character first
  cases written : padded width number with
  | nil => exact absurd written (padded_ne_nil width number)
  | cons digit others =>
    rw [written] at first
    cases first
    exact isDigit_of_mem_padded (written ▸ List.mem_cons_self)

theorem visible_padded (width number : Nat) (rest : List Char) :
    Visible (padded width number ++ rest) :=
  fun character first => not_isBlank_of_isDigit (head_padded rest character first)

/-- Without a sign a year has four digits at most. -/
theorem scanYear_of_head {text : List Char}
    (digit : ∀ character ∈ text.head?, character.isDigit = true) :
    scanYear text = (scanDigits 4 text).map fun (year, behind) => ((year : Int), behind) := by
  unfold scanYear
  split
  next => exact absurd (digit '-' rfl) (by decide)
  next => exact absurd (digit '+' rfl) (by decide)
  next => rfl

/-- Every year is read back, whatever its sign and however many digits it has. -/
theorem scanYear_writtenYear (year : Int) {rest : List Char} (ends : EndsNumber rest) :
    scanYear (writtenYear year ++ rest) = some (year, rest) := by
  have whole {number : Nat} :
      scanDigits (padded 4 number ++ rest).length (padded 4 number ++ rest) =
        some (number, rest) := by
    refine scanDigits_padded ?_ (Or.inr ends)
    rw [List.length_append]
    omega
  unfold writtenYear
  by_cases negative : year < 0
  · have sign : -((year.natAbs : Nat) : Int) = year := by omega
    rw [if_pos negative]
    simp only [List.cons_append, scanYear, whole, Option.map_some, sign]
  · have sign : ((year.natAbs : Nat) : Int) = year := by omega
    rw [if_neg negative]
    by_cases far : 9999 < year
    · rw [if_pos far]
      simp only [List.cons_append, scanYear, whole, Option.map_some, sign]
    · have four : (padded 4 year.natAbs).length = 4 := length_padded (by decide) (by omega)
      rw [if_neg far, scanYear_of_head (head_padded rest),
        scanDigits_padded four.le (Or.inl four)]
      simp only [Option.map_some, sign]

theorem visible_writtenYear (year : Int) (rest : List Char) :
    Visible (writtenYear year ++ rest) := by
  unfold writtenYear
  split_ifs
  · intro character first
    cases first
    decide
  · intro character first
    cases first
    decide
  · exact visible_padded 4 _ rest

/-- A field that is there and has two digits at most. -/
def TwoDigits (field : Option Nat) : Prop :=
  ∃ number < 100, field = some number

theorem scanPair_written {field : Option Nat} (short : TwoDigits field)
    (store : Nat → Fields) (rest : List Char) :
    ∃ number, field = some number ∧
      scanPair store (written field ++ rest) = some (store number, rest) := by
  obtain ⟨number, small, rfl⟩ := short
  have two : (padded 2 number).length = 2 := length_padded (by decide) small
  refine ⟨number, rfl, ?_⟩
  unfold scanPair
  simp only [written, Option.map_some, Option.getD_some]
  rw [dropBlanks_of_head (visible_padded 2 number rest), scanDigits_padded two.le (Or.inl two)]
  rfl

theorem visible_written {field : Option Nat} (short : TwoDigits field) (rest : List Char) :
    Visible (written field ++ rest) := by
  obtain ⟨number, -, rfl⟩ := short
  exact visible_padded 2 number rest

namespace Directive

/-- What the directive shows is there to be shown. -/
def Shows (shown : Fields) : Directive → Prop
  | .year => ∃ year, shown.year = some year
  | .month => TwoDigits shown.month
  | .day => TwoDigits shown.day
  | .hour => TwoDigits shown.hour
  | .minute => TwoDigits shown.minute
  | .second => TwoDigits shown.second
  | .literal _ | .space => True

/-- The fields after the directive has copied what it shows. -/
def copy (shown fields : Fields) : Directive → Fields
  | .year => { fields with year := shown.year }
  | .month => { fields with month := shown.month }
  | .day => { fields with day := shown.day }
  | .hour => { fields with hour := shown.hour }
  | .minute => { fields with minute := shown.minute }
  | .second => { fields with second := shown.second }
  | .literal _ | .space => fields

/-- Where the scan of the directive stops: a year goes on over digits, a space over blanks. -/
def StopsAt (rest : List Char) : Directive → Prop
  | .year => EndsNumber rest
  | .space => Visible rest
  | _ => True

/-- What a directive has written is read back, with nothing of the text behind it. -/
theorem scan_render {directive : Directive} {shown : Fields} (shows : directive.Shows shown)
    {rest : List Char} (stops : directive.StopsAt rest) (fields : Fields) :
    directive.scan fields (directive.render shown ++ rest) =
      some (directive.copy shown fields, rest) := by
  cases directive with
  | year =>
    obtain ⟨year, present⟩ := shows
    simp only [scan, render, copy, present, Option.map_some, Option.getD_some]
    rw [dropBlanks_of_head (visible_writtenYear year rest), scanYear_writtenYear year stops]
    rfl
  | month | day | hour | minute | second =>
    obtain ⟨number, present, scanned⟩ := scanPair_written shows _ rest
    simp only [scan, render, copy]
    rw [scanned, present]
  | literal character => exact if_pos rfl
  | space =>
    have blank : isBlank ' ' = true := by decide
    have skipped : dropBlanks (' ' :: rest) = rest :=
      (List.dropWhile_cons_of_pos blank).trans (dropBlanks_of_head stops)
    simp only [scan, render, copy, List.cons_append, List.nil_append, skipped]

/-- The directives behind do not write what this one would take for its own. -/
def endsBefore : Directive → Format → Bool
  | .year, .literal character :: _ => !character.isDigit
  | .year, .space :: _ => true
  | .year, [] => true
  | .year, _ => false
  | .space, .literal character :: _ => !isBlank character
  | .space, .space :: _ => false
  | _, _ => true

end Directive

namespace Format

/-- No directive runs on into the one behind it. -/
def separated : Format → Bool
  | [] => true
  | directive :: format => directive.endsBefore format && separated format

/-- The fields that the format shows. -/
def shown (format : Format) (fields : Fields) : Fields :=
  format.foldl (fun copied directive => directive.copy fields copied) {}

variable {format : Format} {fields : Fields}

theorem renderChars_cons (directive : Directive) (format : Format) (fields : Fields) :
    renderChars (directive :: format) fields =
      directive.render fields ++ format.renderChars fields :=
  List.flatMap_cons

theorem endsNumber_of_year (apart : Directive.year.endsBefore format = true) :
    EndsNumber (format.renderChars fields) := by
  intro character first
  match format with
  | [] => cases first
  | .literal next :: _ =>
    cases first
    simpa [Directive.endsBefore] using apart
  | .space :: _ =>
    cases first
    decide

theorem visible_of_space (shows : ∀ directive ∈ format, directive.Shows fields)
    (apart : Directive.space.endsBefore format = true) : Visible (format.renderChars fields) := by
  cases format with
  | nil => exact fun _ first => nomatch first
  | cons directive behind =>
    have here := shows directive List.mem_cons_self
    rw [renderChars_cons]
    cases directive with
    | year =>
      obtain ⟨year, present⟩ := here
      simp only [Directive.render, present, Option.map_some, Option.getD_some]
      exact visible_writtenYear year _
    | month | day | hour | minute | second => exact visible_written here _
    | literal next =>
      intro character first
      cases first
      simpa [Directive.endsBefore] using apart
    | space => cases apart

theorem stopsAt_renderChars {directive : Directive}
    (shows : ∀ directive ∈ format, directive.Shows fields)
    (apart : directive.endsBefore format = true) :
    directive.StopsAt (format.renderChars fields) := by
  cases directive with
  | year => exact endsNumber_of_year apart
  | space => exact visible_of_space shows apart
  | _ => trivial

/-- The induction is on the directives: each takes its own part of the text and leaves the rest. -/
theorem scanChars_renderChars (shows : ∀ directive ∈ format, directive.Shows fields)
    (apart : format.separated = true) (scanned : Fields) :
    format.scanChars scanned (format.renderChars fields) =
      some (format.foldl (fun copied directive => directive.copy fields copied) scanned) := by
  induction format generalizing scanned with
  | nil => rfl
  | cons directive format ih =>
    obtain ⟨here, later⟩ := List.forall_mem_cons.1 shows
    simp only [separated, Bool.and_eq_true] at apart
    rw [renderChars_cons, scanChars,
      Directive.scan_render here (stopsAt_renderChars later apart.1)]
    exact ih later apart.2 _

/-- A format whose directives are apart reads back every field that it writes. -/
theorem scan_render (shows : ∀ directive ∈ format, directive.Shows fields)
    (apart : format.separated = true) :
    format.scan (format.render fields) = some (format.shown fields) := by
  unfold scan render
  rw [String.toList_ofList]
  exact scanChars_renderChars shows apart {}

end Format

end Calendar

end PreparedSql
