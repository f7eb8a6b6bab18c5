/-! Whole numbers in decimal: how they are written, padded to a width, and read back. -/

namespace PreparedSql.Number

def digits (number : Nat) : List Char :=
  Nat.toDigits 10 number

def decimal (number : Nat) : String :=
  String.ofList (digits number)

/-- The digits with zeros in front up to the width; a longer number is written in full. -/
def padded (width number : Nat) : List Char :=
  let written := digits number
  List.replicate (width - written.length) '0' ++ written

/-- A whole number with a minus sign when it is negative. -/
def signed (number : Int) : List Char :=
  if number < 0 then '-' :: digits number.natAbs else digits number.natAbs

/-- The value of a run of digits. -/
def digitsValue (written : List Char) : Nat :=
  written.foldl (fun value digit => 10 * value + (digit.toNat - '0'.toNat)) 0

/-- The value of a text of digits alone, at least one of them. -/
def ofDigits? (written : List Char) : Option Nat :=
  if written ≠ [] ∧ written.all Char.isDigit then some (digitsValue written) else none

theorem isDigit_of_mem_digits {number : Nat} {character : Char}
    (member : character ∈ digits number) : character.isDigit = true :=
  Nat.isDigit_of_mem_toDigits (by omega) (by omega) member

theorem digits_ne_nil (number : Nat) : digits number ≠ [] :=
  Nat.toDigits_ne_nil

theorem digitsValue_append_singleton (written : List Char) (digit : Char) :
    digitsValue (written ++ [digit]) =
      10 * digitsValue written + (digit.toNat - '0'.toNat) := by
  simp only [digitsValue, List.foldl_append, List.foldl_cons, List.foldl_nil]

theorem digitChar_value : ∀ digit < 10, (Nat.digitChar digit).toNat - '0'.toNat = digit := by
  decide

/-- Reading the digits of a number gives the number. -/
theorem digitsValue_digits (number : Nat) : digitsValue (digits number) = number := by
  induction number using Nat.strongRecOn with
  | ind number ih =>
    by_cases small : number < 10
    · have value := digitChar_value number small
      simp only [digits, Nat.toDigits_of_lt_base small, digitsValue, List.foldl_cons,
        List.foldl_nil]
      omega
    · have last : number % 10 < 10 := by omega
      have step := Nat.toDigits_append_toDigits (b := 10) (n := number / 10)
        (d := number % 10) (by omega) (by omega) last
      have whole : 10 * (number / 10) + number % 10 = number := by omega
      rw [whole, Nat.toDigits_of_lt_base last] at step
      have earlier := ih (number / 10) (by omega)
      unfold digits at earlier ⊢
      rw [← step, digitsValue_append_singleton, earlier, digitChar_value _ last]
      omega

end PreparedSql.Number
