/-! Days of the proleptic Gregorian calendar, in the years a date column can hold. -/

namespace PreparedSql

namespace Calendar

def isLeapYear (year : Int) : Bool :=
  year % 4 == 0 && (year % 100 != 0 || year % 400 == 0)

def daysInMonth (year : Int) (month : Nat) : Nat :=
  if month = 2 then if isLeapYear year then 29 else 28
  else if month = 4 ∨ month = 6 ∨ month = 9 ∨ month = 11 then 30
  else 31

end Calendar

/-- A day that exists, in one of the years from -262143 to 262142. -/
structure Date where
  year : Int
  month : Nat
  day : Nat
  year_range : -262143 ≤ year ∧ year ≤ 262142
  month_range : 1 ≤ month ∧ month ≤ 12
  day_range : 1 ≤ day ∧ day ≤ Calendar.daysInMonth year month
  deriving DecidableEq, Repr

namespace Date

def of? (year : Int) (month day : Nat) : Option Date :=
  if valid : (-262143 ≤ year ∧ year ≤ 262142) ∧ (1 ≤ month ∧ month ≤ 12) ∧
      (1 ≤ day ∧ day ≤ Calendar.daysInMonth year month) then
    some ⟨year, month, day, valid.1, valid.2.1, valid.2.2⟩
  else none

theorem of?_self (date : Date) : of? date.year date.month date.day = some date := by
  simp only [of?, date.year_range, date.month_range, date.day_range, and_self, dite_true]

theorem day_le (date : Date) : date.day ≤ 31 := by
  have bound := date.day_range.2
  unfold Calendar.daysInMonth at bound
  split at bound
  · split at bound <;> omega
  · split at bound <;> omega

instance : Inhabited Date := ⟨⟨1970, 1, 1, by decide, by decide, by decide⟩⟩

end Date

end PreparedSql
