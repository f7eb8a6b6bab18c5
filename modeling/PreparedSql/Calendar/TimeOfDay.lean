import PreparedSql.Calendar.Date

/-! Times of day without a zone, leap seconds included, and points in time. -/

namespace PreparedSql

/-- A time of day. A leap second is second 59 with a billion or more nanoseconds. -/
structure TimeOfDay where
  hour : Nat
  minute : Nat
  second : Nat
  nanosecond : Nat
  hour_lt : hour < 24
  minute_lt : minute < 60
  second_lt : second < 60
  nanosecond_range : nanosecond < 1000000000 ∨ second = 59 ∧ nanosecond < 2000000000
  deriving DecidableEq, Repr

/-- A day and a time of that day, without a zone. -/
structure Timestamp where
  date : Date
  time : TimeOfDay
  deriving DecidableEq, Repr

namespace TimeOfDay

def of? (hour minute second nanosecond : Nat) : Option TimeOfDay :=
  if valid : hour < 24 ∧ minute < 60 ∧ second < 60 ∧
      (nanosecond < 1000000000 ∨ second = 59 ∧ nanosecond < 2000000000) then
    some ⟨hour, minute, second, nanosecond, valid.1, valid.2.1, valid.2.2.1, valid.2.2.2⟩
  else none

theorem of?_self (time : TimeOfDay) :
    of? time.hour time.minute time.second time.nanosecond = some time := by
  simp only [of?, time.hour_lt, time.minute_lt, time.second_lt, time.nanosecond_range,
    and_self, dite_true]

def isLeapSecond (time : TimeOfDay) : Bool :=
  1000000000 ≤ time.nanosecond

/-- The second as a clock shows it: 60 during a leap second. -/
def shownSecond (time : TimeOfDay) : Nat :=
  time.second + time.nanosecond / 1000000000

/-- The time at which a clock shows the given whole second. -/
def ofShown? (hour minute second : Nat) : Option TimeOfDay :=
  if second = 60 then of? hour minute 59 1000000000 else of? hour minute second 0

theorem shownSecond_le (time : TimeOfDay) : time.shownSecond ≤ 60 := by
  have range := time.nanosecond_range
  have seconds := time.second_lt
  unfold shownSecond
  omega

instance : Inhabited TimeOfDay :=
  ⟨⟨0, 0, 0, 0, by decide, by decide, by decide, by decide⟩⟩

end TimeOfDay

instance : Inhabited Timestamp := ⟨⟨default, default⟩⟩

end PreparedSql
