import PreparedSql.Bind.Stored
import PreparedSql.Proofs.Calendar.Scanned
import PreparedSql.Proofs.StandardDialects

/-! Dates and times that are stored as text come back in whole seconds: the formats of the known
dialects show every field of a date and a time but the fraction of its second. -/

namespace PreparedSql

open Calendar

theorem Dialect.formats_of_standard {dialect : Dialect} (known : dialect ∈ standard) :
    dialect.dateFormat = .isoDate ∧ dialect.timeFormat = .isoTime ∧
      dialect.timestampFormat = .isoTimestamp := by
  rcases mem_standard.1 known with rfl | rfl | rfl | rfl <;> exact ⟨rfl, rfl, rfl⟩

/-- The fields of a date are there in any fields that hold them, and fit their places. -/
theorem Date.isoDate_shows (date : Date) {fields : Fields} (year : fields.year = some date.year)
    (month : fields.month = some date.month) (day : fields.day = some date.day) :
    ∀ directive ∈ Format.isoDate, directive.Shows fields := by
  have months := date.month_range
  have days := date.day_le
  intro directive member
  simp only [Format.isoDate, List.mem_cons, List.not_mem_nil, or_false] at member
  rcases member with rfl | rfl | rfl | rfl | rfl
  · exact ⟨date.year, year⟩
  · trivial
  · exact ⟨date.month, by omega, month⟩
  · trivial
  · exact ⟨date.day, by omega, day⟩

namespace TimeOfDay

theorem isoTime_shows (clock : TimeOfDay) {fields : Fields} (hour : fields.hour = some clock.hour)
    (minute : fields.minute = some clock.minute)
    (second : fields.second = some clock.shownSecond) :
    ∀ directive ∈ Format.isoTime, directive.Shows fields := by
  have hours := clock.hour_lt
  have minutes := clock.minute_lt
  have seconds := clock.shownSecond_le
  intro directive member
  simp only [Format.isoTime, List.mem_cons, List.not_mem_nil, or_false] at member
  rcases member with rfl | rfl | rfl | rfl | rfl
  · exact ⟨clock.hour, by omega, hour⟩
  · trivial
  · exact ⟨clock.minute, by omega, minute⟩
  · trivial
  · exact ⟨clock.shownSecond, by omega, second⟩

theorem second_of_isLeapSecond {clock : TimeOfDay} (leap : clock.isLeapSecond = true) :
    clock.second = 59 := by
  have range := clock.nanosecond_range
  simp only [isLeapSecond, decide_eq_true_eq] at leap
  omega

/-- The time without the fraction of its second; a leap second is still one. -/
def wholeSecond (clock : TimeOfDay) : TimeOfDay :=
  { clock with
    nanosecond := if clock.isLeapSecond then 1000000000 else 0
    nanosecond_range := by
      split_ifs with leap
      · exact Or.inr ⟨second_of_isLeapSecond leap, by decide⟩
      · exact Or.inl (by decide) }

/-- Only a fraction gets lost. -/
theorem wholeSecond_eq_iff {clock : TimeOfDay} :
    clock.wholeSecond = clock ↔ clock.nanosecond % 1000000000 = 0 := by
  have range := clock.nanosecond_range
  have same : clock.wholeSecond = clock ↔
      (if clock.isLeapSecond then 1000000000 else 0) = clock.nanosecond := by
    constructor
    · exact congrArg nanosecond
    · intro kept
      obtain ⟨hour, minute, second, nanosecond, _, _, _, _⟩ := clock
      simp only [wholeSecond, mk.injEq, true_and]
      exact kept
  rw [same]
  simp only [isLeapSecond, decide_eq_true_eq]
  split_ifs <;> omega

/-- The clock shows which second it is, the leap second by a number of its own. -/
theorem ofShown?_shownSecond (clock : TimeOfDay) :
    ofShown? clock.hour clock.minute clock.shownSecond = some clock.wholeSecond := by
  have range := clock.nanosecond_range
  have seconds := clock.second_lt
  have self := of?_self clock.wholeSecond
  unfold ofShown?
  by_cases leap : clock.isLeapSecond = true
  · have last := second_of_isLeapSecond leap
    have shown : clock.shownSecond = 60 := by
      simp only [isLeapSecond, decide_eq_true_eq] at leap
      unfold shownSecond
      omega
    rw [if_pos shown, ← self]
    simp only [wholeSecond, if_pos leap, last]
  · have shown : clock.shownSecond = clock.second := by
      simp only [isLeapSecond, decide_eq_true_eq] at leap
      unfold shownSecond
      omega
    have ordinary : clock.second ≠ 60 := by omega
    rw [shown, if_neg ordinary, ← self]
    simp only [wholeSecond, if_neg leap]

theorem ofFields?_isoTime (clock : TimeOfDay) :
    (Format.isoTime.scan (Format.isoTime.render clock.fields)).bind ofFields? =
      some clock.wholeSecond := by
  rw [Format.scan_render (clock.isoTime_shows rfl rfl rfl) (by decide)]
  exact clock.ofShown?_shownSecond

end TimeOfDay

theorem Date.ofFields?_isoDate (day : Date) :
    (Format.isoDate.scan (Format.isoDate.render day.fields)).bind Date.ofFields? = some day := by
  rw [Format.scan_render (day.isoDate_shows rfl rfl rfl) (by decide)]
  exact day.of?_self

namespace Timestamp

/-- The moment without the fraction of its second. -/
def wholeSecond (moment : Timestamp) : Timestamp :=
  { moment with time := moment.time.wholeSecond }

theorem isoTimestamp_shows (moment : Timestamp) :
    ∀ directive ∈ Format.isoTimestamp, directive.Shows moment.fields :=
  List.forall_mem_append.2 ⟨moment.date.isoDate_shows rfl rfl rfl,
    List.forall_mem_cons.2 ⟨trivial, moment.time.isoTime_shows rfl rfl rfl⟩⟩

theorem ofFields?_isoTimestamp (moment : Timestamp) :
    (Format.isoTimestamp.scan (Format.isoTimestamp.render moment.fields)).bind ofFields? =
      some moment.wholeSecond := by
  have day : Date.ofFields? moment.fields = some moment.date := moment.date.of?_self
  have clock : TimeOfDay.ofFields? moment.fields = some moment.time.wholeSecond :=
    moment.time.ofShown?_shownSecond
  have shown : Format.isoTimestamp.shown moment.fields = moment.fields := rfl
  rw [Format.scan_render moment.isoTimestamp_shows (by decide), shown, Option.bind_some]
  unfold ofFields?
  rw [day, clock]
  rfl

theorem wholeSecond_eq_iff {moment : Timestamp} :
    moment.wholeSecond = moment ↔ moment.time.nanosecond % 1000000000 = 0 := by
  rw [← TimeOfDay.wholeSecond_eq_iff]
  constructor
  · exact congrArg time
  · intro kept
    unfold wholeSecond
    rw [kept]

end Timestamp

/-- Under the column type of its kind each date comes back as it was, and each time and timestamp
in its whole second, which is all of it when it has no fraction. -/
theorem restored_in_whole_seconds {dialect : Dialect} (known : dialect ∈ Dialect.standard) :
    (∀ day, ∃ content, (Bind.mk .date (.date day)).stored dialect = .text content ∧
      Value.restore dialect .date (some (.text content)) = some (.date day)) ∧
    (∀ clock, ∃ content, (Bind.mk .time (.time clock)).stored dialect = .text content ∧
      Value.restore dialect .time (some (.text content)) = some (.time clock.wholeSecond)) ∧
    (∀ moment, ∃ content,
      (Bind.mk .timestamp (.timestamp moment)).stored dialect = .text content ∧
      Value.restore dialect .timestamp (some (.text content)) =
        some (.timestamp moment.wholeSecond)) ∧
    (∀ clock : TimeOfDay, (clock.wholeSecond = clock ↔ clock.nanosecond % 1000000000 = 0) ∧
      (clock.isLeapSecond = true →
        clock.wholeSecond.second = 59 ∧ clock.wholeSecond.nanosecond = 1000000000)) ∧
    ∀ moment : Timestamp,
      moment.wholeSecond = moment ↔ moment.time.nanosecond % 1000000000 = 0 := by
  obtain ⟨dates, times, timestamps⟩ := Dialect.formats_of_standard known
  refine ⟨?_, ?_, ?_, ?_, fun _ => Timestamp.wholeSecond_eq_iff⟩
  · intro day
    refine ⟨_, rfl, ?_⟩
    simp only [Value.restore, restoreText?, dates, day.ofFields?_isoDate, Option.map_some,
      Option.getD_some]
  · intro clock
    refine ⟨_, rfl, ?_⟩
    simp only [Value.restore, restoreText?, times, clock.ofFields?_isoTime, Option.map_some,
      Option.getD_some]
  · intro moment
    refine ⟨_, rfl, ?_⟩
    simp only [Value.restore, restoreText?, timestamps, moment.ofFields?_isoTimestamp,
      Option.map_some, Option.getD_some]
  · intro clock
    refine ⟨TimeOfDay.wholeSecond_eq_iff, fun leap => ?_⟩
    have last : clock.second = 59 := TimeOfDay.second_of_isLeapSecond leap
    exact ⟨last, if_pos leap⟩

/-- A leap second of the first year there is, with a fraction. -/
def ancientMoment : Timestamp :=
  { date := ⟨-262143, 12, 31, by decide, by decide, by decide⟩
    time := ⟨23, 59, 59, 1500000000, by decide, by decide, by decide, by decide⟩ }

theorem restored_in_whole_seconds_ancientMoment :
    Dialect.mysql ∈ Dialect.standard ∧
    (Bind.mk .timestamp (.timestamp ancientMoment)).stored .mysql =
      .text "-262143-12-31 23:59:60" ∧
    Value.restore .mysql .timestamp (some (.text "-262143-12-31 23:59:60")) =
      some (.timestamp ancientMoment.wholeSecond) ∧
    ancientMoment.wholeSecond.time.nanosecond = 1000000000 ∧
    ancientMoment.wholeSecond ≠ ancientMoment := by
  have known : Dialect.mysql ∈ Dialect.standard := by simp [Dialect.standard]
  obtain ⟨-, -, moments, clocks, exactly⟩ := restored_in_whole_seconds known
  obtain ⟨content, stored, restored⟩ := moments ancientMoment
  have written : (Bind.mk .timestamp (.timestamp ancientMoment)).stored .mysql =
      .text "-262143-12-31 23:59:60" := by
    decide +kernel
  have same : content = "-262143-12-31 23:59:60" := Param.text.inj (stored.symm.trans written)
  rw [same] at restored
  exact ⟨known, written, restored, ((clocks ancientMoment.time).2 (by decide)).2,
    fun kept => absurd ((exactly ancientMoment).1 kept) (by decide)⟩

end PreparedSql
