import PreparedSql.Value.Basic

/-! Ordinary data as values: every number of at most 64 bits that a column of integers can
hold, floating-point numbers, texts, bytes, dates and times, and all of these as an option. -/

namespace PreparedSql

class ToValue (α : Type) where
  toValue : α → Value

export ToValue (toValue)

instance : ToValue Datum := ⟨some⟩
instance : ToValue Bool := ⟨fun flag => some (.bool flag)⟩
instance : ToValue Int64 := ⟨fun number => some (.int number)⟩
instance : ToValue Int32 := ⟨fun number => some (.int number.toInt64)⟩
instance : ToValue Int16 := ⟨fun number => some (.int number.toInt64)⟩
instance : ToValue Int8 := ⟨fun number => some (.int number.toInt64)⟩
instance : ToValue UInt32 := ⟨fun number => some (.int number.toUInt64.toInt64)⟩
instance : ToValue UInt16 := ⟨fun number => some (.int number.toUInt64.toInt64)⟩
instance : ToValue UInt8 := ⟨fun number => some (.int number.toUInt64.toInt64)⟩
instance : ToValue Number.Binary64 := ⟨fun number => some (.float number)⟩
instance : ToValue Number.Binary32 := ⟨fun number => some (.float number.widen)⟩
instance : ToValue String := ⟨fun content => some (.text content)⟩
instance : ToValue (List UInt8) := ⟨fun bytes => some (.blob bytes)⟩
instance : ToValue Date := ⟨fun date => some (.date date)⟩
instance : ToValue TimeOfDay := ⟨fun time => some (.time time)⟩
instance : ToValue Timestamp := ⟨fun timestamp => some (.timestamp timestamp)⟩

/-- An absent value is NULL, so that a value is a value as it stands. -/
instance {α : Type} [ToValue α] : ToValue (Option α) :=
  ⟨fun value => value.bind toValue⟩

end PreparedSql
