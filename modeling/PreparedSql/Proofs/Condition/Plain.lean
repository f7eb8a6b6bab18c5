import PreparedSql.Proofs.Condition.Operand

/-! Texts that a condition is written with: names, operators and verbatim SQL without
parentheses, quotes and connectives, put together to leaves. -/

namespace PreparedSql.Condition

instance (lexemes : List Lexeme) : Decidable (Free lexemes) :=
  decidable_of_iff (∀ lexeme ∈ lexemes, Lexeme.isKeyword .and lexeme = false ∧
      Lexeme.isKeyword .or lexeme = false)
    ⟨fun free lexeme member connective => by
      cases connective
      · exact (free lexeme member).1
      · exact (free lexeme member).2,
    fun free lexeme member => ⟨free lexeme member .and, free lexeme member .or⟩⟩

/-- No parenthesis, no quote, and neither of the words AND and OR. -/
def Plain (sql : String) : Prop :=
  Avoids ['(', ')', '\'', '"'] sql ∧ Free (lex (sql.toList.map .char))

instance (sql : String) : Decidable (Plain sql) :=
  inferInstanceAs (Decidable (_ ∧ _))

variable {valuation : Valuation}

/-- Any part of a condition. -/
def Tail (valuation : Valuation) (sql : String) : Prop :=
  ∃ marks, Part valuation sql marks

/-- A part that is not blank and not a group alone: with this in front, a text is a leaf. -/
def Lead (valuation : Valuation) (sql : String) : Prop :=
  ∃ marks character, Part valuation sql marks ∧ .char character ∈ marks ∧
    character.isWhitespace = false

namespace Plain

variable {sql : String}

theorem part (plain : Plain sql) : Part valuation sql (sql.toList.map .char) where
  toScans := Scans.chars (plain.1.mono (by decide))
  free := plain.2

theorem tail (plain : Plain sql) : Tail valuation sql :=
  ⟨_, plain.part⟩

/-- A verbatim condition is a leaf, also when it is blank. -/
theorem operand (plain : Plain sql) : Operand valuation sql (leaf valuation sql) :=
  ⟨_, plain.part, readOperand_of_chars valuation sql.toList⟩

/-- Two names with a dot between them. -/
theorem qualified {first second : String} (front : Plain first) (back : Plain second) :
    Lead valuation (first ++ "." ++ second) :=
  ⟨_, '.', front.part.glue back.part (by decide) (by decide) (by decide),
    List.mem_append_right _ List.mem_cons_self, by decide⟩

end Plain

namespace Tail

/-- A query in parentheses, or anything else with matching ones. -/
theorem enclosed {sql : String} (inner : ∃ marks, Scans valuation sql marks) :
    Tail valuation ("(" ++ sql ++ ")") := by
  obtain ⟨marks, scans⟩ := inner
  exact ⟨_, scans.enclosed, Free.single _⟩

end Tail

namespace Lead

variable {first second : String}

theorem tail (lead : Lead valuation first) : Tail valuation first := by
  obtain ⟨marks, -, part, -⟩ := lead
  exact ⟨marks, part⟩

theorem operand (lead : Lead valuation first) :
    Operand valuation first (leaf valuation first) := by
  obtain ⟨marks, character, part, member, dark⟩ := lead
  exact part.leaf member dark

theorem glue (lead : Lead valuation first) (tail : Tail valuation second) {between : String}
    {character : Char} (single : between.toList = [character])
    (outside : isWordChar character = false) (flat : character ∉ ['(', ')']) :
    Lead valuation (first ++ between ++ second) := by
  obtain ⟨front, solid, part, member, dark⟩ := lead
  obtain ⟨back, rest⟩ := tail
  exact ⟨_, solid, part.glue rest single outside flat, List.mem_append_left _ member, dark⟩

theorem space (lead : Lead valuation first) (tail : Tail valuation second) :
    Lead valuation (first ++ " " ++ second) :=
  lead.glue tail (show " ".toList = [' '] by decide) (by decide) (by decide)

theorem equals (lead : Lead valuation first) (tail : Tail valuation second) :
    Lead valuation (first ++ "=" ++ second) :=
  lead.glue tail (show "=".toList = ['='] by decide) (by decide) (by decide)

/-- A function call. -/
theorem upper {sql : String} (inner : ∃ marks, Scans valuation sql marks) :
    Lead valuation ("UPPER(" ++ sql ++ ")") := by
  obtain ⟨marks, scans⟩ := inner
  have name : Part valuation "UPPER" ("UPPER".toList.map .char) :=
    Plain.part (by decide)
  have whole := name.toScans.append scans.enclosed
  have text : ("UPPER" ++ ("(" ++ sql ++ ")") : String) = "UPPER(" ++ sql ++ ")" := by
    rw [← String.append_assoc, ← String.append_assoc]
    rfl
  rw [text] at whole
  refine ⟨_, 'U', ⟨whole, ?_⟩, List.mem_append_left _ (List.mem_map.2 ⟨'U', by decide, rfl⟩),
    by decide⟩
  rw [lex_append rfl]
  exact name.free.append (Free.single _)

end Lead

end PreparedSql.Condition
