/-! Identifiers are matched ignoring the case of the letters A to Z; every other
character has to agree exactly, accented letters included. -/

namespace PreparedSql.Text

/-- The text with the letters A to Z in lower case. -/
def lowercase (text : String) : String :=
  String.ofList (text.toList.map Char.toLower)

def sameIgnoringCase (first second : String) : Bool :=
  lowercase first == lowercase second

theorem sameIgnoringCase_iff (first second : String) :
    sameIgnoringCase first second = true ↔ lowercase first = lowercase second := by
  simp only [sameIgnoringCase, beq_iff_eq]

theorem sameIgnoringCase_refl (text : String) : sameIgnoringCase text text = true := by
  simp only [sameIgnoringCase_iff]

theorem sameIgnoringCase_comm (first second : String) :
    sameIgnoringCase first second = sameIgnoringCase second first := by
  rw [Bool.eq_iff_iff, sameIgnoringCase_iff, sameIgnoringCase_iff, eq_comm]

end PreparedSql.Text
