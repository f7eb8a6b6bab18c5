/-! The Unicode property White_Space: the characters skipped in front of a number of a
written date, and those an alias may not consist of alone. -/

namespace PreparedSql.Text

/-- The 25 characters with the property White_Space. -/
def isBlank (character : Char) : Bool :=
  let code := character.toNat
  (0x9 ≤ code && code ≤ 0xD) || code == 0x20 || code == 0x85 || code == 0xA0 ||
    code == 0x1680 || (0x2000 ≤ code && code ≤ 0x200A) || code == 0x2028 ||
    code == 0x2029 || code == 0x202F || code == 0x205F || code == 0x3000

/-- The text holds no character but blanks. -/
def isBlankText (text : String) : Bool :=
  text.toList.all isBlank

def dropBlanks (text : List Char) : List Char :=
  text.dropWhile isBlank

end PreparedSql.Text
