import PreparedSql.Json.Basic

/-! Writing JSON without blanks. Quotes, backslashes and control characters are escaped, and
everything else is written as it is. -/

namespace PreparedSql

namespace Json

def hexDigits (code : Nat) : List Char :=
  [Nat.digitChar (code / 16), Nat.digitChar (code % 16)]

def escape (character : Char) : List Char :=
  match character with
  | '"' => ['\\', '"']
  | '\\' => ['\\', '\\']
  | '\x08' => ['\\', 'b']
  | '\x0c' => ['\\', 'f']
  | '\n' => ['\\', 'n']
  | '\r' => ['\\', 'r']
  | '\t' => ['\\', 't']
  | _ =>
      if character.toNat < 0x20 then
        '\\' :: 'u' :: '0' :: '0' :: hexDigits character.toNat
      else [character]

/-- A string that is no text is written as a surrogate without a partner. -/
def writeString : Option String → List Char
  | some content => '"' :: content.toList.flatMap escape ++ ['"']
  | none => ['"', '\\', 'u', 'd', '8', '0', '0', '"']

def Token.write : Token → List Char
  | .openBrace => ['\x7b']
  | .closeBrace => ['\x7d']
  | .openBracket => ['[']
  | .closeBracket => [']']
  | .colon => [':']
  | .comma => [',']
  | .null => ['n', 'u', 'l', 'l']
  | .bool true => ['t', 'r', 'u', 'e']
  | .bool false => ['f', 'a', 'l', 's', 'e']
  | .number written => written.toList
  | .string content => writeString content

mutual

def tokens : Json → List Token
  | .null => [.null]
  | .bool flag => [.bool flag]
  | .number written => [.number written]
  | .string content => [.string content]
  | .array items => .openBracket :: itemTokens items ++ [.closeBracket]
  | .object members => .openBrace :: memberTokens members ++ [.closeBrace]

def itemTokens : List Json → List Token
  | [] => []
  | item :: items =>
      match items with
      | [] => tokens item
      | _ :: _ => tokens item ++ .comma :: itemTokens items

def memberTokens : List (Option String × Json) → List Token
  | [] => []
  | (key, value) :: members =>
      match members with
      | [] => .string key :: .colon :: tokens value
      | _ :: _ => .string key :: .colon :: tokens value ++ .comma :: memberTokens members

end

def write (json : Json) : String :=
  String.ofList (json.tokens.flatMap Token.write)

end Json

end PreparedSql
