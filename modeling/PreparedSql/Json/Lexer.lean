import PreparedSql.Json.Basic
import PreparedSql.Number.Decimal

/-! Reading JSON text character by character into tokens. The grammar is strict: no leading
zeros, no control characters inside strings, and no blanks but space, tab and line ends. -/

namespace PreparedSql

namespace Json

/-- The characters of a string so far, the last one first. An escaped high surrogate waits for
its partner; a surrogate that is left alone spoils the string. -/
structure Contents where
  reversed : List Char := []
  high : Option Nat := none
  spoiled : Bool := false

namespace Contents

def add (contents : Contents) (character : Char) : Contents :=
  { reversed := character :: contents.reversed
    high := none
    spoiled := contents.spoiled || contents.high.isSome }

/-- Adds a character that is escaped as a unit of UTF-16. -/
def addUnit (contents : Contents) (code : Nat) : Contents :=
  if 0xD800 ≤ code ∧ code < 0xDC00 then
    { contents with
      high := some code
      spoiled := contents.spoiled || contents.high.isSome }
  else if 0xDC00 ≤ code ∧ code < 0xE000 then
    match contents.high with
    | some high =>
        { contents with
          reversed := Char.ofNat (0x10000 + (high - 0xD800) * 0x400 + (code - 0xDC00)) ::
            contents.reversed
          high := none }
    | none => { contents with spoiled := true }
  else contents.add (Char.ofNat code)

def finish (contents : Contents) : Option String :=
  if contents.spoiled || contents.high.isSome then none
  else some (String.ofList contents.reversed.reverse)

end Contents

/-- How far a number has been read. -/
inductive NumberPart where
  | sign
  | zero
  | whole
  | point
  | fraction
  | exponent
  | exponentSign
  | exponentDigits

namespace NumberPart

/-- The part that the next character belongs to; none if the number cannot go on with it. -/
def next? (part : NumberPart) (character : Char) : Option NumberPart :=
  let digit := character.isDigit
  let exponent := character = 'e' || character = 'E'
  match part with
  | .sign => if character = '0' then some .zero else if digit then some .whole else none
  | .zero => if character = '.' then some .point else if exponent then some .exponent else none
  | .whole =>
      if digit then some .whole else if character = '.' then some .point
      else if exponent then some .exponent else none
  | .point => if digit then some .fraction else none
  | .fraction => if digit then some .fraction else if exponent then some .exponent else none
  | .exponent =>
      if digit then some .exponentDigits
      else if character = '+' ∨ character = '-' then some .exponentSign else none
  | .exponentSign | .exponentDigits => if digit then some .exponentDigits else none

/-- The number may end here. -/
def isComplete : NumberPart → Bool
  | .zero | .whole | .fraction | .exponentDigits => true
  | .sign | .point | .exponent | .exponentSign => false

end NumberPart

/-- What the lexer is in the middle of. -/
inductive Scan where
  | between
  /-- A word of which the given letters are missing. -/
  | word (missing : List Char) (token : Token)
  | number (part : NumberPart) (reversed : List Char)
  | string (contents : Contents)
  /-- Behind the backslash of an escape. -/
  | escape (contents : Contents)
  /-- Within the four hexadecimal digits of an escape. -/
  | unicode (contents : Contents) (missing : Nat) (code : Nat)

/-- The lexer: the tokens read, the last one first, and what it is in the middle of. -/
structure Lexer where
  tokens : List Token := []
  scan : Scan := .between

namespace Lexer

def emit (lexer : Lexer) (token : Token) : Lexer :=
  { tokens := token :: lexer.tokens, scan := .between }

def enter (lexer : Lexer) (scan : Scan) : Lexer :=
  { lexer with scan }

def numberToken (reversed : List Char) : Token :=
  .number (String.ofList reversed.reverse)

/-- A character between two tokens. -/
def start? (lexer : Lexer) (character : Char) : Option Lexer :=
  match character with
  | ' ' | '\t' | '\n' | '\r' => some (lexer.enter .between)
  | '\x7b' => some (lexer.emit .openBrace)
  | '\x7d' => some (lexer.emit .closeBrace)
  | '[' => some (lexer.emit .openBracket)
  | ']' => some (lexer.emit .closeBracket)
  | ':' => some (lexer.emit .colon)
  | ',' => some (lexer.emit .comma)
  | '"' => some (lexer.enter (.string {}))
  | 'n' => some (lexer.enter (.word ['u', 'l', 'l'] .null))
  | 't' => some (lexer.enter (.word ['r', 'u', 'e'] (.bool true)))
  | 'f' => some (lexer.enter (.word ['a', 'l', 's', 'e'] (.bool false)))
  | '-' => some (lexer.enter (.number .sign [character]))
  | '0' => some (lexer.enter (.number .zero [character]))
  | _ =>
      if character.isDigit then some (lexer.enter (.number .whole [character])) else none

/-- The character that a one-letter escape stands for. -/
def escaped? : Char → Option Char
  | '"' => some '"'
  | '\\' => some '\\'
  | '/' => some '/'
  | 'b' => some '\x08'
  | 'f' => some '\x0c'
  | 'n' => some '\n'
  | 'r' => some '\r'
  | 't' => some '\t'
  | _ => none

def hexValue? (character : Char) : Option Nat :=
  if character.isDigit then some (character.toNat - '0'.toNat)
  else if 'a' ≤ character ∧ character ≤ 'f' then some (character.toNat - 'a'.toNat + 10)
  else if 'A' ≤ character ∧ character ≤ 'F' then some (character.toNat - 'A'.toNat + 10)
  else none

/-- The next character; none if no JSON text goes on with it. -/
def step? (lexer : Lexer) (character : Char) : Option Lexer :=
  match lexer.scan with
  | .between => lexer.start? character
  | .word [] token => (lexer.emit token).start? character
  | .word (letter :: missing) token =>
      if character = letter then
        if missing.isEmpty then some (lexer.emit token)
        else some (lexer.enter (.word missing token))
      else none
  | .number part reversed =>
      match part.next? character with
      | some next => some (lexer.enter (.number next (character :: reversed)))
      | none =>
          if part.isComplete then
            if character.isDigit then none
            else (lexer.emit (numberToken reversed)).start? character
          else none
  | .string contents =>
      if character = '"' then some (lexer.emit (.string contents.finish))
      else if character = '\\' then some (lexer.enter (.escape contents))
      else if character.toNat < 0x20 then none
      else some (lexer.enter (.string (contents.add character)))
  | .escape contents =>
      if character = 'u' then some (lexer.enter (.unicode contents 4 0))
      else (escaped? character).map fun meant => lexer.enter (.string (contents.add meant))
  | .unicode contents missing code =>
      (hexValue? character).map fun value =>
        let code := 16 * code + value
        if missing ≤ 1 then lexer.enter (.string (contents.addUnit code))
        else lexer.enter (.unicode contents (missing - 1) code)

/-- The tokens in their order, unless the text ends in the middle of one. -/
def finish? (lexer : Lexer) : Option (List Token) :=
  match lexer.scan with
  | .between => some lexer.tokens.reverse
  | .number part reversed =>
      if part.isComplete then some (lexer.emit (numberToken reversed)).tokens.reverse else none
  | _ => none

end Lexer

def tokens? (text : List Char) : Option (List Token) :=
  (text.foldlM Lexer.step? {}).bind Lexer.finish?

end Json

end PreparedSql
