import PreparedSql.Json.Reader
import PreparedSql.Json.Writer

/-! JSON that is written reads back as the same value, whatever characters are in its strings. The
lexer is followed through the characters of a token, and the reader through the tokens of a value,
with more behind them. -/

namespace PreparedSql.Json

/-- The characters take the lexer from one state to another. -/
def Lexer.Reads (lexer : Lexer) (text : List Char) (next : Lexer) : Prop :=
  text.foldlM Lexer.step? lexer = some next

namespace Lexer

variable {lexer middle next : Lexer} {front back : List Char}

theorem Reads.append (first : lexer.Reads front middle) (second : middle.Reads back next) :
    lexer.Reads (front ++ back) next := by
  unfold Reads
  rw [List.foldlM_append, first]
  exact second

theorem hexValue?_digitChar : ∀ value < 16, hexValue? (Nat.digitChar value) = some value := by
  decide

/-- A control character is written as a unit below the surrogates. -/
theorem addUnit_toNat {character : Char} (control : character.toNat < 0x20)
    (contents : Contents) : contents.addUnit character.toNat = contents.add character := by
  unfold Contents.addUnit
  rw [if_neg (by omega), if_neg (by omega), Char.ofNat_toNat]

/-- Two hexadecimal digits stand for the unit they were made from. -/
theorem reads_hexDigits {code : Nat} (small : code < 256) (tokens : List Token)
    (contents : Contents) :
    Reads ⟨tokens, .unicode contents 2 0⟩ (hexDigits code)
      ⟨tokens, .string (contents.addUnit code)⟩ := by
  have high : hexValue? (Nat.digitChar (code / 16)) = some (code / 16) :=
    hexValue?_digitChar _ (by omega)
  have low : hexValue? (Nat.digitChar (code % 16)) = some (code % 16) :=
    hexValue?_digitChar _ (by omega)
  have whole : 16 * (16 * 0 + code / 16) + code % 16 = code := by omega
  have first : Reads ⟨tokens, .unicode contents 2 0⟩ [Nat.digitChar (code / 16)]
      ⟨tokens, .unicode contents 1 (16 * 0 + code / 16)⟩ := by
    show Option.bind (Option.map _ (hexValue? _)) _ = _
    rw [high]
    rfl
  have second : Reads ⟨tokens, .unicode contents 1 (16 * 0 + code / 16)⟩
      [Nat.digitChar (code % 16)]
      ⟨tokens, .string (contents.addUnit (16 * (16 * 0 + code / 16) + code % 16))⟩ := by
    show Option.bind (Option.map _ (hexValue? _)) _ = _
    rw [low]
    rfl
  rw [whole] at second
  exact first.append second

/-- Inside a string, what a character is written as stands for this character. -/
theorem reads_escape (tokens : List Token) (contents : Contents) (character : Char) :
    Reads ⟨tokens, .string contents⟩ (escape character)
      ⟨tokens, .string (contents.add character)⟩ := by
  unfold escape
  split
  next => rfl
  next => rfl
  next => rfl
  next => rfl
  next => rfl
  next => rfl
  next => rfl
  next unquoted unescaped _ _ _ _ _ =>
    split
    next control =>
      have opened : Reads ⟨tokens, .string contents⟩ ['\\', 'u', '0', '0']
          ⟨tokens, .unicode contents 2 0⟩ := rfl
      have small : character.toNat < 256 := by omega
      have read := opened.append (reads_hexDigits small tokens contents)
      rwa [addUnit_toNat control] at read
    next printed =>
      show Option.bind (step? _ character) _ = _
      unfold step?
      dsimp only
      rw [if_neg unquoted, if_neg unescaped, if_neg printed]
      rfl

theorem reads_escapes (tokens : List Token) (characters reversed : List Char) :
    Reads ⟨tokens, .string { reversed }⟩ (characters.flatMap escape)
      ⟨tokens, .string { reversed := characters.reverse ++ reversed }⟩ := by
  induction characters generalizing reversed with
  | nil => rfl
  | cons character characters ih =>
    have first := reads_escape tokens { reversed } character
    have later := ih (character :: reversed)
    rw [List.flatMap_cons, List.reverse_cons, List.append_assoc]
    exact first.append later

theorem reads_writeString (tokens : List Token) (content : Option String) :
    Reads ⟨tokens, .between⟩ (writeString content) ⟨.string content :: tokens, .between⟩ := by
  cases content with
  | none => rfl
  | some content =>
    have opened : Reads ⟨tokens, .between⟩ ['"'] ⟨tokens, .string {}⟩ := rfl
    have inside := reads_escapes tokens content.toList []
    have closed : Reads ⟨tokens, .string { reversed := content.toList.reverse ++ [] }⟩ ['"']
        ⟨.string (some content) :: tokens, .between⟩ := by
      have read : ({ reversed := content.toList.reverse ++ [] } : Contents).finish =
          some content := by
        simp [Contents.finish]
      rw [← read]
      rfl
    exact (opened.append inside).append closed

end Lexer

/-- Where a number ends is seen by what stands behind it only. -/
def Token.isNumber : Token → Bool
  | .number _ => true
  | _ => false

namespace Lexer

theorem reads_write {token : Token} (closed : token.isNumber = false) (tokens : List Token) :
    Reads ⟨tokens, .between⟩ token.write ⟨token :: tokens, .between⟩ := by
  cases token with
  | number written => cases closed
  | string content => exact reads_writeString tokens content
  | bool flag => cases flag <;> rfl
  | _ => rfl

theorem reads_tokens {tokens : List Token} (closed : ∀ token ∈ tokens, token.isNumber = false)
    (before : List Token) :
    Reads ⟨before, .between⟩ (tokens.flatMap Token.write) ⟨tokens.reverse ++ before, .between⟩ := by
  induction tokens generalizing before with
  | nil => rfl
  | cons token tokens ih =>
    obtain ⟨here, later⟩ := List.forall_mem_cons.1 closed
    have read := (reads_write here before).append (ih later (token :: before))
    rwa [List.reverse_cons, List.append_assoc]

end Lexer

/-- Tokens other than numbers are told apart without blanks between them. -/
theorem tokens?_write {tokens : List Token} (closed : ∀ token ∈ tokens, token.isNumber = false) :
    tokens? (tokens.flatMap Token.write) = some tokens := by
  have read : (tokens.flatMap Token.write).foldlM Lexer.step? {} =
      some ⟨tokens.reverse ++ [], .between⟩ := Lexer.reads_tokens closed []
  unfold tokens?
  rw [read]
  simp [Lexer.finish?]

/-- The tokens take the reader from one state to another. -/
def Reader.Reads (reader : Reader) (tokens : List Token) (next : Reader) : Prop :=
  tokens.foldlM Reader.step? reader = some next

/-- The reader takes the next token as the first one of a value that belongs into the frames. -/
def Reader.Expects (reader : Reader) (frames : List Frame) : Prop :=
  ∀ token, token ≠ .closeBracket → reader.step? token = start? frames token

namespace Reader

variable {reader middle next : Reader} {front back : List Token} {frames outer : List Frame}

theorem Reads.append (first : reader.Reads front middle) (second : middle.Reads back next) :
    reader.Reads (front ++ back) next := by
  unfold Reads
  rw [List.foldlM_append, first]
  exact second

theorem Reads.single {token : Token} (step : reader.step? token = some next) :
    reader.Reads [token] next := by
  unfold Reads
  rw [List.foldlM_cons, step]
  rfl

theorem expects_value (frames : List Frame) : (Reader.value frames).Expects frames :=
  fun _ _ => rfl

theorem expects_firstItem (outer : List Frame) :
    (Reader.firstItem outer).Expects (.array [] :: outer) :=
  fun _ other => if_neg other

mutual

/-- The tokens of a value are read as this value, where a value is expected. -/
theorem reads_value {reader : Reader} {frames : List Frame} (expects : reader.Expects frames) :
    (json : Json) → reader.Reads json.tokens (.after json frames)
  | .null => .single (expects _ nofun)
  | .bool _ => .single (expects _ nofun)
  | .number _ => .single (expects _ nofun)
  | .string _ => .single (expects _ nofun)
  | .array [] => by
      have opened : reader.Reads [.openBracket] (.firstItem frames) := .single (expects _ nofun)
      exact opened.append rfl
  | .array (item :: items) => by
      have opened : reader.Reads [.openBracket] (.firstItem frames) := .single (expects _ nofun)
      exact opened.append (reads_items (expects_firstItem frames) item items)
  | .object [] => by
      have opened : reader.Reads [.openBrace] (.firstKey frames) := .single (expects _ nofun)
      exact opened.append rfl
  | .object (member :: members) => by
      have opened : reader.Reads [.openBrace] (.firstKey frames) := .single (expects _ nofun)
      have first : ∀ key, (Reader.firstKey frames).step? (.string key) =
          some (.colon [] key frames) := fun _ => rfl
      exact opened.append (reads_members first member members)
termination_by json => sizeOf json

/-- The items of an array that are left, and its end. -/
theorem reads_items {reader : Reader} {before : List Json} {outer : List Frame}
    (expects : reader.Expects (.array before :: outer)) (item : Json) : (items : List Json) →
    reader.Reads (itemTokens (item :: items) ++ [.closeBracket])
      (.after (.array (before.reverse ++ item :: items)) outer)
  | [] => by
      have closed : (Reader.after item (.array before :: outer)).Reads [.closeBracket]
          (.after (.array (item :: before).reverse) outer) := rfl
      rw [List.reverse_cons] at closed
      exact (reads_value expects item).append closed
  | following :: items => by
      have continued : (Reader.after item (.array before :: outer)).Reads [.comma]
          (.value (.array (item :: before) :: outer)) := rfl
      have later := reads_items (expects_value (.array (item :: before) :: outer)) following items
      rw [List.reverse_cons, List.append_assoc] at later
      have read := ((reads_value expects item).append continued).append later
      simpa only [itemTokens, List.append_assoc, List.cons_append, List.nil_append] using read
termination_by items => sizeOf item + sizeOf items

/-- The members of an object that are left, and its end. -/
theorem reads_members {reader : Reader} {before : List (Option String × Json)}
    {outer : List Frame}
    (starts : ∀ key, reader.step? (.string key) = some (.colon before key outer)) :
    (member : Option String × Json) → (members : List (Option String × Json)) →
    reader.Reads (memberTokens (member :: members) ++ [.closeBrace])
      (.after (.object (before.reverse ++ member :: members)) outer)
  | (key, held), [] => by
      have named : reader.Reads [.string key] (.colon before key outer) := .single (starts key)
      have divided : (Reader.colon before key outer).Reads [.colon]
          (.value (.object before key :: outer)) := rfl
      have closed : (Reader.after held (.object before key :: outer)).Reads [.closeBrace]
          (.after (.object ((key, held) :: before).reverse) outer) := rfl
      rw [List.reverse_cons] at closed
      have read := reads_value (expects_value (.object before key :: outer)) held
      exact ((named.append divided).append read).append closed
  | (key, held), following :: members => by
      have named : reader.Reads [.string key] (.colon before key outer) := .single (starts key)
      have divided : (Reader.colon before key outer).Reads [.colon]
          (.value (.object before key :: outer)) := rfl
      have continued : (Reader.after held (.object before key :: outer)).Reads [.comma]
          (.nextKey ((key, held) :: before) outer) := rfl
      have next : ∀ other, (Reader.nextKey ((key, held) :: before) outer).step? (.string other) =
          some (.colon ((key, held) :: before) other outer) := fun _ => rfl
      have later := reads_members next following members
      rw [List.reverse_cons, List.append_assoc] at later
      have value := reads_value (expects_value (.object before key :: outer)) held
      have read := (((named.append divided).append value).append continued).append later
      simpa only [memberTokens, List.append_assoc, List.cons_append, List.nil_append] using read
termination_by member members => sizeOf member + sizeOf members

end

end Reader

/-- The tokens of a value are read as this value. -/
theorem ofTokens?_tokens (json : Json) : ofTokens? json.tokens = some json := by
  have read : json.tokens.foldlM Reader.step? (.value []) = some (.after json []) :=
    Reader.reads_value (Reader.expects_value []) json
  unfold ofTokens?
  rw [read]
  rfl

/-- No number is in the value, at any depth. -/
def Numberless (json : Json) : Prop :=
  ∀ token ∈ json.tokens, token.isNumber = false

theorem mem_itemTokens {items : List Json} {token : Token} (member : token ∈ itemTokens items) :
    token = .comma ∨ ∃ item ∈ items, token ∈ item.tokens := by
  induction items with
  | nil => cases member
  | cons item items ih =>
    cases items with
    | nil => exact .inr ⟨item, List.mem_singleton_self item, member⟩
    | cons following items =>
      rcases List.mem_append.1 member with here | later
      · exact .inr ⟨item, List.mem_cons_self, here⟩
      rcases List.mem_cons.1 later with rfl | later
      · exact .inl rfl
      · obtain comma | ⟨held, among, inside⟩ := ih later
        · exact .inl comma
        · exact .inr ⟨held, List.mem_cons_of_mem item among, inside⟩

theorem mem_memberTokens {members : List (Option String × Json)} {token : Token}
    (member : token ∈ memberTokens members) :
    token.isNumber = false ∨ ∃ held ∈ members, token ∈ held.2.tokens := by
  induction members with
  | nil => cases member
  | cons first members ih =>
    have named {rest : List Token} (among : token ∈ .string first.1 :: .colon :: rest) :
        token.isNumber = false ∨ token ∈ rest := by
      rcases List.mem_cons.1 among with rfl | among
      · exact .inl rfl
      rcases List.mem_cons.1 among with rfl | among
      · exact .inl rfl
      · exact .inr among
    cases members with
    | nil =>
      exact (named member).imp_right fun inside => ⟨first, List.mem_singleton_self first, inside⟩
    | cons following members =>
      rcases named member with key | later
      · exact .inl key
      rcases List.mem_append.1 later with here | later
      · exact .inr ⟨first, List.mem_cons_self, here⟩
      rcases List.mem_cons.1 later with rfl | later
      · exact .inl rfl
      · refine (ih later).imp_right ?_
        rintro ⟨held, among, inside⟩
        exact ⟨held, List.mem_cons_of_mem first among, inside⟩

theorem Numberless.array {items : List Json} (each : ∀ item ∈ items, item.Numberless) :
    (Json.array items).Numberless := by
  intro token member
  rcases List.mem_append.1 member with inside | closing
  · rcases List.mem_cons.1 inside with rfl | inside
    · rfl
    obtain rfl | ⟨item, among, here⟩ := mem_itemTokens inside
    · rfl
    · exact each item among token here
  · cases List.mem_singleton.1 closing
    rfl

theorem Numberless.object {members : List (Option String × Json)}
    (each : ∀ member ∈ members, member.2.Numberless) : (Json.object members).Numberless := by
  intro token member
  rcases List.mem_append.1 member with inside | closing
  · rcases List.mem_cons.1 inside with rfl | inside
    · rfl
    obtain other | ⟨held, among, here⟩ := mem_memberTokens inside
    · exact other
    · exact each held among token here
  · cases List.mem_singleton.1 closing
    rfl

theorem Numberless.null : Json.null.Numberless :=
  fun _ member => List.mem_singleton.1 member ▸ rfl

theorem Numberless.bool (flag : Bool) : (Json.bool flag).Numberless :=
  fun _ member => List.mem_singleton.1 member ▸ rfl

theorem Numberless.string (content : Option String) : (Json.string content).Numberless :=
  fun _ member => List.mem_singleton.1 member ▸ rfl

/-- A value without numbers is read back as it was written. -/
theorem parse?_write {json : Json} (numberless : json.Numberless) :
    parse? json.write = some json := by
  unfold parse? write
  rw [String.toList_ofList, tokens?_write numberless]
  exact ofTokens?_tokens json

end PreparedSql.Json
