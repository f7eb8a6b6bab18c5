import Mathlib.Data.List.Forall2
import PreparedSql.Operator

/-! Reading the text of a condition: parentheses first, then AND, then OR. What is left between
them is a leaf, whose truth is given from outside. -/

namespace PreparedSql

/-- The truth of a condition, which is not known when NULL is compared. -/
inductive Truth where
  | no
  | unknown
  | yes
  deriving DecidableEq, Repr, Inhabited

namespace Truth

def and : Truth → Truth → Truth
  | .no, _ | _, .no => .no
  | .yes, .yes => .yes
  | _, _ => .unknown

def or : Truth → Truth → Truth
  | .yes, _ | _, .yes => .yes
  | .no, .no => .no
  | _, _ => .unknown

def all (truths : List Truth) : Truth :=
  truths.foldr and .yes

def any (truths : List Truth) : Truth :=
  truths.foldr or .no

theorem all_singleton (truth : Truth) : all [truth] = truth := by
  cases truth <;> rfl

theorem any_singleton (truth : Truth) : any [truth] = truth := by
  cases truth <;> rfl

theorem and_assoc (first second third : Truth) :
    (first.and second).and third = first.and (second.and third) := by
  cases first <;> cases second <;> cases third <;> rfl

theorem all_append (first second : List Truth) :
    all (first ++ second) = (all first).and (all second) := by
  induction first with
  | nil => cases same : all second <;> exact same
  | cons truth truths ih =>
    calc
      all (truth :: truths ++ second) = truth.and (all (truths ++ second)) := rfl
      _ = (truth.and (all truths)).and (all second) := by rw [ih, and_assoc]

end Truth

def Connective.truth : Connective → List Truth → Truth
  | .and => Truth.all
  | .or => Truth.any

/-- The truth of every leaf, by its text. The constant conditions keep their meaning. -/
structure Valuation where
  truth : String → Truth
  always : truth alwaysTrue = .yes
  never : truth alwaysFalse = .no

namespace Condition

/-- A character of the text, or what stood between two parentheses. -/
inductive Mark where
  | char (character : Char)
  | group (inner : List Char) (truth : Truth)

def Mark.text : Mark → List Char
  | .char character => [character]
  | .group inner _ => '(' :: (inner ++ [')'])

/-- A whole word, or a mark that belongs to no word. -/
inductive Lexeme where
  | word (letters : List Char)
  | single (mark : Mark)

namespace Lexeme

def text : Lexeme → List Char
  | .word letters => letters
  | .single mark => mark.text

def isBlank : Lexeme → Bool
  | .single (.char character) => character.isWhitespace
  | _ => false

/-- The word in any ASCII case. -/
def isWord (keyword : String) : Lexeme → Bool
  | .word letters => letters.map Char.toLower == keyword.toList
  | .single _ => false

def isKeyword : Connective → Lexeme → Bool
  | .and => isWord "and"
  | .or => isWord "or"

end Lexeme

def isWordChar (character : Char) : Bool :=
  character.isAlphanum || character == '_' || character == '$' || 128 ≤ character.toNat

/-- Puts a letter in front of the word that comes next, or else makes it a word. -/
def attach (character : Char) : List Lexeme → List Lexeme
  | .word letters :: rest => .word (character :: letters) :: rest
  | rest => .word [character] :: rest

def lex : List Mark → List Lexeme
  | [] => []
  | .group inner truth :: rest => .single (.group inner truth) :: lex rest
  | .char character :: rest =>
      if isWordChar character then attach character (lex rest)
      else .single (.char character) :: lex rest

/-- The text without the blanks around it. -/
def trimBlanks (text : List Char) : List Char :=
  ((text.dropWhile Char.isWhitespace).reverse.dropWhile Char.isWhitespace).reverse

def leafTruth (valuation : Valuation) (text : List Char) : Truth :=
  valuation.truth (String.ofList (trimBlanks text))

/-- A group that stands alone has the truth of what is inside; anything else is a leaf. -/
def readOperand (valuation : Valuation) (lexemes : List Lexeme) : Truth :=
  match lexemes.filter (!·.isBlank) with
  | [.single (.group _ truth)] => truth
  | _ => leafTruth valuation (lexemes.flatMap Lexeme.text)

/-- AND binds closer than OR. -/
def readLevel (valuation : Valuation) (marks : List Mark) : Truth :=
  Truth.any (((lex marks).splitOnP (Lexeme.isKeyword .or)).map fun part =>
    Truth.all ((part.splitOnP (Lexeme.isKeyword .and)).map (readOperand valuation)))

/-- What comes back from a text inside of the open parentheses: for each of them the marks in
front of it are kept. There is none when the parentheses do not match. -/
def scan (valuation : Valuation) : List (List Mark) → List Mark → List Char → Option Truth
  | [], marks, [] => some (readLevel valuation marks)
  | _ :: _, _, [] => none
  | outer, marks, character :: rest =>
      if character = '(' then scan valuation (marks :: outer) [] rest
      else if character = ')' then
        match outer with
        | [] => none
        | before :: outer =>
            scan valuation outer
              (before ++ [.group (marks.flatMap Mark.text) (readLevel valuation marks)]) rest
      else scan valuation outer (marks ++ [.char character]) rest

/-- The truth of a condition that is given as text. -/
def read (valuation : Valuation) (sql : String) : Option Truth :=
  scan valuation [] [] sql.toList

theorem attach_append (character : Char) (front : List Lexeme) (mark : Mark)
    (back : List Lexeme) :
    attach character (front ++ .single mark :: back) =
      attach character front ++ .single mark :: back := by
  cases front with
  | nil => rfl
  | cons first rest => cases first <;> rfl

/-- No word reaches over the mark. -/
def Mark.breaks : Mark → Bool
  | .char character => !isWordChar character
  | .group _ _ => true

theorem lex_append {mark : Mark} (breaks : mark.breaks = true) (front back : List Mark) :
    lex (front ++ mark :: back) = lex front ++ .single mark :: lex back := by
  induction front with
  | nil =>
    cases mark with
    | group inner truth => rfl
    | char character =>
      have outside : isWordChar character = false := by simpa [Mark.breaks] using breaks
      simp only [List.nil_append, lex, outside, Bool.false_eq_true, if_false]
  | cons first rest ih =>
    cases first with
    | group inner truth => simp only [List.cons_append, lex, ih]
    | char character =>
      simp only [List.cons_append, lex, ih]
      split
      next => exact attach_append character (lex rest) mark (lex back)
      next => rfl

theorem text_attach (character : Char) (lexemes : List Lexeme) :
    (attach character lexemes).flatMap Lexeme.text =
      character :: lexemes.flatMap Lexeme.text := by
  cases lexemes with
  | nil => simp [attach, Lexeme.text]
  | cons first rest => cases first <;> simp [attach, Lexeme.text]

theorem text_lex (marks : List Mark) :
    (lex marks).flatMap Lexeme.text = marks.flatMap Mark.text := by
  induction marks with
  | nil => simp [lex]
  | cons mark marks ih =>
    cases mark with
    | group inner truth => simp only [lex, List.flatMap_cons, ih, Lexeme.text]
    | char character =>
      unfold lex
      split
      next => simp [text_attach, ih, Mark.text]
      next => simp [ih, Lexeme.text, Mark.text]

/-- More than a blank, and no group: a leaf. -/
def Lexeme.isSolid : Lexeme → Bool
  | .word _ => true
  | .single (.char character) => !character.isWhitespace
  | .single (.group _ _) => false

theorem exists_solid_attach (character : Char) (lexemes : List Lexeme) :
    ∃ lexeme ∈ attach character lexemes, lexeme.isSolid = true := by
  unfold attach
  split <;> exact ⟨_, List.mem_cons_self, rfl⟩

/-- A character that is no blank is part of a word or stands for itself. -/
theorem exists_solid_lexeme {character : Char} {marks : List Mark}
    (member : .char character ∈ marks) (dark : character.isWhitespace = false) :
    ∃ lexeme ∈ lex marks, lexeme.isSolid = true := by
  induction marks with
  | nil => cases member
  | cons mark marks ih =>
    rcases List.mem_cons.1 member with rfl | later
    · unfold lex
      split
      next => exact exists_solid_attach character (lex marks)
      next => exact ⟨_, List.mem_cons_self, by simp [Lexeme.isSolid, dark]⟩
    · obtain ⟨lexeme, inside, solid⟩ := ih later
      cases mark with
      | group inner truth => exact ⟨lexeme, List.mem_cons_of_mem _ inside, solid⟩
      | char other =>
        unfold lex
        split
        next => exact exists_solid_attach other (lex marks)
        next => exact ⟨lexeme, List.mem_cons_of_mem _ inside, solid⟩

/-- What holds something solid is a leaf as a whole. -/
theorem readOperand_of_solid {valuation : Valuation} {lexemes : List Lexeme}
    (solid : ∃ lexeme ∈ lexemes, lexeme.isSolid = true) :
    readOperand valuation lexemes =
      leafTruth valuation (lexemes.flatMap Lexeme.text) := by
  obtain ⟨lexeme, member, solid⟩ := solid
  have kept : lexeme ∈ lexemes.filter (!·.isBlank) := by
    refine List.mem_filter.2 ⟨member, ?_⟩
    cases lexeme with
    | word letters => rfl
    | single mark => cases mark <;> simp_all [Lexeme.isSolid, Lexeme.isBlank]
  unfold readOperand
  split
  next inner truth same =>
    rw [same] at kept
    cases List.mem_singleton.1 kept
    cases solid
  next => rfl

theorem mem_of_single_mem_lex {mark : Mark} {marks : List Mark}
    (member : .single mark ∈ lex marks) : mark ∈ marks := by
  induction marks with
  | nil => cases member
  | cons first rest ih =>
    have attached {character : Char} {lexemes : List Lexeme}
        (inside : .single mark ∈ attach character lexemes) : .single mark ∈ lexemes := by
      unfold attach at inside
      split at inside
      next => exact List.mem_cons_of_mem _ (by simpa using inside)
      next => simpa using inside
    cases first with
    | group inner truth =>
      rcases List.mem_cons.1 member with same | later
      · cases same
        exact List.mem_cons_self
      · exact List.mem_cons_of_mem _ (ih later)
    | char character =>
      unfold lex at member
      split at member
      next => exact List.mem_cons_of_mem _ (ih (attached member))
      next =>
        rcases List.mem_cons.1 member with same | later
        · cases same
          exact List.mem_cons_self
        · exact List.mem_cons_of_mem _ (ih later)

/-- Characters alone are nothing but a leaf. -/
theorem readOperand_of_chars (valuation : Valuation) (content : List Char) :
    readOperand valuation (lex (content.map .char)) = leafTruth valuation content := by
  have text : (lex (content.map Mark.char)).flatMap Lexeme.text = content := by
    rw [text_lex]
    simp [List.flatMap_map, Mark.text]
  unfold readOperand
  split
  next inner truth same =>
    have kept : Lexeme.single (.group inner truth) ∈
        (lex (content.map Mark.char)).filter (!·.isBlank) := by
      rw [same]
      exact List.mem_cons_self
    have group := mem_of_single_mem_lex (List.mem_of_mem_filter kept)
    simp at group
  next => rw [text]

theorem trimBlanks_append_space (text : List Char) :
    trimBlanks (text ++ [' ']) = trimBlanks text := by
  unfold trimBlanks
  rw [List.dropWhile_append]
  split
  next empty =>
    rw [List.isEmpty_iff.1 empty]
    rfl
  next => rw [List.reverse_append]; rfl

/-- A blank in front of an operand or behind it is not read. -/
theorem readOperand_space_cons (valuation : Valuation) (lexemes : List Lexeme) :
    readOperand valuation (.single (.char ' ') :: lexemes) = readOperand valuation lexemes :=
  rfl

theorem readOperand_append_space (valuation : Valuation) (lexemes : List Lexeme) :
    readOperand valuation (lexemes ++ [.single (.char ' ')]) = readOperand valuation lexemes := by
  have kept : (lexemes ++ [Lexeme.single (.char ' ')]).filter (!·.isBlank) =
      lexemes.filter (!·.isBlank) := by
    rw [List.filter_append]
    exact List.append_nil _
  have text : (lexemes ++ [Lexeme.single (.char ' ')]).flatMap Lexeme.text =
      lexemes.flatMap Lexeme.text ++ [' '] :=
    List.flatMap_append
  unfold readOperand leafTruth
  rw [kept, text, trimBlanks_append_space]

end Condition

end PreparedSql
