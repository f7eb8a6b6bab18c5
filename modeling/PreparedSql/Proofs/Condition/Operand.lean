import PreparedSql.Proofs.Characters
import PreparedSql.Proofs.Condition.Reading

/-! Texts that read back as operands: leaves, groups, and what a connective makes of operands.
Scanning such a text inside of another one adds its marks and changes nothing else. -/

namespace PreparedSql.Condition

variable {valuation : Valuation}

/-- Wherever the text stands, scanning it adds the marks. Its parentheses match. -/
structure Scans (valuation : Valuation) (sql : String) (marks : List Mark) : Prop where
  text : marks.flatMap Mark.text = sql.toList
  scan : ∀ outer before rest, Condition.scan valuation outer before (sql.toList ++ rest) =
    Condition.scan valuation outer (before ++ marks) rest

namespace Scans

theorem append {first second : String} {front back : List Mark}
    (opening : Scans valuation first front) (closing : Scans valuation second back) :
    Scans valuation (first ++ second) (front ++ back) where
  text := by rw [List.flatMap_append, opening.text, closing.text, String.toList_append]
  scan := by
    intro outer before rest
    rw [String.toList_append, List.append_assoc, opening.scan, closing.scan, List.append_assoc]

theorem text_chars (content : List Char) :
    (content.map Mark.char).flatMap Mark.text = content := by
  simp [List.flatMap_map, Mark.text]

theorem scan_chars {content : List Char} (flat : ∀ character ∈ content, character ∉ ['(', ')'])
    (outer : List (List Mark)) (before : List Mark) (rest : List Char) :
    Condition.scan valuation outer before (content ++ rest) =
      Condition.scan valuation outer (before ++ content.map .char) rest := by
  induction content generalizing before with
  | nil => simp
  | cons character content ih =>
    obtain ⟨here, later⟩ := List.forall_mem_cons.1 flat
    have noOpening : character ≠ '(' := fun same => here (by simp [same])
    have noClosing : character ≠ ')' := fun same => here (by simp [same])
    rw [List.cons_append, Condition.scan.eq_def]
    simp only [noOpening, noClosing, if_false, ih later, List.map_cons, List.append_assoc,
      List.cons_append, List.nil_append]

/-- A text without parentheses is a row of characters. -/
theorem chars {sql : String} (flat : Avoids ['(', ')'] sql) :
    Scans valuation sql (sql.toList.map .char) where
  text := text_chars sql.toList
  scan := scan_chars flat

/-- Parentheses make a group that has the truth of what is inside. -/
theorem enclosed {sql : String} {marks : List Mark} (inner : Scans valuation sql marks) :
    Scans valuation ("(" ++ sql ++ ")") [.group sql.toList (readLevel valuation marks)] where
  text := by simp [Mark.text]
  scan := by
    intro outer before rest
    have opened : Condition.scan valuation outer before ('(' :: (sql.toList ++ ')' :: rest)) =
        Condition.scan valuation (before :: outer) [] (sql.toList ++ ')' :: rest) := by
      cases outer <;> rfl
    have closed : Condition.scan valuation (before :: outer) marks (')' :: rest) =
        Condition.scan valuation outer
          (before ++ [.group sql.toList (readLevel valuation marks)]) rest := by
      rw [Condition.scan.eq_def]
      simp only [inner.text]
      rfl
    have whole : ("(" ++ sql ++ ")").toList ++ rest = '(' :: (sql.toList ++ ')' :: rest) := by
      simp
    rw [whole, opened, inner.scan, List.nil_append, closed]

end Scans

/-- No AND or OR stands outside of parentheses. -/
def Free (lexemes : List Lexeme) : Prop :=
  ∀ lexeme ∈ lexemes, ∀ connective, Lexeme.isKeyword connective lexeme = false

theorem Free.append {front back : List Lexeme} (first : Free front) (second : Free back) :
    Free (front ++ back) :=
  List.forall_mem_append.2 ⟨first, second⟩

theorem Free.single (mark : Mark) : Free [.single mark] := by
  intro lexeme member connective
  cases List.mem_singleton.1 member
  cases connective <;> rfl

/-- A text of one condition, or of a part of it, with the marks it has. -/
structure Part (valuation : Valuation) (sql : String) (marks : List Mark) : Prop
    extends Scans valuation sql marks where
  free : Free (lex marks)

namespace Part

/-- Parts behind one another, with a character between them that is part of no word. -/
theorem glue {first between second : String} {front back : List Mark} {character : Char}
    (opening : Part valuation first front) (closing : Part valuation second back)
    (single : between.toList = [character]) (outside : isWordChar character = false)
    (flat : character ∉ ['(', ')']) :
    Part valuation (first ++ between ++ second) (front ++ .char character :: back) := by
  have middle : Scans valuation between (between.toList.map .char) :=
    Scans.chars (by simpa [Avoids, single] using flat)
  have scans := (opening.toScans.append middle).append closing.toScans
  rw [single, List.append_assoc] at scans
  refine ⟨scans, ?_⟩
  rw [lex_append (by simp [Mark.breaks, outside])]
  exact opening.free.append ((Free.single (.char character)).append closing.free)

end Part

/-- The text has the truth when it stands between connectives. -/
def Operand (valuation : Valuation) (sql : String) (truth : Truth) : Prop :=
  ∃ marks, Part valuation sql marks ∧ readOperand valuation (lex marks) = truth

/-- The truth of a leaf text. -/
def leaf (valuation : Valuation) (sql : String) : Truth :=
  leafTruth valuation sql.toList

theorem Part.leaf {sql : String} {marks : List Mark} (part : Part valuation sql marks)
    {character : Char} (member : .char character ∈ marks)
    (dark : character.isWhitespace = false) :
    Operand valuation sql (leaf valuation sql) := by
  refine ⟨marks, part, ?_⟩
  rw [readOperand_of_solid (exists_solid_lexeme member dark), text_lex, part.text]
  rfl

/-- The words between the parentheses of a text, without the parentheses. -/
theorem Operand.group {sql : String} {marks : List Mark} (inner : Scans valuation sql marks) :
    Operand valuation ("(" ++ sql ++ ")") (readLevel valuation marks) :=
  ⟨_, ⟨inner.enclosed, Free.single _⟩, rfl⟩

/-- What a level falls into at one connective: free operands, and the truth of each. -/
def Splits (valuation : Valuation) (connective : Connective) (lexemes : List Lexeme)
    (truths : List Truth) : Prop :=
  List.Forall₂ (fun part truth => Free part ∧ readOperand valuation part = truth)
    (lexemes.splitOnP (Lexeme.isKeyword connective)) truths

theorem splitOnP_free {lexemes : List Lexeme} (free : Free lexemes) (connective : Connective) :
    lexemes.splitOnP (Lexeme.isKeyword connective) = [lexemes] :=
  List.splitOnP_eq_singleton fun lexeme member => free lexeme member connective

/-- A blank in front of the first operand goes with it. -/
theorem Splits.space_cons {connective : Connective} {lexemes : List Lexeme}
    {truths : List Truth} (splits : Splits valuation connective lexemes truths) :
    Splits valuation connective (.single (.char ' ') :: lexemes) truths := by
  have blank : Lexeme.isKeyword connective (.single (.char ' ')) = false := by
    cases connective <;> rfl
  unfold Splits at *
  rw [List.splitOnP_cons_eq_if_modifyHead, blank]
  cases parts : lexemes.splitOnP (Lexeme.isKeyword connective) with
  | nil => exact absurd parts (List.splitOnP_ne_nil _ _)
  | cons part others =>
    rw [parts] at splits
    cases splits with
    | cons first rest =>
      have free : Free (.single (.char ' ') :: part) := (Free.single (.char ' ')).append first.1
      have reads := (readOperand_space_cons valuation part).trans first.2
      exact .cons ⟨free, reads⟩ rest

/-- One more operand and the connective in front. -/
theorem Splits.cons {connective : Connective} {first rest : List Lexeme} {keyword : Lexeme}
    {truth : Truth} {truths : List Truth} (free : Free first)
    (reads : readOperand valuation first = truth)
    (named : Lexeme.isKeyword connective keyword = true)
    (splits : Splits valuation connective rest truths) :
    Splits valuation connective
      (first ++ .single (.char ' ') :: keyword :: .single (.char ' ') :: rest)
      (truth :: truths) := by
  have spaced : Free (first ++ [.single (.char ' ')]) := free.append (Free.single (.char ' '))
  have whole : first ++ .single (.char ' ') :: keyword :: .single (.char ' ') :: rest =
      (first ++ [.single (.char ' ')]) ++ keyword :: .single (.char ' ') :: rest := by
    rw [List.append_assoc]
    rfl
  unfold Splits
  rw [whole, List.splitOnP_append_cons_of_forall_mem
    (fun lexeme member => spaced lexeme member connective) keyword named]
  exact .cons ⟨spaced, (readOperand_append_space valuation first).trans reads⟩ splits.space_cons

theorem forall₂_reads {parts : List (List Lexeme)} {truths : List Truth}
    (read : List.Forall₂ (fun part truth => Free part ∧ readOperand valuation part = truth)
      parts truths) :
    parts.map (readOperand valuation) = truths ∧ ∀ part ∈ parts, Free part := by
  induction read with
  | nil => exact ⟨rfl, by simp⟩
  | cons here _ ih =>
    constructor
    · rw [List.map_cons, ih.1, here.2]
    · exact List.forall_mem_cons.2 ⟨here.1, ih.2⟩

/-- A level with one kind of connective has the truth of its operands under it. -/
theorem readLevel_of_splits {connective : Connective} {marks : List Mark} {truths : List Truth}
    (splits : Splits valuation connective (lex marks) truths)
    (alone : ∀ lexeme ∈ lex marks, ∀ other ≠ connective, Lexeme.isKeyword other lexeme = false) :
    readLevel valuation marks = connective.truth truths := by
  obtain ⟨reads, free⟩ := forall₂_reads splits
  unfold readLevel
  cases connective with
  | and =>
    have whole : (lex marks).splitOnP (Lexeme.isKeyword .or) = [lex marks] :=
      List.splitOnP_eq_singleton fun lexeme member => alone lexeme member .or nofun
    rw [whole, List.map_singleton, Truth.any_singleton, reads]
    rfl
  | or =>
    refine congrArg Truth.any (Eq.trans (List.map_congr_left fun part member => ?_) reads)
    rw [splitOnP_free (free part member), List.map_singleton, Truth.all_singleton]

/-- The word of a connective. -/
def keywordChars : Connective → List Char
  | .and => ['A', 'N', 'D']
  | .or => ['O', 'R']

theorem lex_separated (connective : Connective) (front back : List Mark) :
    lex (front ++ connective.separator.toList.map .char ++ back) =
      lex front ++ .single (.char ' ') :: .word (keywordChars connective) ::
        .single (.char ' ') :: lex back := by
  have marks : connective.separator.toList.map Mark.char ++ back =
      .char ' ' :: ((keywordChars connective).map .char ++ .char ' ' :: back) := by
    cases connective <;> rfl
  have word :
      lex ((keywordChars connective).map Mark.char) = [.word (keywordChars connective)] := by
    cases connective <;> rfl
  rw [List.append_assoc, marks, lex_append (by decide), lex_append (by decide), word]
  rfl

theorem keyword_iff (connective other : Connective) :
    Lexeme.isKeyword other (.word (keywordChars connective)) = decide (other = connective) := by
  cases connective <;> cases other <;> decide

/-- Operands with a connective between them, read one after the other. -/
theorem exists_marks_join (connective : Connective) {texts : List String} {truths : List Truth}
    (operands : List.Forall₂ (Operand valuation) texts truths) (some : texts ≠ []) :
    ∃ marks, Scans valuation (connective.separator.intercalate texts) marks ∧
      Splits valuation connective (lex marks) truths ∧
      ∀ lexeme ∈ lex marks, ∀ other ≠ connective, Lexeme.isKeyword other lexeme = false := by
  induction operands with
  | nil => exact absurd rfl some
  | @cons sql truth texts truths first rest ih =>
    obtain ⟨front, part, reads⟩ := first
    cases rest with
    | nil =>
      refine ⟨front, ?_, ?_, fun lexeme member other _ => part.free lexeme member other⟩
      · rw [String.intercalate_singleton]
        exact part.toScans
      · unfold Splits
        rw [splitOnP_free part.free]
        exact .cons ⟨part.free, reads⟩ .nil
    | cons second others =>
      obtain ⟨back, scans, splits, alone⟩ := ih nofun
      have between : Scans valuation connective.separator
          (connective.separator.toList.map .char) :=
        Scans.chars (by cases connective <;> decide)
      refine ⟨front ++ connective.separator.toList.map .char ++ back, ?_, ?_, ?_⟩
      · rw [String.intercalate_cons_cons]
        exact (part.toScans.append between).append scans
      · rw [lex_separated]
        exact splits.cons part.free reads (by rw [keyword_iff]; simp)
      · rw [lex_separated]
        intro lexeme member other different
        rcases List.mem_append.1 member with own | member
        · exact part.free lexeme own other
        rcases List.mem_cons.1 member with rfl | member
        · cases other <;> rfl
        rcases List.mem_cons.1 member with rfl | member
        · rw [keyword_iff]; simp [different]
        rcases List.mem_cons.1 member with rfl | member
        · cases other <;> rfl
        · exact alone lexeme member other different

/-- A node with more than one child stands in parentheses. -/
theorem Operand.enclosed (connective : Connective) {texts : List String} {truths : List Truth}
    (operands : List.Forall₂ (Operand valuation) texts truths) (some : texts ≠ []) :
    Operand valuation ("(" ++ connective.separator.intercalate texts ++ ")")
      (connective.truth truths) := by
  obtain ⟨marks, scans, splits, alone⟩ := exists_marks_join connective operands some
  rw [← readLevel_of_splits splits alone]
  exact Operand.group scans

/-- A whole condition: operands under AND, without parentheses around them. -/
theorem read_conjunction {texts : List String} {truths : List Truth}
    (operands : List.Forall₂ (Operand valuation) texts truths) (some : texts ≠ []) :
    read valuation (" AND ".intercalate texts) = Option.some (Truth.all truths) := by
  obtain ⟨marks, scans, splits, alone⟩ := exists_marks_join .and operands some
  have whole := scans.scan [] [] []
  rw [List.append_nil] at whole
  unfold read
  rw [show (" AND " : String) = Connective.and.separator from rfl, whole]
  exact congrArg Option.some (readLevel_of_splits splits alone)

end PreparedSql.Condition
