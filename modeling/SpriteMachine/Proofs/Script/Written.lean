import Mathlib.Data.List.TakeWhile
import SpriteMachine.Proofs.List
import SpriteMachine.Proofs.Script.Unit

/-!
# Calls as they are written

A written call is an opcode with arguments behind it, each of which is a quoted text, a truth
value or a variable; the name of a variable for the result may stand before it. It reads back
as it was meant, whatever the quoted texts hold: the scan for the end of a literal steps over
each escape as the writer put it there, and a name ends where no character of names goes on.
-/

namespace SpriteMachine

open Text (isBlank isWord startsName trim trimStart trimEnd)

namespace Written

/-- Whether a character may stand inside a written name. -/
def isNamed (c : Char) : Bool := c.isAlphanum || c = '_'

/-- A name of ASCII letters, digits and underscores. -/
structure Name where
  first : Char
  rest : List Char
  starts : startsName first = true
  named : ∀ c ∈ rest, isNamed c = true

/-- Spaces and tabs, possibly none. -/
structure Space where
  chars : List Char
  plain : ∀ c ∈ chars, c = ' ' ∨ c = '\t'

/-- Spaces and tabs that separate two parts of a line. -/
structure Gap extends Space where
  separates : chars ≠ []

/-- What may be written behind the name of an argument. -/
inductive Meaning where
  | quoted (text : String)
  | truth (value : Bool)
  | reference (name : Name)

/-- An argument with the gap before it. -/
structure Argument where
  gap : Gap
  name : Name
  meaning : Meaning

/-- The variable that takes the result, and what stands around it and the equals sign. -/
structure Assignment where
  gap : Gap
  name : Name
  before : Space
  behind : Space

/-- A call with its arguments. Without a variable for the result, the opcode is not the word
that announces one. -/
structure Call where
  assignment : Option Assignment
  opcode : Name
  arguments : List Argument
  unannounced : assignment = none → opcode.first :: opcode.rest ≠ ['s', 'e', 't']

/-- The characters of a name. -/
def Name.chars (name : Name) : List Char := name.first :: name.rest

/-- What is written behind the name of an argument. -/
def Meaning.chars : Meaning → List Char
  | quoted text => (Json.quote text).toList
  | truth value => (if value then "true" else "false").toList
  | reference name => '$' :: name.chars

/-- An argument as it stands in a line. -/
def Argument.chars (argument : Argument) : List Char :=
  argument.gap.chars ++ (argument.name.chars ++ '=' :: argument.meaning.chars)

/-- The announcement of the variable that takes the result. -/
def Assignment.chars (assignment : Assignment) : List Char :=
  's' :: 'e' :: 't' :: (assignment.gap.chars ++ (assignment.name.chars ++
    (assignment.before.chars ++ '=' :: assignment.behind.chars)))

/-- A call as it stands in a line. -/
def Call.chars (call : Call) : List Char :=
  call.assignment.elim [] Assignment.chars ++
    (call.opcode.chars ++ call.arguments.flatMap Argument.chars)

variable {α : Type}

/-- The operand that is meant. -/
def Meaning.operand : Meaning → Operand α
  | quoted text => .literal (.text text)
  | truth value => .literal (.bool value)
  | reference name => .variable (String.ofList name.chars)

/-- An argument's name and operand. -/
def Argument.operand (argument : Argument) : String × Operand α :=
  (String.ofList argument.name.chars, argument.meaning.operand)

/-- The statement that a call on a line means. -/
def Call.statement (call : Call) (line : Nat) : Statement α where
  line := line
  assign := call.assignment.map fun assignment => String.ofList assignment.name.chars
  opcode := String.ofList call.opcode.chars
  args := call.arguments.map Argument.operand

/-! ## Characters -/

/-- The characters of names are letters, digits and the underscore. -/
theorem ranges_of_isNamed {c : Char} (named : isNamed c = true) :
    65 ≤ c.toNat ∧ c.toNat ≤ 90 ∨ 97 ≤ c.toNat ∧ c.toNat ≤ 122 ∨
      48 ≤ c.toNat ∧ c.toNat ≤ 57 ∨ c.toNat = 95 := by
  delta isNamed Char.isAlphanum Char.isAlpha Char.isUpper Char.isLower Char.isDigit at named
  simp [UInt32.le_iff_toNat_le] at named
  rcases named with ranges | rfl
  · omega
  · decide

/-- The characters of a name are ASCII characters. -/
theorem isNamed_lt {c : Char} (named : isNamed c = true) : c.toNat < 0x80 := by
  have ranges := ranges_of_isNamed named
  omega

/-- A character that starts a name may go on in one. -/
theorem isNamed_of_startsName {c : Char} (starts : startsName c = true) : isNamed c = true := by
  simp only [startsName, Bool.or_eq_true] at starts
  simp only [isNamed, Char.isAlphanum, Bool.or_eq_true]
  tauto

/-- The characters of a name are word characters. -/
theorem isWord_of_isNamed {c : Char} (named : isNamed c = true) : isWord c = true := by
  rw [isWord, if_pos (isNamed_lt named)]
  exact named

/-- No character of a name is blank. -/
theorem isBlank_of_isNamed {c : Char} (named : isNamed c = true) : isBlank c = false := by
  have ranges := ranges_of_isNamed named
  simp [isBlank]
  omega

/-- The words for the truth values hold no blank. -/
theorem Meaning.truth_plain (value : Bool) :
    ∀ c ∈ (Meaning.truth value).chars, isBlank c = false := by
  cases value <;> exact fun c inside => isBlank_of_isNamed (List.all_eq_true.mp rfl c inside)

/-- All characters of a name may stand in one. -/
theorem Name.named_chars (name : Name) : ∀ c ∈ name.chars, isNamed c = true := by
  intro c member
  rcases List.mem_cons.mp member with rfl | later
  · exact isNamed_of_startsName name.starts
  · exact name.named c later

/-- A blank is no character of a name. -/
theorem isWord_of_isSpace {c : Char} (plain : c = ' ' ∨ c = '\t') : isWord c = false := by
  rcases plain with rfl | rfl <;> decide

/-- No character is blank throughout. -/
theorem blank_nil : ∀ c ∈ ([] : List Char), isBlank c = true := by simp

/-- Space is blank. -/
theorem Space.blank (space : Space) : ∀ c ∈ space.chars, isBlank c = true := by
  intro c member
  rcases space.plain c member with rfl | rfl <;> decide

/-- What stands behind a name or a value does not go on with it. -/
def Parts (rest : List Char) : Prop := ∀ c ∈ rest.head?, isWord c = false ∧ isBlank c = true

/-- The end of a line parts what stands before it. -/
theorem parts_nil : Parts [] := by
  intro c none
  cases none

/-- A gap parts what stands before it from what comes behind. -/
theorem Gap.parts (gap : Gap) (rest : List Char) : Parts (gap.chars ++ rest) := by
  obtain ⟨c, others, shape⟩ := List.exists_cons_of_ne_nil gap.separates
  intro first heads
  rw [shape] at heads
  obtain rfl : c = first := by simpa using heads
  have member : c ∈ gap.chars := by simp [shape]
  exact ⟨isWord_of_isSpace (gap.plain c member), gap.blank c member⟩

/-- The arguments of a call part from what stands before them. -/
theorem parts_arguments (arguments : List Argument) :
    Parts (arguments.flatMap Argument.chars) := by
  cases arguments with
  | nil => exact parts_nil
  | cons argument rest =>
    rw [List.flatMap_cons, Argument.chars, List.append_assoc]
    exact argument.gap.parts _

/-! ## Parts of a line -/

variable [Scalar α]

/-- A name is read up to its end. -/
theorem readName_append (name : Name) {rest : List Char}
    (ends : ∀ c ∈ rest.head?, isWord c = false) :
    Body.readName? (name.chars ++ rest) = some (name.chars, rest) := by
  have words : ∀ c ∈ name.rest, isWord c = true := by
    intro c member
    exact isWord_of_isNamed (name.named c member)
  obtain ⟨taken, dropped⟩ := takeWhile_run words ends
  rw [Name.chars, List.cons_append, Body.readName?, if_pos name.starts, taken, dropped]

/-- Space is skipped up to what is not blank. -/
theorem dropWhile_space (space : Space) {rest : List Char}
    (ends : ∀ c ∈ rest.head?, isBlank c = false) :
    (space.chars ++ rest).dropWhile isBlank = rest :=
  (takeWhile_run space.blank ends).2

/-- A name does not start with a blank. -/
theorem Name.head_not_blank (name : Name) (rest : List Char) :
    ∀ c ∈ (name.chars ++ rest).head?, isBlank c = false := by
  intro c heads
  obtain rfl : name.first = c := by simpa [chars] using heads
  exact isBlank_of_isNamed (isNamed_of_startsName name.starts)

/-- The blanks of a gap are skipped before a name. -/
theorem skipBlanks_gap (gap : Gap) (name : Name) (rest : List Char) :
    Body.skipBlanks? (gap.chars ++ (name.chars ++ rest)) = some (name.chars ++ rest) := by
  have dropped := dropWhile_space gap.toSpace (name.head_not_blank rest)
  obtain ⟨c, others, shape⟩ := List.exists_cons_of_ne_nil gap.separates
  have blank : isBlank c = true := gap.blank c (by simp [shape])
  rw [shape, List.cons_append, List.dropWhile_cons_of_pos blank] at dropped
  rw [shape, List.cons_append, Body.skipBlanks?, if_pos blank, dropped]

/-- A character that was escaped is stepped over as a whole. -/
theorem readQuoted_escaped (c : Char) (rest : List Char) :
    Body.readQuoted? (Json.escaped c ++ rest) =
      (Body.readQuoted? rest).map fun (read, rest) => (Json.escaped c ++ read, rest) := by
  have plain : ∀ (c : Char) (rest : List Char), c ≠ '"' → c ≠ '\\' →
      Body.readQuoted? (c :: rest) =
        (Body.readQuoted? rest).map fun (read, rest) => (c :: read, rest) := by
    intro c rest quote backslash
    rw [Body.readQuoted?]
    · intro same
      exact quote same
    · intro same
      exact absurd same backslash
    · intro d others same
      exact absurd same backslash
  have stepped : ∀ (c : Char) (rest : List Char), Body.readQuoted? ('\\' :: c :: rest) =
      (Body.readQuoted? rest).map fun (read, rest) => ('\\' :: c :: read, rest) := by
    intro c rest
    rw [Body.readQuoted?]
  have digits : ∀ digit : Fin 16, Nat.digitChar digit ≠ '"' ∧ Nat.digitChar digit ≠ '\\' := by
    decide
  unfold Json.escaped
  split
  case h_8 quote backslash _ _ _ _ _ =>
    split
    case isTrue =>
      have high := digits ⟨c.toNat / 16 % 16, Nat.mod_lt _ (by decide)⟩
      have low := digits ⟨c.toNat % 16, Nat.mod_lt _ (by decide)⟩
      simp only [Json.hexPair, List.cons_append, List.nil_append, stepped]
      rw [plain '0' _ (by decide) (by decide), plain '0' _ (by decide) (by decide),
        plain _ _ high.1 high.2, plain _ _ low.1 low.2]
      simp [Option.map_map, Function.comp_def]
    case isFalse => exact plain c rest (by simpa using quote) (by simpa using backslash)
  all_goals exact stepped _ rest

/-- The scan for the end of a literal finds the quote that closes it. -/
theorem readQuoted_quoted (text rest : List Char) :
    Body.readQuoted? (text.flatMap Json.escaped ++ '"' :: rest) =
      some (text.flatMap Json.escaped ++ ['"'], rest) := by
  induction text with
  | nil => simp [Body.readQuoted?]
  | cons c others inductionHypothesis =>
    rw [List.flatMap_cons, List.append_assoc, readQuoted_escaped, inductionHypothesis]
    simp

/-- A run without blanks that is not quoted is read up to the next blank. -/
theorem readWritten_run {first : Char} {others rest : List Char} (unquoted : first ≠ '"')
    (plain : ∀ c ∈ first :: others, isBlank c = false) (parts : Parts rest) :
    Body.readWritten? (first :: others ++ rest) = some (first :: others, rest) := by
  have every : ∀ c ∈ first :: others, (!isBlank c) = true := by simpa using plain
  have ends : ∀ c ∈ rest.head?, (!isBlank c) = false :=
    fun c heads => by simp [(parts c heads).2]
  obtain ⟨taken, dropped⟩ := takeWhile_run every ends
  rw [Body.readWritten?]
  · rw [taken, dropped]
  · intro behind same
    exact unquoted (List.cons.inj same).1

/-- What is meant is read up to its end. -/
theorem readWritten_append (meaning : Meaning) {rest : List Char} (parts : Parts rest) :
    Body.readWritten? (meaning.chars ++ rest) = some (meaning.chars, rest) := by
  cases meaning with
  | quoted text =>
    rw [Meaning.chars, Json.toList_quote, List.cons_append, List.append_assoc,
      List.singleton_append, Body.readWritten?, readQuoted_quoted]
  | truth value =>
    cases value
    · exact readWritten_run (by decide) (Meaning.truth_plain false) parts
    · exact readWritten_run (by decide) (Meaning.truth_plain true) parts
  | reference name =>
    refine readWritten_run (by decide) ?_ parts
    intro c member
    rcases List.mem_cons.mp member with rfl | inside
    · decide
    · exact isBlank_of_isNamed (name.named_chars c inside)

/-- What is meant is what its written form stands for. -/
theorem operand_chars (meaning : Meaning) :
    (Body.operand meaning.chars : Except SyntaxCause (Operand α)) = .ok meaning.operand := by
  cases meaning with
  | quoted text =>
    have read := (Json.spells_quote text).read
    rw [Meaning.chars]
    rw [Json.toList_quote] at read ⊢
    rw [Body.operand, read]
    rfl
  | truth value => cases value <;> rfl
  | reference name =>
    have some : name.chars ≠ [] := List.cons_ne_nil _ _
    rw [Meaning.chars, Body.operand, if_neg some]
    rfl

/-- An argument is read up to its end. -/
theorem readArgument_append (argument : Argument) {rest : List Char} (parts : Parts rest) :
    Body.readArgument? (argument.chars ++ rest) =
      some ((argument.name.chars, argument.meaning.chars), rest) := by
  have shape : argument.chars ++ rest = argument.gap.chars ++ (argument.name.chars ++
      '=' :: (argument.meaning.chars ++ rest)) := by simp [Argument.chars]
  have named : Body.readName? (argument.name.chars ++ '=' :: (argument.meaning.chars ++ rest)) =
      some (argument.name.chars, '=' :: (argument.meaning.chars ++ rest)) := by
    refine readName_append argument.name ?_
    intro c heads
    obtain rfl : '=' = c := by simpa using heads
    decide
  rw [shape, Body.readArgument?, skipBlanks_gap, Option.bind_some, named]
  simp only [readWritten_append argument.meaning parts, Option.map_some]

/-- Arguments are read one after another, each takes its own characters only. -/
theorem arguments_chars (arguments : List Argument) (steps : Nat)
    (enough : (arguments.flatMap Argument.chars).length ≤ steps) :
    (Body.arguments steps (arguments.flatMap Argument.chars) :
      Except SyntaxCause (List (String × Operand α))) =
        .ok (arguments.map Argument.operand) := by
  induction arguments generalizing steps with
  | nil => cases steps <;> simp [Body.arguments]
  | cons argument rest inductionHypothesis =>
    rw [List.flatMap_cons, List.length_append] at enough
    have long : 0 < argument.chars.length := by
      simp only [Argument.chars, List.length_append, List.length_cons]
      omega
    obtain ⟨less, rfl⟩ : ∃ less, steps = less + 1 := ⟨steps - 1, by omega⟩
    have some : argument.chars ++ rest.flatMap Argument.chars ≠ [] := by
      intro none
      simp [List.append_eq_nil_iff.mp none |>.1] at long
    rw [List.flatMap_cons, Body.arguments, if_neg some,
      readArgument_append argument (parts_arguments rest)]
    dsimp only
    rw [operand_chars]
    dsimp only
    rw [inductionHypothesis less (by omega)]
    rfl

/-! ## The head of a line -/

/-- A variable for the result is read up to the opcode. -/
theorem readAssignment_append (assignment : Assignment) (opcode : Name) (rest : List Char) :
    Body.readAssignment? (assignment.chars ++ (opcode.chars ++ rest)) =
      some (assignment.name.chars, opcode.chars ++ rest) := by
  let tail := assignment.behind.chars ++ (opcode.chars ++ rest)
  have shape : assignment.chars ++ (opcode.chars ++ rest) = 's' :: 'e' :: 't' ::
      (assignment.gap.chars ++ (assignment.name.chars ++
        (assignment.before.chars ++ '=' :: tail))) := by simp [Assignment.chars, tail]
  have ends : ∀ c ∈ (assignment.before.chars ++ '=' :: tail).head?, isWord c = false := by
    intro c heads
    cases spaces : assignment.before.chars with
    | nil =>
      obtain rfl : '=' = c := by simpa [spaces] using heads
      decide
    | cons first others =>
      obtain rfl : first = c := by simpa [spaces] using heads
      exact isWord_of_isSpace (assignment.before.plain first (by simp [spaces]))
  have signed : (assignment.before.chars ++ '=' :: tail).dropWhile isBlank = '=' :: tail := by
    refine dropWhile_space assignment.before ?_
    intro c heads
    obtain rfl : '=' = c := by simpa using heads
    decide
  have reached : tail.dropWhile isBlank = opcode.chars ++ rest :=
    dropWhile_space assignment.behind (opcode.head_not_blank rest)
  rw [shape, Body.readAssignment?, skipBlanks_gap, Option.bind_some,
    readName_append assignment.name ends]
  simp only [signed, reached]

/-- An opcode other than the announcing word announces nothing. -/
theorem readAssignment_opcode (opcode : Name) (other : opcode.chars ≠ ['s', 'e', 't'])
    {rest : List Char} (parts : Parts rest) :
    Body.readAssignment? (opcode.chars ++ rest) = none := by
  unfold Body.readAssignment?
  split
  case h_1 behind shape =>
    -- The word is the beginning of a longer opcode, so that no blank stands behind it.
    obtain ⟨c, others, rfl, named⟩ :
        ∃ c others, behind = c :: others ∧ isNamed c = true := by
      have split : opcode.chars ++ rest = ['s', 'e', 't'] ++ behind := shape
      rcases List.append_eq_append_iff.mp split with ⟨more, word, right⟩ | ⟨more, longer, right⟩
      · cases more with
        | nil => exact absurd (by simpa using word.symm) other
        | cons c others =>
          have inside : c ∈ ['s', 'e', 't'] := by simp [word]
          have outside := (parts c (by simp [right])).1
          have every : ∀ c ∈ ['s', 'e', 't'], isWord c = true := List.all_eq_true.mp rfl
          rw [every c inside] at outside
          cases outside
      · cases more with
        | nil => exact absurd (by simpa using longer) other
        | cons c others =>
          exact ⟨c, others ++ rest, by simp [right], opcode.named_chars c (by simp [longer])⟩
    rw [Body.skipBlanks?, isBlank_of_isNamed named]
    rfl
  case h_2 => rfl

/-- The head of a call is read up to its arguments. -/
theorem readHead_append (call : Call) {rest : List Char} (parts : Parts rest) :
    Body.readHead? (call.assignment.elim [] Assignment.chars ++ (call.opcode.chars ++ rest)) =
      some (call.assignment.map fun assignment => assignment.name.chars,
        call.opcode.chars, rest) := by
  have named : Body.readName? (call.opcode.chars ++ rest) = some (call.opcode.chars, rest) :=
    readName_append call.opcode fun c heads => (parts c heads).1
  cases announced : call.assignment with
  | none =>
    have other : call.opcode.chars ≠ ['s', 'e', 't'] := call.unannounced announced
    rw [Option.elim_none, List.nil_append, Body.readHead?,
      readAssignment_opcode call.opcode other parts, Option.bind_none, named]
    rfl
  | some assignment =>
    rw [Option.elim_some, Body.readHead?, readAssignment_append, Option.bind_some]
    dsimp only
    rw [named]
    rfl

/-! ## A line and the blanks around it -/

/-- A character at which a text may end. -/
def Closed (text : List Char) : Prop := ∃ start last, text = start ++ [last] ∧ isBlank last = false

/-- A text that ends in a closed one is closed. -/
theorem Closed.append {text : List Char} (closed : Closed text) (before : List Char) :
    Closed (before ++ text) := by
  obtain ⟨start, last, rfl, plain⟩ := closed
  exact ⟨before ++ start, last, by simp, plain⟩

/-- The blanks behind the last character are dropped. -/
theorem Closed.trimEnd_append {text blanks : List Char} (closed : Closed text)
    (blank : ∀ c ∈ blanks, isBlank c = true) : trimEnd (text ++ blanks) = text := by
  obtain ⟨start, last, rfl, plain⟩ := closed
  have behind : ∀ c ∈ blanks.reverse, isBlank c = true := by
    intro c member
    exact blank c (List.mem_reverse.mp member)
  rw [trimEnd, List.reverse_append, List.dropWhile_append_of_pos behind]
  simp [plain]

/-- A text without blanks is closed. -/
theorem closed_of_plain {first : Char} {others : List Char}
    (plain : ∀ c ∈ first :: others, isBlank c = false) : Closed (first :: others) := by
  have some : first :: others ≠ [] := List.cons_ne_nil _ _
  refine ⟨(first :: others).dropLast, (first :: others).getLast some, ?_, ?_⟩
  · exact (List.dropLast_append_getLast some).symm
  · exact plain _ (List.getLast_mem some)

/-- A name is closed. -/
theorem Name.closed (name : Name) : Closed name.chars :=
  closed_of_plain fun c member => isBlank_of_isNamed (name.named_chars c member)

/-- A written value is closed. -/
theorem Meaning.closed (meaning : Meaning) : Closed meaning.chars := by
  cases meaning with
  | quoted text =>
    rw [chars, Json.toList_quote]
    exact ⟨'"' :: text.toList.flatMap Json.escaped, '"', by simp, by decide⟩
  | truth value =>
    cases value
    · exact closed_of_plain (truth_plain false)
    · exact closed_of_plain (truth_plain true)
  | reference name => exact name.closed.append ['$']

/-- A written argument is closed. -/
theorem Argument.closed (argument : Argument) : Closed argument.chars := by
  have whole : argument.chars =
      (argument.gap.chars ++ argument.name.chars ++ ['=']) ++ argument.meaning.chars := by
    simp [chars]
  rw [whole]
  exact argument.meaning.closed.append _

/-- Nothing is dropped behind the arguments of a call. -/
theorem trimEnd_arguments (arguments : List Argument) :
    trimEnd (arguments.flatMap Argument.chars) = arguments.flatMap Argument.chars := by
  rcases List.eq_nil_or_concat' arguments with rfl | ⟨others, argument, rfl⟩
  · rfl
  · rw [List.flatMap_append, List.flatMap_singleton]
    have closed := argument.closed.append (others.flatMap Argument.chars)
    have bare := closed.trimEnd_append blank_nil
    simpa using bare

/-- A written call is closed. -/
theorem Call.closed (call : Call) : Closed call.chars := by
  rw [chars]
  refine Closed.append ?_ _
  rcases List.eq_nil_or_concat' call.arguments with none | ⟨others, argument, shape⟩
  · rw [none, List.flatMap_nil, List.append_nil]
    exact call.opcode.closed
  · rw [shape, List.flatMap_append, List.flatMap_singleton, ← List.append_assoc]
    exact argument.closed.append _

/-- A call does not start with a blank. -/
theorem Call.head_not_blank (call : Call) : ∀ c ∈ call.chars.head?, isBlank c = false := by
  rw [chars]
  cases call.assignment with
  | none => exact call.opcode.head_not_blank _
  | some assignment =>
    intro c heads
    obtain rfl : 's' = c := by simpa [Assignment.chars] using heads
    decide

/-- The blanks around a call are trimmed off. -/
theorem Call.trim_around (call : Call) {before behind : List Char}
    (blankBefore : ∀ c ∈ before, isBlank c = true)
    (blankBehind : ∀ c ∈ behind, isBlank c = true) :
    trim (before ++ (call.chars ++ behind)) = call.chars := by
  have heads : ∀ c ∈ (call.chars ++ behind).head?, isBlank c = false := by
    obtain ⟨start, last, shape, -⟩ := call.closed
    intro c first
    refine call.head_not_blank c ?_
    cases chars : call.chars with
    | nil => simp [chars] at shape
    | cons d others => simpa [chars] using first
  rw [trim, trimStart, (takeWhile_run blankBefore heads).2]
  exact call.closed.trimEnd_append blankBehind

/-- A call is no comment, and is not empty. -/
theorem Call.not_idle (call : Call) : Body.isIdle call.chars = false := by
  have named : ∀ c, startsName c = true → (c = '#') = False := by
    intro c starts
    refine eq_false ?_
    rintro rfl
    exact absurd starts (by decide)
  rw [chars]
  cases call.assignment with
  | none => simp [Body.isIdle, Name.chars, named _ call.opcode.starts]
  | some assignment => simp [Body.isIdle, Assignment.chars]

/-- A name has no line break. -/
theorem Name.newline_not_mem (name : Name) : '\n' ∉ name.chars := by
  intro member
  exact absurd (name.named_chars _ member) (by decide)

/-- Space has no line break. -/
theorem Space.newline_not_mem (space : Space) : '\n' ∉ space.chars := by
  intro member
  exact absurd (space.plain _ member) (by decide)

/-- A written argument has no line break. -/
theorem Argument.newline_not_mem (argument : Argument) : '\n' ∉ argument.chars := by
  have meant : '\n' ∉ argument.meaning.chars := by
    cases argument.meaning with
    | quoted text => exact Json.newline_not_mem_quote text
    | truth value => cases value <;> decide
    | reference name => simp [Meaning.chars, name.newline_not_mem]
  simp [chars, meant, argument.gap.newline_not_mem, argument.name.newline_not_mem]

/-- A call stays on its line. -/
theorem Call.newline_not_mem (call : Call) : '\n' ∉ call.chars := by
  have announced : '\n' ∉ call.assignment.elim [] Assignment.chars := by
    cases call.assignment with
    | none => simp
    | some assignment =>
      simp [Assignment.chars, assignment.gap.newline_not_mem, assignment.name.newline_not_mem,
        assignment.before.newline_not_mem, assignment.behind.newline_not_mem]
  have listed : '\n' ∉ call.arguments.flatMap Argument.chars := by
    rintro member
    obtain ⟨argument, -, inside⟩ := List.mem_flatMap.mp member
    exact argument.newline_not_mem inside
  simp only [chars, List.mem_append, announced, call.opcode.newline_not_mem, listed, or_self,
    not_false_eq_true]

end Written

namespace Body

variable [Scalar α]

/-- A written call is the statement that it means. -/
theorem statement_chars (call : Written.Call) (line : Nat) :
    (statement line call.chars : Except SyntaxCause (Statement α)) =
      .ok (call.statement line) := by
  have head := Written.readHead_append call (Written.parts_arguments call.arguments)
  have announced : ¬((call.assignment.map fun assignment => assignment.name.chars) = none ∧
      call.opcode.chars = ['s', 'e', 't']) := by
    rintro ⟨none, word⟩
    exact call.unannounced (by simpa using none) word
  have read := Written.arguments_chars (α := α) call.arguments _ (Nat.le_refl _)
  rw [statement, Written.Call.chars, head]
  simp only [if_neg announced, Written.trimEnd_arguments, read]
  simp [Written.Call.statement, Function.comp_def]

/-- A line of blanks holds no statement. -/
theorem ofLines_blank (number : Nat) {line : List Char} (rest : List (List Char))
    (blank : ∀ c ∈ line, isBlank c = true) :
    (ofLines number (Text.dropReturn line :: rest) : Except SyntaxFault (List (Statement α))) =
      ofLines (number + 1) rest := by
  have nothing : trim (Text.dropReturn line) = [] := by
    rw [Text.trim_dropReturn, trim, trimStart, List.dropWhile_eq_nil_iff.mpr blank]
    rfl
  simp [ofLines, nothing, isIdle]

/-- Blanks before a text count as lines, and some of them may start its line. -/
theorem ofLines_before (number : Nat) {current before : List Char} (rest : List Char)
    (started : ∀ c ∈ current, isBlank c = true) (blank : ∀ c ∈ before, isBlank c = true) :
    ∃ left : List Char, (∀ c ∈ left, isBlank c = true) ∧
      (ofLines number (Text.linesFrom current (before ++ rest)) :
          Except SyntaxFault (List (Statement α))) =
        ofLines (number + before.count '\n') (Text.linesFrom left rest) := by
  induction before generalizing number current with
  | nil => exact ⟨current, started, rfl⟩
  | cons c others inductionHypothesis =>
    have later : ∀ c ∈ others, isBlank c = true :=
      fun d member => blank d (List.mem_cons_of_mem _ member)
    by_cases feed : c = '\n'
    · obtain ⟨left, onlyBlanks, same⟩ :=
        inductionHypothesis (number + 1) Written.blank_nil later
      refine ⟨left, onlyBlanks, ?_⟩
      have finished : ∀ c ∈ current.reverse, isBlank c = true := by
        intro c member
        exact started c (List.mem_reverse.mp member)
      have lines : number + (c :: others).count '\n' = number + 1 + others.count '\n' := by
        rw [feed, List.count_cons_self]
        omega
      rw [List.cons_append, Text.linesFrom, if_pos feed, ofLines_blank _ _ finished, same, lines]
    · have opened : ∀ d ∈ c :: current, isBlank d = true := by
        intro d member
        rcases List.mem_cons.mp member with rfl | before
        · exact blank d List.mem_cons_self
        · exact started d before
      obtain ⟨left, onlyBlanks, same⟩ := inductionHypothesis number opened later
      refine ⟨left, onlyBlanks, ?_⟩
      rw [List.cons_append, Text.linesFrom, if_neg feed, same, List.count_cons_of_ne feed]

/-- Blanks hold no statement. -/
theorem ofLines_only_blank (number : Nat) {text : List Char}
    (blank : ∀ c ∈ text, isBlank c = true) :
    (ofLines number (Text.lines text) : Except SyntaxFault (List (Statement α))) = .ok [] := by
  obtain ⟨left, onlyBlanks, same⟩ :=
    ofLines_before (α := α) number [] Written.blank_nil blank
  rw [List.append_nil] at same
  rw [Text.lines, same, Text.linesFrom]
  split
  case isTrue => rfl
  case isFalse =>
    have same : [left.reverse].map trim = [Text.dropReturn left.reverse].map trim := by simp
    have trimmed := Body.ofLines_trim (α := α) (number + text.count '\n') same
    rw [trimmed, ofLines_blank _ _ (by simpa using onlyBlanks)]
    rfl

/-- Blanks behind a line end it, and do not matter otherwise. -/
theorem linesFrom_behind {current behind : List Char} (some : current ≠ [])
    (blank : ∀ c ∈ behind, isBlank c = true) :
    ∃ line rest, Text.linesFrom current behind = line :: rest ∧
      trim line = trim current.reverse ∧
      ∀ number, (ofLines number rest : Except SyntaxFault (List (Statement α))) = .ok [] := by
  induction behind generalizing current with
  | nil =>
    refine ⟨current.reverse, [], ?_, rfl, fun number => rfl⟩
    rw [Text.linesFrom, if_neg some]
  | cons c others inductionHypothesis =>
    have later : ∀ c ∈ others, isBlank c = true :=
      fun d member => blank d (List.mem_cons_of_mem _ member)
    by_cases feed : c = '\n'
    · refine ⟨Text.dropReturn current.reverse, Text.linesFrom [] others, ?_, ?_, ?_⟩
      · rw [Text.linesFrom, if_pos feed]
      · exact Text.trim_dropReturn _
      · exact fun number => ofLines_only_blank number later
    · obtain ⟨line, rest, shape, same, nothing⟩ :=
        inductionHypothesis (List.cons_ne_nil c current) later
      refine ⟨line, rest, ?_, ?_, nothing⟩
      · rw [Text.linesFrom, if_neg feed, shape]
      · rw [same, List.reverse_cons]
        exact Text.trim_append_blank _ (blank c List.mem_cons_self)

/-- A call that stands alone in a text, with any blanks and line ends around it, reads as the
one statement that it means. Its line counts those before it. -/
theorem parse_written (call : Written.Call) {before behind : List Char}
    (blankBefore : ∀ c ∈ before, isBlank c = true)
    (blankBehind : ∀ c ∈ behind, isBlank c = true) :
    (parse (String.ofList (before ++ (call.chars ++ behind))) :
        Except SyntaxFault (List (Statement α))) =
      .ok [call.statement (1 + before.count '\n')] := by
  obtain ⟨left, onlyBlanks, same⟩ :=
    ofLines_before (α := α) 1 (call.chars ++ behind) Written.blank_nil blankBefore
  rw [Text.linesFrom_append _ _ _ call.newline_not_mem] at same
  have started : call.chars.reverse ++ left ≠ [] := by
    obtain ⟨start, last, shape, -⟩ := call.closed
    simp [shape]
  obtain ⟨line, rest, shape, trimmed, nothing⟩ :=
    linesFrom_behind (α := α) started blankBehind
  have core : trim line = call.chars := by
    have reversed : ∀ c ∈ left.reverse, isBlank c = true := by simpa using onlyBlanks
    have around := call.trim_around reversed Written.blank_nil
    simpa [trimmed] using around
  have active : isIdle call.chars = false := call.not_idle
  rw [parse, String.toList_ofList, Text.lines, same, shape, ofLines]
  simp only [core, active, statement_chars, nothing, Bool.false_eq_true, if_false]

/-- A call whose names and texts look like other parts of a script. -/
def disguisedCall : Written.Call where
  assignment := some
    { gap := ⟨⟨['\t', ' '], by simp⟩, by simp⟩
      name := ⟨'s', ['e', 't'], rfl, List.all_eq_true.mp rfl⟩
      before := ⟨[], by simp⟩
      behind := ⟨[' ', ' '], by simp⟩ }
  opcode := ⟨'s', ['e', 't', '_', '1'], rfl, List.all_eq_true.mp rfl⟩
  arguments :=
    [⟨⟨⟨[' '], by simp⟩, by simp⟩, ⟨'_', [], rfl, by simp⟩,
        .quoted "\" X=$x # \\\" \n@end\r\x01"⟩,
      ⟨⟨⟨['\t'], by simp⟩, by simp⟩, ⟨'_', [], rfl, by simp⟩,
        .reference ⟨'s', ['e', 't'], rfl, List.all_eq_true.mp rfl⟩⟩,
      ⟨⟨⟨[' ', ' '], by simp⟩, by simp⟩, ⟨'A', ['2'], rfl, List.all_eq_true.mp rfl⟩, .truth false⟩]
  unannounced := by simp

/-- A call whose text is full of marks, between blanks and empty lines, is read as itself. -/
theorem disguisedCall_written :
    disguisedCall.chars =
      "set\t set=  set_1 _=\"\\\" X=$x # \\\\\\\" \\n@end\\r\\u0001\"\t_=$set  A2=false".toList ∧
    (∀ c ∈ ['\r', '\n', '\x0b', '\n', ' '], isBlank c = true) ∧
    (∀ c ∈ ['\t', '\r', '\n', '\n'], isBlank c = true) ∧
    (parse (String.ofList (['\r', '\n', '\x0b', '\n', ' '] ++
        (disguisedCall.chars ++ ['\t', '\r', '\n', '\n']))) :
        Except SyntaxFault (List (Statement Rat))) = .ok [disguisedCall.statement 3] := by
  have before : ∀ c ∈ ['\r', '\n', '\x0b', '\n', ' '], isBlank c = true := List.all_eq_true.mp rfl
  have behind : ∀ c ∈ ['\t', '\r', '\n', '\n'], isBlank c = true := List.all_eq_true.mp rfl
  exact ⟨by decide +kernel, before, behind, parse_written disguisedCall before behind⟩

end Body

end SpriteMachine
