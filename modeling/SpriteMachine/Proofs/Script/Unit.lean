import Mathlib.Data.List.Forall2
import SpriteMachine.Number.Exact
import SpriteMachine.Proofs.Json.Spelling
import SpriteMachine.Proofs.Text.Lines
import SpriteMachine.Script.Unit

/-!
# A unit reads back

Sections whose code can be read are written into a unit from which the same scripts are
read. The header's texts are quoted, so that no name breaks the header line; the lines of
a body are told apart by their line feeds and matter only up to the blanks at their ends;
and code that can be read has no line that ends a section, since such a line starts with
no opcode.
-/

namespace SpriteMachine

variable {α : Type} [Scalar α]

namespace Body

/-- The statements of lines do not depend on the blanks around them. -/
theorem ofLines_trim (number : Nat) {left right : List (List Char)}
    (same : left.map Text.trim = right.map Text.trim) :
    (ofLines number left : Except SyntaxFault (List (Statement α))) = ofLines number right := by
  induction left generalizing number right with
  | nil =>
    cases right with
    | nil => rfl
    | cons line rest => cases same
  | cons first others inductionHypothesis =>
    cases right with
    | nil => cases same
    | cons line rest =>
      obtain ⟨head, tail⟩ := List.cons.inj same
      simp only [ofLines]
      rw [head, inductionHypothesis (number + 1) tail]

/-- A line that starts with an at sign holds no statement. -/
theorem statement_at (number : Nat) (rest : List Char) :
    (statement number ('@' :: rest) : Except SyntaxCause (Statement α)) =
      .error (.noOpcode (String.ofList ('@' :: rest))) := by
  have head : readHead? ('@' :: rest) = none := rfl
  rw [statement, head]

/-- Code that can be read has no line that ends a section. -/
theorem ofLines_not_closing {number : Nat} {lines : List (List Char)}
    {body : List (Statement α)} (read : ofLines number lines = .ok body) :
    ∀ line ∈ lines, Text.trim line ≠ ScriptUnit.closing.toList := by
  have closing : ScriptUnit.closing.toList = '@' :: ['e', 'n', 'd'] := by decide
  induction lines generalizing number body with
  | nil =>
    intro line member
    cases member
  | cons first others inductionHypothesis =>
    rw [ofLines] at read
    intro line member
    rcases List.mem_cons.mp member with rfl | later
    · intro ends
      rw [ends, closing, statement_at] at read
      cases read
    · split at read
      case isTrue => exact inductionHypothesis read line later
      case isFalse =>
        split at read
        case h_1 => cases read
        case h_2 =>
          split at read
          case h_1 => cases read
          case h_2 rest result => exact inductionHypothesis result line later

end Body

/-- A script is what a section's code reads as. -/
structure Section.Reads (part : Section) (script : Script α) : Prop where
  id : script.id = part.script
  target : script.target = part.target
  body : Body.parse part.code = .ok script.body

namespace ScriptUnit

/-- A header reads back. -/
theorem readHeader_header (script : ScriptId) (target : TargetId) :
    readHeader? (header script target).toList = some (script, target) := by
  rw [readHeader?, header, Json.read_writeObject]
  rfl

/-- A header line, which has no blanks at its ends, opens a section. -/
theorem trim_opening (script : ScriptId) (target : TargetId) :
    Text.trim (opening ++ header script target).toList =
      (opening ++ header script target).toList := by
  obtain ⟨middle, shape⟩ : ∃ middle, (opening ++ header script target).toList =
      '@' :: (middle ++ ['}']) := by
    rw [header, Json.writeObject]
    generalize String.intercalate "," _ = inside
    exact ⟨['s', 'c', 'r', 'i', 'p', 't', ' ', '\x7b'] ++ inside.toList, by simp [opening]⟩
  rw [shape]
  exact Text.trim_eq_self middle (by decide) (by decide)

/-- A header opens a section of its script and target. -/
theorem openAt_header (number : Nat) (script : ScriptId) (target : TargetId) :
    openAt number (opening ++ header script target).toList =
      .ok ⟨script, target, number, []⟩ := by
  have starts : opening.toList.isPrefixOf (opening ++ header script target).toList = true := by
    rw [String.toList_append, List.isPrefixOf_iff_prefix]
    exact List.prefix_append _ _
  have behind : (opening ++ header script target).toList.drop opening.length =
      (header script target).toList := by
    rw [String.toList_append, ← String.length_toList, List.drop_left]
  rw [openAt, if_pos starts, behind, readHeader_header]

/-- The lines of a body are gathered up to the line that ends the section. -/
theorem ofLines_body {number : Nat} {part : OpenSection} {lines rest : List (List Char)}
    {script : Script α} {others : List (Script α)}
    (inside : ∀ line ∈ lines, Text.trim line ≠ closing.toList)
    (closed : close { part with body := lines.reverse ++ part.body } = .ok script)
    (read : ofLines (number + lines.length + 1) none rest = .ok others) :
    ofLines number (some part) (lines ++ closing.toList :: rest) = .ok (script :: others) := by
  induction lines generalizing number part with
  | nil =>
    have ends : Text.trim closing.toList = closing.toList := by decide
    have closedHere : close part = .ok script := closed
    have readHere : ofLines (number + 1) none rest = .ok others := read
    rw [List.nil_append, ofLines, if_pos ends, closedHere]
    dsimp only
    rw [readHere]
  | cons first more inductionHypothesis =>
    rw [List.cons_append, ofLines, if_neg (inside first List.mem_cons_self)]
    refine inductionHypothesis
      (fun line member => inside line (List.mem_cons_of_mem _ member)) ?_ ?_
    · rw [List.reverse_cons, List.append_assoc] at closed
      exact closed
    · rw [← read, List.length_cons]
      congr 1
      omega

/-- No line of a section holds a line feed. -/
theorem newline_not_mem_sectionLines {part : Section} {line : String}
    (member : line ∈ sectionLines part) : '\n' ∉ line.toList := by
  rw [sectionLines, List.cons_append, List.mem_cons, List.mem_append, List.mem_map,
    List.mem_singleton] at member
  rcases member with rfl | ⟨text, inside, rfl⟩ | rfl
  · have script := Json.newline_not_mem_quote part.script.text
    have target := Json.newline_not_mem_quote part.target.text
    have scriptKey := Json.newline_not_mem_quote "script"
    have targetKey := Json.newline_not_mem_quote "target"
    simp [header, Json.writeObject, opening, script, target, scriptKey, targetKey]
  · rw [String.toList_ofList]
    exact Text.lines_single _ text inside
  · decide

/-- The lines of a unit without their line feeds. -/
theorem lines_render (sections : List Section) :
    Text.lines (render sections).toList =
      ((sections.flatMap sectionLines).map String.toList).map Text.dropReturn := by
  have joined : (render sections).toList =
      ((sections.flatMap sectionLines).map String.toList).flatMap (· ++ ['\n']) := by
    simp [render, String.toList_join, List.flatMap_map]
  rw [joined]
  refine Text.lines_join _ fun line member => ?_
  obtain ⟨text, inside, rfl⟩ := List.mem_map.mp member
  obtain ⟨part, -, present⟩ := List.mem_flatMap.mp inside
  exact newline_not_mem_sectionLines present

/-- The lines of a section that can be read give its script. -/
theorem ofLines_section {number : Nat} {part : Section} {script : Script α}
    {others : List (Script α)} {rest : List (List Char)} (reads : part.Reads script)
    (read : ∀ behind, ofLines behind none rest = .ok others) :
    ofLines number none
        (((sectionLines part).map String.toList).map Text.dropReturn ++ rest) =
      .ok (script :: others) := by
  let body := ((Text.lines part.code.toList).map Text.dropReturn)
  have shape : ((sectionLines part).map String.toList).map Text.dropReturn ++ rest =
      Text.dropReturn (opening ++ header part.script part.target).toList ::
        (body ++ closing.toList :: rest) := by
    have unmarked : Text.dropReturn closing.toList = closing.toList := by decide
    simp [sectionLines, body, unmarked, Function.comp_def]
  have opens : Text.trim (Text.dropReturn (opening ++ header part.script part.target).toList) =
      (opening ++ header part.script part.target).toList := by
    rw [Text.trim_dropReturn, trim_opening]
  have some : (opening ++ header part.script part.target).toList ≠ [] := by
    simp [opening]
  have parsed : Body.ofLines 1 (Text.lines part.code.toList) = .ok script.body := reads.body
  have sameBody : Body.ofLines 1 body = .ok script.body := by
    rw [← parsed]
    refine Body.ofLines_trim 1 ?_
    simp [body, Function.comp_def]
  rw [shape, ofLines, opens, if_neg some, openAt_header]
  refine ofLines_body ?_ ?_ (read _)
  · exact Body.ofLines_not_closing sameBody
  · rw [close]
    dsimp only
    rw [List.append_nil, List.reverse_reverse, sameBody]
    dsimp only
    rw [← reads.id, ← reads.target]

/-- Sections that can be read are read back from their unit, in order and in full. -/
theorem parse_render {sections : List Section} {scripts : List (Script α)}
    (reads : List.Forall₂ Section.Reads sections scripts) :
    parse (render sections) = .ok scripts := by
  rw [parse, lines_render]
  suffices every : ∀ number, ofLines number none
      (((sections.flatMap sectionLines).map String.toList).map Text.dropReturn) =
        .ok scripts from every 1
  induction reads with
  | nil => exact fun _ => rfl
  | cons read _ inductionHypothesis =>
    intro number
    rw [List.flatMap_cons, List.map_append, List.map_append]
    exact ofLines_section read inductionHypothesis

/-- Sections whose codes can be read are read as scripts. -/
theorem exists_reads {sections : List Section}
    (readable : ∀ part ∈ sections, ∃ body : List (Statement α), Body.parse part.code = .ok body) :
    ∃ scripts : List (Script α), List.Forall₂ Section.Reads sections scripts := by
  induction sections with
  | nil => exact ⟨[], .nil⟩
  | cons part others inductionHypothesis =>
    obtain ⟨body, read⟩ := readable part List.mem_cons_self
    obtain ⟨scripts, reads⟩ :=
      inductionHypothesis fun other member => readable other (List.mem_cons_of_mem _ member)
    exact ⟨⟨part.script, part.target, body⟩ :: scripts, .cons ⟨rfl, rfl, read⟩ reads⟩

/-- A unit gives back what was written into it. Sections under any names whose codes can
be read come back in order, each with its names and with the statements that its code has
on its own, on the same lines; and none of the codes has a line that ends a section. -/
theorem unit_gives_back {sections : List Section}
    (readable : ∀ part ∈ sections, ∃ body : List (Statement α), Body.parse part.code = .ok body) :
    (∃ scripts : List (Script α), parse (render sections) = .ok scripts ∧
      scripts.map (fun script => (script.id, script.target, Except.ok script.body)) =
        sections.map (fun part => (part.script, part.target, Body.parse part.code))) ∧
    ∀ part ∈ sections, ∀ line ∈ Text.lines part.code.toList, Text.trim line ≠ closing.toList := by
  refine ⟨?_, ?_⟩
  · obtain ⟨scripts, reads⟩ := exists_reads readable
    refine ⟨scripts, parse_render reads, ?_⟩
    clear readable
    induction reads with
    | nil => rfl
    | cons read _ inductionHypothesis =>
      rw [List.map_cons, List.map_cons, inductionHypothesis, read.id, read.target, read.body]
  · intro part member
    obtain ⟨body, read⟩ := readable part member
    exact Body.ofLines_not_closing read

/-- Names and codes that look like parts of a unit, with every kind of line end. -/
def disguised : List Section :=
  [⟨⟨"a \"name\" \\\n\x01"⟩, ⟨""⟩,
      "# first\r\n\nmotion_movesteps STEPS=10\r\r\nset x = motion_xposition"⟩,
    ⟨⟨"@end"⟩, ⟨"@script"⟩, "\r\n#@end\nlooks_say MESSAGE=\"@end\"\r"⟩]

/-- Lines that look like an end mark in a text come back as the text they are. -/
theorem disguised_gives_back :
    (∀ part ∈ disguised, ∃ body : List (Statement Rat), Body.parse part.code = .ok body) ∧
    (∃ scripts : List (Script Rat), parse (render disguised) = .ok scripts ∧
      scripts.map (fun script => (script.id, script.target, Except.ok script.body)) =
        disguised.map (fun part => (part.script, part.target, Body.parse part.code))) ∧
    ∀ part ∈ disguised, ∀ line ∈ Text.lines part.code.toList,
      Text.trim line ≠ closing.toList := by
  have readable : ∀ part ∈ disguised,
      ∃ body : List (Statement Rat), Body.parse part.code = .ok body := by
    have every : ∀ part ∈ disguised,
        (Body.parse part.code : Except SyntaxFault (List (Statement Rat))).isOk = true := by
          decide +kernel
    intro part member
    have read := every part member
    cases result : (Body.parse part.code : Except SyntaxFault (List (Statement Rat))) with
    | ok body => exact ⟨body, rfl⟩
    | error fault =>
      rw [result] at read
      cases read
  exact ⟨readable, unit_gives_back readable⟩

end ScriptUnit

end SpriteMachine
