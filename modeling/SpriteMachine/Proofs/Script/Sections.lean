import SpriteMachine.Proofs.Script.Unit

/-!
# The texts that are units

The lines of a unit are blank lines and sections in any order, where the code of every
section can be read. Whatever else a text is, it has a first problem: a line outside of
sections that opens none, a line of a body that holds no statement, or a section that is
never closed. Reading gives the scripts of a unit and the line of the first problem, and since
each text is of one kind only, it gives them for no other text.
-/

namespace SpriteMachine

open Text (trim trimEnd)

variable {α : Type} [Scalar α]

namespace Body

/-- Whether a line holds no statement does not depend on its number. -/
theorem statement_renumber {number cause} {text : List Char} (other : Nat)
    (fails : (statement number text : Except SyntaxCause (Statement α)) = .error cause) :
    (statement other text : Except SyntaxCause (Statement α)) = .error cause := by
  unfold statement at fails ⊢
  cases head : readHead? text with
  | none =>
    simp only [head] at fails ⊢
    exact fails
  | some found =>
    obtain ⟨assign, opcode, rest⟩ := found
    simp only [head] at fails ⊢
    by_cases unassigned : assign = none ∧ opcode = ['s', 'e', 't']
    · rw [if_pos unassigned] at fails ⊢
      exact fails
    · rw [if_neg unassigned] at fails ⊢
      cases read : (arguments (trimEnd rest).length (trimEnd rest) :
          Except SyntaxCause (List (String × Operand α))) with
      | error cause =>
        simp only [read] at fails ⊢
        exact fails
      | ok args =>
        simp only [read] at fails
        cases fails

/-- Lines that can be read are read in front of other lines. -/
theorem ofLines_append {number : Nat} {before : List (List Char)} {first : List (Statement α)}
    (read : ofLines number before = .ok first) (rest : List (List Char)) :
    ofLines number (before ++ rest) =
      (ofLines (number + before.length) rest).map (first ++ ·) := by
  induction before generalizing number first with
  | nil =>
    obtain rfl : [] = first := Except.ok.inj read
    cases result : (ofLines number rest : Except SyntaxFault (List (Statement α))) <;>
      simp [result, Except.map]
  | cons line others inductionHypothesis =>
    have next : number + (line :: others).length = number + 1 + others.length := by
      rw [List.length_cons]
      omega
    rw [ofLines] at read
    rw [List.cons_append, next, ofLines]
    by_cases idle : isIdle (trim line) = true
    · rw [if_pos idle] at read ⊢
      exact inductionHypothesis read
    · rw [if_neg idle] at read ⊢
      split at read
      case h_1 => cases read
      case h_2 =>
        split at read
        case h_1 => cases read
        case h_2 later result =>
          obtain rfl := Except.ok.inj read
          rw [inductionHypothesis result]
          cases (ofLines (number + 1 + others.length) rest :
            Except SyntaxFault (List (Statement α))) <;> rfl

/-- A line on which reading stops. -/
structure Stops (α : Type) [Scalar α] (line : List Char) (cause : SyntaxCause) : Prop where
  active : isIdle (trim line) = false
  fails : ∀ number, (statement number (trim line) : Except SyntaxCause (Statement α)) = .error cause

/-- Reading stops at a line with its cause, whatever comes behind it. -/
theorem Stops.ofLines {line : List Char} {cause : SyntaxCause} (stops : Stops α line cause)
    (number : Nat) (rest : List (List Char)) :
    (Body.ofLines number (line :: rest) : Except SyntaxFault (List (Statement α))) =
      .error ⟨number, cause⟩ := by
  simp [Body.ofLines, stops.active, stops.fails number]

/-- Lines are read, or else some first line stops their reading. -/
theorem ofLines_total (number : Nat) (lines : List (List Char)) :
    (∃ statements : List (Statement α), ofLines number lines = .ok statements) ∨
      ∃ before line after cause, lines = before ++ line :: after ∧ Stops α line cause ∧
        ∃ statements : List (Statement α), ofLines number before = .ok statements := by
  induction lines generalizing number with
  | nil => exact Or.inl ⟨[], rfl⟩
  | cons line others inductionHypothesis =>
    by_cases idle : isIdle (trim line) = true
    · have skips : ∀ rest, (ofLines number (line :: rest) :
          Except SyntaxFault (List (Statement α))) = ofLines (number + 1) rest := by
        intro rest
        simp [ofLines, idle]
      rcases inductionHypothesis (number + 1) with ⟨statements, read⟩ |
        ⟨before, last, after, cause, rfl, stops, statements, read⟩
      · exact Or.inl ⟨statements, (skips others).trans read⟩
      · refine Or.inr ⟨line :: before, last, after, cause, rfl, stops, statements, ?_⟩
        exact (skips before).trans read
    · cases result : (statement number (trim line) : Except SyntaxCause (Statement α)) with
      | error cause =>
        refine Or.inr ⟨[], line, others, cause, rfl, ?_, [], rfl⟩
        constructor
        · simpa using idle
        · intro other
          exact statement_renumber other result
      | ok first =>
        have adds : ∀ {rest : List (List Char)} {later : List (Statement α)},
            ofLines (number + 1) rest = .ok later →
              ofLines number (line :: rest) = .ok (first :: later) := by
          intro rest later read
          simp [ofLines, idle, result, read]
        rcases inductionHypothesis (number + 1) with ⟨statements, read⟩ |
          ⟨before, last, after, cause, rfl, stops, statements, read⟩
        · exact Or.inl ⟨first :: statements, adds read⟩
        · exact Or.inr ⟨line :: before, last, after, cause, rfl, stops,
            first :: statements, adds read⟩

end Body

namespace ScriptUnit

/-- The code that stands in the lines of a body. -/
def code (body : List (List Char)) : String := String.ofList (body.flatMap (· ++ ['\n']))

/-- A line that opens the section of a script. -/
def Opens (line : List Char) (script : ScriptId) (target : TargetId) : Prop :=
  ∃ record, trim line = opening.toList ++ record ∧ readHeader? record = some (script, target)

/-- A line that ends a section. -/
def Closes (line : List Char) : Prop := trim line = closing.toList

/-- Lines that are blank lines and sections, with the scripts of the sections in order. -/
inductive Reads : List (List Char) → List (Script α) → Prop
  | done : Reads [] []
  | blank {line rest scripts} :
      trim line = [] → Reads rest scripts → Reads (line :: rest) scripts
  | script {header body last rest id target statements scripts} :
      Opens header id target → (∀ line ∈ body, ¬Closes line) → Closes last →
      Body.parse (code body) = .ok statements → Reads rest scripts →
      Reads (header :: (body ++ last :: rest)) (⟨id, target, statements⟩ :: scripts)

variable (α) in
/-- The fault of the first problem in lines: those before it, or before the section that it
stands in, are blank lines and sections. -/
inductive FirstProblem (lines : List (List Char)) : SyntaxFault → Prop
  | outside {done line rest} {scripts : List (Script α)} :
      lines = done ++ line :: rest → Reads done scripts → trim line ≠ [] →
      ¬opening.toList <+: trim line → FirstProblem lines ⟨done.length + 1, .noSection⟩
  | header {done line rest record} {scripts : List (Script α)} :
      lines = done ++ line :: rest → Reads done scripts →
      trim line = opening.toList ++ record → readHeader? record = none →
      FirstProblem lines ⟨done.length + 1, .badHeader⟩
  | body {done header before line after last rest id target statements cause}
      {scripts : List (Script α)} :
      lines = done ++ header :: ((before ++ line :: after) ++ last :: rest) →
      Reads done scripts → Opens header id target →
      (∀ inner ∈ before ++ line :: after, ¬Closes inner) → Closes last →
      (Body.parse (code before) : Except SyntaxFault (List (Statement α))) = .ok statements →
      (Body.parse (code [line]) : Except SyntaxFault (List (Statement α))) = .error ⟨1, cause⟩ →
      FirstProblem lines ⟨(done ++ header :: before).length + 1, cause⟩
  | unclosed {done header body id target} {scripts : List (Script α)} :
      lines = done ++ header :: body → Reads done scripts → Opens header id target →
      (∀ line ∈ body, ¬Closes line) → FirstProblem lines ⟨done.length + 1, .openSection⟩

/-- The code in lines is read line by line. -/
theorem parse_code {body : List (List Char)} (single : ∀ line ∈ body, '\n' ∉ line) :
    (Body.parse (code body) : Except SyntaxFault (List (Statement α))) = Body.ofLines 1 body := by
  rw [Body.parse, code, String.toList_ofList, Text.lines_join body single]
  exact Body.ofLines_trim 1 (by simp [Function.comp_def])

/-- A line stops the reading of its body when it is at fault on its own. -/
theorem parse_single {line : List Char} {cause : SyntaxCause} (single : '\n' ∉ line) :
    (Body.parse (code [line]) : Except SyntaxFault (List (Statement α))) = .error ⟨1, cause⟩ ↔
      Body.Stops α line cause := by
  rw [parse_code (by simpa using single)]
  constructor
  · intro fails
    unfold Body.ofLines at fails
    dsimp only at fails
    split at fails
    case isTrue => cases fails
    case isFalse active =>
      split at fails
      case h_1 result =>
        obtain rfl := (SyntaxFault.mk.inj (Except.error.inj fails)).2
        exact ⟨by simpa using active, fun other => Body.statement_renumber other result⟩
      case h_2 => cases fails
  · intro stops
    exact stops.ofLines 1 []

/-! ## One section -/

/-- Behind its word a header is a record. -/
theorem openAt_record (number : Nat) (record : List Char) :
    openAt number (opening.toList ++ record) =
      match readHeader? record with
      | some (script, target) => .ok ⟨script, target, number, []⟩
      | none => .error ⟨number, .badHeader⟩ := by
  have starts : opening.toList.isPrefixOf (opening.toList ++ record) = true := by
    rw [List.isPrefixOf_iff_prefix]
    exact List.prefix_append _ _
  have behind : (opening.toList ++ record).drop opening.length = record := by
    rw [← String.length_toList, List.drop_left]
  cases header : readHeader? record <;> simp only [openAt, starts, behind, header, if_true]

/-- A line with an opening is not empty. -/
theorem opening_append_ne_nil (record : List Char) : opening.toList ++ record ≠ [] := by
  simp [opening]

/-- A line that opens a section stands before its body. -/
theorem ofLines_opens {line : List Char} {script : ScriptId} {target : TargetId}
    (opens : Opens line script target) (number : Nat) (rest : List (List Char)) :
    (ofLines number none (line :: rest) : Except SyntaxFault (List (Script α))) =
      ofLines (number + 1) (some ⟨script, target, number, []⟩) rest := by
  obtain ⟨record, shape, read⟩ := opens
  rw [ofLines]
  simp only [shape, opening_append_ne_nil, if_false, openAt_record, read]

/-- The lines of a body are gathered. -/
theorem ofLines_inside {body : List (List Char)} (inside : ∀ line ∈ body, ¬Closes line)
    (number : Nat) (part : OpenSection) (rest : List (List Char)) :
    (ofLines number (some part) (body ++ rest) : Except SyntaxFault (List (Script α))) =
      ofLines (number + body.length) (some { part with body := body.reverse ++ part.body })
        rest := by
  induction body generalizing number part with
  | nil => rfl
  | cons line others inductionHypothesis =>
    have stays : ¬trim line = closing.toList := inside line List.mem_cons_self
    have later : ∀ line ∈ others, ¬Closes line :=
      fun line member => inside line (List.mem_cons_of_mem _ member)
    have count : number + (line :: others).length = number + 1 + others.length := by
      rw [List.length_cons]
      omega
    rw [List.cons_append, ofLines, if_neg stays, inductionHypothesis later, count,
      List.reverse_cons, List.append_assoc, List.singleton_append]

/-- A section is read by its body, and then what follows it. -/
theorem ofLines_closed {header last : List Char} {body : List (List Char)} {script : ScriptId}
    {target : TargetId} (opens : Opens header script target)
    (inside : ∀ line ∈ body, ¬Closes line) (closes : Closes last) (number : Nat)
    (rest : List (List Char)) :
    (ofLines number none (header :: (body ++ last :: rest)) :
        Except SyntaxFault (List (Script α))) =
      match (Body.ofLines 1 body : Except SyntaxFault (List (Statement α))) with
      | .error fault => .error ⟨number + fault.line, fault.cause⟩
      | .ok statements =>
        (ofLines (number + (header :: (body ++ [last])).length) none rest).map
          (⟨script, target, statements⟩ :: ·) := by
  have ends : trim last = closing.toList := closes
  have count : number + 1 + body.length + 1 = number + (header :: (body ++ [last])).length := by
    simp
    omega
  rw [ofLines_opens opens, ofLines_inside inside, ofLines, if_pos ends, count, close]
  simp only [List.append_nil, List.reverse_reverse]
  cases (Body.ofLines 1 body : Except SyntaxFault (List (Statement α))) with
  | error fault => rfl
  | ok statements =>
    dsimp only
    cases (ofLines (number + (header :: (body ++ [last])).length) none rest :
      Except SyntaxFault (List (Script α))) <;> rfl

/-- The lines behind a header end the section somewhere, or nowhere. -/
theorem closes_or_not (lines : List (List Char)) :
    (∃ body last rest, lines = body ++ last :: rest ∧ (∀ line ∈ body, ¬Closes line) ∧
      Closes last) ∨ ∀ line ∈ lines, ¬Closes line := by
  induction lines with
  | nil => exact Or.inr (by simp)
  | cons line others inductionHypothesis =>
    by_cases closes : Closes line
    · exact Or.inl ⟨[], line, others, rfl, by simp, closes⟩
    · rcases inductionHypothesis with ⟨body, last, rest, rfl, inside, ends⟩ | inside
      · exact Or.inl ⟨line :: body, last, rest, rfl, by simpa using ⟨closes, inside⟩, ends⟩
      · exact Or.inr (by simpa using ⟨closes, inside⟩)

/-! ## All lines -/

/-- Blank lines and sections give their scripts, and then what follows them. -/
theorem Reads.ofLines_append {done : List (List Char)} {scripts : List (Script α)}
    (reads : Reads done scripts) (single : ∀ line ∈ done, '\n' ∉ line) (number : Nat)
    (rest : List (List Char)) :
    ofLines number none (done ++ rest) =
      (ofLines (number + done.length) none rest).map (scripts ++ ·) := by
  induction reads generalizing number with
  | done =>
    cases result : (ofLines number none rest : Except SyntaxFault (List (Script α))) <;>
      simp [result, Except.map]
  | @blank line others scripts nothing _ inductionHypothesis =>
    have later : ∀ line ∈ others, '\n' ∉ line :=
      fun line member => single line (List.mem_cons_of_mem _ member)
    have count : number + (line :: others).length = number + 1 + others.length := by
      rw [List.length_cons]
      omega
    rw [List.cons_append, ofLines, if_pos nothing, inductionHypothesis later, count]
  | @script header body last others id target statements scripts opens inside closes parsed _
      inductionHypothesis =>
    have later : ∀ line ∈ others, '\n' ∉ line := by
      intro line member
      exact single line (by simp [member])
    rw [parse_code fun line member => single line (by simp [member])] at parsed
    have shape : header :: (body ++ last :: others) ++ rest =
        header :: (body ++ last :: (others ++ rest)) := by simp
    have count : number + (header :: (body ++ last :: others)).length =
        number + (header :: (body ++ [last])).length + others.length := by
      simp
      omega
    rw [shape, ofLines_closed opens inside closes, parsed, count]
    dsimp only
    rw [inductionHypothesis later]
    cases (ofLines (number + (header :: (body ++ [last])).length + others.length) none rest :
      Except SyntaxFault (List (Script α))) <;> rfl

/-- The lines before a problem move the count of lines on and give no fault. -/
theorem Reads.fails {done rest : List (List Char)} {scripts : List (Script α)}
    {cause : SyntaxCause} (reads : Reads done scripts)
    (single : ∀ line ∈ done ++ rest, '\n' ∉ line) (offset : Nat)
    (fails : (ofLines (1 + done.length) none rest : Except SyntaxFault (List (Script α))) =
      .error ⟨1 + done.length + offset, cause⟩) :
    (ofLines 1 none (done ++ rest) : Except SyntaxFault (List (Script α))) =
      .error ⟨done.length + 1 + offset, cause⟩ := by
  have before : ∀ line ∈ done, '\n' ∉ line :=
    fun line member => single line (List.mem_append_left rest member)
  rw [reads.ofLines_append before, fails, Nat.add_comm 1]
  rfl

/-- The line that stops the reading of a body is counted from the body's start. -/
theorem ofLines_stops {before after : List (List Char)} {line : List Char} {cause : SyntaxCause}
    {statements : List (Statement α)} (single : ∀ inner ∈ before ++ line :: after, '\n' ∉ inner)
    (parsed : (Body.parse (code before) : Except SyntaxFault (List (Statement α))) =
      .ok statements)
    (stops : (Body.parse (code [line]) : Except SyntaxFault (List (Statement α))) =
      .error ⟨1, cause⟩) :
    (Body.ofLines 1 (before ++ line :: after) : Except SyntaxFault (List (Statement α))) =
      .error ⟨1 + before.length, cause⟩ := by
  rw [parse_code fun inner member => single inner (by simp [member])] at parsed
  rw [parse_single (single line (by simp))] at stops
  rw [Body.ofLines_append parsed, stops.ofLines]
  rfl

/-- The first problem is the fault that is reported. -/
theorem FirstProblem.ofLines {lines : List (List Char)} {fault : SyntaxFault}
    (problem : FirstProblem α lines fault) (single : ∀ line ∈ lines, '\n' ∉ line) :
    (ofLines 1 none lines : Except SyntaxFault (List (Script α))) = .error fault := by
  cases problem with
  | outside shape reads some other =>
    subst shape
    refine reads.fails single 0 ?_
    have unopened : ¬opening.toList.isPrefixOf (trim _) = true :=
      fun starts => other (List.isPrefixOf_iff_prefix.mp starts)
    simp [ScriptUnit.ofLines, some, openAt, unopened]
  | header shape reads start unread =>
    subst shape
    refine reads.fails single 0 ?_
    rw [ScriptUnit.ofLines]
    simp only [start, opening_append_ne_nil, if_false, openAt_record, unread]
    rfl
  | @body done header before line after last rest id target statements cause scripts shape reads
      opens inside closes parsed stops =>
    subst shape
    have plain : ∀ inner ∈ before ++ line :: after, '\n' ∉ inner := by
      intro inner member
      have present : inner ∈ before ++ line :: after ++ last :: rest :=
        List.mem_append_left _ member
      exact single inner (List.mem_append_right done (List.mem_cons_of_mem _ present))
    have count : (done ++ header :: before).length + 1 =
        done.length + 1 + (before.length + 1) := by
      simp
      omega
    rw [count]
    refine reads.fails single _ ?_
    rw [ofLines_closed opens inside closes, ofLines_stops plain parsed stops]
    dsimp only
    rw [Nat.add_comm 1 before.length]
  | @unclosed done header body id target scripts shape reads opens inside =>
    subst shape
    refine reads.fails single 0 ?_
    have gathered := ofLines_inside (α := α) inside (1 + done.length + 1)
      ⟨id, target, 1 + done.length, []⟩ []
    rw [List.append_nil] at gathered
    rw [ofLines_opens opens, gathered]
    rfl

/-- Sections that are read one after another are read in order. -/
theorem Reads.append {left right : List (List Char)} {first second : List (Script α)}
    (before : Reads left first) (behind : Reads right second) :
    Reads (left ++ right) (first ++ second) := by
  induction before with
  | done => exact behind
  | blank nothing _ inductionHypothesis => exact .blank nothing inductionHypothesis
  | script opens inside closes parsed _ inductionHypothesis =>
    have whole := Reads.script opens inside closes parsed inductionHypothesis
    simpa using whole

/-- Behind blank lines and sections the rest goes on in this way, or has a first problem. -/
theorem reads_or_problem {lines done rest : List (List Char)} {scripts : List (Script α)}
    (shape : lines = done ++ rest) (reads : Reads done scripts)
    (single : ∀ line ∈ lines, '\n' ∉ line) :
    (∃ scripts : List (Script α), Reads lines scripts) ∨ ∃ fault, FirstProblem α lines fault := by
  induction size : rest.length using Nat.strongRecOn generalizing done rest scripts with
  | ind size inductionHypothesis =>
  cases rest with
  | nil =>
    rw [List.append_nil] at shape
    exact Or.inl ⟨scripts, shape ▸ reads⟩
  | cons line others =>
    by_cases nothing : trim line = []
    · have further : Reads (done ++ [line]) (scripts ++ []) :=
        reads.append (.blank nothing .done)
      exact inductionHypothesis others.length (by simp [← size]) (by simp [shape]) further rfl
    by_cases starts : opening.toList <+: trim line
    · obtain ⟨record, whole⟩ := starts
      cases header : readHeader? record with
      | none => exact Or.inr ⟨_, .header shape reads whole.symm header⟩
      | some names =>
        have opens : Opens line names.1 names.2 := ⟨record, whole.symm, header⟩
        rcases closes_or_not others with ⟨body, last, rest, rfl, inside, closes⟩ | inside
        · have plain : ∀ inner ∈ body, '\n' ∉ inner := by
            intro inner member
            exact single inner (by simp [shape, member])
          rcases Body.ofLines_total (α := α) 1 body with ⟨statements, read⟩ |
            ⟨before, stopped, after, cause, rfl, stops, statements, read⟩
          · have part := Reads.script opens inside closes ((parse_code plain).trans read) .done
            refine inductionHypothesis rest.length ?_ ?_ (reads.append part) rfl
            · simp [← size]
              omega
            · simp [shape]
          · have parsed := parse_code (α := α) fun inner (member : inner ∈ before) =>
              plain inner (by simp [member])
            have alone := (parse_single (plain stopped (by simp))).mpr stops
            exact Or.inr ⟨_, .body shape reads opens inside closes (parsed.trans read) alone⟩
        · exact Or.inr ⟨_, .unclosed shape reads opens inside⟩
    · exact Or.inr ⟨_, .outside shape reads nothing starts⟩

/-- The texts that are units are exactly those whose lines are blank lines and sections, and
reading them gives the scripts of the sections. Any other text is refused for its first
problem, on the line that it stands in. -/
theorem parse_iff_sections (source : String) :
    (∀ scripts : List (Script α),
      parse source = .ok scripts ↔ Reads (Text.lines source.toList) scripts) ∧
    ∀ fault, (parse source : Except SyntaxFault (List (Script α))) = .error fault ↔
      FirstProblem α (Text.lines source.toList) fault := by
  have single := Text.lines_single source.toList
  have unit : ∀ {scripts : List (Script α)}, Reads (Text.lines source.toList) scripts →
      parse source = .ok scripts := by
    intro scripts reads
    have whole := reads.ofLines_append single 1 []
    rw [List.append_nil] at whole
    rw [parse, whole]
    simp [ofLines, Except.map]
  have refused : ∀ {fault : SyntaxFault}, FirstProblem α (Text.lines source.toList) fault →
      (parse source : Except SyntaxFault (List (Script α))) = .error fault :=
    fun problem => problem.ofLines single
  constructor
  · intro scripts
    refine ⟨fun read => ?_, unit⟩
    rcases reads_or_problem (α := α) rfl .done single with ⟨others, reads⟩ | ⟨fault, problem⟩
    · obtain rfl := Except.ok.inj ((unit reads).symm.trans read)
      exact reads
    · rw [refused problem] at read
      cases read
  · intro fault
    refine ⟨fun fails => ?_, refused⟩
    rcases reads_or_problem (α := α) rfl .done single with ⟨scripts, reads⟩ | ⟨other, problem⟩
    · rw [unit reads] at fails
      cases fails
    · obtain rfl := Except.error.inj ((refused problem).symm.trans fails)
      exact problem

end ScriptUnit

end SpriteMachine
