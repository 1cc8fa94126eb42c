import SpriteMachine.Text.Blank
import SpriteMachine.Text.Lines

/-!
# Lines and the blanks at their ends

Lines that were joined by line feeds come apart again, but for one carriage return at
their ends, and such a carriage return is a blank that trimming removes anyway.
-/

namespace SpriteMachine.Text

/-- A line without a line feed is read up to the line feed behind it. -/
theorem linesFrom_line (current line rest : List Char) (single : '\n' ∉ line) :
    linesFrom current (line ++ '\n' :: rest) =
      dropReturn (current.reverse ++ line) :: linesFrom [] rest := by
  induction line generalizing current with
  | nil => simp [linesFrom]
  | cons c others inductionHypothesis =>
    rw [List.mem_cons, not_or] at single
    rw [List.cons_append, linesFrom, if_neg fun equal => single.1 equal.symm,
      inductionHypothesis _ single.2, List.reverse_cons, List.append_assoc,
      List.singleton_append]

/-- A text without a line feed goes into the open line. -/
theorem linesFrom_append (current text rest : List Char) (single : '\n' ∉ text) :
    linesFrom current (text ++ rest) = linesFrom (text.reverse ++ current) rest := by
  induction text generalizing current with
  | nil => rfl
  | cons c others inductionHypothesis =>
    rw [List.mem_cons, not_or] at single
    rw [List.cons_append, linesFrom, if_neg fun equal => single.1 equal.symm,
      inductionHypothesis _ single.2, List.reverse_cons, List.append_assoc,
      List.singleton_append]

/-- Joined lines come apart again. -/
theorem lines_join (parts : List (List Char)) (single : ∀ line ∈ parts, '\n' ∉ line) :
    lines (parts.flatMap (· ++ ['\n'])) = parts.map dropReturn := by
  induction parts with
  | nil => rfl
  | cons first others inductionHypothesis =>
    have later := inductionHypothesis fun line member => single line (List.mem_cons_of_mem _ member)
    rw [List.flatMap_cons, List.append_assoc, List.singleton_append, lines,
      linesFrom_line _ _ _ (single first List.mem_cons_self), List.map_cons, ← later]
    rfl

/-- To drop a carriage return adds no character. -/
theorem mem_of_mem_dropReturn {c : Char} {line : List Char} (member : c ∈ dropReturn line) :
    c ∈ line := by
  unfold dropReturn at member
  split at member
  case isTrue => exact List.dropLast_subset line member
  case isFalse => exact member

/-- No line holds a line feed. -/
theorem linesFrom_single (current text : List Char) (single : '\n' ∉ current) :
    ∀ line ∈ linesFrom current text, '\n' ∉ line := by
  induction text generalizing current with
  | nil =>
    intro line member
    rw [linesFrom] at member
    split at member
    case isTrue => cases member
    case isFalse =>
      rw [List.mem_singleton.mp member, List.mem_reverse]
      exact single
  | cons c others inductionHypothesis =>
    intro line member
    rw [linesFrom] at member
    split at member
    case isTrue =>
      rcases List.mem_cons.mp member with rfl | later
      · exact fun inside => single (List.mem_reverse.mp (mem_of_mem_dropReturn inside))
      · exact inductionHypothesis [] (by simp) line later
    case isFalse other =>
      refine inductionHypothesis (c :: current) ?_ line member
      rw [List.mem_cons, not_or]
      exact ⟨fun equal => other equal.symm, single⟩

/-- No line has a line break in it. -/
theorem lines_single (text : List Char) : ∀ line ∈ lines text, '\n' ∉ line :=
  linesFrom_single [] text (by simp)

/-- A blank at the end of a text does not matter behind trimming. -/
theorem trim_append_blank (text : List Char) {c : Char} (blank : isBlank c = true) :
    trim (text ++ [c]) = trim text := by
  unfold trim trimStart
  rw [List.dropWhile_append]
  by_cases nothing : (text.dropWhile isBlank).isEmpty
  · rw [if_pos nothing, List.isEmpty_iff.mp nothing]
    simp [blank]
  · rw [if_neg nothing]
    simp [trimEnd, blank]

/-- A carriage return at the end is trimmed away as well. -/
@[simp]
theorem trim_dropReturn (line : List Char) : trim (dropReturn line) = trim line := by
  unfold dropReturn
  split
  case isTrue ends =>
    have whole : line = line.dropLast ++ ['\r'] := by
      rw [List.getLast?_eq_some_iff] at ends
      obtain ⟨start, rfl⟩ := ends
      rw [List.dropLast_concat]
    rw [← trim_append_blank line.dropLast (by decide : isBlank '\r' = true), ← whole]
  case isFalse => rfl

/-- A text that neither starts nor ends with a blank. -/
theorem trim_eq_self {first last : Char} (middle : List Char) (start : isBlank first = false)
    (ends : isBlank last = false) :
    trim (first :: (middle ++ [last])) = first :: (middle ++ [last]) := by
  unfold trim trimStart
  rw [List.dropWhile_cons_of_neg (by simp [start]), trimEnd]
  simp [ends]

end SpriteMachine.Text
