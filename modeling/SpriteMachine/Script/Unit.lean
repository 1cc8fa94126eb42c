import SpriteMachine.Json.Record
import SpriteMachine.Json.Writer
import SpriteMachine.Script.Body

/-!
# Units

A unit is the text in which scripts travel to a worker. Each script is a section:
a header line that names the script and its target, the lines of its code and a
line `@end`. Blank lines may stand between sections.

`render` writes a unit and `parse` reads one. The lines of a statement count from
the line behind its header, while a fault is reported on the line of the unit.
-/

namespace SpriteMachine

/-- A script as it goes into a unit: not parsed yet. -/
structure Section where
  script : ScriptId
  target : TargetId
  code : String
deriving DecidableEq, Repr

namespace ScriptUnit

variable {α : Type} [Scalar α]

/-- What a header line starts with. -/
def opening : String := "@script "

/-- The line that ends a section. -/
def closing : String := "@end"

/-- The record in a section's header. -/
def header (script : ScriptId) (target : TargetId) : String :=
  Json.writeObject [("script", Json.quote script.text), ("target", Json.quote target.text)]

/-- The lines of a section. -/
def sectionLines (part : Section) : List String :=
  (opening ++ header part.script part.target) ::
    (Text.lines part.code.toList).map String.ofList ++ [closing]

/-- The unit of sections in order. -/
def render (sections : List Section) : String :=
  String.join ((sections.flatMap sectionLines).map (· ++ "\n"))

/-- The script and target that a header's record names. -/
def readHeader? (text : List Char) : Option (ScriptId × TargetId) := do
  let json ← Json.read? text
  let record ← Record.ofJson? ["script", "target"] json
  let script ← record.required "script" Json.text?
  let target ← record.required "target" Json.text?
  return (⟨script⟩, ⟨target⟩)

/-- A section whose end was not met yet: its header, the line of the header and
the lines of its body in reverse. -/
structure OpenSection where
  script : ScriptId
  target : TargetId
  start : Nat
  body : List (List Char)

/-- The section that a line outside of sections opens. -/
def openAt (number : Nat) (text : List Char) : Except SyntaxFault OpenSection :=
  if opening.toList.isPrefixOf text then
    match readHeader? (text.drop opening.length) with
    | some (script, target) => .ok ⟨script, target, number, []⟩
    | none => .error ⟨number, .badHeader⟩
  else .error ⟨number, .noSection⟩

/-- The script of a section that ends. Faults of its body are moved from the body's
count of lines to that of the unit. -/
def close (part : OpenSection) : Except SyntaxFault (Script α) :=
  match Body.ofLines 1 part.body.reverse with
  | .ok body => .ok ⟨part.script, part.target, body⟩
  | .error fault => .error ⟨part.start + fault.line, fault.cause⟩

/-- The scripts in lines, the first of which has the given number, when the given
section is open before them. -/
def ofLines (number : Nat) : Option OpenSection → List (List Char) →
    Except SyntaxFault (List (Script α))
  | none, [] => .ok []
  | some part, [] => .error ⟨part.start, .openSection⟩
  | none, line :: rest =>
    let text := Text.trim line
    if text = [] then ofLines (number + 1) none rest
    else
      match openAt number text with
      | .error fault => .error fault
      | .ok part => ofLines (number + 1) (some part) rest
  | some part, line :: rest =>
    if Text.trim line = closing.toList then
      match close part with
      | .error fault => .error fault
      | .ok script =>
        match ofLines (number + 1) none rest with
        | .error fault => .error fault
        | .ok others => .ok (script :: others)
    else ofLines (number + 1) (some { part with body := line :: part.body }) rest

/-- The scripts of a unit. -/
def parse (source : String) : Except SyntaxFault (List (Script α)) :=
  ofLines 1 none (Text.lines source.toList)

end ScriptUnit

end SpriteMachine
