import SpriteMachine.Settings.Basic

/-!
# The command line

    patchvm run PROJECT [--ticks N] [--worker inline|thread] [--fast]
    patchvm link PROJECT
    patchvm opcodes
    patchvm version

Every command also takes `--verbose` or `-v` and `--config FILE`. Options and words
may stand in any order, and the value of an option may follow it behind an equals
sign.
-/

namespace SpriteMachine

/-- What the program is asked to do. A run without a number of ticks goes on as long
as something moves, and a run that is not paced does not wait between ticks. -/
inductive Command where
  | run (project : String) (ticks : Option Nat) (mode : Option WorkerMode) (paced : Bool)
  | link (project : String)
  | opcodes
  | version
deriving DecidableEq, Repr

/-- A command and the options that any command takes. -/
structure CommandLine where
  command : Command
  verbose : Bool
  settingsFile : Option String
deriving DecidableEq, Repr

namespace CommandLine

/-- How the program is called. -/
def usage : String :=
  "usage: patchvm [-v | --verbose] [--config FILE] COMMAND\n\n" ++
    "  run PROJECT [--ticks N] [--worker inline|thread] [--fast]\n" ++
    "  link PROJECT\n" ++
    "  opcodes\n" ++
    "  version"

/-- The options and words read so far, the words in order. -/
structure Draft where
  words : List String
  verbose : Bool
  settingsFile : Option String
  ticks : Option Nat
  mode : Option WorkerMode
  fast : Bool

namespace Draft

/-- Nothing read. -/
def blank : Draft := ⟨[], false, none, none, none, false⟩

/-- Whether an option was read that belongs to a run. -/
def isRun (draft : Draft) : Bool := draft.ticks.isSome || draft.mode.isSome || draft.fast

/-- The command that the words name. -/
def command? (draft : Draft) : Option Command :=
  match draft.words with
  | ["run", project] => some (.run project draft.ticks draft.mode (!draft.fast))
  | ["link", project] => if draft.isRun then none else some (.link project)
  | ["opcodes"] => if draft.isRun then none else some .opcodes
  | ["version"] => if draft.isRun then none else some .version
  | _ => none

end Draft

/-- An option with its value behind an equals sign as two words; other words stay. -/
def separate (word : String) : List String :=
  let isName := fun c => c ≠ '='
  match word.toList with
  | '-' :: '-' :: rest =>
    match rest.dropWhile isName with
    | _ :: value => [String.ofList ('-' :: '-' :: rest.takeWhile isName), String.ofList value]
    | [] => [word]
  | _ => [word]

/-- A number of ticks that 64 bits hold. -/
def ticks? (word : String) : Option Nat :=
  let digits := word.toList
  let count := Numeral.ofDigits digits
  if digits ≠ [] ∧ digits.all Char.isDigit ∧ count ≤ Width.last64 then some count else none

/-- Reads words on top of those read before. -/
def gather : Draft → List String → Option Draft
  | draft, [] => some draft
  | draft, "-v" :: rest => gather { draft with verbose := true } rest
  | draft, "--verbose" :: rest => gather { draft with verbose := true } rest
  | draft, "--fast" :: rest => gather { draft with fast := true } rest
  | draft, "--config" :: file :: rest => gather { draft with settingsFile := some file } rest
  | draft, "--ticks" :: count :: rest =>
    match ticks? count with
    | some count => gather { draft with ticks := some count } rest
    | none => none
  | draft, "--worker" :: name :: rest =>
    match WorkerMode.ofName? name with
    | some mode => gather { draft with mode := some mode } rest
    | none => none
  | draft, word :: rest =>
    if word.toList.head? = some '-' then none
    else gather { draft with words := draft.words ++ [word] } rest

/-- The command line of words. -/
def read? (words : List String) : Option CommandLine := do
  let draft ← gather .blank (words.flatMap separate)
  return ⟨← draft.command?, draft.verbose, draft.settingsFile⟩

end CommandLine

end SpriteMachine
