import SpriteMachine.Script.Batch
import SpriteMachine.Stage.Target

/-!
# Projects

A project describes the targets on the stage and the scripts they run. No two
targets share a name, and at most one is the stage.
-/

namespace SpriteMachine

/-- Targets in the order in which they are created, and their scripts. -/
structure Project (α : Type) where
  targets : List (TargetSpec α)
  scripts : Batch

/-- Why a project cannot be used. -/
inductive ProjectFault where
  | missingFile
  | malformed
  | duplicateTarget (target : TargetId)
  | multipleStages
deriving DecidableEq, Repr

/-- A fault in words. -/
def ProjectFault.message : ProjectFault → String
  | missingFile => "Cannot read the project"
  | malformed => "Malformed project"
  | duplicateTarget target => "Duplicate target id " ++ target.label
  | multipleStages => "A project has at most one stage"

namespace Project

variable {α : Type}

/-- The first name in a list that stands before in it too. -/
def firstRepeated? (seen : List TargetId) : List TargetId → Option TargetId
  | [] => none
  | id :: rest => if id ∈ seen then some id else firstRepeated? (id :: seen) rest

/-- A project whose targets can stand on one stage. -/
def check (project : Project α) : Except ProjectFault (Project α) :=
  match firstRepeated? [] (project.targets.map TargetSpec.id) with
  | some id => .error (.duplicateTarget id)
  | none =>
    if 1 < project.targets.countP TargetSpec.isStage then .error .multipleStages
    else .ok project

variable [Scalar α]

/-- How deep the variables of a target may nest inside a project. -/
def variableRoom : Nat := Json.deepest - 4

/-- The project of a JSON tree. -/
def ofJson? (json : Json) : Option (Project α) := do
  let record ← Record.ofJson? ["targets", "scripts"] json
  let targets ← record.withDefault "targets" [] (Json.listOf? (TargetSpec.ofJson? variableRoom))
  let scripts ← record.withDefault "scripts" .empty Batch.ofJson?
  return ⟨targets, scripts⟩

/-- The project of a text. -/
def read (text : String) : Except ProjectFault (Project α) :=
  match (Json.read? text.toList).bind ofJson? with
  | some project => project.check
  | none => .error .malformed

/-- The project of a file, by its content. -/
def ofFile : Option String → Except ProjectFault (Project α)
  | some content => read content
  | none => .error .missingFile

end Project

end SpriteMachine
