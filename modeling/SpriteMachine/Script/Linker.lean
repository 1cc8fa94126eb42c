import SpriteMachine.Script.Batch
import SpriteMachine.Script.Unit

/-!
# Linking a batch

Linking names every piece of code in a batch and gives three things: the unit
that a worker loads, the event map, and the registrations that the scheduler
keeps. It is all or nothing. First every target has to be live and every piece
of code has to parse, in the order of the batch. Only then are names drawn, and
only then may an event turn out to be given both with and without options.

The source of names is returned in every case, since names drawn before such a
fault stay used up.
-/

namespace SpriteMachine

/-- A unit and the events that its scripts serve. -/
structure LinkedUnit where
  source : String
  events : EventMap

/-- What the scheduler keeps of a script. -/
structure Registration where
  target : TargetId
  event : String
  option : Option String
  code : String
deriving DecidableEq, Repr

/-- The result of linking. `opcodes` lists each opcode once, in the order of its
first call. -/
structure Linked where
  unit : LinkedUnit
  registrations : OrderedMap ScriptId Registration
  opcodes : List String

/-- Why a batch cannot be linked. -/
inductive LinkFault where
  | unknownTarget (target : TargetId)
  | syntaxFault (target : TargetId) (event : String) (fault : SyntaxFault)
  | mixedEvent (event : String)
deriving DecidableEq, Repr

/-- The name of a fault's kind. -/
def LinkFault.kind : LinkFault → String
  | unknownTarget _ => "UnknownTarget"
  | syntaxFault .. => "Syntax"
  | mixedEvent _ => "MixedEventShape"

/-- A fault in words. -/
def LinkFault.message : LinkFault → String
  | unknownTarget target => "Cannot find target with id " ++ target.label
  | syntaxFault target event fault =>
    "Syntax error in " ++ target.label ++ " / " ++ event ++ ": " ++ fault.message
  | mixedEvent event => "Event " ++ event ++ " is registered both with and without options"

namespace Linker

variable (α : Type) [Scalar α]

/-- The opcodes that pieces of code call, in order and with repetition. -/
def opcodesOf (target : TargetId) (event : String) :
    List (Option String × String) → Except LinkFault (List String)
  | [] => .ok []
  | (_, code) :: rest =>
    match (Body.parse code : Except SyntaxFault (List (Statement α))) with
    | .error fault => .error (.syntaxFault target event fault)
    | .ok body => (opcodesOf target event rest).map (body.map Statement.opcode ++ ·)

/-- The opcodes that the events of one target call. -/
def checkEvents (target : TargetId) :
    List (String × EventScripts) → Except LinkFault (List String)
  | [] => .ok []
  | (event, scripts) :: rest =>
    match opcodesOf α target event scripts.fragments with
    | .error fault => .error fault
    | .ok opcodes => (checkEvents target rest).map (opcodes ++ ·)

/-- The opcodes that all targets call, when every target is live. -/
def checkTargets (isLive : TargetId → Bool) :
    List (TargetId × OrderedMap String EventScripts) → Except LinkFault (List String)
  | [] => .ok []
  | (target, events) :: rest =>
    if isLive target then
      match checkEvents α target events.entries with
      | .error fault => .error fault
      | .ok opcodes => (checkTargets isLive rest).map (opcodes ++ ·)
    else .error (.unknownTarget target)

/-- What was named so far. -/
structure Progress where
  events : EventMap
  registrations : OrderedMap ScriptId Registration
  ids : IdSource

namespace Progress

/-- Files a script under its event, and under its option if it has one. -/
def file (events : EventMap) (event : String) (option : Option String) (id : ScriptId)
    (code : String) : EventMap :=
  events.modify event fun entry =>
    match entry, option with
    | .scripts codes, none => .scripts (codes.insert id code)
    | .options choices, some option =>
      .options (choices.modify option fun codes => codes.insert id code)
    | entry, _ => entry

/-- Names one piece of code and files it. -/
def place (progress : Progress) (target : TargetId) (event : String) (option : Option String)
    (code : String) : Progress :=
  match progress.ids.draw (progress.registrations.keys.map ScriptId.text) with
  | (name, ids) =>
    { events := file progress.events event option ⟨name⟩ code
      registrations := progress.registrations.insert ⟨name⟩ ⟨target, event, option, code⟩
      ids := ids }

/-- Names pieces of code that stand under one option, or under none. -/
def placeAll (progress : Progress) (target : TargetId) (event : String) (option : Option String)
    (codes : List String) : Progress :=
  codes.foldl (fun progress code => progress.place target event option code) progress

/-- Lists an option of an event, without scripts unless it has some. -/
def openOption (progress : Progress) (event : String) (option : String) : Progress :=
  { progress with
    events := progress.events.modify event fun entry =>
      match entry with
      | .options choices =>
        .options (if choices.contains option then choices else choices.insert option .empty)
      | entry => entry }

/-- Lists an event in the form its code is given in. It must not be listed in the
other form. -/
def openEvent (progress : Progress) (event : String) (scripts : EventScripts) :
    Option Progress :=
  match progress.events.find? event, scripts with
  | none, .plain _ =>
    some { progress with events := progress.events.insert event (.scripts .empty) }
  | none, .options _ =>
    some { progress with events := progress.events.insert event (.options .empty) }
  | some (.scripts _), .plain _ => some progress
  | some (.options _), .options _ => some progress
  | some _, _ => none

/-- Names the code of one target on one listed event. -/
def placeEvent (progress : Progress) (target : TargetId) (event : String) :
    EventScripts → Progress
  | .plain codes => progress.placeAll target event none codes
  | .options choices =>
    choices.entries.foldl (fun progress (option, codes) =>
      (progress.openOption event option).placeAll target event (some option) codes) progress

/-- Names the code of targets and events one after another, up to the first event
that is given in both forms. -/
def run (progress : Progress) :
    List (TargetId × String × EventScripts) → Progress × Option LinkFault
  | [] => (progress, none)
  | (target, event, scripts) :: rest =>
    match progress.openEvent event scripts with
    | none => (progress, some (.mixedEvent event))
    | some progress => run (progress.placeEvent target event scripts) rest

end Progress

/-- The sections of a unit, one for each registration. -/
def sections (registrations : OrderedMap ScriptId Registration) : List Section :=
  registrations.entries.map fun (id, registration) =>
    ⟨id, registration.target, registration.code⟩

/-- Links a batch against the live targets. -/
def link (batch : Batch) (isLive : TargetId → Bool) (ids : IdSource) :
    Except LinkFault Linked × IdSource :=
  match checkTargets α isLive batch.entries with
  | .error fault => (.error fault, ids)
  | .ok opcodes =>
    match Progress.run ⟨.empty, .empty, ids⟩ batch.placements with
    | (progress, some fault) => (.error fault, progress.ids)
    | (progress, none) =>
      (.ok
        { unit := ⟨ScriptUnit.render (sections progress.registrations), progress.events⟩
          registrations := progress.registrations
          opcodes := opcodes.eraseDups },
        progress.ids)

end Linker

end SpriteMachine
