import SpriteMachine.Identifier
import SpriteMachine.Json.Record
import SpriteMachine.Json.Writer
import SpriteMachine.OrderedMap

/-!
# Batches and the event map

A batch gives every target the code it runs on each event, either as a plain
list or sorted by an option such as a key or a broadcast name. Linking a batch
names each piece of code; the event map then tells which scripts an event
starts.

An empty record of an event map reads as scripts without options: the two forms
cannot be told apart when nothing is listed.
-/

namespace SpriteMachine

/-- The code that one target runs on one event. -/
inductive EventScripts where
  | plain (codes : List String)
  | options (choices : OrderedMap String (List String))

/-- The code of each target on each event. -/
abbrev Batch := OrderedMap TargetId (OrderedMap String EventScripts)

/-- The scripts of one event, over all targets. -/
inductive EventEntry where
  | scripts (codes : OrderedMap ScriptId String)
  | options (choices : OrderedMap String (OrderedMap ScriptId String))

/-- The scripts of all events. -/
abbrev EventMap := OrderedMap String EventEntry

namespace EventScripts

/-- The pieces of code in order, with the option under which each stands. -/
def fragments : EventScripts → List (Option String × String)
  | plain codes => codes.map fun code => (none, code)
  | options choices =>
    choices.entries.flatMap fun (option, codes) => codes.map fun code => (some option, code)

/-- The scripts of a JSON tree: an array of code or an object of such arrays. -/
def ofJson? (json : Json) : Option EventScripts :=
  match Json.listOf? Json.text? json with
  | some codes => some (plain codes)
  | none => (Json.entriesOf? (Json.listOf? Json.text?) json).map fun entries =>
    options (OrderedMap.ofList entries)

end EventScripts

namespace Batch

/-- The batch of a JSON tree. -/
def ofJson? (json : Json) : Option Batch :=
  (Json.entriesOf? (Json.entriesOf? EventScripts.ofJson?) json).map fun targets =>
    OrderedMap.ofList (targets.map fun (target, events) => (⟨target⟩, OrderedMap.ofList events))

/-- The batch of a JSON text. -/
def read? (text : String) : Option Batch := (Json.read? text.toList).bind ofJson?

/-- Every target and event of a batch with its code, in order. -/
def placements (batch : Batch) : List (TargetId × String × EventScripts) :=
  batch.entries.flatMap fun (target, events) =>
    events.entries.map fun (event, scripts) => (target, event, scripts)

end Batch

namespace EventEntry

/-- Named scripts of a JSON tree. -/
def scripts? (json : Json) : Option (OrderedMap ScriptId String) :=
  (Json.entriesOf? Json.text? json).map fun entries =>
    OrderedMap.ofList (entries.map fun (id, code) => (⟨id⟩, code))

/-- The entry of a JSON tree. -/
def ofJson? (json : Json) : Option EventEntry :=
  match scripts? json with
  | some codes => some (scripts codes)
  | none => (Json.entriesOf? scripts? json).map fun entries => options (OrderedMap.ofList entries)

/-- Named scripts as JSON text. -/
def writeScripts (codes : OrderedMap ScriptId String) : String :=
  Json.writeObject (codes.entries.map fun (id, code) => (id.text, Json.quote code))

/-- An entry as JSON text. -/
def write : EventEntry → String
  | scripts codes => writeScripts codes
  | options choices =>
    Json.writeObject (choices.entries.map fun (option, codes) => (option, writeScripts codes))

/-- Named scripts as JSON text for readers. -/
def layScripts (level : Nat) (codes : OrderedMap ScriptId String) : String :=
  Json.layObject level (codes.entries.map fun (id, code) => (id.text, Json.quote code))

/-- An entry as JSON text for readers. -/
def lay (level : Nat) : EventEntry → String
  | scripts codes => layScripts level codes
  | options choices =>
    Json.layObject level (choices.entries.map fun (option, codes) =>
      (option, layScripts (level + 1) codes))

end EventEntry

namespace EventMap

/-- The event map of a JSON tree. -/
def ofJson? (json : Json) : Option EventMap :=
  (Json.entriesOf? EventEntry.ofJson? json).map OrderedMap.ofList

/-- An event map as JSON text. -/
def write (events : EventMap) : String :=
  Json.writeObject (events.entries.map fun (event, entry) => (event, entry.write))

/-- An event map as JSON text for readers. -/
def lay (events : EventMap) : String :=
  Json.layObject 0 (events.entries.map fun (event, entry) => (event, entry.lay 1))

end EventMap

end SpriteMachine
