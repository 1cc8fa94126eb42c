import SpriteMachine.Worker.Message

/-!
# Messages as text

A message is a JSON object whose `id` names its kind, with the parts of the
message beside it; a message without parts is the `id` alone. Reading also takes
an array of the kind and the parts in order. Other entries of the object have to
be sound values but are not looked at.
-/

namespace SpriteMachine

/-- A kind and the tree that holds the parts of a message. -/
structure TaggedJson where
  kind : String
  content : Json

namespace TaggedJson

variable (α : Type) [Scalar α]

/-- The kind and parts of a JSON tree. The kind is given exactly once, as text. -/
def ofJson? (json : Json) : Option TaggedJson :=
  match json with
  | .object entries =>
    match (Value.ofEntries? (entries.filter (·.1 ≠ some "id")) : Option (List (String × Value α))),
        entries.filter (·.1 = some "id") with
    | some _, [(_, .string (some kind))] =>
      some ⟨kind, .object (entries.filter (·.1 ≠ some "id"))⟩
    | _, _ => none
  | .array (.string (some kind) :: items) =>
    (Value.ofItems? items : Option (List (Value α))).map fun _ => ⟨kind, .array items⟩
  | _ => none

/-- Whether a message without parts may have this content: an object may hold
anything, an array nothing. -/
def isBare (tagged : TaggedJson) : Bool :=
  match tagged.content with
  | .array items => items.isEmpty
  | _ => true

end TaggedJson

/-- The start of a JSON tree. -/
def ThreadStart.ofJson? (json : Json) : Option ThreadStart := do
  let record ← Record.ofJson? ["threadId", "scriptId", "targetId"] json
  let thread ← record.required "threadId" Json.text?
  let script ← record.required "scriptId" Json.text?
  let target ← record.required "targetId" Json.text?
  return ⟨⟨thread⟩, ⟨script⟩, ⟨target⟩⟩

/-- A start as JSON text. -/
def ThreadStart.write (start : ThreadStart) : String :=
  Json.writeObject [("threadId", Json.quote start.thread.text),
    ("scriptId", Json.quote start.script.text), ("targetId", Json.quote start.target.text)]

/-- The linked unit of a JSON tree. -/
def LinkedUnit.ofJson? (json : Json) : Option LinkedUnit := do
  let record ← Record.ofJson? ["source", "eventMap"] json
  let source ← record.required "source" Json.text?
  let events ← record.required "eventMap" EventMap.ofJson?
  return ⟨source, events⟩

/-- A linked unit as JSON text. -/
def LinkedUnit.write (unit : LinkedUnit) : String :=
  Json.writeObject [("source", Json.quote unit.source), ("eventMap", unit.events.write)]

/-- The arguments of a JSON object. -/
def Args.ofJson? {α : Type} [Scalar α] (json : Json) : Option (Args α) :=
  (Json.entriesOf? Value.ofJson? json).map Args.ofList

/-- A text or `null` as JSON text. -/
def writeNullable : Option String → String
  | some text => Json.quote text
  | none => "null"

/-- A message object as JSON text. -/
def writeTagged (kind : String) (parts : List (String × String)) : String :=
  Json.writeObject (("id", Json.quote kind) :: parts)

/-- The names of threads as a JSON array. -/
def writeThreads (threads : List ThreadId) : String :=
  Json.writeArray (threads.map fun id => Json.quote id.text)

/-- The names of threads in a JSON array. -/
def readThreads? (json : Json) : Option (List ThreadId) :=
  (Json.listOf? Json.text? json).map (·.map ThreadId.mk)

namespace HostMessage

variable {α : Type} [Scalar α]

/-- A message as JSON text. -/
def write : HostMessage α → String
  | connected => writeTagged "VmConnected" []
  | prepare url => writeTagged "InitBackend" [("backendUrl", Json.quote url)]
  | register token unit =>
    writeTagged "RegisterThreads" [("token", Json.quote token.text), ("unit", unit.write)]
  | runAsync source starts =>
    writeTagged "AsyncRun" [("source", Json.quote source),
      ("targets", Json.writeArray (starts.map ThreadStart.write))]
  | result token value =>
    writeTagged "ResultValue" [("token", Json.quote token.text), ("value", value.write)]
  | failure token message =>
    writeTagged "ResultError" [("token", Json.quote token.text), ("message", Json.quote message)]
  | startHats token hat option starts =>
    writeTagged "StartHats" [("token", Json.quote token.text), ("hat", Json.quote hat),
      ("option", writeNullable option), ("starts", Json.writeArray (starts.map ThreadStart.write))]
  | stopThreads threads => writeTagged "StopThreads" [("threadIds", writeThreads threads)]
  | stopAll => writeTagged "StopAll" []

/-- The message of a JSON tree. -/
def ofJson? (json : Json) : Option (HostMessage α) := do
  let tagged ← TaggedJson.ofJson? α json
  let record (names : List String) := Record.ofJson? names tagged.content
  match tagged.kind with
  | "VmConnected" => if tagged.isBare then some connected else none
  | "InitBackend" =>
    let record ← record ["backendUrl"]
    return prepare (← record.required "backendUrl" Json.text?)
  | "RegisterThreads" =>
    let record ← record ["token", "unit"]
    let token ← record.required "token" Json.text?
    let unit ← record.required "unit" LinkedUnit.ofJson?
    return register ⟨token⟩ unit
  | "AsyncRun" =>
    let record ← record ["source", "targets"]
    let source ← record.required "source" Json.text?
    let starts ← record.required "targets" (Json.listOf? ThreadStart.ofJson?)
    return runAsync source starts
  | "ResultValue" =>
    let record ← record ["token", "value"]
    let token ← record.required "token" Json.text?
    let value ← record.required "value" Value.ofJson?
    return result ⟨token⟩ value
  | "ResultError" =>
    let record ← record ["token", "message"]
    let token ← record.required "token" Json.text?
    let message ← record.required "message" Json.text?
    return failure ⟨token⟩ message
  | "StartHats" =>
    let record ← record ["token", "hat", "option", "starts"]
    let token ← record.required "token" Json.text?
    let hat ← record.required "hat" Json.text?
    let option ← record.nullable "option" Json.text?
    let starts ← record.required "starts" (Json.listOf? ThreadStart.ofJson?)
    return startHats ⟨token⟩ hat option starts
  | "StopThreads" =>
    let record ← record ["threadIds"]
    return stopThreads (← record.required "threadIds" readThreads?)
  | "StopAll" => if tagged.isBare then some stopAll else none
  | _ => none

/-- The message of a JSON text. -/
def read? (text : String) : Option (HostMessage α) := do
  let json ← Json.read? text.toList
  if json.depth ≤ Json.deepest then ofJson? json else none

end HostMessage

namespace WorkerMessage

variable {α : Type} [Scalar α]

/-- A message as JSON text. -/
def write : WorkerMessage α → String
  | status report => writeTagged report.name []
  | scriptError thread message =>
    writeTagged "ScriptError" [("threadId", writeNullable (thread.map ThreadId.text)),
      ("error", Json.quote message)]
  | call target thread opcode args token =>
    writeTagged "BlockOP" [("targetId", Json.quote target.text),
      ("threadId", Json.quote thread.text), ("opCode", Json.quote opcode),
      ("args", (Value.object args.entries).write), ("token", Json.quote token.text)]
  | ended thread => writeTagged "EndOfThread" [("threadId", Json.quote thread.text)]
  | registered token refusal =>
    writeTagged "ThreadsRegistered" [("token", Json.quote token.text),
      ("error", writeNullable refusal)]
  | started token threads =>
    writeTagged "HatsStarted" [("token", Json.quote token.text),
      ("threadIds", writeThreads threads)]

/-- The status of a name. -/
def statusOf? : String → Option WorkerStatus
  | "EnvironmentLoading" => some .environmentLoading
  | "EnvironmentLoaded" => some .environmentLoaded
  | "ScriptLoading" => some .scriptLoading
  | "ScriptRunning" => some .scriptRunning
  | "ScriptFinished" => some .scriptFinished
  | _ => none

/-- The message of a JSON tree. -/
def ofJson? (json : Json) : Option (WorkerMessage α) := do
  let tagged ← TaggedJson.ofJson? α json
  let record (names : List String) := Record.ofJson? names tagged.content
  match tagged.kind with
  | "ScriptError" =>
    let record ← record ["threadId", "error"]
    let thread ← record.nullable "threadId" Json.text?
    let message ← record.required "error" Json.text?
    return scriptError (thread.map ThreadId.mk) message
  | "BlockOP" =>
    let record ← record ["targetId", "threadId", "opCode", "args", "token"]
    let target ← record.required "targetId" Json.text?
    let thread ← record.required "threadId" Json.text?
    let opcode ← record.required "opCode" Json.text?
    let args ← record.required "args" Args.ofJson?
    let token ← record.required "token" Json.text?
    return call ⟨target⟩ ⟨thread⟩ opcode args ⟨token⟩
  | "EndOfThread" =>
    let record ← record ["threadId"]
    return ended ⟨← record.required "threadId" Json.text?⟩
  | "ThreadsRegistered" =>
    let record ← record ["token", "error"]
    let token ← record.required "token" Json.text?
    let refusal ← record.nullableWithDefault "error" Json.text?
    return registered ⟨token⟩ refusal
  | "HatsStarted" =>
    let record ← record ["token", "threadIds"]
    let token ← record.required "token" Json.text?
    let threads ← record.required "threadIds" readThreads?
    return started ⟨token⟩ threads
  | kind =>
    let named ← statusOf? kind
    if tagged.isBare then some (status named) else none

/-- The message of a JSON text. -/
def read? (text : String) : Option (WorkerMessage α) := do
  let json ← Json.read? text.toList
  if json.depth ≤ Json.deepest then ofJson? json else none

end WorkerMessage

end SpriteMachine
