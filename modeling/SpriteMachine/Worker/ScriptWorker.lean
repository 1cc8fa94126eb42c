import SpriteMachine.Worker.Message
import SpriteMachine.Worker.PendingTokens

/-!
# The script worker

The script worker holds the bodies of scripts and walks any number of them at
once. A running thread waits for the answer to exactly one block call; the
answer moves it to its next statement. Every step returns the worker behind it
and the messages it sent, in order.

The worker tells when its first thread starts and when its last one is gone. It
gives up a call whose answer does not come within the block timeout, if there is
one.
-/

namespace SpriteMachine

/-- A thread on its way through a script: the statement it is at, and in `memory` the
variables assigned so far. -/
structure RunningThread (α : Type) where
  script : ScriptId
  target : TargetId
  position : Nat
  memory : OrderedMap String (Value α)

/-- The loaded scripts, the running threads and the calls that wait for their
answer. The block timeout is in milliseconds. -/
structure ScriptWorker (α : Type) where
  scripts : OrderedMap ScriptId (Script α)
  running : OrderedMap ThreadId (RunningThread α)
  pending : PendingTokens ThreadId
  tokens : TokenSource
  blockTimeout : Option Nat

namespace ScriptWorker

variable {α : Type}

/-- A worker without scripts. -/
def idle (blockTimeout : Option Nat) : ScriptWorker α :=
  ⟨.empty, .empty, .empty, .ofLead "w", blockTimeout⟩

/-- A worker and the messages it sent. -/
abbrev Sent (α : Type) := ScriptWorker α × List (WorkerMessage α)

/-- The notice that no thread runs, if that is so. -/
def idleNotice (worker : ScriptWorker α) : List (WorkerMessage α) :=
  if worker.running.isEmpty then [.status .scriptFinished] else []

/-- Ends a thread with an error. -/
def fail (worker : ScriptWorker α) (thread : ThreadId) (message : String) : Sent α :=
  let stopped := { worker with
    running := worker.running.erase thread
    pending := worker.pending.retain (· ≠ thread) }
  (stopped, .scriptError (some thread) message :: stopped.idleNotice)

/-- Ends a thread that has no statement left. -/
def finish (worker : ScriptWorker α) (thread : ThreadId) : Sent α :=
  let finished := { worker with running := worker.running.erase thread }
  (finished, .ended thread :: finished.idleNotice)

/-- Calls the block of a statement on behalf of a thread. A token is new, so it is
never pending yet. -/
def callBlock (worker : ScriptWorker α) (now : Nat) (thread : ThreadId) (target : TargetId)
    (opcode : String) (args : Args α) : Sent α :=
  match worker.tokens.next with
  | (token, tokens) =>
    let drawn := { worker with tokens := tokens }
    match worker.pending.register? token thread (worker.blockTimeout.map (now + ·)) with
    | some pending => ({ drawn with pending := pending }, [.call target thread opcode args token])
    | none => (drawn, [])

/-- Takes a running thread to its current statement: calls its block, or ends the
thread when there is none or when it cannot be called. -/
def advance (worker : ScriptWorker α) (now : Nat) (thread : ThreadId) : Sent α :=
  match worker.running.find? thread with
  | none => (worker, [])
  | some running =>
    match worker.scripts.find? running.script with
    | none => worker.fail thread (running.script.label ++ " is no longer registered")
    | some script =>
      match script.body[running.position]? with
      | none => worker.finish thread
      | some statement =>
        match statement.bind running.memory.find? with
        | .ok args => worker.callBlock now thread running.target statement.opcode args
        | .error name =>
          worker.fail thread
            ("line " ++ toString statement.line ++ ": unknown variable $" ++ name)

/-- Takes threads to their current statements one after another. -/
def advanceAll (now : Nat) : ScriptWorker α → List ThreadId → Sent α
  | worker, [] => (worker, [])
  | worker, thread :: rest =>
    match worker.advance now thread with
    | (worker, sent) =>
      match advanceAll now worker rest with
      | (worker, others) => (worker, sent ++ others)

/-- Puts threads at the first statement of their scripts. A start whose script is
not loaded is left out; the threads of the others are returned. -/
def enter : ScriptWorker α → List ThreadStart → ScriptWorker α × List ThreadId
  | worker, [] => (worker, [])
  | worker, start :: rest =>
    if worker.scripts.contains start.script then
      let entered := { worker with
        running := worker.running.insert start.thread ⟨start.script, start.target, 0, .empty⟩ }
      match enter entered rest with
      | (worker, threads) => (worker, start.thread :: threads)
    else enter worker rest

/-- Starts threads, telling so when none ran before. -/
def start (worker : ScriptWorker α) (starts : List ThreadStart) :
    ScriptWorker α × List ThreadId × List (WorkerMessage α) :=
  match worker.enter starts with
  | (entered, threads) =>
    (entered, threads,
      if worker.running.isEmpty && !threads.isEmpty then [.status .scriptRunning] else [])

/-- Forgets every thread. -/
def halt (worker : ScriptWorker α) : Sent α :=
  ({ worker with running := .empty, pending := .empty },
    if worker.running.isEmpty then [] else [.status .scriptFinished])

/-- Forgets some threads. -/
def stopThreads (worker : ScriptWorker α) (threads : List ThreadId) : Sent α :=
  let stopped := { worker with
    running := worker.running.filter fun thread _ => thread ∉ threads
    pending := worker.pending.retain (· ∉ threads) }
  (stopped, if worker.running.isEmpty then [] else stopped.idleNotice)

/-- Takes the answer to a call: assigns it if the statement says so and moves the
thread on. An answer to a call that is not pending has no effect. -/
def resume (worker : ScriptWorker α) (now : Nat) (token : Token) (value : Value α) : Sent α :=
  match worker.pending.resolve token with
  | (none, _) => (worker, [])
  | (some thread, pending) =>
    let resolved := { worker with pending := pending }
    match resolved.running.find? thread with
    | none => (resolved, [])
    | some running =>
      let assign := ((worker.scripts.find? running.script).bind
        fun script => script.body[running.position]?).bind Statement.assign
      let memory := match assign with
        | some name => running.memory.insert name value
        | none => running.memory
      let moved := { running with position := running.position + 1, memory := memory }
      { resolved with running := resolved.running.insert thread moved }.advance now thread

/-- Takes the failure of a call, which ends the thread that made it. -/
def refuse (worker : ScriptWorker α) (token : Token) (message : String) : Sent α :=
  match worker.pending.resolve token with
  | (none, _) => (worker, [])
  | (some thread, pending) => { worker with pending := pending }.fail thread message

/-- Replaces all scripts and forgets every thread. -/
def replaceScripts (worker : ScriptWorker α) (scripts : List (Script α)) : Sent α :=
  match worker.halt with
  | (stopped, sent) =>
    ({ stopped with scripts := OrderedMap.ofList (scripts.map fun script => (script.id, script)) },
      sent)

/-- Adds scripts, replacing those of the same name. -/
def addScripts (worker : ScriptWorker α) (scripts : List (Script α)) : ScriptWorker α :=
  { worker with
    scripts := worker.scripts.insertAll (scripts.map fun script => (script.id, script)) }

variable [Scalar α]

/-- Replaces all scripts by those of a unit and forgets every thread. A unit that
cannot be read changes nothing. -/
def register (worker : ScriptWorker α) (token : Token) (source : String) : Sent α :=
  match ScriptUnit.parse source with
  | .ok scripts =>
    match worker.replaceScripts scripts with
    | (loaded, sent) => (loaded, .status .scriptLoading :: sent ++ [.registered token none])
  | .error fault =>
    (worker, [.status .scriptLoading, .scriptError none fault.message,
      .registered token (some fault.message)])

/-- Adds the scripts of a unit and starts threads on them. -/
def runAsync (worker : ScriptWorker α) (now : Nat) (source : String)
    (starts : List ThreadStart) : Sent α :=
  match ScriptUnit.parse source with
  | .ok scripts =>
    match (worker.addScripts scripts).start starts with
    | (started, threads, notice) =>
      match started.advanceAll now threads with
      | (worker, sent) => (worker, .status .scriptLoading :: notice ++ sent)
  | .error fault => (worker, [.scriptError none fault.message])

/-- Starts the threads of a hat and says which were started before their first
calls. -/
def startHats (worker : ScriptWorker α) (now : Nat) (token : Token)
    (starts : List ThreadStart) : Sent α :=
  match worker.start starts with
  | (started, threads, notice) =>
    match started.advanceAll now threads with
    | (worker, sent) => (worker, notice ++ .started token threads :: sent)

/-- Takes one message of the host. -/
def handle (worker : ScriptWorker α) (now : Nat) : HostMessage α → Sent α
  | .connected => (worker, [])
  | .prepare _ => (worker, [.status .environmentLoading, .status .environmentLoaded])
  | .register token unit => worker.register token unit.source
  | .runAsync source starts => worker.runAsync now source starts
  | .result token value => worker.resume now token value
  | .failure token message => worker.refuse token message
  | .startHats token _ _ starts => worker.startHats now token starts
  | .stopThreads threads => worker.stopThreads threads
  | .stopAll => worker.halt

/-- Ends the threads of calls that expired, one after another. -/
def failAll (timeout : Nat) : ScriptWorker α → List (Token × ThreadId) → Sent α
  | worker, [] => (worker, [])
  | worker, (token, thread) :: rest =>
    match worker.fail thread
        ("block " ++ token.text ++ " timed out after " ++ toString timeout ++ "ms") with
    | (worker, sent) =>
      match failAll timeout worker rest with
      | (worker, others) => (worker, sent ++ others)

/-- Gives up the calls whose deadline has come and ends their threads. -/
def poll (worker : ScriptWorker α) (now : Nat) : Sent α :=
  match worker.pending.expire now with
  | (expired, pending) =>
    failAll (worker.blockTimeout.getD 0) { worker with pending := pending } expired

end ScriptWorker

end SpriteMachine
