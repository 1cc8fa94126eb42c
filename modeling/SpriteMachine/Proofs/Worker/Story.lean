import SpriteMachine.Proofs.Worker.Treatment

/-!
# Threads as sequential programs

A run is a sequence of stimuli, each at a moment of its own. The story of a thread is
what an observer of the run writes down about it: every exchange that has a cause for
the thread or in which something is said about it. The observer knows the worker only
by its messages and by the scripts it has loaded.

`Sequential` is the reference: the stories of a program that calls the blocks of one
script in order, each with the values returned so far, and waits for every answer. The
main result is that a worker tells no other stories, whatever else it runs.
-/

namespace SpriteMachine

variable {α : Type}

/-- One exchange of a run: the worker that meets a stimulus, the moment, and what is
sent. -/
structure Exchange (α : Type) where
  before : ScriptWorker α
  moment : Nat
  stimulus : Stimulus α
  sent : List (WorkerMessage α)

/-- What an exchange means for one thread: its cause, the scripts that are loaded then,
and what is said about the thread. -/
structure Chapter (α : Type) where
  cause : Option (Cause α)
  scripts : OrderedMap ScriptId (Script α)
  said : List (WorkerMessage α)

namespace Chapter

/-- The call that a message makes, with the deadline for its answer. -/
def callIn (deadline : Option Nat) : WorkerMessage α → Option (Token × Option Nat)
  | .call _ _ _ _ token => some (token, deadline)
  | _ => none

/-- The call that a thread waits for behind a chapter: the one it made last, or the
earlier one when it said nothing and was not stopped. -/
def waits (chapter : Chapter α) (deadline : Option Nat)
    (earlier : Option (Token × Option Nat)) : Option (Token × Option Nat) :=
  match chapter.said.getLast?, chapter.cause with
  | some message, _ => callIn deadline message
  | none, some .stopped => none
  | none, _ => earlier

end Chapter

section Reference

/-- The value of a variable: the one returned to the latest earlier statement that
assigns it. The statements that were answered stand latest first. -/
def recalled (past : List (Statement α × Value α)) (name : String) : Option (Value α) :=
  (past.find? fun entry => entry.1.assign = some name).map Prod.snd

/-- How far a thread has come: it was not started yet, it waits for the block of a
statement, or it is over. -/
inductive Standing (α : Type) where
  | unborn
  | waiting (target : TargetId) (past : List (Statement α × Value α)) (statement : Statement α)
      (rest : List (Statement α)) (token : Token)
  | done

/-- What a thread says when it reaches the rest of its script. -/
inductive Arrives (thread : ThreadId) (target : TargetId) (past : List (Statement α × Value α)) :
    List (Statement α) → List (WorkerMessage α) → Standing α → Prop where
  | finished : Arrives thread target past [] [.ended thread] .done
  | called (statement : Statement α) (rest : List (Statement α)) (args : Args α) (token : Token)
      (bound : statement.bind (recalled past) = .ok args) :
      Arrives thread target past (statement :: rest)
        [.call target thread statement.opcode args token]
        (.waiting target past statement rest token)
  | unbound (statement : Statement α) (rest : List (Statement α)) (name : String)
      (missing : statement.bind (recalled past) = .error name) :
      Arrives thread target past (statement :: rest)
        [.scriptError (some thread) (ScriptWorker.unknownVariable statement.line name)] .done

/-- The stories of a sequential program from a standing on. A story may break off
anywhere; behind an end or an error nothing follows. -/
inductive Sequential (timeout : Nat) (thread : ThreadId) :
    Standing α → List (Chapter α) → Prop where
  | silent (standing : Standing α) : Sequential timeout thread standing []
  | entered (start : ThreadStart) (scripts : OrderedMap ScriptId (Script α)) (script : Script α)
      (said : List (WorkerMessage α)) (next : Standing α) (later : List (Chapter α))
      (loaded : scripts.find? start.script = some script)
      (arrives : Arrives thread start.target [] script.body said next)
      (onward : Sequential timeout thread next later) :
      Sequential timeout thread .unborn (⟨some (.entered start), scripts, said⟩ :: later)
  | answered (target : TargetId) (past : List (Statement α × Value α)) (statement : Statement α)
      (rest : List (Statement α)) (token : Token) (value : Value α)
      (scripts : OrderedMap ScriptId (Script α)) (said : List (WorkerMessage α))
      (next : Standing α) (later : List (Chapter α))
      (arrives : Arrives thread target ((statement, value) :: past) rest said next)
      (onward : Sequential timeout thread next later) :
      Sequential timeout thread (.waiting target past statement rest token)
        (⟨some (.answered value), scripts, said⟩ :: later)
  | refused (target : TargetId) (past : List (Statement α × Value α)) (statement : Statement α)
      (rest : List (Statement α)) (token : Token) (reason : String)
      (scripts : OrderedMap ScriptId (Script α)) :
      Sequential timeout thread (.waiting target past statement rest token)
        [⟨some (.refused reason), scripts, [.scriptError (some thread) reason]⟩]
  | expired (target : TargetId) (past : List (Statement α × Value α)) (statement : Statement α)
      (rest : List (Statement α)) (token : Token) (scripts : OrderedMap ScriptId (Script α)) :
      Sequential timeout thread (.waiting target past statement rest token)
        [⟨some (.expired token), scripts,
          [.scriptError (some thread) (ScriptWorker.expiry timeout token)]⟩]
  | stopped (target : TargetId) (past : List (Statement α × Value α)) (statement : Statement α)
      (rest : List (Statement α)) (token : Token) (scripts : OrderedMap ScriptId (Script α)) :
      Sequential timeout thread (.waiting target past statement rest token)
        [⟨some .stopped, scripts, []⟩]

end Reference

section Observation

variable [Scalar α]

/-- The exchanges of a run. -/
def exchanges (worker : ScriptWorker α) : List (Nat × Stimulus α) → List (Exchange α)
  | [] => []
  | (moment, stimulus) :: rest =>
    ⟨worker, moment, stimulus, (worker.react moment stimulus).2⟩ ::
      exchanges (worker.react moment stimulus).1 rest

/-- The starts of an exchange whose scripts are loaded. -/
def Exchange.entered (exchange : Exchange α) : List ThreadStart :=
  exchange.before.entered exchange.stimulus

/-- The threads that are started in exchanges, in order. -/
def startedThreads (run : List (Exchange α)) : List ThreadId :=
  (run.flatMap Exchange.entered).map ThreadStart.thread

/-- No script that is loaded is added again. -/
def KeepsScripts (run : List (Exchange α)) : Prop :=
  ∀ exchange ∈ run, ∀ script ∈ exchange.stimulus.added,
    exchange.before.scripts.contains script.id = false

/-- What an exchange means for a thread that waits for a call or for none. -/
def Exchange.chapter (exchange : Exchange α) (thread : ThreadId)
    (waits : Option (Token × Option Nat)) : Chapter α :=
  ⟨exchange.stimulus.cause exchange.moment thread exchange.entered waits,
    (exchange.before.prepared exchange.stimulus).scripts, about thread exchange.sent⟩

/-- The story of a thread: the chapters that have a cause or in which something is said,
when the observer last saw the thread wait for a call or for none. -/
def story (timeout : Option Nat) (thread : ThreadId) :
    Option (Token × Option Nat) → List (Exchange α) → List (Chapter α)
  | _, [] => []
  | waits, exchange :: rest =>
    let chapter := exchange.chapter thread waits
    let later := story timeout thread
      (chapter.waits (timeout.map (exchange.moment + ·)) waits) rest
    match chapter.cause, chapter.said with
    | none, [] => later
    | _, _ => chapter :: later

section

variable {timeout : Option Nat} {thread : ThreadId} {waits : Option (Token × Option Nat)}
  {exchange : Exchange α} {rest : List (Exchange α)}

/-- An exchange without a cause in which nothing is said is left out. -/
theorem story_idle (idle : (exchange.chapter thread waits).cause = none)
    (silent : (exchange.chapter thread waits).said = []) :
    story timeout thread waits (exchange :: rest) =
      story timeout thread ((exchange.chapter thread waits).waits
        (timeout.map (exchange.moment + ·)) waits) rest := by
  simp only [story, idle, silent]

/-- An exchange with a cause is a chapter. -/
theorem story_caused {cause : Cause α}
    (caused : (exchange.chapter thread waits).cause = some cause) :
    story timeout thread waits (exchange :: rest) =
      exchange.chapter thread waits ::
        story timeout thread ((exchange.chapter thread waits).waits
          (timeout.map (exchange.moment + ·)) waits) rest := by
  simp only [story, caused]

end

/-- A story leaves out nothing that is said about its thread. -/
theorem said_story (timeout : Option Nat) (thread : ThreadId)
    (waits : Option (Token × Option Nat)) (run : List (Exchange α)) :
    (story timeout thread waits run).flatMap Chapter.said =
      about thread (run.flatMap Exchange.sent) := by
  induction run generalizing waits with
  | nil => rfl
  | cons exchange rest inductionHypothesis =>
    rw [List.flatMap_cons, about_append, story]
    split
    case h_1 cause said =>
      have silent : about thread exchange.sent = [] := said
      rw [inductionHypothesis, silent, List.nil_append]
    case h_2 =>
      rw [List.flatMap_cons, inductionHypothesis]
      rfl

end Observation

end SpriteMachine
