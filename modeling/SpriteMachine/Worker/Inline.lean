import SpriteMachine.Worker.ScriptWorker
import SpriteMachine.Worker.Transport

/-!
# The worker on the host's own thread

The inline transport runs the script worker whenever the host sends something,
and lets it look at its deadlines when the host asks for a message and none is
left. Waiting is the same as asking, since nothing can arrive while the host
waits; the wall clock stands still meanwhile.

A poll sends at most two messages for each call it gives up, which bounds what
the transport can deliver without the host sending again.
-/

namespace SpriteMachine

/-- A script worker, the messages it has sent and the wall clock. -/
structure Inline (α : Type) where
  worker : ScriptWorker α
  outbox : List (WorkerMessage α)
  moment : Nat

namespace Inline

variable {α : Type}

/-- An inline worker without scripts. -/
def idle (blockTimeout : Option Nat) : Inline α := ⟨.idle blockTimeout, [], 0⟩

/-- Lets the worker look at its deadlines when no message is left. -/
def refill (state : Inline α) : Inline α :=
  if state.outbox.isEmpty then
    match state.worker.poll state.moment with
    | (worker, sent) => { state with worker := worker, outbox := sent }
  else state

/-- Takes the next message. -/
def receive (state : Inline α) : Receipt α × Inline α :=
  let filled := state.refill
  match filled.outbox with
  | [] => (.nothing, filled)
  | message :: rest => (.message message, { filled with outbox := rest })

/-- A bound on the messages the transport can deliver. -/
def waiting (state : Inline α) : Nat := state.outbox.length + 2 * state.worker.pending.size

/-- An idle worker sends one notice at most. -/
theorem length_idleNotice (worker : ScriptWorker α) : worker.idleNotice.length ≤ 1 := by
  unfold ScriptWorker.idleNotice
  split <;> simp

/-- Entries that are kept are no more than there were. -/
theorem size_filter {κ β : Type} (map : OrderedMap κ β) (keep : κ → β → Bool) :
    (map.filter keep).size ≤ map.size :=
  List.length_filter_le _ _

/-- Failing threads leaves no more calls pending and sends at most two messages for
each. -/
theorem failAll_bound (timeout : Nat) (expired : List (Token × ThreadId))
    (worker : ScriptWorker α) :
    (ScriptWorker.failAll timeout worker expired).1.pending.size ≤ worker.pending.size ∧
      (ScriptWorker.failAll timeout worker expired).2.length ≤ 2 * expired.length := by
  induction expired generalizing worker with
  | nil => simp [ScriptWorker.failAll]
  | cons first rest inductionHypothesis =>
    obtain ⟨token, thread⟩ := first
    simp only [ScriptWorker.failAll, ScriptWorker.fail, List.length_append, List.length_cons]
    generalize stopped : ({ worker with
      running := worker.running.erase thread
      pending := worker.pending.retain (· ≠ thread) } : ScriptWorker α) = next
    have sizes : next.pending.size ≤ worker.pending.size := by
      rw [← stopped]
      exact size_filter _ _
    have notice := length_idleNotice next
    have later := inductionHypothesis next
    omega

/-- Every item passes a test or fails it. -/
theorem length_filter_both {β : Type} (items : List β) (test : β → Bool) :
    (items.filter test).length + (items.filter (!test ·)).length = items.length := by
  induction items with
  | nil => rfl
  | cons first rest inductionHypothesis =>
    cases passed : test first <;> simp [passed] <;> omega

/-- The calls that expire and those that stay pending are all calls there were. -/
theorem expire_count {β : Type} (pending : PendingTokens β) (now : Nat) :
    (pending.expire now).1.length + (pending.expire now).2.size = pending.size := by
  simp only [PendingTokens.expire, PendingTokens.size, OrderedMap.filter, OrderedMap.size,
    List.length_map]
  exact length_filter_both _ _

/-- A look at the deadlines makes no more messages wait than calls were waiting. -/
theorem refill_waiting (state : Inline α) : state.refill.waiting ≤ state.waiting := by
  unfold refill
  split
  case isTrue =>
    have bound := failAll_bound (state.worker.blockTimeout.getD 0)
      (state.worker.pending.expire state.moment).1
      { state.worker with pending := (state.worker.pending.expire state.moment).2 }
    have count := expire_count state.worker.pending state.moment
    simp only [waiting, ScriptWorker.poll] at *
    omega
  case isFalse => exact Nat.le_refl _

/-- With every message that is received less is waiting. -/
theorem receive_waiting {state later : Inline α} {message : WorkerMessage α}
    (received : state.receive = (.message message, later)) : later.waiting < state.waiting := by
  have bound := refill_waiting state
  unfold receive at received
  generalize state.refill = filled at received bound
  cases kept : filled.outbox with
  | nil => simp [kept] at received
  | cons first rest =>
    simp only [kept, Prod.mk.injEq] at received
    rw [← received.2]
    simp only [waiting, kept, List.length_cons] at bound ⊢
    omega

variable [Scalar α]

/-- Hands a message to the worker. -/
def send (message : HostMessage α) (state : Inline α) : Inline α :=
  match state.worker.handle state.moment message with
  | (worker, sent) => { state with worker := worker, outbox := state.outbox ++ sent }

instance : Transport (Inline α) α where
  send message state := (true, state.send message)
  receive := receive
  await _ := receive
  moment := Inline.moment
  waiting := waiting
  receive_lowers := receive_waiting
  await_lowers := receive_waiting

end Inline

end SpriteMachine
