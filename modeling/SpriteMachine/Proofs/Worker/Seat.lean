import SpriteMachine.Proofs.Identifier
import SpriteMachine.Proofs.OrderedMap
import SpriteMachine.Worker.ScriptWorker

/-!
# What a worker knows of one thread

The seat of a thread is everything a worker keeps about it: its place in a script,
if it runs, and the calls that wait on its behalf. A worker's step touches the seats
of a few threads and spares all others; it neither moves them nor says anything
about them. New calls carry tokens that were never issued before.
-/

namespace SpriteMachine

variable {α : Type}

/-- The thread that a message tells about: one whose block is called, whose script
ended, or whose script failed. -/
def WorkerMessage.thread? : WorkerMessage α → Option ThreadId
  | .call _ thread .. => some thread
  | .ended thread => some thread
  | .scriptError thread _ => thread
  | _ => none

/-- The messages that tell about a thread, in order. -/
def about (thread : ThreadId) (messages : List (WorkerMessage α)) : List (WorkerMessage α) :=
  messages.filter fun message => message.thread? = some thread

/-- No message says nothing about a thread. -/
@[simp]
theorem about_nil (thread : ThreadId) : about thread ([] : List (WorkerMessage α)) = [] := rfl

/-- What is said about a thread is said in the order of the messages. -/
@[simp]
theorem about_append (thread : ThreadId) (first second : List (WorkerMessage α)) :
    about thread (first ++ second) = about thread first ++ about thread second :=
  List.filter_append _ _

/-- A message about nobody or about somebody else is left out. -/
theorem about_cons_of_ne {thread : ThreadId} {message : WorkerMessage α}
    (other : message.thread? ≠ some thread) (rest : List (WorkerMessage α)) :
    about thread (message :: rest) = about thread rest :=
  List.filter_cons_of_neg (by simpa using other)

/-- A message about a thread comes first in what is said about it. -/
theorem about_cons_of_eq {thread : ThreadId} {message : WorkerMessage α}
    (same : message.thread? = some thread) (rest : List (WorkerMessage α)) :
    about thread (message :: rest) = message :: about thread rest :=
  List.filter_cons_of_pos (by simpa using same)

/-- What is about a thread is exactly what was sent and names it. -/
theorem mem_about {thread : ThreadId} {message : WorkerMessage α}
    {messages : List (WorkerMessage α)} :
    message ∈ about thread messages ↔ message ∈ messages ∧ message.thread? = some thread := by
  simp [about]

/-- The seat of a thread: its place, if it runs, and the calls that wait on its behalf
with their deadlines. -/
structure Seat (α : Type) where
  place : Option (RunningThread α)
  calls : List (Token × Option Nat)

namespace Seat

/-- The seat of a thread that does not run and waits for nothing. -/
def vacant : Seat α := ⟨none, []⟩

/-- A seat between two messages: vacant, or of a thread that waits for one call. -/
def Settled (seat : Seat α) : Prop :=
  seat = vacant ∨ ∃ running token deadline, seat = ⟨some running, [(token, deadline)]⟩

/-- A vacant seat is settled. -/
theorem settled_vacant : (vacant : Seat α).Settled := Or.inl rfl

end Seat

namespace PendingTokens

/-- The calls that wait on behalf of a thread, with their deadlines. -/
def callsFor (pending : PendingTokens ThreadId) (thread : ThreadId) :
    List (Token × Option Nat) :=
  (pending.table.entries.filter fun entry => entry.2.continuation = thread).map
    fun entry => (entry.1, entry.2.deadline)

variable {pending later : PendingTokens ThreadId} {thread owner : ThreadId} {token : Token}
  {deadline : Option Nat}

/-- A call waits on behalf of a thread when it is pending for it. -/
theorem mem_callsFor : (token, deadline) ∈ pending.callsFor thread ↔
    pending.table.find? token = some ⟨thread, deadline⟩ := by
  rw [← OrderedMap.mem_entries_iff, callsFor, List.mem_map]
  constructor
  · rintro ⟨⟨found, awaited⟩, member, same⟩
    obtain ⟨inside, continuation⟩ := List.mem_filter.mp member
    obtain ⟨rfl, rfl⟩ := Prod.mk.inj same
    have continues : awaited.continuation = thread := by simpa using continuation
    rw [← continues]
    exact inside
  · intro member
    exact ⟨_, List.mem_filter.mpr ⟨member, by simp⟩, rfl⟩

/-- Filtering the table filters the calls of every thread. -/
theorem callsFor_filter (keep : Token → Awaited ThreadId → Bool) :
    (⟨pending.table.filter keep⟩ : PendingTokens ThreadId).callsFor thread =
      (pending.callsFor thread).filter fun call => keep call.1 ⟨thread, call.2⟩ := by
  simp only [callsFor, OrderedMap.filter, List.filter_filter, List.filter_map]
  congr 1
  apply List.filter_congr
  intro entry _
  by_cases own : entry.2.continuation = thread
  · simp [← own]
  · simp [own]

/-- A registered call waits behind the others of its thread. -/
theorem callsFor_register (registered : pending.register? token owner deadline = some later)
    (thread : ThreadId) :
    later.callsFor thread =
      pending.callsFor thread ++ if owner = thread then [(token, deadline)] else [] := by
  unfold register? at registered
  split at registered
  case isTrue => cases registered
  case isFalse absent =>
    obtain rfl := Option.some.inj registered
    have new : pending.table.contains token = false := by simpa [contains] using absent
    simp only [callsFor, OrderedMap.insert, new, Bool.false_eq_true, ↓reduceDIte,
      List.filter_append, List.map_append]
    by_cases own : owner = thread <;> simp [own]

/-- Dropping the calls of some threads leaves the others theirs. -/
theorem callsFor_retain (keep : ThreadId → Bool) :
    (pending.retain keep).callsFor thread =
      if keep thread then pending.callsFor thread else [] := by
  rw [retain, callsFor_filter]
  cases kept : keep thread <;> simp [kept]

/-- Resolving a token takes it from the calls of its thread. -/
theorem callsFor_resolve :
    (pending.resolve token).2.callsFor thread =
      (pending.callsFor thread).filter fun call => call.1 ≠ token :=
  callsFor_filter _

end PendingTokens

namespace ScriptWorker

/-- The seat of a thread. -/
def seat (worker : ScriptWorker α) (thread : ThreadId) : Seat α :=
  ⟨worker.running.find? thread, worker.pending.callsFor thread⟩

/-- Every pending token was issued by the worker. -/
def Numbered (worker : ScriptWorker α) : Prop :=
  ∀ token awaited, worker.pending.table.find? token = some awaited →
    worker.tokens.HasIssued token

/-- A step of a worker that touches some threads: tokens stay issued, calls that were
not waiting before carry tokens that were not issued before, and all other threads
keep their seats and are not told about. -/
structure Moves (touched : ThreadId → Prop) (before : ScriptWorker α)
    (sent : List (WorkerMessage α)) (after : ScriptWorker α) : Prop where
  numbered : before.Numbered → after.Numbered
  issued : ∀ token, before.tokens.HasIssued token → after.tokens.HasIssued token
  calls : ∀ thread call, call ∈ (after.seat thread).calls →
    call ∈ (before.seat thread).calls ∨ ¬ before.tokens.HasIssued call.1
  spared : ∀ thread, ¬ touched thread →
    after.seat thread = before.seat thread ∧ about thread sent = []

namespace Moves

variable {touched other : ThreadId → Prop} {first second third : ScriptWorker α}
  {sent more : List (WorkerMessage α)}

/-- Nothing happens. -/
theorem still (worker : ScriptWorker α) : Moves touched worker [] worker :=
  ⟨id, fun _ issued => issued, fun _ _ member => Or.inl member, fun _ _ => ⟨rfl, rfl⟩⟩

/-- A step touches what its parts touch. -/
theorem trans (before : Moves touched first sent second) (after : Moves other second more third) :
    Moves (fun thread => touched thread ∨ other thread) first (sent ++ more) third where
  numbered := after.numbered ∘ before.numbered
  issued token issued := after.issued token (before.issued token issued)
  calls thread call member := by
    rcases after.calls thread call member with kept | fresh
    · exact before.calls thread call kept
    · exact Or.inr fun issued => fresh (before.issued _ issued)
  spared thread untouched := by
    obtain ⟨keptLater, silentLater⟩ := after.spared thread fun member => untouched (Or.inr member)
    obtain ⟨kept, silent⟩ := before.spared thread fun member => untouched (Or.inl member)
    exact ⟨keptLater.trans kept, by rw [about_append, silent, silentLater, List.append_nil]⟩

/-- A step may be said to touch more than it does. -/
theorem widen (step : Moves touched first sent second)
    (within : ∀ thread, touched thread → other thread) : Moves other first sent second :=
  ⟨step.numbered, step.issued, step.calls, fun thread untouched =>
    step.spared thread fun member => untouched (within thread member)⟩

/-- Other messages that say the same about every thread may stand for those of a
step. -/
theorem retell {told : List (WorkerMessage α)} (step : Moves touched first sent second)
    (same : ∀ thread, about thread told = about thread sent) : Moves touched first told second :=
  ⟨step.numbered, step.issued, step.calls, fun thread untouched => by
    rw [same thread]
    exact step.spared thread untouched⟩

/-- A thread outside of what a step touches keeps its seat and is not told about. -/
theorem outcome (step : Moves touched first sent second) {thread : ThreadId}
    (untouched : ¬ touched thread) :
    (second.seat thread, about thread sent) = (first.seat thread, []) := by
  obtain ⟨kept, silent⟩ := step.spared thread untouched
  exact Prod.ext kept silent

end Moves

end ScriptWorker

end SpriteMachine
