import SpriteMachine.Proofs.Link.Drift
import SpriteMachine.Proofs.Worker.Treatment

/-!
# One thread on a link

What a link holds about one thread is a lane: the worker's seat for the thread, what is on
its way to the host about it, and how often it is still to be started. A thread is to be
started at most once, and before that there is no word of it. Once it has ended or failed
the worker has no seat for it, and nothing more is said.
-/

namespace SpriteMachine

open ScriptWorker

variable {α : Type}

/-- The threads that a message asks to start. -/
def HostMessage.launches : HostMessage α → List ThreadStart
  | .runAsync _ starts => starts
  | .startHats _ _ _ starts => starts
  | _ => []

/-- The source of the unit that a message brings. -/
def HostMessage.source? : HostMessage α → Option String
  | .register _ unit => some unit.source
  | .runAsync source _ => some source
  | _ => none

namespace Stimulus

/-- The messages that make a stimulus. -/
def messages : Stimulus α → List (HostMessage α)
  | .message sent => [sent]
  | .look => []

variable [Scalar α] {stimulus : Stimulus α}

/-- A stimulus starts no thread but those that its message asks to start. -/
theorem starts_launched :
    stimulus.starts.Sublist (stimulus.messages.flatMap HostMessage.launches) := by
  cases stimulus with
  | look => exact List.nil_sublist _
  | message message =>
    cases message with
    | runAsync source starts =>
      cases read : (ScriptUnit.parse source : Except SyntaxFault (List (Script α))) with
      | ok scripts =>
        rw [starts_read read]
        simp [messages, HostMessage.launches]
      | error fault =>
        rw [starts_unread read]
        exact List.nil_sublist _
    | startHats token hat option starts => simp [Stimulus.starts, messages, HostMessage.launches]
    | _ => exact List.nil_sublist _

/-- The scripts that a stimulus adds stand in the unit that its message brings. -/
theorem mem_added {script : Script α} (member : script ∈ stimulus.added) :
    ∃ message ∈ stimulus.messages, ∃ source ∈ message.source?, ∃ scripts,
      ScriptUnit.parse source = .ok scripts ∧ script ∈ scripts := by
  cases stimulus with
  | look => cases member
  | message message =>
    cases message with
    | runAsync source starts =>
      cases read : (ScriptUnit.parse source : Except SyntaxFault (List (Script α))) with
      | ok scripts =>
        rw [added_read read] at member
        exact ⟨_, List.mem_singleton_self _, source, rfl, scripts, read, member⟩
      | error fault =>
        rw [added_unread read] at member
        cases member
    | _ => cases member

end Stimulus

/-- The lane of a thread: its seat, what is on its way to the host about it, and how often
it is still to be started. -/
inductive Lane (thread : ThreadId) : Seat α → List (WorkerMessage α) → Nat → Prop where
  | awaited : Lane thread .vacant [] 1
  | going {seat : Seat α} {told : List (WorkerMessage α)} (settled : seat.Settled)
      (goes : ∀ message ∈ told, ¬ IsLast thread message) : Lane thread seat told 0
  | gone {told : List (WorkerMessage α)} {message : WorkerMessage α}
      (went : ∀ message ∈ told, ¬ IsLast thread message) (last : IsLast thread message) :
      Lane thread .vacant (told ++ [message]) 0

namespace Lane

variable {thread : ThreadId} {seat : Seat α} {told : List (WorkerMessage α)} {count : Nat}

/-- Nobody has heard of a thread. -/
theorem unknown (thread : ThreadId) : Lane thread (.vacant : Seat α) [] 0 :=
  .going Seat.settled_vacant fun _ none => (List.not_mem_nil none).elim

/-- The seat of a thread in its lane is settled. -/
theorem settled (lane : Lane thread seat told count) : seat.Settled := by
  cases lane with
  | awaited => exact Seat.settled_vacant
  | going settled => exact settled
  | gone => exact Seat.settled_vacant

/-- A thread in its lane is to be started once at most. -/
theorem once (lane : Lane thread seat told count) : count ≤ 1 := by
  cases lane <;> decide

/-- A thread that is still to be started has no seat. -/
theorem vacant_of_pos (lane : Lane thread seat told count) (pending : 0 < count) :
    seat = .vacant := by
  cases lane with
  | awaited => rfl
  | going => cases pending
  | gone => cases pending

/-- The host hears the first message about a thread. If it is the last one, that was all. -/
theorem heard {message : WorkerMessage α} (lane : Lane thread seat (message :: told) count) :
    Lane thread seat told count ∧
      (IsLast thread message → seat = .vacant ∧ told = [] ∧ count = 0) := by
  generalize heardOf : message :: told = all at lane
  cases lane with
  | awaited => cases heardOf
  | going settled goes =>
    subst heardOf
    refine ⟨.going settled fun other later => goes other (List.mem_cons_of_mem _ later),
      fun last => absurd last (goes message List.mem_cons_self)⟩
  | @gone before final went last =>
    cases before with
    | nil =>
      obtain ⟨rfl, rfl⟩ := List.cons.inj heardOf
      exact ⟨unknown thread, fun _ => ⟨rfl, rfl, rfl⟩⟩
    | cons first rest =>
      obtain ⟨rfl, rfl⟩ := List.cons.inj heardOf
      exact ⟨.gone (fun other later => went other (List.mem_cons_of_mem _ later)) last,
        fun final => absurd final (went message List.mem_cons_self)⟩

/-- A thread that goes on, and arrives somewhere. -/
theorem arrived {later : Seat α} {more : List (WorkerMessage α)}
    (goes : ∀ message ∈ told, ¬ IsLast thread message) (arrived : Arrived thread later more) :
    Lane thread later (told ++ more) 0 := by
  cases arrived with
  | called running token deadline target opcode args =>
    refine .going (Or.inr ⟨_, _, _, rfl⟩) fun message member => ?_
    rcases List.mem_append.mp member with before | new
    · exact goes message before
    · rw [List.mem_singleton.mp new]
      rintro (ended | ⟨reason, failed⟩)
      · cases ended
      · cases failed
  | closed last => exact .gone goes last

variable [Scalar α] {worker : ScriptWorker α} {stimulus : Stimulus α} {now later : Nat}

/-- What a stimulus does to a lane. A start that it takes for the thread is one less to
come. -/
theorem react (numbered : worker.Numbered) (admits : worker.Admits stimulus)
    (lane : Lane thread (worker.seat thread) told (count + later))
    (taken : thread ∈ (worker.entered stimulus).map ThreadStart.thread → 0 < count) :
    Lane thread ((worker.react now stimulus).1.seat thread)
      (told ++ about thread (worker.react now stimulus).2) later := by
  have treats := react_treats now thread numbered lane.settled admits
  have outcomes := treats.outcomes
  simp only [Prod.mk.injEq] at outcomes
  have idle : worker.seat thread = .vacant →
      thread ∉ (worker.entered stimulus).map ThreadStart.thread →
        (worker.react now stimulus).1.seat thread = .vacant ∧
          about thread (worker.react now stimulus).2 = [] := by
    intro vacant absent
    have calls : (worker.seat thread).calls.head? = none := by rw [vacant]; rfl
    rw [calls, cause_none absent] at treats
    exact ⟨(congrArg Prod.fst treats).trans vacant, congrArg Prod.snd treats⟩
  generalize total : count + later = sum at lane
  generalize seated : worker.seat thread = before at lane idle outcomes
  cases lane with
  | awaited =>
    cases count with
    | zero =>
      obtain ⟨vacant, silent⟩ := idle rfl fun member => absurd (taken member) (by decide)
      rw [vacant, silent, show later = 1 by omega]
      exact .awaited
    | succ more =>
      obtain rfl : later = 0 := by omega
      rcases outcomes with ⟨kept, silent⟩ | ⟨vacant, silent⟩ | arrives
      · rw [kept, silent]
        exact unknown thread
      · rw [vacant, silent]
        exact unknown thread
      · exact arrived (fun _ none => (List.not_mem_nil none).elim) arrives
  | going settled goes =>
    obtain rfl : later = 0 := by omega
    rcases outcomes with ⟨kept, silent⟩ | ⟨vacant, silent⟩ | arrives
    · rw [kept, silent, List.append_nil]
      exact .going settled goes
    · rw [vacant, silent, List.append_nil]
      exact .going Seat.settled_vacant goes
    · exact arrived goes arrives
  | gone went last =>
    obtain rfl : later = 0 := by omega
    obtain ⟨vacant, silent⟩ := idle rfl fun member => absurd (taken member) (by omega)
    rw [vacant, silent, List.append_nil]
    exact .gone went last

end Lane

end SpriteMachine
