import SpriteMachine.Proofs.Device.Motors
import SpriteMachine.Proofs.Number.Order

/-!
# Faults stay behind the link

After a failed attempt the link is left alone until the pause is over. A failed attempt changes
neither what is remembered nor what a script is given back: the speeds that are remembered follow
from what is asked for alone, save that a global stop may leave one of the two zeros where it
writes the other.
-/

namespace SpriteMachine

open Relation (ReflTransGen)

/-- If the earlier of two entries failed, the later one is no attempt to connect within the pause
behind it. -/
def LinkEntry.Spaced {α : Type} (pause : Nat) (later earlier : LinkEntry α) : Prop :=
  earlier.succeeded = false → later.attempt = .connect → earlier.moment + pause ≤ later.moment

namespace Motors

variable {ℓ α : Type}

/-! ## The pause -/

/-- Journaled motors at a moment that keep their pause: behind every failed attempt it is over,
or the link is down and the next attempt waits until it is. -/
structure Paced (pause now : Nat) (motors : Motors (JournaledLink ℓ α) α) : Prop where
  backoff : motors.backoff = pause
  dated : motors.link.moment = now
  waits : ∀ entry ∈ motors.journal, entry.succeeded = false →
    entry.moment + pause ≤ now ∨
      motors.connected = false ∧
        ∃ moment, motors.retryAt = some moment ∧ entry.moment + pause ≤ moment
  spaced : motors.journal.Pairwise (LinkEntry.Spaced pause)

namespace Paced

variable {pause now : Nat} {motors : Motors (JournaledLink ℓ α) α}

/-- A link that is up has no pause to keep. -/
theorem passed_of_up (paced : Paced pause now motors) (up : motors.connected = true) :
    ∀ entry ∈ motors.journal, entry.succeeded = false → entry.moment + pause ≤ now := by
  intro entry recorded failed
  rcases paced.waits entry recorded failed with passed | ⟨down, _⟩
  · exact passed
  · rw [up] at down; cases down

/-- A link that may be connected has no pause to keep. -/
theorem passed_of_free (paced : Paced pause now motors)
    (free : motors.retryAt.any (now < ·) = false) :
    ∀ entry ∈ motors.journal, entry.succeeded = false → entry.moment + pause ≤ now := by
  intro entry recorded failed
  rcases paced.waits entry recorded failed with passed | ⟨_, moment, retry, before⟩
  · exact passed
  · rw [retry] at free
    simp only [Option.any_some, decide_eq_false_iff_not, Nat.not_lt] at free
    exact before.trans free

/-- An attempt can be entered when all pauses are over. If it fails, the link is down and waits. -/
theorem enter {after : Motors (JournaledLink ℓ α) α} {entry : LinkEntry α}
    (paced : Paced pause now motors)
    (passed : ∀ entry ∈ motors.journal, entry.succeeded = false →
      entry.moment + pause ≤ now)
    (entered : after.journal = entry :: motors.journal) (current : entry.moment = now)
    (dated : after.link.moment = motors.link.moment) (backoff : after.backoff = motors.backoff)
    (rests : entry.succeeded = false →
      after.connected = false ∧ after.retryAt = some (now + motors.backoff)) :
    Paced pause now after where
  backoff := backoff.trans paced.backoff
  dated := dated.trans paced.dated
  waits := by
    intro other recorded failed
    rw [entered, List.mem_cons] at recorded
    rcases recorded with rfl | before
    · obtain ⟨down, retry⟩ := rests failed
      exact .inr ⟨down, _, retry, by rw [current, paced.backoff]⟩
    · exact .inl (passed other before failed)
  spaced := by
    rw [entered, List.pairwise_cons]
    refine ⟨fun earlier before failed _ => ?_, paced.spaced⟩
    rw [current]
    exact passed earlier before failed

/-- Every move of the motors keeps the pause. -/
theorem move [MotorLink ℓ α] {asks : Fin 4 → α → Prop} {after : Motors (JournaledLink ℓ α) α}
    (paced : Paced pause now motors) (move : Move now asks motors after) :
    Paced pause now after := by
  have current := paced.dated
  cases move with
  | remembers => exact ⟨paced.backoff, current, paced.waits, paced.spaced⟩
  | releases up =>
    exact ⟨paced.backoff, current,
      fun entry recorded failed => .inl (paced.passed_of_up up entry recorded failed),
      paced.spaced⟩
  | connects down free taken =>
    obtain ⟨dated, entered⟩ := JournaledLink.enter_journal taken
    exact paced.enter (paced.passed_of_free free) entered current dated rfl nofun
  | refused down free refusal =>
    obtain ⟨dated, entered⟩ := JournaledLink.enter_journal refusal
    exact paced.enter (paced.passed_of_free free) entered current dated rfl
      fun _ => ⟨down, rfl⟩
  | writes asked up taken =>
    obtain ⟨dated, entered⟩ := JournaledLink.enter_journal taken
    exact paced.enter (paced.passed_of_up up) entered current dated rfl nofun
  | breaks asked up lost =>
    obtain ⟨dated, entered⟩ := JournaledLink.enter_journal lost
    exact paced.enter (paced.passed_of_up up) entered current dated rfl
      fun _ => ⟨rfl, rfl⟩

/-- A later moment finds the pause kept. -/
theorem later {next : Nat} (paced : Paced pause now motors) (onward : now ≤ next) :
    Paced pause next (motors.dated next) where
  backoff := paced.backoff
  dated := rfl
  waits := fun entry recorded failed =>
    (paced.waits entry recorded failed).imp_left fun passed => passed.trans onward
  spaced := paced.spaced

variable [Scalar α] [MotorLink ℓ α]

/-- Every event keeps the pause. -/
theorem record {next : Nat} (paced : Paced pause now motors) (onward : now ≤ next)
    (event : MotorEvent α) : Paced pause next (motors.record (next, event)) := by
  have kept {after : Motors (JournaledLink ℓ α) α}
      (moves : ReflTransGen (Move next event.Asks) (motors.dated next) after) :
      Paced pause next after := by
    induction moves with
    | refl => exact paced.later onward
    | tail _ move inductionHypothesis => exact inductionHypothesis.move move
  exact kept (follow_moves next (motors.dated next) event)

/-- Every history keeps the pause. -/
theorem recordAll {history : List (Nat × MotorEvent α)} (paced : Paced pause now motors)
    (onward : ∀ timed ∈ history, now ≤ timed.1)
    (ordered : history.Pairwise fun earlier later => earlier.1 ≤ later.1) :
    ∃ later, Paced pause later (motors.recordAll history) := by
  induction history generalizing now motors with
  | nil => exact ⟨now, paced⟩
  | cons timed history inductionHypothesis =>
    rw [List.pairwise_cons] at ordered
    exact inductionHypothesis (paced.record (onward timed List.mem_cons_self) timed.2)
      ordered.1 ordered.2

end Paced

/-! ## What scripts are given back -/

/-- Motors over two links that remember the same speeds, as far as a script can tell. -/
def Alike {ℓ' : Type} [Scalar α] (motors : Motors ℓ α) (others : Motors ℓ' α) : Prop :=
  ∀ socket : Fin 4, motors.remembered socket = others.remembered socket ∨
    Scalar.same (motors.remembered socket) Scalar.zero = true ∧
      Scalar.same (others.remembered socket) Scalar.zero = true

namespace Alike

variable {ℓ' : Type} [Scalar α] [MotorLink ℓ α] [MotorLink ℓ' α] {motors : Motors ℓ α}
  {others : Motors ℓ' α} (alike : Alike motors others) (now : Nat)
include alike

/-- A speed that is set leaves motors alike, whatever their links do with it. -/
theorem setSpeed (socket : Fin 4) (speed : α) :
    Alike (motors.setSpeed now socket speed) (others.setSpeed now socket speed) := by
  intro other
  rw [setSpeed_remembered, setSpeed_remembered]
  split
  case isTrue => exact .inl rfl
  case isFalse => exact alike other

/-- An event leaves motors alike, however their links behave. -/
theorem follow (zeroSame : Scalar.same (Scalar.zero : α) Scalar.zero = true)
    (event : MotorEvent α) : Alike (motors.follow now event) (others.follow now event) := by
  cases event with
  | stopAll =>
    exact fun socket =>
      .inr ⟨stopAll_still zeroSame now motors socket, stopAll_still zeroSame now others socket⟩
  | release =>
    intro socket
    simp only [Motors.follow, release_remembered]
    exact alike socket
  | block block args =>
    dsimp only [Motors.follow]
    cases named : socketOf args with
    | error fault =>
      rw [run_of_error named, run_of_error named]
      exact alike
    | ok socket =>
      rw [run_of_ok named, run_of_ok named]
      cases block with
      | setSpeed => exact alike.setSpeed now socket _
      | stop => exact alike.setSpeed now socket _
      | getSpeed => exact alike

/-- Alike motors give the same back. -/
theorem answer (zeroNumber : ∀ speed : α, Scalar.same speed Scalar.zero = true →
      Value.ofNumber speed = .int 0) (event : MotorEvent α) :
    motors.answer now event = others.answer now event := by
  cases event with
  | stopAll | release => rfl
  | block block args =>
    dsimp only [Motors.answer]
    cases named : socketOf args with
    | error fault => rw [run_of_error named, run_of_error named]
    | ok socket =>
      rw [run_of_ok named, run_of_ok named]
      cases block with
      | setSpeed | stop => rfl
      | getSpeed =>
        have same : Value.ofNumber (motors.remembered socket) =
            Value.ofNumber (others.remembered socket) := by
          rcases alike socket with same | ⟨still, otherStill⟩
          · rw [same]
          · rw [zeroNumber _ still, zeroNumber _ otherStill]
        exact congrArg (fun value => some (Except.ok value)) same

/-- Alike motors give the same back all along a history. -/
theorem answers (zeroSame : Scalar.same (Scalar.zero : α) Scalar.zero = true)
    (zeroNumber : ∀ speed : α, Scalar.same speed Scalar.zero = true →
      Value.ofNumber speed = .int 0) (history : List (Nat × MotorEvent α)) :
    motors.answers history = others.answers history := by
  induction history generalizing motors others with
  | nil => rfl
  | cons timed history inductionHypothesis =>
    obtain ⟨now, event⟩ := timed
    rw [Motors.answers, Motors.answers, alike.answer now zeroNumber event,
      inductionHypothesis (alike.follow now zeroSame event)]

end Alike

/-- Faults of the link are contained. Whatever blocks, global stops and ends of the runtime reach
motors at rest, at moments that never go back, and however their link behaves: no attempt to
connect is made within the pause behind a failed attempt, as a journal of the attempts shows that
leaves the motors as they are, and scripts are given back the same as over any other link, one
that never fails among them. -/
theorem link_faults_are_contained {ℓ ℓ' : Type} [MotorLink ℓ Float] [MotorLink ℓ' Float]
    (link : ℓ) (other : ℓ') (pause : Nat) {history : List (Nat × MotorEvent Float)}
    (ordered : history.Pairwise fun earlier later => earlier.1 ≤ later.1) :
    let motors : Motors ℓ Float := atRest link pause
    let others : Motors ℓ' Float := atRest other pause
    (motors.journaled.recordAll history).journal.Pairwise (LinkEntry.Spaced pause) ∧
      (motors.journaled.recordAll history).plain = motors.followAll history ∧
      motors.answers history = others.answers history := by
  intro motors others
  have idle : Paced pause 0 motors.journaled := ⟨rfl, rfl, List.forall_mem_nil _, .nil⟩
  obtain ⟨_, paced⟩ := idle.recordAll (fun _ _ => Nat.zero_le _) ordered
  have alike : Alike motors others := fun _ => .inl rfl
  exact ⟨paced.spaced, plain_recordAll motors.journaled history,
    alike.answers rfl (fun _ => BinaryFloat.ofNumber_of_same) history⟩

/-- A write breaks, and the link is asked for again when the pause is over. -/
def brokenWrite : List (Nat × MotorEvent Float) :=
  [(0, .request .setSpeed 1 50), (10, .request .setSpeed 1 30), (20, .stopAll),
    (5000, .request .setSpeed 2 20), (5000, .request .getSpeed 1 0)]

/-- The broken write is attempted once, the next attempt comes when the pause is over, and the
answers are those of a link without faults. -/
theorem brokenWrite_contained :
    let motors : Motors FickleLink Float := atRest ⟨[true, false, true, true]⟩ 5000
    let others : Motors (LoopbackLink Float) Float := atRest .reliable 5000
    (motors.journaled.recordAll brokenWrite).journal.map (fun entry =>
        (entry.moment, entry.succeeded)) = [(5000, true), (5000, true), (0, false), (0, true)] ∧
      (brokenWrite.Pairwise fun earlier later => earlier.1 ≤ later.1) ∧
      (motors.journaled.recordAll brokenWrite).journal.Pairwise (LinkEntry.Spaced 5000) ∧
      motors.answers brokenWrite = others.answers brokenWrite := by
  intro motors others
  have ordered : brokenWrite.Pairwise fun earlier later => earlier.1 ≤ later.1 := by decide
  have contained := link_faults_are_contained (⟨[true, false, true, true]⟩ : FickleLink)
    (.reliable : LoopbackLink Float) 5000 ordered
  exact ⟨by decide +kernel, ordered, contained.1, contained.2.2⟩

end Motors

end SpriteMachine
