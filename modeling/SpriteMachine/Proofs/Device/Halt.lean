import Mathlib.Data.List.Infix
import SpriteMachine.Number.Binary
import SpriteMachine.Proofs.Device.Motors

/-!
# What a global stop reaches

A motor stands still when the last speed that reached it is zero. A global stop remembers zero for
every motor, whether or not the zero gets there. What is not asked for again is not sent again:
where an attempt fails, or the pause keeps the stop from attempting any, a motor may go on turning
behind it, and a later stop that finds the link down passes it by.
-/

namespace SpriteMachine

open Relation (ReflTransGen)

/-- An attempt that failed. -/
def LinkEntry.Failed {α : Type} (entry : LinkEntry α) : Prop := entry.succeeded = false

/-- A speed that reached a socket. -/
def LinkEntry.Reached {α : Type} (socket : Fin 4) (entry : LinkEntry α) : Prop :=
  ∃ speed, entry.delivered? socket.val = some speed

namespace Motors

variable {ℓ α : Type}

/-! ## What is entered meanwhile -/

/-- The journal of some motors is what was entered meanwhile, among it an entry of a kind, and the
journal of earlier ones. -/
def Noted (before after : Motors (JournaledLink ℓ α) α) (kind : LinkEntry α → Prop) : Prop :=
  ∃ meanwhile, meanwhile ++ before.journal = after.journal ∧ ∃ entry ∈ meanwhile, kind entry

namespace Noted

variable {before middle after : Motors (JournaledLink ℓ α) α} {kind : LinkEntry α → Prop}

/-- What is noted stays noted when more is entered later. -/
theorem left (noted : Noted before middle kind) (onward : middle.journal <:+ after.journal) :
    Noted before after kind := by
  obtain ⟨first, entered, entry, mem, fits⟩ := noted
  obtain ⟨second, enteredLater⟩ := onward
  refine ⟨second ++ first, ?_, entry, List.mem_append_right second mem, fits⟩
  rw [List.append_assoc, entered, enteredLater]

/-- What is noted is noted also since an earlier moment. -/
theorem right (noted : Noted middle after kind) (onward : before.journal <:+ middle.journal) :
    Noted before after kind := by
  obtain ⟨second, entered, entry, mem, fits⟩ := noted
  obtain ⟨first, enteredEarlier⟩ := onward
  refine ⟨second ++ first, ?_, entry, List.mem_append_left first mem, fits⟩
  rw [List.append_assoc, enteredEarlier, entered]

end Noted

/-- Later motors whose journal brings a socket only speeds of a kind since. -/
def Brings (socket : Fin 4) (kind : α → Prop) (before after : Motors (JournaledLink ℓ α) α) :
    Prop :=
  ∃ meanwhile, meanwhile ++ before.journal = after.journal ∧
    ∀ entry ∈ meanwhile, ∀ speed, entry.delivered? socket.val = some speed → kind speed

namespace Brings

variable {socket : Fin 4} {kind : α → Prop} {before middle after : Motors (JournaledLink ℓ α) α}

/-- Motors that are left alone bring nothing. -/
theorem refl (motors : Motors (JournaledLink ℓ α) α) : Brings socket kind motors motors :=
  ⟨[], rfl, List.forall_mem_nil _⟩

/-- What is brought in two stretches is brought in one. -/
theorem trans (first : Brings socket kind before middle)
    (second : Brings socket kind middle after) : Brings socket kind before after := by
  obtain ⟨earlier, entered, fits⟩ := first
  obtain ⟨later, enteredLater, fitsLater⟩ := second
  refine ⟨later ++ earlier, by rw [List.append_assoc, entered, enteredLater], ?_⟩
  intro entry mem
  rcases List.mem_append.mp mem with inLater | inEarlier
  · exact fitsLater entry inLater
  · exact fits entry inEarlier

/-- What was entered before stays entered. -/
theorem suffix (brings : Brings socket kind before after) : before.journal <:+ after.journal := by
  obtain ⟨meanwhile, entered, _⟩ := brings
  exact ⟨meanwhile, entered⟩

/-- An attempt that brings the socket no speed of another kind. -/
theorem enter {entry : LinkEntry α} (entered : after.journal = entry :: before.journal)
    (fits : ∀ speed, entry.delivered? socket.val = some speed → kind speed) :
    Brings socket kind before after :=
  ⟨[entry], entered.symm, fun other mem => by rw [List.mem_singleton.mp mem]; exact fits⟩

variable [MotorLink ℓ α]

/-- A move brings a socket nothing but what is asked of it. -/
theorem move {now : Nat} {asks : Fin 4 → α → Prop} (asked : ∀ speed, asks socket speed → kind speed)
    (move : Move now asks before after) : Brings socket kind before after := by
  cases move with
  | remembers => exact .refl _
  | releases => exact .refl _
  | connects _ _ taken =>
    exact .enter (JournaledLink.enter_journal taken).2 nofun
  | refused _ _ refusal =>
    exact .enter (JournaledLink.enter_journal refusal).2 nofun
  | @writes _ place _ asking _ taken =>
    refine .enter (JournaledLink.enter_journal taken).2 fun speed delivered => ?_
    by_cases here : place.val = socket.val
    case pos =>
      rw [LinkEntry.delivered?, if_pos here] at delivered
      cases delivered
      exact asked _ (Fin.ext here ▸ asking)
    case neg => rw [LinkEntry.delivered?, if_neg here] at delivered; cases delivered
  | breaks _ _ lost =>
    exact .enter (JournaledLink.enter_journal lost).2 nofun

/-- Moves bring a socket nothing but what is asked of it. -/
theorem moves {now : Nat} {asks : Fin 4 → α → Prop}
    (asked : ∀ speed, asks socket speed → kind speed)
    (moves : ReflTransGen (Move now asks) before after) : Brings socket kind before after := by
  induction moves with
  | refl => exact .refl before
  | tail _ move inductionHypothesis => exact inductionHypothesis.trans (.move asked move)

variable [Scalar α]

/-- An event brings a socket nothing but what it asks of it. -/
theorem record (motors : Motors (JournaledLink ℓ α) α) (timed : Nat × MotorEvent α)
    (asked : ∀ speed, timed.2.Asks socket speed → kind speed) :
    Brings socket kind motors (motors.record timed) := by
  obtain ⟨meanwhile, entered, fits⟩ : Brings socket kind (motors.dated timed.1)
    (motors.record timed) := .moves asked (follow_moves timed.1 (motors.dated timed.1) timed.2)
  exact ⟨meanwhile, entered, fits⟩

/-- A history brings a socket nothing but what its events ask of it. -/
theorem recordAll (motors : Motors (JournaledLink ℓ α) α) {history : List (Nat × MotorEvent α)}
    (asked : ∀ timed ∈ history, ∀ speed, timed.2.Asks socket speed → kind speed) :
    Brings socket kind motors (motors.recordAll history) := by
  induction history generalizing motors with
  | nil => exact .refl motors
  | cons timed history inductionHypothesis =>
    rw [List.forall_mem_cons] at asked
    exact (record motors timed asked.1).trans (inductionHypothesis _ asked.2)

end Brings

/-! ## What gets through -/

section Attempts

variable [MotorLink ℓ α]

/-- What the moves of the motors leave of the journal. -/
theorem suffix_of_moves {now : Nat} {asks : Fin 4 → α → Prop}
    {before after : Motors (JournaledLink ℓ α) α}
    (moves : ReflTransGen (Move now asks) before after) : before.journal <:+ after.journal :=
  have brings : Brings 0 (fun _ => True) before after := .moves (fun _ _ => trivial) moves
  brings.suffix

/-- A link that is not paused is up behind connecting, or failed to be connected. -/
theorem connect_reaches {now : Nat} (motors : Motors (JournaledLink ℓ α) α)
    (free : motors.connected = true ∨ motors.retryAt.any (now < ·) = false) :
    Noted motors (motors.connect now).2 LinkEntry.Failed ∨ (motors.connect now).1 = true := by
  unfold connect
  split
  case isTrue => exact .inr rfl
  case isFalse down =>
    have free : ¬motors.retryAt.any (now < ·) = true := by
      rw [free.resolve_left down]
      exact Bool.false_ne_true
    rw [if_neg free]
    split
    case h_1 => exact .inr rfl
    case h_2 link refusal =>
      have entered := (JournaledLink.enter_journal refusal).2
      exact .inl ⟨[_], entered.symm, _, List.mem_singleton_self _, rfl⟩

/-- A speed gets through where the link is not paused, unless an attempt fails. -/
theorem setSpeed_reaches {now : Nat} (motors : Motors (JournaledLink ℓ α) α) (socket : Fin 4)
    (speed : α) (free : motors.connected = true ∨ motors.retryAt.any (now < ·) = false) :
    Noted motors (motors.setSpeed now socket speed) LinkEntry.Failed ∨
      (motors.setSpeed now socket speed).connected = true ∧
        Noted motors (motors.setSpeed now socket speed) (LinkEntry.Reached socket) := by
  have reaches := connect_reaches (motors.remember socket speed) free
  obtain ⟨moves, up⟩ := connect_moves now (fun _ _ => True)
    (motors.remember socket speed)
  have onward := suffix_of_moves moves
  rw [setSpeed_eq]
  split
  case h_1 connecting =>
    rw [connecting] at reaches
    exact .inl (reaches.resolve_right Bool.false_ne_true)
  case h_2 connected connecting =>
    rw [connecting] at onward up
    split
    case h_1 link taken =>
      have entered := (JournaledLink.enter_journal taken).2
      have reached : Noted connected { connected with link := link } (LinkEntry.Reached socket) :=
        ⟨[_], entered.symm, _, List.mem_singleton_self _, speed, if_pos rfl⟩
      exact .inr ⟨up, reached.right onward⟩
    case h_2 link lost =>
      have entered := (JournaledLink.enter_journal lost).2
      have failed : Noted connected
          { connected with
            connected := false
            link := MotorLink.disconnect link
            retryAt := some (now + connected.backoff) } LinkEntry.Failed :=
        ⟨[_], entered.symm, _, List.mem_singleton_self _, rfl⟩
      exact .inl (failed.right onward)

/-- In the pause behind a failed attempt, nothing is attempted. -/
theorem setSpeed_of_paused {now : Nat} {motors : Motors ℓ α} (down : motors.connected = false)
    (paused : motors.retryAt.any (now < ·) = true) (socket : Fin 4) (speed : α) :
    motors.setSpeed now socket speed = motors.remember socket speed := by
  have connecting : (motors.remember socket speed).connect now =
      (false, motors.remember socket speed) := by
    rw [connect, remember_connected, down, remember_retryAt, if_neg Bool.false_ne_true,
      if_pos paused]
  rw [setSpeed_eq, connecting]

end Attempts

variable [Scalar α]

/-- The motor at a socket stands still: the last speed that reached it, if any did, is zero. -/
def StandsStill (socket : Fin 4) (motors : Motors (JournaledLink ℓ α) α) : Prop :=
  ∀ speed, motors.journal.findSome? (LinkEntry.delivered? socket.val) = some speed →
    Scalar.same speed Scalar.zero = true

/-- Where only zeros reach a motor, it stands still if it did before, or if any of them got
there. -/
theorem standsStill_iff {socket : Fin 4} {before after : Motors (JournaledLink ℓ α) α}
    (zeros : Brings socket (fun speed => Scalar.same speed Scalar.zero = true) before after) :
    StandsStill socket after ↔
      StandsStill socket before ∨ Noted before after (LinkEntry.Reached socket) := by
  obtain ⟨meanwhile, entered, fits⟩ := zeros
  have noted : Noted before after (LinkEntry.Reached socket) ↔
      ∃ entry ∈ meanwhile, entry.Reached socket := by
    refine ⟨fun ⟨other, enteredToo, reached⟩ => ?_, fun reached => ⟨meanwhile, entered, reached⟩⟩
    rwa [List.append_cancel_right (entered.trans enteredToo.symm)]
  rw [noted, StandsStill, ← entered, List.findSome?_append]
  cases last : meanwhile.findSome? (LinkEntry.delivered? socket.val) with
  | none =>
    have missed : ¬∃ entry ∈ meanwhile, entry.Reached socket := by
      rintro ⟨entry, mem, speed, delivered⟩
      rw [List.findSome?_eq_none_iff.mp last entry mem] at delivered
      cases delivered
    rw [or_iff_left missed]
    rfl
  | some speed =>
    obtain ⟨entry, mem, delivered⟩ := List.exists_of_findSome?_eq_some last
    refine iff_of_true (fun other same => ?_) (.inr ⟨entry, mem, speed, delivered⟩)
    cases same
    exact fits entry mem speed delivered

/-! ## What a stop attempts -/

section Stop

variable [MotorLink ℓ α]

/-- Whether a stop can get through to a socket: the link is up, or it may be connected and the
socket is remembered as turning. -/
def MayReach (now : Nat) (socket : Fin 4) (motors : Motors ℓ α) : Prop :=
  motors.connected = true ∨ motors.retryAt.any (now < ·) = false ∧
    Scalar.same (motors.remembered socket) Scalar.zero = false

/-- Stopping a socket that a stop can get through to reaches it, and stopping another one leaves
the way open, unless an attempt fails. -/
theorem stopSocket_reaches {now : Nat} {motors : Motors (JournaledLink ℓ α) α} {socket : Fin 4}
    (mayReach : MayReach now socket motors) (place : Fin 4) :
    Noted motors (stopSocket now motors place) LinkEntry.Failed ∨
      MayReach now socket (stopSocket now motors place) ∧
        (place = socket →
          Noted motors (stopSocket now motors place) (LinkEntry.Reached socket)) := by
  by_cases turns : (!Scalar.same (motors.remembered place) Scalar.zero || motors.connected) = true
  case pos =>
    rw [stopSocket_eq, if_pos turns]
    rcases setSpeed_reaches motors place Scalar.zero (mayReach.imp_right And.left) with
      failed | ⟨up, reached⟩
    · exact .inl failed
    · exact .inr ⟨.inl up, fun here => here ▸ reached⟩
  case neg =>
    rw [stopSocket_eq, if_neg turns]
    refine .inr ⟨mayReach, fun here => absurd ?_ turns⟩
    rw [here, Bool.or_eq_true, Bool.not_eq_true']
    exact mayReach.symm.imp_left And.right

/-- When sockets are stopped in turn, an attempt fails or a socket among them that may be reached is
reached. -/
theorem stopSockets_reaches {now : Nat} {motors : Motors (JournaledLink ℓ α) α} {socket : Fin 4}
    (mayReach : MayReach now socket motors) {sockets : List (Fin 4)} (mem : socket ∈ sockets) :
    Noted motors (sockets.foldl (stopSocket now) motors) LinkEntry.Failed ∨
      Noted motors (sockets.foldl (stopSocket now) motors) (LinkEntry.Reached socket) := by
  induction sockets generalizing motors with
  | nil => cases mem
  | cons place sockets inductionHypothesis =>
    have first := suffix_of_moves (stopSocket_moves now motors place)
    have rest := suffix_of_moves (stopSockets_moves now (stopSocket now motors place) sockets)
    rcases stopSocket_reaches mayReach place with failed | ⟨still, reaches⟩
    · exact .inl (failed.left rest)
    · by_cases here : place = socket
      case pos => exact .inr ((reaches here).left rest)
      case neg =>
        have later : socket ∈ sockets := List.mem_of_ne_of_mem (fun same => here same.symm) mem
        exact (inductionHypothesis still later).imp (·.right first) (·.right first)

/-- A stop in the pause behind a failed attempt remembers speeds and attempts nothing. -/
theorem stopSockets_of_paused {now : Nat} {motors : Motors ℓ α} (down : motors.connected = false)
    (paused : motors.retryAt.any (now < ·) = true) (sockets : List (Fin 4)) :
    ∃ speeds, sockets.foldl (stopSocket now) motors = { motors with speeds := speeds } := by
  induction sockets generalizing motors with
  | nil => exact ⟨motors.speeds, rfl⟩
  | cons socket sockets inductionHypothesis =>
    obtain ⟨speeds, stopped⟩ : ∃ speeds, stopSocket now motors socket =
        { motors with speeds := speeds } := by
      unfold stopSocket
      split
      case isTrue => exact ⟨_, setSpeed_of_paused down paused socket Scalar.zero⟩
      case isFalse => exact ⟨motors.speeds, rfl⟩
    rw [List.foldl_cons, stopped]
    exact inductionHypothesis down paused

/-- A stop that finds the link down and zero remembered everywhere does nothing. -/
theorem stopAll_of_still {motors : Motors ℓ α} (down : motors.connected = false)
    (still : ∀ socket : Fin 4, Scalar.same (motors.remembered socket) Scalar.zero = true)
    (now : Nat) : motors.stopAll now = motors := by
  have passed (sockets : List (Fin 4)) : sockets.foldl (stopSocket now) motors = motors := by
    induction sockets with
    | nil => rfl
    | cons socket sockets inductionHypothesis =>
      have skipped : stopSocket now motors socket = motors := by
        rw [stopSocket_eq, still socket, down]
        rfl
      rw [List.foldl_cons, skipped, inductionHypothesis]
  exact passed [0, 1, 2, 3]

end Stop

/-- What a global stop does to a motor that no later event asks to turn, over a link that behaves
as it likes. Behind it the motor stands still just if it did before, or if a zero got to it since.
The stop itself gets a zero there unless one of its attempts fails, if it finds the link up, or
finds it ready to be connected and the motor remembered as turning. In the pause behind a failed
attempt it attempts nothing. And it remembers zero whatever happened, so that a further stop that
finds the link still down does nothing at all. -/
theorem global_stop_halts_what_it_reaches {ℓ : Type} [MotorLink ℓ Float] (link : ℓ)
    (pause now : Nat) (earlier later : List (Nat × MotorEvent Float)) {socket : Fin 4}
    (quiet : ∀ timed ∈ later, ∀ speed, timed.2.Asks socket speed →
      Scalar.same speed Scalar.zero = true) :
    let before := (atRest link pause).journaled.recordAll earlier
    let stopped := before.record (now, .stopAll)
    let behind := stopped.recordAll later
    (StandsStill socket behind ↔
        StandsStill socket before ∨ Noted before behind (LinkEntry.Reached socket)) ∧
      (MayReach now socket before →
        Noted before stopped LinkEntry.Failed ∨
          Noted before stopped (LinkEntry.Reached socket)) ∧
      (before.connected = false → before.retryAt.any (now < ·) = true →
        stopped.journal = before.journal ∧ stopped.connected = false) ∧
      (stopped.connected = false → ∀ next, stopped.plain.stopAll next = stopped.plain) := by
  intro before stopped behind
  have zeroSame : Scalar.same (Scalar.zero : Float) Scalar.zero = true := rfl
  have everySocket : ∀ socket : Fin 4, socket ∈ [0, 1, 2, 3] := by decide
  refine ⟨standsStill_iff ?_, fun mayReach => ?_, fun down paused => ?_, fun down => ?_⟩
  · have stopping : Brings socket (fun speed => Scalar.same speed Scalar.zero = true) before
        stopped := .record before (now, .stopAll) fun speed asked => asked ▸ zeroSame
    exact stopping.trans (.recordAll stopped quiet)
  · have mayReach : MayReach now socket (before.dated now) := mayReach
    exact stopSockets_reaches mayReach (everySocket socket)
  · have downToo : (before.dated now).connected = false := down
    obtain ⟨speeds, same⟩ := stopSockets_of_paused downToo paused [0, 1, 2, 3]
    have halted : stopped = { before.dated now with speeds := speeds } := same
    rw [halted]
    exact ⟨rfl, down⟩
  · exact stopAll_of_still down fun socket =>
      stopAll_still zeroSame now (before.dated now) socket

/-- A motor turns, and a stop reaches it. -/
theorem turning_halted :
    let before := (atRest (⟨[]⟩ : FickleLink) 5000).journaled.recordAll
      [(0, MotorEvent.request .setSpeed 1 50)]
    let stopped := before.record (10, .stopAll)
    let later : List (Nat × MotorEvent Float) := [(20, .request .setSpeed 2 30)]
    (∀ timed ∈ later, ∀ speed, timed.2.Asks 0 speed → Scalar.same speed Scalar.zero = true) ∧
      MayReach 10 0 before ∧
      (Noted before stopped LinkEntry.Failed ∨ Noted before stopped (LinkEntry.Reached 0)) ∧
      (StandsStill 0 (stopped.recordAll later) ↔ StandsStill 0 before ∨
        Noted before (stopped.recordAll later) (LinkEntry.Reached 0)) := by
  intro before stopped later
  have quiet : ∀ timed ∈ later, ∀ speed, timed.2.Asks 0 speed →
      Scalar.same speed Scalar.zero = true := by
    intro timed mem speed asked
    rw [List.mem_singleton.mp mem] at asked
    have elsewhere : (socketOf (.ofList [("PORT", .int 2), ("SPEED", .int 30)] :
        Args Float)).toOption = some 1 := by decide +kernel
    rw [asked.1] at elsewhere
    cases elsewhere
  have halts := global_stop_halts_what_it_reaches (⟨[]⟩ : FickleLink) 5000 10
    [(0, MotorEvent.request .setSpeed 1 50)] later quiet
  have mayReach : MayReach 10 0 before := .inl (by decide +kernel)
  exact ⟨quiet, mayReach, halts.2.1 mayReach, halts.1⟩

/-- A motor turns, the link breaks, and the stop falls into the pause. A further stop and a
request at another port find the link ready again, and the motor goes on turning. -/
theorem paused_stop_leaves_turning :
    let before := (atRest (⟨[true, true, false]⟩ : FickleLink) 5000).journaled.recordAll
      [(0, MotorEvent.request .setSpeed 1 50), (10, .request .setSpeed 2 20)]
    let later : List (Nat × MotorEvent Float) := [(6000, .stopAll), (7000, .request .stop 2 0)]
    let behind := (before.record (1000, .stopAll)).recordAll later
    (∀ timed ∈ later, ∀ speed, timed.2.Asks 0 speed → Scalar.same speed Scalar.zero = true) ∧
      behind.connected = true ∧ ¬StandsStill 0 behind := by
  intro before later behind
  have turning : (behind.journal.findSome? (LinkEntry.delivered? 0)).any
      (fun speed => !Scalar.same speed Scalar.zero) = true := by decide +kernel
  refine ⟨?_, by decide +kernel, fun still => ?_⟩
  · intro timed mem speed asked
    have zero : speed = Scalar.zero := by
      simp only [later, List.mem_cons, List.not_mem_nil, or_false] at mem
      rcases mem with rfl | rfl
      · exact asked
      · exact asked.2
    rw [zero]
    rfl
  · obtain ⟨speed, last, turns⟩ := (Option.any_eq_true _ _).mp turning
    rw [still speed last] at turns
    cases turns

end Motors

end SpriteMachine
