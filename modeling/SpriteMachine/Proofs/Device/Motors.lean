import Mathlib.Logic.Relation
import SpriteMachine.Device.Motors
import SpriteMachine.Scheduler.Threads

/-!
# Motors over a whole history

What reaches the motors are blocks of scripts, global stops and the end of the runtime, each at
its moment. Whatever these ask for, the motors go by single moves: they remember a speed, connect
or are refused, write or lose the link, and let go of it. All that the motors keep is kept by the
moves.

A journal put between the motors and their link records every attempt to connect and to write.
It decides nothing: behind it, the motors do as they do without it.
-/

namespace SpriteMachine

open Relation (ReflTransGen)

/-- What reaches the motors: a block of a script, a global stop, or the end of the runtime. -/
inductive MotorEvent (α : Type) where
  | block (block : MotorBlock) (args : Args α)
  | stopAll
  | release

namespace MotorEvent

variable {α : Type} [Scalar α]

/-- What a notice is to the motors, if they listen to it. -/
def ofNotice? : Notice → Option (MotorEvent α)
  | .projectStopAll => some .stopAll
  | .runtimeDisposed => some .release
  | _ => none

/-- The speeds that an event asks of a socket. -/
def Asks (event : MotorEvent α) (socket : Fin 4) (speed : α) : Prop :=
  match event with
  | .block .setSpeed args => Motors.socketOf args = .ok socket ∧
      speed = Scalar.clamp (Scalar.ofInt (-100)) (Scalar.ofInt 100) (args.number "SPEED")
  | .block .stop args => Motors.socketOf args = .ok socket ∧ speed = Scalar.zero
  | .block .getSpeed _ | .release => False
  | .stopAll => speed = Scalar.zero

end MotorEvent

namespace Motors

variable {ℓ α : Type}

/-- The speed that is remembered for a socket. -/
def remembered (motors : Motors ℓ α) (socket : Fin 4) : α := motors.speeds.get socket

/-- Motors that remember another speed for a socket. -/
def remember (motors : Motors ℓ α) (socket : Fin 4) (speed : α) : Motors ℓ α :=
  { motors with speeds := motors.speeds.setIfInBounds socket.val speed }

/-- To remember a speed leaves the link up or down. -/
@[simp] theorem remember_connected (motors : Motors ℓ α) (socket : Fin 4) (speed : α) :
    (motors.remember socket speed).connected = motors.connected := rfl

/-- To remember a speed leaves the time of the next attempt. -/
@[simp] theorem remember_retryAt (motors : Motors ℓ α) (socket : Fin 4) (speed : α) :
    (motors.remember socket speed).retryAt = motors.retryAt := rfl

/-- A speed is remembered for its own socket only. -/
theorem remembered_remember (motors : Motors ℓ α) (socket other : Fin 4) (speed : α) :
    (motors.remember socket speed).remembered other =
      if socket = other then speed else motors.remembered other := by
  simp only [Fin.ext_iff]
  exact Vector.getElem_setIfInBounds other.isLt

/-- One move of the motors at a moment, where the speeds that are asked for are given. -/
inductive Move [MotorLink ℓ α] (now : Nat) (asks : Fin 4 → α → Prop) :
    Motors ℓ α → Motors ℓ α → Prop where
  | remembers {motors : Motors ℓ α} {socket : Fin 4} {speed : α} (asked : asks socket speed) :
      Move now asks motors (motors.remember socket speed)
  | connects {motors : Motors ℓ α} {link : ℓ} (down : motors.connected = false)
      (free : motors.retryAt.any (now < ·) = false)
      (taken : MotorLink.connect motors.link = (true, link)) :
      Move now asks motors { motors with link := link, connected := true, retryAt := none }
  | refused {motors : Motors ℓ α} {link : ℓ} (down : motors.connected = false)
      (free : motors.retryAt.any (now < ·) = false)
      (refusal : MotorLink.connect motors.link = (false, link)) :
      Move now asks motors { motors with link := link, retryAt := some (now + motors.backoff) }
  | writes {motors : Motors ℓ α} {link : ℓ} {socket : Fin 4} {speed : α}
      (asked : asks socket speed) (up : motors.connected = true)
      (taken : MotorLink.write socket.val speed motors.link = (true, link)) :
      Move now asks motors { motors with link := link }
  | breaks {motors : Motors ℓ α} {link : ℓ} {socket : Fin 4} {speed : α}
      (asked : asks socket speed) (up : motors.connected = true)
      (lost : MotorLink.write socket.val speed motors.link = (false, link)) :
      Move now asks motors
        { motors with
          connected := false
          link := MotorLink.disconnect link
          retryAt := some (now + motors.backoff) }
  | releases {motors : Motors ℓ α} (up : motors.connected = true) :
      Move now asks motors
        { motors with connected := false, link := MotorLink.disconnect motors.link }

/-- A speed is remembered, the link is connected if it can be, and the speed is written or lost. -/
theorem setSpeed_eq [MotorLink ℓ α] (motors : Motors ℓ α) (now : Nat) (socket : Fin 4)
    (speed : α) :
    motors.setSpeed now socket speed =
      match (motors.remember socket speed).connect now with
      | (false, motors) => motors
      | (true, motors) =>
        match MotorLink.write socket.val speed motors.link with
        | (true, link) => { motors with link := link }
        | (false, link) =>
          { motors with
            connected := false
            link := MotorLink.disconnect link
            retryAt := some (now + motors.backoff) } := by
  have bounded : motors.speeds.setIfInBounds socket.val speed =
      motors.speeds.set socket.val speed socket.isLt :=
    Vector.ext fun place inside => by rw [Vector.getElem_setIfInBounds, Vector.getElem_set]
  rw [remember, bounded]
  rfl

section Moves

variable [MotorLink ℓ α] {now : Nat} {asks : Fin 4 → α → Prop}

/-- Connecting is at most one move, and tells whether the link is up behind it. -/
theorem connect_moves (now : Nat) (asks : Fin 4 → α → Prop) (motors : Motors ℓ α) :
    ReflTransGen (Move now asks) motors (motors.connect now).2 ∧
      (motors.connect now).2.connected = (motors.connect now).1 := by
  unfold connect
  split
  case isTrue up => exact ⟨.refl, up⟩
  case isFalse down =>
    have down : motors.connected = false := Bool.eq_false_iff.mpr down
    split
    case isTrue paused => exact ⟨.refl, down⟩
    case isFalse free =>
      have free : motors.retryAt.any (now < ·) = false := Bool.eq_false_iff.mpr free
      split
      case h_1 link taken => exact ⟨.single (.connects down free taken), rfl⟩
      case h_2 link refusal => exact ⟨.single (.refused down free refusal), down⟩

/-- To set a speed is to remember it, to connect where the link is down, and to write it. -/
theorem setSpeed_moves (motors : Motors ℓ α) {socket : Fin 4} {speed : α}
    (asked : asks socket speed) :
    ReflTransGen (Move now asks) motors (motors.setSpeed now socket speed) := by
  have remembered : Move now asks motors (motors.remember socket speed) := .remembers asked
  obtain ⟨moves, up⟩ := connect_moves now asks (motors.remember socket speed)
  rw [setSpeed_eq]
  split
  case h_1 down connecting =>
    rw [connecting] at moves
    exact .head remembered moves
  case h_2 connected connecting =>
    rw [connecting] at moves up
    split
    case h_1 link taken => exact .head remembered (moves.tail (.writes asked up taken))
    case h_2 link lost => exact .head remembered (moves.tail (.breaks asked up lost))

/-- To release the motors is one move at most. -/
theorem release_moves (motors : Motors ℓ α) :
    ReflTransGen (Move now asks) motors motors.release := by
  unfold release
  split
  case isTrue up => exact .single (.releases up)
  case isFalse => exact .refl

end Moves

section Speeds

variable [MotorLink ℓ α] (motors : Motors ℓ α) (now : Nat)

/-- To connect leaves the remembered speeds. -/
theorem connect_remembered (socket : Fin 4) :
    (motors.connect now).2.remembered socket = motors.remembered socket := by
  unfold connect
  split
  case isTrue => rfl
  case isFalse =>
    split
    case isTrue => rfl
    case isFalse => split <;> rfl

/-- A speed that is asked for is remembered, whether or not it gets through. -/
theorem setSpeed_remembered (socket other : Fin 4) (speed : α) :
    (motors.setSpeed now socket speed).remembered other =
      if socket = other then speed else motors.remembered other := by
  have connected := connect_remembered (motors.remember socket speed) now other
  rw [setSpeed_eq, ← remembered_remember]
  split
  case h_1 connecting => rw [connecting] at connected; exact connected
  case h_2 connecting =>
    rw [connecting] at connected
    split <;> exact connected

/-- To release the motors leaves the remembered speeds. -/
theorem release_remembered (socket : Fin 4) :
    motors.release.remembered socket = motors.remembered socket := by
  unfold release
  split <;> rfl

end Speeds

variable [Scalar α]

section Events

variable [MotorLink ℓ α]

/-- A block that names no socket is refused and does nothing. -/
theorem run_of_error {args : Args α} {fault : BlockFault} (unnamed : socketOf args = .error fault)
    (now : Nat) (motors : Motors ℓ α) (block : MotorBlock) :
    motors.run now block args = (.error fault, motors) := by
  simp only [run, unnamed]

/-- What a block does with the socket that it names. -/
theorem run_of_ok {args : Args α} {socket : Fin 4} (named : socketOf args = .ok socket)
    (now : Nat) (motors : Motors ℓ α) (block : MotorBlock) :
    motors.run now block args =
      match block with
      | .setSpeed => (.ok .null, motors.setSpeed now socket
          (Scalar.clamp (Scalar.ofInt (-100)) (Scalar.ofInt 100) (args.number "SPEED")))
      | .stop => (.ok .null, motors.setSpeed now socket Scalar.zero)
      | .getSpeed => (.ok (.ofNumber (motors.remembered socket)), motors) := by
  cases block with
  | setSpeed | stop => simp only [run, named]
  | getSpeed =>
    simp only [run, named]
    rfl

/-- The motors behind an event at a moment. -/
def follow (now : Nat) (motors : Motors ℓ α) : MotorEvent α → Motors ℓ α
  | .block block args => (motors.run now block args).2
  | .stopAll => motors.stopAll now
  | .release => motors.release

/-- What an event gives back to a script, if it is a block of one. -/
def answer (now : Nat) (motors : Motors ℓ α) :
    MotorEvent α → Option (Except BlockFault (Value α))
  | .block block args => some (motors.run now block args).1
  | _ => none

/-- The motors behind a history. -/
def followAll (motors : Motors ℓ α) (history : List (Nat × MotorEvent α)) : Motors ℓ α :=
  history.foldl (fun motors timed => motors.follow timed.1 timed.2) motors

/-- What the events of a history give back to scripts. -/
def answers (motors : Motors ℓ α) :
    List (Nat × MotorEvent α) → List (Option (Except BlockFault (Value α)))
  | [] => []
  | (now, event) :: later => motors.answer now event :: (motors.follow now event).answers later

/-- A socket is passed over when its speed is remembered as zero and the link is down. -/
theorem stopSocket_eq (now : Nat) (motors : Motors ℓ α) (socket : Fin 4) :
    stopSocket now motors socket =
      if !Scalar.same (motors.remembered socket) Scalar.zero || motors.connected then
        motors.setSpeed now socket Scalar.zero
      else motors := rfl

section Zero

variable (zeroSame : Scalar.same (Scalar.zero : α) Scalar.zero = true) (now : Nat)
  (motors : Motors ℓ α)
include zeroSame

/-- Stopping a socket leaves zero remembered there, and wherever else it was. -/
theorem stopSocket_still {socket other : Fin 4}
    (same : other ≠ socket → Scalar.same (motors.remembered other) Scalar.zero = true) :
    Scalar.same ((stopSocket now motors socket).remembered other) Scalar.zero = true := by
  by_cases turns : (!Scalar.same (motors.remembered socket) Scalar.zero || motors.connected) = true
  case pos =>
    rw [stopSocket_eq, if_pos turns, setSpeed_remembered]
    split
    case isTrue => exact zeroSame
    case isFalse there => exact same fun here => there here.symm
  case neg =>
    rw [stopSocket_eq, if_neg turns]
    by_cases here : other = socket
    case pos =>
      simp only [Bool.or_eq_true, Bool.not_eq_true', not_or, Bool.not_eq_false] at turns
      exact here ▸ turns.1
    case neg => exact same here

/-- A socket that is stopped in turn or stood still before is remembered as still. -/
theorem stopSockets_still (sockets : List (Fin 4)) {socket : Fin 4}
    (same : socket ∉ sockets → Scalar.same (motors.remembered socket) Scalar.zero = true) :
    Scalar.same ((sockets.foldl (stopSocket now) motors).remembered socket) Scalar.zero = true := by
  induction sockets generalizing motors with
  | nil => exact same List.not_mem_nil
  | cons first sockets inductionHypothesis =>
    refine inductionHypothesis _ fun outside => ?_
    refine stopSocket_still zeroSame now motors fun other => same ?_
    rw [List.mem_cons, not_or]
    exact ⟨other, outside⟩

/-- A global stop leaves zero remembered at every socket. -/
theorem stopAll_still (socket : Fin 4) :
    Scalar.same ((motors.stopAll now).remembered socket) Scalar.zero = true := by
  have everySocket : ∀ socket : Fin 4, socket ∈ [0, 1, 2, 3] := by decide
  exact stopSockets_still zeroSame now motors [0, 1, 2, 3] fun outside =>
    absurd (everySocket socket) outside

end Zero

/-- A scheduler that has the peripheral package passes on to the motors what its notices are to
them. -/
theorem motorsAfter_eq (now : Nat) (motors : Motors (LoopbackLink α) α) (notice : Notice) :
    Scheduler.motorsAfter now motors notice =
      (MotorEvent.ofNotice? notice).elim motors (motors.follow now) := by
  cases notice <;> rfl

/-- To stop a socket is to set its speed to zero or to do nothing. -/
theorem stopSocket_moves (now : Nat) (motors : Motors ℓ α) (socket : Fin 4) :
    ReflTransGen (Move now MotorEvent.stopAll.Asks) motors (stopSocket now motors socket) := by
  unfold stopSocket
  split
  case isTrue => exact setSpeed_moves motors rfl
  case isFalse => exact .refl

/-- Stopping sockets one by one goes by moves. -/
theorem stopSockets_moves (now : Nat) (motors : Motors ℓ α) (sockets : List (Fin 4)) :
    ReflTransGen (Move now MotorEvent.stopAll.Asks) motors
      (sockets.foldl (stopSocket now) motors) := by
  induction sockets generalizing motors with
  | nil => exact .refl
  | cons socket sockets inductionHypothesis =>
    exact (stopSocket_moves now motors socket).trans (inductionHypothesis _)

/-- Every event goes by moves that write nothing but what it asks for. -/
theorem follow_moves (now : Nat) (motors : Motors ℓ α) (event : MotorEvent α) :
    ReflTransGen (Move now event.Asks) motors (motors.follow now event) := by
  cases event with
  | stopAll => exact stopSockets_moves now motors [0, 1, 2, 3]
  | release => exact release_moves motors
  | block block args =>
    dsimp only [follow]
    cases named : socketOf args with
    | error fault =>
      rw [run_of_error named]
    | ok socket =>
      rw [run_of_ok named]
      cases block with
      | setSpeed => exact setSpeed_moves motors ⟨named, rfl⟩
      | stop => exact setSpeed_moves motors ⟨named, rfl⟩
      | getSpeed => exact .refl

end Events

end Motors

/-! ## The journal -/

/-- An attempt on a link. -/
inductive LinkAttempt (α : Type) where
  | connect
  | write (socket : Nat) (speed : α)

/-- An attempt on a link, when it was made, and whether it succeeded. -/
structure LinkEntry (α : Type) where
  moment : Nat
  attempt : LinkAttempt α
  succeeded : Bool

/-- The speed that an entry brings to a socket, if it does. -/
def LinkEntry.delivered? {α : Type} (socket : Nat) : LinkEntry α → Option α
  | ⟨_, .write place speed, true⟩ => if place = socket then some speed else none
  | _ => none

/-- A link with a journal of the attempts on it, the latest one first, and the moment that the
next attempts are dated with. -/
structure JournaledLink (ℓ α : Type) where
  link : ℓ
  moment : Nat
  journal : List (LinkEntry α)

namespace JournaledLink

variable {ℓ α : Type}

/-- The link behind an attempt, with an entry about it. -/
def enter (journaled : JournaledLink ℓ α) (attempt : LinkAttempt α) (result : Bool × ℓ) :
    Bool × JournaledLink ℓ α :=
  (result.1,
    { journaled with
      link := result.2
      journal := ⟨journaled.moment, attempt, result.1⟩ :: journaled.journal })

/-- An attempt is entered once, as it went. -/
theorem enter_journal {journaled after : JournaledLink ℓ α} {attempt : LinkAttempt α}
    {result : Bool × ℓ} {succeeded : Bool}
    (entered : journaled.enter attempt result = (succeeded, after)) :
    after.moment = journaled.moment ∧
      after.journal = ⟨journaled.moment, attempt, succeeded⟩ :: journaled.journal := by
  cases entered
  exact ⟨rfl, rfl⟩

instance [MotorLink ℓ α] : MotorLink (JournaledLink ℓ α) α where
  connect journaled := journaled.enter .connect (MotorLink.connect journaled.link)
  write socket speed journaled :=
    journaled.enter (.write socket speed) (MotorLink.write socket speed journaled.link)
  disconnect journaled := { journaled with link := MotorLink.disconnect journaled.link }

end JournaledLink

namespace Motors

variable {ℓ α : Type}

/-- Motors with an empty journal put before their link. -/
def journaled (motors : Motors ℓ α) : Motors (JournaledLink ℓ α) α :=
  { motors with link := ⟨motors.link, 0, []⟩ }

/-- Motors without the journal before their link. -/
def plain (motors : Motors (JournaledLink ℓ α) α) : Motors ℓ α :=
  { motors with link := motors.link.link }

/-- The attempts of the motors so far, the latest one first. -/
def journal (motors : Motors (JournaledLink ℓ α) α) : List (LinkEntry α) := motors.link.journal

/-- Motors whose next attempts are dated with a moment. -/
def dated (motors : Motors (JournaledLink ℓ α) α) (now : Nat) : Motors (JournaledLink ℓ α) α :=
  { motors with link := { motors.link with moment := now } }

/-- A journal leaves the link up or down. -/
@[simp] theorem plain_connected (motors : Motors (JournaledLink ℓ α) α) :
    motors.plain.connected = motors.connected := rfl

/-- A journal leaves the remembered speeds. -/
@[simp] theorem plain_remembered (motors : Motors (JournaledLink ℓ α) α) (socket : Fin 4) :
    motors.plain.remembered socket = motors.remembered socket := rfl

/-- Motors with an empty journal are the motors themselves. -/
@[simp] theorem plain_journaled (motors : Motors ℓ α) : motors.journaled.plain = motors := rfl

section Plain

variable [MotorLink ℓ α] (motors : Motors (JournaledLink ℓ α) α) (now : Nat)

/-- The journal leaves it to the link whether it connects. -/
theorem plain_connect :
    motors.plain.connect now = ((motors.connect now).1, (motors.connect now).2.plain) := by
  obtain ⟨⟨link, moment, journal⟩, connected, retryAt, backoff, speeds⟩ := motors
  rcases connecting : MotorLink.connect link with ⟨_ | _, link'⟩ <;>
    simp only [connect, plain, MotorLink.connect, JournaledLink.enter, connecting] <;>
    split <;> try rfl
  all_goals split <;> rfl

/-- The journal leaves it to the link whether it writes. -/
theorem plain_setSpeed (socket : Fin 4) (speed : α) :
    (motors.setSpeed now socket speed).plain = motors.plain.setSpeed now socket speed := by
  have connecting : connect (motors.plain.remember socket speed) now = _ :=
    plain_connect (motors.remember socket speed) now
  rw [setSpeed_eq, setSpeed_eq, connecting]
  obtain ⟨_ | _, ⟨link, moment, journal⟩, connected, retryAt, backoff, speeds⟩ :=
    (motors.remember socket speed).connect now
  case true =>
    rcases writing : MotorLink.write socket.val speed link with ⟨_ | _, link'⟩ <;>
      simp only [MotorLink.write, JournaledLink.enter, MotorLink.disconnect, plain, writing]
  case false => rfl

/-- A journal changes nothing of a release. -/
theorem plain_release : motors.release.plain = motors.plain.release := by
  unfold release
  rw [plain_connected]
  split <;> rfl

variable [Scalar α]

/-- A journal changes nothing of stopping a socket. -/
theorem plain_stopSocket (socket : Fin 4) :
    (stopSocket now motors socket).plain = stopSocket now motors.plain socket := by
  rw [stopSocket_eq, stopSocket_eq, plain_connected, plain_remembered, ← plain_setSpeed]
  split <;> rfl

/-- A journal changes nothing of stopping all sockets. -/
theorem plain_stopAll : (motors.stopAll now).plain = motors.plain.stopAll now :=
  (List.foldl_hom plain fun motors socket => (plain_stopSocket motors now socket).symm).symm

/-- The journal leaves what an event does to the motors and their link. -/
theorem plain_follow (event : MotorEvent α) :
    (motors.follow now event).plain = motors.plain.follow now event := by
  cases event with
  | stopAll => exact plain_stopAll motors now
  | release => exact plain_release motors
  | block block args =>
    dsimp only [follow]
    cases named : socketOf args with
    | error fault => rw [run_of_error named, run_of_error named]
    | ok socket =>
      rw [run_of_ok named, run_of_ok named]
      cases block with
      | setSpeed => exact plain_setSpeed motors now socket _
      | stop => exact plain_setSpeed motors now socket _
      | getSpeed => rfl

/-- The motors behind an event that happens at a moment, with what they attempt in the journal. -/
def record (motors : Motors (JournaledLink ℓ α) α) (timed : Nat × MotorEvent α) :
    Motors (JournaledLink ℓ α) α :=
  (motors.dated timed.1).follow timed.1 timed.2

/-- The motors behind a history, with what they attempted in the journal. -/
def recordAll (motors : Motors (JournaledLink ℓ α) α) (history : List (Nat × MotorEvent α)) :
    Motors (JournaledLink ℓ α) α :=
  history.foldl record motors

/-- The journal decides nothing: without it, the motors do the same all along a history. -/
theorem plain_recordAll (history : List (Nat × MotorEvent α)) :
    (motors.recordAll history).plain = motors.plain.followAll history :=
  (List.foldl_hom plain fun motors timed =>
    (plain_follow (motors.dated timed.1) timed.1 timed.2).symm).symm

end Plain

end Motors

/-! ## A link that fails as it is told -/

/-- A link whose attempts go as they are listed, one after another, and succeed behind the
list. -/
structure FickleLink where
  outcomes : List Bool

namespace FickleLink

/-- The outcome of the next attempt. -/
def attempt (link : FickleLink) : Bool × FickleLink :=
  match link.outcomes with
  | [] => (true, link)
  | outcome :: outcomes => (outcome, ⟨outcomes⟩)

instance : MotorLink FickleLink Float where
  connect := attempt
  write _ _ := attempt
  disconnect link := link

end FickleLink

/-- A script's request at a port, which is counted from one. -/
def MotorEvent.request (block : MotorBlock) (port speed : Int) : MotorEvent Float :=
  .block block (.ofList [("PORT", .int port), ("SPEED", .int speed)])

end SpriteMachine
