import SpriteMachine.Proofs.Scheduler.Stacks

/-!
# The invocations of a call

A run is seen moment by moment. A block that asks to be invoked again leaves its frame on top
of the stack that its invocation found; there the frame waits, whatever happens meanwhile,
until its thread has ended or takes it up for the next invocation. So the invocations of one
call follow each other on one place of one stack, and each goes on with what the one before
it left.
-/

namespace SpriteMachine

namespace Scheduler

variable {τ α : Type} [Scalar α] [Transport τ α]
  {allowed : Scheduler τ α → Operation τ α → Prop} {start scheduler before : Scheduler τ α}
  {id : ThreadId} {target : TargetId} {frame : Frame α} {under : List (Frame α)}

/-- A run from moment to moment. -/
structure Timeline (allowed : Scheduler τ α → Operation τ α → Prop) (start : Scheduler τ α) where
  moment : Nat → Scheduler τ α
  length : Nat
  starts : moment 0 = start
  turns : ∀ index < length, Turn allowed (moment index) (moment (index + 1))

/-- A frame has its place on the stack of an active thread, above those under it. -/
def Holds (scheduler : Scheduler τ α) (id : ThreadId) (target : TargetId) (frame : Frame α)
    (under : List (Frame α)) : Prop :=
  ∃ thread, scheduler.standing id = some thread ∧ thread.target = target ∧
    (frame :: under) <:+ thread.frames

section Holding

variable {after : Scheduler τ α}

omit [Scalar α] [Transport τ α] in
/-- What is held on a stack that did not change was held before. A thread that has just been
registered has no frame above that of its body. -/
theorem Stems.holds_before (stems : Stems Thread.SameStack before after id)
    (distinct : before.ids.Distinct) (some : under ≠ [])
    (holds : after.Holds id target frame under) : before.Holds id target frame under := by
  obtain ⟨later, lives, on, inside⟩ := holds
  obtain ⟨earlier, ⟨aim, frames⟩, stood | ⟨-, -, -, name, bare⟩⟩ :=
    stems.thread distinct later lives
  · rw [frames] at inside
    exact ⟨earlier, stood, aim.symm.trans on, inside⟩
  · rw [frames, bare] at inside
    have short := inside.length_le
    have long := List.length_pos_iff.mpr some
    simp only [List.length_cons, List.length_nil] at short
    omega

omit [Scalar α] [Transport τ α] in
/-- What is held on a stack is held on as long as the stack does not change and its thread is
active. -/
theorem Stems.holds_after (stems : Stems Thread.SameStack before after id)
    (orderly : Orderly before) (holds : before.Holds id target frame under)
    (lives : after.isLive id = true) : after.Holds id target frame under := by
  obtain ⟨thread, stands, on, inside⟩ := holds
  rw [isLive_eq_standing, Option.isSome_iff_exists] at lives
  obtain ⟨later, stays⟩ := lives
  obtain ⟨earlier, ⟨aim, frames⟩, stood | ⟨fresh, -⟩⟩ := stems.thread orderly.distinct later stays
  · obtain rfl : thread = earlier := Option.some.inj (stands.symm.trans stood)
    rw [← frames] at inside
    exact ⟨later, stays, aim.trans on, inside⟩
  · exact absurd (orderly.issued id thread (standing_eq_some.mp stands).1) fresh

end Holding

namespace Timeline

/-- A timeline of one moment. -/
def still (start : Scheduler τ α) : Timeline allowed start where
  moment := fun _ => start
  length := 0
  starts := rfl
  turns := fun _ none => absurd none (Nat.not_lt_zero _)

/-- A timeline with one more turn. -/
def andThen (timeline : Timeline allowed start) {last : Scheduler τ α}
    (turn : Turn allowed (timeline.moment timeline.length) last) : Timeline allowed start where
  moment := fun index => if index ≤ timeline.length then timeline.moment index else last
  length := timeline.length + 1
  starts := by rw [if_pos (Nat.zero_le _), timeline.starts]
  turns := fun index within => by
    have inside : index ≤ timeline.length := Nat.le_of_lt_succ within
    rw [if_pos inside]
    by_cases earlier : index < timeline.length
    · rw [if_pos (Nat.succ_le_of_lt earlier)]
      exact timeline.turns index earlier
    · obtain rfl : index = timeline.length := Nat.le_antisymm inside (Nat.le_of_not_lt earlier)
      rw [if_neg (Nat.not_succ_le_self _)]
      exact turn

/-- What leads from one moment to a later one is a timeline. -/
theorem exists_of_moments {later : Scheduler τ α} (moments : Moments allowed start later) :
    ∃ timeline : Timeline allowed start, timeline.moment timeline.length = later := by
  induction moments with
  | refl => exact ⟨.still start, rfl⟩
  | tail _ turn inductionHypothesis =>
    obtain ⟨timeline, rfl⟩ := inductionHypothesis
    refine ⟨timeline.andThen turn, ?_⟩
    exact if_neg (Nat.not_succ_le_self _)

variable {timeline : Timeline allowed start} {index : Nat}

/-- An invocation in a timeline: the frame that was taken up, and the scheduler it was taken
from. -/
structure Call (timeline : Timeline allowed start) where
  index : Nat
  within : index < timeline.length
  thread : ThreadId
  target : TargetId
  block : Block
  frame : Frame α
  taken : Scheduler τ α
  takes : TakesUp (timeline.moment index) thread target block frame taken
  leaves : timeline.moment (index + 1) = (taken.invoke thread target block frame).2

namespace Call

/-- What the block makes of its invocation. -/
def outcome (call : timeline.Call) : Except BlockFault (Value α) × Invocation τ α :=
  blockOutcome call.taken call.thread call.target call.block call.frame

/-- The frames that the invocation finds on the stack of its thread. -/
def below (call : timeline.Call) : List (Frame α) :=
  (call.taken.standing call.thread).elim [] Thread.frames

/-- Up to a moment the frame that the block left waits in its place, and whoever is invoked
meanwhile leaves it there. -/
structure Waits (call : timeline.Call) (until_ : Nat) : Prop where
  held : ∀ index, call.index < index → index ≤ until_ →
    (timeline.moment index).Holds call.thread call.target (keptFrame call.outcome) call.below
  untouched : ∀ other : timeline.Call, call.index < other.index → other.index < until_ →
    other.taken.Holds call.thread call.target (keptFrame call.outcome) call.below

/-- One invocation is the next of a call behind another one. -/
structure Again (earlier later : timeline.Call) : Prop where
  yields : Yields earlier.outcome
  after : earlier.index < later.index
  waits : earlier.Waits later.index
  thread : later.thread = earlier.thread
  target : later.target = earlier.target
  block : later.block = earlier.block
  frame : later.frame = keptFrame earlier.outcome
  below : later.below = earlier.below

end Call

section Moments

/-- At every moment the stacks are in layers. -/
theorem piled (timeline : Timeline allowed start) (initial : Piled start)
    (within : index ≤ timeline.length) :
    Piled (timeline.moment index) := by
  induction index with
  | zero =>
    rw [timeline.starts]
    exact initial
  | succ index inductionHypothesis =>
    exact (timeline.turns index (by omega)).piled (inductionHypothesis (by omega))

/-- At every moment the same blocks are known. -/
theorem registry (timeline : Timeline allowed start) (initial : Piled start)
    (within : index ≤ timeline.length) : (timeline.moment index).registry = start.registry := by
  induction index with
  | zero => rw [timeline.starts]
  | succ index inductionHypothesis =>
    have inside : index ≤ timeline.length := by omega
    have orderly := (timeline.piled initial inside).orderly
    have later := ((timeline.turns index (by omega)).advances orderly).2
    exact later.registry.trans (inductionHypothesis (by omega))

/-- The thread of an invocation is active on the target, with the frames below. -/
theorem Call.stands (call : timeline.Call) (initial : Piled start) :
    ∃ thread, call.taken.standing call.thread = some thread ∧ thread.target = call.target ∧
      thread.frames = call.below ∧
      (call.frame.isFirstRun = true ∧
          (timeline.moment call.index).standing call.thread = some thread ∨
        call.frame.isFirstRun = false ∧ ∃ earlier,
          (timeline.moment call.index).standing call.thread = some earlier ∧
            earlier.target = call.target ∧ earlier.frames = call.frame :: thread.frames) := by
  have piled := timeline.piled initial (Nat.le_of_lt call.within)
  obtain ⟨thread, stands, on, origin⟩ := call.takes.stack (piled.layered call.thread)
  refine ⟨thread, stands, on, ?_, origin⟩
  rw [below, stands]
  rfl

/-- The stack that an invocation finds has the frame of the body at least. -/
theorem Call.below_ne_nil (call : timeline.Call) (initial : Piled start) : call.below ≠ [] := by
  have piled := timeline.piled initial (Nat.le_of_lt call.within)
  obtain ⟨thread, stands, -, frames, -⟩ := call.stands initial
  obtain ⟨earlier, resumed, stood | ⟨-, -, rests⟩⟩ :=
    (call.takes.resumes call.thread).thread piled.orderly.distinct thread stands
  · rw [← frames]
    exact (resumed.layered (piled.layered _ earlier stood)).1.frames_ne_nil
  · rw [← frames]
    exact (resumed.layered (rests.layered _)).1.frames_ne_nil

/-- What a thread holds when a frame was taken up it held before. -/
theorem Call.holds_before (call : timeline.Call) (initial : Piled start)
    (holds : call.taken.Holds id target frame under) :
    (timeline.moment call.index).Holds id target frame under := by
  obtain ⟨thread, stands, on, inside⟩ := holds
  by_cases same : id = call.thread
  · subst same
    obtain ⟨found, lives, onto, -, ⟨-, before⟩ | ⟨-, earlier, before, was, frames⟩⟩ :=
      call.stands initial
    · obtain rfl : found = thread := Option.some.inj (lives.symm.trans stands)
      exact ⟨found, before, on, inside⟩
    · obtain rfl : found = thread := Option.some.inj (lives.symm.trans stands)
      refine ⟨earlier, before, was.trans (onto.symm.trans on), ?_⟩
      rw [frames]
      exact inside.trans (List.suffix_cons _ _)
  · rw [call.takes.standing_other same] at stands
    exact ⟨thread, stands, on, inside⟩

/-- A frame that is no more in its place when another one was taken up is the one that was
taken up. -/
theorem Call.takes_held (call : timeline.Call) (initial : Piled start)
    (held : (timeline.moment call.index).Holds id target frame under)
    (gone : ¬call.taken.Holds id target frame under) :
    call.thread = id ∧ call.target = target ∧ call.frame = frame ∧ call.below = under := by
  obtain ⟨thread, stands, on, inside⟩ := held
  by_cases same : id = call.thread
  · subst same
    obtain ⟨found, lives, onto, rests, ⟨-, before⟩ | ⟨-, earlier, before, was, frames⟩⟩ :=
      call.stands initial
    · obtain rfl : found = thread := Option.some.inj (before.symm.trans stands)
      exact absurd ⟨found, lives, on, inside⟩ gone
    · obtain rfl : earlier = thread := Option.some.inj (before.symm.trans stands)
      rw [frames] at inside
      rcases List.suffix_cons_iff.mp inside with whole | deeper
      · obtain ⟨top, rest⟩ := List.cons.inj whole
        exact ⟨rfl, was.symm.trans on, top.symm, rests.symm.trans rest.symm⟩
      · exact absurd ⟨found, lives, onto.trans (was.symm.trans on), deeper⟩ gone
  · rw [← call.takes.standing_other same] at stands
    exact absurd ⟨thread, stands, on, inside⟩ gone

/-- A frame that is in its place at a moment was left there by the invocation before it, or it
was there before and nobody took it up. -/
theorem held_before (initial : Piled start) (within : index < timeline.length) (some : under ≠ [])
    (holds : (timeline.moment (index + 1)).Holds id target frame under) :
    (∃ call : timeline.Call, call.index = index ∧ call.thread = id ∧ call.target = target ∧
      Yields call.outcome ∧ keptFrame call.outcome = frame ∧ call.below = under) ∨
    (timeline.moment index).Holds id target frame under ∧
      ∀ call : timeline.Call, call.index = index → call.taken.Holds id target frame under := by
  have piled := timeline.piled initial (Nat.le_of_lt within)
  by_cases taken : ∃ call : timeline.Call, call.index = index ∧
      ¬call.taken.Holds id target frame under
  · obtain ⟨call, rfl, gone⟩ := taken
    rw [call.leaves] at holds
    by_cases same : id = call.thread
    · subst same
      obtain ⟨later, lives, on, inside⟩ := holds
      obtain ⟨thread, stands, onto, rests, -⟩ := call.stands initial
      obtain ⟨aim, ⟨yields, frames⟩ | frames⟩ :=
        invoke_stack piled.orderly call.takes stands lives
      · rw [frames] at inside
        rcases List.suffix_cons_iff.mp inside with whole | deeper
        · obtain ⟨top, rest⟩ := List.cons.inj whole
          exact Or.inl ⟨call, rfl, rfl, onto.symm.trans (aim.symm.trans on), yields, top.symm,
            rests.symm.trans rest.symm⟩
        · exact absurd ⟨thread, stands, aim.symm.trans on, deeper⟩ gone
      · rw [frames] at inside
        exact absurd ⟨thread, stands, aim.symm.trans on, inside⟩ gone
    · have spared := invoke_spares call.taken same call.target call.block call.frame
      have distinct := call.takes.keeps.ids.distinct piled.orderly.distinct
      exact absurd (spared.sameStack.holds_before distinct some holds) gone
  · have all : ∀ call : timeline.Call, call.index = index →
        call.taken.Holds id target frame under := by
      intro call at_
      by_contra gone
      exact taken ⟨call, at_, gone⟩
    refine Or.inr ⟨?_, all⟩
    rcases (timeline.turns index within).stacks piled with
      ⟨name, aim, block, top, found, takes, leaves⟩ | keeps
    · let call : timeline.Call := ⟨index, within, name, aim, block, top, found, takes, leaves⟩
      exact call.holds_before initial (all call rfl)
    · exact (keeps id).holds_before piled.orderly.distinct some holds

/-- A frame that nobody took up stays in its place while its thread is active. -/
theorem held_after (initial : Piled start) (within : index < timeline.length)
    (holds : (timeline.moment index).Holds id target frame under)
    (all : ∀ call : timeline.Call, call.index = index → call.taken.Holds id target frame under)
    (lives : (timeline.moment (index + 1)).isLive id = true) :
    (timeline.moment (index + 1)).Holds id target frame under := by
  have piled := timeline.piled initial (Nat.le_of_lt within)
  rcases (timeline.turns index within).stacks piled with
    ⟨name, aim, block, top, found, takes, leaves⟩ | keeps
  · let call : timeline.Call := ⟨index, within, name, aim, block, top, found, takes, leaves⟩
    by_cases same : id = name
    · subst same
      obtain ⟨thread, stands, on, inside⟩ := all call rfl
      rw [leaves] at lives ⊢
      rw [isLive_eq_standing, Option.isSome_iff_exists] at lives
      obtain ⟨later, lives⟩ := lives
      obtain ⟨kept, ⟨-, frames⟩ | frames⟩ := invoke_stack piled.orderly takes stands lives
      · refine ⟨later, lives, kept.trans on, ?_⟩
        rw [frames]
        exact inside.trans (List.suffix_cons _ _)
      · refine ⟨later, lives, kept.trans on, ?_⟩
        rw [frames]
        exact inside
    · rw [leaves] at lives ⊢
      exact (takes.invoke_spares same).sameStack.holds_after piled.orderly holds lives
  · exact (keeps id).holds_after piled.orderly holds lives

/-- A moment is later than one before it. -/
theorem later (timeline : Timeline allowed start) (initial : Piled start) {first second : Nat}
    (order : first ≤ second) (within : second ≤ timeline.length) :
    Later (timeline.moment first) (timeline.moment second) := by
  induction second with
  | zero =>
    obtain rfl : first = 0 := by omega
    exact .refl _
  | succ second inductionHypothesis =>
    by_cases same : first = second + 1
    · subst same
      exact .refl _
    · have inside : second ≤ timeline.length := by omega
      have orderly := (timeline.piled initial inside).orderly
      have turn := ((timeline.turns second (by omega)).advances orderly).2
      exact (inductionHypothesis (by omega) (by omega)).trans turn

end Moments

section Waiting

/-- The frame that was kept is that of the same call, and it waits. -/
theorem Call.keptFrame_eq (call : timeline.Call) :
    keptFrame call.outcome =
      { call.frame with state := .waiting, notes := call.outcome.2.frame.notes } := by
  have works := Block.run_works call.block call.frame.args
    ⟨call.taken.noteInvocation call.thread call.target call.frame, call.thread, call.target,
      call.frame, false⟩
  have opcode : call.outcome.2.frame.opcode = call.frame.opcode := works.opcode
  have args : call.outcome.2.frame.args = call.frame.args := works.args
  have token : call.outcome.2.frame.token = call.frame.token := works.token
  rw [keptFrame, opcode, args, token]

/-- Invocations of one opcode are invocations of one block. -/
theorem Call.block_eq {earlier later : timeline.Call} (initial : Piled start)
    (same : later.frame.opcode = earlier.frame.opcode) : later.block = earlier.block := by
  have first := earlier.takes.known
  have second := later.takes.known
  rw [timeline.registry initial (Nat.le_of_lt earlier.within)] at first
  rw [timeline.registry initial (Nat.le_of_lt later.within), same] at second
  exact Option.some.inj (second.symm.trans first)

/-- Who takes up the frame that waits invokes the call again. -/
theorem Call.Waits.again {earlier later : timeline.Call} (initial : Piled start)
    (yields : Yields earlier.outcome) (after : earlier.index < later.index)
    (waits : earlier.Waits later.index) (thread : later.thread = earlier.thread)
    (target : later.target = earlier.target) (frame : later.frame = keptFrame earlier.outcome)
    (below : later.below = earlier.below) : earlier.Again later := by
  refine ⟨yields, after, waits, thread, target, block_eq initial ?_, frame, below⟩
  rw [frame, earlier.keptFrame_eq]

/-- A frame that is there at the next moment, and was not taken up, waits on. -/
theorem Call.Waits.extend {call : timeline.Call} (waits : call.Waits index)
    (holds : (timeline.moment (index + 1)).Holds call.thread call.target (keptFrame call.outcome)
      call.below)
    (all : ∀ other : timeline.Call, other.index = index →
      other.taken.Holds call.thread call.target (keptFrame call.outcome) call.below) :
    call.Waits (index + 1) := by
  constructor
  · intro moment after until_
    by_cases last : moment = index + 1
    · exact last ▸ holds
    · exact waits.held moment after (by omega)
  · intro other after until_
    by_cases last : other.index = index
    · exact all other last
    · exact waits.untouched other after (by omega)

/-- Right behind its invocation a frame waits if it is there. -/
theorem Call.waits_next {call : timeline.Call}
    (holds : (timeline.moment (call.index + 1)).Holds call.thread call.target
      (keptFrame call.outcome) call.below) : call.Waits (call.index + 1) := by
  constructor
  · intro moment after until_
    obtain rfl : moment = call.index + 1 := by omega
    exact holds
  · intro other after until_
    omega

/-- Every frame above that of a body was left there by an invocation, and waits since. -/
theorem exists_waits (initial : Piled start) (bare : ∀ id, start.standing id = none)
    (within : index ≤ timeline.length) (some : under ≠ [])
    (holds : (timeline.moment index).Holds id target frame under) :
    ∃ call : timeline.Call, call.index < index ∧ call.thread = id ∧ call.target = target ∧
      Yields call.outcome ∧ keptFrame call.outcome = frame ∧ call.below = under ∧
      call.Waits index := by
  induction index with
  | zero =>
    obtain ⟨thread, stands, -⟩ := holds
    rw [timeline.starts, bare] at stands
    cases stands
  | succ index inductionHypothesis =>
    rcases held_before initial (by omega) some holds with
      ⟨call, rfl, rfl, rfl, yields, rfl, rfl⟩ | ⟨before, all⟩
    · exact ⟨call, by omega, rfl, rfl, yields, rfl, rfl, call.waits_next holds⟩
    · obtain ⟨call, earlier, rfl, rfl, yields, rfl, rfl, waits⟩ :=
        inductionHypothesis (by omega) before
      exact ⟨call, by omega, rfl, rfl, yields, rfl, rfl, waits.extend holds all⟩

/-- An invocation that is not the first of a call follows another one. -/
theorem Call.exists_again (initial : Piled start) (bare : ∀ id, start.standing id = none)
    (later : timeline.Call) (resumed : later.frame.isFirstRun = false) :
    ∃ earlier : timeline.Call, earlier.Again later := by
  obtain ⟨thread, stands, on, rests, ⟨first, -⟩ | ⟨-, found, before, was, frames⟩⟩ :=
    later.stands initial
  · rw [resumed] at first
    cases first
  · have holds : (timeline.moment later.index).Holds later.thread later.target later.frame
        later.below := by
      refine ⟨found, before, was, ?_⟩
      simp only [frames, rests, List.suffix_refl]
    obtain ⟨earlier, order, sameThread, sameTarget, yields, frame, below, waits⟩ :=
      exists_waits initial bare (Nat.le_of_lt later.within) (later.below_ne_nil initial) holds
    exact ⟨earlier, waits.again initial yields order sameThread.symm sameTarget.symm frame.symm
      below.symm⟩

/-- Every call goes back to an invocation with a frame that was new. -/
theorem Call.exists_first (initial : Piled start) (bare : ∀ id, start.standing id = none)
    (call : timeline.Call) : ∃ first : timeline.Call, first.frame.isFirstRun = true ∧
      Relation.ReflTransGen Again first call := by
  induction size : call.index using Nat.strongRecOn generalizing call with
  | ind index inductionHypothesis =>
    subst size
    cases run : call.frame.isFirstRun with
    | true => exact ⟨call, run, .refl⟩
    | false =>
      obtain ⟨earlier, again⟩ := call.exists_again initial bare run
      obtain ⟨first, new, chain⟩ := inductionHypothesis earlier.index again.after earlier rfl
      exact ⟨first, new, chain.tail again⟩

/-- A block that asks to be invoked again leaves its frame on the stack if the thread lives. -/
theorem Call.holds_left (call : timeline.Call) (initial : Piled start)
    (yields : Yields call.outcome)
    (lives : (timeline.moment (call.index + 1)).isLive call.thread = true) :
    (timeline.moment (call.index + 1)).Holds call.thread call.target (keptFrame call.outcome)
      call.below := by
  have orderly := (timeline.piled initial (Nat.le_of_lt call.within)).orderly
  obtain ⟨thread, stands, on, rests, -⟩ := call.stands initial
  rw [isLive_eq_standing, Option.isSome_iff_exists] at lives
  obtain ⟨later, lives⟩ := lives
  refine ⟨later, lives, ?_⟩
  rw [call.leaves, yields.invoke, standing_suspend] at lives
  obtain ⟨found, stood, rfl⟩ := Option.map_eq_some_iff.mp lives
  obtain rfl := blockOutcome_standing orderly call.takes stands stood
  constructor
  · exact (Thread.setStatus_leads _ (by decide)).target.trans on
  · rw [Thread.setStatus_frames, Thread.push, rests]
    exact List.suffix_refl _

/-- Whoever lives at a moment lived at the one before it, if it was known. -/
theorem live_before (initial : Piled start) (call : timeline.Call) (order : call.index ≤ index)
    (within : index < timeline.length)
    (lives : (timeline.moment (index + 1)).isLive call.thread = true) :
    (timeline.moment index).isLive call.thread = true := by
  have orderly := (timeline.piled initial (Nat.le_of_lt call.within)).orderly
  have issued : (timeline.moment call.index).ids.Issued call.thread.text := by
    have live := call.takes.live
    rw [isLive_eq_standing, Option.isSome_iff_exists] at live
    obtain ⟨thread, stands⟩ := live
    exact orderly.issued call.thread thread (standing_eq_some.mp stands).1
  have known := (timeline.later initial order (Nat.le_of_lt within)).ids.issued_of issued
  have turn := timeline.later initial (Nat.le_succ index) within
  by_contra dead
  rw [Bool.not_eq_true] at dead
  rw [turn.dead call.thread known dead] at lives
  cases lives

/-- The frame that a block left waits in its place while its thread lives, until it is taken up
for the next invocation of the call. -/
theorem Call.waits_or_again (initial : Piled start) (call : timeline.Call)
    (yields : Yields call.outcome) (after : call.index < index) (within : index ≤ timeline.length)
    (lives : (timeline.moment index).isLive call.thread = true) :
    call.Waits index ∨ ∃ next : timeline.Call, call.Again next ∧ next.index < index := by
  induction index with
  | zero => omega
  | succ index inductionHypothesis =>
    by_cases first : call.index = index
    · subst first
      exact Or.inl (call.waits_next (call.holds_left initial yields lives))
    have before := live_before initial call (by omega) within lives
    rcases inductionHypothesis (by omega) (by omega) before with waits | ⟨next, again, earlier⟩
    · have holds := waits.held index (by omega) (Nat.le_refl index)
      by_cases taken : ∃ other : timeline.Call, other.index = index ∧
          ¬other.taken.Holds call.thread call.target (keptFrame call.outcome) call.below
      · obtain ⟨next, rfl, gone⟩ := taken
        obtain ⟨thread, target, frame, below⟩ := next.takes_held initial holds gone
        have order : call.index < next.index := by omega
        exact Or.inr ⟨next, waits.again initial yields order thread target frame below, by omega⟩
      · have all : ∀ other : timeline.Call, other.index = index →
            other.taken.Holds call.thread call.target (keptFrame call.outcome) call.below := by
          intro other at_
          by_contra gone
          exact taken ⟨other, at_, gone⟩
        exact Or.inl (waits.extend (held_after initial within holds all lives) all)
    · exact Or.inr ⟨next, again, by omega⟩

end Waiting

section Replaying

/-- Two invocations of one call: what is called, for whom, and with what. -/
structure Call.Same (earlier later : timeline.Call) : Prop where
  thread : later.thread = earlier.thread
  target : later.target = earlier.target
  block : later.block = earlier.block
  opcode : later.frame.opcode = earlier.frame.opcode
  args : later.frame.args = earlier.frame.args
  token : later.frame.token = earlier.frame.token

/-- Invocations that are of one call with a third are of one call. -/
theorem Call.Same.trans {first second third : timeline.Call} (before : first.Same second)
    (after : second.Same third) : first.Same third :=
  ⟨after.thread.trans before.thread, after.target.trans before.target,
    after.block.trans before.block, after.opcode.trans before.opcode,
    after.args.trans before.args, after.token.trans before.token⟩

/-- An invocation that follows another one repeats it, and is not a first one. -/
theorem Call.Again.same {earlier later : timeline.Call} (again : earlier.Again later) :
    earlier.Same later ∧ later.frame.isFirstRun = false := by
  have frame := again.frame
  rw [earlier.keptFrame_eq] at frame
  constructor
  · constructor
    · exact again.thread
    · exact again.target
    · exact again.block
    · rw [frame]
    · rw [frame]
    · rw [frame]
  · rw [frame]
    rfl

/-- At most one invocation is the next one. -/
theorem Call.Again.index_le {call one other : timeline.Call} (initial : Piled start)
    (again : call.Again one) (next : call.Again other) : other.index ≤ one.index := by
  by_contra order
  -- The frame would still be in its place behind the invocation that took it up.
  obtain ⟨thread, lives, -, inside⟩ := next.waits.untouched one again.after (by omega)
  obtain ⟨found, stands, -, frames, -⟩ := one.stands initial
  rw [again.thread] at stands
  obtain rfl : found = thread := Option.some.inj (stands.symm.trans lives)
  rw [frames, again.below] at inside
  have short := inside.length_le
  simp only [List.length_cons] at short
  omega

/-- How the invocations of a run belong together. -/
structure Replays (timeline : Timeline allowed start) : Prop where
  /-- Every invocation that follows another one of its call is made for the same thread and
  target, with the opcode, arguments and token of that one, and is not a first run. -/
  same : ∀ earlier later : timeline.Call, Relation.TransGen Call.Again earlier later →
    earlier.Same later ∧ later.frame.isFirstRun = false
  /-- It has the notes that the one before it left. -/
  notes : ∀ earlier later : timeline.Call, earlier.Again later →
    later.frame.notes = earlier.outcome.2.frame.notes
  /-- Every invocation is a first run or follows one. -/
  first : ∀ call : timeline.Call, ∃ first : timeline.Call, first.frame.isFirstRun = true ∧
    Relation.ReflTransGen Call.Again first call
  /-- While its thread is active a call that yielded waits or has been invoked again. -/
  next : ∀ call : timeline.Call, Yields call.outcome → ∀ index, call.index < index →
    index ≤ timeline.length → (timeline.moment index).isLive call.thread = true →
    call.Waits index ∨ ∃ next : timeline.Call, call.Again next ∧ next.index < index
  /-- The next invocation of a call is one. -/
  single : ∀ call one other : timeline.Call, call.Again one → call.Again other →
    one.index = other.index

/-- In every run the invocations of a call replay it. -/
theorem replays (timeline : Timeline allowed start) (initial : Piled start)
    (bare : ∀ id, start.standing id = none) : timeline.Replays where
  same earlier later chain := by
    induction chain with
    | single again => exact again.same
    | tail _ again inductionHypothesis =>
      exact ⟨inductionHypothesis.1.trans again.same.1, again.same.2⟩
  notes earlier later again := by
    rw [again.frame]
    rfl
  first call := call.exists_first initial bare
  next call yields _ after within lives :=
    call.waits_or_again initial yields after within lives
  single call one other again next :=
    Nat.le_antisymm (next.index_le initial again) (again.index_le initial next)

/-- Every run of operations is a timeline. -/
theorem exists_of_run (scheduler : Scheduler τ α) (operations : List (Operation τ α)) :
    ∃ timeline : Timeline (fun _ _ => True) scheduler,
      timeline.moment timeline.length = scheduler.run operations := by
  have moments : Moments (fun _ _ => True) scheduler (scheduler.run operations) :=
    run_moments operations scheduler fun _ _ => trivial
  exact exists_of_moments moments

end Replaying

end Timeline

end Scheduler

end SpriteMachine
