import SpriteMachine.Proofs.Block.Effect

/-!
# Blocks that wait for threads

A block that waits starts the scripts of a hat when it is invoked first, and notes the
threads that were started. While one of them is live it asks to be invoked again; otherwise
it completes. So what it does later is decided by the threads that it noted at first.
-/

namespace SpriteMachine

variable {τ α : Type} [Scalar α] [Transport τ α]

namespace Invocation

variable {invocation : Invocation τ α} {hat : String} {filter : HatFilter}

/-- The threads for which a block waits are noted: they are started now, or they were at its
first invocation. -/
inductive Opens (invocation : Invocation τ α) (hat : String) (filter : HatFilter) :
    Invocation τ α → Prop where
  | first {started : List ThreadId} {scheduler : Scheduler τ α}
      (new : invocation.frame.isFirstRun = true)
      (starts : invocation.scheduler.startHats hat filter = (.ok started, scheduler)) :
      Opens invocation hat filter
        ({ invocation with scheduler := scheduler }.withNotes fun notes =>
          { notes with spawned := notes.spawned ++ started })
  | again (known : invocation.frame.isFirstRun = false) : Opens invocation hat filter invocation

/-- How a wait for the scripts of a hat goes. -/
inductive Awaits (invocation : Invocation τ α) (hat : String) (filter : HatFilter) :
    Except BlockFault (Option (List ThreadId)) × Invocation τ α → Prop where
  | refused {fault : SchedulerFault} {scheduler : Scheduler τ α}
      (new : invocation.frame.isFirstRun = true)
      (refuses : invocation.scheduler.startHats hat filter = (.error fault, scheduler)) :
      Awaits invocation hat filter
        (.error (.failed fault.message), { invocation with scheduler := scheduler })
  | waits {opened : Invocation τ α} (opens : Opens invocation hat filter opened)
      (waiting : opened.isWaiting = true) :
      Awaits invocation hat filter (.ok none, opened.yieldThread)
  | settles {opened : Invocation τ α} (opens : Opens invocation hat filter opened)
      (settled : opened.isWaiting = false) :
      Awaits invocation hat filter (.ok (some opened.frame.notes.spawned), opened)

omit [Scalar α] in
/-- Waiting for hats starts them once, notes the threads and waits until none of them is live. -/
theorem awaitHats_awaits (invocation : Invocation τ α) (hat : String) (filter : HatFilter) :
    Awaits invocation hat filter (invocation.awaitHats hat filter) := by
  have settles : ∀ opened, Opens invocation hat filter opened → Awaits invocation hat filter
      (if opened.isWaiting then (.ok none, opened.yieldThread)
        else (.ok (some opened.frame.notes.spawned), opened)) := by
    intro opened opens
    split
    case isTrue waiting => exact .waits opens waiting
    case isFalse settled => exact .settles opens (by simpa using settled)
  unfold awaitHats startHats
  dsimp only
  split
  case isTrue new =>
    cases starts : invocation.scheduler.startHats hat filter with
    | mk result scheduler =>
      cases result with
      | error fault => exact .refused new starts
      | ok started => exact settles _ (.first new starts)
  case isFalse known => exact settles invocation (.again (by simpa using known))

omit [Scalar α] in
/-- Noting the threads asks for no further invocation. -/
theorem Opens.yielded {opened : Invocation τ α} (opens : Opens invocation hat filter opened) :
    opened.yielded = invocation.yielded := by
  cases opens <;> rfl

end Invocation

/-- The hat whose scripts a block starts and for whose threads it waits. -/
def Block.awaited? (block : Block) (args : Args α) (target : TargetId) :
    Option (String × HatFilter) :=
  match block with
  | .event .broadcastAndWait => some (broadcastHat, ⟨some (args.text "BROADCAST_OPTION"), none⟩)
  | .procedure .call => some (procedureHat, ⟨some (args.text "PROCCODE"), some target⟩)
  | .procedure .callForValue =>
    some (reportingProcedureHat, ⟨some (args.text "PROCCODE"), some target⟩)
  | _ => none

/-- A block waits, or it tends to other things, or it reports; probes may do anything. -/
theorem Block.kinds {block : Block} (unprobed : ∀ probe, block ≠ .probe probe) (args : Args α)
    (target : TargetId) :
    (∃ hat filter, block.awaited? args target = some (hat, filter)) ∨
      block.IsTending ∧ (∀ target, block.awaited? args target = none) ∨
      block = .procedure .report := by
  cases block with
  | event block =>
    cases block with
    | broadcast => exact Or.inr (Or.inl ⟨trivial, fun _ => rfl⟩)
    | broadcastAndWait => exact Or.inl ⟨_, _, rfl⟩
  | procedure block =>
    cases block with
    | report => exact Or.inr (Or.inr rfl)
    | _ => exact Or.inl ⟨_, _, rfl⟩
  | probe probe => exact absurd rfl (unprobed probe)
  | _ => exact Or.inr (Or.inl ⟨trivial, fun _ => rfl⟩)

/-- What a block does once the threads have ended for which it waited: a call for a value
collects what they reported. -/
def Block.settle (block : Block) (invocation : Invocation τ α) : Value α × Invocation τ α :=
  match block with
  | .procedure .callForValue =>
    match ProcedureBlock.collect invocation none invocation.frame.notes.spawned with
    | (value, left) => (value.getD (.text ""), left)
  | _ => (.null, invocation)

omit [Scalar α] [Transport τ α] in
/-- Collecting the values of callees does not ask to be invoked again. -/
theorem collect_yielded (invocation : Invocation τ α) (found : Option (Value α))
    (callees : List ThreadId) :
    (ProcedureBlock.collect invocation found callees).2.yielded = invocation.yielded := by
  induction callees generalizing invocation found with
  | nil => rfl
  | cons callee rest inductionHypothesis =>
    unfold ProcedureBlock.collect
    dsimp only
    rw [inductionHypothesis]

omit [Scalar α] [Transport τ α] in
/-- A block that has waited does not ask to be invoked again. -/
theorem Block.settle_yielded (block : Block) (invocation : Invocation τ α) :
    (block.settle invocation).2.yielded = invocation.yielded := by
  unfold Block.settle
  split
  case h_1 => exact collect_yielded invocation none invocation.frame.notes.spawned
  case h_2 => rfl

/-- What is left of the invocation of a block that waits. -/
inductive Block.Awaits (block : Block) (invocation : Invocation τ α) (hat : String)
    (filter : HatFilter) : BlockResult τ α → Prop where
  | refused {fault : SchedulerFault} {scheduler : Scheduler τ α}
      (new : invocation.frame.isFirstRun = true)
      (refuses : invocation.scheduler.startHats hat filter = (.error fault, scheduler)) :
      Awaits block invocation hat filter
        (.error (.failed fault.message), { invocation with scheduler := scheduler })
  | waits {opened : Invocation τ α} (opens : invocation.Opens hat filter opened)
      (waiting : opened.isWaiting = true) :
      Awaits block invocation hat filter (.ok .null, opened.yieldThread)
  | settles {opened : Invocation τ α} (opens : invocation.Opens hat filter opened)
      (settled : opened.isWaiting = false) :
      Awaits block invocation hat filter (.ok (block.settle opened).1, (block.settle opened).2)

/-- A block that waits does nothing else. -/
theorem Block.run_awaits {block : Block} {args : Args α} {invocation : Invocation τ α}
    {hat : String} {filter : HatFilter}
    (awaited : block.awaited? args invocation.target = some (hat, filter)) :
    block.Awaits invocation hat filter (block.run args invocation) := by
  have awaits := invocation.awaitHats_awaits hat filter
  unfold Block.awaited? at awaited
  split at awaited
  case h_4 => cases awaited
  all_goals
    obtain ⟨rfl, rfl⟩ := Prod.mk.inj (Option.some.inj awaited)
    simp only [Block.run, EventBlock.run, ProcedureBlock.run, ProcedureBlock.callUnder]
    generalize invocation.awaitHats _ _ = result at awaits ⊢
    cases awaits with
    | refused new refuses => exact .refused new refuses
    | waits opens waiting => exact .waits opens waiting
    | settles opens settled => exact .settles opens settled

end SpriteMachine
