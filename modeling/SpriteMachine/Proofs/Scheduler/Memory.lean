import SpriteMachine.Proofs.Scheduler.Moment

/-!
# Nobody remembered is live

A host remembers only threads that it retired, as its chronicle shows. Since a retired thread is
not live any more, what is held against a live thread is never excused.
-/

namespace SpriteMachine.Scheduler

variable {τ α : Type} {before after scheduler : Scheduler τ α}

/-- Whoever is remembered was retired. -/
def Recollects (scheduler : Scheduler τ α) : Prop :=
  ∀ id ∈ scheduler.retired, .retired id ∈ scheduler.chronicle

namespace Recollects

/-- Nobody is retired, and no deed is forgotten. -/
theorem still (recollects : Recollects before) (retired : after.retired = before.retired)
    (chronicle : ∀ deed ∈ before.chronicle, deed ∈ after.chronicle) : Recollects after := by
  intro id remembered
  rw [retired] at remembered
  exact chronicle _ (recollects id remembered)

/-- Only the remembered and the chronicle matter. -/
theorem same (recollects : Recollects before) (retired : after.retired = before.retired)
    (chronicle : after.chronicle = before.chronicle) : Recollects after :=
  recollects.still retired fun _ mem => chronicle ▸ mem

/-- A thread is retired, and an older one may be forgotten for it. -/
theorem retire (recollects : Recollects scheduler) (id : ThreadId) :
    Recollects (scheduler.retire id) := by
  intro other remembered
  have among := List.mem_of_mem_drop remembered
  by_cases same : other = id
  case pos => rw [same]; exact List.mem_cons_self
  case neg =>
    have older : other ∈ scheduler.retired := by
      split at among
      case isTrue => exact among
      case isFalse =>
        rcases List.mem_append.mp among with older | newest
        · exact older
        · exact absurd (List.mem_singleton.mp newest) same
    exact List.mem_cons_of_mem _ (recollects other older)

/-- Whoever is retired is remembered for having been retired, also one of several. -/
theorem retireAll (recollects : Recollects scheduler) (ids : List ThreadId) :
    Recollects (scheduler.retireAll ids) := by
  induction ids generalizing scheduler with
  | nil => exact recollects
  | cons first rest inductionHypothesis => exact inductionHypothesis (recollects.retire first)

/-- The end of a thread makes nobody remembered. -/
theorem endThread (recollects : Recollects scheduler) (id : ThreadId) :
    Recollects (scheduler.endThread id).2 := by
  unfold Scheduler.endThread
  split
  case isTrue => exact recollects.still rfl fun _ mem => List.mem_cons_of_mem _ mem
  case isFalse => exact recollects

end Recollects

/-- Nobody remembered is live. -/
theorem Orderly.not_remembered (orderly : Orderly scheduler) (recollects : Recollects scheduler)
    {id : ThreadId} (live : scheduler.isLive id = true) : id ∉ scheduler.retired := by
  intro remembered
  rw [orderly.ended _ (recollects id remembered) id (.inr rfl)] at live
  cases live

variable [Transport τ α]

/-- A stroke makes nobody remembered but those it retires. -/
theorem Stroke.recollects (stroke : Stroke before after) (recollects : Recollects before) :
    Recollects after := by
  cases stroke with
  | quiet quiet => exact recollects.same quiet.retired quiet.chronicle
  | retire id => exact recollects.retire id
  | finish id => exact recollects.endThread id
  | clear | adopt | tell | ask => exact recollects.same rfl rfl

/-- Strokes make nobody remembered but those they retire. -/
theorem Strokes.recollects (strokes : Strokes before after) (recollects : Recollects before) :
    Recollects after := by
  induction strokes with
  | refl => exact recollects
  | tail _ stroke inductionHypothesis => exact stroke.recollects inductionHypothesis

variable [Scalar α]

/-- Every beat remembers only who was retired. -/
theorem Beat.recollects {before after : Instant τ α} (beat : Beat before after)
    (recollects : Recollects before.scheduler) : Recollects after.scheduler := by
  cases beat with
  | act act => exact act.strokes.recollects recollects
  | note => exact recollects.still rfl fun _ mem => List.mem_cons_of_mem _ mem
  | answer scheduler id frame reply =>
    obtain ⟨bridge, same⟩ := answer_bridge scheduler frame.token reply
    exact recollects.same (by rw [same]) (by rw [same])
  | retire scheduler id => exact recollects.retire id
  | @ended scheduler id bridge =>
    have heard : Recollects { scheduler with bridge := bridge } := recollects
    exact heard.endThread id
  | _ => exact recollects.same rfl rfl

/-- The beats of a tick make nobody remembered but those they retire. -/
theorem Beats.recollects {before after : Instant τ α} (beats : Beats before after)
    (recollects : Recollects before.scheduler) : Recollects after.scheduler := by
  induction beats with
  | refl => exact recollects
  | tail _ beat inductionHypothesis => exact beat.recollects inductionHypothesis

namespace Recollects

omit [Scalar α] in
/-- To open a backend makes nobody remembered. -/
theorem openBackend (recollects : Recollects scheduler) (url : String) :
    Recollects (scheduler.openBackend url).2 := by
  unfold Scheduler.openBackend
  split
  case h_1 => exact recollects
  case h_2 => split <;> exact recollects

/-- To load scripts makes nobody remembered but those it retires. -/
theorem loadScripts (recollects : Recollects scheduler) (batch : Batch) :
    Recollects (scheduler.loadScripts batch).2 := by
  have quiet := linkKnown_quiet scheduler batch
  have named := recollects.same quiet.retired quiet.chronicle
  unfold Scheduler.loadScripts
  split
  case h_1 fault left result =>
    rw [result] at named
    exact named
  case h_2 linked left result =>
    rw [result] at named
    have registered (bridge : Bridge τ α) : Recollects { left with bridge := bridge } := named
    split
    case h_1 => exact registered _
    case h_2 => exact (registered _).retireAll _

/-- To run a batch at once makes nobody remembered but those it retires. -/
theorem runBatch (recollects : Recollects scheduler) (batch : Batch) :
    Recollects (scheduler.runBatch batch).2 := by
  have quiet := linkKnown_quiet scheduler batch
  have named := recollects.same quiet.retired quiet.chronicle
  unfold Scheduler.runBatch
  split
  case h_1 fault left result =>
    rw [result] at named
    exact named
  case h_2 linked left result =>
    rw [result] at named
    have adopted := (adoptAll_strokes linked.registrations.entries left).recollects named
    generalize left.adoptAll linked.registrations.entries = registered at adopted
    obtain ⟨starts, adopting⟩ := registered
    have posted (bridge : Bridge τ α) : Recollects { adopting with bridge := bridge } := adopted
    dsimp only
    split
    case h_1 => exact (posted _).retireAll _
    case h_2 => exact posted _

/-- A block that the host executes makes nobody remembered but those it retires. -/
theorem execute (recollects : Recollects scheduler) (id : ThreadId) (opcode : String)
    (args : Args α) (token : Option Token) :
    Recollects (scheduler.call id opcode args token).2 := by
  obtain ⟨fault, -, -, failed⟩ | ⟨target, block, live, known, calls⟩ :=
    call_cases scheduler id opcode args token
  · rw [failed]
    exact recollects
  · rw [calls]
    exact (invoke_beats target block (.fresh opcode args token) live known []).recollects recollects

/-- Every operation remembers only who was retired. -/
theorem perform (recollects : Recollects scheduler) (operation : Operation τ α) :
    Recollects (scheduler.perform operation) := by
  have rhythmic (regular : IsRhythmic operation) : Recollects (scheduler.perform operation) := by
    obtain ⟨faults, beats⟩ := perform_beats scheduler regular
    exact beats.recollects recollects
  cases operation with
  | openBackend url => exact recollects.openBackend url
  | loadScripts batch => exact recollects.loadScripts batch
  | runBatch batch => exact recollects.runBatch batch
  | registerThread target hasListener =>
    exact (addThread_stroke scheduler target hasListener).recollects recollects
  | endThread thread => exact recollects.endThread thread
  | execute thread opcode args token => exact recollects.execute thread opcode args token
  | quit | changeStage | changeDevices | changeBridge => exact recollects
  | _ => exact rhythmic trivial

end Recollects

/-- Whatever is done with a scheduler, it remembers only who was retired. -/
theorem run_recollects (config : SchedulerConfig) (registry : Registry) (transport : τ)
    (ids : IdSource) (motors : Motors (LoopbackLink α) α) (operations : List (Operation τ α)) :
    Recollects ((fresh config registry transport ids motors).run operations) :=
  run_induction (fun _ operation (_ : True) recollects => recollects.perform operation)
    (fun _ remembered => by cases remembered) fun _ _ => trivial

end SpriteMachine.Scheduler
