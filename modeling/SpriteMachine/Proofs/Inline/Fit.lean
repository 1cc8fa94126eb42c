import SpriteMachine.Proofs.Inline.Request
import SpriteMachine.Proofs.Scheduler.Standing

/-!
# How a thread's two sides fit together

A thread has a side on the host, where it stands with a stack of frames, and a side in
the worker, where it has a seat; between them is the queue of messages that the host has
not dealt with. The two sides fit when exactly one of them is to move next: a call waits
in the queue, or the host holds the frame of a call, or the last message about the thread
is queued. While the host invokes a block for a thread it holds the call in its hand, and
the call is on no stack.
-/

namespace SpriteMachine

variable {α : Type}

/-- A thread waits on the host with the frame of a call above its body. -/
def Waits (registry : Registry) (thread : Thread α) (token : Token) : Prop :=
  thread.status = .yielding ∧ ∃ frame name, thread.frames = [frame, .body name] ∧
    frame.token = some token ∧ registry.hasBlock frame.opcode = true

/-- The two sides of a thread fit. `hand` is the call that the host is just dealing with
on behalf of the thread. -/
inductive Fits (registry : Registry) (id : ThreadId) :
    Option Token → Option (Thread α) → Seat α → List (WorkerMessage α) → Prop where
  | gone (hand : Option Token) (queued : List (WorkerMessage α)) :
      Fits registry id hand none .vacant queued
  | called {thread : Thread α} (rests : thread.Rests) (running : RunningThread α)
      (token : Token) (deadline : Option Nat) (target : TargetId) (opcode : String)
      (args : Args α) :
      Fits registry id none (some thread) ⟨some running, [(token, deadline)]⟩
        [.call target id opcode args token]
  | yielded {thread : Thread α} {token : Token} (waits : Waits registry thread token)
      (running : RunningThread α) (deadline : Option Nat) :
      Fits registry id none (some thread) ⟨some running, [(token, deadline)]⟩ []
  | held {thread : Thread α} (rests : thread.Rests) (running : RunningThread α)
      (token : Token) (deadline : Option Nat) :
      Fits registry id (some token) (some thread) ⟨some running, [(token, deadline)]⟩ []
  | closed {thread : Thread α} (hand : Option Token) (rests : thread.Rests)
      {message : WorkerMessage α} (last : ScriptWorker.IsLast id message) :
      Fits registry id hand (some thread) .vacant [message]
  | stranded {thread : Thread α} {token : Token} (waits : Waits registry thread token)
      {message : WorkerMessage α} (last : ScriptWorker.IsLast id message) :
      Fits registry id none (some thread) .vacant [message]

/-- A thread that does not stand has no seat. -/
theorem Fits.vacant {registry : Registry} {id : ThreadId} {hand : Option Token} {seat : Seat α}
    {queued : List (WorkerMessage α)} (fits : Fits registry id hand none seat queued) :
    seat = .vacant := by
  cases fits with
  | gone => rfl

/-- A resting thread fits behind its arrival in the worker. -/
theorem fits_of_arrived {registry : Registry} {id : ThreadId} {thread : Thread α} {seat : Seat α}
    {told : List (WorkerMessage α)} (rests : thread.Rests)
    (arrived : ScriptWorker.Arrived id seat told) :
    Fits registry id none (some thread) seat told := by
  cases arrived with
  | called running token deadline target opcode args =>
    exact .called rests running token deadline target opcode args
  | closed last => exact .closed none rests last

namespace ScriptWorker

/-- A token was issued for calls of one thread only. -/
def Traced (worker : ScriptWorker α) (id : ThreadId) (token : Token) : Prop :=
  worker.tokens.HasIssued token ∧ ∀ other, worker.Owns token other → other = id

/-- A traced token stays traced. -/
theorem Traced.moves {touched : ThreadId → Prop} {before after : ScriptWorker α}
    {sent : List (WorkerMessage α)} {id : ThreadId} {token : Token}
    (traced : before.Traced id token) (moves : Moves touched before sent after) :
    after.Traced id token := by
  refine ⟨moves.issued token traced.1, fun other owns => ?_⟩
  obtain ⟨deadline, member⟩ := owns_iff.mp owns
  rcases moves.calls other (token, deadline) member with old | new
  · exact traced.2 other (owns_iff.mpr ⟨deadline, old⟩)
  · exact absurd traced.1 new

/-- The token of a pending call is traced to its thread. -/
theorem traced_of_owns {worker : ScriptWorker α} (numbered : worker.Numbered) {id : ThreadId}
    {token : Token} (owns : worker.Owns token id) : worker.Traced id token := by
  obtain ⟨deadline, found⟩ := owns
  refine ⟨numbered token _ found, ?_⟩
  rintro other ⟨_, foundOther⟩
  rw [found] at foundOther
  exact (congrArg Awaited.continuation (Option.some.inj foundOther)).symm

end ScriptWorker

namespace Scheduler

/-- The worker beside a scheduler. -/
def worker (scheduler : Scheduler (Inline α) α) : ScriptWorker α :=
  scheduler.bridge.transport.worker

/-- What the worker has sent and the host has not dealt with. -/
def queue (scheduler : Scheduler (Inline α) α) : List (WorkerMessage α) :=
  scheduler.bridge.backlog ++ scheduler.bridge.transport.outbox

/-- The call in hand, if it is one of a thread. -/
def carried (hand : Option (ThreadId × Token)) (id : ThreadId) : Option Token :=
  hand.bind fun call => if call.1 = id then some call.2 else none

/-- Host and worker agree on every thread but the loose ones. -/
structure Sound (hand : Option (ThreadId × Token)) (loose : ThreadId → Prop)
    (scheduler : Scheduler (Inline α) α) : Prop where
  orderly : Orderly scheduler
  keyed : scheduler.stage.Keyed
  strict : scheduler.config.endFaultedThreads = true
  patient : 0 < scheduler.bridge.timeout
  numbered : scheduler.worker.Numbered
  fits : ∀ id, ¬ loose id → Fits scheduler.registry id (carried hand id)
    (scheduler.standing id) (scheduler.worker.seat id) (about id scheduler.queue)
  unasked : replies scheduler.queue = []
  known : ∀ id, about id scheduler.queue ≠ [] → scheduler.ids.Issued id.text
  calls : ∀ target id opcode args token,
    .call target id opcode args token ∈ scheduler.queue → scheduler.worker.Traced id token
  frames : ∀ id thread token, scheduler.standing id = some thread →
    Waits scheduler.registry thread token → scheduler.worker.Traced id token
  inHand : ∀ id token, hand = some (id, token) →
    scheduler.ids.Issued id.text ∧ scheduler.worker.Traced id token

/-- No thread is loose. -/
def tight : ThreadId → Prop := fun _ => False

variable {before after : Scheduler (Inline α) α} {hand : Option (ThreadId × Token)}
  {loose : ThreadId → Prop}

/-- More threads may be called loose than are. -/
theorem Sound.loosen {later : ThreadId → Prop} (sound : Sound hand loose before)
    (within : ∀ id, loose id → later id) : Sound hand later before :=
  { sound with fits := fun id tied => sound.fits id fun untied => tied (within id untied) }

/-- A thread that does not stand has no seat, if its sides fit. -/
theorem Sound.vacant (sound : Sound hand loose before) {id : ThreadId} (tied : ¬ loose id)
    (gone : before.standing id = none) : before.worker.seat id = .vacant := by
  have fits := sound.fits id tied
  rw [gone] at fits
  exact fits.vacant

/-- A name that was not issued is nobody's. -/
theorem Sound.unissued (sound : Sound hand tight before) (id : ThreadId)
    (new : ¬ before.ids.Issued id.text) :
    before.worker.seat id = .vacant ∧ about id before.queue = [] := by
  constructor
  · refine sound.vacant (fun untied => untied) ?_
    cases stands : before.standing id with
    | none => rfl
    | some thread => exact absurd (issued_of_standing sound.orderly stands) new
  · exact Classical.byContradiction fun told => new (sound.known id told)

/-- No reply waits in the transport. -/
theorem Sound.unaskedOutbox (sound : Sound hand loose before) :
    replies before.bridge.transport.outbox = [] := by
  have none := sound.unasked
  rw [queue, replies_append, List.append_eq_nil_iff] at none
  exact none.2

/-- No call is in hand for a name that was not issued. -/
theorem Sound.unhanded (sound : Sound hand loose before) {id : ThreadId}
    (new : ¬ before.ids.Issued id.text) : carried hand id = none := by
  cases held : hand with
  | none => rfl
  | some call =>
    refine if_neg ?_
    rintro rfl
    exact new (sound.inHand call.1 call.2 held).1

/-- A step on the host's threads leaves the worker. -/
theorem Framed.worker (framed : Framed before after) : after.worker = before.worker := by
  rw [Scheduler.worker, framed.bridge, Scheduler.worker]

/-- A step on the host's threads leaves what is under way. -/
theorem Framed.queue (framed : Framed before after) : after.queue = before.queue := by
  rw [Scheduler.queue, framed.bridge, Scheduler.queue]

/-- The host gives the worker a message, or lets it look at its deadlines. -/
structure Posted (touched : ThreadId → Prop) (before : Scheduler (Inline α) α)
    (sent : List (WorkerMessage α)) (after : Scheduler (Inline α) α) : Prop where
  host : after = { before with bridge := after.bridge }
  timeout : after.bridge.timeout = before.bridge.timeout
  moves : before.worker.Moves touched sent after.worker
  queue : after.queue = before.queue ++ sent
  silent : replies sent = []

/-- Giving the worker a message keeps both sides in agreement when the threads that it
concerns fit afterwards. -/
theorem Sound.post {touched later : ThreadId → Prop} {held : Option (ThreadId × Token)}
    {sent : List (WorkerMessage α)} (sound : Sound hand loose before)
    (posted : Posted touched before sent after) (handed : held = hand ∨ held = none)
    (arrived : ∀ id, about id sent ≠ [] → before.ids.Issued id.text ∧
      ScriptWorker.Arrived id (after.worker.seat id) (about id sent))
    (fits : ∀ id, ¬ later id →
      (¬ touched id ∧ ¬ loose id ∧ carried held id = carried hand id) ∨
        Fits before.registry id (carried held id) (before.standing id) (after.worker.seat id)
          (about id before.queue ++ about id sent)) : Sound held later after := by
  have numbered := posted.moves.numbered sound.numbered
  have traced : ∀ id token, before.worker.Traced id token → after.worker.Traced id token :=
    fun id token traced => traced.moves posted.moves
  have host := posted.host
  have ids : after.ids = before.ids := by rw [host]
  have registry : after.registry = before.registry := by rw [host]
  have standing : ∀ id, after.standing id = before.standing id :=
    standing_congr (by rw [host])
  refine ⟨?_, ?_, ?_, ?_, numbered, ?_, ?_, ?_, ?_, ?_, ?_⟩
  · rw [host]
    exact (bridge_advances before after.bridge sound.orderly).1
  · rw [host]
    exact sound.keyed
  · rw [host]
    exact sound.strict
  · rw [posted.timeout]
    exact sound.patient
  · intro id tied
    rw [registry, standing, posted.queue, about_append]
    rcases fits id tied with ⟨untouched, tiedBefore, same⟩ | fits
    · obtain ⟨seat, silent⟩ := posted.moves.spared id untouched
      rw [seat, silent, List.append_nil, same]
      exact sound.fits id tiedBefore
    · exact fits
  · rw [posted.queue, replies_append, sound.unasked, posted.silent, List.append_nil]
  · intro id told
    rw [ids]
    rw [posted.queue, about_append] at told
    by_cases old : about id before.queue = []
    · rw [old, List.nil_append] at told
      exact (arrived id told).1
    · exact sound.known id old
  · intro target id opcode args token member
    rw [posted.queue] at member
    rcases List.mem_append.mp member with old | new
    · exact traced id token (sound.calls target id opcode args token old)
    · have told : .call target id opcode args token ∈ about id sent := mem_about.mpr ⟨new, rfl⟩
      have arrives := (arrived id fun nothing => by
        rw [nothing] at told
        cases told).2
      refine ScriptWorker.traced_of_owns numbered (ScriptWorker.owns_iff.mpr ?_)
      generalize after.worker.seat id = seat at arrives
      generalize about id sent = messages at arrives told
      cases arrives with
      | called running other deadline =>
        rw [List.mem_singleton] at told
        cases told
        exact ⟨deadline, List.mem_singleton_self _⟩
      | closed last =>
        rw [List.mem_singleton] at told
        subst told
        rcases last with same | ⟨reason, same⟩ <;> cases same
  · intro id thread token stands waits
    rw [standing] at stands
    rw [registry] at waits
    exact traced id token (sound.frames id thread token stands waits)
  · intro id token inHand
    rcases handed with rfl | rfl
    · rw [ids]
      obtain ⟨issued, tracedBefore⟩ := sound.inHand id token inHand
      exact ⟨issued, traced id token tracedBefore⟩
    · cases inHand

/-- The stage does not concern the worker, as long as its targets are keyed. -/
theorem Sound.restage (sound : Sound hand loose before) {stage : Stage α} (keyed : stage.Keyed) :
    Sound hand loose { before with stage := stage } := by
  have still : Advances before { before with stage := stage } := .still ⟨rfl, rfl, .refl _⟩ rfl rfl
  exact ⟨(still sound.orderly).1, keyed, sound.strict, sound.patient, sound.numbered, sound.fits,
    sound.unasked, sound.known, sound.calls, sound.frames, sound.inHand⟩

/-- A quiet change does not concern the worker. -/
theorem Sound.quiet (sound : Sound hand loose before) (quiet : Quiet before after) :
    Sound hand loose after := by
  have worker : after.worker = before.worker := by
    rw [Scheduler.worker, quiet.bridge, Scheduler.worker]
  have queue : after.queue = before.queue := by rw [Scheduler.queue, quiet.bridge, Scheduler.queue]
  have standing := standing_congr quiet.threads
  refine ⟨(quiet.advances sound.orderly).1, quiet.stage.keyed sound.keyed, ?_, ?_, ?_, ?_, ?_,
    ?_, ?_,
    ?_, ?_⟩
  · rw [quiet.config]
    exact sound.strict
  · rw [quiet.bridge]
    exact sound.patient
  · rw [worker]
    exact sound.numbered
  · intro id tied
    rw [quiet.registry, standing, worker, queue]
    exact sound.fits id tied
  · rw [queue]
    exact sound.unasked
  · intro id told
    rw [queue] at told
    exact quiet.ids.issued_of (sound.known id told)
  · intro target id opcode args token member
    rw [queue] at member
    rw [worker]
    exact sound.calls target id opcode args token member
  · intro id thread token stands waits
    rw [standing] at stands
    rw [quiet.registry] at waits
    rw [worker]
    exact sound.frames id thread token stands waits
  · intro id token inHand
    rw [worker]
    obtain ⟨issued, traced⟩ := sound.inHand id token inHand
    exact ⟨quiet.ids.issued_of issued, traced⟩

/-- A change of the host's threads keeps both sides in agreement when the threads that it
changes fit afterwards. -/
theorem Sound.host {later : ThreadId → Prop} {held : Option (ThreadId × Token)}
    (sound : Sound hand loose before) (framed : Framed before after)
    (advances : Advances before after)
    (fits : ∀ id, ¬ later id →
      (¬ loose id ∧ after.standing id = before.standing id ∧ carried held id = carried hand id) ∨
        Fits before.registry id (carried held id) (after.standing id) (before.worker.seat id)
          (about id before.queue))
    (frames : ∀ id thread token, after.standing id = some thread →
      Waits before.registry thread token →
        before.standing id = some thread ∨ before.worker.Traced id token)
    (inHand : ∀ id token, held = some (id, token) →
      before.ids.Issued id.text ∧ before.worker.Traced id token) : Sound held later after := by
  obtain ⟨orderly, moved⟩ := advances sound.orderly
  have worker := framed.worker
  have queue := framed.queue
  refine ⟨orderly, ?_, ?_, ?_, ?_, ?_, ?_, ?_, ?_, ?_, ?_⟩
  · rw [framed.stage]
    exact sound.keyed
  · rw [framed.config]
    exact sound.strict
  · rw [framed.bridge]
    exact sound.patient
  · rw [worker]
    exact sound.numbered
  · intro id tied
    rw [framed.registry, worker, queue]
    rcases fits id tied with ⟨tiedBefore, same, hands⟩ | fits
    · rw [same, hands]
      exact sound.fits id tiedBefore
    · exact fits
  · rw [queue]
    exact sound.unasked
  · intro id told
    rw [queue] at told
    exact moved.ids.issued_of (sound.known id told)
  · intro target id opcode args token member
    rw [queue] at member
    rw [worker]
    exact sound.calls target id opcode args token member
  · intro id thread token stands waits
    rw [framed.registry] at waits
    rw [worker]
    rcases frames id thread token stands waits with old | traced
    · exact sound.frames id thread token old waits
    · exact traced
  · intro id token held
    rw [worker]
    obtain ⟨issued, traced⟩ := inHand id token held
    exact ⟨moved.ids.issued_of issued, traced⟩

end Scheduler

end SpriteMachine
