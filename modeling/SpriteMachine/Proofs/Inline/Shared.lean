import SpriteMachine.Proofs.Inline.Loading
import SpriteMachine.Proofs.Inline.Prompt
import SpriteMachine.Proofs.Scheduler.Beat
import SpriteMachine.Proofs.Scheduler.Operation

/-!
# Scripts on both sides

Every script that the host keeps is loaded in the worker, with the same target and the body
that its code reads as. Most of what a host does leaves the scripts of both sides alone;
loading replaces them on both sides or on none, and running a batch adds scripts in the
worker under names that no kept script has.
-/

namespace SpriteMachine

variable {α : Type}

/-- An operation that does not reach into the bridge; the wall clock may show anything. -/
def Operation.SparesBridge : Operation (Inline α) α → Prop
  | .changeBridge change => ∃ now, change =
      fun bridge => { bridge with transport := { bridge.transport with moment := now } }
  | _ => True

namespace Scheduler

section Passing

variable {before after first second third : Scheduler (Inline α) α}

/-- A change that leaves the worker's scripts and adds none to the host. -/
structure Passes (before after : Scheduler (Inline α) α) : Prop where
  bridge : Bridge.Steady before.bridge after.bridge
  ids : IdSource.Continues before.ids after.ids
  scripts : ∀ id registration, after.scripts.find? id = some registration →
    before.scripts.find? id = some registration

/-- Names are drawn and nothing else concerns the scripts. -/
theorem Passes.still (bridge : after.bridge = before.bridge)
    (ids : IdSource.Continues before.ids after.ids) (scripts : after.scripts = before.scripts) :
    Passes before after := by
  refine ⟨?_, ids, fun id registration known => ?_⟩
  · rw [bridge]
    exact .refl _
  · rw [← scripts]
    exact known

/-- To do nothing leaves the scripts. -/
theorem Passes.refl (scheduler : Scheduler (Inline α) α) : Passes scheduler scheduler :=
  .still rfl (.refl _) rfl

/-- Two changes that leave the scripts are one. -/
theorem Passes.trans (before : Passes first second) (after : Passes second third) :
    Passes first third :=
  ⟨before.bridge.trans after.bridge, before.ids.trans after.ids,
    fun id registration known =>
      before.scripts id registration (after.scripts id registration known)⟩

/-- Only the bridge changes. -/
theorem Passes.ofBridge (scheduler : Scheduler (Inline α) α) {bridge : Bridge (Inline α) α}
    (steady : Bridge.Steady scheduler.bridge bridge) :
    Passes scheduler { scheduler with bridge := bridge } :=
  ⟨steady, .refl _, fun _ _ known => known⟩

/-- A quiet change leaves the scripts. -/
theorem Quiet.passes (quiet : Quiet before after) : Passes before after := by
  refine ⟨?_, quiet.ids, quiet.scripts⟩
  rw [quiet.bridge]
  exact .refl _

/-- To end a thread leaves the scripts. -/
theorem endThread_passes (scheduler : Scheduler (Inline α) α) (id : ThreadId) :
    Passes scheduler (scheduler.endThread id).2 := by
  unfold endThread
  split
  case isTrue => exact .still rfl (.refl _) rfl
  case isFalse => exact .refl scheduler

variable [Scalar α]

/-- Anything but scripts and requests may be posted. -/
theorem post_passes (scheduler : Scheduler (Inline α) α) (message : HostMessage α)
    (plain : ¬ message.Loads) (unasking : message.request? = none) :
    Passes scheduler { scheduler with bridge := (scheduler.bridge.post message).2 } :=
  .ofBridge scheduler (Bridge.post_steady scheduler.bridge plain unasking)

/-- A stroke leaves the scripts. -/
theorem Stroke.passes (stroke : Stroke before after) : Passes before after := by
  cases stroke with
  | quiet quiet => exact quiet.passes
  | retire id => exact .still rfl (.refl _) rfl
  | finish id => exact endThread_passes before id
  | clear ended => exact .still rfl (.refl _) rfl
  | adopt registrable => exact .still rfl (IdSource.draw_continues _ _) rfl
  | tell message order =>
    refine post_passes before message ?_ ?_ <;> cases message <;>
      first | exact order.elim | exact fun loads => loads | rfl
  | ask hat option starts =>
    exact .ofBridge before (Bridge.startHats_steady before.bridge hat option starts)

/-- Strokes leave the scripts. -/
theorem Strokes.passes (strokes : Strokes before after) : Passes before after := by
  induction strokes with
  | refl => exact .refl before
  | tail _ stroke inductionHypothesis => exact inductionHypothesis.trans stroke.passes

/-- An answer to a call may be posted. -/
theorem answer_passes (scheduler : Scheduler (Inline α) α) (token : Option Token)
    {reply : Token → HostMessage α} (answers : IsAnswer reply) :
    Passes scheduler (scheduler.answer token reply).2 := by
  cases token with
  | none => exact .refl scheduler
  | some token =>
    rw [answer_some]
    rcases answers with ⟨value, rfl⟩ | ⟨message, rfl⟩
    · exact post_passes scheduler _ (fun loads => loads) rfl
    · exact post_passes scheduler _ (fun loads => loads) rfl

/-- Looking for a message. -/
theorem next_passes {scheduler : Scheduler (Inline α) α} {receipt : Receipt α}
    {bridge : Bridge (Inline α) α} (looked : scheduler.bridge.next = (receipt, bridge)) :
    Passes scheduler { scheduler with bridge := bridge } := by
  have hears := Bridge.next_hears scheduler.bridge
  rw [looked] at hears
  exact .ofBridge scheduler hears.steady

/-- No beat concerns the scripts. -/
theorem Beat.passes {before after : Instant (Inline α) α} (beat : Beat before after) :
    Passes before.scheduler after.scheduler := by
  cases beat with
  | act act => exact act.strokes.passes
  | answer scheduler id frame reply answers more agreed faults =>
    exact answer_passes scheduler frame.token answers
  | look looked idle more agreed faults => exact next_passes looked
  | hear received note faults => exact next_passes received
  | ended received more missing faults =>
    exact (next_passes received).trans (endThread_passes _ _)
  | call received live known faults => exact next_passes received
  | refuse received refused more due faults =>
    exact (next_passes received).trans (post_passes _ _ (fun loads => loads) rfl)
  | _ => exact .still rfl (.refl _) rfl

/-- The beats of a tick leave the scripts. -/
theorem Beats.passes {before after : Instant (Inline α) α} (beats : Beats before after) :
    Passes before.scheduler after.scheduler := by
  induction beats with
  | refl => exact .refl _
  | tail _ beat inductionHypothesis => exact inductionHypothesis.trans beat.passes

end Passing

section Sharing

variable [Scalar α] {scheduler before after : Scheduler (Inline α) α} {limit : Nat}

/-- The worker has the script of a registration, read. -/
def HasLoaded (scheduler : Scheduler (Inline α) α) (id : ScriptId) (registration : Registration) :
    Prop :=
  ∃ body, Body.parse registration.code = .ok body ∧
    scheduler.worker.scripts.find? id = some ⟨id, registration.target, body⟩

/-- The worker has every script that the host keeps, when requests wait up to a limit. There
is none where requests do not wait, since nothing can be loaded then. -/
structure Shares (limit : Nat) (scheduler : Scheduler (Inline α) α) : Prop where
  prompt : scheduler.bridge.Prompt
  timeout : scheduler.bridge.timeout = limit
  idle : limit = 0 → ∀ id, scheduler.scripts.find? id = none
  issued : ∀ id registration, scheduler.scripts.find? id = some registration →
    scheduler.ids.Issued id.text
  loaded : scheduler.ids.Distinct → ∀ id registration,
    scheduler.scripts.find? id = some registration → scheduler.HasLoaded id registration

/-- The worker has the scripts of the host as long as the scripts are left alone. -/
theorem Shares.pass (shares : Shares limit before) (passes : Passes before after) :
    Shares limit after := by
  refine ⟨passes.bridge.prompt shares.prompt, passes.bridge.timeout.trans shares.timeout,
    fun impatient id => ?_, fun id registration found => ?_,
    fun distinct id registration found => ?_⟩
  · cases found : after.scripts.find? id with
    | none => rfl
    | some registration =>
      rw [← shares.idle impatient id, passes.scripts id registration found]
  · exact passes.ids.issued_of
      (shares.issued id registration (passes.scripts id registration found))
  · obtain ⟨body, read, stored⟩ := shares.loaded (passes.ids.distinct_iff.mp distinct) id
      registration (passes.scripts id registration found)
    refine ⟨body, read, ?_⟩
    have kept : after.worker.scripts = before.worker.scripts := passes.bridge.scripts
    rw [kept]
    exact stored

/-- Taking over scripts keeps the bridge, and draws no names. -/
theorem install_framed (scheduler : Scheduler (Inline α) α) (linked : Linked) :
    (scheduler.install linked).bridge = scheduler.bridge ∧
      (scheduler.install linked).ids = scheduler.ids :=
  ⟨(retireAll_framed scheduler.threads.keys scheduler).bridge,
    retireAll_ids scheduler scheduler.threads.keys⟩

/-- What was linked is taken over by the worker, when requests wait, and then by the host. -/
theorem loadScripts_linked {left : Scheduler (Inline α) α} {batch : Batch} {linked : Linked}
    (result : scheduler.linkKnown batch = (.ok linked, left)) (prompt : left.bridge.Prompt)
    (patient : 0 < left.bridge.timeout) {scripts : List (Script α)}
    (reads : Linker.Reads linked scripts) :
    ∃ bridge : Bridge (Inline α) α, bridge.Prompt ∧ bridge.timeout = left.bridge.timeout ∧
      bridge.transport.worker = (left.worker.replaceScripts scripts).1 ∧
      scheduler.loadScripts batch =
        (.ok linked.unit.events, { left with bridge := bridge }.install linked) := by
  have parsed : ScriptUnit.parse linked.unit.source = .ok scripts := by
    rw [reads.source]
    exact ScriptUnit.parse_render reads.parts
  have kept := Bridge.register_prompt prompt parsed
  have registers := Bridge.register_inline patient (prompt.unasked patient) parsed
  rw [registers] at kept
  refine ⟨_, kept, rfl, rfl, ?_⟩
  unfold Scheduler.loadScripts
  rw [result]
  dsimp only
  rw [registers]

/-- Nothing is taken over when requests do not wait. -/
theorem loadScripts_impatient {left : Scheduler (Inline α) α} {batch : Batch} {linked : Linked}
    (result : scheduler.linkKnown batch = (.ok linked, left)) (prompt : left.bridge.Prompt)
    (impatient : left.bridge.timeout = 0) {scripts : List (Script α)}
    (reads : Linker.Reads linked scripts) :
    ∃ bridge : Bridge (Inline α) α, bridge.Prompt ∧ bridge.timeout = left.bridge.timeout ∧
      (scheduler.loadScripts batch).2 = { left with bridge := bridge } := by
  have parsed : ScriptUnit.parse linked.unit.source = .ok scripts := by
    rw [reads.source]
    exact ScriptUnit.parse_render reads.parts
  obtain ⟨fault, failed⟩ := Bridge.register_impatient prompt impatient linked.unit
  refine ⟨(left.bridge.register linked.unit).2, Bridge.register_prompt prompt parsed, ?_, ?_⟩
  · rw [Bridge.register_bridge]
    exact (Bridge.request_hears _ _).timeout
  · unfold Scheduler.loadScripts
    rw [result]
    dsimp only
    generalize left.bridge.register linked.unit = registered at failed
    obtain ⟨outcome, bridge⟩ := registered
    obtain rfl : outcome = .error fault := failed
    rfl

/-- Loading replaces the scripts of both sides, or of neither. -/
theorem Shares.loadScripts (shares : Shares limit scheduler) (batch : Batch) :
    Shares limit (scheduler.loadScripts batch).2 := by
  have named := shares.pass (linkKnown_quiet scheduler batch).passes
  cases links : scheduler.linkKnown batch with
  | mk outcome left =>
    rw [links] at named
    cases outcome with
    | error fault =>
      unfold Scheduler.loadScripts
      rw [links]
      exact named
    | ok linked =>
      obtain ⟨scripts, reads⟩ := linkKnown_reads links
      rcases Nat.eq_zero_or_pos limit with impatient | patient
      · obtain ⟨bridge, prompt, timeout, loads⟩ :=
          loadScripts_impatient links named.prompt (named.timeout.trans impatient) reads
        have none : ∀ id registration, left.scripts.find? id ≠ some registration := by
          intro id registration found
          rw [named.idle impatient id] at found
          cases found
        rw [loads]
        exact ⟨prompt, timeout.trans named.timeout, named.idle,
          fun id registration found => absurd found (none id registration),
          fun _ id registration found => absurd found (none id registration)⟩
      · obtain ⟨bridge, prompt, timeout, worker, loads⟩ :=
          loadScripts_linked links named.prompt (named.timeout ▸ patient) reads
        obtain ⟨framed, ids⟩ := install_framed { left with bridge := bridge } linked
        rw [loads]
        refine ⟨?_, ?_, fun impatient => absurd impatient (Nat.ne_of_gt patient),
          fun id registration found => ?_, fun _ id registration found => ?_⟩
        · rw [framed]
          exact prompt
        · rw [framed]
          exact timeout.trans named.timeout
        · rw [ids]
          exact (Linker.link_drawn (linkKnown_ok links).1 found).1
        · obtain ⟨script, inside, read⟩ := (Linker.mem_reads reads.parts).1
            ⟨id, registration.target, registration.code⟩
            (List.mem_map.mpr ⟨(id, registration), OrderedMap.mem_entries_iff.mpr found, rfl⟩)
          refine ⟨script.body, read.body, ?_⟩
          rw [Scheduler.worker, framed, worker]
          refine (OrderedMap.find_ofList reads.distinct).mpr (reads.mem_iff.mpr ?_)
          exact ⟨registration, script.body, found, read.body, rfl⟩

/-- Running a batch adds scripts under names that no kept script has. -/
theorem Shares.runBatch (shares : Shares limit scheduler) (batch : Batch) :
    Shares limit (scheduler.runBatch batch).2 := by
  have naming := (linkKnown_quiet scheduler batch).passes
  cases links : scheduler.linkKnown batch with
  | mk outcome left =>
    rw [links] at naming
    have named := shares.pass naming
    unfold Scheduler.runBatch
    rw [links]
    cases outcome with
    | error fault => exact named
    | ok linked =>
      obtain ⟨scripts, reads⟩ := linkKnown_reads links
      have parsed : ScriptUnit.parse linked.unit.source = .ok scripts := by
        rw [reads.source]
        exact ScriptUnit.parse_render reads.parts
      have adopts := adoptAll_strokes linked.registrations.entries left
      have adopted := named.pass adopts.passes
      dsimp only
      generalize left.adoptAll linked.registrations.entries = result at adopts adopted
      obtain ⟨starts, adopting⟩ := result
      dsimp only at adopts adopted ⊢
      have unasking : (HostMessage.runAsync linked.unit.source starts :
        HostMessage α).request? = none := rfl
      refine ⟨Bridge.post_prompt adopted.prompt unasking, adopted.timeout, adopted.idle,
        adopted.issued,
        fun distinct id registration found => ?_⟩
      obtain ⟨body, read, stored⟩ := adopted.loaded distinct id registration found
      refine ⟨body, read, ?_⟩
      have passes := naming.trans adopts.passes
      have known : scheduler.ids.Issued id.text :=
        shares.issued id registration (passes.scripts id registration found)
      have other : id ∉ (scripts.map fun script => (script.id, script)).map Prod.fst := by
        intro member
        rw [List.map_map] at member
        change id ∈ scripts.map Script.id at member
        rw [reads.ids, OrderedMap.mem_keys_iff] at member
        obtain ⟨added, drawn⟩ := member
        exact (Linker.link_drawn (linkKnown_ok links).1 drawn).2
          (passes.ids.distinct_iff.mp distinct) known
      have scripts : (adopting.worker.runAsync adopting.bridge.transport.moment
          linked.unit.source starts).1.scripts = (adopting.worker.addScripts scripts).scripts := by
        rw [ScriptWorker.runAsync_eq parsed]
        exact (ScriptWorker.launch_keeps _ _ _).1
      change (adopting.worker.runAsync adopting.bridge.transport.moment linked.unit.source
        starts).1.scripts.find? id = _
      rw [scripts]
      exact (OrderedMap.find_insertAll_of_not_mem _ _ id other).trans stored

/-- To open a backend leaves the scripts. -/
theorem openBackend_passes (scheduler : Scheduler (Inline α) α) (url : String) :
    Passes scheduler (scheduler.openBackend url).2 := by
  have greeted := post_passes scheduler .connected (fun loads => loads) rfl
  have prepared := post_passes { scheduler with bridge := (scheduler.bridge.post .connected).2 }
    (.prepare url) (fun loads => loads) rfl
  exact greeted.trans prepared

/-- A call leaves the scripts. -/
theorem call_passes (scheduler : Scheduler (Inline α) α) (id : ThreadId) (opcode : String)
    (args : Args α) (token : Option Token) :
    Passes scheduler (scheduler.call id opcode args token).2 := by
  obtain ⟨fault, -, -, failed⟩ | ⟨target, block, live, known, calls⟩ :=
    call_cases scheduler id opcode args token
  · rw [failed]
    exact .refl scheduler
  · rw [calls]
    exact (invoke_beats target block (.fresh opcode args token) live known []).passes

/-- Every operation that spares the bridge keeps the scripts in the worker. -/
theorem Shares.perform (shares : Shares limit scheduler) {operation : Operation (Inline α) α}
    (spared : operation.SparesBridge) : Shares limit (scheduler.perform operation) := by
  have rhythmic : IsRhythmic operation → Shares limit (scheduler.perform operation) := by
    intro rhythmic
    obtain ⟨faults, beats⟩ := perform_beats scheduler rhythmic
    exact shares.pass beats.passes
  cases operation with
  | openBackend url => exact shares.pass (openBackend_passes scheduler url)
  | loadScripts batch => exact shares.loadScripts batch
  | runBatch batch => exact shares.runBatch batch
  | registerThread target hasListener =>
    exact shares.pass (addThread_stroke scheduler target hasListener).passes
  | endThread thread => exact shares.pass (endThread_passes scheduler thread)
  | execute thread opcode args token =>
    exact shares.pass (call_passes scheduler thread opcode args token)
  | quit => exact shares.pass (.still rfl (.refl _) rfl)
  | changeStage change => exact shares.pass (.still rfl (.refl _) rfl)
  | changeDevices change => exact shares.pass (.still rfl (.refl _) rfl)
  | changeBridge change =>
    obtain ⟨now, rfl⟩ := spared
    exact shares.pass
      (.ofBridge scheduler ⟨rfl, rfl, fun prompt => ⟨prompt.unasked, prompt.issued⟩⟩)
  | _ => exact rhythmic trivial

/-- A scheduler that has just been made keeps no scripts. -/
theorem fresh_shares (config : SchedulerConfig) (registry : Registry)
    (motors : Motors (LoopbackLink α) α) (ids : IdSource) :
    Shares config.requestTimeout
      (fresh config registry (Inline.idle config.blockTimeout) ids motors) := by
  refine ⟨⟨fun _ => rfl, ?_⟩, rfl, fun _ _ => rfl, ?_, ?_⟩
  · intro token none
    cases none
  · intro id registration none
    cases none
  · intro _ id registration none
    cases none

/-- What a host does beside an inline worker never parts their scripts. -/
theorem run_shares (config : SchedulerConfig) (registry : Registry)
    (motors : Motors (LoopbackLink α) α) (ids : IdSource)
    {operations : List (Operation (Inline α) α)}
    (spared : ∀ operation ∈ operations, operation.SparesBridge) :
    Shares config.requestTimeout
      ((fresh config registry (Inline.idle config.blockTimeout) ids motors).run
        operations) :=
  run_induction (fun _ _ allowed shares => shares.perform allowed)
    (fresh_shares config registry motors ids) spared

end Sharing

end Scheduler

end SpriteMachine
