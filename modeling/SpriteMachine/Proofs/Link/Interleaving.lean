import SpriteMachine.Proofs.Block.Registry
import SpriteMachine.Proofs.Link.Calm
import SpriteMachine.Proofs.Scheduler.Operation
import SpriteMachine.Worker.Scheduled

/-!
# No disagreement in any interleaving

Loading a batch sends opcodes that were all checked, and running one registers its threads
under new names first. So every operation keeps host and link in concord, except those by
which the host drops a thread without retiring it. However the messages of host and worker
interleave, no tick reports a thread that is missing or an opcode that is unknown.
-/

namespace SpriteMachine

open Link

variable {τ α : Type} [Scalar α]

/-- An operation that drops no thread without retiring it. Between two operations the worker
may go on, and nothing else happens to the bridge. -/
def Operation.IsGraceful (view : τ → Link α) : Operation τ α → Prop
  | .endThread _ => False
  | .quit => False
  | .changeBridge change => ∀ bridge, (change bridge).backlog = bridge.backlog ∧
      Moves (view bridge.transport) (view (change bridge).transport)
  | _ => True

namespace Scheduled

/-- What the host is answered after some turns is what it may hear meanwhile. -/
theorem ask_hears (moment : Nat) (turns : List Turn) (link : Link α) :
    Hears link (ask moment turns link).1 (ask moment turns link).2.link := by
  fun_induction ask moment turns link with
  | case1 link => exact ⟨link, link, .refl, rfl, .refl⟩
  | case2 now turns worker outbound inductionHypothesis => exact inductionHypothesis
  | case3 now turns worker outbound message inbound inductionHypothesis =>
    obtain ⟨here, there, first, delivers, second⟩ := inductionHypothesis
    exact ⟨here, there, first.head (.handle now worker message inbound outbound), delivers, second⟩
  | case4 now turns worker inbound outbound inductionHypothesis =>
    obtain ⟨here, there, first, delivers, second⟩ := inductionHypothesis
    exact ⟨here, there, first.head (.look now worker inbound outbound), delivers, second⟩
  | case5 turns worker inbound => exact ⟨_, ⟨worker, inbound, []⟩, .refl, rfl, .refl⟩
  | case6 turns worker inbound message outbound =>
    exact ⟨_, ⟨worker, inbound, outbound⟩, .refl, rfl, .refl⟩
  | case7 turns link => exact ⟨link, link, .refl, rfl, .refl⟩
  | case8 turns link => exact ⟨link, link, .refl, rfl, .refl⟩

/-- A link that takes turns is relayed, whatever its turns are. -/
theorem relays_link : Relays (Scheduled.link : Scheduled α → Link α) where
  send _ state := ⟨state.link, .refl, .refl⟩
  receive state := ask_hears state.moment state.turns state.link
  await _ state := ask_hears state.moment state.turns state.link

end Scheduled

namespace Scheduler

/-- A message with the source of a batch that was linked calls known opcodes. -/
theorem linkKnown_versed {scheduler left : Scheduler τ α} {batch : Batch} {linked : Linked}
    (result : scheduler.linkKnown batch = (.ok linked, left)) {message : HostMessage α}
    (brings : message.source? = some linked.unit.source) : message.Versed left.Knows := by
  obtain ⟨-, kept, complete⟩ := linkKnown_ok result
  obtain ⟨scripts, reads⟩ := linkKnown_reads result
  have parsed : ScriptUnit.parse linked.unit.source = .ok scripts := by
    rw [reads.source]
    exact ScriptUnit.parse_render reads.parts
  intro source brought others read script member statement inside
  obtain rfl := Option.some.inj (brings.symm.trans brought)
  obtain rfl := Except.ok.inj (parsed.symm.trans read)
  rw [Knows, kept]
  exact Registry.missing_eq_nil.mp complete _ (reads.opcodes script member statement inside)

section Performing

variable [Transport τ α] {view : τ → Link α} {scheduler : Scheduler τ α}

/-- Taking over scripts retires every thread. -/
theorem Concord.install (concord : Concord view scheduler) (linked : Linked) :
    Concord view (scheduler.install linked) :=
  (concord.retireAll scheduler.threads.keys).mind (.ofThreads ⟨rfl, rfl, .refl _⟩ rfl rfl rfl) rfl

variable (relays : Relays view)

include relays

/-- The host stays in concord when a backend is opened. -/
theorem Concord.openBackend (concord : Concord view scheduler) (url : String) :
    Concord view (scheduler.openBackend url).2 := by
  have connects : HostMessage.IsPlain (.connected : HostMessage α) := ⟨rfl, rfl⟩
  have prepares : HostMessage.IsPlain (.prepare url : HostMessage α) := ⟨rfl, rfl⟩
  have first := (concord.tell relays connects).1
  unfold Scheduler.openBackend
  split
  case h_1 fault bridge posted =>
    rw [posted] at first
    exact first
  case h_2 bridge posted =>
    rw [posted] at first
    have second := (first.tell relays prepares).1
    split
    case h_1 fault last again =>
      rw [again] at second
      exact second
    case h_2 last again =>
      rw [again] at second
      exact second

/-- The host stays in concord when scripts are loaded. -/
theorem Concord.loadScripts (concord : Concord view scheduler) (batch : Batch) :
    Concord view (scheduler.loadScripts batch).2 := by
  have named := concord.quiet (linkKnown_quiet scheduler batch)
  unfold Scheduler.loadScripts
  split
  case h_1 fault left result =>
    rw [result] at named
    exact named
  case h_2 linked left result =>
    rw [result] at named
    have registered := named.posts (Bridge.register_posts relays left.bridge linked.unit)
      (linkKnown_versed result rfl) (.nobody view left)
    split
    case h_1 fault bridge posted =>
      rw [posted] at registered
      exact registered
    case h_2 done bridge posted =>
      rw [posted] at registered
      exact registered.install linked

/-- The host stays in concord when a batch is run at once. -/
theorem Concord.runBatch (concord : Concord view scheduler) (batch : Batch) :
    Concord view (scheduler.runBatch batch).2 := by
  have named := concord.quiet (linkKnown_quiet scheduler batch)
  unfold Scheduler.runBatch
  split
  case h_1 fault left result =>
    rw [result] at named
    exact named
  case h_2 linked left result =>
    rw [result] at named
    have enlists := adoptAll_enlists linked.registrations.entries left
    generalize left.adoptAll linked.registrations.entries = registered at enlists
    obtain ⟨starts, adopted⟩ := registered
    obtain ⟨enlisted, poised⟩ := named.enlist enlists
    have versed : HostMessage.Versed adopted.Knows
        (.runAsync linked.unit.source starts : HostMessage α) := by
      rw [enlists.minds.knows]
      exact linkKnown_versed result rfl
    have posted := enlisted.posts (Bridge.post_posts relays adopted.bridge
      (.runAsync linked.unit.source starts)) versed poised
    dsimp only
    split
    case h_1 fault bridge sent =>
      rw [sent] at posted
      exact posted.retireAll _
    case h_2 done bridge sent =>
      rw [sent] at posted
      exact posted

/-- The host stays in concord when it executes a block by itself. -/
theorem Concord.execute (concord : Concord view scheduler) (id : ThreadId) (opcode : String)
    (args : Args α) (token : Option Token) :
    Concord view (scheduler.call id opcode args token).2 := by
  obtain ⟨fault, -, -, failed⟩ | ⟨target, block, live, known, calls⟩ :=
    call_cases scheduler id opcode args token
  · rw [failed]
    exact concord
  · have invokes := invoke_beats target block (.fresh opcode args token) live known []
    rw [calls]
    exact (invokes.calm relays (concord.calm _)).concord

/-- Every graceful operation keeps the host in concord with its link. -/
theorem Concord.perform (concord : Concord view scheduler) {operation : Operation τ α}
    (graceful : operation.IsGraceful view) : Concord view (scheduler.perform operation) := by
  have rhythmic : IsRhythmic operation → Concord view (scheduler.perform operation) := by
    intro rhythmic
    obtain ⟨faults, beats⟩ := perform_beats scheduler rhythmic
    exact (beats.calm relays (concord.calm none)).concord
  cases operation with
  | openBackend url => exact concord.openBackend relays url
  | loadScripts batch => exact concord.loadScripts relays batch
  | runBatch batch => exact concord.runBatch relays batch
  | registerThread target hasListener =>
    exact concord.mind (addThread_minds scheduler target hasListener) rfl
  | endThread thread => exact graceful.elim
  | execute thread opcode args token => exact concord.execute relays thread opcode args token
  | quit => exact graceful.elim
  | changeStage change => exact concord.mind (.ofThreads ⟨rfl, rfl, .refl _⟩ rfl rfl rfl) rfl
  | changeDevices change => exact concord.mind (.ofThreads ⟨rfl, rfl, .refl _⟩ rfl rfl rfl) rfl
  | changeBridge change =>
    obtain ⟨backlog, moves⟩ := graceful scheduler.bridge
    refine concord.drift ?_
    rw [Bridge.link, Bridge.link, backlog]
    exact moves.drifts scheduler.bridge.backlog
  | _ => exact rhythmic trivial

end Performing

/-- A new host without anything under way is in concord. -/
theorem fresh_concord {view : τ → Link α} (config : SchedulerConfig) (registry : Registry)
    {transport : τ} {blockTimeout : Option Nat} (idle : view transport = .idle blockTimeout)
    (motors : Motors (LoopbackLink α) α) {ids : IdSource} (distinct : ids.Distinct) :
    Concord view (fresh config registry transport ids motors) := by
  have nothing : (fresh config registry transport ids motors).bridge.link view =
      .idle blockTimeout := by
    change (view transport).behind [] = _
    rw [idle]
    rfl
  refine ⟨distinct, fun id thread found => ?_, fun _ => ⟨List.nodup_nil, fun _ => Iff.rfl⟩, ?_,
    fun id mentions => ?_⟩
  · cases found
  · rw [nothing]
    refine ⟨fun _ _ found => ?_, Lane.unknown, fun _ _ found => ?_, fun _ none => ?_,
      fun _ _ _ _ _ none => ?_⟩
    · cases found
    · cases found
    · cases none
    · cases none
  · rw [nothing] at mentions
    rcases mentions with seated | told | waits
    · exact absurd rfl seated
    · exact absurd rfl told
    · cases waits

/-- No tick reports a disagreement in any interleaving. Host and worker are joined by one queue
in each direction; the worker goes on at any moment, and either queue holds on to messages for
as long as it likes. Names differ, the host drops no thread without retiring it, and at most
as many threads are retired in the run as are remembered. -/
theorem no_tick_reports_disagreement [Transport τ α] {view : τ → Link α} (relays : Relays view)
    (config : SchedulerConfig) (registry : Registry) {transport : τ} {blockTimeout : Option Nat}
    (idle : view transport = .idle blockTimeout) (motors : Motors (LoopbackLink α) α)
    {ids : IdSource} (distinct : ids.Distinct) (earlier later : List (Operation τ α))
    (graceful : ∀ operation ∈ earlier ++ .step :: later, operation.IsGraceful view)
    (room : ((fresh config registry transport ids motors).run
      (earlier ++ .step :: later)).HasRoom) :
    let report := ((fresh config registry transport ids motors).run earlier).step.1
    (∀ id, .notFound id ∉ report.faults) ∧ ∀ opcode, .unknownOpcode opcode ∉ report.faults := by
  have orderly := fresh_orderly config registry transport motors distinct
  have concord := fresh_concord config registry idle motors distinct
  generalize fresh config registry transport ids motors = scheduler at *
  intro report
  have before : Concord view (scheduler.run earlier) :=
    run_induction (fun _ _ allowed concord => concord.perform relays allowed) concord
      fun operation member => graceful operation (List.mem_append_left _ member)
  have calm := (step_beats (scheduler.run earlier)).calm relays (before.calm none)
  have agreed : ∀ fault ∈ report.faults, fault.isDesync = false := by
    refine calm.agreed ?_
    have after := (run_advances (earlier ++ [.step]) scheduler orderly).1
    rw [run_append] at room after
    exact (run_advances later _ after).2.room room
  refine ⟨fun id member => ?_, fun opcode member => ?_⟩
  · cases agreed _ member
  · cases agreed _ member

/-- A link whose worker loads scripts at once, but starts them only when the host has given up
on its request. -/
def lateStartLink : Scheduled Rat :=
  ⟨.idle none, [.handle 0, .deliver, .deliver, .hold,
    .handle 0, .deliver, .deliver, .deliver, .deliver], 0⟩

/-- The green flag starts a script, and the request times out. -/
def tardyStart : List (Operation (Scheduled Rat) Rat) :=
  [.addTarget (.sprite ⟨"cat"⟩ "Cat"),
    .loadScripts (.ofList [(⟨"cat"⟩, .ofList [(greenFlagHat, .plain ["looks_show\nlooks_hide"])])]),
    .startHats greenFlagHat .any]

/-- The next tick removes the thread that the host gave up and hears that it was started after
all, that it runs, and its first call. -/
theorem tardyStart_agrees :
    let before := (fresh .standard .standard lateStartLink .numbered
      (.atRest .reliable Motors.defaultBackoff)).run tardyStart
    (before.step.1.evicted = [⟨"#1"⟩] ∧ before.step.1.messages = 4) ∧
      (∀ id, .notFound id ∉ before.step.1.faults) ∧
        ∀ opcode, .unknownOpcode opcode ∉ before.step.1.faults :=
  ⟨by decide +kernel, no_tick_reports_disagreement Scheduled.relays_link .standard .standard rfl
    (.atRest .reliable Motors.defaultBackoff) IdSource.numbered_distinct tardyStart []
    (by simp [tardyStart, Operation.IsGraceful]) (by unfold HasRoom; decide +kernel)⟩

end Scheduler

end SpriteMachine
