import SpriteMachine.Proofs.Inline.Hats
import SpriteMachine.Proofs.Scheduler.Progress
import SpriteMachine.Proofs.Script.Linker

/-!
# Loading scripts keeps host and worker in agreement

The worker forgets every thread when it loads a unit, and the host ends every thread when
it takes over the scripts; a unit that is refused changes nothing on either side. The
threads of a batch that is run beside the loaded scripts are all started, since what was
linked reads back in the worker.
-/

namespace SpriteMachine

variable {α : Type}

namespace Scheduler

variable {scheduler before after : Scheduler (Inline α) α} {hand : Option (ThreadId × Token)}
  {loose : ThreadId → Prop}

/-- A message that concerns no thread. -/
theorem Sound.postIdle {sent : List (WorkerMessage α)} (sound : Sound hand loose before)
    (posted : Posted (fun _ => False) before sent after) : Sound hand loose after := by
  refine sound.post posted (Or.inl rfl) ?_ ?_
  · exact fun id told => absurd (posted.moves.spared id fun touched => touched).2 told
  · exact fun _ tied => Or.inl ⟨fun touched => touched, tied, rfl⟩

variable [Scalar α]

/-- Host and worker agree when a backend is opened. -/
theorem Sound.openBackend (sound : Sound hand loose scheduler) (url : String) :
    Sound hand loose (scheduler.openBackend url).2 := by
  have connected : Sound hand loose
      { scheduler with bridge := (scheduler.bridge.post .connected).2 } :=
    sound.postIdle (posted_of_handle scheduler .connected rfl (.still scheduler.worker) rfl)
  have prepared : ∀ left : Scheduler (Inline α) α, Posted (fun _ => False) left
      [.status .environmentLoading, .status .environmentLoaded]
      { left with bridge := (left.bridge.post (.prepare url)).2 } := fun left =>
    posted_of_handle left (.prepare url) rfl
      ((ScriptWorker.Moves.still left.worker).retell fun _ => rfl) rfl
  exact connected.postIdle (prepared _)

/-- Taking over scripts when the worker has forgotten every thread. -/
theorem Sound.install (sound : Sound none (fun _ => True) scheduler)
    (vacant : ∀ id, scheduler.worker.seat id = .vacant) (linked : Linked) :
    Sound none tight (scheduler.install linked) := by
  have kept := retireAll_framed scheduler.threads.keys scheduler
  have framed : Framed scheduler (scheduler.install linked) :=
    ⟨kept.config, kept.registry, kept.bridge, kept.stage⟩
  have standing : ∀ id, (scheduler.install linked).standing id = none :=
    standing_retireKeys scheduler
  refine sound.host framed (install_advances scheduler linked) ?_ ?_ sound.inHand
  · intro id _
    right
    rw [standing, vacant]
    exact .gone _ _
  · intro id thread token stands _
    rw [standing] at stands
    cases stands

/-- Replacing all scripts keeps both sides in agreement. -/
theorem Sound.loadScripts (sound : Sound none tight scheduler) (batch : Batch) :
    Sound none tight (scheduler.loadScripts batch).2 := by
  have named := sound.quiet (linkKnown_quiet scheduler batch)
  unfold Scheduler.loadScripts
  split
  case h_1 fault left result =>
    rw [result] at named
    exact named
  case h_2 linked left result =>
    rw [result] at named
    obtain ⟨scripts, reads⟩ := linkKnown_reads result
    have parsed : ScriptUnit.parse linked.unit.source = .ok scripts := by
      rw [reads.source]
      exact ScriptUnit.parse_render reads.parts
    rw [Bridge.register_inline named.patient named.unaskedOutbox parsed]
    dsimp only
    generalize settled : ({ left with bridge := _ } : Scheduler (Inline α) α) = settling
    have seats : ∀ id, settling.worker.seat id = .vacant := by
      intro id
      rw [← settled]
      rfl
    have silent : ∀ id, about id (.status .scriptLoading :: left.worker.halt.2) = [] := by
      intro id
      have nobody : (.status .scriptLoading : WorkerMessage α).thread? ≠ some id :=
        (Option.some_ne_none id).symm
      rw [about_cons_of_ne nobody, (ScriptWorker.halt_seat left.worker id).2]
    have posted : Posted (fun _ => True) left (.status .scriptLoading :: left.worker.halt.2)
        settling := by
      rw [← settled]
      refine ⟨rfl, rfl, ?_, ?_, ?_⟩
      · refine (ScriptWorker.replaceScripts_moves left.worker scripts).retell fun id => ?_
        rw [silent, (ScriptWorker.halt_seat left.worker id).2]
      · simp only [queue, List.append_assoc, List.append_nil]
        rfl
      · rw [replies_cons rfl, ScriptWorker.replies_halt]
    have registered : Sound none (fun _ => True) settling := by
      refine named.post posted (Or.inl rfl) ?_ ?_
      · exact fun id told => absurd (silent id) told
      · exact fun _ tied => absurd trivial tied
    exact registered.install seats linked

/-- What the worker does on a batch whose scripts can be read. -/
theorem runAsync_posted (scheduler : Scheduler (Inline α) α) {source : String}
    {scripts : List (Script α)} (read : ScriptUnit.parse source = .ok scripts)
    {starts : List ThreadStart}
    (every : (scheduler.worker.addScripts scripts).admitted starts = starts) :
    Posted (· ∈ starts.map ThreadStart.thread) scheduler
      (scheduler.worker.runAsync scheduler.bridge.transport.moment source starts).2
      { scheduler with bridge := (scheduler.bridge.post (.runAsync source starts)).2 } := by
  have launching := ScriptWorker.launch_added_moves scheduler.worker
    scheduler.bridge.transport.moment scripts starts
  have silent := fun thread => ScriptWorker.about_runAsync scheduler.worker
    scheduler.bridge.transport.moment thread read starts
  have moves : scheduler.worker.Moves (· ∈ starts.map ThreadStart.thread)
      (scheduler.worker.runAsync scheduler.bridge.transport.moment source starts).2
      (scheduler.worker.runAsync scheduler.bridge.transport.moment source starts).1 := by
    have retold := launching.retell silent
    rw [every] at retold
    rw [ScriptWorker.runAsync_eq read] at retold ⊢
    exact retold
  exact posted_of_handle scheduler (.runAsync source starts) rfl moves
    (ScriptWorker.replies_runAsync ..)

/-- A thread that the worker starts on a batch arrives at its first statement. -/
theorem runAsync_arrived (scheduler : Scheduler (Inline α) α) {source : String}
    {scripts : List (Script α)} (read : ScriptUnit.parse source = .ok scripts)
    {starts : List ThreadStart} (numbered : scheduler.worker.Numbered)
    (every : (scheduler.worker.addScripts scripts).admitted starts = starts)
    (distinct : (starts.map ThreadStart.thread).Nodup) {start : ThreadStart}
    (member : start ∈ starts) (vacant : scheduler.worker.seat start.thread = .vacant) :
    ScriptWorker.Arrived start.thread
      ((scheduler.worker.runAsync scheduler.bridge.transport.moment source starts).1.seat
        start.thread)
      (about start.thread
        (scheduler.worker.runAsync scheduler.bridge.transport.moment source starts).2) := by
  have told := ScriptWorker.about_runAsync scheduler.worker scheduler.bridge.transport.moment
    start.thread read starts
  have numberedAdded : (scheduler.worker.addScripts scripts).Numbered := numbered
  have distinctAdmitted : (((scheduler.worker.addScripts scripts).admitted starts).map
      ThreadStart.thread).Nodup := by
    rw [every]
    exact distinct
  have admitted : start ∈ (scheduler.worker.addScripts scripts).admitted starts := by
    rw [every]
    exact member
  obtain ⟨token, -, arrival⟩ := ScriptWorker.launch_seat numberedAdded
    scheduler.bridge.transport.moment distinctAdmitted admitted vacant
  obtain ⟨seat, said⟩ := Prod.mk.inj arrival
  rw [told, said, ScriptWorker.runAsync_eq read]
  dsimp only
  rw [seat]
  exact ScriptWorker.arrive_arrived ..

/-- Running a batch beside the loaded scripts keeps both sides in agreement. -/
theorem Sound.runBatch (sound : Sound none tight scheduler) (batch : Batch) :
    Sound none tight (scheduler.runBatch batch).2 := by
  have named := sound.quiet (linkKnown_quiet scheduler batch)
  unfold Scheduler.runBatch
  split
  case h_1 fault left result =>
    rw [result] at named
    exact named
  case h_2 linked left result =>
    rw [result] at named
    obtain ⟨scripts, reads⟩ := linkKnown_reads result
    have parsed : ScriptUnit.parse linked.unit.source = .ok scripts := by
      rw [reads.source]
      exact ScriptUnit.parse_render reads.parts
    have framed := adoptAll_framed linked.registrations.entries left
    have begun := adoptAll_begun linked.registrations.entries named.orderly
    have advances := adoptAll_advances linked.registrations.entries left
    have sentScripts := adoptAll_scripts linked.registrations.entries left
    generalize left.adoptAll linked.registrations.entries = result
      at framed begun advances sentScripts
    obtain ⟨starts, adopted⟩ := result
    obtain ⟨advances, issued⟩ := advances
    dsimp only at framed begun advances issued sentScripts ⊢
    have everyStart : (adopted.worker.addScripts scripts).admitted starts = starts := by
      refine ScriptWorker.admitted_added fun start member => ?_
      rw [reads.ids, OrderedMap.keys, ← sentScripts]
      exact List.mem_map.mpr ⟨start, member, rfl⟩
    have ready : ∀ id ∈ starts.map ThreadStart.thread, Ready none adopted id := by
      intro id member
      obtain ⟨start, inside, rfl⟩ := List.mem_map.mp member
      obtain ⟨vacant, unheard⟩ := named.unissued start.thread (begun.fresh start inside)
      rw [← framed.worker] at vacant
      rw [← framed.queue] at unheard
      exact ⟨begun.rests start inside, issued named.orderly start inside, vacant, unheard, rfl⟩
    have posted := runAsync_posted adopted parsed everyStart
    have entered := (named.begun framed advances begun).loosen fun id untied =>
      untied.resolve_right List.not_mem_nil
    refine entered.arrive posted ready fun id member => ?_
    have vacant := (ready id member).vacant
    obtain ⟨start, inside, rfl⟩ := List.mem_map.mp member
    exact runAsync_arrived adopted parsed entered.numbered everyStart begun.distinct inside vacant

end Scheduler

end SpriteMachine
