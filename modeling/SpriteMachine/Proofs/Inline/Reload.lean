import SpriteMachine.Proofs.Block.Registry
import SpriteMachine.Proofs.Inline.Shared

/-!
# Loading is all or nothing

A batch is refused when it cannot be linked or calls an opcode that names no block, and for
no other reason: the worker reads every unit that was linked. A refused batch uses up names
and changes nothing else. A batch that is not refused replaces the scripts of both sides and
leaves no thread on either. So the worker never refuses to start a script that the host
keeps.
-/

namespace SpriteMachine

variable {α : Type} [Scalar α]

namespace Scheduler

section Linking

variable {τ : Type} {scheduler : Scheduler τ α} {batch : Batch}

/-- A batch cannot be linked, or some code of it calls an opcode that names no block. -/
def Rejects (scheduler : Scheduler τ α) (batch : Batch) : Prop :=
  (∃ fault ids, Linker.link α batch scheduler.stage.contains scheduler.ids = (.error fault, ids)) ∨
    ∃ placement ∈ batch.placements, ∃ fragment ∈ placement.2.2.fragments,
      ∃ opcode, Linker.Calls α fragment.2 opcode ∧ scheduler.registry.block? opcode = none

/-- Checking a batch draws names and changes nothing else. -/
theorem linkKnown_names (scheduler : Scheduler τ α) (batch : Batch) :
    (scheduler.linkKnown batch).2 =
      { scheduler with ids := (scheduler.linkKnown batch).2.ids } := by
  unfold linkKnown
  split <;> rfl

/-- The check finds exactly what is to be rejected. -/
theorem linkKnown_rejects :
    (∃ fault, (scheduler.linkKnown batch).1 = .error fault) ↔ scheduler.Rejects batch := by
  cases links : Linker.link α batch scheduler.stage.contains scheduler.ids with
  | mk outcome later =>
    cases outcome with
    | error fault =>
      refine ⟨fun _ => Or.inl ⟨fault, later, links⟩, fun _ => ⟨.link fault, ?_⟩⟩
      rw [linkKnown, links]
    | ok linked =>
      have checked : (scheduler.linkKnown batch).1 =
          if scheduler.registry.missing linked.opcodes = [] then .ok linked
          else .error (.unregisteredOpcodes (scheduler.registry.missing linked.opcodes)) := by
        rw [linkKnown, links]
      constructor
      · rintro ⟨fault, failed⟩
        rw [checked] at failed
        split at failed
        case isTrue => cases failed
        case isFalse missing =>
          rw [Registry.missing_eq_nil] at missing
          push Not at missing
          obtain ⟨opcode, listed, unknown⟩ := missing
          obtain ⟨placement, present, fragment, inside, calls⟩ :=
            (Linker.link_opcodes links opcode).mp listed
          refine Or.inr ⟨placement, present, fragment, inside, opcode, calls, ?_⟩
          simpa using unknown
      · rintro (⟨fault, ids, failed⟩ | ⟨placement, present, fragment, inside, opcode, calls,
          unknown⟩)
        · rw [links] at failed
          cases failed
        · have listed := (Linker.link_opcodes links opcode).mpr
            ⟨placement, present, fragment, inside, calls⟩
          rw [checked, if_neg]
          · exact ⟨_, rfl⟩
          · intro known
            have some := Registry.missing_eq_nil.mp known opcode listed
            rw [unknown] at some
            cases some

end Linking

section Loading

variable {scheduler : Scheduler (Inline α) α}

/-- Both sides behind a batch that was loaded: no thread of the host is active, the worker
runs and awaits nothing, and its scripts are the registrations that were linked, read. -/
structure Reloaded (before : Scheduler (Inline α) α) (batch : Batch) (events : EventMap)
    (after : Scheduler (Inline α) α) : Prop where
  linked : ∃ linked, Linker.link α batch before.stage.contains before.ids =
    (.ok linked, after.ids) ∧
    events = linked.unit.events ∧ after.events = events ∧ after.scripts = linked.registrations
  ended : ∀ id, after.isLive id = false
  idle : ∀ id, after.worker.running.find? id = none
  unawaited : ∀ token, after.worker.pending.table.find? token = none
  loaded : ∀ id script, after.worker.scripts.find? id = some script ↔
    ∃ registration body, after.scripts.find? id = some registration ∧
      Body.parse registration.code = .ok body ∧ script = ⟨id, registration.target, body⟩

/-- A batch is rejected and only names are used up, or it is loaded. -/
theorem loadScripts_cases {limit : Nat} (shares : Shares limit scheduler) (patient : 0 < limit)
    (batch : Batch) :
    (scheduler.Rejects batch ∧ (∃ fault, (scheduler.loadScripts batch).1 = .error fault) ∧
      (scheduler.loadScripts batch).2 =
        { scheduler with ids := (scheduler.loadScripts batch).2.ids }) ∨
    (¬ scheduler.Rejects batch ∧ ∃ events, (scheduler.loadScripts batch).1 = .ok events ∧
      Reloaded scheduler batch events (scheduler.loadScripts batch).2) := by
  have named := linkKnown_names scheduler batch
  have rejects : (∃ fault, (scheduler.linkKnown batch).1 = .error fault) ↔
      scheduler.Rejects batch := linkKnown_rejects
  cases links : scheduler.linkKnown batch with
  | mk outcome left =>
    rw [links] at named rejects
    cases outcome with
    | error fault =>
      left
      have failed : scheduler.loadScripts batch = (.error fault, left) := by
        unfold Scheduler.loadScripts
        rw [links]
      rw [failed]
      exact ⟨rejects.mp ⟨fault, rfl⟩, ⟨fault, rfl⟩, named⟩
    | ok linked =>
      right
      refine ⟨fun rejected => ?_, ?_⟩
      · obtain ⟨fault, failed⟩ := rejects.mpr rejected
        cases failed
      · have quiet := linkKnown_quiet scheduler batch
        rw [links] at quiet
        have kept := shares.pass quiet.passes
        obtain ⟨scripts, reads⟩ := linkKnown_reads links
        obtain ⟨bridge, -, -, worker, loads⟩ :=
          loadScripts_linked links kept.prompt (kept.timeout ▸ patient) reads
        rw [loads]
        obtain ⟨framed, ids⟩ := install_framed { left with bridge := bridge } linked
        refine ⟨linked.unit.events, rfl, ⟨⟨linked, ?_, rfl, rfl, rfl⟩, fun id => ?_, fun id => ?_,
          fun token => ?_, fun id script => ?_⟩⟩
        · rw [ids]
          exact (linkKnown_ok links).1
        · rw [isLive_eq_standing]
          exact congrArg Option.isSome (standing_retireKeys _ id)
        · rw [Scheduler.worker, framed, worker]
          rfl
        · rw [Scheduler.worker, framed, worker]
          rfl
        · rw [Scheduler.worker, framed, worker]
          exact (OrderedMap.find_ofList reads.distinct).trans reads.mem_iff

/-- The worker starts every thread that a hat begins. -/
theorem startHats_admitted {limit : Nat} (shares : Shares limit scheduler) (patient : 0 < limit)
    (distinct : scheduler.ids.Distinct) {hat : String} {restarting : Bool}
    (known : scheduler.registry.hat? hat = some restarting) (filter : HatFilter) :
    (scheduler.startHats hat filter).1 = .ok
      ((beginAll hat restarting scheduler (scheduler.hatCandidates hat filter)).1.1.map
        ThreadStart.thread) := by
  have begins := beginAll_strokes hat restarting (scheduler.hatCandidates hat filter) scheduler
  have scripts := beginAll_scripts hat restarting (scheduler.hatCandidates hat filter) scheduler
  unfold Scheduler.startHats
  rw [known]
  dsimp only
  generalize beginAll hat restarting scheduler (scheduler.hatCandidates hat filter) = result
    at begins scripts
  obtain ⟨⟨starts, replaced⟩, begun⟩ := result
  dsimp only at begins scripts ⊢
  have tells : Strokes scheduler (begun.tellStopped replaced) :=
    begins.trans (tellStopped_strokes begun replaced)
  have told := shares.pass tells.passes
  generalize begun.tellStopped replaced = telling at tells told
  split
  case isTrue nobody =>
    rw [nobody]
    rfl
  case isFalse =>
    have admits : telling.worker.admitted starts = starts := by
      refine List.filter_eq_self.mpr fun start member => ?_
      obtain ⟨candidate, present, same⟩ := scripts start member
      obtain ⟨registration, kept⟩ := hatCandidates_kept present
      obtain ⟨body, -, stored⟩ := shares.loaded distinct candidate.script registration kept
      have loaded : telling.worker.scripts = scheduler.worker.scripts := tells.passes.bridge.scripts
      rw [← same, OrderedMap.contains_eq_isSome, loaded, stored]
      rfl
    have asked := Bridge.startHats_inline (told.timeout ▸ patient)
      (told.prompt.unasked (told.timeout ▸ patient)) hat filter.option starts
    unfold Scheduler.requestStarts
    rw [asked]
    exact congrArg (fun admitted => Except.ok (admitted.map ThreadStart.thread)) admits

end Loading

/-- Loading is all or nothing on both sides. Beside an inline worker whose host waits for
replies, a batch fails to load exactly when it cannot be linked or calls an unknown opcode,
and then only names are used up; a batch that loads leaves no thread on either side, and in
the worker the scripts that it registered. Behind any operations every script of the host is
loaded in the worker, so no thread that a hat begins is refused. -/
theorem loading_is_all_or_nothing (config : SchedulerConfig) (registry : Registry)
    (motors : Motors (LoopbackLink α) α) (ids : IdSource) (patient : 0 < config.requestTimeout)
    (operations : List (Operation (Inline α) α))
    (spared : ∀ operation ∈ operations, operation.SparesBridge) :
    let now := (fresh config registry (Inline.idle config.blockTimeout) ids motors).run operations
    (∀ batch fault, (now.loadScripts batch).1 = .error fault →
      (now.loadScripts batch).2 = { now with ids := (now.loadScripts batch).2.ids }) ∧
    (∀ batch, (∃ fault, (now.loadScripts batch).1 = .error fault) ↔ now.Rejects batch) ∧
    (∀ batch events, (now.loadScripts batch).1 = .ok events →
      Reloaded now batch events (now.loadScripts batch).2) ∧
    (ids.Distinct →
      (∀ id registration, now.scripts.find? id = some registration →
        now.HasLoaded id registration) ∧
      ∀ hat filter restarting, now.registry.hat? hat = some restarting →
        (now.startHats hat filter).1 = .ok
          ((beginAll hat restarting now (now.hatCandidates hat filter)).1.1.map
            ThreadStart.thread)) := by
  intro now
  have shares : Shares config.requestTimeout now :=
    run_shares config registry motors ids spared
  have outcomes := loadScripts_cases shares patient
  refine ⟨fun batch fault failed => ?_, fun batch => ?_, fun batch events passed => ?_,
    fun distinct => ?_⟩
  · rcases outcomes batch with ⟨-, -, kept⟩ | ⟨-, events, passed, -⟩
    · exact kept
    · rw [passed] at failed
      cases failed
  · rcases outcomes batch with ⟨rejected, failed, -⟩ | ⟨accepted, events, passed, -⟩
    · exact iff_of_true failed rejected
    · refine iff_of_false ?_ accepted
      rintro ⟨fault, failed⟩
      rw [passed] at failed
      cases failed
  · rcases outcomes batch with ⟨-, ⟨fault, failed⟩, -⟩ | ⟨-, other, again, reloaded⟩
    · rw [failed] at passed
      cases passed
    · rw [again] at passed
      obtain rfl := Except.ok.inj passed
      exact reloaded
  · have drawn : now.ids.Distinct :=
      (run_advances operations _ (fresh_orderly config registry _ motors distinct)).1.distinct
    exact ⟨shares.loaded drawn, fun hat filter restarting known =>
      startHats_admitted shares patient drawn known filter⟩

/-- A batch for a target that is there loads, and one for a target that is not changes
nothing but the source of names. -/
theorem singleScript_reloads :
    let empty := standardScheduler
    let staged := standardScheduler.run [.addTarget (.sprite ⟨"cat"⟩ "Cat")]
    (empty.loadScripts singleScript).2 =
        { empty with ids := (empty.loadScripts singleScript).2.ids } ∧
      ∃ events, Reloaded staged singleScript events (staged.loadScripts singleScript).2 := by
  intro empty staged
  have outcomes := loading_is_all_or_nothing .standard .standard
    (.atRest .reliable Motors.defaultBackoff : Motors (LoopbackLink Rat) Rat) .numbered (by decide)
  constructor
  · obtain ⟨kept, -⟩ := outcomes [] fun _ none => (List.not_mem_nil none).elim
    cases failed : (empty.loadScripts singleScript).1 with
    | error fault => exact kept singleScript fault failed
    | ok events =>
      have refused : (empty.loadScripts singleScript).1.isOk = false := by decide +kernel
      rw [failed] at refused
      cases refused
  · obtain ⟨-, -, reloads, -⟩ := outcomes [.addTarget (.sprite ⟨"cat"⟩ "Cat")]
      fun operation member => by rw [List.mem_singleton.mp member]; exact trivial
    cases passed : (staged.loadScripts singleScript).1 with
    | ok events => exact ⟨events, reloads singleScript events passed⟩
    | error fault =>
      have loaded : (staged.loadScripts singleScript).1.isOk = true := by decide +kernel
      rw [passed] at loaded
      cases loaded

end Scheduler

end SpriteMachine
