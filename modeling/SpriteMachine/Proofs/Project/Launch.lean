import SpriteMachine.Proofs.Inline.Unstarted
import SpriteMachine.Proofs.Script.Filing

/-!
# The launch of a project

A project is launched on a fresh scheduler: its targets are made, its scripts are loaded, and
the green flag is clicked. Until then no thread has begun, and the worker has given three
notices, two about its environment and one about its scripts. What the flag starts is told by
the project alone: all its code on the flag's event, since every target of a project is an
original.
-/

namespace SpriteMachine

variable {α : Type}

/-- The statements of a piece of code; none when it cannot be read. -/
def Registration.body [Scalar α] (registration : Registration) : List (Statement α) :=
  (Body.parse registration.code).toOption.getD []

namespace Scheduler

variable [Scalar α]

section Populating

variable {τ : Type} [Transport τ α]

/-- The targets of descriptions were made, and nothing else happened that matters to them. -/
structure Populated (specs : List (TargetSpec α)) (before after : Scheduler τ α) : Prop where
  config : after.config = before.config
  registry : after.registry = before.registry
  bridge : after.bridge = before.bridge
  ids : after.ids = before.ids
  stats : after.stats = before.stats
  origins : ∀ id, (after.stage.target? id).map Target.origin =
    if id ∈ specs.map TargetSpec.id then some (id, none)
    else (before.stage.target? id).map Target.origin
  exact : (∀ spec ∈ specs, (Target.ofSpec spec).Counts) → before.stage.Exact → after.stage.Exact

/-- One target is made. -/
theorem addTarget_populated (scheduler : Scheduler τ α) (spec : TargetSpec α) :
    Populated [spec] scheduler (scheduler.addTarget (.ofSpec spec)) := by
  have origin : (Target.ofSpec spec).origin = (spec.id, none) := by
    unfold Target.ofSpec
    cases spec.isStage <;> rfl
  have origins := fun id => Stage.origin_add scheduler.stage (Target.ofSpec spec) id
  have named : (Target.ofSpec spec).id = spec.id := congrArg Prod.fst origin
  have stage : (scheduler.addTarget (.ofSpec spec)).stage =
      scheduler.stage.add (Target.ofSpec spec) := by
    unfold addTarget
    dsimp only
    split <;> rfl
  unfold addTarget at stage ⊢
  dsimp only at stage ⊢
  refine ⟨?_, ?_, ?_, ?_, ?_, fun id => ?_, fun counts exact => ?_⟩
  any_goals split <;> rfl
  · rw [stage, origins, named, origin, List.map_singleton]
    by_cases same : id = spec.id <;> simp [same]
  · rw [stage]
    exact exact.perform (.add (.ofSpec spec)) (counts spec List.mem_cons_self)

/-- Targets are made one after another. -/
theorem foldl_populated (specs : List (TargetSpec α)) (scheduler : Scheduler τ α) :
    Populated specs scheduler
      (specs.foldl (fun scheduler spec => scheduler.addTarget (.ofSpec spec)) scheduler) := by
  induction specs generalizing scheduler with
  | nil => exact ⟨rfl, rfl, rfl, rfl, rfl, fun _ => rfl, fun _ exact => exact⟩
  | cons spec rest inductionHypothesis =>
    have first := addTarget_populated scheduler spec
    have later := inductionHypothesis (scheduler.addTarget (.ofSpec spec))
    refine ⟨later.config.trans first.config, later.registry.trans first.registry,
      later.bridge.trans first.bridge, later.ids.trans first.ids, later.stats.trans first.stats,
      fun id => ?_, fun counts exact => ?_⟩
    · refine (later.origins id).trans ?_
      rw [first.origins id]
      simp only [List.map_cons, List.map_nil, List.mem_cons, List.not_mem_nil, or_false]
      by_cases member : id ∈ rest.map TargetSpec.id <;> simp [member]
    · obtain ⟨made, others⟩ := List.forall_mem_cons.mp counts
      refine later.exact others (first.exact ?_ exact)
      simpa using made

end Populating

omit [Scalar α] in
/-- Where the targets of all scripts are originals, the green flag starts all that is on its
event. -/
theorem flagScripts_listed {τ : Type} {scheduler : Scheduler τ α} {listing : List Registration}
    (registered : scheduler.scripts.values = listing)
    (originals : ∀ registration ∈ listing,
      (scheduler.stage.target? registration.target).any (fun target => !target.isClone) = true) :
    scheduler.flagScripts.map Prod.snd =
      listing.filter fun registration => registration.event = greenFlagHat := by
  subst registered
  rw [OrderedMap.values, List.filter_map, flagScripts]
  refine congrArg _ (List.filter_congr fun entry member => ?_)
  have original := originals entry.2 (List.mem_map.mpr ⟨entry, member, rfl⟩)
  rw [original, Bool.and_true]
  rfl

section Loading

variable {scheduler left : Scheduler (Inline α) α} {linked : Linked} {count : Nat}

/-- Taking over scripts begins nothing. -/
theorem install_kept (scheduler : Scheduler (Inline α) α) (linked : Linked) :
    (scheduler.install linked).config = scheduler.config ∧
      (scheduler.install linked).registry = scheduler.registry ∧
      (scheduler.install linked).stage = scheduler.stage ∧
      (scheduler.install linked).stats = scheduler.stats := by
  have kept := retireAll_framed scheduler.threads.keys scheduler
  exact ⟨kept.config, kept.registry, kept.stage, retireAll_stats scheduler.threads.keys scheduler⟩

/-- What was linked is loaded where nobody runs, with one notice more. -/
theorem loadScripts_rests (rests : scheduler.bridge.Rests count)
    (patient : 0 < scheduler.bridge.timeout) {batch : Batch}
    (result : scheduler.linkKnown batch = (.ok linked, left)) :
    ∃ bridge : Bridge (Inline α) α, bridge.Rests (count + 1) ∧
      bridge.transport.worker.CallsOnly (· ∈ linked.opcodes) ∧
      scheduler.loadScripts batch =
        (.ok linked.unit.events, { left with bridge := bridge }.install linked) := by
  obtain ⟨scripts, reads⟩ := linkKnown_reads result
  have parsed : ScriptUnit.parse linked.unit.source = .ok scripts := by
    rw [reads.source]
    exact ScriptUnit.parse_render reads.parts
  have same : left.bridge = scheduler.bridge := by rw [(linkKnown_ok result).2.1]
  have registers := Bridge.register_inline patient rests.unasked parsed
  refine ⟨_, rests.register patient parsed, fun id script found => ?_, ?_⟩
  · rw [registers] at found
    have inside := (OrderedMap.find_ofList reads.distinct).mp found
    obtain ⟨other, member, same⟩ := List.mem_map.mp inside
    obtain ⟨-, rfl⟩ := Prod.mk.inj same
    exact reads.opcodes other member
  · unfold Scheduler.loadScripts
    rw [result]
    dsimp only
    rw [same, registers]

end Loading

end Scheduler

namespace Project

variable [Scalar α]

/-- The code of a project on the green flag. -/
def flagListing (project : Project α) : List Registration :=
  project.scripts.listing.filter fun registration => registration.event = greenFlagHat

/-- What is done before the scripts of a project are loaded. -/
def setup (project : Project α) (url : String) : List (Operation (Inline α) α) :=
  .attachRenderer :: .openBackend url ::
    project.targets.map fun spec => .addTarget (.ofSpec spec)

/-- The scheduler of a project when its targets are made. -/
def populated (project : Project α) (settings : Settings) : Scheduler (Inline α) α :=
  (scheduler settings).run (project.setup settings.worker.backendUrl)

variable {project : Project α} {settings : Settings}

/-- Nothing in the way reaches behind the scheduler's back. -/
theorem setup_allowed {url : String} {operation : Operation (Inline α) α}
    (member : operation ∈ project.setup url) :
    operation.IsRegular ∧ operation.SparesBridge ∧ operation.KeepsTargets := by
  rcases List.mem_cons.mp member with rfl | later
  · exact ⟨trivial, trivial, trivial⟩
  · rcases List.mem_cons.mp later with rfl | made
    · exact ⟨trivial, trivial, trivial⟩
    · obtain ⟨spec, -, rfl⟩ := List.mem_map.mp made
      exact ⟨trivial, trivial, trivial⟩

/-- The targets of a project are added one after another. -/
theorem populated_eq (project : Project α) (settings : Settings) :
    project.populated settings = project.targets.foldl
      (fun scheduler spec => scheduler.addTarget (.ofSpec spec))
      ((scheduler settings).attachRenderer.openBackend settings.worker.backendUrl).2 := by
  rw [populated, setup, Scheduler.run, List.foldl_cons, List.foldl_cons, List.foldl_map]
  rfl

/-- A project is launched when its scripts are loaded and the green flag starts them. -/
theorem launched_eq {events : EventMap} {loaded started : Scheduler (Inline α) α}
    {ids : List ThreadId}
    (loads : (project.populated settings).loadScripts project.scripts = (.ok events, loaded))
    (starts : loaded.greenFlag = (.ok ids, started)) :
    project.launched settings = .ok started := by
  have opened : (scheduler settings : Scheduler (Inline α) α).attachRenderer.openBackend
      settings.worker.backendUrl = (.ok (), ((scheduler settings).attachRenderer.openBackend
        settings.worker.backendUrl).2) := rfl
  rw [populated_eq] at loads
  unfold launched Scheduler.launch
  rw [opened]
  dsimp only
  rw [loads]
  dsimp only
  rw [starts]

/-- A project is populated with its targets and nothing else is touched. -/
theorem populated_kept (project : Project α) (settings : Settings) :
    Scheduler.Populated project.targets
      ((scheduler settings).attachRenderer.openBackend settings.worker.backendUrl).2
      (project.populated settings) := by
  rw [populated_eq]
  exact Scheduler.foldl_populated project.targets _

/-- The targets of a project stand on the stage, all of them originals, and no others. -/
theorem populated_origin (project : Project α) (settings : Settings) (id : TargetId) :
    ((project.populated settings).stage.target? id).map Target.origin =
      if id ∈ project.targets.map TargetSpec.id then some (id, none) else none := by
  have attached := (Stage.Renews.attach (Stage.empty settings.schedulerConfig.maxClones)
    (.fresh : Renderer α)).origins id
  refine ((populated_kept project settings).origins id).trans ?_
  congr 1

/-- The targets on the stage are those of the project. -/
theorem populated_contains (project : Project α) (settings : Settings) :
    (project.populated settings).stage.contains =
      fun id => decide (id ∈ project.targets.map TargetSpec.id) := by
  funext id
  have origin := populated_origin project settings id
  rw [Stage.contains_eq_isSome, ← Option.isSome_map, origin]
  split
  case isTrue named =>
    rw [decide_eq_true named]
    rfl
  case isFalse unnamed =>
    rw [decide_eq_false unnamed]
    rfl

/-- The targets of a project are no clones. -/
theorem populated_original (project : Project α) (settings : Settings) {id : TargetId}
    (named : id ∈ project.targets.map TargetSpec.id) :
    ((project.populated settings).stage.target? id).any (fun target => !target.isClone) = true := by
  have origin := populated_origin project settings id
  rw [if_pos named] at origin
  obtain ⟨target, found, same⟩ := Option.map_eq_some_iff.mp origin
  have original : target.cloneOf = none := congrArg Prod.snd same
  rw [found, Option.any_some, Target.isClone, original]
  rfl

/-- The worker has told about its environment. -/
theorem populated_rests (project : Project α) (untimed : settings.scheduler.blockTimeout = 0) :
    (project.populated settings).bridge.Rests 2 := by
  have endless : settings.schedulerConfig.blockTimeout = none := if_pos untimed
  have fresh : (scheduler settings : Scheduler (Inline α) α).bridge.Rests 0 := by
    unfold scheduler
    dsimp only
    rw [endless]
    exact Bridge.across_rests _
  rw [(populated_kept project settings).bridge]
  exact fresh.openBackend settings.worker.backendUrl

/-- The scripts of a project link against its targets, and they call only blocks that neither
yield nor start or stop threads. -/
def IsPlain (project : Project α) : Prop :=
  ∃ linked, (Linker.link α project.scripts
      (fun id => decide (id ∈ project.targets.map TargetSpec.id)) .safe).1 = .ok linked ∧
    ∀ opcode ∈ linked.opcodes, Registry.standard.OffersSwift opcode

/-- The arithmetic of a project is sure to be exact: a word with a sign counts the costumes of
every target, and the scripts neither choose a costume by its number nor go forward or backward
in paint order. -/
structure IsSure (project : Project α) : Prop where
  countable : ∀ spec ∈ project.targets, ∀ count, spec.costumeCount = some count →
    (count : Int) ≤ Width.high64
  spares : ∀ linked, (Linker.link α project.scripts
      (fun id => decide (id ∈ project.targets.map TargetSpec.id)) .safe).1 = .ok linked →
    ∀ opcode ∈ linked.opcodes, opcode ∉ ["looks_switchcostumeto", "looks_goforwardbackwardlayers"]

/-- A target that is made of a description can count its costumes if the description's count is
one of a word with a sign. -/
theorem counts_ofSpec {spec : TargetSpec α}
    (countable : ∀ count, spec.costumeCount = some count → (count : Int) ≤ Width.high64) :
    (Target.ofSpec spec).Counts := by
  have bound : ((spec.costumeCount.getD 1 : Nat) : Int) ≤ Width.high64 := by
    cases told : spec.costumeCount with
    | none => decide
    | some count => exact countable count told
  have one : (1 : Int) ≤ Width.high64 := by decide
  refine ⟨Nat.mod_lt _ (by omega), ?_⟩
  change ((max (spec.costumeCount.getD 1) 1 : Nat) : Int) ≤ Width.high64
  omega

/-- So the stage of a project whose arithmetic is sure is exact when its targets are made. -/
theorem populated_exact (project : Project α) (settings : Settings) (sure : project.IsSure) :
    (project.populated settings).stage.Exact := by
  refine (populated_kept project settings).exact (fun spec member => ?_) ?_
  · exact counts_ofSpec (sure.countable spec member)
  · exact (Stage.exact_empty _).perform .attach trivial

/-- The scripts of a project are loaded, and nobody runs yet. -/
structure Prepared (project : Project α) (settings : Settings)
    (loaded : Scheduler (Inline α) α) : Prop where
  config : loaded.config = settings.schedulerConfig
  registry : loaded.registry = .standard
  registered : loaded.stats.threadsRegistered = 0
  sound : Scheduler.Sound none Scheduler.tight loaded
  shares : Scheduler.Shares settings.scheduler.requestTimeout loaded
  tidy : Scheduler.Tidy loaded
  rests : loaded.bridge.Rests 3
  calls : loaded.worker.CallsOnly (loaded.registry.Offers project.IsSure)
  flagged : loaded.flagScripts.map Prod.snd = project.flagListing
  exact : project.IsSure → loaded.stage.Exact

/-- Host and worker agree when a project is populated. -/
theorem populated_sound (project : Project α)
    (strict : settings.scheduler.endFaultedThreads = true)
    (patient : 0 < settings.scheduler.requestTimeout) :
    Scheduler.Sound none Scheduler.tight (project.populated settings) := by
  have fresh : Scheduler.Sound none Scheduler.tight (scheduler settings : Scheduler (Inline α) α) :=
    Scheduler.fresh_sound _ _ IdSource.safe_distinct strict patient
  exact Scheduler.run_induction (fun _ _ allowed sound => sound.perform allowed) fresh
    fun operation member => (setup_allowed member).1

/-- A plain project passes the check on the scheduler that has its targets. -/
theorem IsPlain.known (plain : project.IsPlain) (settings : Settings) :
    ∃ linked left, (project.populated settings).linkKnown project.scripts = (.ok linked, left) ∧
      ∀ opcode ∈ linked.opcodes, Registry.standard.Offers project.IsSure opcode := by
  obtain ⟨linked, links, swift⟩ := plain
  have offers : ∀ opcode ∈ linked.opcodes, Registry.standard.Offers project.IsSure opcode := by
    intro opcode member
    obtain ⟨block, found, prompt⟩ := swift opcode member
    refine ⟨block, found, prompt, fun sure => ?_⟩
    exact Registry.standard_exact found (sure.spares linked links opcode member)
  have kept := populated_kept project settings
  have ids : (project.populated settings).ids = .safe := kept.ids
  have registry : (project.populated settings).registry = .standard := kept.registry
  have offered : (project.populated settings).registry.missing linked.opcodes = [] := by
    rw [registry, Registry.missing_eq_nil]
    intro opcode member
    obtain ⟨block, found, -⟩ := swift opcode member
    rw [found]
    rfl
  refine ⟨linked, (project.populated settings).linkKnown project.scripts |>.2, ?_, offers⟩
  rw [← populated_contains project settings, ← ids] at links
  refine Prod.ext ?_ rfl
  generalize result : Linker.link α project.scripts (project.populated settings).stage.contains
    (project.populated settings).ids = outcome at links
  obtain ⟨linking, later⟩ := outcome
  obtain rfl : linking = .ok linked := links
  unfold Scheduler.linkKnown
  rw [result]
  exact if_pos offered

/-- The scripts of a plain project are loaded. -/
theorem exists_prepared (plain : project.IsPlain)
    (strict : settings.scheduler.endFaultedThreads = true)
    (patient : 0 < settings.scheduler.requestTimeout)
    (untimed : settings.scheduler.blockTimeout = 0) :
    ∃ events loaded,
      (project.populated settings).loadScripts project.scripts = (.ok events, loaded) ∧
        project.Prepared settings loaded := by
  obtain ⟨linked, left, known, offers⟩ := plain.known settings
  obtain ⟨links, kept, -⟩ := Scheduler.linkKnown_ok known
  have made := populated_kept project settings
  have sound := populated_sound project strict patient
  have shares : Scheduler.Shares settings.scheduler.requestTimeout (project.populated settings) :=
    Scheduler.run_shares settings.schedulerConfig .standard _ .safe
      fun operation member => (setup_allowed member).2.1
  have tidy : Scheduler.Tidy (project.populated settings) :=
    Scheduler.run_tidy settings.schedulerConfig .standard _ .safe _
      fun operation member => (setup_allowed member).2.2
  obtain ⟨bridge, rests, calls, loads⟩ :=
    Scheduler.loadScripts_rests (populated_rests project untimed) sound.patient known
  have sound := sound.loadScripts project.scripts
  have shares := shares.loadScripts project.scripts
  have tidy := tidy.loadScripts project.scripts
  refine ⟨_, _, loads, ?_⟩
  rw [loads] at sound shares tidy
  obtain ⟨config, registry, stage, stats⟩ :=
    Scheduler.install_kept { left with bridge := bridge } linked
  obtain ⟨framed, -⟩ := Scheduler.install_framed { left with bridge := bridge } linked
  have standard : ({ left with bridge := bridge }.install linked).registry = .standard := by
    rw [registry, kept]
    exact made.registry
  refine ⟨?_, standard, ?_, sound, shares, tidy, ?_, ?_, ?_, fun sure => ?_⟩
  · rw [config, kept]
    exact made.config
  · rw [stats, kept]
    exact congrArg SchedulerCounts.threadsRegistered made.stats
  · rw [framed]
    exact rests
  · intro id script found statement member
    rw [Scheduler.worker, framed] at found
    rw [standard]
    exact offers statement.opcode (calls id script found statement member)
  · have distinct : (project.populated settings).ids.Distinct := by
      rw [made.ids]
      exact IdSource.safe_distinct
    obtain ⟨registered, live⟩ := Linker.link_listed distinct links
    refine Scheduler.flagScripts_listed registered fun registration member => ?_
    have present := live registration member
    rw [populated_contains, decide_eq_true_iff] at present
    rw [stage, kept]
    exact populated_original project settings present
  · rw [stage, kept]
    exact populated_exact project settings sure

end Project

end SpriteMachine
