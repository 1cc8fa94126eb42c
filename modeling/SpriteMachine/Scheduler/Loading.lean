import SpriteMachine.Scheduler.Hats

/-!
# Loading scripts

Loading a batch is all or nothing. It is linked, every opcode has to name a
block, and the worker has to accept the unit; only then the scheduler takes over
the new scripts and ends every thread, as the worker did with its own. Until then
nothing but the source of names has changed.
-/

namespace SpriteMachine

namespace Scheduler

variable {τ α : Type} [Scalar α] [Transport τ α]

/-- Tells the worker that the host is there and which environment to prepare. -/
def openBackend (scheduler : Scheduler τ α) (url : String) :
    Except SchedulerFault Unit × Scheduler τ α :=
  match scheduler.bridge.post .connected with
  | (.error fault, bridge) => (.error (.bridge fault), { scheduler with bridge := bridge })
  | (.ok _, bridge) =>
    match bridge.post (.prepare url) with
    | (.error fault, bridge) => (.error (.bridge fault), { scheduler with bridge := bridge })
    | (.ok _, bridge) => (.ok (), { scheduler with bridge := bridge })

/-- Links a batch whose opcodes all name blocks. -/
def linkKnown (scheduler : Scheduler τ α) (batch : Batch) :
    Except SchedulerFault Linked × Scheduler τ α :=
  match Linker.link α batch scheduler.stage.contains scheduler.ids with
  | (.error fault, ids) => (.error (.link fault), { scheduler with ids := ids })
  | (.ok linked, ids) =>
    let missing := scheduler.registry.missing linked.opcodes
    (if missing = [] then .ok linked else .error (.unregisteredOpcodes missing),
      { scheduler with ids := ids })

/-- Takes over the scripts of a linked batch and ends every thread. -/
def install (scheduler : Scheduler τ α) (linked : Linked) : Scheduler τ α :=
  let ended := scheduler.retireAll scheduler.threads.keys
  { ended with
    returns := .empty
    scripts := linked.registrations
    events := linked.unit.events }.emit .projectLoaded

/-- Replaces all scripts by those of a batch. -/
def loadScripts (scheduler : Scheduler τ α) (batch : Batch) :
    Except SchedulerFault EventMap × Scheduler τ α :=
  match scheduler.linkKnown batch with
  | (.error fault, scheduler) => (.error fault, scheduler)
  | (.ok linked, scheduler) =>
    match scheduler.bridge.register linked.unit with
    | (.error fault, bridge) => (.error (.bridge fault), { scheduler with bridge := bridge })
    | (.ok _, bridge) =>
      (.ok linked.unit.events, { scheduler with bridge := bridge }.install linked)

/-- Registers one thread for each script of a batch. -/
def adoptAll : Scheduler τ α → List (ScriptId × Registration) →
    List ThreadStart × Scheduler τ α
  | scheduler, [] => ([], scheduler)
  | scheduler, (script, registration) :: rest =>
    match scheduler.addThread registration.target false with
    | (id, scheduler) =>
      match adoptAll scheduler rest with
      | (starts, scheduler) => (⟨id, script, registration.target⟩ :: starts, scheduler)

/-- Runs the scripts of a batch once, beside the loaded ones. -/
def runBatch (scheduler : Scheduler τ α) (batch : Batch) :
    Except SchedulerFault (List ThreadId) × Scheduler τ α :=
  match scheduler.linkKnown batch with
  | (.error fault, scheduler) => (.error fault, scheduler)
  | (.ok linked, scheduler) =>
    match scheduler.adoptAll linked.registrations.entries with
    | (starts, scheduler) =>
      let threads := starts.map ThreadStart.thread
      match scheduler.bridge.post (.runAsync linked.unit.source starts) with
      | (.error fault, bridge) =>
        (.error (.bridge fault), { scheduler with bridge := bridge }.retireAll threads)
      | (.ok _, bridge) => (.ok threads, { scheduler with bridge := bridge })

end Scheduler

end SpriteMachine
