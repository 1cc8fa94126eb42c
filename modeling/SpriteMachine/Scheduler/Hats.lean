import SpriteMachine.Scheduler.Threads

/-!
# Hats, stops and clones

A hat starts one thread for each of its scripts on each instance of the script's
target. A restarting hat first retires the threads that still run for the same
script on the same instance; any other hat passes such a pair over. The worker is
told to start the threads and may refuse some, which are retired at once.

Stopping ends threads on the host, tells the worker, and never fails: what the
worker still sends about a stopped thread is ignored later.
-/

namespace SpriteMachine

namespace Scheduler

variable {τ α : Type} [Scalar α] [Transport τ α]

/-- A script that a hat is to start on an instance of its target. -/
structure HatCandidate where
  script : ScriptId
  target : TargetId
  option : Option String
deriving DecidableEq, Repr

/-- Whether a registration belongs to a hat and has a wanted option. -/
def matchesHat (hat : String) (wanted : Option String) (registration : Registration) : Bool :=
  registration.event = hat &&
    wanted.all fun wanted => registration.option.any (Text.sameIgnoringCase · wanted)

/-- The scripts and instances that a hat concerns, in the order of registration and
then of the targets. -/
def hatCandidates (scheduler : Scheduler τ α) (hat : String) (filter : HatFilter) :
    List HatCandidate :=
  (scheduler.scripts.entries.filter fun (_, registration) =>
      matchesHat hat filter.option registration).flatMap fun (script, registration) =>
    ((scheduler.stage.instancesOf registration.target).filter fun target =>
        filter.target.all (· = target)).map fun target =>
      ⟨script, target, registration.option⟩

/-- The active threads of a script on a target. -/
def activeOn (scheduler : Scheduler τ α) (script : ScriptId) (target : TargetId) :
    List ThreadId :=
  (scheduler.threads.values.filter fun thread =>
    thread.isActive && thread.target = target &&
      thread.binding.any fun binding => binding.script = script).map Thread.id

/-- Registers the thread of a candidate. -/
def beginCandidate (scheduler : Scheduler τ α) (hat : String) (candidate : HatCandidate) :
    ThreadStart × Scheduler τ α :=
  match scheduler.nextThreadId with
  | (id, scheduler) =>
    (⟨id, candidate.script, candidate.target⟩,
      scheduler.adopt (.forHat id candidate.target ⟨candidate.script, hat, candidate.option⟩))

/-- Registers threads for candidates one after another. The results are the threads to
start and the threads they replace. -/
def beginAll (hat : String) (restarting : Bool) :
    Scheduler τ α → List HatCandidate → (List ThreadStart × List ThreadId) × Scheduler τ α
  | scheduler, [] => (([], []), scheduler)
  | scheduler, candidate :: rest =>
    let active := scheduler.activeOn candidate.script candidate.target
    if active ≠ [] ∧ !restarting then beginAll hat restarting scheduler rest
    else
      match (scheduler.retireAll active).beginCandidate hat candidate with
      | (start, scheduler) =>
        match beginAll hat restarting scheduler rest with
        | ((starts, replaced), scheduler) => ((start :: starts, active ++ replaced), scheduler)

/-- Tells the worker to stop threads. A cut transport is no fault here. -/
def tellStopped (scheduler : Scheduler τ α) (threads : List ThreadId) : Scheduler τ α :=
  { scheduler with bridge := (scheduler.bridge.stopThreads threads).2 }

/-- Asks the worker to start registered threads and retires those it does not start. -/
def requestStarts (scheduler : Scheduler τ α) (hat : String) (option : Option String)
    (starts : List ThreadStart) : Except SchedulerFault (List ThreadId) × Scheduler τ α :=
  match scheduler.bridge.startHats hat option starts with
  | (.ok accepted, bridge) =>
    (.ok accepted, { scheduler with bridge := bridge }.retireAll
      ((starts.map ThreadStart.thread).filter (· ∉ accepted)))
  | (.error fault, bridge) =>
    (.error (.bridge fault),
      { scheduler with bridge := bridge }.retireAll (starts.map ThreadStart.thread))

/-- Starts the scripts of a hat. -/
def startHats (scheduler : Scheduler τ α) (hat : String) (filter : HatFilter) :
    Except SchedulerFault (List ThreadId) × Scheduler τ α :=
  match scheduler.registry.hat? hat with
  | none => (.error (.unknownHat hat), scheduler)
  | some restarting =>
    match beginAll hat restarting scheduler (scheduler.hatCandidates hat filter) with
    | ((starts, replaced), begun) =>
      let told := begun.tellStopped replaced
      if starts = [] then (.ok [], told) else told.requestStarts hat filter.option starts

/-- Announces the removal of targets. -/
def announceRemoved (scheduler : Scheduler τ α) (targets : List TargetId) : Scheduler τ α :=
  targets.foldl (fun scheduler id => scheduler.emit (.targetWasRemoved id)) scheduler

/-- Removes every clone from the stage and announces it. -/
def disposeClones (scheduler : Scheduler τ α) : Scheduler τ α :=
  match scheduler.stage.disposeClones with
  | (clones, stage) => { scheduler with stage := stage }.announceRemoved (clones.map Target.id)

/-- Ends every thread and forgets those that run on a clone or on no target. -/
def endEveryThread (scheduler : Scheduler τ α) : Scheduler τ α :=
  let ended := scheduler.retireAll scheduler.threads.keys
  { ended with
    threads := ended.threads.filter fun _ thread =>
      (ended.stage.target? thread.target).any fun target => !target.isClone }

/-- Stops everything: threads, clones, motors and whatever the worker runs. -/
def stopAll (scheduler : Scheduler τ α) : Scheduler τ α :=
  let announced := scheduler.emit .projectStopAll
  let cleared := { announced with stage := announced.stage.onStopAll }
  let emptied := cleared.endEveryThread.disposeClones
  { emptied with
    returns := .empty
    bridge := (emptied.bridge.post .stopAll).2
    stage := emptied.stage.requestRedraw }

/-- Starts the project over: everything is stopped, the timer is reset and the green
flag's scripts are started. -/
def greenFlag (scheduler : Scheduler τ α) :
    Except SchedulerFault (List ThreadId) × Scheduler τ α :=
  let stopped := scheduler.stopAll.emit .projectStart
  { stopped with
    stage := stopped.stage.onGreenFlag
    devices := { stopped.devices with clock := stopped.devices.clock.reset } }.startHats
      greenFlagHat .any

/-- The active threads on a target. -/
def activeThreadsOn (scheduler : Scheduler τ α) (target : TargetId) : List ThreadId :=
  (scheduler.threads.values.filter fun thread =>
    thread.isActive && thread.target = target).map Thread.id

/-- Ends the threads of a target, all but one that may be kept. -/
def stopForTarget (scheduler : Scheduler τ α) (target : TargetId) (keep : Option ThreadId) :
    List ThreadId × Scheduler τ α :=
  let ended := (scheduler.activeThreadsOn target).filter fun id => some id ≠ keep
  (ended, ((scheduler.retireAll ended).tellStopped ended).emit (.stopForTarget target))

/-- Ends a thread on both sides. -/
def stopThread (scheduler : Scheduler τ α) (id : ThreadId) :
    Except SchedulerFault Unit × Scheduler τ α :=
  match scheduler.endThread id with
  | (.error fault, scheduler) => (.error fault, scheduler)
  | (.ok _, scheduler) => (.ok (), (scheduler.retire id).tellStopped [id])

/-- Makes a clone and starts its scripts. There is none when the limit is reached or
the source is the stage. -/
def makeClone (scheduler : Scheduler τ α) (source : TargetId) :
    Except SchedulerFault (Option TargetId) × Scheduler τ α :=
  if !scheduler.stage.hasRoom then (.ok none, scheduler)
  else
    match scheduler.stage.target? source with
    | none => (.error (.unknownTarget source), scheduler)
    | some parent =>
      if parent.isStage then (.ok none, scheduler)
      else
        match scheduler.ids.draw (scheduler.stage.targets.keys.map TargetId.text) with
        | (name, ids) =>
          let id : TargetId := ⟨name⟩
          let added := { scheduler with
            ids := ids
            stage := scheduler.stage.add (parent.clone id) }
          let announced := added.emit (.targetWasCreated id (some source))
          if announced.registry.isHat cloneHat then
            (.ok (some id), (announced.startHats cloneHat ⟨none, some id⟩).2)
          else (.ok (some id), announced)

/-- Removes a clone and ends its threads; any other target is left alone. -/
def disposeClone (scheduler : Scheduler τ α) (id : TargetId) :
    Except SchedulerFault Bool × Scheduler τ α :=
  match scheduler.stage.target? id with
  | none => (.error (.unknownTarget id), scheduler)
  | some target =>
    if !target.isClone then (.ok false, scheduler)
    else
      let ended := scheduler.activeThreadsOn id
      let told := (scheduler.retireAll ended).tellStopped ended
      (.ok true, { told with stage := (told.stage.dispose id).2 }.emit (.targetWasRemoved id))

/-- Announces a pressed key and starts its scripts, then those of any key. -/
def pressKey (scheduler : Scheduler τ α) (key : String) :
    Except SchedulerFault (List ThreadId) × Scheduler τ α :=
  let announced := scheduler.emit (.keyPressed key)
  if announced.registry.isHat keyPressedHat then
    match announced.startHats keyPressedHat ⟨some key, none⟩ with
    | (.error fault, scheduler) => (.error fault, scheduler)
    | (.ok started, scheduler) =>
      match scheduler.startHats keyPressedHat ⟨some "any", none⟩ with
      | (.error fault, scheduler) => (.error fault, scheduler)
      | (.ok others, scheduler) => (.ok (started ++ others), scheduler)
  else (.ok [], announced)

/-- Posts data to a device; a pressed key starts its scripts. -/
def postData (scheduler : Scheduler τ α) (device : String) (data : Json) :
    Except SchedulerFault (List ThreadId) × Scheduler τ α :=
  match scheduler.devices.post device data with
  | (.error fault, devices) => (.error (.device fault), { scheduler with devices := devices })
  | (.ok none, devices) => (.ok [], { scheduler with devices := devices })
  | (.ok (some key), devices) => { scheduler with devices := devices }.pressKey key

end Scheduler

end SpriteMachine
