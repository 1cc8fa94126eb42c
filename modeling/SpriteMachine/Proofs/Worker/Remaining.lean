import SpriteMachine.Proofs.Worker.Reaction

/-!
# What a worker has still to say

A thread that runs has a number of messages ahead: a call for every statement that it has
not reached, and its end. The worker has all of these ahead and the notice that nobody runs
any more. An answer of the host never adds to them: whatever the worker says on it was ahead
before. So an exchange of calls and answers comes to an end, and what is ahead at the start
bounds its length.
-/

namespace SpriteMachine.ScriptWorker

variable {α : Type}

/-- The messages of a thread that arrives at a statement of a script: a call for each
statement from there on, and its end. -/
def ahead (worker : ScriptWorker α) (script : ScriptId) (position : Nat) : Nat :=
  ((worker.scripts.find? script).elim 0 fun script => script.body.length - position) + 1

/-- The messages of a thread behind its present call. -/
def rest (worker : ScriptWorker α) (running : RunningThread α) : Nat :=
  worker.ahead running.script (running.position + 1)

/-- The messages of all threads behind their present calls. -/
def outstanding (worker : ScriptWorker α) : Nat := (worker.running.values.map worker.rest).sum

/-- Everything that the worker has ahead, the notice that nobody runs included. -/
def remaining (worker : ScriptWorker α) : Nat :=
  worker.outstanding + if worker.running.isEmpty then 0 else 1

/-- What a thread has ahead when it is to arrive at its statement; nothing when it does not
run. -/
def arriving (worker : ScriptWorker α) (thread : ThreadId) : Nat :=
  (worker.running.find? thread).elim 0 fun running => worker.ahead running.script running.position

/-- What a thread has ahead while it waits for its call; nothing when it does not run. -/
def waiting (worker : ScriptWorker α) (thread : ThreadId) : Nat :=
  (worker.running.find? thread).elim 0 worker.rest

variable {worker later : ScriptWorker α} {thread : ThreadId} {running : RunningThread α}

/-- At any position something is ahead, at least the end of the script. -/
theorem ahead_pos (worker : ScriptWorker α) (script : ScriptId) (position : Nat) :
    0 < worker.ahead script position := Nat.succ_pos _

/-- Every statement is one message more. -/
theorem ahead_statement {script : ScriptId} {position : Nat} {loaded : Script α}
    {statement : Statement α} (found : worker.scripts.find? script = some loaded)
    (reached : loaded.body[position]? = some statement) :
    worker.ahead script position = worker.ahead script (position + 1) + 1 := by
  have inside : position < loaded.body.length := (List.getElem?_eq_some_iff.mp reached).1
  simp only [ahead, found, Option.elim_some]
  omega

/-- What is ahead depends on scripts and places alone. -/
theorem ahead_congr (scripts : later.scripts = worker.scripts) : later.ahead = worker.ahead := by
  funext script position
  rw [ahead, ahead, scripts]

/-- Only the loaded scripts tell what is left of a thread. -/
theorem rest_congr (scripts : later.scripts = worker.scripts) : later.rest = worker.rest := by
  funext running
  rw [rest, rest, ahead_congr scripts]

/-- Only the loaded scripts and the places tell what is left of all threads. -/
theorem remaining_congr (scripts : later.scripts = worker.scripts)
    (places : later.running = worker.running) : later.remaining = worker.remaining := by
  rw [remaining, remaining, outstanding, outstanding, rest_congr scripts, places]

/-- The notice that nobody runs is ahead until it is sent. -/
theorem remaining_notice (worker : ScriptWorker α) :
    worker.remaining + worker.idleNotice.length = worker.outstanding + 1 := by
  unfold remaining idleNotice
  split <;> rfl

/-- The part of a thread that runs in what is ahead. -/
theorem remaining_running (found : worker.running.find? thread = some running) :
    worker.remaining = worker.rest running +
      ((worker.running.erase thread).values.map worker.rest).sum + 1 := by
  have somebody : worker.running.isEmpty = false := by
    rw [OrderedMap.isEmpty, List.isEmpty_eq_false_iff]
    exact List.ne_nil_of_mem (OrderedMap.mem_entries_iff.mpr found)
  rw [remaining, outstanding, somebody, OrderedMap.sum_erase found]
  rfl

/-- A thread that leaves with a last message. -/
theorem remaining_leave (later : ScriptWorker α)
    (found : worker.running.find? thread = some running) (scripts : later.scripts = worker.scripts)
    (places : later.running = worker.running.erase thread) (message : WorkerMessage α) :
    later.remaining + (message :: later.idleNotice).length + worker.rest running =
      worker.remaining + 1 := by
  have notice := remaining_notice later
  rw [outstanding, rest_congr scripts, places] at notice
  rw [remaining_running found, List.length_cons]
  omega

/-- Going on from one statement to the next leaves the others alone. -/
theorem remaining_moved {moved : RunningThread α}
    (found : worker.running.find? thread = some running)
    (scripts : later.scripts = worker.scripts)
    (places : later.running = worker.running.insert thread moved) :
    later.remaining + worker.rest running = worker.remaining + worker.rest moved := by
  have placed : later.running.find? thread = some moved := by
    rw [places, OrderedMap.find_insert, if_pos rfl]
  have erased : later.running.erase thread = worker.running.erase thread := by
    rw [places, OrderedMap.erase_insert]
  rw [remaining_running found, remaining_running placed, rest_congr scripts, erased]
  omega

/-- A failing thread sends no more than it has ahead. -/
theorem fail_remaining (found : worker.running.find? thread = some running) (reason : String) :
    (worker.fail thread reason).1.remaining + (worker.fail thread reason).2.length +
      worker.rest running = worker.remaining + 1 :=
  remaining_leave (worker.fail thread reason).1 found rfl rfl (.scriptError (some thread) reason)

/-- Neither does a thread that ends. -/
theorem finish_remaining (found : worker.running.find? thread = some running) :
    (worker.finish thread).1.remaining + (worker.finish thread).2.length + worker.rest running =
      worker.remaining + 1 :=
  remaining_leave (worker.finish thread).1 found rfl rfl (.ended thread)

/-- A call is one message. -/
theorem callBlock_remaining (worker : ScriptWorker α) (now : Nat) (thread : ThreadId)
    (target : TargetId) (opcode : String) (args : Args α) :
    (worker.callBlock now thread target opcode args).1.remaining +
      (worker.callBlock now thread target opcode args).2.length ≤ worker.remaining + 1 := by
  unfold callBlock
  dsimp only
  split
  case h_1 => exact Nat.le_refl _
  case h_2 => exact Nat.le_succ _

/-- Taking a thread to its statement sends what it has ahead there and no longer has then. -/
theorem advance_remaining (worker : ScriptWorker α) (now : Nat) (thread : ThreadId) :
    (worker.advance now thread).1.remaining + (worker.advance now thread).2.length +
      worker.waiting thread ≤ worker.remaining + worker.arriving thread := by
  unfold advance waiting arriving
  split
  case h_1 absent => simp [absent]
  case h_2 running found =>
    have positive := worker.ahead_pos running.script running.position
    simp only [found, Option.elim_some]
    split
    case h_1 =>
      have left := fail_remaining found (missingScript running.script)
      simp only [missingScript] at left
      omega
    case h_2 script loaded =>
      split
      case h_1 =>
        have left := finish_remaining found
        omega
      case h_2 statement reached =>
        have step := ahead_statement loaded reached
        split
        case h_1 args bound =>
          have called := callBlock_remaining worker now thread running.target statement.opcode args
          rw [rest]
          omega
        case h_2 name bound =>
          have left := fail_remaining found (unknownVariable statement.line name)
          simp only [unknownVariable] at left
          omega

/-- Of several threads that are taken to their statements each sends what it has ahead. -/
theorem advanceAll_remaining (now : Nat) {threads : List ThreadId} (distinct : threads.Nodup)
    (worker : ScriptWorker α) :
    (advanceAll now worker threads).1.remaining + (advanceAll now worker threads).2.length +
      (threads.map worker.waiting).sum ≤ worker.remaining + (threads.map worker.arriving).sum := by
  induction threads generalizing worker with
  | nil => exact Nat.le_refl _
  | cons first rest inductionHypothesis =>
    obtain ⟨absent, distinctRest⟩ := List.nodup_cons.mp distinct
    have one := advance_remaining worker now first
    have others := inductionHypothesis distinctRest (worker.advance now first).1
    have scripts := (advance_keeps worker now first).1
    have kept : ∀ other ∈ rest,
        (worker.advance now first).1.running.find? other = worker.running.find? other := by
      intro other member
      have spared := (advance_moves worker now first).spared other
        fun same => absent (same ▸ member)
      exact congrArg Seat.place spared.1
    have waiting : rest.map (worker.advance now first).1.waiting = rest.map worker.waiting :=
      List.map_congr_left fun other member => by
        rw [ScriptWorker.waiting, ScriptWorker.waiting, kept other member, rest_congr scripts]
    have arriving : rest.map (worker.advance now first).1.arriving = rest.map worker.arriving :=
      List.map_congr_left fun other member => by
        simp only [ScriptWorker.arriving, ahead, kept other member, scripts]
    rw [waiting, arriving] at others
    simp only [advanceAll, List.length_append, List.map_cons, List.sum_cons]
    omega

/-- On a result the worker sends nothing that was not ahead. -/
theorem resume_remaining (worker : ScriptWorker α) (now : Nat) (token : Token) (value : Value α) :
    (worker.resume now token value).1.remaining + (worker.resume now token value).2.length ≤
      worker.remaining := by
  unfold resume
  split
  case h_1 => exact Nat.le_refl _
  case h_2 thread pending resolved =>
    dsimp only
    split
    case h_1 => exact Nat.le_of_eq (remaining_congr rfl rfl)
    case h_2 running found =>
      generalize placed : ({ running with
        position := running.position + 1
        memory := _ } : RunningThread α) = moved
      generalize resumed : ({ worker with
        running := worker.running.insert thread moved
        pending := pending } : ScriptWorker α) = next
      have scripts : next.scripts = worker.scripts := by rw [← resumed]
      have places : next.running = worker.running.insert thread moved := by rw [← resumed]
      have moves := remaining_moved found scripts places
      have arrives := advance_remaining next now thread
      have stands : next.running.find? thread = some moved := by
        rw [places, OrderedMap.find_insert, if_pos rfl]
      have here : next.waiting thread = worker.rest moved := by
        rw [waiting, stands, Option.elim_some, rest_congr scripts]
      have there : next.arriving thread = worker.rest running := by
        rw [arriving, stands, Option.elim_some, ahead, scripts, ← placed]
        rfl
      omega

/-- On a refusal the worker sends nothing that was not ahead, when only threads that run
wait for calls. -/
theorem refuse_remaining (waits : ∀ token awaited, worker.pending.table.find? token = some awaited →
      worker.running.contains awaited.continuation = true) (token : Token) (reason : String) :
    (worker.refuse token reason).1.remaining + (worker.refuse token reason).2.length ≤
      worker.remaining := by
  unfold refuse
  split
  case h_1 => exact Nat.le_refl _
  case h_2 thread pending resolved =>
    obtain ⟨awaited, found, rfl⟩ := Option.map_eq_some_iff.mp (congrArg Prod.fst resolved)
    have runs := waits token awaited found
    rw [OrderedMap.contains_eq_isSome, Option.isSome_iff_exists] at runs
    obtain ⟨running, placed⟩ := runs
    have same : ({ worker with pending := pending } : ScriptWorker α).remaining =
        worker.remaining := remaining_congr rfl rfl
    change ({ worker with pending := pending } : ScriptWorker α).running.find? _ = _ at placed
    rw [← same]
    generalize ({ worker with pending := pending } : ScriptWorker α) = left at placed ⊢
    have failed := fail_remaining placed reason
    have positive := left.ahead_pos running.script (running.position + 1)
    rw [rest] at failed
    omega

/-- Threads that enter stand behind those that run, each at its first statement. -/
theorem enter_entries (worker : ScriptWorker α) {starts : List ThreadStart}
    (distinct : ((worker.admitted starts).map ThreadStart.thread).Nodup)
    (absent : ∀ start ∈ worker.admitted starts, start.thread ∉ worker.running.keys) :
    (worker.enter starts).1.running.entries = worker.running.entries ++
      (worker.admitted starts).map fun start => (start.thread, start.place) := by
  induction starts generalizing worker with
  | nil => exact (List.append_nil _).symm
  | cons first rest inductionHypothesis =>
    by_cases loaded : worker.scripts.contains first.script = true
    · rw [admitted_loaded loaded] at distinct absent ⊢
      obtain ⟨other, distinctRest⟩ := List.nodup_cons.mp distinct
      have new := absent first List.mem_cons_self
      rw [enter_loaded loaded]
      refine (inductionHypothesis (worker.seatNew first) distinctRest
        fun start member => ?_).trans ?_
      · rw [seatNew, OrderedMap.keys_insert_of_absent new, List.mem_append, List.mem_singleton,
          not_or]
        exact ⟨absent start (List.mem_cons_of_mem _ member),
          fun same => other (List.mem_map.mpr ⟨start, member, same⟩)⟩
      · rw [seatNew, OrderedMap.entries_insert_of_absent new, List.append_assoc]
        rfl
    · rw [admitted_missing loaded] at distinct absent ⊢
      rw [enter_missing loaded]
      exact inductionHypothesis worker distinct absent

/-- What a worker where nobody runs sends about threads that it starts, and what is ahead of
it then: every statement of their scripts, their ends, and the notices that somebody runs and
that nobody does. -/
theorem launch_remaining (worker : ScriptWorker α) (now : Nat) {starts : List ThreadStart}
    (nobody : worker.running.entries = [])
    (distinct : ((worker.admitted starts).map ThreadStart.thread).Nodup) :
    (worker.launch now starts).1.remaining + (worker.launch now starts).2.length +
        (worker.start starts).2.2.length ≤
      ((worker.admitted starts).map fun start => worker.ahead start.script 0).sum + 2 := by
  obtain ⟨kept, threads⟩ := enter_keeps worker starts
  have absent : ∀ start ∈ worker.admitted starts, start.thread ∉ worker.running.keys := by
    intro start _
    rw [OrderedMap.keys, nobody]
    exact List.not_mem_nil
  have entries := enter_entries worker distinct absent
  have places : ∀ start ∈ worker.admitted starts,
      (worker.enter starts).1.running.find? start.thread = some start.place := by
    intro start member
    rw [← OrderedMap.mem_entries_iff, entries]
    exact List.mem_append_right _ (List.mem_map.mpr ⟨start, member, rfl⟩)
  have scripts : (worker.enter starts).1.scripts = worker.scripts := by rw [kept]
  have standing : (worker.enter starts).1.outstanding =
      (((worker.admitted starts).map ThreadStart.thread).map
        (worker.enter starts).1.waiting).sum := by
    rw [outstanding, OrderedMap.values, entries, nobody, List.nil_append, List.map_map,
      List.map_map, List.map_map]
    refine congrArg List.sum (List.map_congr_left fun start member => ?_)
    rw [Function.comp_apply, Function.comp_apply, Function.comp_apply, waiting, places start member]
    rfl
  have arriving : ((worker.admitted starts).map ThreadStart.thread).map
      (worker.enter starts).1.arriving =
        (worker.admitted starts).map fun start => worker.ahead start.script 0 := by
    rw [List.map_map]
    refine List.map_congr_left fun start member => ?_
    rw [Function.comp_apply, ScriptWorker.arriving, places start member, Option.elim_some, ahead,
      scripts]
    rfl
  have advances := advanceAll_remaining now distinct (worker.enter starts).1
  rw [arriving, ← standing] at advances
  have notice : (worker.start starts).2.2.length ≤ 1 := by
    unfold start
    dsimp only
    split
    case isTrue => exact Nat.le_refl 1
    case isFalse => exact Nat.zero_le 1
  have last : (worker.enter starts).1.remaining ≤ (worker.enter starts).1.outstanding + 1 := by
    rw [remaining]
    split <;> omega
  rw [launch, threads]
  omega

end SpriteMachine.ScriptWorker
