import SpriteMachine.Number.Exact
import SpriteMachine.Proofs.Worker.Story

/-!
# A worker tells sequential stories

Between two stimuli the seat of a thread says how far its program has come: the
position is the number of answered statements, the memory holds what they returned,
and the one pending call is that of the current statement. Every treatment keeps this
agreement, so every run does.
-/

namespace SpriteMachine

variable {α : Type}

/-- The seat of a thread agrees with a standing and with the call that an observer saw
last. -/
def Stands (worker : ScriptWorker α) (thread : ThreadId) (waits : Option (Token × Option Nat)) :
    Standing α → Prop
  | .unborn => worker.seat thread = .vacant ∧ waits = none
  | .done => worker.seat thread = .vacant ∧ waits = none
  | .waiting target past statement rest token =>
    ∃ running script deadline, waits = some (token, deadline) ∧
      worker.seat thread = ⟨some running, [(token, deadline)]⟩ ∧
      running.target = target ∧ worker.scripts.find? running.script = some script ∧
      script.body.drop running.position = statement :: rest ∧
      running.memory.find? = recalled past

namespace Stands

variable {worker : ScriptWorker α} {thread : ThreadId} {waits : Option (Token × Option Nat)}
  {standing : Standing α}

/-- The call that an observer saw last is the one that is pending. -/
theorem waits_eq (stands : Stands worker thread waits standing) :
    (worker.seat thread).calls.head? = waits := by
  cases standing with
  | unborn => rw [stands.1, stands.2]; rfl
  | done => rw [stands.1, stands.2]; rfl
  | waiting target past statement rest token =>
    obtain ⟨running, script, deadline, rfl, seated, -⟩ := stands
    rw [seated]
    rfl

/-- A thread that stands at a statement or nowhere has a settled seat. -/
theorem settled (stands : Stands worker thread waits standing) :
    (worker.seat thread).Settled := by
  cases standing with
  | unborn => exact Or.inl stands.1
  | done => exact Or.inl stands.1
  | waiting target past statement rest token =>
    obtain ⟨running, script, deadline, -, seated, -⟩ := stands
    exact Or.inr ⟨running, token, deadline, seated⟩

end Stands

/-- A statement at a position is followed by the rest of its script. -/
theorem drop_position {body : List (Statement α)} {position : Nat} {statement : Statement α}
    {rest : List (Statement α)} (left : body.drop position = statement :: rest) :
    body[position]? = some statement ∧ body.drop (position + 1) = rest := by
  have found : (body.drop position)[0]? = some statement := by rw [left]; rfl
  have later : (body.drop position).drop 1 = rest := by rw [left]; rfl
  rw [List.getElem?_drop, Nat.add_zero] at found
  rw [List.drop_drop] at later
  exact ⟨found, later⟩

/-- The memory behind an answered statement holds what a program recalls. -/
theorem answered_memory {scripts : OrderedMap ScriptId (Script α)} {script : Script α}
    {running : RunningThread α} {past : List (Statement α × Value α)} {statement : Statement α}
    {rest : List (Statement α)} (value : Value α)
    (loaded : scripts.find? running.script = some script)
    (left : script.body.drop running.position = statement :: rest)
    (memory : running.memory.find? = recalled past) :
    (running.answered scripts value).memory.find? = recalled ((statement, value) :: past) := by
  have assign : ((scripts.find? running.script).bind
      fun script => script.body[running.position]?).bind Statement.assign = statement.assign := by
    rw [loaded, Option.bind_some, (drop_position left).1, Option.bind_some]
  funext name
  rw [RunningThread.answered, assign, recalled]
  cases assigned : statement.assign with
  | none =>
    rw [List.find?_cons_of_neg (by simp [assigned]), memory]
    rfl
  | some assignee =>
    by_cases same : assignee = name
    · rw [List.find?_cons_of_pos (by simp [assigned, same]), OrderedMap.find_insert,
        if_pos same.symm]
      rfl
    · rw [List.find?_cons_of_neg (by simp [assigned, same]), OrderedMap.find_insert,
        if_neg fun equal => same equal.symm, memory]
      rfl

/-- An arrival is one of the program, and the seat behind it agrees with it. -/
theorem arrive_stands {scripts : OrderedMap ScriptId (Script α)} {script : Script α}
    {thread : ThreadId} {running : RunningThread α} {token : Token} {deadline : Option Nat}
    {after : ScriptWorker α} (chapter : Chapter α) (earlier : Option (Token × Option Nat))
    (past : List (Statement α × Value α))
    (outcome : (after.seat thread, chapter.said) =
      ScriptWorker.arrive scripts thread running token deadline)
    (memory : running.memory.find? = recalled past)
    (loaded : scripts.find? running.script = some script)
    (kept : after.scripts.find? running.script = some script) :
    ∃ next, Arrives thread running.target past (script.body.drop running.position)
        chapter.said next ∧
      Stands after thread (chapter.waits deadline earlier) next := by
  have seated := congrArg Prod.fst outcome
  have told := congrArg Prod.snd outcome
  unfold ScriptWorker.arrive at seated told
  simp only [loaded] at seated told
  cases reached : script.body[running.position]? with
  | none =>
    simp only [reached] at seated told
    have reachedEnd : script.body.drop running.position = [] :=
      List.drop_eq_nil_iff.mpr (List.getElem?_eq_none_iff.mp reached)
    rw [reachedEnd, told]
    refine ⟨.done, .finished, seated, ?_⟩
    rw [Chapter.waits, told]
    rfl
  | some statement =>
    obtain ⟨inside, same⟩ := List.getElem?_eq_some_iff.mp reached
    have left : script.body.drop running.position =
        statement :: script.body.drop (running.position + 1) := by
      rw [List.drop_eq_getElem_cons inside, same]
    simp only [reached, memory] at seated told
    rw [left]
    cases bound : statement.bind (recalled past) with
    | error name =>
      simp only [bound] at seated told
      rw [told]
      refine ⟨.done, .unbound statement _ name bound, seated, ?_⟩
      rw [Chapter.waits, told]
      rfl
    | ok args =>
      simp only [bound] at seated told
      rw [told]
      refine ⟨_, .called statement _ args token bound, running, script, deadline, ?_, seated, rfl,
        kept, left, memory⟩
      rw [Chapter.waits, told]
      rfl

/-- A thread that arrives somewhere was started. -/
theorem Arrives.ne_unborn {thread : ThreadId} {target : TargetId}
    {past : List (Statement α × Value α)} {rest : List (Statement α)}
    {said : List (WorkerMessage α)} {next : Standing α}
    (arrives : Arrives thread target past rest said next) : next ≠ .unborn := by
  rintro rfl
  cases arrives

/-- A thread that is done was born. -/
theorem done_ne_unborn : (.done : Standing α) ≠ .unborn := by simp

/-- A thread that waits was born. -/
theorem waiting_ne_unborn {target : TargetId} {past : List (Statement α × Value α)}
    {statement : Statement α} {rest : List (Statement α)} {token : Token} :
    Standing.waiting target past statement rest token ≠ .unborn := by simp

/-- Nothing is told of a thread that is over. -/
theorem Sequential.eq_nil {timeout : Nat} {thread : ThreadId} {chapters : List (Chapter α)}
    (sequential : Sequential timeout thread .done chapters) : chapters = [] := by
  cases sequential
  rfl

section Runs

open ScriptWorker

variable [Scalar α] {worker : ScriptWorker α} {thread : ThreadId}
  {waits : Option (Token × Option Nat)} {standing next : Standing α} {now : Nat}
  {stimulus : Stimulus α} {history : List (Nat × Stimulus α)}

/-- A worker that may meet a history: its tokens are its own, and the threads that are
still to be started are distinct and have no seat. -/
structure Ready (worker : ScriptWorker α) (history : List (Nat × Stimulus α)) : Prop where
  numbered : worker.Numbered
  distinct : (startedThreads (exchanges worker history)).Nodup
  vacant : ∀ thread ∈ startedThreads (exchanges worker history), worker.seat thread = .vacant

/-- The threads a history starts are those its first stimulus enters and then those of the rest. -/
theorem startedThreads_cons (worker : ScriptWorker α) (now : Nat) (stimulus : Stimulus α)
    (history : List (Nat × Stimulus α)) :
    startedThreads (exchanges worker ((now, stimulus) :: history)) =
      (worker.entered stimulus).map ThreadStart.thread ++
        startedThreads (exchanges (worker.react now stimulus).1 history) := by
  rw [startedThreads, exchanges, List.flatMap_cons, List.map_append]
  rfl

namespace Ready

/-- A worker that is ready for a history admits its first stimulus. -/
theorem admits (ready : Ready worker ((now, stimulus) :: history)) : worker.Admits stimulus := by
  have distinct := ready.distinct
  have vacant := ready.vacant
  rw [startedThreads_cons] at distinct vacant
  exact ⟨(List.nodup_append.mp distinct).1, fun start member =>
    vacant _ (List.mem_append_left _ (List.mem_map.mpr ⟨start, member, rfl⟩))⟩

/-- Behind a stimulus a worker may meet the rest of the history. -/
theorem onward (ready : Ready worker ((now, stimulus) :: history)) :
    Ready (worker.react now stimulus).1 history := by
  have distinct := ready.distinct
  have vacant := ready.vacant
  rw [startedThreads_cons] at distinct vacant
  obtain ⟨-, later, apart⟩ := List.nodup_append.mp distinct
  refine ⟨(react_moves worker now stimulus).numbered ready.numbered, later, ?_⟩
  intro other member
  have empty := vacant other (List.mem_append_right _ member)
  have absent : other ∉ (worker.entered stimulus).map ThreadStart.thread :=
    fun inside => apart _ inside _ member rfl
  have treats := react_treats now other ready.numbered
    (Or.inl empty) ready.admits
  have calls : (worker.seat other).calls.head? = none := by rw [empty]; rfl
  rw [calls, cause_none absent] at treats
  exact (congrArg Prod.fst treats).trans empty

end Ready

/-- The exchange that begins a history. -/
def firstExchange (worker : ScriptWorker α) (now : Nat) (stimulus : Stimulus α) : Exchange α :=
  ⟨worker, now, stimulus, (worker.react now stimulus).2⟩

/-- A chapter without a cause says nothing and leaves its thread where it stands. -/
theorem chapter_idle (ready : Ready worker ((now, stimulus) :: history))
    (kept : ∀ script ∈ stimulus.added, worker.scripts.contains script.id = false)
    (stands : Stands worker thread waits standing)
    (idle : ((firstExchange worker now stimulus).chapter thread waits).cause = none) :
    ((firstExchange worker now stimulus).chapter thread waits).said = [] ∧
      Stands (worker.react now stimulus).1 thread
        (((firstExchange worker now stimulus).chapter thread waits).waits
          (worker.blockTimeout.map (now + ·)) waits) standing := by
  have treats := react_treats now thread ready.numbered stands.settled ready.admits
  have cause : stimulus.cause now thread (worker.entered stimulus) waits = none := idle
  rw [stands.waits_eq, cause] at treats
  have seated : (worker.react now stimulus).1.seat thread = worker.seat thread :=
    congrArg Prod.fst treats
  have silent : ((firstExchange worker now stimulus).chapter thread waits).said = [] :=
    congrArg Prod.snd treats
  have same : ((firstExchange worker now stimulus).chapter thread waits).waits
      (worker.blockTimeout.map (now + ·)) waits = waits := by
    rw [Chapter.waits, silent, idle]
    rfl
  refine ⟨silent, ?_⟩
  rw [same]
  cases standing with
  | unborn => exact ⟨seated.trans stands.1, stands.2⟩
  | done => exact ⟨seated.trans stands.1, stands.2⟩
  | waiting target past statement rest token =>
    obtain ⟨running, script, deadline, awaited, waiting, named, loaded, left, memory⟩ := stands
    refine ⟨running, script, deadline, awaited, seated.trans waiting, named, ?_, left, memory⟩
    refine react_script thread kept loaded ?_
    cases stops : stimulus.stops thread with
    | false => rfl
    | true =>
      rw [Stimulus.cause, entered, starts_of_stops stops, awaited] at cause
      have judged := (causeFor_of_stops now stops (token, deadline)).symm.trans cause
      cases judged

/-- A thread that is started begins its program. -/
theorem chapter_entered (ready : Ready worker ((now, stimulus) :: history)) {timeout : Nat}
    (stands : Stands worker thread waits .unborn) {start : ThreadStart}
    (cause : ((firstExchange worker now stimulus).chapter thread waits).cause =
      some (.entered start)) :
    ∃ next, next ≠ .unborn ∧
      Stands (worker.react now stimulus).1 thread
        (((firstExchange worker now stimulus).chapter thread waits).waits
          (worker.blockTimeout.map (now + ·)) waits) next ∧
      ∀ later, Sequential timeout thread next later →
        Sequential timeout thread .unborn
          ((firstExchange worker now stimulus).chapter thread waits :: later) := by
  have treats := react_treats now thread ready.numbered stands.settled ready.admits
  have entering : stimulus.cause now thread (worker.entered stimulus) waits =
    some (.entered start) := cause
  rw [stands.waits_eq, entering] at treats
  obtain ⟨token, -, arrival⟩ := treats
  have member : start ∈ worker.entered stimulus := by
    rw [stands.2, Stimulus.cause] at entering
    split at entering
    case h_1 found located =>
      obtain rfl : found = start := Cause.entered.inj (Option.some.inj entering)
      exact List.mem_of_find?_eq_some located
    case h_2 => cases entering
  obtain ⟨requested, contained⟩ := List.mem_filter.mp member
  rw [OrderedMap.contains_eq_isSome, Option.isSome_iff_exists] at contained
  obtain ⟨script, loaded⟩ := contained
  have kept : (worker.react now stimulus).1.scripts.find? start.script = some script := by
    rcases react_keeps worker now stimulus with same | stops
    · rw [same]
      exact loaded
    · rw [starts_of_stops (stops thread)] at requested
      cases requested
  obtain ⟨next, arrives, standsNext⟩ := arrive_stands
    ((firstExchange worker now stimulus).chapter thread waits) waits [] arrival rfl loaded kept
  refine ⟨next, arrives.ne_unborn, standsNext, fun later onward => ?_⟩
  have first := Sequential.entered start
    ((firstExchange worker now stimulus).chapter thread waits).scripts script _ next later loaded
    arrives onward
  rw [← cause] at first
  exact first

/-- A thread that waits goes on with its program, or ends. -/
theorem chapter_waiting (ready : Ready worker ((now, stimulus) :: history))
    (kept : ∀ script ∈ stimulus.added, worker.scripts.contains script.id = false)
    {target : TargetId} {past : List (Statement α × Value α)} {statement : Statement α}
    {rest : List (Statement α)} {token : Token}
    (stands : Stands worker thread waits (.waiting target past statement rest token))
    (absent : thread ∉ (worker.entered stimulus).map ThreadStart.thread) {cause : Cause α}
    (caused : ((firstExchange worker now stimulus).chapter thread waits).cause = some cause) :
    ∃ next, next ≠ .unborn ∧
      Stands (worker.react now stimulus).1 thread
        (((firstExchange worker now stimulus).chapter thread waits).waits
          (worker.blockTimeout.map (now + ·)) waits) next ∧
      ∀ later, Sequential (worker.blockTimeout.getD 0) thread next later →
        Sequential (worker.blockTimeout.getD 0) thread (.waiting target past statement rest token)
          ((firstExchange worker now stimulus).chapter thread waits :: later) := by
  have treats := react_treats now thread ready.numbered stands.settled ready.admits
  have judged : stimulus.cause now thread (worker.entered stimulus) waits = some cause := caused
  rw [stands.waits_eq, judged] at treats
  obtain ⟨running, script, deadline, awaited, seated, named, loaded, left, memory⟩ := stands
  have nobody : (worker.entered stimulus).find? (·.thread = thread) = none := by
    refine List.find?_eq_none.mpr fun start member same => absent ?_
    exact List.mem_map.mpr ⟨start, member, by simpa using same⟩
  have about_call : stimulus.causeFor now thread (token, deadline) = some cause := by
    rw [Stimulus.cause, nobody, awaited] at judged
    exact judged
  have shape : (firstExchange worker now stimulus).chapter thread waits =
      ⟨some cause, (worker.prepared stimulus).scripts,
        about thread (worker.react now stimulus).2⟩ := by
    rw [← caused]
    rfl
  have ending : ∀ message : WorkerMessage α,
      (∀ found, Chapter.callIn found message = none) →
      ((worker.react now stimulus).1.seat thread,
        about thread (worker.react now stimulus).2) = (.vacant, [message]) →
      Stands (worker.react now stimulus).1 thread
        (((firstExchange worker now stimulus).chapter thread waits).waits
          (worker.blockTimeout.map (now + ·)) waits) .done := by
    intro message silent outcome
    refine ⟨congrArg Prod.fst outcome, ?_⟩
    have told : about thread (worker.react now stimulus).2 = [message] :=
      congrArg Prod.snd outcome
    rw [shape, Chapter.waits, told]
    exact silent _
  cases cause with
  | entered start =>
    exact absurd about_call (causeFor_ne_entered _ _)
  | answered value =>
    obtain ⟨running', next', place, -, arrival⟩ := treats
    rw [seated] at place
    obtain rfl := Option.some.inj place
    have spared : stimulus.stops thread = false := by
      cases stops : stimulus.stops thread with
      | false => rfl
      | true =>
        rw [causeFor_of_stops now stops] at about_call
        cases about_call
    obtain ⟨next, arrives, standsNext⟩ := arrive_stands
      ((firstExchange worker now stimulus).chapter thread waits) waits _ arrival
      (answered_memory value loaded left memory) loaded (react_script thread kept loaded spared)
    rw [show script.body.drop (running.answered worker.scripts value).position = rest from
      (drop_position left).2] at arrives
    refine ⟨next, arrives.ne_unborn, standsNext, fun later onward => ?_⟩
    rw [shape] at arrives ⊢
    rw [← named]
    exact .answered _ past statement rest token value _ _ next later (named ▸ arrives) onward
  | refused reason =>
    refine ⟨.done, done_ne_unborn, ending _ (fun _ => rfl) treats, fun later onward => ?_⟩
    rw [onward.eq_nil, shape, show about thread (worker.react now stimulus).2 = _ from
      congrArg Prod.snd treats]
    exact .refused target past statement rest token reason _
  | expired expiredToken =>
    obtain rfl : expiredToken = token := causeFor_expired about_call
    refine ⟨.done, done_ne_unborn, ending _ (fun _ => rfl) treats, fun later onward => ?_⟩
    rw [onward.eq_nil, shape, show about thread (worker.react now stimulus).2 = _ from
      congrArg Prod.snd treats]
    exact .expired target past statement rest expiredToken _
  | stopped =>
    have silent : about thread (worker.react now stimulus).2 = [] := congrArg Prod.snd treats
    refine ⟨.done, done_ne_unborn, ⟨congrArg Prod.fst treats, ?_⟩, fun later onward => ?_⟩
    · rw [shape, Chapter.waits, silent]
      rfl
    · rw [onward.eq_nil, shape, silent]
      exact .stopped target past statement rest token _

/-- A chapter with a cause takes its thread on along its program. -/
theorem chapter_caused (ready : Ready worker ((now, stimulus) :: history))
    (kept : ∀ script ∈ stimulus.added, worker.scripts.contains script.id = false)
    (stands : Stands worker thread waits standing)
    (begun : standing ≠ .unborn → thread ∉ (worker.entered stimulus).map ThreadStart.thread)
    {cause : Cause α}
    (caused : ((firstExchange worker now stimulus).chapter thread waits).cause = some cause) :
    ∃ next, next ≠ .unborn ∧
      Stands (worker.react now stimulus).1 thread
        (((firstExchange worker now stimulus).chapter thread waits).waits
          (worker.blockTimeout.map (now + ·)) waits) next ∧
      ∀ later, Sequential (worker.blockTimeout.getD 0) thread next later →
        Sequential (worker.blockTimeout.getD 0) thread standing
          ((firstExchange worker now stimulus).chapter thread waits :: later) := by
  have untreated : standing ≠ .unborn → waits = none → False := by
    intro started nothing
    have judged : stimulus.cause now thread (worker.entered stimulus) waits = some cause := caused
    rw [nothing, cause_none (begun started)] at judged
    cases judged
  cases standing with
  | unborn =>
    cases cause with
    | entered start => exact chapter_entered ready stands caused
    | _ =>
      have judged : stimulus.cause now thread (worker.entered stimulus) waits = some _ := caused
      rw [stands.2, Stimulus.cause] at judged
      split at judged <;> cases judged
  | done => exact (untreated done_ne_unborn stands.2).elim
  | waiting target past statement rest token =>
    exact chapter_waiting ready kept stands (begun waiting_ne_unborn) caused

/-- From wherever a thread stands, its story goes on as that of a program. The induction
is on the history; the seat's agreement with the standing carries it. -/
theorem sequential_from {timeout : Option Nat} (ready : Ready worker history)
    (kept : KeepsScripts (exchanges worker history)) (limit : worker.blockTimeout = timeout)
    (stands : Stands worker thread waits standing)
    (begun : standing ≠ .unborn → thread ∉ startedThreads (exchanges worker history)) :
    Sequential (timeout.getD 0) thread standing
      (story timeout thread waits (exchanges worker history)) := by
  induction history generalizing worker waits standing with
  | nil => exact .silent standing
  | cons first rest inductionHypothesis =>
    obtain ⟨now, stimulus⟩ := first
    subst limit
    have keptNow : ∀ script ∈ stimulus.added, worker.scripts.contains script.id = false :=
      kept (firstExchange worker now stimulus) List.mem_cons_self
    have keptLater : KeepsScripts (exchanges (worker.react now stimulus).1 rest) :=
      fun exchange member => kept exchange (List.mem_cons_of_mem _ member)
    have limit := react_limit worker now stimulus
    rw [startedThreads_cons] at begun
    rw [exchanges, ← firstExchange]
    cases caused : ((firstExchange worker now stimulus).chapter thread waits).cause with
    | none =>
      obtain ⟨silent, standsNext⟩ := chapter_idle ready keptNow stands caused
      rw [story_idle caused silent]
      exact inductionHypothesis ready.onward keptLater limit standsNext fun started member =>
        begun started (List.mem_append_right _ member)
    | some cause =>
      obtain ⟨next, started, standsNext, onward⟩ := chapter_caused ready keptNow stands
        (fun started member => begun started (List.mem_append_left _ member)) caused
      rw [story_caused caused]
      refine onward _ (inductionHypothesis ready.onward keptLater limit standsNext fun _ => ?_)
      by_cases unborn : standing = .unborn
      · subst unborn
        have inside : thread ∈ (worker.entered stimulus).map ThreadStart.thread := by
          refine Classical.byContradiction fun absent => ?_
          have judged : stimulus.cause now thread (worker.entered stimulus) waits = some cause :=
            caused
          rw [stands.2, cause_none absent] at judged
          cases judged
        have distinct := ready.distinct
        rw [startedThreads_cons] at distinct
        exact fun later => (List.nodup_append.mp distinct).2.2 _ inside _ later rfl
      · exact fun later => begun unborn (List.mem_append_right _ later)

/-- A worker that has not met anything may meet a history whose started threads are
distinct. -/
theorem idle_ready {timeout : Option Nat}
    (fresh : (startedThreads (exchanges (.idle timeout) history)).Nodup) :
    Ready (.idle timeout) history :=
  ⟨fun _ _ found => absurd found (by simp [ScriptWorker.idle, PendingTokens.empty]), fresh,
    fun _ _ => rfl⟩

/-- The worker runs every thread as a sequential program. Whatever messages and looks at
the deadlines a worker meets, as long as no thread is started twice and no loaded script
is added again, the story of every thread is one of `Sequential`, and it holds everything
that the worker says about the thread. -/
theorem threads_run_sequentially (timeout : Option Nat) (history : List (Nat × Stimulus α))
    (fresh : (startedThreads (exchanges (.idle timeout) history)).Nodup)
    (kept : KeepsScripts (exchanges (.idle timeout) history)) (thread : ThreadId) :
    Sequential (timeout.getD 0) thread .unborn
        (story timeout thread none (exchanges (.idle timeout) history)) ∧
      (story timeout thread none (exchanges (.idle timeout) history)).flatMap Chapter.said =
        about thread ((exchanges (.idle timeout) history).flatMap Exchange.sent) :=
  ⟨sequential_from (idle_ready fresh) kept rfl ⟨rfl, rfl⟩ fun started => absurd rfl started,
    said_story timeout thread none _⟩

/-- A thread with a script of two blocks that is stopped while it waits for the second;
the answer that comes later finds nobody. -/
def stoppedAtSecond : List (Nat × Stimulus Rat) :=
  [(0, .message (.runAsync ("@script \x7b\"script\":\"s\",\"target\":\"a\"\x7d\n" ++
      "set x = motion_xposition\nlooks_say MESSAGE=$x\n@end\n") [⟨⟨"t"⟩, ⟨"s"⟩, ⟨"a"⟩⟩])),
    (1, .message (.result ⟨"w-0"⟩ (.text "1"))), (2, .message (.stopThreads [⟨"t"⟩])), (3, .look),
    (4, .message (.result ⟨"w-1"⟩ (.text "2")))]

/-- A thread that is stopped at its second call has called its statements in order, has said one
last word, and is silent. -/
theorem stoppedAtSecond_sequential :
    Sequential 0 ⟨"t"⟩ .unborn
        (story none ⟨"t"⟩ none (exchanges (.idle none) stoppedAtSecond)) ∧
      (story none ⟨"t"⟩ none (exchanges (.idle none) stoppedAtSecond)).length = 3 :=
  ⟨(threads_run_sequentially none stoppedAtSecond (by decide +kernel)
    (by unfold KeepsScripts; decide +kernel) ⟨"t"⟩).1, by decide +kernel⟩

end Runs

end SpriteMachine
