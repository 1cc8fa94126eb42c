import SpriteMachine.Proofs.Worker.Reaction

/-!
# What a stimulus does to one thread

A worker reacts to the messages of the host and to looks at its deadlines. For one
thread a stimulus either has a cause for it or none. Without a cause the thread keeps
its seat and nothing is said about it; with one it follows the same rule whatever else
the worker has running. The cause can be told from the call that waits on behalf of
the thread and from the threads that the stimulus starts.
-/

namespace SpriteMachine

variable {α : Type}

/-- What makes a worker act: a message of the host, or a look at the deadlines. -/
inductive Stimulus (α : Type) where
  | message (message : HostMessage α)
  | look

/-- Why a thread is treated: it is started, its call is answered, refused or expired, or
it is stopped while it waits. -/
inductive Cause (α : Type) where
  | entered (start : ThreadStart)
  | answered (value : Value α)
  | refused (message : String)
  | expired (token : Token)
  | stopped

namespace Stimulus

variable [Scalar α]

/-- The scripts that a stimulus adds to those loaded. -/
def added : Stimulus α → List (Script α)
  | .message (.runAsync source _) =>
    match ScriptUnit.parse source with
    | .ok scripts => scripts
    | .error _ => []
  | _ => []

/-- The threads that a stimulus asks to start. -/
def starts : Stimulus α → List ThreadStart
  | .message (.startHats _ _ _ starts) => starts
  | .message (.runAsync source starts) =>
    match (ScriptUnit.parse source : Except SyntaxFault (List (Script α))) with
    | .ok _ => starts
    | .error _ => []
  | _ => []

/-- Whether a stimulus stops a thread: it names the thread, stops everything, or loads
a unit that can be read. -/
def stops (thread : ThreadId) : Stimulus α → Bool
  | .message (.stopThreads threads) => thread ∈ threads
  | .message .stopAll => true
  | .message (.register _ unit) =>
    match (ScriptUnit.parse unit.source : Except SyntaxFault (List (Script α))) with
    | .ok _ => true
    | .error _ => false
  | _ => false

/-- Why a stimulus treats a thread that waits for a call. -/
def causeFor (now : Nat) (thread : ThreadId) (call : Token × Option Nat) :
    Stimulus α → Option (Cause α)
  | .message (.result token value) => if call.1 = token then some (.answered value) else none
  | .message (.failure token reason) => if call.1 = token then some (.refused reason) else none
  | .look => if ScriptWorker.isDue now call then some (.expired call.1) else none
  | stimulus => if stimulus.stops thread then some .stopped else none

/-- Why a stimulus treats a thread: it starts it, or it concerns its call. -/
def cause (stimulus : Stimulus α) (now : Nat) (thread : ThreadId) (starts : List ThreadStart)
    (waits : Option (Token × Option Nat)) : Option (Cause α) :=
  match starts.find? (·.thread = thread) with
  | some start => some (.entered start)
  | none => waits.bind fun call => stimulus.causeFor now thread call

section Reading

variable {source : String} {starts : List ThreadStart}

/-- A unit that can be read adds its scripts. -/
theorem added_read {scripts : List (Script α)} (read : ScriptUnit.parse source = .ok scripts) :
    added (.message (.runAsync source starts)) = scripts := by
  simp only [added, read]

/-- A unit that can be read starts its threads. -/
theorem starts_read {scripts : List (Script α)} (read : ScriptUnit.parse source = .ok scripts) :
    Stimulus.starts (.message (.runAsync source starts) : Stimulus α) = starts := by
  simp only [Stimulus.starts, read]

/-- A unit that cannot be read adds nothing. -/
theorem added_unread {fault : SyntaxFault}
    (read : (ScriptUnit.parse source : Except SyntaxFault (List (Script α))) = .error fault) :
    added (.message (.runAsync source starts) : Stimulus α) = [] := by
  simp only [added, read]

/-- A unit that cannot be read starts nothing. -/
theorem starts_unread {fault : SyntaxFault}
    (read : (ScriptUnit.parse source : Except SyntaxFault (List (Script α))) = .error fault) :
    Stimulus.starts (.message (.runAsync source starts) : Stimulus α) = [] := by
  simp only [Stimulus.starts, read]

end Reading

end Stimulus

namespace ScriptWorker

variable [Scalar α]

/-- What a worker does on a stimulus. -/
def react (worker : ScriptWorker α) (now : Nat) : Stimulus α → Sent α
  | .message message => worker.handle now message
  | .look => worker.poll now

/-- The worker as it stands when a stimulus starts threads. -/
def prepared (worker : ScriptWorker α) (stimulus : Stimulus α) : ScriptWorker α :=
  worker.addScripts stimulus.added

/-- The starts of a stimulus whose scripts are loaded. -/
def entered (worker : ScriptWorker α) (stimulus : Stimulus α) : List ThreadStart :=
  (worker.prepared stimulus).admitted stimulus.starts

/-- How a thread is treated for a cause: the seat it has afterwards and what is said
about it. New calls carry tokens that were not issued before. -/
def Treats (worker : ScriptWorker α) (now : Nat) (stimulus : Stimulus α) (thread : ThreadId)
    (outcome : Seat α × List (WorkerMessage α)) : Option (Cause α) → Prop
  | none => outcome = (worker.seat thread, [])
  | some (.entered start) =>
    ∃ token, ¬ worker.tokens.HasIssued token ∧
      outcome = arrive (worker.prepared stimulus).scripts thread start.place token
        (worker.blockTimeout.map (now + ·))
  | some (.answered value) =>
    ∃ running token, (worker.seat thread).place = some running ∧
      ¬ worker.tokens.HasIssued token ∧
      outcome = arrive worker.scripts thread (running.answered worker.scripts value) token
        (worker.blockTimeout.map (now + ·))
  | some (.refused message) => outcome = (.vacant, [.scriptError (some thread) message])
  | some (.expired token) =>
    outcome = (.vacant,
      [.scriptError (some thread) (expiry (worker.blockTimeout.getD 0) token)])
  | some .stopped => outcome = (.vacant, [])

variable {worker : ScriptWorker α} {thread : ThreadId} {now : Nat}

/-- The starts of `runAsync` are launched with the unit's scripts added. -/
theorem runAsync_eq {source : String} {scripts : List (Script α)}
    (read : ScriptUnit.parse source = .ok scripts) (starts : List ThreadStart) :
    worker.runAsync now source starts =
      (((worker.addScripts scripts).launch now starts).1,
        .status .scriptLoading :: ((worker.addScripts scripts).start starts).2.2 ++
          ((worker.addScripts scripts).launch now starts).2) := by
  unfold runAsync
  rw [read]
  rfl

/-- Loading a unit that can be read forgets every thread. -/
theorem register_eq {source : String} {scripts : List (Script α)}
    (read : ScriptUnit.parse source = .ok scripts) (token : Token) :
    worker.register token source =
      ((worker.replaceScripts scripts).1,
        .status .scriptLoading :: (worker.replaceScripts scripts).2 ++
          [.registered token none]) := by
  unfold register
  rw [read]

/-- A unit that is run at once says about a thread what its launch says. -/
theorem about_runAsync (worker : ScriptWorker α) (now : Nat) (thread : ThreadId)
    {source : String} {scripts : List (Script α)} (read : ScriptUnit.parse source = .ok scripts)
    (starts : List ThreadStart) :
    about thread (worker.runAsync now source starts).2 =
      about thread ((worker.addScripts scripts).launch now starts).2 := by
  rw [runAsync_eq read, about_append, about_cons_of_ne (by simp [WorkerMessage.thread?]),
    about_start_notice, List.nil_append]

/-- To register a unit says nothing about any thread. -/
theorem about_register {source : String} {scripts : List (Script α)}
    (read : ScriptUnit.parse source = .ok scripts) (token : Token) :
    about thread (worker.register token source).2 = [] := by
  rw [register_eq read, about_append, about_cons_of_ne (by simp [WorkerMessage.thread?])]
  exact (congrArg (· ++ []) (halt_seat worker thread).2)

/-- Whatever the stimulus, tokens stay issued and new calls carry new ones. -/
theorem react_moves (worker : ScriptWorker α) (now : Nat) (stimulus : Stimulus α) :
    Moves (fun _ => True) worker (worker.react now stimulus).2 (worker.react now stimulus).1 := by
  cases stimulus with
  | look => exact (poll_moves worker now).widen fun _ _ => trivial
  | message message =>
    cases message with
    | connected => exact Moves.still worker
    | prepare url =>
      exact (Moves.still worker).retell fun thread => rfl
    | register token unit =>
      change Moves _ worker (worker.register token unit.source).2
        (worker.register token unit.source).1
      cases read : (ScriptUnit.parse unit.source : Except SyntaxFault (List (Script α))) with
      | error fault =>
        unfold register
        rw [read]
        exact (Moves.still worker).retell fun thread => rfl
      | ok scripts =>
        have loading := replaceScripts_moves worker scripts
        have same : ∀ thread, about thread (worker.register token unit.source).2 =
            about thread worker.halt.2 := fun thread =>
          (about_register read token).trans (halt_seat worker thread).2.symm
        rw [register_eq read] at same ⊢
        exact loading.retell same
    | runAsync source starts =>
      change Moves _ worker (worker.runAsync now source starts).2
        (worker.runAsync now source starts).1
      cases read : (ScriptUnit.parse source : Except SyntaxFault (List (Script α))) with
      | error fault =>
        unfold runAsync
        rw [read]
        exact (Moves.still worker).retell fun thread => rfl
      | ok scripts =>
        have launching := launch_added_moves worker now scripts starts
        have same := fun thread => about_runAsync worker now thread read starts
        rw [runAsync_eq read] at same ⊢
        exact (launching.retell same).widen fun _ _ => trivial
    | result token value =>
      exact (resume_moves worker now token value).widen fun _ _ => trivial
    | failure token reason =>
      exact (refuse_moves worker token reason).widen fun _ _ => trivial
    | startHats token hat option starts =>
      have same := fun thread => about_startHats worker now thread token starts
      change Moves _ worker (worker.startHats now token starts).2
        (worker.startHats now token starts).1
      rw [startHats_eq] at same ⊢
      exact ((launch_moves worker now starts).retell same).widen fun _ _ => trivial
    | stopThreads threads => exact (stopThreads_moves worker threads).widen fun _ _ => trivial
    | stopAll => exact halt_moves worker

/-- The starts of one stimulus name no thread twice, and those of a thread that has a
seat already name another one. -/
structure Admits (worker : ScriptWorker α) (stimulus : Stimulus α) : Prop where
  distinct : ((worker.entered stimulus).map ThreadStart.thread).Nodup
  vacant : ∀ start ∈ worker.entered stimulus, worker.seat start.thread = .vacant

/-- A stimulus that starts no thread is judged by the seat: a vacant one is left alone,
and a waiting one is treated for what the stimulus says about its call. -/
theorem treats_of_seat {stimulus : Stimulus α} {outcome : Seat α × List (WorkerMessage α)}
    (starts : worker.entered stimulus = []) (settled : (worker.seat thread).Settled)
    (idle : worker.seat thread = .vacant → outcome = (worker.seat thread, []))
    (waiting : ∀ running token deadline,
      worker.seat thread = ⟨some running, [(token, deadline)]⟩ →
      worker.Treats now stimulus thread outcome (stimulus.causeFor now thread (token, deadline))) :
    worker.Treats now stimulus thread outcome
      (stimulus.cause now thread (worker.entered stimulus)
        (worker.seat thread).calls.head?) := by
  rw [starts]
  rcases settled with empty | ⟨running, token, deadline, waits⟩
  · have cause : stimulus.cause now thread [] (worker.seat thread).calls.head? = none := by
      rw [empty]
      rfl
    rw [cause]
    exact idle empty
  · have cause : stimulus.cause now thread [] (worker.seat thread).calls.head? =
        stimulus.causeFor now thread (token, deadline) := by
      rw [waits]
      rfl
    rw [cause]
    exact waiting running token deadline waits

/-- A look at the deadlines treats the threads whose call is due. -/
theorem look_treats (settled : (worker.seat thread).Settled) :
    worker.Treats now .look thread
      ((worker.poll now).1.seat thread, about thread (worker.poll now).2)
      ((Stimulus.look : Stimulus α).cause now thread (worker.entered .look)
        (worker.seat thread).calls.head?) := by
  refine treats_of_seat rfl settled ?_ ?_
  · intro empty
    refine (poll_moves worker now).outcome ?_
    rw [empty]
    rintro ⟨call, member, -⟩
    cases member
  · intro running token deadline waits
    cases due : isDue now (token, deadline) with
    | true =>
      rw [Stimulus.causeFor, if_pos due]
      obtain ⟨seated, told⟩ := poll_seat waits due
      exact Prod.ext seated told
    | false =>
      rw [Stimulus.causeFor, if_neg (by rw [due]; exact Bool.false_ne_true)]
      refine (poll_moves worker now).outcome ?_
      rw [waits]
      rintro ⟨call, member, late⟩
      rw [List.mem_singleton.mp member, due] at late
      cases late

/-- An answer treats the thread that waits for it. -/
theorem result_treats (numbered : worker.Numbered) (settled : (worker.seat thread).Settled)
    (token : Token) (value : Value α) :
    worker.Treats now (.message (.result token value)) thread
      ((worker.resume now token value).1.seat thread,
        about thread (worker.resume now token value).2)
      (Stimulus.cause (.message (.result token value)) now thread
        (worker.entered (.message (.result token value))) (worker.seat thread).calls.head?) := by
  refine treats_of_seat rfl settled ?_ ?_
  · exact fun empty => (resume_moves worker now token value).outcome
      (not_owns_of_vacant empty)
  · intro running awaited deadline waits
    by_cases same : awaited = token
    · subst same
      rw [Stimulus.causeFor, if_pos rfl]
      obtain ⟨next, new, arrival⟩ := resume_seat numbered now value waits
      exact ⟨running, next, by rw [waits], new, arrival⟩
    · rw [Stimulus.causeFor, if_neg same]
      exact (resume_moves worker now token value).outcome (not_owns_of_ne waits same)

/-- A refusal treats the thread that waits for the answer. -/
theorem failure_treats (settled : (worker.seat thread).Settled) (token : Token)
    (reason : String) :
    worker.Treats now (.message (.failure token reason)) thread
      ((worker.refuse token reason).1.seat thread,
        about thread (worker.refuse token reason).2)
      (Stimulus.cause (.message (.failure token reason)) now thread
        (worker.entered (.message (.failure token reason)))
        (worker.seat thread).calls.head?) := by
  refine treats_of_seat rfl settled ?_ ?_
  · exact fun empty => (refuse_moves worker token reason).outcome
      (not_owns_of_vacant empty)
  · intro running awaited deadline waits
    by_cases same : awaited = token
    · subst same
      rw [Stimulus.causeFor, if_pos rfl]
      have owner : worker.Owns awaited thread := by
        rw [owns_iff, waits]
        exact ⟨deadline, List.mem_singleton_self _⟩
      obtain ⟨seated, told⟩ := refuse_seat owner reason
      exact Prod.ext seated told
    · rw [Stimulus.causeFor, if_neg same]
      exact (refuse_moves worker token reason).outcome (not_owns_of_ne waits same)

/-- A stimulus that empties the seats of the threads it stops, says nothing about any
thread and spares the others treats the waiting ones among those it stops. -/
theorem stop_treats {stimulus : Stimulus α} {outcome : Seat α × List (WorkerMessage α)}
    (starts : worker.entered stimulus = []) (settled : (worker.seat thread).Settled)
    (judged : ∀ call, stimulus.causeFor now thread call =
      if stimulus.stops thread then some .stopped else none)
    (stopped : outcome = (if stimulus.stops thread then .vacant else worker.seat thread, [])) :
    worker.Treats now stimulus thread outcome
      (stimulus.cause now thread (worker.entered stimulus)
        (worker.seat thread).calls.head?) := by
  refine treats_of_seat starts settled ?_ ?_
  · intro empty
    rw [stopped, empty, ite_self]
  · intro running token deadline waits
    rw [judged, stopped]
    cases stimulus.stops thread <;> rfl

/-- A stimulus that launches threads treats those it admits. -/
theorem launch_treats {stimulus : Stimulus α} {outcome : Seat α × List (WorkerMessage α)}
    (numbered : worker.Numbered) (admits : worker.Admits stimulus)
    (idle : ∀ call, stimulus.causeFor now thread call = none)
    (launched : outcome =
      (((worker.prepared stimulus).launch now stimulus.starts).1.seat thread,
        about thread
          ((worker.prepared stimulus).launch now stimulus.starts).2)) :
    worker.Treats now stimulus thread outcome
      (stimulus.cause now thread (worker.entered stimulus)
        (worker.seat thread).calls.head?) := by
  have launch := launch_seats now thread (show (worker.prepared stimulus).Numbered from numbered)
    admits.distinct
    (fun start member named => named ▸ admits.vacant start member)
  rw [launched, Stimulus.cause]
  change match (worker.entered stimulus).find? (·.thread = thread) with
    | some start => _
    | none => _ at launch
  cases found : (worker.entered stimulus).find? (·.thread = thread) with
  | some start =>
    rw [found] at launch
    obtain ⟨token, new, arrival⟩ := launch
    exact ⟨token, new, arrival⟩
  | none =>
    rw [found] at launch
    have quiet : ((worker.seat thread).calls.head?.bind fun call =>
        stimulus.causeFor now thread call) = none := by
      cases (worker.seat thread).calls.head? with
      | none => rfl
      | some call => exact idle call
    dsimp only
    rw [quiet]
    exact Prod.ext launch.1 launch.2

/-- A thread that waits for at most one call is treated for the cause that a stimulus
has for it, and for nothing else. -/
theorem react_treats (now : Nat) (thread : ThreadId) (numbered : worker.Numbered)
    (settled : (worker.seat thread).Settled)
    {stimulus : Stimulus α} (admits : worker.Admits stimulus) :
    worker.Treats now stimulus thread
      ((worker.react now stimulus).1.seat thread, about thread (worker.react now stimulus).2)
      (stimulus.cause now thread (worker.entered stimulus)
        (worker.seat thread).calls.head?) := by
  cases stimulus with
  | look => exact look_treats settled
  | message message =>
    cases message with
    | connected => exact stop_treats rfl settled (fun _ => rfl) rfl
    | prepare url => exact stop_treats rfl settled (fun _ => rfl) rfl
    | register token unit =>
      refine stop_treats rfl settled (fun _ => rfl) ?_
      change ((worker.register token unit.source).1.seat thread,
        about thread (worker.register token unit.source).2) = _
      cases read : (ScriptUnit.parse unit.source : Except SyntaxFault (List (Script α))) with
      | error fault =>
        have spared : (Stimulus.message (.register token unit) : Stimulus α).stops thread =
            false := by simp only [Stimulus.stops, read]
        rw [spared]
        unfold register
        rw [read]
        rfl
      | ok scripts =>
        have stopped : (Stimulus.message (.register token unit) : Stimulus α).stops thread =
            true := by simp only [Stimulus.stops, read]
        rw [stopped, about_register read, register_eq read]
        rfl
    | runAsync source starts =>
      change worker.Treats now _ thread ((worker.runAsync now source starts).1.seat thread,
        about thread (worker.runAsync now source starts).2) _
      cases read : (ScriptUnit.parse source : Except SyntaxFault (List (Script α))) with
      | error fault =>
        have bare : worker.entered (.message (.runAsync source starts)) = [] := by
          rw [entered, Stimulus.starts_unread read]
          rfl
        refine stop_treats bare settled (fun _ => rfl) ?_
        unfold runAsync
        rw [read]
        rfl
      | ok scripts =>
        refine launch_treats numbered admits (fun _ => rfl) ?_
        rw [prepared, Stimulus.added_read read, Stimulus.starts_read read,
          about_runAsync worker now thread read,
          runAsync_eq read]
    | result token value => exact result_treats numbered settled token value
    | failure token reason => exact failure_treats settled token reason
    | startHats token hat option starts =>
      refine launch_treats numbered admits (fun _ => rfl) ?_
      change ((worker.startHats now token starts).1.seat thread,
        about thread (worker.startHats now token starts).2) = _
      rw [about_startHats, startHats_eq]
      rfl
    | stopThreads threads =>
      refine stop_treats rfl settled (fun _ => rfl) ?_
      obtain ⟨seated, silent⟩ := stopThreads_seat worker threads thread
      refine Prod.ext (seated.trans ?_) silent
      simp [Stimulus.stops]
    | stopAll =>
      refine stop_treats rfl settled (fun _ => rfl) ?_
      exact Prod.ext (halt_seat worker thread).1 (halt_seat worker thread).2

/-- A thread that no start names and that waits for nothing is left alone. -/
theorem cause_none {stimulus : Stimulus α} {starts : List ThreadStart}
    (absent : thread ∉ starts.map ThreadStart.thread) :
    stimulus.cause now thread starts none = none := by
  have nobody : starts.find? (·.thread = thread) = none := by
    refine List.find?_eq_none.mpr fun start member named => absent ?_
    exact List.mem_map.mpr ⟨start, member, by simpa using named⟩
  rw [Stimulus.cause, nobody]
  rfl

/-- Whatever its treatment, a thread is left alone, or it loses its seat in silence, or it
arrives somewhere. -/
theorem Treats.outcomes {stimulus : Stimulus α} {outcome : Seat α × List (WorkerMessage α)}
    {cause : Option (Cause α)} (treats : worker.Treats now stimulus thread outcome cause) :
    outcome = (worker.seat thread, []) ∨ outcome = (.vacant, []) ∨
      Arrived thread outcome.1 outcome.2 := by
  cases cause with
  | none => exact Or.inl treats
  | some cause =>
    cases cause with
    | entered start =>
      obtain ⟨token, -, rfl⟩ := treats
      exact Or.inr (Or.inr (arrive_arrived _ _ _ _ _))
    | answered value =>
      obtain ⟨running, token, -, -, rfl⟩ := treats
      exact Or.inr (Or.inr (arrive_arrived _ _ _ _ _))
    | refused reason =>
      obtain rfl : outcome = _ := treats
      exact Or.inr (Or.inr (.closed (Or.inr ⟨_, rfl⟩)))
    | expired token =>
      obtain rfl : outcome = _ := treats
      exact Or.inr (Or.inr (.closed (Or.inr ⟨_, rfl⟩)))
    | stopped => exact Or.inr (Or.inl treats)

/-- A thread is told to call statements of the loaded scripts. -/
theorem Treats.called {stimulus : Stimulus α} {outcome : Seat α × List (WorkerMessage α)}
    {cause : Option (Cause α)} (treats : worker.Treats now stimulus thread outcome cause)
    {target : TargetId} {id : ThreadId} {opcode : String} {args : Args α} {token : Token}
    (calls : .call target id opcode args token ∈ outcome.2) :
    ∃ name script, ((worker.prepared stimulus).scripts.find? name = some script ∨
        worker.scripts.find? name = some script) ∧
      ∃ statement ∈ script.body, statement.opcode = opcode := by
  cases cause with
  | none =>
    obtain rfl : outcome = _ := treats
    cases calls
  | some cause =>
    cases cause with
    | entered start =>
      obtain ⟨other, -, rfl⟩ := treats
      obtain ⟨script, loaded, inside⟩ := mem_arrive calls
      exact ⟨_, script, Or.inl loaded, inside⟩
    | answered value =>
      obtain ⟨running, other, -, -, rfl⟩ := treats
      obtain ⟨script, loaded, inside⟩ := mem_arrive calls
      exact ⟨_, script, Or.inr loaded, inside⟩
    | refused reason =>
      obtain rfl : outcome = _ := treats
      cases List.mem_singleton.mp calls
    | expired other =>
      obtain rfl : outcome = _ := treats
      cases List.mem_singleton.mp calls
    | stopped =>
      obtain rfl : outcome = _ := treats
      cases calls

/-- Whatever its treatment, a settled thread is settled afterwards. -/
theorem Treats.settled {stimulus : Stimulus α} {outcome : Seat α × List (WorkerMessage α)}
    {cause : Option (Cause α)} (treats : worker.Treats now stimulus thread outcome cause)
    (settled : (worker.seat thread).Settled) : outcome.1.Settled := by
  rcases treats.outcomes with same | empty | arrived
  · rw [same]
    exact settled
  · rw [empty]
    exact Seat.settled_vacant
  · exact arrived.settled

/-- Between two stimuli every thread waits for one call or has no seat. -/
theorem react_settled (now : Nat) (numbered : worker.Numbered)
    (settled : (worker.seat thread).Settled)
    {stimulus : Stimulus α} (admits : worker.Admits stimulus) :
    ((worker.react now stimulus).1.seat thread).Settled :=
  (react_treats now thread numbered settled admits).settled settled

/-- Behind a stimulus the scripts are those with which it starts threads, unless it loads a
unit. -/
theorem react_scripts (worker : ScriptWorker α) (now : Nat) (stimulus : Stimulus α) :
    (worker.react now stimulus).1.scripts = (worker.prepared stimulus).scripts ∨
      ∃ token unit scripts, stimulus = .message (.register token unit) ∧
        ScriptUnit.parse unit.source = .ok scripts ∧ (worker.react now stimulus).1.scripts =
          OrderedMap.ofList (scripts.map fun script => (script.id, script)) := by
  cases stimulus with
  | look =>
    exact Or.inl (failAll_keeps (worker.blockTimeout.getD 0)
      { worker with pending := (worker.pending.expire now).2 } (worker.pending.expire now).1).1
  | message message =>
    cases message with
    | connected => exact Or.inl rfl
    | prepare url => exact Or.inl rfl
    | register token unit =>
      cases read : (ScriptUnit.parse unit.source : Except SyntaxFault (List (Script α))) with
      | error fault =>
        left
        change (worker.register token unit.source).1.scripts = _
        unfold register
        rw [read]
        rfl
      | ok scripts =>
        refine Or.inr ⟨token, unit, scripts, rfl, read, ?_⟩
        change (worker.register token unit.source).1.scripts = _
        rw [register_eq read]
        rfl
    | runAsync source starts =>
      left
      change (worker.runAsync now source starts).1.scripts = _
      rw [prepared]
      cases read : (ScriptUnit.parse source : Except SyntaxFault (List (Script α))) with
      | error fault =>
        unfold runAsync
        rw [Stimulus.added_unread read, read]
        rfl
      | ok scripts =>
        rw [Stimulus.added_read read, runAsync_eq read]
        exact (launch_keeps (worker.addScripts scripts) now starts).1
    | result token value => exact Or.inl (resume_keeps worker now token value).1
    | failure token reason => exact Or.inl (refuse_keeps worker token reason).1
    | startHats token hat option starts =>
      left
      change (worker.startHats now token starts).1.scripts = _
      rw [startHats_eq]
      exact (launch_keeps worker now starts).1
    | stopThreads threads => exact Or.inl rfl
    | stopAll => exact Or.inl rfl

/-- No stimulus changes the time limit. -/
theorem react_limit (worker : ScriptWorker α) (now : Nat) (stimulus : Stimulus α) :
    (worker.react now stimulus).1.blockTimeout = worker.blockTimeout := by
  cases stimulus with
  | look =>
    exact (failAll_keeps (worker.blockTimeout.getD 0)
      { worker with pending := (worker.pending.expire now).2 } (worker.pending.expire now).1).2
  | message message =>
    cases message with
    | register token unit =>
      change (worker.register token unit.source).1.blockTimeout = _
      unfold register
      split <;> rfl
    | runAsync source starts =>
      change (worker.runAsync now source starts).1.blockTimeout = _
      cases read : (ScriptUnit.parse source : Except SyntaxFault (List (Script α))) with
      | error fault =>
        unfold runAsync
        rw [read]
      | ok scripts =>
        rw [runAsync_eq read]
        exact (launch_keeps (worker.addScripts scripts) now starts).2
    | result token value => exact (resume_keeps worker now token value).2
    | failure token reason => exact (refuse_keeps worker token reason).2
    | startHats token hat option starts =>
      change (worker.startHats now token starts).1.blockTimeout = _
      rw [startHats_eq]
      exact (launch_keeps worker now starts).2
    | _ => rfl

/-- Behind a stimulus the scripts are those with which it starts threads, unless it stops
every thread. -/
theorem react_keeps (worker : ScriptWorker α) (now : Nat) (stimulus : Stimulus α) :
    (worker.react now stimulus).1.scripts = (worker.prepared stimulus).scripts ∨
      ∀ thread, stimulus.stops thread = true := by
  rcases react_scripts worker now stimulus with same | ⟨token, unit, scripts, rfl, read, -⟩
  · exact Or.inl same
  · exact Or.inr fun thread => by simp only [Stimulus.stops, read]

/-- A loaded script is still the same when threads are started, if it is not added
again. -/
theorem prepared_script {stimulus : Stimulus α} {script : ScriptId} {found : Script α}
    (kept : ∀ added ∈ stimulus.added, worker.scripts.contains added.id = false)
    (loaded : worker.scripts.find? script = some found) :
    (worker.prepared stimulus).scripts.find? script = some found := by
  refine (OrderedMap.find_insertAll_of_not_mem _ _ _ ?_).trans loaded
  intro member
  rw [List.map_map] at member
  obtain ⟨added, inside, same⟩ := List.mem_map.mp member
  have absent := kept added inside
  rw [OrderedMap.contains_eq_isSome, show added.id = script from same, loaded] at absent
  cases absent

/-- A thread that stays seated keeps its script. -/
theorem react_script (thread : ThreadId) {stimulus : Stimulus α} {script : ScriptId}
    {found : Script α}
    (kept : ∀ added ∈ stimulus.added, worker.scripts.contains added.id = false)
    (loaded : worker.scripts.find? script = some found)
    (spared : stimulus.stops thread = false) :
    (worker.react now stimulus).1.scripts.find? script = some found := by
  rcases react_keeps worker now stimulus with same | stopped
  · rw [same]
    exact prepared_script kept loaded
  · rw [stopped thread] at spared
    cases spared

/-- A stimulus that stops a thread starts none. -/
theorem starts_of_stops {stimulus : Stimulus α} (stops : stimulus.stops thread = true) :
    stimulus.starts = [] := by
  cases stimulus with
  | look => rfl
  | message message =>
    cases message with
    | runAsync source starts => cases stops
    | startHats token hat option starts => cases stops
    | _ => rfl

/-- A stimulus that stops a waiting thread has no other cause for it. -/
theorem causeFor_of_stops (now : Nat) {stimulus : Stimulus α} (stops : stimulus.stops thread = true)
    (call : Token × Option Nat) : stimulus.causeFor now thread call = some .stopped := by
  cases stimulus with
  | look => cases stops
  | message message =>
    cases message with
    | result token value => cases stops
    | failure token reason => cases stops
    | stopAll => rfl
    | _ => exact if_pos stops

/-- What concerns a waiting thread does not start it. -/
theorem causeFor_ne_entered (stimulus : Stimulus α) (call : Token × Option Nat)
    {start : ThreadStart} : stimulus.causeFor now thread call ≠ some (.entered start) := by
  unfold Stimulus.causeFor
  repeat' split
  all_goals simp

/-- The call that expires is the one the thread waits for. -/
theorem causeFor_expired {stimulus : Stimulus α} {call : Token × Option Nat} {token : Token}
    (expired : stimulus.causeFor now thread call = some (.expired token)) : token = call.1 := by
  unfold Stimulus.causeFor at expired
  repeat' split at expired
  all_goals simp_all

end ScriptWorker

end SpriteMachine
