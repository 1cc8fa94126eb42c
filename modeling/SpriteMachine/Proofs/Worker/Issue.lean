import SpriteMachine.Proofs.Worker.Tapped
import SpriteMachine.Proofs.Worker.Treatment

/-!
# The tokens of calls

Every call of a worker carries a token that was not issued before it and is issued behind
it. A step may make many calls; their tokens are distinct because each is fresh where the
ones before it are issued.
-/

namespace SpriteMachine

variable {α : Type}

/-- The tokens of the calls among messages. -/
def callTokens (messages : List (WorkerMessage α)) : List Token :=
  (messages.filterMap WorkerMessage.called?).map Prod.snd

/-- The tokens of calls are told in the order of the messages. -/
@[simp]
theorem callTokens_append (first second : List (WorkerMessage α)) :
    callTokens (first ++ second) = callTokens first ++ callTokens second := by
  simp [callTokens]

/-- A message that is no call carries no token of one. -/
theorem callTokens_cons {message : WorkerMessage α} (other : message.called? = none)
    (rest : List (WorkerMessage α)) : callTokens (message :: rest) = callTokens rest := by
  rw [callTokens, List.filterMap_cons, other]
  rfl

namespace ScriptWorker

/-- The notice of an idle worker calls nothing. -/
@[simp]
theorem callTokens_idleNotice (worker : ScriptWorker α) : callTokens worker.idleNotice = [] := by
  unfold idleNotice
  split <;> rfl

/-- A step whose calls carry distinct tokens that it issues. -/
structure Issues (before : ScriptWorker α) (sent : List (WorkerMessage α))
    (after : ScriptWorker α) : Prop where
  keeps : ∀ token, before.tokens.HasIssued token → after.tokens.HasIssued token
  fresh : ∀ token ∈ callTokens sent, ¬ before.tokens.HasIssued token
  issued : ∀ token ∈ callTokens sent, after.tokens.HasIssued token
  distinct : (callTokens sent).Nodup

namespace Issues

variable {first second third : ScriptWorker α} {sent more told : List (WorkerMessage α)}

/-- A step without a call that keeps the source of tokens. -/
theorem silent (silent : callTokens sent = []) (same : second.tokens = first.tokens) :
    Issues first sent second where
  keeps token issued := by rw [same]; exact issued
  fresh token member := by rw [silent] at member; cases member
  issued token member := by rw [silent] at member; cases member
  distinct := by rw [silent]; exact List.nodup_nil

/-- The calls of a later step carry other tokens than those of an earlier one. -/
theorem trans (early : Issues first sent second) (late : Issues second more third) :
    Issues first (sent ++ more) third where
  keeps token issued := late.keeps token (early.keeps token issued)
  fresh token member := by
    rw [callTokens_append, List.mem_append] at member
    rcases member with before | behind
    · exact early.fresh token before
    · exact fun issued => late.fresh token behind (early.keeps token issued)
  issued token member := by
    rw [callTokens_append, List.mem_append] at member
    rcases member with before | behind
    · exact late.keeps token (early.issued token before)
    · exact late.issued token behind
  distinct := by
    rw [callTokens_append]
    refine List.nodup_append.mpr ⟨early.distinct, late.distinct, ?_⟩
    rintro token before _ behind rfl
    exact late.fresh token behind (early.issued token before)

/-- A step may begin at any worker with the same source of tokens. -/
theorem rebase (issues : Issues first sent second) (same : first.tokens = third.tokens) :
    Issues third sent second :=
  ⟨by rw [← same]; exact issues.keeps, by rw [← same]; exact issues.fresh, issues.issued,
    issues.distinct⟩

/-- Other messages with the same calls may stand for those of a step. -/
theorem retell (issues : Issues first sent second) (same : callTokens told = callTokens sent) :
    Issues first told second :=
  ⟨issues.keeps, by rw [same]; exact issues.fresh, by rw [same]; exact issues.issued,
    by rw [same]; exact issues.distinct⟩

end Issues

/-- A thread that fails calls nothing. -/
theorem fail_issues (worker : ScriptWorker α) (thread : ThreadId) (message : String) :
    Issues worker (worker.fail thread message).2 (worker.fail thread message).1 :=
  .silent (by rw [fail, callTokens_cons rfl, callTokens_idleNotice]) rfl

/-- A thread that ends calls nothing. -/
theorem finish_issues (worker : ScriptWorker α) (thread : ThreadId) :
    Issues worker (worker.finish thread).2 (worker.finish thread).1 :=
  .silent (by rw [finish, callTokens_cons rfl, callTokens_idleNotice]) rfl

/-- A call carries the next token. -/
theorem callBlock_issues (worker : ScriptWorker α) (now : Nat) (thread : ThreadId)
    (target : TargetId) (opcode : String) (args : Args α) :
    Issues worker (worker.callBlock now thread target opcode args).2
      (worker.callBlock now thread target opcode args).1 := by
  unfold callBlock
  simp only []
  split
  case h_1 =>
    refine ⟨fun _ issued => issued.next, ?_, ?_, List.nodup_singleton _⟩
    · intro token member
      rw [List.mem_singleton.mp member]
      exact worker.tokens.next_fresh
    · intro token member
      rw [List.mem_singleton.mp member]
      exact worker.tokens.next_issued
  case h_2 =>
    exact ⟨fun _ issued => issued.next, fun _ member => absurd member List.not_mem_nil,
      fun _ member => absurd member List.not_mem_nil, List.nodup_nil⟩

/-- A thread that goes on issues the token of its next call, if it has one. -/
theorem advance_issues (worker : ScriptWorker α) (now : Nat) (thread : ThreadId) :
    Issues worker (worker.advance now thread).2 (worker.advance now thread).1 := by
  unfold advance
  split
  case h_1 => exact .silent rfl rfl
  case h_2 =>
    split
    case h_1 => exact fail_issues worker thread _
    case h_2 =>
      split
      case h_1 => exact finish_issues worker thread
      case h_2 =>
        split
        case h_1 => exact callBlock_issues worker now thread _ _ _
        case h_2 => exact fail_issues worker thread _

/-- Threads that go on one after another issue the tokens of their calls in turn. -/
theorem advanceAll_issues (now : Nat) (worker : ScriptWorker α) (threads : List ThreadId) :
    Issues worker (advanceAll now worker threads).2 (advanceAll now worker threads).1 := by
  induction threads generalizing worker with
  | nil => exact .silent rfl rfl
  | cons first rest inductionHypothesis =>
    exact (advance_issues worker now first).trans (inductionHypothesis _)

/-- Launching threads issues the tokens of their first calls. -/
theorem launch_issues (worker : ScriptWorker α) (now : Nat) (starts : List ThreadStart) :
    Issues worker (worker.launch now starts).2 (worker.launch now starts).1 := by
  have entering : (worker.enter starts).1.tokens = worker.tokens := by
    rw [(enter_keeps worker starts).1]
  exact (advanceAll_issues now (worker.enter starts).1 (worker.enter starts).2).rebase entering

/-- The notice of a start calls nothing. -/
@[simp]
theorem callTokens_notice (worker : ScriptWorker α) (starts : List ThreadStart) :
    callTokens (worker.start starts).2.2 = [] := by
  unfold start
  dsimp only
  split <;> rfl

/-- A halt calls nothing. -/
@[simp]
theorem callTokens_halt (worker : ScriptWorker α) : callTokens worker.halt.2 = [] := by
  unfold halt
  dsimp only
  split <;> rfl

/-- Stopping threads calls nothing. -/
theorem stopThreads_issues (worker : ScriptWorker α) (threads : List ThreadId) :
    Issues worker (worker.stopThreads threads).2 (worker.stopThreads threads).1 := by
  refine .silent ?_ rfl
  unfold stopThreads
  dsimp only
  split
  case isTrue => rfl
  case isFalse => exact callTokens_idleNotice _

/-- An answer lets its thread go on with one call at most. -/
theorem resume_issues (worker : ScriptWorker α) (now : Nat) (token : Token) (value : Value α) :
    Issues worker (worker.resume now token value).2 (worker.resume now token value).1 := by
  unfold resume
  split
  case h_1 => exact .silent rfl rfl
  case h_2 =>
    dsimp only
    split
    case h_1 => exact .silent rfl rfl
    case h_2 => exact (advance_issues _ now _).rebase rfl

/-- A refusal calls nothing. -/
theorem refuse_issues (worker : ScriptWorker α) (token : Token) (reason : String) :
    Issues worker (worker.refuse token reason).2 (worker.refuse token reason).1 := by
  unfold refuse
  split
  case h_1 => exact .silent rfl rfl
  case h_2 => exact (fail_issues _ _ reason).rebase rfl

/-- Calls that are given up call nothing. -/
theorem failAll_issues (timeout : Nat) (worker : ScriptWorker α)
    (expired : List (Token × ThreadId)) :
    Issues worker (failAll timeout worker expired).2 (failAll timeout worker expired).1 := by
  induction expired generalizing worker with
  | nil => exact .silent rfl rfl
  | cons first rest inductionHypothesis =>
    exact (fail_issues worker first.2 (expiry timeout first.1)).trans (inductionHypothesis _)

variable [Scalar α]

/-- Whatever the stimulus, the calls it brings about carry new tokens. -/
theorem react_issues (worker : ScriptWorker α) (now : Nat) (stimulus : Stimulus α) :
    Issues worker (worker.react now stimulus).2 (worker.react now stimulus).1 := by
  cases stimulus with
  | look =>
    exact (failAll_issues (worker.blockTimeout.getD 0)
      { worker with pending := (worker.pending.expire now).2 } (worker.pending.expire now).1).rebase
        rfl
  | message message =>
    cases message with
    | connected => exact .silent rfl rfl
    | prepare url => exact .silent rfl rfl
    | register token unit =>
      change Issues worker (worker.register token unit.source).2
        (worker.register token unit.source).1
      cases read : (ScriptUnit.parse unit.source : Except SyntaxFault (List (Script α))) with
      | error fault =>
        unfold register
        rw [read]
        exact .silent rfl rfl
      | ok scripts =>
        rw [register_eq read]
        refine .silent ?_ rfl
        rw [callTokens_append, callTokens_cons rfl]
        exact congrArg (· ++ []) (callTokens_halt worker)
    | runAsync source starts =>
      change Issues worker (worker.runAsync now source starts).2
        (worker.runAsync now source starts).1
      cases read : (ScriptUnit.parse source : Except SyntaxFault (List (Script α))) with
      | error fault =>
        unfold runAsync
        rw [read]
        exact .silent rfl rfl
      | ok scripts =>
        have kept : (worker.addScripts scripts).tokens = worker.tokens := rfl
        have launching := (launch_issues (worker.addScripts scripts) now starts).rebase kept
        rw [runAsync_eq read]
        refine launching.retell ?_
        rw [callTokens_append, callTokens_cons rfl, callTokens_notice, List.nil_append]
    | result token value => exact resume_issues worker now token value
    | failure token reason => exact refuse_issues worker token reason
    | startHats token hat option starts =>
      change Issues worker (worker.startHats now token starts).2
        (worker.startHats now token starts).1
      rw [startHats_eq]
      refine (launch_issues worker now starts).retell ?_
      rw [callTokens_append, callTokens_notice, List.nil_append, callTokens_cons rfl]
    | stopThreads threads => exact stopThreads_issues worker threads
    | stopAll => exact .silent (callTokens_halt worker) rfl

end ScriptWorker

end SpriteMachine
