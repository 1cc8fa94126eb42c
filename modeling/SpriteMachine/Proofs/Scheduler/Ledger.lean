import SpriteMachine.Proofs.Scheduler.Beat
import SpriteMachine.Proofs.Stack
import SpriteMachine.Proofs.Worker.Tapped

/-!
# The ledger of calls

Every call that reaches the host is in one place: deferred in the backlog, in the host's
hand, on the stack of the thread it was made for, or answered. It leaves these places only
with its thread. The ledger counts the places against the calls and follows each call
through the beats of a tick and through whatever else the host does.

A name may be given to a second thread only when the source of names repeats itself; the
thread that was called is gone then.
-/

namespace SpriteMachine

namespace IdSource

/-- A source has issued a name twice. -/
def Reissued (source : IdSource) (name : String) : Prop :=
  ∃ first second, first < second ∧ second < source.issued ∧ source.name first = name ∧
    source.name second = name

/-- A source that never repeats a name issues none twice. -/
theorem Distinct.not_reissued {source : IdSource} (distinct : source.Distinct) (name : String) :
    ¬ source.Reissued name := by
  rintro ⟨first, second, before, -, named, again⟩
  exact Nat.ne_of_lt before (distinct first second (named.trans again.symm))

/-- A name that was issued twice stays issued twice. -/
theorem Continues.reissued_of {earlier later : IdSource} (continues : Continues earlier later)
    {name : String} (reissued : earlier.Reissued name) : later.Reissued name := by
  obtain ⟨first, second, before, below, named, again⟩ := reissued
  refine ⟨first, second, before, Nat.lt_of_lt_of_le below continues.issued, ?_, ?_⟩
  · rw [continues.name, named]
  · rw [continues.name, again]

/-- A drawn name that was issued before is issued twice. -/
theorem draw_reissued (source : IdSource) (taken : List String)
    (issued : source.Issued (source.draw taken).1) :
    (source.draw taken).2.Reissued (source.draw taken).1 := by
  obtain ⟨continues, second, above, below, again⟩ := drawFrom_candidate taken taken.length source
  obtain ⟨first, before, named⟩ := issued
  refine ⟨first, second, Nat.lt_of_lt_of_le before above, below, ?_, ?_⟩
  · rw [draw, continues.name]
    exact named
  · rw [draw, continues.name]
    exact again.symm

end IdSource

variable {τ α : Type}

namespace Scheduler

/-- The calls that the frames of all live threads stand for. -/
def stacked (scheduler : Scheduler τ α) : List Token :=
  scheduler.threads.values.flatMap Thread.tokens

/-- The call that the host has in hand. -/
def handed : Option (ThreadId × Frame α) → List (ThreadId × Token)
  | some (id, frame) => (frame.token.map (id, ·)).toList
  | none => []

/-- A frame of the thread that made a call waits for the call's block. -/
def Carries (scheduler : Scheduler τ α) (call : ThreadId × Token) : Prop :=
  ∃ thread, scheduler.threads.find? call.1 = some thread ∧ thread.isActive = true ∧
    ∃ frame ∈ thread.frames, frame.token = some call.2 ∧ frame.state = .waiting

/-- The thread that once had a name is not live any more. -/
def Gone (scheduler : Scheduler τ α) (id : ThreadId) : Prop :=
  scheduler.isLive id = false ∨ scheduler.ids.Reissued id.text

/-- A change of the host's threads that touches no frame. -/
structure Stirs (before after : Scheduler τ α) : Prop where
  bridge : after.bridge = before.bridge
  registry : after.registry = before.registry
  ids : IdSource.Continues before.ids after.ids
  count : ∀ token, after.stacked.count token ≤ before.stacked.count token
  found : ∀ id thread, after.threads.find? id = some thread →
    (∃ earlier, before.threads.find? id = some earlier ∧ thread.frames = earlier.frames ∧
      (thread.isActive = true → earlier.isActive = true)) ∨
    (thread.Rests ∧ after.ids.Issued id.text ∧
      (before.ids.Issued id.text → after.ids.Reissued id.text))
  kept : ∀ id thread, before.threads.find? id = some thread → thread.isActive = true →
    (∃ later, after.threads.find? id = some later ∧ later.isActive = true ∧
      later.frames = thread.frames) ∨ after.Gone id

variable {before after scheduler : Scheduler τ α}

/-- Nothing happens to the threads. -/
theorem Stirs.still (bridge : after.bridge = before.bridge)
    (registry : after.registry = before.registry)
    (ids : IdSource.Continues before.ids after.ids) (threads : after.threads = before.threads) :
    Stirs before after := by
  refine ⟨bridge, registry, ids, fun token => ?_, fun id thread found => ?_,
    fun id thread found active => ?_⟩
  · refine Nat.le_of_eq ?_
    rw [stacked, stacked, threads]
  · rw [threads] at found
    exact Or.inl ⟨thread, found, rfl, fun active => active⟩
  · rw [threads]
    exact Or.inl ⟨thread, found, active, rfl⟩

/-- What the stacks hold does not depend on whether threads have ended. -/
theorem count_finish (scheduler : Scheduler τ α) (id : ThreadId) (token : Token) :
    ((scheduler.threads.modify id Thread.finish).values.flatMap Thread.tokens).count token =
      scheduler.stacked.count token := by
  cases found : scheduler.threads.find? id with
  | none =>
    rw [OrderedMap.modify_eq_self, stacked]
    intro thread present
    rw [found] at present
    cases present
  | some thread =>
    have exchanged := OrderedMap.count_modify found Thread.tokens Thread.finish token
    have same : thread.finish.tokens = thread.tokens := rfl
    rw [same] at exchanged
    exact Nat.add_right_cancel exchanged

/-- Ending a thread leaves its frames where they are. -/
theorem Stirs.finish {id : ThreadId} (bridge : after.bridge = before.bridge)
    (registry : after.registry = before.registry) (ids : after.ids = before.ids)
    (threads : after.threads = before.threads.modify id Thread.finish) : Stirs before after := by
  have finds : ∀ other, after.threads.find? other =
      if other = id then (before.threads.find? other).map Thread.finish
      else before.threads.find? other := by
    intro other
    rw [threads, OrderedMap.find_modify]
  refine ⟨bridge, registry, ids ▸ .refl _, fun token => ?_, fun other thread found => ?_,
    fun other thread found active => ?_⟩
  · refine Nat.le_of_eq ?_
    rw [stacked, threads, count_finish, stacked]
  · rw [finds] at found
    split at found
    case isTrue =>
      obtain ⟨earlier, present, rfl⟩ := Option.map_eq_some_iff.mp found
      exact Or.inl ⟨earlier, present, rfl, fun active => by cases active⟩
    case isFalse => exact Or.inl ⟨thread, found, rfl, fun active => active⟩
  · by_cases same : other = id
    · refine Or.inr (Or.inl ?_)
      rw [isLive, finds, if_pos same, found]
      rfl
    · refine Or.inl ⟨thread, ?_, active, rfl⟩
      rw [finds, if_neg same, found]

/-- Removing threads that have ended leaves the others as they are. -/
theorem Stirs.clear (keep : ThreadId → Thread α → Bool) (bridge : after.bridge = before.bridge)
    (registry : after.registry = before.registry) (ids : after.ids = before.ids)
    (threads : after.threads = before.threads.filter keep)
    (ended : ∀ id thread, before.threads.find? id = some thread → keep id thread = false →
      thread.isDone = true) : Stirs before after := by
  refine ⟨bridge, registry, ids ▸ .refl _, fun token => ?_, fun id thread found => ?_,
    fun id thread found active => Or.inl ⟨thread, ?_, active, rfl⟩⟩
  · rw [stacked, threads]
    exact OrderedMap.count_filter_le _ _ _ _
  · rw [threads, OrderedMap.find_filter] at found
    obtain ⟨present, -⟩ := Option.filter_eq_some_iff.mp found
    exact Or.inl ⟨thread, present, rfl, fun active => active⟩
  · rw [threads, OrderedMap.find_filter, found, Option.filter_some, if_pos]
    cases kept : keep id thread with
    | true => rfl
    | false =>
      rw [Thread.isActive, ended id thread found kept] at active
      cases active

/-- A new thread holds no calls. -/
theorem Stirs.adopt {thread : ThreadId → Thread α} (registrable : scheduler.Registrable thread)
    (known : ∀ id thread, scheduler.threads.find? id = some thread →
      scheduler.ids.Issued id.text) :
    Stirs scheduler (scheduler.nextThreadId.2.adopt (thread scheduler.nextThreadId.1)) := by
  obtain ⟨continues, -, issued⟩ := nextThreadId_fresh scheduler
  have named := registrable.named scheduler.nextThreadId.1
  have rests := registrable.rests scheduler.nextThreadId.1
  have again : scheduler.ids.Issued scheduler.nextThreadId.1.text →
      scheduler.nextThreadId.2.ids.Reissued scheduler.nextThreadId.1.text :=
    IdSource.draw_reissued _ _
  have finds : ∀ other,
      (scheduler.nextThreadId.2.adopt (thread scheduler.nextThreadId.1)).threads.find? other =
        if other = scheduler.nextThreadId.1 then some (thread scheduler.nextThreadId.1)
        else scheduler.threads.find? other := by
    intro other
    rw [Scheduler.adopt, OrderedMap.find_insert, named]
    rfl
  generalize scheduler.nextThreadId.1 = id at named rests issued again finds ⊢
  refine ⟨rfl, rfl, continues, fun token => ?_, fun other present found => ?_,
    fun other present found active => ?_⟩
  · have counted := OrderedMap.count_insert_le scheduler.threads (thread id).id (thread id)
      Thread.tokens token
    rw [rests.tokens] at counted
    exact counted
  · rw [finds] at found
    split at found
    case isTrue same =>
      obtain rfl := Option.some.inj found
      rw [same]
      exact Or.inr ⟨rests, issued, again⟩
    case isFalse => exact Or.inl ⟨present, found, rfl, fun active => active⟩
  · by_cases same : other = id
    · subst same
      exact Or.inr (Or.inr (again (known other present found)))
    · refine Or.inl ⟨present, ?_, active, rfl⟩
      rw [finds, if_neg same, found]

/-- Every call is in its place. -/
structure Ledger (inHand : List (ThreadId × Token)) (scheduler : Scheduler (Tap τ α) α) :
    Prop where
  isOpen : scheduler.bridge.transport.IsOpen
  balance : ∀ token, scheduler.bridge.answered.count token + scheduler.stacked.count token +
    (inHand.map Prod.snd).count token + (scheduler.bridge.deferred.map Prod.snd).count token ≤
      (scheduler.bridge.asked.map Prod.snd).count token
  placed : ∀ call ∈ scheduler.bridge.asked, call ∈ scheduler.bridge.deferred ∨
    call.2 ∈ scheduler.bridge.answered ∨ call ∈ inHand ∨
      scheduler.ids.Issued call.1.text ∧ (scheduler.Carries call ∨ scheduler.Gone call.1)
  laden : ∀ id thread, scheduler.threads.find? id = some thread →
    thread.Stacked scheduler.registry
  issued : ∀ id thread, scheduler.threads.find? id = some thread → scheduler.ids.Issued id.text

section Tapped

variable {before after scheduler : Scheduler (Tap τ α) α} {inHand : List (ThreadId × Token)}

/-- A thread that is gone stays gone. -/
theorem Stirs.gone {before after : Scheduler τ α} (stirs : Stirs before after) {id : ThreadId}
    (issued : before.ids.Issued id.text) (gone : before.Gone id) : after.Gone id := by
  rcases gone with dead | reissued
  · cases alive : after.isLive id with
    | false => exact Or.inl alive
    | true =>
      obtain ⟨thread, found, active⟩ := find_of_isLive alive
      rcases stirs.found id thread found with ⟨earlier, present, -, activity⟩ | ⟨-, -, again⟩
      · rw [isLive_of_find present] at dead
        have lived := activity (by rw [Thread.isActive, active]; rfl)
        rw [Thread.isActive, dead] at lived
        cases lived
      · exact Or.inr (again issued)
  · exact Or.inr (stirs.ids.reissued_of reissued)

/-- A call stays on its stack or its thread is gone. -/
theorem Stirs.carries {before after : Scheduler τ α} (stirs : Stirs before after)
    {call : ThreadId × Token} (carries : before.Carries call) :
    after.Carries call ∨ after.Gone call.1 := by
  obtain ⟨thread, found, active, frame, member, holds⟩ := carries
  rcases stirs.kept call.1 thread found active with ⟨later, present, stays, frames⟩ | gone
  · exact Or.inl ⟨later, present, stays, frame, frames ▸ member, holds⟩
  · exact Or.inr gone

/-- A change that touches no frame and no call. -/
theorem Ledger.stirs (ledger : Ledger inHand before) (stirs : Stirs before after) :
    Ledger inHand after := by
  refine ⟨?_, fun token => ?_, fun call asked => ?_, fun id thread found => ?_,
    fun id thread found => ?_⟩
  · rw [stirs.bridge]
    exact ledger.isOpen
  · have balance := ledger.balance token
    have fewer := stirs.count token
    rw [stirs.bridge]
    omega
  · rw [stirs.bridge] at asked ⊢
    rcases ledger.placed call asked with deferred | answered | held | ⟨issued, carries | gone⟩
    · exact Or.inl deferred
    · exact Or.inr (Or.inl answered)
    · exact Or.inr (Or.inr (Or.inl held))
    · exact Or.inr (Or.inr (Or.inr ⟨stirs.ids.issued_of issued, stirs.carries carries⟩))
    · exact Or.inr (Or.inr (Or.inr
        ⟨stirs.ids.issued_of issued, Or.inr (stirs.gone issued gone)⟩))
  · rw [stirs.registry]
    rcases stirs.found id thread found with ⟨earlier, present, frames, -⟩ | ⟨rests, -, -⟩
    · exact (ledger.laden id earlier present).congr frames
    · exact rests.stacked _
  · rcases stirs.found id thread found with ⟨earlier, present, -, -⟩ | ⟨-, issued, -⟩
    · exact stirs.ids.issued_of (ledger.issued id earlier present)
    · exact issued

/-- The ledger is kept when a thread is retired. -/
theorem Ledger.retire (ledger : Ledger inHand scheduler) (id : ThreadId) :
    Ledger inHand (scheduler.retire id) :=
  ledger.stirs (.finish rfl rfl rfl rfl)

/-- The ledger is kept when a thread is ended. -/
theorem Ledger.endThread (ledger : Ledger inHand scheduler) (id : ThreadId) :
    Ledger inHand (scheduler.endThread id).2 := by
  unfold Scheduler.endThread
  split
  case isTrue => exact ledger.stirs (.finish rfl rfl rfl rfl)
  case isFalse => exact ledger

/-- Sending and listening: what is said answers what was in hand. -/
theorem Ledger.exchange {said : List Token} {left : List (ThreadId × Token)}
    {bridge : Bridge (Tap τ α) α} (ledger : Ledger inHand scheduler)
    (exchanges : scheduler.bridge.Exchanges said bridge)
    (settles : inHand.map Prod.snd = said ++ left.map Prod.snd)
    (parted : ∀ call ∈ inHand, call.2 ∈ said ∨ call ∈ left) :
    Ledger left { scheduler with bridge := bridge } := by
  obtain ⟨calls, asked, deferred⟩ := exchanges.heard
  refine ⟨exchanges.isOpen, fun token => ?_, fun call known => ?_, ledger.laden, ledger.issued⟩
  · have balance := ledger.balance token
    rw [settles] at balance
    change bridge.answered.count token + scheduler.stacked.count token +
      (left.map Prod.snd).count token + (bridge.deferred.map Prod.snd).count token ≤
        (bridge.asked.map Prod.snd).count token
    rw [exchanges.answered, asked, deferred]
    simp only [List.map_append, List.count_append] at balance ⊢
    omega
  · change call ∈ bridge.asked at known
    change call ∈ bridge.deferred ∨ call.2 ∈ bridge.answered ∨ call ∈ left ∨
      scheduler.ids.Issued call.1.text ∧ (scheduler.Carries call ∨ scheduler.Gone call.1)
    rw [asked, List.mem_append] at known
    rw [deferred, exchanges.answered, List.mem_append, List.mem_append]
    rcases known with old | new
    · rcases ledger.placed call old with waits | answered | held | stands
      · exact Or.inl (Or.inl waits)
      · exact Or.inr (Or.inl (Or.inl answered))
      · rcases parted call held with told | still
        · exact Or.inr (Or.inl (Or.inr told))
        · exact Or.inr (Or.inr (Or.inl still))
      · exact Or.inr (Or.inr (Or.inr stands))
    · exact Or.inl (Or.inr new)

/-- Sending something that answers no call. -/
theorem Ledger.silent {bridge : Bridge (Tap τ α) α} (ledger : Ledger inHand scheduler)
    (exchanges : scheduler.bridge.Exchanges [] bridge) :
    Ledger inHand { scheduler with bridge := bridge } :=
  ledger.exchange exchanges rfl fun _ held => Or.inr held

/-- A message that is handed out takes its call into the hand. -/
theorem Ledger.handOut {message : WorkerMessage α} {bridge : Bridge (Tap τ α) α}
    (ledger : Ledger [] scheduler) (handsOut : scheduler.bridge.HandsOut message bridge) :
    Ledger message.called?.toList { scheduler with bridge := bridge } := by
  refine ⟨handsOut.isOpen, fun token => ?_, fun call known => ?_, ledger.laden, ledger.issued⟩
  · have balance := ledger.balance token
    change bridge.answered.count token + scheduler.stacked.count token +
      (message.called?.toList.map Prod.snd).count token +
        (bridge.deferred.map Prod.snd).count token ≤ (bridge.asked.map Prod.snd).count token
    rw [handsOut.answered]
    rcases handsOut.moved with ⟨asked, deferred⟩ | ⟨asked, deferred⟩
    · rw [asked]
      rw [deferred] at balance
      simp only [List.map_append, List.count_append, List.map_nil, List.count_nil] at balance
      omega
    · rw [asked, deferred]
      simp only [List.map_append, List.count_append, List.map_nil, List.count_nil] at balance ⊢
      omega
  · change call ∈ bridge.asked at known
    change call ∈ bridge.deferred ∨ call.2 ∈ bridge.answered ∨ call ∈ message.called?.toList ∨
      scheduler.ids.Issued call.1.text ∧ (scheduler.Carries call ∨ scheduler.Gone call.1)
    rw [handsOut.answered]
    have old : call ∈ scheduler.bridge.asked → call ∈ scheduler.bridge.deferred ∨
        call.2 ∈ scheduler.bridge.answered ∨
        scheduler.ids.Issued call.1.text ∧ (scheduler.Carries call ∨ scheduler.Gone call.1) := by
      intro asked
      rcases ledger.placed call asked with waits | answered | held | stands
      · exact Or.inl waits
      · exact Or.inr (Or.inl answered)
      · cases held
      · exact Or.inr (Or.inr stands)
    rcases handsOut.moved with ⟨asked, deferred⟩ | ⟨asked, deferred⟩
    · rw [asked] at known
      rcases old known with waits | answered | stands
      · rw [deferred, List.mem_append] at waits
        rcases waits with taken | left
        · exact Or.inr (Or.inr (Or.inl taken))
        · exact Or.inl left
      · exact Or.inr (Or.inl answered)
      · exact Or.inr (Or.inr (Or.inr stands))
    · rw [asked, List.mem_append] at known
      rw [deferred]
      rcases known with before | taken
      · rcases old before with waits | answered | stands
        · exact Or.inl waits
        · exact Or.inr (Or.inl answered)
        · exact Or.inr (Or.inr (Or.inr stands))
      · exact Or.inr (Or.inr (Or.inl taken))

/-- A live thread is changed: calls move between its stack and the hand. -/
theorem Ledger.replace {id : ThreadId} {thread : Thread α} {change : Thread α → Thread α}
    {left : List (ThreadId × Token)} (ledger : Ledger inHand scheduler)
    (found : scheduler.threads.find? id = some thread)
    (activity : (change thread).isDone = thread.isDone)
    (stacked : (change thread).Stacked scheduler.registry)
    (count : ∀ token, (change thread).tokens.count token + (left.map Prod.snd).count token ≤
      thread.tokens.count token + (inHand.map Prod.snd).count token)
    (lifted : thread.isActive = true → ∀ frame ∈ thread.frames, ∀ token,
      frame.token = some token → frame ∈ (change thread).frames ∨ (id, token) ∈ left)
    (laid : ∀ call ∈ inHand, call ∈ left ∨ scheduler.ids.Issued call.1.text ∧
      (Carries { scheduler with threads := scheduler.threads.modify id change } call ∨
        scheduler.Gone call.1)) :
    Ledger left { scheduler with threads := scheduler.threads.modify id change } := by
  have finds : ∀ other, (scheduler.threads.modify id change).find? other =
      if other = id then some (change thread) else scheduler.threads.find? other := by
    intro other
    rw [OrderedMap.find_modify]
    split
    case isTrue same =>
      rw [same, found]
      rfl
    case isFalse => rfl
  have gone : ∀ other, scheduler.Gone other →
      Gone { scheduler with threads := scheduler.threads.modify id change } other := by
    rintro other (dead | reissued)
    · refine Or.inl ?_
      rw [isLive, finds]
      split
      case isTrue same =>
        rw [same, isLive_of_find found] at dead
        rw [Option.any_some, Thread.isActive, activity]
        exact dead
      case isFalse => exact dead
    · exact Or.inr reissued
  refine ⟨ledger.isOpen, fun token => ?_, fun call known => ?_, fun other present stands => ?_,
    fun other present stands => ?_⟩
  · have balance := ledger.balance token
    have exchanged := OrderedMap.count_modify found Thread.tokens change token
    have moved := count token
    simp only [Scheduler.stacked] at balance ⊢
    omega
  · change call ∈ scheduler.bridge.asked at known
    rcases ledger.placed call known with waits | answered | held | ⟨issued, carries | absent⟩
    · exact Or.inl waits
    · exact Or.inr (Or.inl answered)
    · rcases laid call held with still | ⟨issued, carries | absent⟩
      · exact Or.inr (Or.inr (Or.inl still))
      · exact Or.inr (Or.inr (Or.inr ⟨issued, Or.inl carries⟩))
      · exact Or.inr (Or.inr (Or.inr ⟨issued, Or.inr (gone call.1 absent)⟩))
    · obtain ⟨carrier, present, active, frame, member, holds, waiting⟩ := carries
      by_cases same : call.1 = id
      · rw [same, found] at present
        obtain rfl := Option.some.inj present
        rcases lifted active frame member call.2 holds with stays | taken
        · refine Or.inr (Or.inr (Or.inr ⟨issued, Or.inl ⟨change thread, ?_, ?_, frame, stays,
            holds, waiting⟩⟩))
          · rw [finds, if_pos same]
          · rw [Thread.isActive, activity]
            exact active
        · refine Or.inr (Or.inr (Or.inl ?_))
          rw [← same] at taken
          exact taken
      · refine Or.inr (Or.inr (Or.inr ⟨issued, Or.inl ⟨carrier, ?_, active, frame, member, holds,
          waiting⟩⟩))
        rw [finds, if_neg same, present]
    · exact Or.inr (Or.inr (Or.inr ⟨issued, Or.inr (gone call.1 absent)⟩))
  · change (scheduler.threads.modify id change).find? other = some present at stands
    rw [finds] at stands
    split at stands
    case isTrue =>
      obtain rfl := Option.some.inj stands
      exact stacked
    case isFalse => exact ledger.laden other present stands
  · change (scheduler.threads.modify id change).find? other = some present at stands
    rw [finds] at stands
    split at stands
    case isTrue same =>
      rw [same]
      exact ledger.issued id thread found
    case isFalse => exact ledger.issued other present stands

/-- The call in hand is that of the frame in hand. -/
theorem handed_tokens (id : ThreadId) (frame : Frame α) :
    (handed (some (id, frame))).map Prod.snd = frame.token.toList := by
  cases called : frame.token <;> simp [handed, called]

/-- Waking a thread takes the call of its top frame into the hand. -/
theorem Ledger.wake {id : ThreadId} {thread woken : Thread α} {frame : Option (Frame α)}
    (ledger : Ledger [] scheduler) (found : scheduler.threads.find? id = some thread)
    (popped : (thread.setStatus .running).popBlock = (frame, woken)) :
    Ledger (handed (frame.map (id, ·)))
      { scheduler with threads := scheduler.threads.modify id fun _ => woken } := by
  have stacked : (thread.setStatus .running).Stacked scheduler.registry :=
    (ledger.laden id thread found).congr (thread.setStatus_frames .running)
  obtain ⟨wokenStacked, frames, -⟩ := stacked.popBlock popped
  rw [thread.setStatus_frames] at frames
  refine ledger.replace found ?_ wokenStacked (fun token => ?_)
    (fun _ block member token holds => ?_)
    fun _ none => by cases none
  · have kept := (thread.setStatus .running).popBlock_isDone.trans
      (thread.setStatus_isDone (by decide))
    rwa [popped] at kept
  · have held : (handed (frame.map (id, ·))).map Prod.snd = frame.toList.filterMap Frame.token := by
      cases frame with
      | none => rfl
      | some frame =>
        rw [Option.map_some, handed_tokens]
        cases called : frame.token <;> simp [called]
    rw [held, Thread.tokens, Thread.tokens, frames, List.filterMap_append, List.count_append,
      List.map_nil, List.count_nil]
    omega
  · rw [frames, List.mem_append, Option.mem_toList] at member
    rcases member with taken | stays
    · obtain rfl : frame = some block := taken
      right
      simp only [handed, Option.map_some, Option.mem_toList, holds]
    · exact Or.inl stays

/-- Calls in hand may be dropped when their threads are gone. -/
theorem Ledger.drop (ledger : Ledger inHand scheduler)
    (gone : ∀ call ∈ inHand, scheduler.ids.Issued call.1.text ∧ scheduler.Gone call.1) :
    Ledger [] scheduler := by
  refine ⟨ledger.isOpen, fun token => ?_, fun call asked => ?_, ledger.laden, ledger.issued⟩
  · have balance := ledger.balance token
    rw [List.map_nil, List.count_nil]
    omega
  · rcases ledger.placed call asked with waits | answered | held | stands
    · exact Or.inl waits
    · exact Or.inr (Or.inl answered)
    · obtain ⟨issued, absent⟩ := gone call held
      exact Or.inr (Or.inr (Or.inr ⟨issued, Or.inr absent⟩))
    · exact Or.inr (Or.inr (Or.inr stands))

/-- A suspended call goes onto the stack of its thread, or the thread is gone. -/
theorem Ledger.suspend {id : ThreadId} {frame left : Frame α}
    (ledger : Ledger (handed (some (id, frame))) scheduler)
    (issued : scheduler.ids.Issued id.text) (opcode : left.opcode = frame.opcode)
    (token : left.token = frame.token)
    (known : (scheduler.registry.block? frame.opcode).isSome) :
    Ledger [] (scheduler.suspend id left) := by
  have named : ∀ call ∈ handed (some (id, frame)), call.1 = id ∧ frame.token = some call.2 := by
    intro call member
    rw [handed, Option.mem_toList] at member
    obtain ⟨other, called, rfl⟩ := Option.map_eq_some_iff.mp member
    exact ⟨rfl, called⟩
  by_cases live : scheduler.isLive id = true
  · obtain ⟨thread, found, active⟩ := find_of_isLive live
    have waits : (scheduler.threads.modify id fun thread =>
        if thread.isActive then (thread.push { left with state := .waiting }).setStatus .yielding
        else thread) = scheduler.threads.modify id fun thread =>
          (thread.push { left with state := .waiting }).setStatus .yielding := by
      refine OrderedMap.modify_congr fun other present => ?_
      obtain rfl := Option.some.inj (found.symm.trans present)
      rw [if_pos (by rw [Thread.isActive, active]; rfl)]
    rw [Scheduler.suspend, waits]
    have pushed : (thread.push { left with state := .waiting }).Stacked scheduler.registry :=
      (ledger.laden id thread found).push rfl (by rw [opcode]; exact known)
    refine ledger.replace found ?_ (pushed.congr (Thread.setStatus_frames _ _))
      (fun other => ?_) (fun _ block member _ _ => ?_) fun call member => ?_
    · rw [Thread.setStatus_isDone _ (by decide)]
      rfl
    · have tokens : ((thread.push { left with state := .waiting }).setStatus .yielding).tokens =
          left.token.toList ++ thread.tokens := by
        rw [Thread.tokens, Thread.setStatus_frames, Thread.push, Thread.tokens]
        cases left.token <;> simp
      rw [tokens, handed_tokens, token, List.count_append, List.map_nil, List.count_nil]
      omega
    · left
      rw [Thread.setStatus_frames]
      exact List.mem_cons_of_mem _ member
    · right
      obtain ⟨same, called⟩ := named call member
      rw [same]
      refine ⟨issued, Or.inl ⟨(thread.push { left with state := .waiting }).setStatus .yielding,
        ?_, ?_, { left with state := .waiting }, ?_, token.trans called, rfl⟩⟩
      · rw [same, OrderedMap.find_modify, if_pos rfl, found]
        rfl
      · rw [Thread.isActive, Thread.setStatus_isDone _ (by decide), Thread.push, Thread.isDone]
        exact congrArg _ active
      · rw [Thread.setStatus_frames]
        exact List.mem_cons_self
  · have dead : scheduler.isLive id = false := by simpa using live
    have unchanged : scheduler.suspend id left = scheduler := by
      rw [Scheduler.suspend, OrderedMap.modify_eq_self]
      intro thread found
      rw [isLive_of_find found] at dead
      rw [if_neg (by rw [Thread.isActive, dead]; simp)]
    rw [unchanged]
    refine ledger.drop fun call member => ?_
    rw [(named call member).1]
    exact ⟨issued, Or.inl dead⟩

end Tapped

end Scheduler

end SpriteMachine
