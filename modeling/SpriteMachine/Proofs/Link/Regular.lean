import Mathlib.Data.List.Nodup
import SpriteMachine.Proofs.Link.Lane

/-!
# Regular links

On a regular link every thread has its lane, and the code that is loaded, under way or
called for names known opcodes only. Whatever the worker does and whatever reply is taken
out, a regular link stays regular and holds nothing about any other thread than before. The
host keeps it so as long as the threads that it asks to start are ones that the link holds
nothing about.
-/

namespace SpriteMachine

open ScriptWorker

variable {α : Type}

/-- A script whose statements call known opcodes. -/
def Script.Versed (known : String → Prop) (script : Script α) : Prop :=
  ∀ statement ∈ script.body, known statement.opcode

/-- A message whose unit, if it can be read, calls known opcodes. -/
def HostMessage.Versed [Scalar α] (known : String → Prop) (message : HostMessage α) : Prop :=
  ∀ source ∈ message.source?, ∀ scripts : List (Script α), ScriptUnit.parse source = .ok scripts →
    ∀ script ∈ scripts, script.Versed known

namespace Link

/-- The threads that are still to be started. -/
def awaited (link : Link α) : List ThreadId :=
  (link.inbound.flatMap HostMessage.launches).map ThreadStart.thread

/-- A link holds something about a thread. -/
def Mentions (link : Link α) (id : ThreadId) : Prop :=
  link.worker.seat id ≠ .vacant ∨ about id link.outbound ≠ [] ∨ id ∈ link.awaited

/-- A link does not mention a thread that has no seat, of which nothing is told and which is not
to be started. -/
theorem not_mentions {link : Link α} {id : ThreadId} : ¬ link.Mentions id ↔
    link.worker.seat id = .vacant ∧ about id link.outbound = [] ∧ id ∉ link.awaited := by
  simp only [Mentions, not_or, not_not]

/-- Every thread has its lane, and all code calls known opcodes. -/
structure Regular [Scalar α] (known : String → Prop) (link : Link α) : Prop where
  numbered : link.worker.Numbered
  lanes : ∀ id, Lane id (link.worker.seat id) (about id link.outbound) (link.awaited.count id)
  scripts : ∀ id script, link.worker.scripts.find? id = some script → script.Versed known
  units : ∀ message ∈ link.inbound, message.Versed known
  calls : ∀ target id opcode args token,
    .call target id opcode args token ∈ link.outbound → known opcode

variable {known : String → Prop} {before after link : Link α} {id : ThreadId}

/-- A reply is about nobody. -/
theorem about_reply {message : WorkerMessage α} (replies : message.replyToken?.isSome)
    (front back : List (WorkerMessage α)) :
    about id (front ++ message :: back) = about id (front ++ back) := by
  rw [about_append, about_append, about_cons_of_ne]
  intro named
  cases message with
  | registered token refusal => cases named
  | started token threads => cases named
  | _ => cases replies

/-- A message that is posted adds the starts it asks for. -/
theorem awaited_post (link : Link α) (message : HostMessage α) :
    (link.post message).awaited =
      link.awaited ++ message.launches.map ThreadStart.thread := by
  rw [awaited, post, List.flatMap_append, List.map_append, List.flatMap_singleton, awaited]

/-- Sending mentions the threads that are to be started. -/
theorem mentions_post {message : HostMessage α} (mentions : (link.post message).Mentions id) :
    link.Mentions id ∨ id ∈ message.launches.map ThreadStart.thread := by
  rcases mentions with seated | told | waits
  · exact Or.inl (Or.inl seated)
  · exact Or.inl (Or.inr (Or.inl told))
  · rw [awaited_post, List.mem_append] at waits
    exact waits.imp_left fun earlier => Or.inr (Or.inr earlier)

/-- The host hears about threads that the link mentioned. -/
theorem Delivers.mentions {message : WorkerMessage α}
    (delivers : Delivers before (.message message) after)
    (named : message.thread? = some id) : before.Mentions id := by
  obtain rfl : before = { after with outbound := message :: after.outbound } := delivers
  refine Or.inr (Or.inl ?_)
  rw [about_cons_of_eq named]
  exact List.cons_ne_nil _ _

/-- The starts that messages ask for come in their order. -/
theorem awaited_append {worker : ScriptWorker α} {messages inbound : List (HostMessage α)}
    {outbound : List (WorkerMessage α)} :
    (⟨worker, messages ++ inbound, outbound⟩ : Link α).awaited =
      (messages.flatMap HostMessage.launches).map ThreadStart.thread ++
        (⟨worker, inbound, outbound⟩ : Link α).awaited := by
  rw [awaited, List.flatMap_append, List.map_append, awaited]

variable [Scalar α]

/-- Whatever the worker does, it reacts to a stimulus. -/
theorem Move.reacts (move : Move before after) :
    ∃ now worker stimulus inbound outbound,
      before = ⟨worker, stimulus.messages ++ inbound, outbound⟩ ∧
      after = ⟨(worker.react now stimulus).1, inbound,
        outbound ++ (worker.react now stimulus).2⟩ := by
  cases move with
  | handle now worker message inbound outbound =>
    exact ⟨now, worker, .message message, inbound, outbound, rfl, rfl⟩
  | look now worker inbound outbound => exact ⟨now, worker, .look, inbound, outbound, rfl, rfl⟩

section Reacting

variable {worker : ScriptWorker α} {stimulus : Stimulus α} {inbound : List (HostMessage α)}
  {outbound : List (WorkerMessage α)}

/-- The threads that a stimulus starts were awaited. -/
theorem entered_launched :
    ((worker.entered stimulus).map ThreadStart.thread).Sublist
      ((stimulus.messages.flatMap HostMessage.launches).map ThreadStart.thread) :=
  (List.filter_sublist.trans Stimulus.starts_launched).map _

variable (regular : Regular known ⟨worker, stimulus.messages ++ inbound, outbound⟩)

include regular

/-- A regular link lets its worker admit what comes first. -/
theorem Regular.admits : worker.Admits stimulus := by
  have distinct : ((stimulus.messages.flatMap HostMessage.launches).map
      ThreadStart.thread).Nodup := by
    refine List.nodup_iff_count_le_one.mpr fun id => ?_
    have once := (regular.lanes id).once
    rw [awaited_append, List.count_append] at once
    omega
  refine ⟨entered_launched.nodup distinct, fun start member => ?_⟩
  refine (regular.lanes start.thread).vacant_of_pos ?_
  rw [awaited_append, List.count_append]
  have launched := entered_launched.subset (List.mem_map_of_mem member)
  have positive := List.count_pos_iff.mpr launched
  omega

/-- What is added to a worker calls known opcodes. -/
theorem Regular.prepared {name : ScriptId} {script : Script α}
    (found : (worker.prepared stimulus).scripts.find? name = some script) :
    script.Versed known := by
  rcases OrderedMap.find_insertAll_cases _ _ _ _ found with member | ⟨-, kept⟩
  · obtain ⟨other, added, same⟩ := List.mem_map.mp member
    obtain ⟨-, rfl⟩ := Prod.mk.inj same
    obtain ⟨message, sent, source, brought, scripts, read, inside⟩ := Stimulus.mem_added added
    exact regular.units message (List.mem_append_left _ sent) source brought scripts read other
      inside
  · exact regular.scripts name script kept

/-- A worker calls known opcodes only. -/
theorem Regular.sent (now : Nat) {target : TargetId} {opcode : String} {args : Args α}
    {token : Token} (calls : .call target id opcode args token ∈ (worker.react now stimulus).2) :
    known opcode := by
  have treats := react_treats now id regular.numbered (regular.lanes id).settled regular.admits
  obtain ⟨name, script, found, statement, inside, rfl⟩ :=
    treats.called (mem_about.mpr ⟨calls, rfl⟩)
  rcases found with prepared | loaded
  · exact regular.prepared prepared statement inside
  · exact regular.scripts name script loaded statement inside

end Reacting

/-- Whatever the worker does, a regular link stays regular. -/
theorem Regular.move (regular : Regular known before) (move : Move before after) :
    Regular known after := by
  obtain ⟨now, worker, stimulus, inbound, outbound, rfl, rfl⟩ := move.reacts
  refine ⟨(react_moves worker now stimulus).numbered regular.numbered, fun id => ?_,
    fun name script found => ?_, fun message member =>
      regular.units message (List.mem_append_right _ member),
    fun target id opcode args token member => ?_⟩
  · have lane := regular.lanes id
    rw [awaited_append, List.count_append] at lane
    dsimp only
    rw [about_append]
    exact lane.react regular.numbered regular.admits fun member =>
      List.count_pos_iff.mpr (entered_launched.subset member)
  · rcases react_scripts worker now stimulus with same | ⟨token, unit, scripts, rfl, read, loaded⟩
    · dsimp only at found
      rw [same] at found
      exact regular.prepared found
    · dsimp only at found
      rw [loaded] at found
      rcases OrderedMap.find_insertAll_cases _ _ _ _ found with member | ⟨-, none⟩
      · obtain ⟨other, inside, same⟩ := List.mem_map.mp member
        obtain ⟨-, rfl⟩ := Prod.mk.inj same
        exact regular.units _ List.mem_cons_self unit.source rfl scripts read other inside
      · cases none
  · rcases List.mem_append.mp member with earlier | new
    · exact regular.calls target id opcode args token earlier
    · exact regular.sent now new

/-- The worker makes up no thread. -/
theorem Regular.move_mentions (regular : Regular known before) (move : Move before after)
    (mentions : after.Mentions id) : before.Mentions id := by
  obtain ⟨now, worker, stimulus, inbound, outbound, rfl, rfl⟩ := move.reacts
  refine Classical.byContradiction fun unknown => ?_
  obtain ⟨vacant, silent, unawaited⟩ := not_mentions.mp unknown
  rw [awaited_append, List.mem_append, not_or] at unawaited
  dsimp only at vacant silent
  have treats := react_treats now id regular.numbered (regular.lanes id).settled regular.admits
  have calls : (worker.seat id).calls.head? = none := by rw [vacant]; rfl
  have absent : id ∉ (worker.entered stimulus).map ThreadStart.thread :=
    fun member => unawaited.1 (entered_launched.subset member)
  rw [calls, cause_none absent] at treats
  rcases mentions with seated | told | waits
  · exact seated ((congrArg Prod.fst treats).trans vacant)
  · refine told ?_
    rw [about_append, silent]
    exact congrArg Prod.snd treats
  · exact unawaited.2 waits

/-- A regular link stays regular while the host waits. -/
theorem Regular.drift (regular : Regular known before) (drift : Drift before after) :
    Regular known after ∧ ∀ id, after.Mentions id → before.Mentions id := by
  cases drift with
  | move move => exact ⟨regular.move move, fun id => regular.move_mentions move⟩
  | reply worker inbound front back replies =>
    refine ⟨⟨regular.numbered, fun id => ?_, regular.scripts, regular.units,
      fun target id opcode args token member => ?_⟩, fun id mentions => ?_⟩
    · have lane := regular.lanes id
      rw [about_reply replies] at lane
      exact lane
    · refine regular.calls target id opcode args token ?_
      rcases List.mem_append.mp member with first | second
      · exact List.mem_append_left _ first
      · exact List.mem_append_right _ (List.mem_cons_of_mem _ second)
    · rw [Mentions, about_reply replies]
      exact mentions

/-- A link stays regular while the host waits, and mentions no other threads. -/
theorem Regular.drifts (regular : Regular known before) (drifts : Drifts before after) :
    Regular known after ∧ ∀ id, after.Mentions id → before.Mentions id := by
  induction drifts with
  | refl => exact ⟨regular, fun _ mentions => mentions⟩
  | tail _ drift inductionHypothesis =>
    obtain ⟨middle, mentions⟩ := inductionHypothesis
    obtain ⟨last, fewer⟩ := middle.drift drift
    exact ⟨last, fun id mentioned => mentions id (fewer id mentioned)⟩

/-- The host may send what calls known opcodes and starts threads that are not mentioned
yet. -/
theorem Regular.post (regular : Regular known link) {message : HostMessage α}
    (versed : message.Versed known)
    (distinct : (message.launches.map ThreadStart.thread).Nodup)
    (fresh : ∀ id ∈ message.launches.map ThreadStart.thread, ¬ link.Mentions id) :
    Regular known (link.post message) := by
  refine ⟨regular.numbered, fun id => ?_, regular.scripts, fun other member => ?_, regular.calls⟩
  · rw [awaited_post, List.count_append]
    by_cases launched : id ∈ message.launches.map ThreadStart.thread
    · obtain ⟨vacant, silent, unawaited⟩ := not_mentions.mp (fresh id launched)
      have once : (message.launches.map ThreadStart.thread).count id = 1 :=
        List.count_eq_one_of_mem distinct launched
      rw [List.count_eq_zero.mpr unawaited, once, Link.post, vacant, silent]
      exact .awaited
    · rw [List.count_eq_zero.mpr launched]
      exact regular.lanes id
  · rcases List.mem_append.mp member with earlier | new
    · exact regular.units other earlier
    · rw [List.mem_singleton.mp new]
      exact versed

section Delivering

variable {message : WorkerMessage α}

/-- A regular link stays regular when the host hears something. -/
theorem Regular.delivers (regular : Regular known before)
    (delivers : Delivers before (.message message) after) :
    Regular known after ∧ ∀ id, after.Mentions id → before.Mentions id := by
  obtain rfl : before = { after with outbound := message :: after.outbound } := delivers
  refine ⟨⟨regular.numbered, fun id => ?_, regular.scripts, regular.units,
    fun target id opcode args token member =>
      regular.calls target id opcode args token (List.mem_cons_of_mem _ member)⟩,
    fun id mentions => ?_⟩
  · have lane := regular.lanes id
    by_cases named : message.thread? = some id
    · rw [about_cons_of_eq named] at lane
      exact lane.heard.1
    · rw [about_cons_of_ne named] at lane
      exact lane
  · rcases mentions with seated | told | waits
    · exact Or.inl seated
    · refine Or.inr (Or.inl fun silent => told ?_)
      by_cases named : message.thread? = some id
      · rw [about_cons_of_eq named] at silent
        cases silent
      · rw [about_cons_of_ne named] at silent
        exact silent
    · exact Or.inr (Or.inr waits)

/-- Behind the last message about a thread the link does not mention it. -/
theorem Regular.silent (regular : Regular known before)
    (delivers : Delivers before (.message message) after) (last : IsLast id message) :
    ¬ after.Mentions id := by
  obtain rfl : before = { after with outbound := message :: after.outbound } := delivers
  have named : message.thread? = some id := by
    rcases last with rfl | ⟨reason, rfl⟩ <;> rfl
  have lane := regular.lanes id
  rw [about_cons_of_eq named] at lane
  obtain ⟨vacant, silent, unawaited⟩ := lane.heard.2 last
  rintro (seated | told | waits)
  · exact seated vacant
  · exact told silent
  · exact List.count_eq_zero.mp unawaited waits

/-- The host hears calls for known opcodes only. -/
theorem Regular.heard (regular : Regular known before) {target : TargetId} {opcode : String}
    {args : Args α} {token : Token}
    (delivers : Delivers before (.message (.call target id opcode args token)) after) :
    known opcode := by
  obtain rfl : before = { after with
    outbound := .call target id opcode args token :: after.outbound } := delivers
  exact regular.calls target id opcode args token List.mem_cons_self

end Delivering

end Link

end SpriteMachine
