import SpriteMachine.Number.Exact
import SpriteMachine.Proofs.Worker.Parts

/-!
# Messages read back

Every message is written as the text of a tree, and the message is read from that tree. Two
things are lost on the way. An event with options of which none is listed is written like an
event without options and comes back as one, and a tree that is nested deeper than a reader
follows is refused.
-/

namespace SpriteMachine

namespace Json

/-- The tree of a message: its kind and its parts. -/
def tagged (kind : String) (parts : List (String × Json)) : Json :=
  fields (("id", .string (some kind)) :: parts)

/-- A text has no depth. -/
@[simp]
theorem depth_string (text : Option String) : (string text).depth = 0 := by
  cases text <;> rfl

/-- Nor has a text that may be missing. -/
@[simp]
theorem depth_nullable (text : Option String) : (nullable text).depth = 0 := by
  cases text <;> rfl

/-- A message whose parts are a few levels deep is not too deep. -/
theorem depth_tagged_le {kind : String} {parts : List (String × Json)}
    (each : ∀ part ∈ parts, part.2.depth ≤ 4) : (tagged kind parts).depth ≤ deepest := by
  have few : (tagged kind parts).depth ≤ 5 := depth_fields_le fun part member => by
    rcases List.mem_cons.mp member with rfl | inside
    · exact Nat.zero_le 4
    · exact each part inside
  exact Nat.le_trans few (by decide)

end Json

section Tagged

variable (α : Type) [Scalar α]

/-- The kind and the parts of a message are read from its tree. -/
@[simp]
theorem TaggedJson.ofJson_tagged (kind : String) {parts : List (String × Json)}
    (spared : ∀ part ∈ parts, part.1 ≠ "id") (each : ∀ part ∈ parts, part.2.IsValue α) :
    TaggedJson.ofJson? α (Json.tagged kind parts) = some ⟨kind, Json.fields parts⟩ := by
  obtain ⟨values, read⟩ := Option.isSome_iff_exists.mp (Json.ofEntries_isSome α each)
  have others : (parts.map fun entry => (some entry.1, entry.2)).filter (·.1 ≠ some "id") =
      parts.map fun entry => (some entry.1, entry.2) := by
    refine List.filter_eq_self.mpr fun entry member => ?_
    obtain ⟨part, present, rfl⟩ := List.mem_map.mp member
    simpa using spared part present
  have alone : (parts.map fun entry => (some entry.1, entry.2)).filter (·.1 = some "id") = [] := by
    refine List.filter_eq_nil_iff.mpr fun entry member => ?_
    obtain ⟨part, present, rfl⟩ := List.mem_map.mp member
    simpa using spared part present
  rw [Json.tagged, Json.fields, List.map_cons, TaggedJson.ofJson?,
    List.filter_cons_of_neg (by simp),
    List.filter_cons_of_pos (by simp), others, alone, read]
  rfl

/-- A message with named parts has no other content. -/
@[simp]
theorem TaggedJson.isBare_fields (kind : String) (parts : List (String × Json)) :
    TaggedJson.isBare ⟨kind, Json.fields parts⟩ = true := by rw [isBare, Json.fields]

end Tagged

/-- A message spells the tree of its kind and of what its parts spell. -/
theorem writeTagged_spells (kind : String) {written : List (String × String)}
    {parts : List (String × Json)} (spelled : List.Forall₂ Json.SpellsEntry written parts) :
    Json.Spells (writeTagged kind written) (Json.tagged kind parts) :=
  Json.spells_object (.cons ⟨rfl, Json.spells_quote kind⟩ spelled)

namespace HostMessage

variable {α : Type} [Scalar α]

/-- A message whose value, if it has one, is whole. -/
def Whole : HostMessage α → Prop
  | result _ value => value.Whole
  | _ => True

/-- The tree that a message is written as. -/
def tree : HostMessage α → Json
  | connected => .tagged "VmConnected" []
  | prepare url => .tagged "InitBackend" [("backendUrl", .string (some url))]
  | register token unit =>
    .tagged "RegisterThreads" [("token", .string (some token.text)), ("unit", unit.tree)]
  | runAsync source starts =>
    .tagged "AsyncRun" [("source", .string (some source)), ("targets", startsTree starts)]
  | result token value =>
    .tagged "ResultValue" [("token", .string (some token.text)), ("value", value.tree)]
  | failure token message =>
    .tagged "ResultError" [("token", .string (some token.text)),
      ("message", .string (some message))]
  | startHats token hat option starts =>
    .tagged "StartHats" [("token", .string (some token.text)), ("hat", .string (some hat)),
      ("option", .nullable option), ("starts", startsTree starts)]
  | stopThreads threads => .tagged "StopThreads" [("threadIds", threadsTree threads)]
  | stopAll => .tagged "StopAll" []

/-- The message that comes back. -/
def settled : HostMessage α → HostMessage α
  | register token unit => register token unit.settled
  | message => message

/-- Every event with options that a message registers lists one of them. -/
def Listed : HostMessage α → Prop
  | register _ unit => unit.Listed
  | _ => True

/-- A message spells its tree. -/
theorem spells {message : HostMessage α} (whole : message.Whole) :
    Json.Spells message.write message.tree := by
  cases message with
  | connected => exact writeTagged_spells _ .nil
  | prepare url => exact writeTagged_spells _ (.cons ⟨rfl, Json.spells_quote url⟩ .nil)
  | register token unit =>
    exact writeTagged_spells _ (.cons ⟨rfl, Json.spells_quote token.text⟩
      (.cons ⟨rfl, unit.spells⟩ .nil))
  | runAsync source starts =>
    exact writeTagged_spells _ (.cons ⟨rfl, Json.spells_quote source⟩
      (.cons ⟨rfl, writeStarts_spells starts⟩ .nil))
  | result token value =>
    exact writeTagged_spells _ (.cons ⟨rfl, Json.spells_quote token.text⟩
      (.cons ⟨rfl, Value.Whole.spells whole⟩ .nil))
  | failure token message =>
    exact writeTagged_spells _ (.cons ⟨rfl, Json.spells_quote token.text⟩
      (.cons ⟨rfl, Json.spells_quote message⟩ .nil))
  | startHats token hat option starts =>
    exact writeTagged_spells _ (.cons ⟨rfl, Json.spells_quote token.text⟩
      (.cons ⟨rfl, Json.spells_quote hat⟩ (.cons ⟨rfl, writeNullable_spells option⟩
        (.cons ⟨rfl, writeStarts_spells starts⟩ .nil))))
  | stopThreads threads =>
    exact writeTagged_spells _ (.cons ⟨rfl, writeThreads_spells threads⟩ .nil)
  | stopAll => exact writeTagged_spells _ .nil

/-- A message is read from its tree, up to the options that are not listed. -/
theorem ofJson_tree {message : HostMessage α} (whole : message.Whole) :
    ofJson? message.tree = some message.settled := by
  cases message with
  | connected => simp [ofJson?, tree, settled]
  | prepare url => simp [ofJson?, tree, settled]
  | register token unit => simp [ofJson?, tree, settled]
  | runAsync source starts => simp [ofJson?, tree, settled]
  | result token value =>
    simp [ofJson?, tree, settled, Value.Whole.isValue whole, Value.Whole.reads whole]
  | failure token message => simp [ofJson?, tree, settled]
  | startHats token hat option starts => simp [ofJson?, tree, settled]
  | stopThreads threads => simp [ofJson?, tree, settled]
  | stopAll => simp [ofJson?, tree, settled]

omit [Scalar α] in
/-- Just a message that registers options of which none is listed comes back as another. -/
theorem settled_eq_self {message : HostMessage α} : message.settled = message ↔ message.Listed := by
  cases message with
  | register token unit =>
    rw [settled, Listed, HostMessage.register.injEq, LinkedUnit.settled_eq_self]
    exact and_iff_right rfl
  | _ => exact iff_of_true rfl trivial

/-- A message whose value, if it has one, is nested no deeper than a reader follows. -/
def Shallow : HostMessage α → Prop
  | result _ value => value.depth < Json.deepest
  | _ => True

/-- No message but one with a value can be too deep. -/
theorem shallow_iff {message : HostMessage α} (whole : message.Whole) :
    message.tree.depth ≤ Json.deepest ↔ message.Shallow := by
  cases message with
  | connected => exact iff_of_true (Json.depth_tagged_le (by simp)) trivial
  | prepare url => exact iff_of_true (Json.depth_tagged_le (by simp)) trivial
  | register token unit =>
    have parts := unit.depth_tree_le
    exact iff_of_true (Json.depth_tagged_le (by simp; omega)) trivial
  | runAsync source starts =>
    have parts := depth_startsTree_le starts
    exact iff_of_true (Json.depth_tagged_le (by simp; omega)) trivial
  | result token value =>
    have deep : (tree (result token value)).depth = value.depth + 1 := by
      simp [tree, Json.tagged, Json.fields, Json.depth, Json.depthOfEntries,
        Value.Whole.depth_tree whole]
    rw [deep]
    exact Nat.succ_le_iff
  | failure token message => exact iff_of_true (Json.depth_tagged_le (by simp)) trivial
  | startHats token hat option starts =>
    have parts := depth_startsTree_le starts
    exact iff_of_true (Json.depth_tagged_le (by simp; omega)) trivial
  | stopThreads threads =>
    have parts := depth_threadsTree_le threads
    exact iff_of_true (Json.depth_tagged_le (by simp; omega)) trivial
  | stopAll => exact iff_of_true (Json.depth_tagged_le (by simp)) trivial

/-- What is read from the text of a message that is not too deep. -/
theorem read_write {message : HostMessage α} (whole : message.Whole) (shallow : message.Shallow) :
    read? message.write = some message.settled := by
  rw [read?, (spells whole).read]
  exact (if_pos ((shallow_iff whole).mpr shallow)).trans (ofJson_tree whole)

/-- A message that is too deep is refused. -/
theorem read_write_deep {message : HostMessage α} (whole : message.Whole)
    (deep : ¬message.Shallow) : (read? message.write : Option (HostMessage α)) = none := by
  rw [read?, (spells whole).read]
  exact if_neg fun fits => deep ((shallow_iff whole).mp fits)

end HostMessage

/-- Whole arguments are read from their tree. -/
theorem Args.ofJson_tree {α : Type} [Scalar α] {args : Args α}
    (whole : (Value.object args.entries).Whole) :
    ofJson? (Value.object args.entries).tree = some args := by
  cases whole with
  | object ordered each =>
    have read : Json.entriesOf? Value.ofJson? (Value.object args.entries).tree =
        some (args.entries.map id) := by
      rw [Value.tree, Value.treeEntries_eq]
      exact Json.entriesOf_fields Value.tree id (fun name : String => name)
        fun entry member => (each entry member).reads
    rw [ofJson?, read, List.map_id, Option.map_some, ofList, Fields.ofList_ordered ordered]

namespace WorkerMessage

variable {α : Type} [Scalar α]

/-- A message whose arguments, if it has any, are whole. -/
def Whole : WorkerMessage α → Prop
  | call _ _ _ args _ => (Value.object args.entries).Whole
  | _ => True

/-- The tree that a message is written as. -/
def tree : WorkerMessage α → Json
  | status report => .tagged report.name []
  | scriptError thread message =>
    .tagged "ScriptError" [("threadId", .nullable (thread.map ThreadId.text)),
      ("error", .string (some message))]
  | call target thread opcode args token =>
    .tagged "BlockOP" [("targetId", .string (some target.text)),
      ("threadId", .string (some thread.text)), ("opCode", .string (some opcode)),
      ("args", (Value.object args.entries).tree), ("token", .string (some token.text))]
  | ended thread => .tagged "EndOfThread" [("threadId", .string (some thread.text))]
  | registered token refusal =>
    .tagged "ThreadsRegistered" [("token", .string (some token.text)),
      ("error", .nullable refusal)]
  | started token threads =>
    .tagged "HatsStarted" [("token", .string (some token.text)),
      ("threadIds", threadsTree threads)]

/-- A message spells its tree. -/
theorem spells {message : WorkerMessage α} (whole : message.Whole) :
    Json.Spells message.write message.tree := by
  cases message with
  | status report => exact writeTagged_spells _ .nil
  | scriptError thread message =>
    exact writeTagged_spells _ (.cons ⟨rfl, writeNullable_spells _⟩
      (.cons ⟨rfl, Json.spells_quote message⟩ .nil))
  | call target thread opcode args token =>
    exact writeTagged_spells _ (.cons ⟨rfl, Json.spells_quote target.text⟩
      (.cons ⟨rfl, Json.spells_quote thread.text⟩ (.cons ⟨rfl, Json.spells_quote opcode⟩
        (.cons ⟨rfl, Value.Whole.spells whole⟩ (.cons ⟨rfl, Json.spells_quote token.text⟩ .nil)))))
  | ended thread => exact writeTagged_spells _ (.cons ⟨rfl, Json.spells_quote thread.text⟩ .nil)
  | registered token refusal =>
    exact writeTagged_spells _ (.cons ⟨rfl, Json.spells_quote token.text⟩
      (.cons ⟨rfl, writeNullable_spells refusal⟩ .nil))
  | started token threads =>
    exact writeTagged_spells _ (.cons ⟨rfl, Json.spells_quote token.text⟩
      (.cons ⟨rfl, writeThreads_spells threads⟩ .nil))

/-- A message is read from its tree. -/
theorem ofJson_tree {message : WorkerMessage α} (whole : message.Whole) :
    ofJson? message.tree = some message := by
  cases message with
  | status report => cases report <;> simp [ofJson?, tree, WorkerStatus.name, statusOf?]
  | scriptError thread message => cases thread <;> simp [ofJson?, tree]
  | call target thread opcode args token =>
    simp [ofJson?, tree, Value.Whole.isValue whole, Args.ofJson_tree whole]
  | ended thread => simp [ofJson?, tree]
  | registered token refusal => simp [ofJson?, tree]
  | started token threads => simp [ofJson?, tree]

/-- A message whose arguments, if it has any, are nested no deeper than a reader follows. -/
def Shallow : WorkerMessage α → Prop
  | call _ _ _ args _ => (Value.object args.entries).depth < Json.deepest
  | _ => True

/-- No message but one with arguments can be too deep. -/
theorem shallow_iff {message : WorkerMessage α} (whole : message.Whole) :
    message.tree.depth ≤ Json.deepest ↔ message.Shallow := by
  cases message with
  | status report => exact iff_of_true (Json.depth_tagged_le (by simp)) trivial
  | scriptError thread message => exact iff_of_true (Json.depth_tagged_le (by simp)) trivial
  | call target thread opcode args token =>
    have deep : (tree (call target thread opcode args token)).depth =
        (Value.object args.entries).depth + 1 := by
      simp [tree, Json.tagged, Json.fields, Json.depth, Json.depthOfEntries,
        Value.Whole.depth_tree whole]
    rw [deep]
    exact Nat.succ_le_iff
  | ended thread => exact iff_of_true (Json.depth_tagged_le (by simp)) trivial
  | registered token refusal => exact iff_of_true (Json.depth_tagged_le (by simp)) trivial
  | started token threads =>
    have parts := depth_threadsTree_le threads
    exact iff_of_true (Json.depth_tagged_le (by simp; omega)) trivial

/-- A message that is not too deep is read from its text. -/
theorem read_write {message : WorkerMessage α} (whole : message.Whole)
    (shallow : message.Shallow) : read? message.write = some message := by
  rw [read?, (spells whole).read]
  exact (if_pos ((shallow_iff whole).mpr shallow)).trans (ofJson_tree whole)

/-- A message that is too deep is refused. -/
theorem read_write_deep {message : WorkerMessage α} (whole : message.Whole)
    (deep : ¬message.Shallow) : (read? message.write : Option (WorkerMessage α)) = none := by
  rw [read?, (spells whole).read]
  exact if_neg fun fits => deep ((shallow_iff whole).mp fits)

end WorkerMessage

/-- Messages read back. A message whose numbers are whole and fit 64 bits is read from its own
text unless its value is nested too deep, and then nothing is read. What is read is the message
itself, except that a unit is read with every event that lists none of its options turned into
one without options. A linked batch makes such a unit just when it gives an event options and
lists none of them anywhere. -/
theorem messages_read_back (α : Type) [Scalar α] :
    (∀ message : HostMessage α, message.Whole →
        (message.Shallow → HostMessage.read? message.write = some message.settled) ∧
          (¬message.Shallow →
            (HostMessage.read? message.write : Option (HostMessage α)) = none) ∧
          (message.settled = message ↔ message.Listed)) ∧
      (∀ message : WorkerMessage α, message.Whole →
        (message.Shallow → WorkerMessage.read? message.write = some message) ∧
          (¬message.Shallow →
            (WorkerMessage.read? message.write : Option (WorkerMessage α)) = none)) ∧
      ∀ (batch : Batch) (isLive : TargetId → Bool) (ids later : IdSource) (linked : Linked),
        Linker.link α batch isLive ids = (.ok linked, later) →
          (linked.unit.Listed ↔ ∀ placement ∈ batch.placements, placement.2.2.options?.isSome →
            Placements.options batch.placements placement.2.1 ≠ []) := by
  refine ⟨fun message whole => ⟨?_, ?_, ?_⟩, fun message whole => ⟨?_, ?_⟩, ?_⟩
  · exact HostMessage.read_write whole
  · exact HostMessage.read_write_deep whole
  · exact HostMessage.settled_eq_self
  · exact WorkerMessage.read_write whole
  · exact WorkerMessage.read_write_deep whole
  · intro batch isLive ids later linked result
    exact LinkedUnit.listed_iff (Linker.link_shaped result)

/-- Arguments with a list, an escaped text and the ends of the range of whole numbers. -/
def nestedArgs : Args Rat :=
  ⟨[("EDGES", .list [.int Width.low64, .int Width.last64, .null]), ("TEXT", .text "\"\n")]⟩

/-- The nested arguments hold whole values only. -/
theorem nestedArgs_whole : (Value.object nestedArgs.entries).Whole := by
  refine .object (by unfold Fields.Ordered; decide) fun entry member => ?_
  simp only [nestedArgs, List.mem_cons, List.not_mem_nil, or_false] at member
  rcases member with rfl | rfl
  · refine .list fun item inside => ?_
    simp only [List.mem_cons, List.not_mem_nil, or_false] at inside
    rcases inside with rfl | rfl | rfl
    · exact .int (by decide) (by decide)
    · exact .int (by decide) (by decide)
    · exact .null
  · exact .text _

/-- A block call with these arguments and an answer with them read back. -/
theorem nestedArgs_read_back :
    (WorkerMessage.call ⟨"cat"⟩ ⟨"t1"⟩ "looks_say" nestedArgs ⟨"w-4"⟩).Whole ∧
      WorkerMessage.read? (WorkerMessage.call ⟨"cat"⟩ ⟨"t1"⟩ "looks_say" nestedArgs ⟨"w-4"⟩).write =
        some (.call ⟨"cat"⟩ ⟨"t1"⟩ "looks_say" nestedArgs ⟨"w-4"⟩) ∧
      HostMessage.read? (HostMessage.result ⟨"w-4"⟩ (.object nestedArgs.entries)).write =
        some (.result ⟨"w-4"⟩ (.object nestedArgs.entries)) :=
  have shallow : (Value.object nestedArgs.entries).depth < Json.deepest := by decide
  ⟨nestedArgs_whole,
    ((messages_read_back Rat).2.1 (.call ⟨"cat"⟩ ⟨"t1"⟩ "looks_say" nestedArgs ⟨"w-4"⟩)
      nestedArgs_whole).1 shallow,
    ((messages_read_back Rat).1 (.result ⟨"w-4"⟩ (.object nestedArgs.entries))
      nestedArgs_whole).1 shallow⟩

/-- A batch that gives an event options and lists none. -/
def optionless : Batch := .ofList [(⟨"cat"⟩, .ofList [("key", .options .empty)])]

/-- The unit of such a batch is read as another one, in which the event has no options. -/
theorem optionless_changes :
    ∃ linked later, Linker.link Rat optionless (fun _ => true) .numbered = (.ok linked, later) ∧
      linked.unit.events.entries = [("key", .options .empty)] ∧
      ∃ unit : LinkedUnit, unit.events.entries = [("key", .scripts .empty)] ∧
        HostMessage.read? (HostMessage.register ⟨"h-0"⟩ linked.unit : HostMessage Rat).write =
          some (.register ⟨"h-0"⟩ unit : HostMessage Rat) ∧
        HostMessage.read? (HostMessage.register ⟨"h-0"⟩ linked.unit : HostMessage Rat).write ≠
          some (.register ⟨"h-0"⟩ linked.unit : HostMessage Rat) := by
  have read (unit : LinkedUnit) :
      HostMessage.read? (HostMessage.register ⟨"h-0"⟩ unit : HostMessage Rat).write =
        some (.register ⟨"h-0"⟩ unit.settled : HostMessage Rat) :=
    @HostMessage.read_write Rat _ (.register ⟨"h-0"⟩ unit) trivial trivial
  refine ⟨_, _, rfl, rfl, _, ?_, read _, fun same => ?_⟩
  · rfl
  · rw [read] at same
    cases same

end SpriteMachine
