import SpriteMachine.Proofs.Identifier
import SpriteMachine.Proofs.OrderedMap
import SpriteMachine.Proofs.Script.Checking
import SpriteMachine.Proofs.Script.Unit

/-!
# What linking promises

Linking moves the source of names forward, also when it fails. When it succeeds, every
registered piece of code was checked before: the unit reads back as one script for each
registration, in order, and calls no opcode that is not listed.
-/

namespace SpriteMachine

namespace Linker

namespace Progress

section Induction

variable {invariant : Progress → Prop} {progress : Progress}

/-- What every placing of a code keeps holds when all are placed. -/
theorem placeAll_induction (target : TargetId) (event : String) (option : Option String)
    {codes : List String} (placed : ∀ code ∈ codes, ∀ progress, invariant progress →
      invariant (progress.place target event option code)) (initial : invariant progress) :
    invariant (progress.placeAll target event option codes) := by
  induction codes generalizing progress with
  | nil => exact initial
  | cons code rest inductionHypothesis =>
    refine inductionHypothesis ?_ (placed code List.mem_cons_self progress initial)
    exact fun other member => placed other (List.mem_cons_of_mem _ member)

/-- What every placing and every listing keeps holds when an event is placed. -/
theorem placeEvent_induction (target : TargetId) (event : String) {scripts : EventScripts}
    (listed : ∀ progress events, invariant progress →
      invariant { progress with events := events })
    (placed : ∀ fragment ∈ scripts.fragments, ∀ progress, invariant progress →
      invariant (progress.place target event fragment.1 fragment.2))
    (initial : invariant progress) : invariant (progress.placeEvent target event scripts) := by
  cases scripts with
  | plain codes =>
    refine placeAll_induction target event none (fun code member => ?_) initial
    exact placed (none, code) (List.mem_map.mpr ⟨code, member, rfl⟩)
  | options choices =>
    simp only [EventScripts.fragments] at placed
    simp only [placeEvent]
    generalize choices.entries = entries at placed
    induction entries generalizing progress with
    | nil => exact initial
    | cons choice rest inductionHypothesis =>
      refine inductionHypothesis (placeAll_induction target event (some choice.1) ?_
        (listed progress _ initial)) fun fragment member => placed fragment ?_
      · intro code member
        refine placed (some choice.1, code) (List.mem_flatMap.mpr ⟨choice, ?_, ?_⟩)
        · exact List.mem_cons_self
        · exact List.mem_map.mpr ⟨code, member, rfl⟩
      · rw [List.flatMap_cons, List.mem_append]
        exact Or.inr member

/-- Naming a batch places its fragments one after another and lists events between. -/
theorem run_induction (invariant : Progress → Prop)
    {placements : List (TargetId × String × EventScripts)}
    (listed : ∀ progress events, invariant progress →
      invariant { progress with events := events })
    (placed : ∀ placement ∈ placements, ∀ fragment ∈ placement.2.2.fragments, ∀ progress,
      invariant progress →
        invariant (progress.place placement.1 placement.2.1 fragment.1 fragment.2))
    (initial : invariant progress) : invariant (progress.run placements).1 := by
  induction placements generalizing progress with
  | nil => exact initial
  | cons placement rest inductionHypothesis =>
    obtain ⟨target, event, scripts⟩ := placement
    unfold run
    split
    case h_1 => exact initial
    case h_2 opened opens =>
      have begun : invariant opened := by
        unfold openEvent at opens
        split at opens
        all_goals
          cases opens
          try exact listed progress _ initial
      refine inductionHypothesis
        (fun other member => placed other (List.mem_cons_of_mem _ member)) ?_
      exact placeEvent_induction target event listed (placed _ List.mem_cons_self) begun

end Induction

/-- Linking issues names and takes none back. -/
theorem run_continues (placements : List (TargetId × String × EventScripts))
    (progress : Progress) : IdSource.Continues progress.ids (progress.run placements).1.ids :=
  run_induction (fun later => IdSource.Continues progress.ids later.ids)
    (fun _ _ continues => continues)
    (fun _ _ _ _ _ continues => continues.trans (IdSource.draw_continues _ _)) (.refl _)

end Progress

/-- The source behind linking continues the one before. -/
theorem link_continues (α : Type) [Scalar α] (batch : Batch) (isLive : TargetId → Bool)
    (ids : IdSource) : IdSource.Continues ids (link α batch isLive ids).2 := by
  have names := Progress.run_continues batch.placements ⟨.empty, .empty, ids⟩
  unfold link
  split
  case h_1 => exact .refl _
  case h_2 =>
    split
    case h_1 progress fault result =>
      rw [result] at names
      exact names
    case h_2 progress result =>
      rw [result] at names
      exact names

section Checking

variable {α : Type} [Scalar α]

/-- Code that can be read and calls only opcodes that are listed. -/
def Checked (α : Type) [Scalar α] (opcodes : List String) (code : String) : Prop :=
  ∃ body : List (Statement α), Body.parse code = .ok body ∧
    ∀ statement ∈ body, statement.opcode ∈ opcodes

/-- Code that can be read and calls an opcode. -/
def Calls (α : Type) [Scalar α] (code : String) (opcode : String) : Prop :=
  ∃ body : List (Statement α), Body.parse code = .ok body ∧
    ∃ statement ∈ body, statement.opcode = opcode

/-- The opcodes called in a code are those that its statements call. -/
theorem mem_called {code opcode : String} : opcode ∈ called α code ↔ Calls α code opcode := by
  rw [called, Calls]
  cases (Body.parse code : Except SyntaxFault (List (Statement α))) with
  | error fault => simp
  | ok body => simp

/-- Every piece of code in a batch that passed was checked. -/
theorem checkTargets_checked {isLive : TargetId → Bool} {batch : Batch} {opcodes : List String}
    (passed : checkTargets α isLive batch.entries = .ok opcodes) :
    ∀ placement ∈ batch.placements, ∀ fragment ∈ placement.2.2.fragments,
      Checked α opcodes fragment.2 := by
  obtain ⟨clear, rfl⟩ := checkTargets_ok_iff.mp passed
  intro placement present fragment inside
  have listed := Batch.mem_listing.mpr ⟨placement, present, fragment, inside, rfl⟩
  obtain ⟨body, read⟩ := (offences_eq_nil.mp clear).2 _ listed
  refine ⟨body, read, fun statement member => List.mem_flatMap.mpr ⟨_, listed, ?_⟩⟩
  exact mem_called.mpr ⟨body, read, statement, member, rfl⟩

/-- Only what some code of a batch calls is listed. -/
theorem checkTargets_called {isLive : TargetId → Bool} {batch : Batch} {opcodes : List String}
    (passed : checkTargets α isLive batch.entries = .ok opcodes) :
    ∀ opcode ∈ opcodes, ∃ placement ∈ batch.placements,
      ∃ fragment ∈ placement.2.2.fragments, Calls α fragment.2 opcode := by
  obtain ⟨-, rfl⟩ := checkTargets_ok_iff.mp passed
  intro opcode member
  obtain ⟨registration, listed, calls⟩ := List.mem_flatMap.mp member
  obtain ⟨placement, present, fragment, inside, rfl⟩ := Batch.mem_listing.mp listed
  exact ⟨placement, present, fragment, inside, mem_called.mp calls⟩

namespace Progress

/-- All registered code has a property. -/
def Codes (property : String → Prop) (progress : Progress) : Prop :=
  ∀ id registration, progress.registrations.find? id = some registration →
    property registration.code

/-- A property of all fragments holds of all registered code. -/
theorem Codes.run {property : String → Prop} {progress : Progress}
    {placements : List (TargetId × String × EventScripts)} (codes : progress.Codes property)
    (new : ∀ placement ∈ placements, ∀ fragment ∈ placement.2.2.fragments,
      property fragment.2) : (progress.run placements).1.Codes property := by
  refine run_induction (Codes property) (fun _ _ codes => codes) ?_ codes
  intro placement inside fragment member progress codes id registration found
  rw [Progress.place] at found
  dsimp only at found
  rw [OrderedMap.find_insert] at found
  split at found
  case isTrue =>
    obtain rfl := Option.some.inj found
    exact new placement inside fragment member
  case isFalse => exact codes id registration found

/-- Every registered name was drawn from a source after a moment of it. -/
structure Drawn (source : IdSource) (progress : Progress) : Prop where
  continues : IdSource.Continues source progress.ids
  issued : ∀ id registration, progress.registrations.find? id = some registration →
    progress.ids.Issued id.text
  fresh : source.Distinct → ∀ id registration,
    progress.registrations.find? id = some registration → ¬ source.Issued id.text

/-- Every script is registered under a name that was drawn for it. -/
theorem run_drawn (placements : List (TargetId × String × EventScripts)) (ids : IdSource) :
    Drawn ids (run ⟨.empty, .empty, ids⟩ placements).1 := by
  have initial : Drawn ids ⟨.empty, .empty, ids⟩ :=
    ⟨.refl _, fun _ _ found => (Option.some_ne_none _ found.symm).elim,
      fun _ _ _ found => (Option.some_ne_none _ found.symm).elim⟩
  refine run_induction (Drawn ids) ?_ ?_ initial
  · exact fun _ _ drawn => ⟨drawn.continues, drawn.issued, drawn.fresh⟩
  · intro placement _ fragment _ progress drawn
    refine ⟨drawn.continues.trans (IdSource.draw_continues _ _), ?_, ?_⟩
    · intro id registration found
      rw [Progress.place] at found ⊢
      dsimp only at found ⊢
      rw [OrderedMap.find_insert] at found
      split at found
      case isTrue same =>
        rw [same]
        exact IdSource.draw_issued _ _
      case isFalse =>
        exact (IdSource.draw_continues _ _).issued_of (drawn.issued id registration found)
    · intro distinct id registration found known
      rw [Progress.place] at found
      dsimp only at found
      rw [OrderedMap.find_insert] at found
      split at found
      case isTrue same =>
        rw [same] at known
        exact IdSource.draw_fresh (drawn.continues.distinct distinct) _
          (drawn.continues.issued_of known)
      case isFalse => exact drawn.fresh distinct id registration found known

end Progress

/-- The unit of a linked batch reads back: one script for each registration, which calls
listed opcodes only. -/
structure Reads (linked : Linked) (scripts : List (Script α)) : Prop where
  source : linked.unit.source = ScriptUnit.render (sections linked.registrations)
  parts : List.Forall₂ Section.Reads (sections linked.registrations) scripts
  opcodes : ∀ script ∈ scripts, ∀ statement ∈ script.body, statement.opcode ∈ linked.opcodes

/-- The scripts that are read are those that were registered, in order. -/
theorem Reads.ids {linked : Linked} {scripts : List (Script α)} (reads : Reads linked scripts) :
    scripts.map Script.id = linked.registrations.keys := by
  have named : ∀ {parts : List Section} {scripts : List (Script α)},
      List.Forall₂ Section.Reads parts scripts →
        scripts.map Script.id = parts.map Section.script := by
    intro parts scripts pairs
    induction pairs with
    | nil => rfl
    | cons read _ inductionHypothesis =>
      rw [List.map_cons, List.map_cons, read.id, inductionHypothesis]
  rw [named reads.parts, sections, List.map_map]
  rfl

/-- What is read of a part and of a registration. -/
theorem mem_reads {parts : List Section} {scripts : List (Script α)}
    (pairs : List.Forall₂ Section.Reads parts scripts) :
    (∀ part ∈ parts, ∃ script ∈ scripts, Section.Reads part script) ∧
      ∀ script ∈ scripts, ∃ part ∈ parts, Section.Reads part script := by
  induction pairs with
  | nil => exact ⟨fun _ member => (List.not_mem_nil member).elim,
      fun _ member => (List.not_mem_nil member).elim⟩
  | @cons part script parts scripts read _ inductionHypothesis =>
    obtain ⟨forward, backward⟩ := inductionHypothesis
    constructor
    · intro other member
      rcases List.mem_cons.mp member with rfl | later
      · exact ⟨script, List.mem_cons_self, read⟩
      · obtain ⟨found, inside, reads⟩ := forward other later
        exact ⟨found, List.mem_cons_of_mem _ inside, reads⟩
    · intro other member
      rcases List.mem_cons.mp member with rfl | later
      · exact ⟨part, List.mem_cons_self, read⟩
      · obtain ⟨found, inside, reads⟩ := backward other later
        exact ⟨found, List.mem_cons_of_mem _ inside, reads⟩

/-- The scripts of a unit under their names are its registrations, read. -/
theorem Reads.mem_iff {linked : Linked} {scripts : List (Script α)} (reads : Reads linked scripts)
    {id : ScriptId} {script : Script α} :
    (id, script) ∈ scripts.map (fun script => (script.id, script)) ↔
      ∃ registration body, linked.registrations.find? id = some registration ∧
        Body.parse registration.code = .ok body ∧ script = ⟨id, registration.target, body⟩ := by
  obtain ⟨forward, backward⟩ := mem_reads reads.parts
  constructor
  · intro member
    obtain ⟨found, inside, same⟩ := List.mem_map.mp member
    obtain ⟨rfl, rfl⟩ := Prod.mk.inj same
    obtain ⟨part, present, read⟩ := backward found inside
    obtain ⟨entry, listed, rfl⟩ := List.mem_map.mp present
    obtain ⟨name, target, body⟩ := found
    obtain ⟨rfl, rfl, parsed⟩ := read
    exact ⟨entry.2, body, OrderedMap.mem_entries_iff.mp listed, parsed, rfl⟩
  · rintro ⟨registration, body, found, parsed, rfl⟩
    obtain ⟨⟨name, target, other⟩, inside, named, located, again⟩ :=
      forward ⟨id, registration.target, registration.code⟩
        (List.mem_map.mpr ⟨(id, registration), OrderedMap.mem_entries_iff.mpr found, rfl⟩)
    obtain rfl : name = id := named
    obtain rfl : target = registration.target := located
    obtain rfl := Except.ok.inj (parsed.symm.trans again)
    exact List.mem_map.mpr ⟨_, inside, rfl⟩

/-- The names of the scripts of a unit differ. -/
theorem Reads.distinct {linked : Linked} {scripts : List (Script α)}
    (reads : Reads linked scripts) :
    ((scripts.map fun script => (script.id, script)).map Prod.fst).Nodup := by
  rw [List.map_map]
  change (scripts.map Script.id).Nodup
  rw [reads.ids]
  exact linked.registrations.keys_nodup

/-- Checked code can be read as scripts. -/
theorem exists_scripts {opcodes : List String} {parts : List Section}
    (checked : ∀ part ∈ parts, Checked α opcodes part.code) :
    ∃ scripts : List (Script α), List.Forall₂ Section.Reads parts scripts ∧
      ∀ script ∈ scripts, ∀ statement ∈ script.body, statement.opcode ∈ opcodes := by
  induction parts with
  | nil =>
    refine ⟨[], .nil, ?_⟩
    intro _ member
    cases member
  | cons first rest inductionHypothesis =>
    obtain ⟨body, read, known⟩ := checked first List.mem_cons_self
    obtain ⟨scripts, reads, knownRest⟩ := inductionHypothesis
      fun part member => checked part (List.mem_cons_of_mem _ member)
    refine ⟨⟨first.script, first.target, body⟩ :: scripts, .cons ⟨rfl, rfl, read⟩ reads, ?_⟩
    intro script member
    rcases List.mem_cons.mp member with rfl | later
    · exact known
    · exact knownRest script later

/-- What is linked reads back. -/
theorem link_reads {batch : Batch} {isLive : TargetId → Bool} {ids later : IdSource}
    {linked : Linked} (result : link α batch isLive ids = (.ok linked, later)) :
    ∃ scripts : List (Script α), Reads linked scripts := by
  unfold link at result
  split at result
  case h_1 => cases result
  case h_2 opcodes passed =>
    split at result
    case h_1 => cases result
    case h_2 progress ran =>
      obtain ⟨same, -⟩ := Prod.mk.inj result
      obtain rfl := Except.ok.inj same
      have codes : progress.Codes (Checked α opcodes) := by
        have started : Progress.Codes (Checked α opcodes) ⟨.empty, .empty, ids⟩ := by
          intro _ _ found
          cases found
        have run := started.run (checkTargets_checked passed)
        rw [ran] at run
        exact run
      have checked : ∀ part ∈ sections progress.registrations, Checked α opcodes part.code := by
        intro part member
        obtain ⟨entry, inside, rfl⟩ := List.mem_map.mp member
        exact codes entry.1 entry.2 (OrderedMap.mem_entries_iff.mp inside)
      obtain ⟨scripts, reads, known⟩ := exists_scripts checked
      refine ⟨scripts, rfl, reads, fun script member statement inside => ?_⟩
      exact List.mem_eraseDups.mpr (known script member statement inside)

/-- The opcodes of a linked batch are those that its code calls. -/
theorem link_opcodes {batch : Batch} {isLive : TargetId → Bool} {ids later : IdSource}
    {linked : Linked} (result : link α batch isLive ids = (.ok linked, later)) (opcode : String) :
    opcode ∈ linked.opcodes ↔ ∃ placement ∈ batch.placements,
      ∃ fragment ∈ placement.2.2.fragments, Calls α fragment.2 opcode := by
  unfold link at result
  split at result
  case h_1 => cases result
  case h_2 opcodes passed =>
    split at result
    case h_1 => cases result
    case h_2 progress ran =>
      obtain ⟨same, -⟩ := Prod.mk.inj result
      obtain rfl := Except.ok.inj same
      rw [List.mem_eraseDups]
      constructor
      · exact checkTargets_called passed opcode
      · rintro ⟨placement, present, fragment, inside, body, read, statement, member, rfl⟩
        obtain ⟨other, again, known⟩ := checkTargets_checked passed placement present fragment
          inside
        obtain rfl := Except.ok.inj (read.symm.trans again)
        exact known statement member

/-- The names of a linked batch were drawn for it. -/
theorem link_drawn {batch : Batch} {isLive : TargetId → Bool} {ids later : IdSource}
    {linked : Linked} (result : link α batch isLive ids = (.ok linked, later)) {id : ScriptId}
    {registration : Registration} (found : linked.registrations.find? id = some registration) :
    later.Issued id.text ∧ (ids.Distinct → ¬ ids.Issued id.text) := by
  have drawn := Progress.run_drawn batch.placements ids
  unfold link at result
  split at result
  case h_1 => cases result
  case h_2 =>
    split at result
    case h_1 => cases result
    case h_2 progress ran =>
      rw [ran] at drawn
      obtain ⟨same, rfl⟩ := Prod.mk.inj result
      obtain rfl := Except.ok.inj same
      exact ⟨drawn.issued id registration found,
        fun distinct => drawn.fresh distinct id registration found⟩

end Checking

end Linker

end SpriteMachine
