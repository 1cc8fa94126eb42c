import SpriteMachine.Proofs.List
import SpriteMachine.Proofs.Script.Linker

/-!
# The shape of an event map

The shape of an event map is its events with the options of each. It depends on the batch
alone: filing code changes no shape, and the events and options of a walk are those of the
placements that were walked, in the order of their first occurrence. A walk that breaks off
has met an event that is given both with and without options.
-/

namespace SpriteMachine

/-- The options that the code of an event is sorted by; none for a plain list. -/
def EventScripts.options? : EventScripts → Option (List String)
  | plain _ => none
  | options choices => some choices.keys

/-- The options under which an entry lists scripts; none for scripts without options. -/
def EventEntry.options? : EventEntry → Option (List String)
  | scripts _ => none
  | options choices => some choices.keys

namespace EventMap

/-- The events of a map with the options of each. -/
def shape (events : EventMap) : OrderedMap String (Option (List String)) :=
  events.mapEntries fun _ entry => entry.options?

/-- The shape of an event map tells the options of each event. -/
theorem find_shape (events : EventMap) (event : String) :
    events.shape.find? event = (events.find? event).map EventEntry.options? :=
  OrderedMap.find_mapEntries events _ event

end EventMap

/-- Whether no event is given with options in one place and without in another. -/
def Batch.Uniform (batch : Batch) : Prop :=
  ∀ first ∈ batch.placements, ∀ second ∈ batch.placements, first.2.1 = second.2.1 →
    first.2.2.options?.isSome = second.2.2.options?.isSome

namespace Placements

/-- The events of placements in the order of their first occurrence. -/
def events (placements : List (TargetId × String × EventScripts)) : List String :=
  (placements.map fun placement => placement.2.1).eraseDups

/-- The options of an event over all its placements, in the order of their first
occurrence. -/
def options (placements : List (TargetId × String × EventScripts)) (event : String) :
    List String :=
  (placements.flatMap fun placement =>
    if placement.2.1 = event then placement.2.2.options?.getD [] else []).eraseDups

end Placements

/-- Options listed behind others, each one once. -/
def joinOptions (names more : List String) : List String :=
  more.foldl (fun names option => if option ∈ names then names else names ++ [option]) names

/-- Options are joined without repetitions, in the order of their first occurrence. -/
theorem joinOptions_eraseDups (names more : List String) :
    joinOptions names.eraseDups more = (names ++ more).eraseDups := by
  induction more generalizing names with
  | nil => rw [List.append_nil]; rfl
  | cons option rest inductionHypothesis =>
    have first : joinOptions names.eraseDups (option :: rest) =
        joinOptions (names ++ [option]).eraseDups rest := by
      rw [eraseDups_concat, joinOptions, List.foldl_cons]
      by_cases listed : option ∈ names <;> simp [listed, joinOptions]
    rw [first, inductionHypothesis, List.append_assoc, List.singleton_append]

namespace Linker.Progress

/-- Filing a script lists no event and no option. -/
theorem shape_file (events : EventMap) (event : String) (option : Option String)
    (script : ScriptId) (code : String) :
    (file events event option script code).shape = events.shape := by
  rw [file, EventMap.shape, OrderedMap.mapEntries_modify id]
  · exact OrderedMap.modify_eq_self fun _ _ => rfl
  · intro entry _
    cases entry <;> cases option <;> simp [EventEntry.options?]

/-- To place codes leaves the shape. -/
theorem shape_placeAll (progress : Progress) (target : TargetId) (event : String)
    (option : Option String) (codes : List String) :
    (progress.placeAll target event option codes).events.shape = progress.events.shape := by
  refine @placeAll_induction (fun later => later.events.shape = progress.events.shape) progress
    target event option codes (fun code _ later same => ?_) rfl
  exact (shape_file later.events event option _ code).trans same

/-- To open an option adds it to those of its event. -/
theorem shape_openOption (progress : Progress) (event : String) (option : String) :
    (progress.openOption event option).events.shape =
      progress.events.shape.modify event (Option.map fun names => joinOptions names [option]) := by
  rw [openOption, EventMap.shape,
    OrderedMap.mapEntries_modify (Option.map fun names => joinOptions names [option])]
  · rfl
  intro entry _
  cases entry with
  | scripts codes => rfl
  | options choices =>
    simp only [EventEntry.options?, Option.map_some, joinOptions, List.foldl_cons, List.foldl_nil]
    by_cases listed : option ∈ choices.keys
    · rw [if_pos (OrderedMap.contains_eq_true.mpr listed), if_pos listed]
    · rw [if_neg fun present => listed (OrderedMap.contains_eq_true.mp present), if_neg listed,
        OrderedMap.keys_insert_of_absent listed]

/-- The code of a placement adds the options it is sorted by to those of its event. -/
theorem shape_placeEvent (progress : Progress) (target : TargetId) (event : String)
    (scripts : EventScripts) :
    (progress.placeEvent target event scripts).events.shape =
      progress.events.shape.modify event
        (Option.map fun names => joinOptions names (scripts.options?.getD [])) := by
  cases scripts with
  | plain codes =>
    refine (shape_placeAll progress target event none codes).trans ?_
    exact (OrderedMap.modify_eq_self fun names _ => by cases names <;> rfl).symm
  | options choices =>
    simp only [placeEvent, EventScripts.options?, Option.getD_some, OrderedMap.keys]
    generalize choices.entries = entries
    induction entries generalizing progress with
    | nil => exact (OrderedMap.modify_eq_self fun names _ => by cases names <;> rfl).symm
    | cons choice rest inductionHypothesis =>
      rw [List.foldl_cons, inductionHypothesis, shape_placeAll, shape_openOption]
      apply OrderedMap.eq_of_entries
      simp only [OrderedMap.modify, OrderedMap.entries_mapEntries, List.map_map]
      refine List.map_congr_left fun entry _ => ?_
      by_cases named : entry.1 = event <;>
        simp [named, joinOptions, Function.comp_def]

/-- The entry of an event that was just listed. -/
def blank : EventScripts → EventEntry
  | .plain _ => .scripts .empty
  | .options _ => .options .empty

/-- An event is listed anew, or was listed in the same form. -/
theorem openEvent_some {progress opened : Progress} {event : String} {scripts : EventScripts}
    (opens : progress.openEvent event scripts = some opened) :
    progress.events.find? event = none ∧
        opened = { progress with events := progress.events.insert event (blank scripts) } ∨
      ∃ entry, progress.events.find? event = some entry ∧
        entry.options?.isSome = scripts.options?.isSome ∧ opened = progress := by
  unfold openEvent at opens
  split at opens
  case h_1 => exact Or.inl ⟨‹_›, (Option.some.inj opens).symm⟩
  case h_2 => exact Or.inl ⟨‹_›, (Option.some.inj opens).symm⟩
  case h_3 => exact Or.inr ⟨_, ‹_›, rfl, (Option.some.inj opens).symm⟩
  case h_4 => exact Or.inr ⟨_, ‹_›, rfl, (Option.some.inj opens).symm⟩
  case h_5 => cases opens

/-- An event that cannot be listed is listed in the other form. -/
theorem openEvent_none {progress : Progress} {event : String} {scripts : EventScripts}
    (refuses : progress.openEvent event scripts = none) :
    ∃ entry, progress.events.find? event = some entry ∧
      entry.options?.isSome ≠ scripts.options?.isSome := by
  cases listed : progress.events.find? event with
  | none => cases scripts <;> simp [openEvent, listed] at refuses
  | some entry =>
    refine ⟨entry, rfl, ?_⟩
    cases entry <;> cases scripts <;>
      simp_all [openEvent, EventEntry.options?, EventScripts.options?]

/-- An event that was listed has an entry in its form. -/
theorem openEvent_form {progress opened : Progress} {event : String} {scripts : EventScripts}
    (opens : progress.openEvent event scripts = some opened) :
    ∃ form, opened.events.shape.find? event = some form ∧
      form.isSome = scripts.options?.isSome := by
  rw [EventMap.find_shape]
  rcases openEvent_some opens with ⟨-, rfl⟩ | ⟨entry, present, form, rfl⟩
  · refine ⟨(blank scripts).options?, ?_, by cases scripts <;> rfl⟩
    rw [OrderedMap.find_insert, if_pos rfl, Option.map_some]
  · exact ⟨entry.options?, by rw [present, Option.map_some], form⟩

/-- The shape of an event map is that of the placements that were walked. -/
structure Shaped (placements : List (TargetId × String × EventScripts))
    (shape : OrderedMap String (Option (List String))) : Prop where
  events : shape.keys = Placements.events placements
  options : ∀ placement ∈ placements, shape.find? placement.2.1 =
    some (placement.2.2.options?.map fun _ => Placements.options placements placement.2.1)

/-- The empty map has the shape of no placements. -/
theorem Shaped.empty : Shaped [] (EventMap.shape .empty) :=
  ⟨rfl, fun _ member => (List.not_mem_nil member).elim⟩

/-- An event that the walked placements list has an entry in their form. -/
theorem Shaped.uniform {placements : List (TargetId × String × EventScripts)}
    {shape : OrderedMap String (Option (List String))} (shaped : Shaped placements shape)
    {first second : TargetId × String × EventScripts} (before : first ∈ placements)
    (after : second ∈ placements) (same : first.2.1 = second.2.1) :
    first.2.2.options?.isSome = second.2.2.options?.isSome := by
  have left := shaped.options first before
  rw [same, shaped.options second after] at left
  simpa using (congrArg Option.isSome (Option.some.inj left)).symm

/-- The last placement adds its event if it is new. -/
theorem events_concat (placements : List (TargetId × String × EventScripts))
    (placement : TargetId × String × EventScripts) :
    Placements.events (placements ++ [placement]) =
      if placement.2.1 ∈ Placements.events placements then Placements.events placements
      else Placements.events placements ++ [placement.2.1] := by
  simp only [Placements.events, List.map_append, List.map_singleton, eraseDups_concat,
    List.mem_eraseDups]

/-- The last placement adds its options to those of its event. -/
theorem options_concat (placements : List (TargetId × String × EventScripts))
    (placement : TargetId × String × EventScripts) (event : String) :
    Placements.options (placements ++ [placement]) event =
      if placement.2.1 = event then
        joinOptions (Placements.options placements event) (placement.2.2.options?.getD [])
      else Placements.options placements event := by
  rw [Placements.options, List.flatMap_append, List.flatMap_singleton]
  split
  case isTrue => rw [← joinOptions_eraseDups, Placements.options]
  case isFalse => rw [List.append_nil, Placements.options]

/-- An event that no placement is for has no options. -/
theorem options_of_absent {placements : List (TargetId × String × EventScripts)} {event : String}
    (absent : event ∉ Placements.events placements) : Placements.options placements event = [] := by
  rw [Placements.options, List.flatMap_eq_nil_iff.mpr, List.eraseDups_nil]
  intro placement inside
  refine if_neg fun same => absent (List.mem_eraseDups.mpr ?_)
  exact List.mem_map.mpr ⟨placement, inside, same⟩

/-- Listing an event shapes the map for a placement of it. -/
theorem Shaped.opened {placements : List (TargetId × String × EventScripts)}
    {progress opened : Progress} {event : String} {scripts : EventScripts}
    (shaped : Shaped placements progress.events.shape)
    (opens : progress.openEvent event scripts = some opened) :
    (opened.events.shape.keys =
        if event ∈ Placements.events placements then Placements.events placements
        else Placements.events placements ++ [event]) ∧
      opened.events.shape.find? event =
        some (scripts.options?.map fun _ => Placements.options placements event) ∧
      ∀ other, other ≠ event →
        opened.events.shape.find? other = progress.events.shape.find? other := by
  rcases openEvent_some opens with ⟨absent, rfl⟩ | ⟨entry, present, form, rfl⟩
  · have unlisted : event ∉ progress.events.shape.keys := fun member => by
      obtain ⟨form, found⟩ := OrderedMap.mem_keys_iff.mp member
      rw [EventMap.find_shape, absent] at found
      cases found
    have opening : EventMap.shape (progress.events.insert event (blank scripts)) =
        progress.events.shape.insert event (blank scripts).options? :=
      OrderedMap.mapEntries_insert_of_absent
        (by rwa [EventMap.shape, OrderedMap.keys_mapEntries] at unlisted) _ _
    have fresh : event ∉ Placements.events placements := shaped.events ▸ unlisted
    rw [if_neg fresh, options_of_absent fresh, opening, ← shaped.events]
    refine ⟨OrderedMap.keys_insert_of_absent unlisted _, ?_, fun other different => ?_⟩
    · rw [OrderedMap.find_insert, if_pos rfl]
      cases scripts <;> rfl
    · rw [OrderedMap.find_insert, if_neg different]
  · have shape : opened.events.shape.find? event = some entry.options? := by
      rw [EventMap.find_shape, present, Option.map_some]
    have known : event ∈ Placements.events placements :=
      shaped.events ▸ OrderedMap.mem_keys_iff.mpr ⟨_, shape⟩
    refine ⟨shaped.events.trans (if_pos known).symm, ?_, fun _ _ => rfl⟩
    obtain ⟨placement, inside, rfl⟩ := List.mem_map.mp (List.mem_eraseDups.mp known)
    have walked := shaped.options placement inside
    rw [walked] at shape
    have own := congrArg Option.isSome (Option.some.inj shape)
    rw [form, Option.isSome_map] at own
    rw [walked]
    revert own
    cases scripts.options? <;> cases placement.2.2.options? <;> simp

/-- A placement that was walked is one of the placements that shape the map. -/
theorem Shaped.step {placements : List (TargetId × String × EventScripts)}
    {progress opened : Progress} {event : String} {scripts : EventScripts}
    (shaped : Shaped placements progress.events.shape)
    (opens : progress.openEvent event scripts = some opened) (target : TargetId) :
    Shaped (placements ++ [(target, event, scripts)])
      (opened.placeEvent target event scripts).events.shape := by
  obtain ⟨keys, own, others⟩ := shaped.opened opens
  rw [shape_placeEvent]
  have found : ∀ form : Option (List String), form.isSome = scripts.options?.isSome →
      some (form.map fun _ => Placements.options (placements ++ [(target, event, scripts)]) event) =
        (opened.events.shape.find? event).map
          (Option.map fun names => joinOptions names (scripts.options?.getD [])) := by
    intro form same
    rw [options_concat, if_pos rfl, own]
    revert same
    cases form <;> cases scripts.options? <;> simp
  constructor
  · rw [OrderedMap.keys_modify, keys, events_concat]
  · intro placement member
    rw [OrderedMap.find_modify]
    split
    case isTrue same =>
      rw [same, ← found]
      rcases List.mem_append.mp member with before | last
      · have shape := shaped.options placement before
        rcases openEvent_some opens with ⟨absent, -⟩ | ⟨entry, present, form, -⟩
        · rw [same, EventMap.find_shape, absent] at shape
          cases shape
        · rw [same, EventMap.find_shape, present] at shape
          rw [← form, Option.some.inj shape, Option.isSome_map]
      · rw [List.mem_singleton.mp last]
    case isFalse different =>
      have before : placement ∈ placements := by
        refine (List.mem_append.mp member).resolve_right fun last => different ?_
        rw [List.mem_singleton.mp last]
      rw [others _ different, shaped.options placement before, options_concat,
        if_neg fun same => different same.symm]

/-- A walk to the end shapes the map by all placements; one that breaks off has met an
event in both forms. -/
theorem Shaped.run {placements : List (TargetId × String × EventScripts)} {progress : Progress}
    (shaped : Shaped placements progress.events.shape)
    (rest : List (TargetId × String × EventScripts)) :
    ((progress.run rest).2 = none →
        Shaped (placements ++ rest) (progress.run rest).1.events.shape) ∧
      ∀ fault, (progress.run rest).2 = some fault →
        ∃ first ∈ placements ++ rest, ∃ second ∈ placements ++ rest,
          first.2.1 = second.2.1 ∧ first.2.2.options?.isSome ≠ second.2.2.options?.isSome ∧
            fault = .mixedEvent first.2.1 := by
  induction rest generalizing placements progress with
  | nil =>
    refine ⟨fun _ => by rw [List.append_nil]; exact shaped, fun fault broken => ?_⟩
    cases broken
  | cons placement rest inductionHypothesis =>
    obtain ⟨target, event, scripts⟩ := placement
    unfold Progress.run
    split
    case h_1 refuses =>
      refine ⟨fun done => (Option.some_ne_none _ done).elim, fun fault broken => ?_⟩
      obtain ⟨entry, present, form⟩ := openEvent_none refuses
      have known : event ∈ Placements.events placements := by
        rw [← shaped.events, EventMap.shape, OrderedMap.keys_mapEntries]
        exact OrderedMap.mem_keys_iff.mpr ⟨entry, present⟩
      obtain ⟨earlier, inside, same⟩ := List.mem_map.mp (List.mem_eraseDups.mp known)
      have shape := shaped.options earlier inside
      rw [same, EventMap.find_shape, present] at shape
      refine ⟨earlier, List.mem_append_left _ inside, (target, event, scripts), ?_, same, ?_, ?_⟩
      · exact List.mem_append_right _ List.mem_cons_self
      · rw [Option.some.inj shape, Option.isSome_map] at form
        exact form
      · rw [same]
        exact (Option.some.inj broken).symm
    case h_2 opened opens =>
      have later := inductionHypothesis (shaped.step opens target)
      rwa [List.append_assoc, List.singleton_append] at later

end Linker.Progress

/-- The event map of a linked batch is shaped by the batch. -/
theorem Linker.link_shaped {α : Type} [Scalar α] {batch : Batch} {isLive : TargetId → Bool}
    {ids later : IdSource} {linked : Linked}
    (result : link α batch isLive ids = (.ok linked, later)) :
    Progress.Shaped batch.placements linked.unit.events.shape := by
  have whole := (@Progress.Shaped.run [] ⟨.empty, .empty, ids⟩ .empty batch.placements).1
  unfold link at result
  split at result
  case h_1 => cases result
  case h_2 =>
    split at result
    case h_1 => cases result
    case h_2 progress ran =>
      rw [ran] at whole
      obtain ⟨same, -⟩ := Prod.mk.inj result
      obtain rfl := Except.ok.inj same
      exact whole rfl

end SpriteMachine
