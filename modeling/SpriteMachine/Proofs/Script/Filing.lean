import Mathlib.Data.List.Perm.Basic
import SpriteMachine.Proofs.Script.Shape

/-!
# Linking is exact

What stands in an event map is told by the registrations: under each event and option are
the scripts registered there, in order. One piece of code is named, registered and filed at
a time, and its name was not drawn before.

Together with the check and the shape this says that linking is exact. It succeeds when the
batch has no offence and gives no event both with and without options; every piece of code
is then registered once and filed once.
-/

namespace SpriteMachine

/-- The scripts that stand under an option, or without one. -/
def EventEntry.slot : EventEntry → Option String → List (ScriptId × String)
  | scripts codes, none => codes.entries
  | options choices, some option => (choices.find? option).elim [] OrderedMap.entries
  | _, _ => []

/-- A script together with where it stands in an event map. -/
structure Filing where
  script : ScriptId
  event : String
  option : Option String
  code : String
deriving DecidableEq, Repr

/-- The scripts that stand under an event and an option. -/
def EventMap.slot (events : EventMap) (event : String) (option : Option String) :
    List (ScriptId × String) :=
  (events.find? event).elim [] fun entry => entry.slot option

/-- The filings of scripts that stand together. -/
def Filing.together (event : String) (option : Option String) (codes : List (ScriptId × String)) :
    List Filing :=
  codes.map fun entry => ⟨entry.1, event, option, entry.2⟩

/-- The filings of one entry. -/
def EventEntry.filings (event : String) : EventEntry → List Filing
  | scripts codes => Filing.together event none codes.entries
  | options choices => choices.entries.flatMap fun choice =>
      Filing.together event (some choice.1) choice.2.entries

/-- Everything that stands in an event map. -/
def EventMap.filings (events : EventMap) : List Filing :=
  events.entries.flatMap fun entry => entry.2.filings entry.1

namespace Linker

/-- Where the registered scripts are to stand. -/
def filings (registrations : OrderedMap ScriptId Registration) : List Filing :=
  registrations.entries.map fun entry =>
    ⟨entry.1, entry.2.event, entry.2.option, entry.2.code⟩

/-- The registered scripts of an event and an option, in order. -/
def standing (registrations : OrderedMap ScriptId Registration) (event : String)
    (option : Option String) : List (ScriptId × String) :=
  (registrations.entries.filter fun entry =>
      entry.2.event = event ∧ entry.2.option = option).map fun entry => (entry.1, entry.2.code)

end Linker

namespace Linker.Progress

/-- Whether a shape lists an event in the form of an option, and lists the option. -/
def Lists (shape : OrderedMap String (Option (List String))) (event : String) :
    Option String → Prop
  | none => shape.find? event = some none
  | some option => ∃ names, shape.find? event = some (some names) ∧ option ∈ names

/-- Filing a script puts it behind the others of its event and option and leaves the rest
as it is. -/
theorem slot_file {events : EventMap} {event : String} {option : Option String}
    {script : ScriptId} (listed : Lists events.shape event option)
    (fresh : script ∉ (events.slot event option).map Prod.fst) (code : String) (other : String)
    (choice : Option String) :
    (file events event option script code).slot other choice =
      events.slot other choice ++
        if event = other ∧ option = choice then [(script, code)] else [] := by
  rw [file, EventMap.slot, EventMap.slot, OrderedMap.find_modify]
  by_cases same : other = event
  · subst same
    cases option with
    | none =>
      rw [Lists, EventMap.find_shape, Option.map_eq_some_iff] at listed
      obtain ⟨entry, found, plain⟩ := listed
      cases entry with
      | options choices => cases plain
      | scripts codes =>
        simp only [EventMap.slot, found, Option.elim_some, EventEntry.slot] at fresh
        cases choice with
        | none => simp [found, EventEntry.slot, OrderedMap.entries_insert_of_absent fresh]
        | some other => simp [found, EventEntry.slot]
    | some option =>
      rw [Lists] at listed
      obtain ⟨names, shape, member⟩ := listed
      rw [EventMap.find_shape, Option.map_eq_some_iff] at shape
      obtain ⟨entry, found, sorted⟩ := shape
      cases entry with
      | scripts codes => cases sorted
      | options choices =>
        obtain rfl := Option.some.inj sorted
        obtain ⟨codes, standing⟩ := OrderedMap.mem_keys_iff.mp member
        simp only [EventMap.slot, found, Option.elim_some, EventEntry.slot, standing] at fresh
        cases choice with
        | none => simp [found, EventEntry.slot]
        | some choice =>
          by_cases chosen : option = choice
          · subst chosen
            simp [found, EventEntry.slot, standing, OrderedMap.entries_insert_of_absent fresh]
          · have apart : choice ≠ option := fun equal => chosen equal.symm
            simp [found, EventEntry.slot, chosen, apart]
  · have apart : event ≠ other := fun equal => same equal.symm
    rw [if_neg same, if_neg fun both => apart both.1, List.append_nil]

/-- To open an option leaves what is filed. -/
theorem slot_openOption (progress : Progress) (event option other : String)
    (choice : Option String) :
    (progress.openOption event option).events.slot other choice =
      progress.events.slot other choice := by
  rw [openOption, EventMap.slot, EventMap.slot, OrderedMap.find_modify]
  split
  case isTrue =>
    cases progress.events.find? other with
    | none => rfl
    | some entry =>
      cases entry with
      | scripts codes => rfl
      | options choices =>
        cases choice with
        | none => rfl
        | some choice =>
          simp only [Option.map_some, Option.elim_some, EventEntry.slot]
          split
          case isTrue => rfl
          case isFalse absent =>
            rw [OrderedMap.find_insert]
            split
            case isTrue same =>
              have none : choices.find? choice = none := by
                rw [same]
                simpa [OrderedMap.contains_eq_isSome] using absent
              rw [none]
              rfl
            case isFalse => rfl
  case isFalse => rfl

/-- To open an event leaves what is filed. -/
theorem slot_openEvent {progress opened : Progress} {event : String} {scripts : EventScripts}
    (opens : progress.openEvent event scripts = some opened) (other : String)
    (choice : Option String) :
    opened.events.slot other choice = progress.events.slot other choice := by
  rcases openEvent_some opens with ⟨absent, rfl⟩ | ⟨_, -, -, rfl⟩
  · rw [EventMap.slot, EventMap.slot, OrderedMap.find_insert]
    split
    case isTrue same =>
      rw [same, absent]
      cases scripts <;> cases choice <;> rfl
    case isFalse => rfl
  · rfl

/-- What was listed so far is registered in order under fresh names, and the event map
holds just the registered scripts. -/
structure Filed (listing : List Registration) (progress : Progress) : Prop where
  distinct : progress.ids.Distinct
  issued : ∀ script ∈ progress.registrations.keys, progress.ids.Issued script.text
  registered : progress.registrations.values = listing
  slots : ∀ event option,
    progress.events.slot event option = standing progress.registrations event option

/-- A fragment that is placed is filed behind the others. -/
theorem Filed.place {listing : List Registration} {progress : Progress}
    (filed : Filed listing progress) (target : TargetId) {event : String}
    {option : Option String} (listed : Lists progress.events.shape event option) (code : String) :
    Filed (listing ++ [⟨target, event, option, code⟩])
      (progress.place target event option code) := by
  have continues := IdSource.draw_continues progress.ids
    (progress.registrations.keys.map ScriptId.text)
  have drawn := IdSource.draw_issued progress.ids (progress.registrations.keys.map ScriptId.text)
  have fresh := IdSource.draw_fresh filed.distinct
    (progress.registrations.keys.map ScriptId.text)
  rw [Progress.place]
  generalize progress.ids.draw (progress.registrations.keys.map ScriptId.text) = draw at *
  obtain ⟨name, ids⟩ := draw
  have absent : (⟨name⟩ : ScriptId) ∉ progress.registrations.keys :=
    fun member => fresh (filed.issued _ member)
  refine ⟨continues.distinct filed.distinct, ?_, ?_, ?_⟩
  · intro script member
    dsimp only at member
    rw [OrderedMap.keys_insert_of_absent absent, List.mem_append, List.mem_singleton] at member
    rcases member with before | rfl
    · exact continues.issued_of (filed.issued script before)
    · exact drawn
  · dsimp only
    rw [OrderedMap.values, OrderedMap.entries_insert_of_absent absent, List.map_append,
      ← filed.registered]
    rfl
  · intro other choice
    have unfiled : (⟨name⟩ : ScriptId) ∉ (progress.events.slot event option).map Prod.fst := by
      rw [filed.slots, standing, List.map_map]
      intro member
      obtain ⟨entry, inside, same⟩ := List.mem_map.mp member
      exact absent (List.mem_map.mpr ⟨entry, (List.mem_filter.mp inside).1, same⟩)
    dsimp only
    rw [slot_file listed unfiled, filed.slots, standing, standing,
      OrderedMap.entries_insert_of_absent absent, List.filter_append, List.map_append]
    by_cases same : event = other ∧ option = choice <;> simp [same]

/-- Several fragments are filed one after another. -/
theorem Filed.placeAll {listing : List Registration} {progress : Progress}
    (filed : Filed listing progress) (target : TargetId) {event : String}
    {option : Option String} (listed : Lists progress.events.shape event option)
    (codes : List String) :
    Filed (listing ++ codes.map fun code => ⟨target, event, option, code⟩)
      (progress.placeAll target event option codes) := by
  induction codes generalizing listing progress with
  | nil =>
    rw [List.map_nil, List.append_nil]
    exact filed
  | cons code rest inductionHypothesis =>
    have later := inductionHypothesis (filed.place target listed code)
      (by rw [Progress.place]; dsimp only; rwa [shape_file])
    rwa [List.append_assoc] at later

/-- Listing an event or an option files nothing. -/
theorem Filed.relist {listing : List Registration} {progress : Progress}
    (filed : Filed listing progress) {events : EventMap}
    (same : ∀ event option, events.slot event option = progress.events.slot event option) :
    Filed listing { progress with events := events } :=
  ⟨filed.distinct, filed.issued, filed.registered,
    fun event option => (same event option).trans (filed.slots event option)⟩

/-- The code of a placement is filed once its event is listed in its form. -/
theorem Filed.placeEvent {listing : List Registration} {progress : Progress}
    (filed : Filed listing progress) (target : TargetId) {event : String}
    {scripts : EventScripts} {form : Option (List String)}
    (listed : progress.events.shape.find? event = some form)
    (same : form.isSome = scripts.options?.isSome) :
    Filed (listing ++ scripts.registrations target event)
      (progress.placeEvent target event scripts) := by
  cases scripts with
  | plain codes =>
    have plain : form = none := by simpa [EventScripts.options?] using same
    rw [EventScripts.registrations, EventScripts.fragments, List.map_map]
    rw [plain] at listed
    have lists : Lists progress.events.shape event none := listed
    exact filed.placeAll target lists codes
  | options choices =>
    obtain ⟨names, rfl⟩ := Option.isSome_iff_exists.mp (same.trans rfl)
    simp only [Progress.placeEvent, EventScripts.registrations, EventScripts.fragments]
    generalize choices.entries = entries
    clear same
    induction entries generalizing listing progress names with
    | nil => simpa using filed
    | cons choice rest inductionHypothesis =>
      have opening : (progress.openOption event choice.1).events.shape.find? event =
          some (some (joinOptions names [choice.1])) := by
        rw [shape_openOption, OrderedMap.find_modify, if_pos rfl, listed]
        rfl
      have offers : Lists (progress.openOption event choice.1).events.shape event
          (some choice.1) := by
        refine ⟨_, opening, ?_⟩
        by_cases known : choice.1 ∈ names <;> simp [joinOptions, known]
      have opened : Filed listing (progress.openOption event choice.1) :=
        filed.relist (slot_openOption progress event choice.1)
      have later := inductionHypothesis (opened.placeAll target offers choice.2) _
        ((congrArg (·.find? event)
        (shape_placeAll _ target event (some choice.1) choice.2)).trans opening)
      simpa [List.flatMap_cons, Function.comp_def] using later

/-- All placements are filed in their order. -/
theorem Filed.run {listing : List Registration} {progress : Progress}
    (filed : Filed listing progress) {placements : List (TargetId × String × EventScripts)}
    (done : (progress.run placements).2 = none) :
    Filed (listing ++ placements.flatMap fun (target, event, scripts) =>
        scripts.registrations target event) (progress.run placements).1 := by
  induction placements generalizing listing progress with
  | nil =>
    rw [List.flatMap_nil, List.append_nil]
    exact filed
  | cons placement rest inductionHypothesis =>
    obtain ⟨target, event, scripts⟩ := placement
    unfold Progress.run at done ⊢
    split
    case h_1 refuses =>
      rw [refuses] at done
      cases done
    case h_2 opened opens =>
      rw [opens] at done
      obtain ⟨form, listed, same⟩ := openEvent_form opens
      have relisted : Filed listing opened := by
        have slots := slot_openEvent opens
        rcases openEvent_some opens with ⟨-, rfl⟩ | ⟨-, -, -, rfl⟩
        · exact filed.relist slots
        · exact filed
      have later := inductionHypothesis (relisted.placeEvent target listed same) done
      rwa [List.append_assoc] at later

end Linker.Progress

/-- Codes filed together are counted under their event and option only. -/
theorem Filing.count_together (event : String) (option : Option String)
    (codes : List (ScriptId × String)) (filing : Filing) :
    (together event option codes).count filing =
      if event = filing.event ∧ option = filing.option then
        codes.count (filing.script, filing.code) else 0 := by
  have alike : ∀ entry : ScriptId × String, (⟨entry.1, event, option, entry.2⟩ : Filing) = filing ↔
      (event = filing.event ∧ option = filing.option) ∧
        entry = (filing.script, filing.code) := by
    rintro ⟨script, code⟩
    obtain ⟨_, _, _, _⟩ := filing
    simp only [Filing.mk.injEq, Prod.mk.injEq]
    tauto
  induction codes with
  | nil => simp [together]
  | cons first rest inductionHypothesis =>
    rw [together] at inductionHypothesis ⊢
    rw [List.map_cons, List.count_cons, inductionHypothesis, List.count_cons]
    simp only [beq_iff_eq, alike]
    by_cases here : event = filing.event ∧ option = filing.option <;> simp [here]

/-- A filing stands in an entry as often as its script stands in its slot. -/
theorem EventEntry.count_filings (entry : EventEntry) (event : String) (filing : Filing) :
    (entry.filings event).count filing =
      if event = filing.event then
        (entry.slot filing.option).count (filing.script, filing.code) else 0 := by
  cases entry with
  | scripts codes =>
    rw [filings, Filing.count_together]
    cases filing.option <;> simp [slot]
  | options choices =>
    cases named : filing.option with
    | none => simp [filings, List.count_flatMap, slot, Filing.count_together, named,
        Function.comp_def]
    | some option =>
      refine (choices.count_held (fun option codes =>
        Filing.together event (some option) codes.entries) option filing ?_).trans ?_
      · intro other codes different
        rw [Filing.count_together, named, if_neg]
        exact fun both => different (Option.some.inj both.2)
      · cases found : choices.find? option with
        | none => simp [slot, found]
        | some codes => simp [slot, found, Filing.count_together, named]

/-- A filing stands in an event map as often as its script stands in its slot. -/
theorem EventMap.count_filings (events : EventMap) (filing : Filing) :
    events.filings.count filing =
      (events.slot filing.event filing.option).count (filing.script, filing.code) := by
  refine (events.count_held
    (fun event entry => entry.filings event) filing.event filing ?_).trans ?_
  · intro other entry different
    rw [EventEntry.count_filings, if_neg different]
  · rw [slot]
    cases events.find? filing.event with
    | none => rfl
    | some entry => simp [EventEntry.count_filings]

namespace Linker

/-- A script is registered for an event and an option as often as it has to stand there. -/
theorem count_filings (registrations : OrderedMap ScriptId Registration) (filing : Filing) :
    (filings registrations).count filing =
      (standing registrations filing.event filing.option).count (filing.script, filing.code) := by
  rw [filings, standing]
  induction registrations.entries with
  | nil => rfl
  | cons first rest inductionHypothesis =>
    obtain ⟨script, event, option, code⟩ := filing
    rw [List.map_cons, List.count_cons, inductionHypothesis, List.filter_cons]
    by_cases same : first.2.event = event ∧ first.2.option = option
    · simp [same, List.count_cons]
    · have apart : ¬ (first.1 = script ∧ first.2.event = event ∧ first.2.option = option ∧
          first.2.code = code) := fun all => same ⟨all.2.1, all.2.2.1⟩
      simp [same, apart]

/-- What is filed is what is registered. -/
theorem Progress.Filed.filings_perm {listing : List Registration} {progress : Progress}
    (filed : Filed listing progress) :
    (EventMap.filings progress.events).Perm (filings progress.registrations) := by
  rw [List.perm_iff_count]
  intro filing
  rw [EventMap.count_filings, count_filings, filed.slots]

/-- A linked batch: its code is registered once and in order under distinct names, the
event map holds the registered scripts and nothing else, its events and options are those
of the batch, and the opcodes are those of all statements. -/
structure Exact (α : Type) [Scalar α] (batch : Batch) (linked : Linked) : Prop where
  registered : linked.registrations.values = batch.listing
  distinct : linked.registrations.keys.Nodup
  filed : (EventMap.filings linked.unit.events).Perm (filings linked.registrations)
  ordered : ∀ event option, EventMap.slot linked.unit.events event option =
    standing linked.registrations event option
  events : linked.unit.events.keys = Placements.events batch.placements
  options : ∀ placement ∈ batch.placements,
    (linked.unit.events.find? placement.2.1).map EventEntry.options? = some
      (placement.2.2.options?.map fun _ => Placements.options batch.placements placement.2.1)
  opcodes : linked.opcodes =
    (batch.listing.flatMap fun registration => called α registration.code).eraseDups

/-- Naming a batch to the end files all of it; breaking off, it has met an event in both
forms. -/
theorem Progress.run_exact (batch : Batch) {ids : IdSource} (distinct : ids.Distinct) :
    ((Progress.run ⟨.empty, .empty, ids⟩ batch.placements).2 = none →
        Progress.Shaped batch.placements
            (Progress.run ⟨.empty, .empty, ids⟩ batch.placements).1.events.shape ∧
          Progress.Filed batch.listing
            (Progress.run ⟨.empty, .empty, ids⟩ batch.placements).1) ∧
      ∀ fault, (Progress.run ⟨.empty, .empty, ids⟩ batch.placements).2 = some fault →
        ∃ first ∈ batch.placements, ∃ second ∈ batch.placements,
          first.2.1 = second.2.1 ∧ first.2.2.options?.isSome ≠ second.2.2.options?.isSome ∧
            fault = .mixedEvent first.2.1 := by
  have filed : Progress.Filed [] ⟨.empty, .empty, ids⟩ :=
    ⟨distinct, fun _ member => (List.not_mem_nil member).elim, rfl, fun _ _ => rfl⟩
  have run := @Progress.Shaped.run [] ⟨.empty, .empty, ids⟩ .empty batch.placements
  exact ⟨fun done => ⟨run.1 done, filed.run done⟩, run.2⟩

/-- Linking a batch is exact. It succeeds when every target is live, all code can be read
and no event is given in both forms. What it gives then is the batch, registered and filed
once. A fault is the first one in the order of the batch; only when there is none is it an
event in both forms. -/
theorem link_exact (α : Type) [Scalar α] (batch : Batch) (isLive : TargetId → Bool) {ids : IdSource}
    (distinct : ids.Distinct) :
    ((∃ linked, (link α batch isLive ids).1 = .ok linked) ↔
        (∀ target ∈ batch.keys, isLive target = true) ∧
          (∀ registration ∈ batch.listing,
            ∃ body : List (Statement α), Body.parse registration.code = .ok body) ∧
          batch.Uniform) ∧
      (∀ linked, (link α batch isLive ids).1 = .ok linked → Exact α batch linked) ∧
      ∀ fault, (link α batch isLive ids).1 = .error fault →
        (offences α isLive batch).head? = some fault ∨
          offences α isLive batch = [] ∧
            ∃ first ∈ batch.placements, ∃ second ∈ batch.placements,
              first.2.1 = second.2.1 ∧ first.2.2.options?.isSome ≠ second.2.2.options?.isSome ∧
                fault = .mixedEvent first.2.1 := by
  obtain ⟨whole, broken⟩ := Progress.run_exact batch distinct
  have faultless : (∀ target ∈ batch.keys, isLive target = true) ∧
      (∀ registration ∈ batch.listing,
        ∃ body : List (Statement α), Body.parse registration.code = .ok body) ∧
      batch.Uniform ↔ offences α isLive batch = [] ∧ batch.Uniform := by
    rw [offences_eq_nil, and_assoc]
  rw [faultless, link, checkTargets_eq]
  cases offends : offences α isLive batch with
  | cons fault rest =>
    refine ⟨iff_of_false (by rintro ⟨_, passed⟩; cases passed) fun clear => ?_, ?_, ?_⟩
    · cases clear.1
    · intro linked passed
      cases passed
    · intro other failed
      exact Or.inl (congrArg some (Except.error.inj failed))
  | nil =>
    simp only [verdict]
    generalize Progress.run ⟨.empty, .empty, ids⟩ batch.placements = ran at whole broken
    obtain ⟨progress, result⟩ := ran
    cases result with
    | some fault =>
      obtain ⟨first, before, second, after, same, mixed, named⟩ := broken fault rfl
      refine ⟨iff_of_false (by rintro ⟨_, passed⟩; cases passed) fun clear => ?_, ?_, ?_⟩
      · exact mixed (clear.2 first before second after same)
      · intro linked passed
        cases passed
      · intro other failed
        obtain rfl := Except.error.inj failed
        exact Or.inr ⟨trivial, first, before, second, after, same, mixed, named⟩
    | none =>
      obtain ⟨shaped, filed⟩ := whole rfl
      refine ⟨iff_of_true ⟨_, rfl⟩ ⟨trivial, ?_⟩, ?_, ?_⟩
      · exact fun first before second after same => shaped.uniform before after same
      · intro linked passed
        obtain rfl := Except.ok.inj passed
        refine ⟨filed.registered, OrderedMap.keys_nodup _, filed.filings_perm, filed.slots, ?_, ?_,
          rfl⟩
        · rw [← shaped.events, EventMap.shape, OrderedMap.keys_mapEntries]
        · intro placement inside
          rw [← EventMap.find_shape]
          exact shaped.options placement inside
      · intro fault failed
        cases failed

/-- A linked batch is registered as it is listed, and all of it is for live targets. -/
theorem link_listed {α : Type} [Scalar α] {batch : Batch} {isLive : TargetId → Bool}
    {ids later : IdSource} {linked : Linked} (distinct : ids.Distinct)
    (result : link α batch isLive ids = (.ok linked, later)) :
    linked.registrations.values = batch.listing ∧
      ∀ registration ∈ batch.listing, isLive registration.target = true := by
  have whole := (Progress.run_exact batch distinct).1
  unfold link at result
  split at result
  case h_1 => cases result
  case h_2 opcodes passed =>
    obtain ⟨live, -⟩ := offences_eq_nil.mp (checkTargets_ok_iff.mp passed).1
    split at result
    case h_1 => cases result
    case h_2 progress ran =>
      rw [ran] at whole
      obtain ⟨same, -⟩ := Prod.mk.inj result
      obtain rfl := Except.ok.inj same
      refine ⟨(whole rfl).2.registered, fun registration member => live registration.target ?_⟩
      obtain ⟨placement, present, fragment, -, rfl⟩ := Batch.mem_listing.mp member
      obtain ⟨entry, inside, placed⟩ := List.mem_flatMap.mp present
      obtain ⟨event, -, rfl⟩ := List.mem_map.mp placed
      exact List.mem_map.mpr ⟨entry, inside, rfl⟩

/-- Two targets that share an event and an option, with an option and an event that have no
code. -/
def sharedEvents : Batch :=
  .ofList [
    (⟨"cat"⟩, .ofList [
      ("flag", .plain ["motion_movesteps STEPS=10", "looks_show\nlooks_hide"]),
      ("key", .options (.ofList [("space", ["looks_hide"]), ("up", [])]))]),
    (⟨"dog"⟩, .ofList [
      ("clone", .plain []),
      ("key", .options (.ofList [("left", ["looks_show"]), ("space", ["looks_nextcostume"])])),
      ("flag", .plain ["looks_show"])])]

/-- Linking merges the two targets and keeps what has no code. -/
theorem sharedEvents_exact : IdSource.numbered.Distinct ∧
    ∃ linked, (link Rat sharedEvents (fun _ => true) .numbered).1 = .ok linked ∧
      Exact Rat sharedEvents linked ∧
      linked.registrations.values = [
        ⟨⟨"cat"⟩, "flag", none, "motion_movesteps STEPS=10"⟩,
        ⟨⟨"cat"⟩, "flag", none, "looks_show\nlooks_hide"⟩,
        ⟨⟨"cat"⟩, "key", some "space", "looks_hide"⟩,
        ⟨⟨"dog"⟩, "key", some "left", "looks_show"⟩,
        ⟨⟨"dog"⟩, "key", some "space", "looks_nextcostume"⟩,
        ⟨⟨"dog"⟩, "flag", none, "looks_show"⟩] ∧
      linked.unit.events.keys = ["flag", "key", "clone"] ∧
      linked.opcodes =
        ["motion_movesteps", "looks_show", "looks_hide", "looks_nextcostume"] := by
  refine ⟨IdSource.numbered_distinct, ?_⟩
  obtain ⟨-, exact, -⟩ := link_exact Rat sharedEvents (fun _ => true)
    IdSource.numbered_distinct
  cases passed : (link Rat sharedEvents (fun _ => true) .numbered).1 with
  | error fault =>
    have linked : (link Rat sharedEvents (fun _ => true) .numbered).1.isOk = true := by
      decide +kernel
    rw [passed] at linked
    cases linked
  | ok linked =>
    have whole := exact linked passed
    refine ⟨linked, rfl, whole, whole.registered.trans ?_, whole.events.trans ?_,
      whole.opcodes.trans ?_⟩
    all_goals decide +kernel

end Linker

end SpriteMachine
