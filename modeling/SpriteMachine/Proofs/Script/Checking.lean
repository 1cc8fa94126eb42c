import SpriteMachine.Script.Linker

/-!
# The check of a batch

A batch lists its code by target, event, option and position. The check before linking
walks it in that order: it gives the first fault that some target or some code has, or the
opcodes of all statements. Each level of the walk joins the verdicts of the level below.
-/

namespace SpriteMachine

/-- The code of a target on an event as it is registered, in order. -/
def EventScripts.registrations (target : TargetId) (event : String) (scripts : EventScripts) :
    List Registration :=
  scripts.fragments.map fun (option, code) => ⟨target, event, option, code⟩

/-- Every piece of code of a batch, by target, event, option and position. -/
def Batch.listing (batch : Batch) : List Registration :=
  batch.placements.flatMap fun (target, event, scripts) => scripts.registrations target event

/-- What a batch lists are the fragments of its placements. -/
theorem Batch.mem_listing {batch : Batch} {registration : Registration} :
    registration ∈ batch.listing ↔ ∃ placement ∈ batch.placements,
      ∃ fragment ∈ placement.2.2.fragments,
        ⟨placement.1, placement.2.1, fragment.1, fragment.2⟩ = registration := by
  simp only [listing, EventScripts.registrations, List.mem_flatMap, List.mem_map]

namespace Linker

variable (α : Type) [Scalar α]

/-- The opcodes of the statements of a text; none when it cannot be read. -/
def called (code : String) : List String :=
  match (Body.parse code : Except SyntaxFault (List (Statement α))) with
  | .error _ => []
  | .ok body => body.map Statement.opcode

/-- The fault of a piece of code, if it cannot be read. -/
def codeFaults (target : TargetId) (event : String) (code : String) : List LinkFault :=
  match (Body.parse code : Except SyntaxFault (List (Statement α))) with
  | .error fault => [.syntaxFault target event fault]
  | .ok _ => []

/-- The faults of targets and their code: each target comes before its code. -/
def offences (isLive : TargetId → Bool) (batch : Batch) : List LinkFault :=
  batch.entries.flatMap fun (target, events) =>
    (if isLive target then [] else [.unknownTarget target]) ++
      events.entries.flatMap fun (event, scripts) =>
        scripts.fragments.flatMap fun fragment => codeFaults α target event fragment.2

variable {α}

/-- The first fault, or the opcodes when there is none. -/
def verdict (faults : List LinkFault) (opcodes : List String) : Except LinkFault (List String) :=
  match faults with
  | [] => .ok opcodes
  | fault :: _ => .error fault

/-- Opcodes that were found before come in front of a verdict without faults. -/
theorem map_verdict (first opcodes : List String) (faults : List LinkFault) :
    (verdict faults opcodes).map (first ++ ·) = verdict faults (first ++ opcodes) := by
  cases faults <;> rfl

/-- Two checks that follow each other are one. -/
theorem verdict_append (faults others : List LinkFault) (opcodes rest : List String) :
    (match verdict faults opcodes with
      | .error fault => .error fault
      | .ok opcodes => (verdict others rest).map (opcodes ++ ·)) =
      verdict (faults ++ others) (opcodes ++ rest) := by
  cases faults with
  | nil => exact map_verdict opcodes rest others
  | cons fault faults => rfl

/-- The verdict about fragments lists their faults, or else the opcodes they call. -/
theorem opcodesOf_eq (target : TargetId) (event : String)
    (fragments : List (Option String × String)) :
    opcodesOf α target event fragments =
      verdict (fragments.flatMap fun fragment => codeFaults α target event fragment.2)
        (fragments.flatMap fun fragment => called α fragment.2) := by
  induction fragments with
  | nil => rfl
  | cons fragment rest inductionHypothesis =>
    rw [opcodesOf, List.flatMap_cons, List.flatMap_cons, called, codeFaults]
    cases (Body.parse fragment.2 : Except SyntaxFault (List (Statement α))) with
    | error fault => rfl
    | ok body => exact (congrArg _ inductionHypothesis).trans (map_verdict _ _ _)

/-- The verdict about events lists the faults of all their fragments, or else the opcodes they
call. -/
theorem checkEvents_eq (target : TargetId) (events : List (String × EventScripts)) :
    checkEvents α target events =
      verdict
        (events.flatMap fun (event, scripts) =>
          scripts.fragments.flatMap fun fragment => codeFaults α target event fragment.2)
        (events.flatMap fun (_, scripts) =>
          scripts.fragments.flatMap fun fragment => called α fragment.2) := by
  induction events with
  | nil => rfl
  | cons first rest inductionHypothesis =>
    rw [checkEvents, opcodesOf_eq, inductionHypothesis, List.flatMap_cons, List.flatMap_cons]
    exact verdict_append _ _ _ _

/-- The check finds the first offence of a batch, or the opcodes of all its code. -/
theorem checkTargets_eq (isLive : TargetId → Bool) (batch : Batch) :
    checkTargets α isLive batch.entries =
      verdict (offences α isLive batch)
        (batch.listing.flatMap fun registration => called α registration.code) := by
  have listed : (batch.listing.flatMap fun registration => called α registration.code) =
      batch.entries.flatMap fun (_, events) => events.entries.flatMap fun (_, scripts) =>
        scripts.fragments.flatMap fun fragment => called α fragment.2 := by
    simp only [Batch.listing, Batch.placements, EventScripts.registrations, List.flatMap_assoc,
      List.flatMap_map]
  rw [listed, offences]
  generalize batch.entries = targets
  induction targets with
  | nil => rfl
  | cons first rest inductionHypothesis =>
    obtain ⟨target, events⟩ := first
    rw [checkTargets, checkEvents_eq, inductionHypothesis, List.flatMap_cons, List.flatMap_cons]
    dsimp only
    cases isLive target with
    | false => rfl
    | true =>
      rw [if_pos rfl, if_pos rfl, List.nil_append]
      exact verdict_append _ _ _ _

/-- A batch passes exactly when it has no offence, with the opcodes of all its code. -/
theorem checkTargets_ok_iff {isLive : TargetId → Bool} {batch : Batch} {opcodes : List String} :
    checkTargets α isLive batch.entries = .ok opcodes ↔
      offences α isLive batch = [] ∧
        opcodes = batch.listing.flatMap fun registration => called α registration.code := by
  rw [checkTargets_eq]
  cases offences α isLive batch with
  | nil => simp [verdict, eq_comm]
  | cons fault rest => simp [verdict]

/-- Code without a fault can be read. -/
theorem codeFaults_eq_nil {target : TargetId} {event code : String} :
    codeFaults α target event code = [] ↔
      ∃ body : List (Statement α), Body.parse code = .ok body := by
  rw [codeFaults]
  cases (Body.parse code : Except SyntaxFault (List (Statement α))) with
  | error fault => simp
  | ok body => simp

/-- A batch has no offence when its targets are live and its code can be read. -/
theorem offences_eq_nil {isLive : TargetId → Bool} {batch : Batch} :
    offences α isLive batch = [] ↔
      (∀ target ∈ batch.keys, isLive target = true) ∧
        ∀ registration ∈ batch.listing,
          ∃ body : List (Statement α), Body.parse registration.code = .ok body := by
  simp only [offences, List.flatMap_eq_nil_iff, List.append_eq_nil_iff, codeFaults_eq_nil,
    Batch.listing, Batch.placements, EventScripts.registrations, OrderedMap.keys]
  constructor
  · intro clear
    constructor
    · intro target member
      obtain ⟨entry, inside, rfl⟩ := List.mem_map.mp member
      simpa using (clear entry inside).1
    · intro registration member
      simp only [List.mem_flatMap, List.mem_map] at member
      obtain ⟨_, ⟨entry, inside, event, present, rfl⟩, fragment, placed, rfl⟩ := member
      exact (clear entry inside).2 event present fragment placed
  · rintro ⟨live, readable⟩ entry inside
    refine ⟨by simp [live entry.1 (List.mem_map.mpr ⟨entry, inside, rfl⟩)], ?_⟩
    intro event present fragment placed
    refine readable ⟨entry.1, event.1, fragment.1, fragment.2⟩ ?_
    simp only [List.mem_flatMap, List.mem_map]
    exact ⟨_, ⟨entry, inside, event, present, rfl⟩, fragment, placed, rfl⟩

end Linker

end SpriteMachine
