import Mathlib.Data.List.Basic
import Mathlib.Data.List.Induction
import SpriteMachine.Proofs.OrderedMap
import SpriteMachine.Worker.PendingTokens

/-!
# Continuations are handed out once

A table of pending tokens is told by its history: a token is pending just when it was
registered and nothing since then ended its wait. Whatever was registered is handed out, dropped
or still pending, and it is one of these once. So a continuation is handed out at most once,
with its own token, and never behind its being dropped.
-/

namespace SpriteMachine

namespace PendingTokens

variable {β : Type}

/-- What is done with a table of pending tokens. -/
inductive Operation (β : Type) where
  | register (token : Token) (continuation : β) (deadline : Option Nat)
  | resolve (token : Token)
  | expire (now : Nat)
  | retain (keep : β → Bool)
  | clear

/-- The table behind an operation. A registration that is refused has no effect. -/
def perform (pending : PendingTokens β) : Operation β → PendingTokens β
  | .register token continuation deadline =>
    (pending.register? token continuation deadline).getD pending
  | .resolve token => (pending.resolve token).2
  | .expire now => (pending.expire now).2
  | .retain keep => pending.retain keep
  | .clear => empty

/-- The table behind a history. -/
def after (pending : PendingTokens β) (history : List (Operation β)) : PendingTokens β :=
  history.foldl perform pending

/-- The table behind a history that began with nothing. -/
abbrev behind (history : List (Operation β)) : PendingTokens β := empty.after history

/-- What waits in a table, with its tokens. -/
def waiting (pending : PendingTokens β) : List (Token × β) :=
  pending.table.entries.map fun (token, awaited) => (token, awaited.continuation)

/-- What an operation takes in. -/
def takenIn (pending : PendingTokens β) : Operation β → List (Token × β)
  | .register token continuation _ =>
    if pending.contains token then [] else [(token, continuation)]
  | _ => []

/-- What an operation hands out. -/
def handedOut (pending : PendingTokens β) : Operation β → List (Token × β)
  | .resolve token => (pending.resolve token).1.toList.map (token, ·)
  | .expire now => (pending.expire now).1
  | _ => []

/-- What an operation drops. -/
def dropped (pending : PendingTokens β) : Operation β → List (Token × β)
  | .retain keep => pending.waiting.filter fun entry => !keep entry.2
  | .clear => pending.waiting
  | _ => []

/-- What a history makes of a table by its operations one after another. -/
def total (entries : PendingTokens β → Operation β → List (Token × β)) :
    PendingTokens β → List (Operation β) → List (Token × β)
  | _, [] => []
  | pending, operation :: rest =>
    entries pending operation ++ total entries (pending.perform operation) rest

/-- Whether an operation ends the wait of a token for its continuation. -/
def Operation.ends (token : Token) (awaited : Awaited β) : Operation β → Bool
  | .register .. => false
  | .resolve other => other = token
  | .expire now => awaited.deadline.any (· ≤ now)
  | .retain keep => !keep awaited.continuation
  | .clear => true

/-- Whether it does so by handing the continuation out. -/
def Operation.delivers (token : Token) (awaited : Awaited β) : Operation β → Bool
  | .resolve other => other = token
  | .expire now => awaited.deadline.any (· ≤ now)
  | _ => false

/-- A continuation was registered while its token was free, and nothing has ended its wait since
then. -/
def Outstanding (history : List (Operation β)) (token : Token) (awaited : Awaited β) : Prop :=
  ∃ before between,
    history = before ++ .register token awaited.continuation awaited.deadline :: between ∧
      (behind before).contains token = false ∧
      ∀ operation ∈ between, operation.ends token awaited = false

variable {pending : PendingTokens β} {token : Token} {awaited : Awaited β} {continuation : β}
  {now : Nat}

/-- The table behind a history is the one behind its last operation. -/
theorem behind_concat (history : List (Operation β)) (operation : Operation β) :
    behind (history ++ [operation]) = (behind history).perform operation :=
  List.foldl_concat perform empty operation history

section Steps

/-- A token is pending exactly when something is found under it. -/
theorem contains_eq_isSome (pending : PendingTokens β) (token : Token) :
    pending.contains token = (pending.table.find? token).isSome :=
  OrderedMap.contains_eq_isSome pending.table token

/-- What is registered is found, and nothing else changes, unless the token is pending. -/
theorem perform_register (pending : PendingTokens β) (token : Token) (continuation : β)
    (deadline : Option Nat) : pending.perform (.register token continuation deadline) =
      if pending.contains token then pending
      else ⟨pending.table.insert token ⟨continuation, deadline⟩⟩ := by
  cases known : pending.contains token <;> simp [perform, register?, known]

/-- A token that is found behind an operation was found before it and its wait goes on, or it
was free and is registered. -/
theorem find_perform_iff (operation : Operation β) :
    (pending.perform operation).table.find? token = some awaited ↔
      (pending.table.find? token = some awaited ∧ operation.ends token awaited = false) ∨
      (pending.contains token = false ∧
        operation = .register token awaited.continuation awaited.deadline) := by
  cases operation with
  | register other continuation deadline =>
    rw [perform_register]
    by_cases same : other = token
    · subst same
      cases found : pending.table.find? other with
      | some present => simp [contains_eq_isSome, found, Operation.ends]
      | none =>
        obtain ⟨expected, moment⟩ := awaited
        simp [contains_eq_isSome, found]
    · cases pending.contains other <;> simp [Operation.ends, same, Ne.symm same]
  | resolve other =>
    by_cases same : token = other
    · simp [perform, resolve, Operation.ends, same]
    · simp [perform, resolve, Operation.ends, same, Ne.symm same]
  | expire now =>
    simp [perform, expire, Operation.ends, Awaited.isDue, Option.filter_eq_some_iff]
  | retain keep =>
    simp [perform, retain, Operation.ends, Option.filter_eq_some_iff]
  | clear => simp [perform, empty, Operation.ends]

/-- What a look at the deadlines hands out are the continuations whose deadline has come. -/
theorem mem_expire : (token, continuation) ∈ (pending.expire now).1 ↔
    ∃ deadline, pending.table.find? token = some ⟨continuation, some deadline⟩ ∧
      deadline ≤ now := by
  simp only [expire, List.mem_map, OrderedMap.filter, List.mem_filter]
  constructor
  · rintro ⟨⟨other, continuation, deadline⟩, ⟨member, due⟩, same⟩
    obtain ⟨rfl, rfl⟩ := Prod.mk.inj same
    cases deadline with
    | none => cases due
    | some deadline =>
      exact ⟨deadline, OrderedMap.mem_entries_iff.mp member, of_decide_eq_true due⟩
  · rintro ⟨deadline, found, late⟩
    exact ⟨_, ⟨OrderedMap.mem_entries_iff.mpr found, decide_eq_true late⟩, rfl⟩

/-- An operation hands out what it finds under its token, or what is due. -/
theorem mem_handedOut_iff (operation : Operation β) :
    (token, continuation) ∈ pending.handedOut operation ↔
      ∃ deadline, pending.table.find? token = some ⟨continuation, deadline⟩ ∧
        operation.delivers token ⟨continuation, deadline⟩ = true := by
  cases operation with
  | resolve other =>
    simp only [handedOut, resolve, Operation.delivers, List.mem_map, Option.mem_toList,
      Option.map_eq_some_iff, Prod.mk.injEq, decide_eq_true_eq]
    constructor
    · rintro ⟨_, ⟨⟨found, deadline⟩, present, rfl⟩, rfl, rfl⟩
      exact ⟨deadline, present, rfl⟩
    · rintro ⟨deadline, present, rfl⟩
      exact ⟨continuation, ⟨_, present, rfl⟩, rfl, rfl⟩
  | expire now =>
    rw [handedOut, mem_expire]
    constructor
    · rintro ⟨deadline, found, late⟩
      exact ⟨some deadline, found, by simpa [Operation.delivers] using late⟩
    · rintro ⟨deadline, found, due⟩
      cases deadline with
      | none => cases due
      | some moment => exact ⟨moment, found, of_decide_eq_true due⟩
  | _ => simp [handedOut, Operation.delivers]

/-- Nobody waits twice under one token. -/
theorem expire_nodup (pending : PendingTokens β) (now : Nat) :
    ((pending.expire now).1.map Prod.fst).Nodup := by
  rw [expire, List.map_map]
  exact OrderedMap.keys_nodup _

/-- A token that is not pending is answered in vain. -/
theorem resolve_absent (absent : pending.table.find? token = none) :
    pending.resolve token = (none, pending) := by
  rw [resolve, absent, OrderedMap.erase_eq_self absent]
  rfl

/-- What waits behind a test passed it. -/
theorem waiting_retain (pending : PendingTokens β) (keep : β → Bool) :
    (pending.retain keep).waiting = pending.waiting.filter fun entry => keep entry.2 := by
  rw [waiting, waiting, List.filter_map]
  rfl

/-- What waited and what is taken in is handed out, dropped, or waits behind the operation. -/
theorem perform_conserves (pending : PendingTokens β) (operation : Operation β) :
    (pending.waiting ++ pending.takenIn operation).Perm
      (pending.handedOut operation ++ pending.dropped operation ++
        (pending.perform operation).waiting) := by
  cases operation with
  | register token continuation deadline =>
    rw [perform_register]
    cases known : pending.contains token with
    | true => simp [takenIn, handedOut, dropped, known]
    | false =>
      have absent : token ∉ pending.table.keys := by
        intro member
        rw [contains, OrderedMap.contains_eq_true.mpr member] at known
        cases known
      simp [takenIn, handedOut, dropped, known, waiting,
        OrderedMap.entries_insert_of_absent absent]
  | resolve token =>
    cases found : pending.table.find? token with
    | none => simp [takenIn, handedOut, dropped, perform, resolve_absent found]
    | some awaited =>
      simpa [takenIn, handedOut, dropped, perform, resolve, found, waiting] using
        (OrderedMap.entries_erase found).map fun (token, awaited) =>
          (token, awaited.continuation)
  | expire now =>
    simpa [takenIn, handedOut, dropped, perform, expire, waiting, OrderedMap.filter] using
      ((List.filter_append_perm (fun entry : Token × Awaited β => Awaited.isDue now entry.2)
        pending.table.entries).map fun (token, awaited) => (token, awaited.continuation)).symm
  | retain keep =>
    rw [perform, waiting_retain]
    simpa [takenIn, handedOut, dropped] using
      ((List.perm_append_comm).trans
        (List.filter_append_perm (fun entry : Token × β => keep entry.2) pending.waiting)).symm
  | clear => simp [takenIn, handedOut, dropped, perform, waiting, empty, OrderedMap.empty]

end Steps

section Histories

/-- A token is pending just when it was registered while it was free, and nothing has ended its
wait since. -/
theorem find_behind_iff (history : List (Operation β)) :
    (behind history).table.find? token = some awaited ↔ Outstanding history token awaited := by
  induction history using List.reverseRecOn with
  | nil => simp [behind, after, empty, Outstanding]
  | append_singleton history operation inductionHypothesis =>
    rw [behind_concat, find_perform_iff, inductionHypothesis]
    constructor
    · rintro (⟨⟨before, between, rfl, free, waits⟩, goesOn⟩ | ⟨free, rfl⟩)
      · refine ⟨before, between ++ [operation], by simp, free, ?_⟩
        intro other member
        rcases List.mem_append.mp member with earlier | last
        · exact waits other earlier
        · rw [List.mem_singleton.mp last]
          exact goesOn
      · exact ⟨history, [], rfl, free, by simp⟩
    · rintro ⟨before, between, split, free, waits⟩
      rcases List.eq_nil_or_concat' between with rfl | ⟨earlier, last, rfl⟩
      · obtain ⟨rfl, same⟩ := List.append_inj' split rfl
        exact Or.inr ⟨free, List.singleton_injective same⟩
      · rw [← List.cons_append, ← List.append_assoc] at split
        obtain ⟨rfl, same⟩ := List.append_inj' split rfl
        obtain rfl := List.singleton_injective same
        exact Or.inl ⟨⟨before, earlier, rfl, free, fun other member =>
          waits other (List.mem_append_left _ member)⟩, waits _ (by simp)⟩

/-- All that waited at first or was taken in on the way is handed out, dropped, or waits at the
end. -/
theorem after_conserves (history : List (Operation β)) (pending : PendingTokens β) :
    (pending.waiting ++ total takenIn pending history).Perm
      (total handedOut pending history ++ total dropped pending history ++
        (pending.after history).waiting) := by
  induction history generalizing pending with
  | nil => simp [total, after]
  | cons operation rest inductionHypothesis =>
    let next := pending.perform operation
    have first := pending.perform_conserves operation
    have later := inductionHypothesis next
    have both : (pending.waiting ++ (pending.takenIn operation ++ total takenIn next rest)).Perm
        (pending.handedOut operation ++ (pending.dropped operation ++ (total handedOut next rest ++
          (total dropped next rest ++ (next.after rest).waiting)))) := by
      have joined := (first.append_right (total takenIn next rest)).trans
        (by simpa [next] using later.append_left (pending.handedOut operation ++
          pending.dropped operation))
      simpa [next] using joined
    -- What is handed out later comes before what is dropped now.
    have sorted := both.trans ((List.perm_append_comm_assoc _ _ _).append_left _)
    simpa [total, after, next] using sorted

end Histories

/-- What becomes of all that was registered along a history. -/
structure Accounts (history : List (Operation β)) : Prop where
  /-- Tokens are pending just when they were registered and nothing has ended their wait since. -/
  pending : ∀ token awaited,
    (behind history).table.find? token = some awaited ↔ Outstanding history token awaited
  /-- A continuation is handed out with the token it was registered under, when its turn comes
  and while it is outstanding, and not otherwise. -/
  handed : ∀ operation token continuation,
    (token, continuation) ∈ (behind history).handedOut operation ↔
      ∃ deadline, Outstanding history token ⟨continuation, deadline⟩ ∧
        operation.delivers token ⟨continuation, deadline⟩ = true
  /-- Every registration was handed out, or dropped, or is pending, and one of these once. -/
  conserved : (total takenIn empty history).Perm
    (total handedOut empty history ++ total dropped empty history ++ (behind history).waiting)
  /-- Where no two registrations are alike, nothing is handed out twice, and nothing that was
  dropped is handed out. -/
  once : (total takenIn empty history).Nodup →
    (total handedOut empty history ++ total dropped empty history).Nodup
  /-- A pending token is not registered again, which leaves the table as it is. -/
  refused : ∀ token awaited, Outstanding history token awaited → ∀ continuation deadline,
    (behind history).register? token continuation deadline = none ∧
      (behind history).perform (.register token continuation deadline) = behind history
  /-- A token that is not pending is answered in vain, and the table stays as it is. -/
  ignored : ∀ token, (∀ awaited, ¬Outstanding history token awaited) →
    (behind history).resolve token = (none, behind history)
  /-- At a moment those are handed out, each once, whose deadline has come. -/
  expired : ∀ now, ((behind history).expire now).1.Nodup ∧ ∀ token continuation,
    (token, continuation) ∈ ((behind history).expire now).1 ↔
      ∃ deadline, Outstanding history token ⟨continuation, some deadline⟩ ∧ deadline ≤ now
  /-- All others stay, and those without a deadline always. -/
  spared : ∀ now token awaited,
    ((behind history).expire now).2.table.find? token = some awaited ↔
      Outstanding history token awaited ∧ ∀ deadline ∈ awaited.deadline, now < deadline

/-- Each pending continuation is delivered at most once. Whatever is registered, answered, given
up, dropped or cleared, all that was registered is accounted for: it is handed out once under its
own token, or dropped, or still pending. -/
theorem continuations_accounted_for (history : List (Operation β)) : Accounts history := by
  have conserved : (total takenIn empty history).Perm
      (total handedOut empty history ++ total dropped empty history ++
        (behind history).waiting) := after_conserves history empty
  constructor
  · intro token awaited
    exact find_behind_iff history
  · intro operation token continuation
    simp only [mem_handedOut_iff, find_behind_iff]
  · exact conserved
  · intro distinct
    exact (conserved.nodup_iff.mp distinct).sublist (List.sublist_append_left _ _)
  · intro token awaited outstanding continuation deadline
    have known : (behind history).contains token = true := by
      rw [contains_eq_isSome, (find_behind_iff history).mpr outstanding, Option.isSome_some]
    constructor
    · rw [register?, if_pos known]
    · rw [perform_register, if_pos known]
  · intro token free
    apply resolve_absent
    apply Option.eq_none_iff_forall_ne_some.mpr
    intro awaited found
    exact free awaited ((find_behind_iff history).mp found)
  · intro now
    refine ⟨(expire_nodup _ now).of_map, fun token continuation => ?_⟩
    simp only [mem_expire, find_behind_iff]
  · intro now token awaited
    have waits : ∀ deadline : Option Nat, deadline.any (· ≤ now) = false ↔
        ∀ moment ∈ deadline, now < moment := by
      rintro (_ | moment) <;> simp
    have step : ((behind history).perform (.expire now)).table.find? token = some awaited ↔ _ :=
      find_perform_iff (.expire now)
    simpa [perform, Operation.ends, find_behind_iff, waits] using step

/-- A late answer finds nothing, and a continuation without a deadline waits on. -/
example : total handedOut (empty : PendingTokens Nat) [.register ⟨"w-0"⟩ 1 (some 10),
    .register ⟨"w-1"⟩ 2 none, .expire 10, .resolve ⟨"w-0"⟩, .resolve ⟨"w-1"⟩] =
      [(⟨"w-0"⟩, 1), (⟨"w-1"⟩, 2)] := by decide

end PendingTokens

end SpriteMachine
