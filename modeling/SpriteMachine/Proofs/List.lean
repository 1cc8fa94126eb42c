import Mathlib.Data.List.Forall2

/-!
# Lists

What the theory asks of lists in general: related lists, what is chosen on the way through a
list, the first occurrences in it, and a run of items at its head.
-/

namespace SpriteMachine

variable {β γ : Type}

/-- Whatever stands on the right is related to something on the left. -/
theorem exists_of_forall₂ {related : β → γ → Prop} {left : List β} {right : List γ}
    (pairs : List.Forall₂ related left right) {item : γ} (member : item ∈ right) :
    ∃ other ∈ left, related other item := by
  induction pairs with
  | nil => cases member
  | cons first rest inductionHypothesis =>
    rcases List.mem_cons.mp member with rfl | later
    · exact ⟨_, List.mem_cons_self, first⟩
    · obtain ⟨other, present, relates⟩ := inductionHypothesis later
      exact ⟨other, List.mem_cons_of_mem _ present, relates⟩

/-- Choosing while going through a list is choosing first. -/
theorem flatMap_chosen (items : List β) (chosen : β → Bool) (build : β → γ) :
    (items.flatMap fun item => if chosen item then [build item] else []) =
      (items.filter chosen).map build := by
  induction items with
  | nil => rfl
  | cons first rest inductionHypothesis =>
    rw [List.flatMap_cons, inductionHypothesis, List.filter_cons]
    cases chosen first <;> rfl

/-- The first occurrences in a list with one more item. -/
theorem eraseDups_concat [DecidableEq β] (items : List β) (item : β) :
    (items ++ [item]).eraseDups =
      if item ∈ items then items.eraseDups else items.eraseDups ++ [item] := by
  rw [List.eraseDups_append]
  by_cases listed : item ∈ items <;> simp [List.removeAll, List.eraseDups_cons, listed]

/-- A run of items is taken up to where it ends, and the rest is left. -/
theorem takeWhile_run {holds : β → Bool} {run rest : List β}
    (every : ∀ item ∈ run, holds item = true) (ends : ∀ item ∈ rest.head?, holds item = false) :
    (run ++ rest).takeWhile holds = run ∧ (run ++ rest).dropWhile holds = rest := by
  rw [List.takeWhile_append_of_pos every, List.dropWhile_append_of_pos every]
  cases rest with
  | nil => simp
  | cons item others =>
    have stops := ends item (by simp)
    simp [stops]

end SpriteMachine
