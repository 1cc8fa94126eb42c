import Mathlib.Data.List.Perm.Subperm
import SpriteMachine.Identifier

/-!
# Names that are never issued twice

A source of names only moves forward: what it draws was not issued before and is
issued afterwards. The assumption is that its candidates never repeat. Tokens need
no assumption, since different numbers have different texts.
-/

namespace SpriteMachine

namespace IdSource

/-- Whether a name is among the candidates that were drawn so far. -/
def Issued (source : IdSource) (name : String) : Prop :=
  ∃ number, number < source.issued ∧ source.name number = name

/-- The candidates of a source never repeat. -/
def Distinct (source : IdSource) : Prop :=
  ∀ left right, source.name left = source.name right → left = right

/-- A source is a later state of another one: it has the same candidates and has
issued at least as many. -/
structure Continues (earlier later : IdSource) : Prop where
  name : later.name = earlier.name
  issued : earlier.issued ≤ later.issued

/-- Every source is a later state of itself. -/
theorem Continues.refl (source : IdSource) : Continues source source := ⟨rfl, Nat.le_refl _⟩

/-- A later state of a later state is a later state. -/
theorem Continues.trans {first second third : IdSource} (before : Continues first second)
    (after : Continues second third) : Continues first third :=
  ⟨after.name.trans before.name, Nat.le_trans before.issued after.issued⟩

/-- What was issued stays issued. -/
theorem Continues.issued_of {earlier later : IdSource} (continues : Continues earlier later)
    {name : String} (issued : earlier.Issued name) : later.Issued name := by
  obtain ⟨number, below, named⟩ := issued
  exact ⟨number, Nat.lt_of_lt_of_le below continues.issued, continues.name ▸ named⟩

/-- The candidates of a source are those of its later states. -/
theorem Continues.distinct_iff {earlier later : IdSource} (continues : Continues earlier later) :
    later.Distinct ↔ earlier.Distinct := by
  rw [Distinct, Distinct, continues.name]

/-- A source keeps its distinct candidates. -/
theorem Continues.distinct {earlier later : IdSource} (continues : Continues earlier later)
    (distinct : earlier.Distinct) : later.Distinct :=
  continues.distinct_iff.mpr distinct

/-- A search for a free candidate issues the candidate it returns, and that candidate
comes behind all those issued before. -/
theorem drawFrom_candidate (taken : List String) (steps : Nat) (source : IdSource) :
    Continues source (drawFrom taken steps source).2 ∧
      ∃ number, source.issued ≤ number ∧ number < (drawFrom taken steps source).2.issued ∧
        (drawFrom taken steps source).1 = source.name number := by
  induction steps generalizing source with
  | zero =>
    exact ⟨⟨rfl, Nat.le_succ _⟩, source.issued, Nat.le_refl _, Nat.lt_succ_self _, rfl⟩
  | succ steps inductionHypothesis =>
    rw [drawFrom]
    split
    case isTrue =>
      obtain ⟨continues, number, above, below, named⟩ := inductionHypothesis
        { source with issued := source.issued + 1, collisions := source.collisions + 1 }
      exact ⟨⟨continues.name, Nat.le_of_succ_le continues.issued⟩, number,
        Nat.le_of_succ_le above, below, named⟩
    case isFalse =>
      exact ⟨⟨rfl, Nat.le_succ _⟩, source.issued, Nat.le_refl _, Nat.lt_succ_self _, rfl⟩

/-- Drawing moves a source forward. -/
theorem draw_continues (source : IdSource) (taken : List String) :
    Continues source (source.draw taken).2 :=
  (drawFrom_candidate taken taken.length source).1

/-- A drawn name is issued. -/
theorem draw_issued (source : IdSource) (taken : List String) :
    (source.draw taken).2.Issued (source.draw taken).1 := by
  obtain ⟨continues, number, -, below, named⟩ := drawFrom_candidate taken taken.length source
  exact ⟨number, below, by rw [draw, named, continues.name]⟩

/-- A drawn name was not issued before. -/
theorem draw_fresh {source : IdSource} (distinct : source.Distinct) (taken : List String) :
    ¬ source.Issued (source.draw taken).1 := by
  obtain ⟨-, number, above, -, named⟩ := drawFrom_candidate taken taken.length source
  rintro ⟨earlier, below, same⟩
  rw [draw, named] at same
  have equal : earlier = number := distinct _ _ same
  omega

/-- The next candidate is not among those tried before. -/
theorem next_not_tried {source : IdSource} (distinct : source.Distinct) {tried : List String}
    (issued : ∀ name ∈ tried, source.Issued name) : source.name source.issued ∉ tried := by
  intro member
  obtain ⟨number, below, same⟩ := issued _ member
  have equal : number = source.issued := distinct _ _ same
  omega

/-- A search that may try as many candidates as there are taken names finds one that is not
taken. -/
theorem drawFrom_not_taken {taken : List String} {steps : Nat} {source : IdSource}
    (distinct : source.Distinct) {tried : List String} (once : tried.Nodup)
    (issued : ∀ name ∈ tried, source.Issued name) (within : ∀ name ∈ tried, name ∈ taken)
    (enough : taken.length ≤ tried.length + steps) : (drawFrom taken steps source).1 ∉ taken := by
  induction steps generalizing source tried with
  | zero =>
    intro member
    have longer := List.nodup_cons.mpr ⟨next_not_tried distinct issued, once⟩
    have many := (List.subperm_of_subset longer
      (List.forall_mem_cons.mpr ⟨member, within⟩)).length_le
    rw [List.length_cons] at many
    omega
  | succ steps inductionHypothesis =>
    rw [drawFrom]
    split
    case isTrue member =>
      have continues : Continues source
          { source with issued := source.issued + 1, collisions := source.collisions + 1 } :=
        ⟨rfl, Nat.le_succ _⟩
      refine inductionHypothesis (continues.distinct distinct)
        (List.nodup_cons.mpr ⟨next_not_tried distinct issued, once⟩) ?_
        (List.forall_mem_cons.mpr ⟨member, within⟩) ?_
      · exact List.forall_mem_cons.mpr ⟨⟨source.issued, Nat.lt_succ_self _, rfl⟩,
          fun name known => continues.issued_of (issued name known)⟩
      · rw [List.length_cons]
        omega
    case isFalse => assumption

/-- A drawn name is not among the taken ones. -/
theorem draw_not_taken {source : IdSource} (distinct : source.Distinct) (taken : List String) :
    (source.draw taken).1 ∉ taken :=
  drawFrom_not_taken distinct List.nodup_nil (fun _ none => (List.not_mem_nil none).elim)
    (fun _ none => (List.not_mem_nil none).elim) (Nat.le_add_left _ _)

end IdSource

/-- Numbers that are written alike behind a text are the same. -/
theorem numbers_eq {lead : String} {left right : Nat}
    (same : lead ++ toString left = lead ++ toString right) : left = right := by
  have digits : left.repr.toList = right.repr.toList := by
    have lists := congrArg String.toList same
    simpa only [String.toList_append, List.append_cancel_left_eq, Nat.toString_eq_repr] using lists
  rw [Nat.toList_repr, Nat.toList_repr] at digits
  rw [← Nat.ofDigitChars_ten_toDigits (n := left), digits, Nat.ofDigitChars_ten_toDigits]

/-- The numbered names never repeat. -/
theorem IdSource.numbered_distinct : IdSource.numbered.Distinct :=
  fun _ _ same => numbers_eq same

/-- Leading zeros do not change a number. -/
theorem value_safeName (number : Nat) :
    Nat.ofDigitChars 10 (IdSource.safeName number).toList.tail 0 = number := by
  rw [IdSource.safeName, String.toList_ofList, List.cons_append, List.tail_cons,
    Nat.ofDigitChars_append, Nat.ofDigitChars_replicate_zero, Nat.mul_zero,
    Nat.ofDigitChars_ten_toDigits]

/-- The safe identifiers never repeat. -/
theorem IdSource.safe_distinct : IdSource.safe.Distinct := by
  intro left right same
  have names : safeName left = safeName right := same
  rw [← value_safeName left, names, value_safeName]

namespace TokenSource

/-- The tokens of different numbers differ. -/
theorem token_injective {lead : String} {left right : Nat}
    (same : token lead left = token lead right) : left = right :=
  numbers_eq (Token.mk.inj same)

/-- Whether a source has issued a token. -/
def HasIssued (source : TokenSource) (awaited : Token) : Prop :=
  ∃ number, number < source.issued ∧ token source.lead number = awaited

/-- The next token was not issued before. -/
theorem next_fresh (source : TokenSource) : ¬ source.HasIssued source.next.1 := by
  rintro ⟨number, below, same⟩
  have equal : number = source.issued := token_injective same
  omega

/-- The next token is issued afterwards. -/
theorem next_issued (source : TokenSource) : source.next.2.HasIssued source.next.1 :=
  ⟨source.issued, Nat.lt_succ_self _, rfl⟩

/-- What was issued stays issued. -/
theorem HasIssued.next {source : TokenSource} {awaited : Token}
    (issued : source.HasIssued awaited) : source.next.2.HasIssued awaited := by
  obtain ⟨number, below, same⟩ := issued
  exact ⟨number, Nat.lt_succ_of_lt below, same⟩

end TokenSource

end SpriteMachine
