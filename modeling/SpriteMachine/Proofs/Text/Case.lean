import Mathlib.Data.List.Basic
import SpriteMachine.Stage.Target
import SpriteMachine.Text.Case

/-!
# Small letters stay small

The small letter of a capital is nobody's capital. So a text in its small form is left alone:
taking the small form twice is taking it once.

Letter by letter a capital sigma always has the same small letter, though at the end of a word it
is written with another one. Names of effects have neither.
-/

namespace SpriteMachine.Text

namespace CapitalRun

/-- Whether a code is that of a run's capital. -/
def Covers (run : CapitalRun) (code : Nat) : Prop :=
  run.first ≤ code ∧ code ≤ run.last ∧ (code - run.first) % run.stride = 0

/-- The code of the small letter to a capital's. -/
def smallOf (run : CapitalRun) (code : Nat) : Nat := run.small + (code - run.first)

/-- Whether the small letters of a run stand before the capitals of another one, behind them, or
between them. -/
def misses (run other : CapitalRun) : Bool :=
  -- All pairs of runs are tested, so these are tests that the kernel computes at once.
  (run.smallOf run.last).blt other.first || other.last.blt run.small ||
    other.stride.beq 2 && (run.stride.beq 2 || run.first.beq run.last) &&
      ((run.small + other.first) % 2).beq 1

/-- All small letters of a run are characters, and none of them is an ASCII capital, a blank or
the dotted capital I. -/
def Lands (run : CapitalRun) : Prop :=
  (run.smallOf run.last < 0xd800 ∨ 0xdfff < run.small ∧ run.smallOf run.last < 0x110000) ∧
    'a'.toNat ≤ run.small ∧ (run.smallOf run.last < 0x130 ∨ 0x130 < run.small)

instance (run : CapitalRun) : Decidable run.Lands :=
  inferInstanceAs (Decidable ((_ ∨ _ ∧ _) ∧ _ ∧ (_ ∨ _)))

variable {run other : CapitalRun} {code : Nat}

/-- The last small letter of a run is the greatest one. -/
theorem smallOf_le (covers : run.Covers code) : run.smallOf code ≤ run.smallOf run.last := by
  obtain ⟨-, upper, -⟩ := covers
  rw [smallOf, smallOf]
  omega

/-- What misses the capitals of a run is not one of them. -/
theorem not_covers_of_misses (missed : run.misses other = true) (covers : run.Covers code) :
    ¬other.Covers (run.smallOf code) := by
  rintro ⟨lower, upper, even⟩
  have bound := smallOf_le covers
  obtain ⟨first, last, steps⟩ := covers
  simp only [misses, Bool.or_eq_true, Bool.and_eq_true, Nat.blt_eq, Nat.beq_eq] at missed
  rcases missed with (before | behind) | ⟨⟨byTwo, alternate⟩, odd⟩
  · omega
  · rw [smallOf] at upper
    omega
  · rw [byTwo] at even
    rw [smallOf] at even lower
    rcases alternate with apart | alone
    · rw [apart] at steps
      omega
    · omega

/-- A small letter of a run is the character of its code. -/
theorem Lands.toNat_ofNat (lands : run.Lands) (covers : run.Covers code) :
    (Char.ofNat (run.smallOf code)).toNat = run.smallOf code := by
  have bound := smallOf_le covers
  have least : run.small ≤ run.smallOf code := Nat.le_add_right _ _
  have valid : (run.smallOf code).isValidChar := by
    rcases lands.1 with low | ⟨above, high⟩
    · exact Or.inl (by omega)
    · exact Or.inr ⟨by omega, by omega⟩
  rw [Char.ofNat, dif_pos valid]
  rfl

end CapitalRun

open CapitalRun

/-- No small letter of the table is one of its capitals. -/
theorem capitalRuns_miss :
    (capitalRuns.all fun run => capitalRuns.all fun other => run.misses other) = true := by
  decide +kernel

/-- The small letters of every run of the table are where they should be. -/
theorem capitalRuns_land : ∀ run ∈ capitalRuns, run.Lands := by
  decide +kernel

/-- What the small form of a character can be. -/
theorem lowerChar_cases (c : Char) :
    (c.toNat < 0x80 ∧ lowerChar c = [c.toLower]) ∨ lowerChar c = ['i', Char.ofNat 0x307] ∨
      (∃ run ∈ capitalRuns, run.Covers c.toNat ∧
        lowerChar c = [Char.ofNat (run.smallOf c.toNat)]) ∨
      lowerChar c = [c] := by
  rw [lowerChar]
  split
  case isTrue => exact Or.inl ⟨‹_›, rfl⟩
  case isFalse =>
    right
    split
    case isTrue => exact Or.inl rfl
    case isFalse =>
      right
      split
      case h_1 run found =>
        left
        refine ⟨run, List.mem_of_find?_eq_some found, ?_, rfl⟩
        simpa [Covers, and_assoc] using List.find?_some found
      case h_2 => exact Or.inr rfl

/-- A character beyond ASCII that no run covers is left alone. -/
theorem lowerChar_of_uncovered {c : Char} (beyond : 0x80 ≤ c.toNat) (dotless : c.toNat ≠ 0x130)
    (uncovered : ∀ run ∈ capitalRuns, ¬run.Covers c.toNat) : lowerChar c = [c] := by
  have absent : (capitalRuns.find? fun run => run.first ≤ c.toNat && c.toNat ≤ run.last &&
      (c.toNat - run.first) % run.stride = 0) = none := by
    apply List.find?_eq_none.mpr
    intro run member covers
    exact uncovered run member (by simpa [Covers, and_assoc] using covers)
  rw [lowerChar, if_neg (by omega), if_neg dotless, absent]

/-- What an ASCII character is lowered to is left alone. -/
theorem ascii_fixed : ∀ code < 0x80,
    ((lowerChar (Char.ofNat code)).all fun d => lowerChar d = [d]) = true := by
  decide +kernel

/-- ASCII characters behind the capitals are left alone. -/
theorem ascii_small : ∀ code < 0x80, 'a'.toNat ≤ code →
    lowerChar (Char.ofNat code) = [Char.ofNat code] := by
  decide +kernel

/-- Only the space is lowered to a space among ASCII characters. -/
theorem ascii_space : ∀ code < 0x80, ' ' ∈ lowerChar (Char.ofNat code) →
    Char.ofNat code = ' ' := by
  decide +kernel

/-- The small letters of the table are left alone. -/
theorem lowerChar_smallOf {run : CapitalRun} {code : Nat} (listed : run ∈ capitalRuns)
    (covers : run.Covers code) :
    lowerChar (Char.ofNat (run.smallOf code)) = [Char.ofNat (run.smallOf code)] := by
  have lands := capitalRuns_land run listed
  have reads := lands.toNat_ofNat covers
  have bound := smallOf_le covers
  have least : run.small ≤ run.smallOf code := Nat.le_add_right _ _
  obtain ⟨-, letter, dotless⟩ := lands
  by_cases ascii : run.smallOf code < 0x80
  · exact ascii_small _ ascii (Nat.le_trans letter least)
  · apply lowerChar_of_uncovered
    · omega
    · omega
    · intro other member
      rw [reads]
      have missed := List.all_eq_true.mp
        (List.all_eq_true.mp capitalRuns_miss run listed) other member
      exact not_covers_of_misses missed covers

/-- No character of a small form has another small form. -/
theorem lowerChar_of_mem {c d : Char} (member : d ∈ lowerChar c) : lowerChar d = [d] := by
  rcases lowerChar_cases c with ⟨ascii, small⟩ | small | ⟨run, listed, covers, small⟩ | small
  · rw [← Char.ofNat_toNat c] at member
    exact of_decide_eq_true (List.all_eq_true.mp (ascii_fixed _ ascii) d member)
  · rw [small, List.mem_pair] at member
    rcases member with rfl | rfl
    · rfl
    · rfl
  · rw [small, List.mem_singleton] at member
    subst member
    exact lowerChar_smallOf listed covers
  · rw [small, List.mem_singleton] at member
    rw [member, small]

/-- Only a space has a space in its small form. -/
theorem eq_space_of_mem {c : Char} (member : ' ' ∈ lowerChar c) : c = ' ' := by
  rcases lowerChar_cases c with ⟨ascii, small⟩ | small | ⟨run, listed, covers, small⟩ | small
  · rw [← Char.ofNat_toNat c] at member ⊢
    exact ascii_space _ ascii member
  · rw [small] at member
    exact absurd member (by decide)
  · rw [small, List.mem_singleton] at member
    obtain ⟨-, letter, -⟩ := capitalRuns_land run listed
    have reads := (capitalRuns_land run listed).toNat_ofNat covers
    have least : run.small ≤ run.smallOf c.toNat := Nat.le_add_right _ _
    rw [← member] at reads
    exact absurd (Nat.le_trans letter (reads ▸ least)) (by decide)
  · rw [small, List.mem_singleton] at member
    exact member.symm

/-- Taking the small form again changes nothing. -/
theorem lower_lower (text : String) : lower (lower text) = lower text := by
  have twice : ∀ c, (lowerChar c).flatMap lowerChar = lowerChar c := by
    intro c
    calc (lowerChar c).flatMap lowerChar
        = (lowerChar c).flatMap fun d => [d] := List.flatMap_congr fun d => lowerChar_of_mem
      _ = lowerChar c := List.flatMap_singleton' _
  rw [lower, lower, String.toList_ofList, List.flatMap_assoc]
  simp only [twice]

/-- No effect has a sigma in its name, in either small form. -/
theorem effectNames_spare_sigma :
    ∀ name ∈ effectNames, 'σ' ∉ name.toList ∧ 'ς' ∉ name.toList := by
  decide

/-- So a text with a capital sigma names no effect, wherever in a word it stands. -/
theorem lower_sigma {text : String} (capital : 'Σ' ∈ text.toList) : lower text ∉ effectNames := by
  intro named
  have small : 'σ' ∈ (lower text).toList := by
    rw [lower, String.toList_ofList]
    exact List.mem_flatMap.mpr ⟨'Σ', capital, by decide +kernel⟩
  exact (effectNames_spare_sigma _ named).1 small

end SpriteMachine.Text
