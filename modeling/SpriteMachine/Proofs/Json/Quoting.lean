import SpriteMachine.Json.Reader
import SpriteMachine.Json.Writer

/-!
# A quoted text reads back

The reader takes a string literal apart into the characters that were quoted: each
escape stands for one character, and every other character stands for itself.
-/

namespace SpriteMachine.Json

/-- A hexadecimal digit that was written reads as its value. -/
theorem hexDigit_digitChar {value : Nat} (below : value < 16) :
    Text.hexDigit? (Nat.digitChar value) = some value := by
  have every : ∀ digit : Fin 16, Text.hexDigit? (Nat.digitChar digit) = some digit.val := by decide
  exact every ⟨value, below⟩

/-- The code of a control character reads back behind its escape's letter. -/
theorem readUnicode_hexPair {c : Char} (control : c.toNat < 0x20) (rest : List Char) :
    readUnicode? ('0' :: '0' :: (hexPair c.toNat ++ rest)) = some (some c, rest) := by
  have zero : Text.hexDigit? '0' = some 0 := by decide
  have high : Text.hexDigit? (Nat.digitChar (c.toNat / 16 % 16)) = some (c.toNat / 16 % 16) :=
    hexDigit_digitChar (Nat.mod_lt _ (by decide))
  have low : Text.hexDigit? (Nat.digitChar (c.toNat % 16)) = some (c.toNat % 16) :=
    hexDigit_digitChar (Nat.mod_lt _ (by decide))
  have code : ((0 * 16 + 0) * 16 + c.toNat / 16 % 16) * 16 + c.toNat % 16 = c.toNat := by omega
  have read : readHex? ('0' :: '0' :: (hexPair c.toNat ++ rest)) = some (c.toNat, rest) := by
    simp only [hexPair, List.cons_append, List.nil_append, readHex?, zero, high, low, code]
  have notLeading : isLeading c.toNat = false := by
    simp only [isLeading, Bool.and_eq_false_iff, decide_eq_false_iff_not]
    omega
  have notTrailing : isTrailing c.toNat = false := by
    simp only [isTrailing, Bool.and_eq_false_iff, decide_eq_false_iff_not]
    omega
  have same : Char.ofNat c.toNat = c := by simp
  simp only [readUnicode?, read, notLeading, notTrailing, same, Bool.false_eq_true, if_false]

/-- A character as it is quoted is read in one step. -/
theorem readString_escaped (fuel : Nat) (read : List Char) (c : Char) (rest : List Char) :
    readString? (fuel + 1) (some read) (escaped c ++ rest) =
      readString? fuel (some (c :: read)) rest := by
  unfold escaped
  split
  case h_8 c quote backslash _ _ _ _ _ =>
    split
    case isTrue control =>
      simp only [List.cons_append, List.nil_append, readString?, readUnicode_hexPair control]
    case isFalse plain =>
      rw [List.cons_append, List.nil_append, readString?.eq_def]
      dsimp only
      split
      case h_1 none => cases none
      case h_2 same => exact absurd (List.cons.inj same).1 quote
      case h_3 same => exact absurd (List.cons.inj same).1 backslash
      case h_4 same => exact absurd (List.cons.inj same).1 backslash
      case h_5 same => exact absurd (List.cons.inj same).1 backslash
      case h_6 same =>
        obtain ⟨rfl, rfl⟩ := List.cons.inj same
        rw [if_neg plain]
        rfl
  all_goals rfl

/-- What was quoted is read up to its closing quote. -/
theorem readString_quoted (fuel : Nat) (text read rest : List Char)
    (enough : text.length < fuel) :
    readString? fuel (some read) (text.flatMap escaped ++ '"' :: rest) =
      some (some (String.ofList (read.reverse ++ text)), rest) := by
  induction text generalizing fuel read with
  | nil =>
    obtain ⟨less, rfl⟩ : ∃ less, fuel = less + 1 := ⟨fuel - 1, by simp at enough; omega⟩
    simp [readString?]
  | cons c others inductionHypothesis =>
    obtain ⟨less, rfl⟩ : ∃ less, fuel = less + 1 := ⟨fuel - 1, by simp at enough; omega⟩
    rw [List.flatMap_cons, List.append_assoc, readString_escaped, inductionHypothesis]
    · simp
    · simp only [List.length_cons] at enough
      omega

/-- No line feed stands in what was quoted. -/
theorem newline_not_mem_escaped (c : Char) : '\n' ∉ escaped c := by
  have digits : ∀ digit : Fin 16, Nat.digitChar digit ≠ '\n' := by decide
  have digit : ∀ value, Nat.digitChar (value % 16) ≠ '\n' :=
    fun value => digits ⟨value % 16, Nat.mod_lt _ (by decide)⟩
  unfold escaped
  split
  case h_8 _ _ _ _ newline _ _ =>
    split
    case isTrue =>
      have high := digit (c.toNat / 16)
      have low := digit c.toNat
      simp [hexPair, high.symm, low.symm]
    case isFalse => simpa using fun equal : '\n' = c => newline equal.symm
  all_goals decide

/-- A quoted text is its escaped characters between two quotes. -/
theorem toList_quote (text : String) :
    (quote text).toList = '"' :: (text.toList.flatMap escaped ++ ['"']) := by
  rw [quote, String.toList_ofList]
  rfl

/-- A quoted text has no line break, since every one is escaped. -/
theorem newline_not_mem_quote (text : String) : '\n' ∉ (quote text).toList := by
  rw [toList_quote, List.mem_cons, List.mem_append, List.mem_singleton, List.mem_flatMap]
  rintro (quoted | ⟨c, -, inside⟩ | quoted)
  · revert quoted
    decide
  · exact newline_not_mem_escaped c inside
  · revert quoted
    decide

/-- A quoted text with something behind it is read as a whole. -/
theorem readString_quote (text : String) (rest : List Char) :
    readString? ((text.toList.flatMap escaped ++ '"' :: rest).length + 1) (some [])
        (text.toList.flatMap escaped ++ '"' :: rest) = some (some text, rest) := by
  have shorter : ∀ chars : List Char, chars.length ≤ (chars.flatMap escaped).length := by
    intro chars
    induction chars with
    | nil => exact Nat.le_refl _
    | cons c others inductionHypothesis =>
      have some : 0 < (escaped c).length := by
        unfold escaped
        split
        case h_8 => split <;> simp
        all_goals simp
      rw [List.flatMap_cons, List.length_append, List.length_cons]
      omega
  have enough := shorter text.toList
  rw [readString_quoted _ _ _ _ (by simp only [List.length_append]; omega)]
  simp

/-- A quoted text is read as a string. -/
theorem readValue_quote (fuel : Nat) (text : String) (rest : List Char) :
    readValue? (fuel + 1) ((quote text).toList ++ rest) = some (.string (some text), rest) := by
  rw [toList_quote, List.cons_append, List.append_assoc, List.singleton_append]
  have start : skipGap ('"' :: (text.toList.flatMap escaped ++ '"' :: rest)) =
      '"' :: (text.toList.flatMap escaped ++ '"' :: rest) := rfl
  simp only [readValue?, start, readString_quote, Option.map_some]

end SpriteMachine.Json
