import Mathlib.Data.List.Forall2
import SpriteMachine.Proofs.Json.Quoting

/-!
# What is written reads back

A text spells a tree when the reader takes exactly that tree from it, whatever part of an
array or object stands behind. The writers spell: words, quoted texts and whole numbers
spell their trees, and an array or object spells the tree of what its parts spell. The
reader's fuel is bounded by twice the length of the text, which every part of it keeps.
-/

namespace SpriteMachine.Json

/-- What may stand behind a number: nothing, or a mark that ends the part. -/
def Ends (rest : List Char) : Prop :=
  ∀ c ∈ rest.head?, c = ',' ∨ c = ']' ∨ c = '}'

/-- A text is read as a tree wherever it stands in front of an end. It begins with
a character that tells it from a blank and from the end of an array. -/
structure Spells (text : String) (json : Json) : Prop where
  opens : ∃ first others, text.toList = first :: others ∧ isGap first = false ∧ first ≠ ']'
  reads : ∀ fuel rest, 2 * text.toList.length ≤ fuel → Ends rest →
    readValue? fuel (text.toList ++ rest) = some (json, rest)

/-- An object whose keys all have texts. -/
def fields (entries : List (String × Json)) : Json :=
  .object (entries.map fun entry => (some entry.1, entry.2))

/-- A written entry spells an entry of the same key. -/
def SpellsEntry (written : String × String) (entry : String × Json) : Prop :=
  written.1 = entry.1 ∧ Spells written.2 entry.2

section Ends

/-- A part may end where the text does. -/
theorem ends_nil : Ends [] := fun c member => by cases member

/-- A part may end before a comma or a closing bracket. -/
theorem ends_cons {c : Char} (rest : List Char) (mark : c = ',' ∨ c = ']' ∨ c = '}') :
    Ends (c :: rest) := by
  intro first member
  obtain rfl := Option.some.inj member
  exact mark

/-- No digit stands at an end. -/
theorem Ends.head_not_digit {rest : List Char} (ends : Ends rest) :
    ∀ c ∈ rest.head?, c.isDigit = false := by
  intro c member
  obtain rfl | rfl | rfl := ends c member <;> rfl

/-- Neither a point nor the mark of an exponent stands at an end. -/
theorem Ends.readPower {rest : List Char} (ends : Ends rest) :
    readPower? rest = some (none, rest) := by
  cases rest with
  | nil => rfl
  | cons c others =>
    have mark : ¬(c = 'e' ∨ c = 'E') := by
      obtain rfl | rfl | rfl := ends c rfl <;> decide
    rw [readPower?, if_neg mark]

end Ends

section Numbers

/-- Digits in front of an end are taken as a whole. -/
theorem spanDigits_append {digits rest : List Char} (all : ∀ c ∈ digits, c.isDigit = true)
    (ends : Ends rest) : Numeral.spanDigits (digits ++ rest) = (digits, rest) := by
  have stop : rest.takeWhile Char.isDigit = [] ∧ rest.dropWhile Char.isDigit = rest := by
    cases rest with
    | nil => exact ⟨rfl, rfl⟩
    | cons c others =>
      have plain := ends.head_not_digit c rfl
      simp [plain]
  rw [Numeral.spanDigits, List.takeWhile_append_of_pos all, List.dropWhile_append_of_pos all,
    stop.1, stop.2, List.append_nil]

/-- Digits whose number fits 64 bits are gathered without loss. -/
theorem gatherWhole_fits {digits : List Char} {significand : Nat}
    (fits : Nat.ofDigitChars 10 digits significand ≤ Width.last64) :
    gatherWhole significand 0 digits = (Nat.ofDigitChars 10 digits significand, 0) := by
  induction digits generalizing significand with
  | nil => rfl
  | cons digit rest inductionHypothesis =>
    have next : significand * 10 + (digit.toNat - '0'.toNat) =
        10 * significand + (digit.toNat - '0'.toNat) := by rw [Nat.mul_comm]
    rw [Nat.ofDigitChars_cons] at fits ⊢
    have grows : 10 * significand + (digit.toNat - '0'.toNat) ≤
        Nat.ofDigitChars 10 rest (10 * significand + (digit.toNat - '0'.toNat)) := by
      rw [Nat.ofDigitChars_eq_ofDigitChars_zero]
      exact Nat.le_add_right_of_le (Nat.le_mul_of_pos_left _ (Nat.pow_pos (by decide)))
    rw [gatherWhole, next, if_pos ⟨rfl, Nat.le_trans grows fits⟩]
    exact inductionHypothesis fits

/-- A number above zero is written without a leading zero. -/
theorem head_toDigits {number : Nat} (positive : 0 < number) :
    (Nat.toDigits 10 number).head? ≠ some '0' := by
  induction number using Nat.strongRecOn with
  | ind number inductionHypothesis =>
    by_cases short : number < 10
    · have nonzero : ∀ digit : Fin 10, 0 < digit.val → Nat.digitChar digit ≠ '0' := by decide
      rw [Nat.toDigits_of_lt_base short, List.head?_cons]
      exact fun equal => nonzero ⟨number, short⟩ positive (Option.some.inj equal)
    · rw [Nat.toDigits_of_base_le (by decide) (by omega),
        List.head?_append_of_ne_nil _ Nat.toDigits_ne_nil]
      exact inductionHypothesis (number / 10) (by omega) (by omega)

/-- The digits of a number of 64 bits read as that number. -/
theorem readNumber_toDigits {number : Nat} (fits : number ≤ Width.last64) (negative : Bool)
    {rest : List Char} (ends : Ends rest) :
    readNumber? negative (Nat.toDigits 10 number ++ rest) =
      some (ofInteger negative number, rest) := by
  have digits : ∀ c ∈ Nat.toDigits 10 number, c.isDigit = true :=
    fun c member => Nat.isDigit_of_mem_toDigits (by decide) (by decide) member
  have lead : ¬(Nat.toDigits 10 number = [] ∨
      (Nat.toDigits 10 number).head? = some '0' ∧ (Nat.toDigits 10 number).length ≠ 1) := by
    rintro (none | ⟨zero, long⟩)
    · exact Nat.toDigits_ne_nil none
    · by_cases positive : 0 < number
      · exact head_toDigits positive zero
      · obtain rfl : number = 0 := by omega
        exact long rfl
  have gathered : gatherWhole 0 0 (Nat.toDigits 10 number) = (number, 0) := by
    rw [gatherWhole_fits (by rwa [Nat.ofDigitChars_ten_toDigits]), Nat.ofDigitChars_ten_toDigits]
  rw [readNumber?, spanDigits_append digits ends]
  dsimp only
  rw [if_neg lead, gathered]
  dsimp only
  split
  case h_1 point => rcases ends '.' rfl with mark | mark | mark <;> cases mark
  case h_2 =>
    rw [ends.readPower]
    rfl

end Numbers

section Words

/-- A gap ends at the first visible character. -/
theorem skipGap_cons {c : Char} (visible : isGap c = false) (rest : List Char) :
    skipGap (c :: rest) = c :: rest := by
  rw [skipGap, List.dropWhile_cons, visible]
  rfl

/-- Fuel for a text that is not empty can be taken once. -/
theorem fuel_succ {fuel : Nat} {first : Char} {others : List Char}
    (enough : 2 * (first :: others).length ≤ fuel) :
    ∃ less, fuel = less + 1 ∧ 2 * others.length + 1 ≤ less := by
  rw [List.length_cons] at enough
  exact ⟨fuel - 1, by omega, by omega⟩

/-- The word null is read as null. -/
theorem spells_null : Spells "null" .null where
  opens := ⟨'n', _, rfl, rfl, by decide⟩
  reads fuel rest enough _ := by
    obtain ⟨less, rfl, -⟩ := fuel_succ enough
    rfl

/-- The two truth values are read from their words. -/
theorem spells_bool (value : Bool) : Spells (if value then "true" else "false") (.bool value) := by
  cases value with
  | false =>
    refine ⟨⟨'f', _, rfl, rfl, by decide⟩, fun fuel rest enough _ => ?_⟩
    obtain ⟨less, rfl, -⟩ := fuel_succ enough
    rfl
  | true =>
    refine ⟨⟨'t', _, rfl, rfl, by decide⟩, fun fuel rest enough _ => ?_⟩
    obtain ⟨less, rfl, -⟩ := fuel_succ enough
    rfl

/-- A quoted text is read as that text. -/
theorem spells_quote (text : String) : Spells (quote text) (.string (some text)) := by
  refine ⟨⟨'"', _, toList_quote text, rfl, by decide⟩, fun fuel rest enough _ => ?_⟩
  rw [toList_quote] at enough
  obtain ⟨less, rfl, -⟩ := fuel_succ enough
  exact readValue_quote less text rest

/-- A digit is no other mark. -/
theorem digit_ne {c mark : Char} (digit : c.isDigit = true) (plain : mark.isDigit = false) :
    c ≠ mark := by
  rintro rfl
  rw [digit] at plain
  cases plain

/-- A digit is visible. -/
theorem isGap_digit {c : Char} (digit : c.isDigit = true) : isGap c = false := by
  simp [isGap, digit_ne digit]

/-- What begins with a digit is read as a number. -/
theorem readValue_digit {c : Char} (digit : c.isDigit = true) (fuel : Nat) (rest : List Char) :
    readValue? (fuel + 1) (c :: rest) = readNumber? false (c :: rest) := by
  rw [readValue?, skipGap_cons (isGap_digit digit)]
  split
  case h_9 => rfl
  case h_1 same => cases same
  case h_2 same | h_3 same | h_4 same | h_5 same | h_6 same | h_7 same | h_8 same =>
    exact absurd (List.cons.inj same).1 (digit_ne digit rfl)

/-- Behind a minus sign a number is read. -/
theorem readValue_minus (fuel : Nat) (rest : List Char) :
    readValue? (fuel + 1) ('-' :: rest) = readNumber? true rest := by
  rw [readValue?]
  rfl

/-- A natural number of 64 bits spells itself. -/
theorem spells_nat {number : Nat} (fits : number ≤ Width.last64) :
    Spells number.repr (.integer number) := by
  obtain ⟨first, others, digits⟩ := List.exists_cons_of_ne_nil
    (Nat.toDigits_ne_nil : Nat.toDigits 10 number ≠ [])
  have text : number.repr.toList = first :: others := by
    rw [Nat.repr_eq_ofList_toDigits, String.toList_ofList, digits]
  have digit : first.isDigit = true :=
    Nat.isDigit_of_mem_toDigits (by decide) (by decide)
      (digits ▸ List.mem_cons_self : first ∈ Nat.toDigits 10 number)
  refine ⟨⟨first, others, text, isGap_digit digit, digit_ne digit rfl⟩,
    fun fuel rest enough ends => ?_⟩
  rw [text] at enough
  obtain ⟨less, rfl, -⟩ := fuel_succ enough
  rw [text, List.cons_append, readValue_digit digit, ← List.cons_append, ← digits,
    readNumber_toDigits fits false ends]
  rfl

/-- A whole number of 64 bits spells itself. -/
theorem spells_int {value : Int} (low : Width.low64 ≤ value) (high : value ≤ Width.last64) :
    Spells (toString value) (.integer value) := by
  change Spells value.repr (.integer value)
  rw [Int.repr_eq_if]
  split
  case isTrue positive =>
    have fits : value.toNat ≤ Width.last64 := by omega
    have spelled := spells_nat fits
    rwa [Int.toNat_of_nonneg positive] at spelled
  case isFalse negative =>
    have text : ("-" ++ (-value).toNat.repr).toList =
        '-' :: Nat.toDigits 10 (-value).toNat := by
      simp [Nat.repr_eq_ofList_toDigits]
    have fits : (-value).toNat ≤ Width.last64 := by
      simp only [Width.low64] at low
      simp only [Width.last64]
      omega
    have back : ofInteger true (-value).toNat = .integer value := by
      have same : -((-value).toNat : Int) = value := by omega
      rw [ofInteger, if_pos rfl, same, if_neg (by omega)]
    refine ⟨⟨'-', _, text, rfl, by decide⟩, fun fuel rest enough ends => ?_⟩
    rw [text] at enough
    obtain ⟨less, rfl, -⟩ := fuel_succ enough
    rw [text, List.cons_append, readValue_minus, readNumber_toDigits fits true ends, back]

end Words

section Parts

variable {items : List String} {trees : List Json}

/-- The characters of texts with commas between them. -/
theorem toList_intercalate_cons {first second : String} {rest : List String} :
    (String.intercalate "," (first :: second :: rest)).toList =
      first.toList ++ ',' :: (String.intercalate "," (second :: rest)).toList := by
  rw [String.intercalate_cons_cons, String.toList_append, String.toList_append,
    List.append_assoc]
  rfl

/-- Behind a comma further items are read. -/
theorem readItems_comma {fuel : Nat} {text rest : List Char} {item : Json}
    (read : readValue? fuel text = some (item, ',' :: rest)) :
    readItems? (fuel + 1) text =
      (readItems? fuel rest).map fun read => (item :: read.1, read.2) := by
  rw [readItems?, read]
  rfl

/-- Behind a closing bracket no further item is read. -/
theorem readItems_close {fuel : Nat} {text rest : List Char} {item : Json}
    (read : readValue? fuel text = some (item, ']' :: rest)) :
    readItems? (fuel + 1) text = some ([item], rest) := by
  rw [readItems?, read]
  rfl

/-- Items in front of a closing bracket are read one after another. -/
theorem readItems_intercalate (spelled : List.Forall₂ Spells items trees) (filled : items ≠ [])
    {fuel : Nat} (enough : 2 * (String.intercalate "," items).toList.length + 1 ≤ fuel)
    (rest : List Char) :
    readItems? fuel ((String.intercalate "," items).toList ++ ']' :: rest) =
      some (trees, rest) := by
  induction spelled generalizing fuel with
  | nil => exact absurd rfl filled
  | @cons text tree items trees first others inductionHypothesis =>
    obtain ⟨less, rfl⟩ : ∃ less, fuel = less + 1 := ⟨fuel - 1, by omega⟩
    cases others with
    | nil =>
      rw [String.intercalate_singleton] at enough ⊢
      exact readItems_close
        (first.reads less _ (by omega) (ends_cons rest (.inr (.inl rfl))))
    | cons second others =>
      rw [toList_intercalate_cons] at enough ⊢
      rw [List.length_append, List.length_cons] at enough
      rw [List.append_assoc, List.cons_append,
        readItems_comma (first.reads less _ (by omega) (ends_cons _ (.inl rfl))),
        inductionHypothesis (List.cons_ne_nil _ _) (by omega)]
      rfl

/-- An array whose first item shows is read by its items. -/
theorem readValue_array {fuel : Nat} {c : Char} {rest : List Char} (visible : isGap c = false)
    (filled : c ≠ ']') :
    readValue? (fuel + 1) ('[' :: c :: rest) =
      (readItems? fuel (c :: rest)).map fun read => (.array read.1, read.2) := by
  have bracket : isGap '[' = false := rfl
  simp only [readValue?, skipGap_cons bracket, skipGap_cons visible]
  split
  case h_1 same => exact absurd (List.cons.inj same).1 filled
  case h_2 => rfl

/-- Texts with commas between them begin like the first of them. -/
theorem opens_intercalate {first : String} {c : Char} {others : List Char}
    (opens : first.toList = c :: others) (rest : List String) :
    ∃ behind, (String.intercalate "," (first :: rest)).toList = c :: behind := by
  cases rest with
  | nil => exact ⟨others, by rw [String.intercalate_singleton, opens]⟩
  | cons second rest =>
    rw [toList_intercalate_cons, opens]
    exact ⟨_, rfl⟩

/-- An array spells the array of what its items spell. -/
theorem spells_array (spelled : List.Forall₂ Spells items trees) :
    Spells (writeArray items) (.array trees) := by
  have text : (writeArray items).toList =
      '[' :: ((String.intercalate "," items).toList ++ [']']) := by
    rw [writeArray, String.toList_append, String.toList_append]
    rfl
  refine ⟨⟨'[', _, text, rfl, by decide⟩, fun fuel rest enough _ => ?_⟩
  rw [text] at enough
  obtain ⟨less, rfl, left⟩ := fuel_succ enough
  rw [List.length_append, List.length_singleton] at left
  rw [text, List.cons_append, List.append_assoc, List.singleton_append]
  cases spelled with
  | nil => rfl
  | @cons item tree items trees first others =>
    obtain ⟨c, opened, opens, visible, filled⟩ := first.opens
    obtain ⟨behind, starts⟩ := opens_intercalate opens items
    have read := readItems_intercalate (.cons first others) (List.cons_ne_nil _ _)
      (by omega : 2 * (String.intercalate "," (item :: items)).toList.length + 1 ≤ less) rest
    rw [starts, List.cons_append] at read ⊢
    rw [readValue_array visible filled, read]
    rfl

end Parts

section Entries

variable {written : List (String × String)} {entries : List (String × Json)} {text : String}
  {item : Json}

/-- An entry as it stands in an object. -/
def writeEntry (entry : String × String) : String := quote entry.1 ++ ":" ++ entry.2

/-- An entry is written with its key first, in quotes. -/
theorem writeEntry_starts (entry : String × String) :
    ∃ behind, (writeEntry entry).toList = '"' :: behind := by
  rw [writeEntry, String.toList_append, String.toList_append, toList_quote]
  exact ⟨_, rfl⟩

/-- An entry in front of an end is read up to that end. -/
theorem readEntry {fuel : Nat} (spelled : Spells text item) (key : String)
    (enough : 2 * (writeEntry (key, text)).toList.length ≤ fuel) {rest : List Char}
    (ends : Ends rest) :
    ∃ inside, (writeEntry (key, text)).toList ++ rest = '"' :: inside ∧
      readString? (inside.length + 1) (some []) inside =
        some (some key, ':' :: (text.toList ++ rest)) ∧
      readValue? fuel (text.toList ++ rest) = some (item, rest) := by
  have length : text.toList.length ≤ (writeEntry (key, text)).toList.length := by
    rw [writeEntry, String.toList_append, List.length_append]
    exact Nat.le_add_left _ _
  refine ⟨key.toList.flatMap escaped ++ '"' :: ':' :: (text.toList ++ rest), ?_,
    readString_quote key _, spelled.reads fuel rest (by omega) ends⟩
  rw [writeEntry, String.toList_append, String.toList_append, toList_quote]
  simp

/-- Behind a comma further entries are read. -/
theorem readEntries_comma {fuel : Nat} (spelled : Spells text item) (key : String)
    (enough : 2 * (writeEntry (key, text)).toList.length ≤ fuel) (rest : List Char) :
    readEntries? (fuel + 1) ((writeEntry (key, text)).toList ++ ',' :: rest) =
      (readEntries? fuel rest).map fun read => ((some key, item) :: read.1, read.2) := by
  obtain ⟨inside, opens, named, valued⟩ := readEntry spelled key enough (ends_cons rest (.inl rfl))
  simp only [opens, readEntries?, skipGap_cons, named, valued, isGap, Char.reduceEq, decide_false,
    Bool.or_false]

/-- Behind a closing brace no further entry is read. -/
theorem readEntries_close {fuel : Nat} (spelled : Spells text item) (key : String)
    (enough : 2 * (writeEntry (key, text)).toList.length ≤ fuel) (rest : List Char) :
    readEntries? (fuel + 1) ((writeEntry (key, text)).toList ++ '}' :: rest) =
      some ([(some key, item)], rest) := by
  obtain ⟨inside, opens, named, valued⟩ :=
    readEntry spelled key enough (ends_cons rest (.inr (.inr rfl)))
  simp only [opens, readEntries?, skipGap_cons, named, valued, isGap, Char.reduceEq, decide_false,
    Bool.or_false]

/-- Entries in front of a closing brace are read one after another. -/
theorem readEntries_intercalate (spelled : List.Forall₂ SpellsEntry written entries)
    (filled : written ≠ []) {fuel : Nat}
    (enough : 2 * (String.intercalate "," (written.map writeEntry)).toList.length + 1 ≤ fuel)
    (rest : List Char) :
    readEntries? fuel ((String.intercalate "," (written.map writeEntry)).toList ++ '}' :: rest) =
      some (entries.map fun entry => (some entry.1, entry.2), rest) := by
  induction spelled generalizing fuel with
  | nil => exact absurd rfl filled
  | @cons part entry written entries first others inductionHypothesis =>
    obtain ⟨less, rfl⟩ : ∃ less, fuel = less + 1 := ⟨fuel - 1, by omega⟩
    obtain ⟨key, text⟩ := part
    obtain ⟨other, item⟩ := entry
    obtain ⟨rfl, spelled⟩ : key = other ∧ Spells text item := first
    cases others with
    | nil =>
      rw [List.map_singleton, String.intercalate_singleton] at enough ⊢
      exact readEntries_close spelled key (by omega) rest
    | cons second others =>
      rw [List.map_cons, List.map_cons, toList_intercalate_cons] at enough ⊢
      rw [List.length_append, List.length_cons] at enough
      rw [List.append_assoc, List.cons_append, readEntries_comma spelled key (by omega),
        ← List.map_cons, inductionHypothesis (List.cons_ne_nil _ _) (by rw [List.map_cons]; omega)]
      rfl

/-- An object whose first key is quoted is read by its entries. -/
theorem readValue_object {fuel : Nat} {rest : List Char} :
    readValue? (fuel + 1) ('{' :: '"' :: rest) =
      (readEntries? fuel ('"' :: rest)).map fun read => (.object read.1, read.2) := by
  rw [readValue?]
  rfl

/-- An object spells the object of what its entries spell. -/
theorem spells_object (spelled : List.Forall₂ SpellsEntry written entries) :
    Spells (writeObject written) (fields entries) := by
  have text : (writeObject written).toList =
      '{' :: ((String.intercalate "," (written.map writeEntry)).toList ++ ['}']) := by
    rw [writeObject, String.toList_append, String.toList_append]
    rfl
  refine ⟨⟨'{', _, text, rfl, by decide⟩, fun fuel rest enough _ => ?_⟩
  rw [text] at enough
  obtain ⟨less, rfl, left⟩ := fuel_succ enough
  rw [List.length_append, List.length_singleton] at left
  rw [text, List.cons_append, List.append_assoc, List.singleton_append]
  cases spelled with
  | nil => rfl
  | @cons part entry written entries first others =>
    obtain ⟨behind, starts⟩ := writeEntry_starts part
    obtain ⟨inside, opens⟩ := opens_intercalate starts (written.map writeEntry)
    have read := readEntries_intercalate (.cons first others) (List.cons_ne_nil _ _)
      (by omega : 2 * (String.intercalate "," ((part :: written).map writeEntry)).toList.length +
        1 ≤ less) rest
    rw [List.map_cons, opens, List.cons_append] at read ⊢
    rw [readValue_object, read]
    rfl

end Entries

section Families

variable {β : Type} (write : β → String) (tree : β → Json)

/-- An array of things that each spell a tree spells the array of those trees. -/
theorem spells_items {items : List β} (each : ∀ item ∈ items, Spells (write item) (tree item)) :
    Spells (writeArray (items.map write)) (.array (items.map tree)) :=
  spells_array (List.forall₂_map_left_iff.mpr
    (List.forall₂_map_right_iff.mpr (List.forall₂_same.mpr each)))

/-- An object of things that each spell a tree spells the object of those trees. -/
theorem spells_entries {κ : Type} (name : κ → String) {entries : List (κ × β)}
    (each : ∀ entry ∈ entries, Spells (write entry.2) (tree entry.2)) :
    Spells (writeObject (entries.map fun entry => (name entry.1, write entry.2)))
      (fields (entries.map fun entry => (name entry.1, tree entry.2))) :=
  spells_object (List.forall₂_map_left_iff.mpr (List.forall₂_map_right_iff.mpr
    (List.forall₂_same.mpr fun entry member => ⟨rfl, each entry member⟩)))

end Families

/-- A whole text that spells a tree reads as it. -/
theorem Spells.read {text : String} {json : Json} (spelled : Spells text json) :
    read? text.toList = some json := by
  have reads := spelled.reads (2 * text.toList.length + 2) [] (by omega) ends_nil
  rw [List.append_nil] at reads
  rw [read?, reads]
  rfl

/-- An object of two texts reads back. -/
theorem read_writeObject (first second left right : String) :
    read? (writeObject [(first, quote left), (second, quote right)]).toList =
      some (fields [(first, .string (some left)), (second, .string (some right))]) :=
  (spells_object (.cons ⟨rfl, spells_quote left⟩ (.cons ⟨rfl, spells_quote right⟩ .nil))).read

end SpriteMachine.Json
