import SpriteMachine.Json.Tree
import SpriteMachine.Number.Width
import SpriteMachine.Text.Digit

/-!
# Reading JSON text

The reader takes a whole text: one value between optional blanks. It keeps
repeated keys and the order of entries, and it refuses every deviation from the
grammar, such as a trailing comma, a leading zero, a control character in a
string or an unknown escape.

A number is kept as a significand below `2 ^ 64` and a power of ten. Whole
digits that no longer fit raise the power; digits behind the point that no
longer fit are dropped. A number written without point and exponent that fits
64 bits is an integer; minus zero is not, because an integer has no sign to
keep.

The `fuel` of the three mutual readers bounds the nesting and the number of
steps together; twice the length of the text is always enough.
-/

namespace SpriteMachine.Json

/-- Characters that may stand between the parts of a JSON text. -/
def isGap (c : Char) : Bool := c = ' ' || c = '\n' || c = '\t' || c = '\r'

/-- A text without the blanks at its start. -/
def skipGap (text : List Char) : List Char := text.dropWhile isGap

/-- The value of exactly four hexadecimal digits and the text behind them. -/
def readHex? : List Char → Option (Nat × List Char)
  | a :: b :: c :: d :: rest =>
    match Text.hexDigit? a, Text.hexDigit? b, Text.hexDigit? c, Text.hexDigit? d with
    | some a, some b, some c, some d => some (((a * 16 + b) * 16 + c) * 16 + d, rest)
    | _, _, _, _ => none
  | _ => none

/-- The character of a one-letter escape. -/
def escape? : Char → Option Char
  | '"' => some '"'
  | '\\' => some '\\'
  | '/' => some '/'
  | 'b' => some '\x08'
  | 'f' => some '\x0c'
  | 'n' => some '\n'
  | 'r' => some '\r'
  | 't' => some '\t'
  | _ => none

/-- Whether a code is the first half of a surrogate pair. -/
def isLeading (code : Nat) : Bool := 0xd800 ≤ code && code ≤ 0xdbff

/-- Whether a code is the second half of a surrogate pair. -/
def isTrailing (code : Nat) : Bool := 0xdc00 ≤ code && code ≤ 0xdfff

/-- The character that four hexadecimal digits denote together with an escape
that completes a pair, and the text behind both. The character is missing when
one half stands alone. -/
def readUnicode? (text : List Char) : Option (Option Char × List Char) :=
  match readHex? text with
  | none => none
  | some (code, rest) =>
    if isLeading code then
      match rest with
      | '\\' :: 'u' :: tail =>
        match readHex? tail with
        | none => none
        | some (second, behind) =>
          if isTrailing second then
            some (some (Char.ofNat (0x10000 + (code - 0xd800) * 0x400 + (second - 0xdc00))), behind)
          else some (none, behind)
      | _ => some (none, rest)
    else if isTrailing code then some (none, rest)
    else some (some (Char.ofNat code), rest)

/-- A string literal behind its opening quote: its text and what follows the
closing quote. `read` holds the characters so far in reverse and is `none` once
half a pair was met. -/
def readString? : Nat → Option (List Char) → List Char → Option (Option String × List Char)
  | 0, _, _ => none
  | fuel + 1, read, text =>
    match text with
    | [] => none
    | '"' :: rest => some (read.map fun chars => String.ofList chars.reverse, rest)
    | '\\' :: 'u' :: rest =>
      match readUnicode? rest with
      | none => none
      | some (c, rest) =>
        readString? fuel (match read, c with
          | some chars, some c => some (c :: chars)
          | _, _ => none) rest
    | '\\' :: letter :: rest =>
      match escape? letter with
      | none => none
      | some c => readString? fuel (read.map (c :: ·)) rest
    | '\\' :: [] => none
    | c :: rest =>
      if c.toNat < 0x20 then none
      else readString? fuel (read.map (c :: ·)) rest

/-- Whole digits gathered into a significand, and how many did not fit. After
the first that does not fit all others are only counted. -/
def gatherWhole : Nat → Nat → List Char → Nat × Nat
  | significand, dropped, [] => (significand, dropped)
  | significand, dropped, digit :: rest =>
    let next := significand * 10 + (digit.toNat - '0'.toNat)
    if dropped = 0 ∧ next ≤ Width.last64 then gatherWhole next 0 rest
    else gatherWhole significand (dropped + 1) rest

/-- Digits behind the point appended to a significand while they fit, and how
many were appended. -/
def gatherFraction : Nat → Nat → List Char → Nat × Nat
  | significand, appended, [] => (significand, appended)
  | significand, appended, digit :: rest =>
    let next := significand * 10 + (digit.toNat - '0'.toNat)
    if next ≤ Width.last64 then gatherFraction next (appended + 1) rest
    else (significand, appended)

/-- The exponent part of a number, if the text has one, and what follows. A mark
without digits is refused. -/
def readPower? : List Char → Option (Option Int × List Char)
  | mark :: rest =>
    if mark = 'e' ∨ mark = 'E' then
      match Numeral.spanSign rest with
      | (negative, rest) =>
        match Numeral.spanDigits rest with
        | ([], _) => none
        | (digits, rest) =>
          let power : Int := Numeral.ofDigits digits
          some (some (if negative then -power else power), rest)
    else some (none, mark :: rest)
  | [] => some (none, [])

/-- An integer without point and exponent: an integer when 64 bits hold it. -/
def ofInteger (negative : Bool) (significand : Nat) : Json :=
  if negative then
    if significand = 0 ∨ -(significand : Int) < Width.low64 then .decimal ⟨true, significand, 0⟩
    else .integer (-(significand : Int))
  else .integer significand

/-- A number behind its optional minus sign, and what follows it. -/
def readNumber? (negative : Bool) (text : List Char) : Option (Json × List Char) :=
  match Numeral.spanDigits text with
  | (whole, rest) =>
    if whole = [] ∨ (whole.head? = some '0' ∧ whole.length ≠ 1) then none
    else
      match gatherWhole 0 0 whole with
      | (significand, dropped) =>
        match rest with
        | '.' :: rest =>
          match Numeral.spanDigits rest with
          | ([], _) => none
          | (fraction, rest) =>
            match gatherFraction significand 0 fraction with
            | (significand, appended) =>
              (readPower? rest).map fun (power, rest) =>
                (.decimal ⟨negative, significand, (dropped : Int) - appended + power.getD 0⟩, rest)
        | rest =>
          match readPower? rest with
          | none => none
          | some (some power, rest) =>
            some (.decimal ⟨negative, significand, (dropped : Int) + power⟩, rest)
          | some (none, rest) =>
            if dropped = 0 then some (ofInteger negative significand, rest)
            else some (.decimal ⟨negative, significand, dropped⟩, rest)

/-- A word that must stand at the start of a text, and what follows it. -/
def readWord? (word : List Char) (meaning : Json) (text : List Char) : Option (Json × List Char) :=
  if word.isPrefixOf text then some (meaning, text.drop word.length) else none

mutual

/-- One value after optional blanks, and what follows it. -/
def readValue? : Nat → List Char → Option (Json × List Char)
  | 0, _ => none
  | fuel + 1, text =>
    match skipGap text with
    | [] => none
    | '"' :: rest =>
      (readString? (rest.length + 1) (some []) rest).map fun (text, rest) => (.string text, rest)
    | '[' :: rest =>
      match skipGap rest with
      | ']' :: rest => some (.array [], rest)
      | rest => (readItems? fuel rest).map fun (items, rest) => (.array items, rest)
    | '{' :: rest =>
      match skipGap rest with
      | '}' :: rest => some (.object [], rest)
      | rest => (readEntries? fuel rest).map fun (entries, rest) => (.object entries, rest)
    | '-' :: rest => readNumber? true rest
    | 'n' :: rest => readWord? ['u', 'l', 'l'] .null rest
    | 't' :: rest => readWord? ['r', 'u', 'e'] (.bool true) rest
    | 'f' :: rest => readWord? ['a', 'l', 's', 'e'] (.bool false) rest
    | text => readNumber? false text

/-- The items of an array that is not empty, up to behind its closing bracket. -/
def readItems? : Nat → List Char → Option (List Json × List Char)
  | 0, _ => none
  | fuel + 1, text =>
    match readValue? fuel text with
    | none => none
    | some (item, rest) =>
      match skipGap rest with
      | ',' :: rest => (readItems? fuel rest).map fun (items, rest) => (item :: items, rest)
      | ']' :: rest => some ([item], rest)
      | _ => none

/-- The entries of an object that is not empty, up to behind its closing brace. -/
def readEntries? : Nat → List Char → Option (List (Option String × Json) × List Char)
  | 0, _ => none
  | fuel + 1, text =>
    match skipGap text with
    | '"' :: rest =>
      match readString? (rest.length + 1) (some []) rest with
      | none => none
      | some (key, rest) =>
        match skipGap rest with
        | ':' :: rest =>
          match readValue? fuel rest with
          | none => none
          | some (value, rest) =>
            match skipGap rest with
            | ',' :: rest =>
              (readEntries? fuel rest).map fun (entries, rest) => ((key, value) :: entries, rest)
            | '}' :: rest => some ([(key, value)], rest)
            | _ => none
        | _ => none
    | _ => none

end

/-- The tree of a whole JSON text. -/
def read? (text : List Char) : Option Json :=
  match readValue? (2 * text.length + 2) text with
  | some (json, rest) => if skipGap rest = [] then some json else none
  | none => none

end SpriteMachine.Json
