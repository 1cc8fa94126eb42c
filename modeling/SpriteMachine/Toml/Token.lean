import SpriteMachine.Number.Binary
import SpriteMachine.Number.Width
import SpriteMachine.Text.Digit
import SpriteMachine.Toml.Tree

/-!
# Keys, strings, numbers and moments of TOML

Every reader here takes the text from its place on and gives what it read and what
follows, or refuses. A reader that has begun to recognise something never gives
up half of it: what follows it must be right as well, and the readers of whole
lines see to that.
-/

namespace SpriteMachine.Toml

/-- Characters that separate the parts of a line. -/
def isSpace (c : Char) : Bool := c = ' ' || c = '\t'

/-- A text without the blanks at its start. -/
def skipSpace (text : List Char) : List Char := text.dropWhile isSpace

/-- Characters that may stand in a comment or a string. -/
def isPlain (c : Char) : Bool := c = '\t' || (0x20 ≤ c.toNat && c.toNat ≠ 0x7f)

/-- What follows a line end at the start of a text. -/
def newline? : List Char → Option (List Char)
  | '\n' :: rest => some rest
  | '\r' :: '\n' :: rest => some rest
  | _ => none

/-- What follows the end of a line: blanks, a comment, and a line end or the end of
the text. -/
def lineEnd? (inComment : Bool) : List Char → Option (List Char)
  | [] => some []
  | '\n' :: rest => some rest
  | '\r' :: '\n' :: rest => some rest
  | c :: rest =>
    if inComment then if isPlain c then lineEnd? true rest else none
    else if isSpace c then lineEnd? false rest
    else if c = '#' then lineEnd? true rest
    else none

/-- A text without the blanks, comments and line ends at its start. A comment ends
with its line. -/
def skipFill (inComment : Bool) : List Char → Option (List Char)
  | [] => if inComment then none else some []
  | '\n' :: rest => skipFill false rest
  | '\r' :: '\n' :: rest => skipFill false rest
  | c :: rest =>
    if inComment then if isPlain c then skipFill true rest else none
    else if isSpace c then skipFill false rest
    else if c = '#' then skipFill true rest
    else if c = '\r' then none
    else some (c :: rest)

/-- A text without the blanks and line ends at its start. -/
def skipLines : List Char → List Char
  | '\n' :: rest => skipLines rest
  | '\r' :: '\n' :: rest => skipLines rest
  | c :: rest => if isSpace c then skipLines rest else c :: rest
  | [] => []

/-- The character whose code is written with a number of hexadecimal digits. -/
def readCode? (count : Nat) (text : List Char) : Option (Char × List Char) :=
  let digits := text.take count
  let code := Text.valueIn 16 digits
  if digits.length = count ∧ digits.all (fun c => (Text.hexDigit? c).isSome) ∧ code.isValidChar then
    some (Char.ofNat code, text.drop count)
  else none

/-- The character that an escape denotes, read behind its backslash. -/
def readEscape? : List Char → Option (Char × List Char)
  | 'b' :: rest => some ('\x08', rest)
  | 't' :: rest => some ('\t', rest)
  | 'n' :: rest => some ('\n', rest)
  | 'f' :: rest => some ('\x0c', rest)
  | 'r' :: rest => some ('\r', rest)
  | '"' :: rest => some ('"', rest)
  | '\\' :: rest => some ('\\', rest)
  | 'u' :: rest => readCode? 4 rest
  | 'U' :: rest => readCode? 8 rest
  | _ => none

/-- A string of one line behind its opening mark. Only a string in double marks
knows escapes. `read` holds the characters so far in reverse, and there have to be
as many steps as characters. -/
def readLine? (mark : Char) : Nat → List Char → List Char → Option (String × List Char)
  | 0, _, _ => none
  | _ + 1, _, [] => none
  | steps + 1, read, c :: rest =>
    if c = mark then some (String.ofList read.reverse, rest)
    else if c = '\\' ∧ mark = '"' then
      match readEscape? rest with
      | some (escaped, rest) => readLine? mark steps (escaped :: read) rest
      | none => none
    else if isPlain c then readLine? mark steps (c :: read) rest
    else none

/-- A string of many lines behind its opening marks. One or two marks in it stand
for themselves, also right before the three that close it. A backslash at the end
of a line drops the line end and all blanks and line ends behind it. -/
def readBlock? (mark : Char) : Nat → List Char → List Char → Option (String × List Char)
  | 0, _, _ => none
  | _ + 1, _, [] => none
  | steps + 1, read, c :: rest =>
    match newline? (c :: rest) with
    | some rest => readBlock? mark steps ('\n' :: read) rest
    | none =>
      if c = mark then
        let marks := (c :: rest).takeWhile (· = mark)
        let behind := (c :: rest).dropWhile (· = mark)
        if marks.length < 3 then readBlock? mark steps (marks ++ read) behind
        else if marks.length < 6 then
          some (String.ofList (marks.drop 3 ++ read).reverse, behind)
        else none
      else if c = '\\' ∧ mark = '"' then
        match newline? (skipSpace rest) with
        | some rest => readBlock? mark steps read (skipLines rest)
        | none =>
          match readEscape? rest with
          | some (escaped, rest) => readBlock? mark steps (escaped :: read) rest
          | none => none
      else if isPlain c then readBlock? mark steps (c :: read) rest
      else none

/-- A string in double or single marks. A line end right behind three opening marks
does not belong to the text. -/
def readText? : List Char → Option (String × List Char)
  | '"' :: '"' :: '"' :: rest =>
    readBlock? '"' (rest.length + 1) [] ((newline? rest).getD rest)
  | '\'' :: '\'' :: '\'' :: rest =>
    readBlock? '\'' (rest.length + 1) [] ((newline? rest).getD rest)
  | '"' :: rest => readLine? '"' (rest.length + 1) [] rest
  | '\'' :: rest => readLine? '\'' (rest.length + 1) [] rest
  | _ => none

/-- Characters of a key without marks. -/
def isBare (c : Char) : Bool := c.isAlphanum || c = '_' || c = '-'

/-- One part of a key: a string of one line or a row of bare characters. -/
def readKeyPart? : List Char → Option (String × List Char)
  | '"' :: rest => readLine? '"' (rest.length + 1) [] rest
  | '\'' :: rest => readLine? '\'' (rest.length + 1) [] rest
  | text =>
    let part := text.takeWhile isBare
    if part = [] then none else some (String.ofList part, text.dropWhile isBare)

/-- The parts of a key, joined by points with blanks around them. -/
def readKeyParts? : Nat → List Char → Option (List String × List Char)
  | 0, _ => none
  | steps + 1, text =>
    match readKeyPart? (skipSpace text) with
    | none => none
    | some (part, rest) =>
      match skipSpace rest with
      | '.' :: rest => (readKeyParts? steps rest).map fun (parts, rest) => (part :: parts, rest)
      | rest => some ([part], rest)

/-- The number of levels that keys and values may not reach. -/
def levelLimit : Nat := 80

/-- A key: the path to its table and its last part. -/
def readKey? (text : List Char) : Option ((List String × String) × List Char) :=
  match readKeyParts? (text.length + 1) text with
  | none => none
  | some (parts, rest) =>
    match parts.getLast? with
    | some last => if parts.length < levelLimit then some ((parts.dropLast, last), rest) else none
    | none => none

/-- Digits behind a first one, with single underscores between digits. -/
def readGroups? (isDigit : Char → Bool) : List Char → Option (List Char × List Char)
  | '_' :: c :: rest =>
    if isDigit c then (readGroups? isDigit rest).map fun (digits, rest) => (c :: digits, rest)
    else none
  | c :: rest =>
    if isDigit c then (readGroups? isDigit rest).map fun (digits, rest) => (c :: digits, rest)
    else if c = '_' then none
    else some ([], c :: rest)
  | [] => some ([], [])

/-- At least one digit, with single underscores between digits. -/
def readDigits? (isDigit : Char → Bool) : List Char → Option (List Char × List Char)
  | [] => none
  | c :: rest =>
    if isDigit c then (readGroups? isDigit rest).map fun (digits, rest) => (c :: digits, rest)
    else none

/-- The digits of a decimal whole number. A zero stands alone. -/
def readWhole? : List Char → Option (List Char × List Char)
  | '0' :: rest => some (['0'], rest)
  | text => readDigits? Char.isDigit text

/-- A fraction part, if there is one. -/
def readFraction? : List Char → Option (Option (List Char) × List Char)
  | '.' :: rest => (readDigits? Char.isDigit rest).map fun (digits, rest) => (some digits, rest)
  | rest => some (none, rest)

/-- An exponent part, if there is one. -/
def readExponent? : List Char → Option (Option Int × List Char)
  | mark :: rest =>
    if mark = 'e' ∨ mark = 'E' then
      match Numeral.spanSign rest with
      | (negative, rest) =>
        (readDigits? Char.isDigit rest).map fun (digits, rest) =>
          let size : Int := Numeral.ofDigits digits
          (some (if negative then -size else size), rest)
    else some (none, mark :: rest)
  | [] => some (none, [])

/-- A whole number if 64 bits hold it. -/
def ofInteger? (value : Int) : Option Toml :=
  if Width.low64 ≤ value ∧ value ≤ Width.high64 then some (.integer value) else none

/-- A number with a fraction or an exponent, unless it is too large above zero. -/
def ofNumeral? (numeral : Numeral) : Option Toml :=
  if numeral.negative ∨ (BinaryFloat.ofNumeral numeral).isFinite then some .fraction else none

/-- A decimal number, or an infinite or undefined one. -/
def readDecimal? (text : List Char) : Option (Toml × List Char) :=
  match Numeral.spanSign text with
  | (_, 'i' :: 'n' :: 'f' :: rest) => some (.fraction, rest)
  | (_, 'n' :: 'a' :: 'n' :: rest) => some (.fraction, rest)
  | (negative, rest) => do
    let (whole, rest) ← readWhole? rest
    let (digits, rest) ← readFraction? rest
    let (power, rest) ← readExponent? rest
    let value ←
      if digits.isNone ∧ power.isNone then
        ofInteger? (if negative then -(Numeral.ofDigits whole : Int) else Numeral.ofDigits whole)
      else
        let behind := digits.getD []
        ofNumeral? ⟨negative, Numeral.ofDigits (whole ++ behind), power.getD 0 - behind.length⟩
    return (value, rest)

/-- A whole number in a base below its mark. -/
def readBased? (base : Nat) (text : List Char) : Option (Toml × List Char) := do
  let (digits, rest) ← readDigits? (fun c => (Text.hexDigit? c).any (· < base)) text
  return (← ofInteger? (Text.valueIn base digits), rest)

/-- A number. -/
def readNumber? : List Char → Option (Toml × List Char)
  | '0' :: 'x' :: rest => readBased? 16 rest
  | '0' :: 'o' :: rest => readBased? 8 rest
  | '0' :: 'b' :: rest => readBased? 2 rest
  | text => readDecimal? text

/-- A number of so many decimal digits within bounds. -/
def readField? (count low high : Nat) (text : List Char) : Option (Nat × List Char) :=
  let digits := text.take count
  let value := Numeral.ofDigits digits
  if digits.length = count ∧ digits.all Char.isDigit ∧ low ≤ value ∧ value ≤ high then
    some (value, text.drop count)
  else none

/-- What follows a character that has to stand at the start of a text. -/
def expect? (c : Char) : List Char → Option (List Char)
  | first :: rest => if first = c then some rest else none
  | [] => none

/-- The number of days in a month. -/
def monthLength (year month : Nat) : Nat :=
  if month = 2 then
    if year % 4 = 0 ∧ (year % 100 ≠ 0 ∨ year % 400 = 0) then 29 else 28
  else if month = 4 ∨ month = 6 ∨ month = 9 ∨ month = 11 then 30
  else 31

/-- What follows a date. -/
def skipDate? (text : List Char) : Option (List Char) := do
  let (year, rest) ← readField? 4 0 9999 text
  let (month, rest) ← readField? 2 1 12 (← expect? '-' rest)
  let (_, rest) ← readField? 2 1 (monthLength year month) (← expect? '-' rest)
  return rest

/-- What follows a time of day. A sixty-first second is allowed. -/
def skipTime? (text : List Char) : Option (List Char) := do
  let (_, rest) ← readField? 2 0 23 text
  let (_, rest) ← readField? 2 0 59 (← expect? ':' rest)
  let (_, rest) ← readField? 2 0 60 (← expect? ':' rest)
  match rest with
  | '.' :: rest =>
    let (digits, rest) := Numeral.spanDigits rest
    if digits = [] then none else some rest
  | rest => some rest

/-- What follows the distance of a clock from world time, if one is given. -/
def skipOffset? : List Char → Option (List Char)
  | 'Z' :: rest => some rest
  | 'z' :: rest => some rest
  | sign :: rest =>
    if sign = '+' ∨ sign = '-' then do
      let (_, rest) ← readField? 2 0 23 rest
      let (_, rest) ← readField? 2 0 59 (← expect? ':' rest)
      return rest
    else some (sign :: rest)
  | [] => some []

/-- What follows a date with a time, a date, or a time. A blank behind a date is left
alone when no time follows. -/
def skipMoment? (text : List Char) : Option (List Char) :=
  match skipDate? text with
  | none => skipTime? text
  | some rest =>
    match rest with
    | [] => some []
    | separator :: tail =>
      if separator = 'T' ∨ separator = 't' ∨ separator = ' ' then
        match skipTime? tail with
        | some behind => skipOffset? behind
        | none => some rest
      else some rest

/-- A value that holds no others. -/
def readSimple? (text : List Char) : Option (Toml × List Char) :=
  match text with
  | 't' :: 'r' :: 'u' :: 'e' :: rest => some (.truth true, rest)
  | 'f' :: 'a' :: 'l' :: 's' :: 'e' :: rest => some (.truth false, rest)
  | '"' :: _ => (readText? text).map fun (content, rest) => (.string content, rest)
  | '\'' :: _ => (readText? text).map fun (content, rest) => (.string content, rest)
  | _ =>
    match skipMoment? text with
    | some rest => some (.moment, rest)
    | none => readNumber? text

end SpriteMachine.Toml
