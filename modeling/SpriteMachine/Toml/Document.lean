import SpriteMachine.Toml.Token

/-!
# TOML documents

A document is read line by line, where a value may span several lines. A line holds
nothing, a header that says which table the next lines belong to, or a key with
its value. Values nest to a limited depth.
-/

namespace SpriteMachine.Toml

/-- Readers of one value. -/
abbrev ValueReader := List Char → Option (Toml × List Char)

/-- The items of an array behind its opening bracket or a comma. A comma may stand
behind the last one. -/
def readItems? (readValue? : ValueReader) : Nat → List Char → Option (List Toml × List Char)
  | 0, _ => none
  | steps + 1, text =>
    match skipFill false text with
    | none => none
    | some (']' :: rest) => some ([], rest)
    | some text =>
      match readValue? text with
      | none => none
      | some (item, rest) =>
        match skipFill false rest with
        | some (',' :: rest) =>
          (readItems? readValue? steps rest).map fun (items, rest) => (item :: items, rest)
        | some (']' :: rest) => some ([item], rest)
        | _ => none

/-- A key and its value. -/
def readPair? (readValue? : ValueReader) (text : List Char) :
    Option (((List String × String) × Toml) × List Char) := do
  let (key, rest) ← readKey? text
  let (value, rest) ← readValue? (skipSpace (← expect? '=' rest))
  return ((key, value), rest)

/-- The entries of an inline table that is not empty, on top of those read before. No
comma may stand behind the last one. -/
def readInline? (readValue? : ValueReader) :
    Nat → Entries → List Char → Option (Entries × List Char)
  | 0, _, _ => none
  | steps + 1, entries, text => do
    let (((path, key), value), rest) ← readPair? readValue? text
    let entries ← putValue path key value .inline entries
    match skipSpace rest with
    | ',' :: rest => readInline? readValue? steps entries rest
    | '\x7d' :: rest => return (entries, rest)
    | _ => none

/-- A value with a number of levels left for what it holds. -/
def readValue? : Nat → ValueReader
  | 0, text => readSimple? text
  | levels + 1, text =>
    match text with
    | '[' :: rest =>
      (readItems? (readValue? levels) (rest.length + 1) rest).map fun (items, rest) =>
        (.array items, rest)
    | '\x7b' :: rest =>
      match skipSpace rest with
      | '\x7d' :: rest => some (.table .inline [], rest)
      | rest =>
        (readInline? (readValue? levels) (rest.length + 1) [] rest).map fun (entries, rest) =>
          (.table .inline entries, rest)
    | text => readSimple? text

/-- The tables of a document read so far and the path of the one that is open. -/
structure Draft where
  entries : Entries
  path : List String

namespace Draft

/-- Opens a table. -/
def openTable? (draft : Draft) (path : List String) (key : String) (isRepeated : Bool) :
    Option Draft :=
  (within false (if isRepeated then repeatTable key else openTable key) path .header
      draft.entries).map fun entries => ⟨entries, path ++ [key]⟩

/-- Adds a value to the open table. -/
def put? (draft : Draft) (path : List String) (key : String) (value : Toml) : Option Draft :=
  (within false (putValue path key value) draft.path .header draft.entries).map fun entries =>
    { draft with entries := entries }

end Draft

/-- A header behind its first bracket, up to the end of its line. -/
def readHeader? (draft : Draft) (text : List Char) : Option (Draft × List Char) :=
  match text with
  | '[' :: rest => do
    let ((path, key), rest) ← readKey? rest
    let rest ← lineEnd? false (← expect? ']' (← expect? ']' rest))
    return (← draft.openTable? path key true, rest)
  | rest => do
    let ((path, key), rest) ← readKey? rest
    let rest ← lineEnd? false (← expect? ']' rest)
    return (← draft.openTable? path key false, rest)

/-- One line with its end. -/
def readDraftLine? (draft : Draft) (text : List Char) : Option (Draft × List Char) :=
  match text with
  | '[' :: rest => readHeader? draft rest
  | c :: _ =>
    if c = '#' ∨ c = '\n' ∨ c = '\r' then (lineEnd? false text).map (draft, ·)
    else do
      let (((path, key), value), rest) ← readPair? (readValue? (levelLimit - 1)) text
      return (← draft.put? path key value, ← lineEnd? false rest)
  | [] => some (draft, [])

/-- All lines of a text. -/
def readDraft? : Nat → Draft → List Char → Option Entries
  | 0, _, _ => none
  | steps + 1, draft, text =>
    match skipSpace text with
    | [] => some draft.entries
    | text =>
      match readDraftLine? draft text with
      | some (draft, rest) => readDraft? steps draft rest
      | none => none

/-- The top table of a document. A mark of the byte order at its start is passed
over. -/
def read? (text : String) : Option Toml :=
  let body := match text.toList with
    | '\ufeff' :: rest => rest
    | body => body
  (readDraft? (body.length + 1) ⟨[], []⟩ body).map (.table .header)

end SpriteMachine.Toml
