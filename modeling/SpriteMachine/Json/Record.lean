import SpriteMachine.Json.Reader

/-!
# Typed readings of JSON trees

A record is written as an object with named fields or as an array of its fields
in declaration order. An object may hold other fields, which are not looked at,
but names no field twice; an array may leave out fields at its end. Each reading
succeeds or fails as a whole.
-/

namespace SpriteMachine

namespace Json

variable {α β : Type}

/-- The text of a string. -/
def text? : Json → Option String
  | .string content => content
  | _ => none

/-- A truth value. -/
def bool? : Json → Option Bool
  | .bool value => some value
  | _ => none

/-- A whole number between zero and a limit, written without point or exponent. -/
def nat? (limit : Nat) : Json → Option Nat
  | .integer value => if 0 ≤ value ∧ value ≤ limit then some value.toNat else none
  | _ => none

/-- A number as a scalar. -/
def scalar? [Scalar α] : Json → Option α
  | .integer value => some (Scalar.ofInt value)
  | .decimal numeral => numeral.scaled?
  | _ => none

/-- An array whose items all can be read. -/
def listOf? (item? : Json → Option β) : Json → Option (List β)
  | .array items => items.mapM item?
  | _ => none

/-- An object whose keys and values all can be read, repeated keys included. -/
def entriesOf? (value? : Json → Option β) : Json → Option (List (String × β))
  | .object entries => entries.mapM fun (key, item) =>
    match key, value? item with
    | some key, some value => some (key, value)
    | _, _ => none
  | _ => none

/-- The name of a choice without content, alone or as the only key of an object
that holds nothing else. -/
def choice? : Json → Option String
  | .string content => content
  | .object [(some name, .null)] => some name
  | _ => none

end Json

/-- The fields that a record's text gives. `positional` tells that it was written
as an array. -/
structure Record where
  parts : List (String × Json)
  positional : Bool

namespace Record

variable {β : Type}

/-- The fields of a record with the given field names. -/
def ofJson? (names : List String) : Json → Option Record
  | .object entries =>
    match entries.mapM fun (key, item) => key.map (·, item) with
    | none => none
    | some entries =>
      let parts := entries.filter fun (key, _) => key ∈ names
      if (parts.map Prod.fst).Nodup then some ⟨parts, false⟩ else none
  | .array items =>
    if items.length ≤ names.length then some ⟨names.zip items, true⟩ else none
  | _ => none

/-- A field that has to be given. -/
def required (record : Record) (name : String) (read? : Json → Option β) : Option β :=
  (record.parts.lookup name).bind read?

/-- A field with a value of its own when it is not given. -/
def withDefault (record : Record) (name : String) (missing : β) (read? : Json → Option β) :
    Option β :=
  match record.parts.lookup name with
  | some part => read? part
  | none => some missing

/-- A field that may be `null`. Leaving it out means `null` in an object, while an
array has to give it. -/
def nullable (record : Record) (name : String) (read? : Json → Option β) : Option (Option β) :=
  match record.parts.lookup name with
  | some .null => some none
  | some part => (read? part).map some
  | none => if record.positional then none else some none

/-- A field that may be `null` and may be left out in either form. -/
def nullableWithDefault (record : Record) (name : String) (read? : Json → Option β) :
    Option (Option β) :=
  match record.parts.lookup name with
  | some .null => some none
  | some part => (read? part).map some
  | none => some none

end Record

end SpriteMachine
