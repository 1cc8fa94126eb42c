import SpriteMachine.Json.Tree
import SpriteMachine.Json.Writer

/-!
# Values

Values are what scripts compute with and what crosses the boundary between the
scheduler and a worker. They have the shape of JSON: whole numbers of 64 bits
stay whole, every other number is a finite scalar, and the entries of an object
are kept in the order of their keys without repetition.

`Fields` holds the order: `Fields.insert` keeps strictly rising keys strictly
rising, and a later value replaces an earlier one.
-/

namespace SpriteMachine

/-- A value over the scalars `α`. -/
inductive Value (α : Type) where
  | null
  | bool (value : Bool)
  | int (value : Int)
  | real (value : α)
  | text (value : String)
  | list (items : List (Value α))
  | object (entries : List (String × Value α))

/-- Entries with strictly rising keys. -/
def Fields.Ordered {β : Type} (entries : List (String × β)) : Prop :=
  entries.Pairwise fun left right => left.1 < right.1

/-- Entries with a value set under a key. -/
def Fields.insert {β : Type} (key : String) (value : β) : List (String × β) → List (String × β)
  | [] => [(key, value)]
  | (other, kept) :: rest =>
    if key < other then (key, value) :: (other, kept) :: rest
    else if key = other then (key, value) :: rest
    else (other, kept) :: Fields.insert key value rest

/-- Entries set one after another, later ones replacing earlier ones. -/
def Fields.ofList {β : Type} (entries : List (String × β)) : List (String × β) :=
  entries.foldl (fun fields (key, value) => Fields.insert key value fields) []

/-- The value under a key. -/
def Fields.find? {β : Type} (key : String) (entries : List (String × β)) : Option β :=
  entries.lookup key

namespace Value

variable {α : Type} [Scalar α]

/-- A scalar as a value; an infinite or undefined one has none. -/
def ofScalar (value : α) : Value α :=
  if Scalar.isFinite value then .real value else .null

/-- The size below which whole scalars are treated as whole numbers, which is
`10 ^ 15`. -/
def wholeLimit : Int := 1000000000000000

/-- Whether a scalar is whole and below the limit in size. -/
def isShortWhole (value : α) : Bool :=
  Scalar.isWhole value && Scalar.less (Scalar.magnitude value) (Scalar.ofInt wholeLimit)

/-- A scalar as a value that stays whole where it is whole and below the limit in
size. Infinite and undefined scalars become zero. -/
def ofNumber (value : α) : Value α :=
  if isShortWhole value then
    .int (Scalar.truncate (-wholeLimit) wholeLimit value)
  else if Scalar.isFinite value then .real value
  else .int 0

mutual

/-- A value as compact JSON text. -/
def write : Value α → String
  | null => "null"
  | bool value => if value then "true" else "false"
  | int value => toString value
  | real value => Scalar.text value
  | text value => Json.quote value
  | list items => Json.writeArray (writeItems items)
  | object entries => Json.writeObject (writeEntries entries)

/-- Items as compact JSON texts. -/
def writeItems : List (Value α) → List String
  | [] => []
  | item :: rest => write item :: writeItems rest

/-- Entries with their values as compact JSON texts. -/
def writeEntries : List (String × Value α) → List (String × String)
  | [] => []
  | (key, value) :: rest => (key, write value) :: writeEntries rest

end

mutual

/-- The value of a JSON tree. There is none when a string or key has no text or a
number is out of range. -/
def ofJson? : Json → Option (Value α)
  | .null => some null
  | .bool value => some (bool value)
  | .integer value => some (int value)
  | .decimal numeral => numeral.scaled?.map real
  | .string content => content.map text
  | .array items => (ofItems? items).map list
  | .object entries => (ofEntries? entries).map fun entries => object (Fields.ofList entries)

/-- The values of items, when all have one. -/
def ofItems? : List Json → Option (List (Value α))
  | [] => some []
  | item :: rest =>
    match ofJson? item, ofItems? rest with
    | some value, some values => some (value :: values)
    | _, _ => none

/-- The keys and values of entries, when all have them. -/
def ofEntries? : List (Option String × Json) → Option (List (String × Value α))
  | [] => some []
  | (key, item) :: rest =>
    match key, ofJson? item, ofEntries? rest with
    | some key, some value, some values => some ((key, value) :: values)
    | _, _, _ => none

end

end Value

end SpriteMachine
