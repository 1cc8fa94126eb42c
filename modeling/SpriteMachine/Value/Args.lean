import SpriteMachine.Value.Cast

/-!
# Arguments of a block

A block is called with named arguments. A missing argument reads as zero, the
empty text or false.
-/

namespace SpriteMachine

/-- Named arguments in the order of their names. -/
structure Args (α : Type) where
  entries : List (String × Value α)

namespace Args

variable {α : Type}

/-- No arguments. -/
def empty : Args α := ⟨[]⟩

/-- Arguments set one after another. -/
def ofList (entries : List (String × Value α)) : Args α := ⟨Fields.ofList entries⟩

/-- Arguments with one of them set. -/
def insert (args : Args α) (name : String) (value : Value α) : Args α :=
  ⟨Fields.insert name value args.entries⟩

/-- The argument of a name. -/
def find? (args : Args α) (name : String) : Option (Value α) :=
  Fields.find? name args.entries

/-- How many arguments there are. -/
def size (args : Args α) : Nat := args.entries.length

variable [Scalar α]

/-- An argument as a number. -/
def number (args : Args α) (name : String) : α :=
  match args.find? name with
  | some value => value.toNumber
  | none => Scalar.zero

/-- An argument as text. -/
def text (args : Args α) (name : String) : String :=
  match args.find? name with
  | some value => value.toText
  | none => ""

/-- An argument as a truth value. -/
def boolean (args : Args α) (name : String) : Bool :=
  match args.find? name with
  | some value => value.toBool
  | none => false

end Args

end SpriteMachine
