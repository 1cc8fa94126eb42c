/-!
# Identifiers

Threads, scripts, targets and pending replies are named by opaque texts. Each
kind has a type of its own, so that a script is never looked up as a thread, and
a label under which messages mention it.

New names come from a source that counts what it has issued and asks for each
candidate whether it is taken. Replies are numbered instead: a token is the
prefix of its issuer and a number that only rises.
-/

namespace SpriteMachine

/-- The name of a thread. -/
structure ThreadId where
  text : String
deriving DecidableEq, Repr

/-- The name of a script, one for each piece of code in a batch. -/
structure ScriptId where
  text : String
deriving DecidableEq, Repr

/-- The name of a sprite, a clone or the stage. -/
structure TargetId where
  text : String
deriving DecidableEq, Repr

/-- The name under which a reply is awaited. -/
structure Token where
  text : String
deriving DecidableEq, Repr

/-- The number of a drawable of the renderer. -/
structure DrawableId where
  number : Nat
deriving DecidableEq, Repr

/-- A thread as messages mention it. -/
def ThreadId.label (id : ThreadId) : String := "Thread(" ++ id.text ++ ")"

/-- A script as messages mention it. -/
def ScriptId.label (id : ScriptId) : String := "Script(" ++ id.text ++ ")"

/-- A target as messages mention it. -/
def TargetId.label (id : TargetId) : String := "Target(" ++ id.text ++ ")"

/-- A token as messages mention it. -/
def Token.label (token : Token) : String := "Token(" ++ token.text ++ ")"

/-- A drawable as messages mention it. -/
def DrawableId.label (id : DrawableId) : String := "Drawable(" ++ toString id.number ++ ")"

/-- The shape of a safe identifier: twenty ASCII letters, digits and underscores,
the first of them a letter. -/
def isSafeIdentifier (text : String) : Bool :=
  match text.toList with
  | [] => false
  | first :: rest =>
    rest.length = 19 && first.isAlpha && rest.all fun c => c.isAlphanum || c = '_'

/-- A source of names. `name` gives the candidates in order, `issued` counts the
candidates drawn so far and `collisions` those among them that were taken. -/
structure IdSource where
  name : Nat → String
  issued : Nat
  collisions : Nat

namespace IdSource

/-- The source of the names `#0`, `#1` and so on. -/
def numbered : IdSource := ⟨fun number => "#" ++ toString number, 0, 0⟩

/-- The `n`-th safe identifier: a letter and the number written with at least
nineteen digits, so that no identifier comes again. -/
def safeName (number : Nat) : String :=
  let digits := Nat.toDigits 10 number
  String.ofList ('n' :: List.replicate (19 - digits.length) '0' ++ digits)

/-- The source of safe identifiers. -/
def safe : IdSource := ⟨safeName, 0, 0⟩

/-- Draws candidates until one is not taken. When the given number of steps is
used up the next candidate is issued as it is. -/
def drawFrom (taken : List String) : Nat → IdSource → String × IdSource
  | 0, source => (source.name source.issued, { source with issued := source.issued + 1 })
  | steps + 1, source =>
    let candidate := source.name source.issued
    let drawn := { source with issued := source.issued + 1 }
    if candidate ∈ taken then
      drawFrom taken steps { drawn with collisions := drawn.collisions + 1 }
    else (candidate, drawn)

/-- A name that is not among the taken ones. A source that never repeats passes
each taken name at most once, so their number bounds the search. -/
def draw (taken : List String) (source : IdSource) : String × IdSource :=
  drawFrom taken taken.length source

end IdSource

/-- Issues the tokens of one party. -/
structure TokenSource where
  lead : String
  issued : Nat
deriving Repr

namespace TokenSource

/-- A party that has issued nothing yet. -/
def ofLead (lead : String) : TokenSource := ⟨lead, 0⟩

/-- The token of a number. -/
def token (lead : String) (number : Nat) : Token := ⟨lead ++ "-" ++ toString number⟩

/-- The next token and the source behind it. -/
def next (source : TokenSource) : Token × TokenSource :=
  (token source.lead source.issued, { source with issued := source.issued + 1 })

end TokenSource

end SpriteMachine
