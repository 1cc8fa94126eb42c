import SpriteMachine.Identifier
import SpriteMachine.OrderedMap

/-!
# Pending tokens

A table of what waits for a reply. Each pending token has one continuation,
which is handed out at most once: by the reply, or by the passing of a deadline.
Moments are milliseconds.
-/

namespace SpriteMachine

/-- A continuation and the moment from which it is given up, if there is one. -/
structure Awaited (β : Type) where
  continuation : β
  deadline : Option Nat
deriving DecidableEq, Repr

/-- The continuations that wait, by their tokens. -/
structure PendingTokens (β : Type) where
  table : OrderedMap Token (Awaited β)

namespace PendingTokens

variable {β : Type}

/-- Nothing waits. -/
def empty : PendingTokens β := ⟨.empty⟩

/-- Whether a token is pending. -/
def contains (pending : PendingTokens β) (token : Token) : Bool := pending.table.contains token

/-- How many tokens are pending. -/
def size (pending : PendingTokens β) : Nat := pending.table.size

/-- Lets a continuation wait for a token; refused while the token is pending. -/
def register? (pending : PendingTokens β) (token : Token) (continuation : β)
    (deadline : Option Nat) : Option (PendingTokens β) :=
  if pending.contains token then none
  else some ⟨pending.table.insert token ⟨continuation, deadline⟩⟩

/-- Hands out the continuation of a token, if it is pending. -/
def resolve (pending : PendingTokens β) (token : Token) : Option β × PendingTokens β :=
  ((pending.table.find? token).map Awaited.continuation, ⟨pending.table.erase token⟩)

/-- Whether the deadline has come. -/
def Awaited.isDue (now : Nat) (awaited : Awaited β) : Bool :=
  awaited.deadline.any (· ≤ now)

/-- Hands out every continuation whose deadline has come, with its token. -/
def expire (pending : PendingTokens β) (now : Nat) : List (Token × β) × PendingTokens β :=
  ((pending.table.filter fun _ awaited => Awaited.isDue now awaited).entries.map
      fun (token, awaited) => (token, awaited.continuation),
    ⟨pending.table.filter fun _ awaited => !Awaited.isDue now awaited⟩)

/-- Drops the continuations that fail a test. -/
def retain (pending : PendingTokens β) (keep : β → Bool) : PendingTokens β :=
  ⟨pending.table.filter fun _ awaited => keep awaited.continuation⟩

end PendingTokens

/-- The refusal to register a pending token, in words. -/
def Token.duplicateMessage (token : Token) : String :=
  "Token " ++ token.label ++ " is already pending"

end SpriteMachine
