import SpriteMachine.Identifier
import SpriteMachine.Value.Args

/-!
# Frames

A frame is one invocation of a block on a thread's stack. A block that yields
keeps its frame, with what it noted there, and is invoked again with the same
arguments on a later tick. The bottom frame of a stack stands for the script's
body and is never invoked.
-/

namespace SpriteMachine

/-- How far an invocation has come. -/
inductive FrameState where
  | notStarted
  | waiting
  | done
deriving DecidableEq, Repr

/-- The name of a state. -/
def FrameState.name : FrameState → String
  | notStarted => "not_started"
  | waiting => "waiting"
  | done => "done"

/-- What a block notes between its invocations: a moment of the project timer, the
threads it started, a count and a value. -/
structure FrameNotes (α : Type) where
  deadline : Option α
  spawned : List ThreadId
  counter : Nat
  scratch : Option (Value α)

/-- One invocation. The token is that of the call that asked for it. -/
structure Frame (α : Type) where
  opcode : String
  args : Args α
  token : Option Token
  state : FrameState
  notes : FrameNotes α

namespace FrameNotes

/-- Nothing noted. -/
def blank {α : Type} : FrameNotes α := ⟨none, [], 0, none⟩

end FrameNotes

namespace Frame

variable {α : Type}

/-- An invocation that has not started. -/
def fresh (opcode : String) (args : Args α) (token : Option Token) : Frame α :=
  ⟨opcode, args, token, .notStarted, .blank⟩

/-- The frame of a script's body. -/
def body (opcode : String) : Frame α := fresh opcode .empty none

/-- Whether the block has not been invoked for this frame before. -/
def isFirstRun (frame : Frame α) : Bool := frame.state = .notStarted

end Frame

end SpriteMachine
