import SpriteMachine.Text.Debug
import SpriteMachine.Worker.Transport

/-!
# The bridge

The bridge is the host's end of a transport. A request carries a fresh token and
waits for the reply with that token; whatever else arrives in the meantime is
kept in the backlog, in order, and handed out before anything newer. A request
gives up when its time is over or when nothing can arrive any more, and a reply
that comes later is an ordinary message.
-/

namespace SpriteMachine

/-- Why a message could not be sent or a request failed. Times are milliseconds. -/
inductive BridgeFault where
  | disconnected
  | timeout (request : String) (waited : Nat)
  | unexpectedReply (reply : String)
  | rejected (reason : String)
deriving DecidableEq, Repr

/-- The name of a fault's kind. -/
def BridgeFault.kind : BridgeFault → String
  | disconnected => "Disconnected"
  | timeout .. => "Timeout"
  | unexpectedReply _ => "UnexpectedReply"
  | rejected _ => "Rejected"

/-- A number of milliseconds in words: seconds from one second on, with as many
decimals as needed. -/
def writeDuration (milliseconds : Nat) : String :=
  if milliseconds = 0 then "0ns"
  else if milliseconds < 1000 then toString milliseconds ++ "ms"
  else
    let thousandths := milliseconds % 1000
    let decimals := [thousandths / 100, thousandths / 10 % 10, thousandths % 10]
    let shown := (decimals.reverse.dropWhile (· = 0)).reverse
    toString (milliseconds / 1000) ++
      (if shown = [] then "" else "." ++ String.ofList (shown.map Nat.digitChar)) ++ "s"

/-- A fault in words. -/
def BridgeFault.message : BridgeFault → String
  | disconnected => "Worker disconnected"
  | timeout request waited => "No reply to " ++ request ++ " within " ++ writeDuration waited
  | unexpectedReply reply => "Unexpected reply: " ++ reply
  | rejected reason => "Backend rejected the request: " ++ reason

/-- A reply to a request with its parts in the order of their names. Only replies
are ever explained this way. -/
def WorkerMessage.explain {α : Type} : WorkerMessage α → String
  | registered token refusal =>
    "ThreadsRegistered \x7b token: ReplyToken(" ++ Text.showQuoted token.text ++ "), error: " ++
      (match refusal with
        | some reason => "Some(" ++ Text.showQuoted reason ++ ")"
        | none => "None") ++ " \x7d"
  | started token threads =>
    let names := threads.map fun id => "ThreadId(" ++ Text.showQuoted id.text ++ ")"
    "HatsStarted \x7b token: ReplyToken(" ++ Text.showQuoted token.text ++ "), thread_ids: [" ++
      String.intercalate ", " names ++ "] \x7d"
  | _ => ""

/-- The host's end of a transport: messages received but not handed out, and the
tokens of its requests. -/
structure Bridge (τ α : Type) where
  transport : τ
  backlog : List (WorkerMessage α)
  tokens : TokenSource
  timeout : Nat

namespace Bridge

variable {τ α : Type}

/-- A bridge over a transport, with the time limit of a request. -/
def across (transport : τ) (timeout : Nat) : Bridge τ α :=
  ⟨transport, [], .ofLead "h", timeout⟩

variable [Transport τ α]

/-- Sends a message. -/
def post (bridge : Bridge τ α) (message : HostMessage α) : Except BridgeFault Unit × Bridge τ α :=
  match Transport.send message bridge.transport with
  | (true, transport) => (.ok (), { bridge with transport := transport })
  | (false, transport) => (.error .disconnected, { bridge with transport := transport })

/-- The next message, from the backlog or else from the transport. -/
def next (bridge : Bridge τ α) : Receipt α × Bridge τ α :=
  match bridge.backlog with
  | message :: rest => (.message message, { bridge with backlog := rest })
  | [] =>
    match Transport.receive bridge.transport with
    | (receipt, transport) => (receipt, { bridge with transport := transport })

/-- Waits for the reply with a token up to a deadline, keeping everything else. -/
def awaitReply (token : Token) (request : String) (deadline : Nat) (bridge : Bridge τ α) :
    Except BridgeFault (WorkerMessage α) × Bridge τ α :=
  match _arrived : Transport.await (deadline - Transport.moment bridge.transport)
      bridge.transport with
  | (.disconnected, transport) => (.error .disconnected, { bridge with transport := transport })
  | (.nothing, transport) =>
    (.error (.timeout request bridge.timeout), { bridge with transport := transport })
  | (.message message, transport) =>
    if message.replyToken? = some token then
      (.ok message, { bridge with transport := transport })
    else
      let kept := { bridge with transport := transport, backlog := bridge.backlog ++ [message] }
      if deadline ≤ Transport.moment transport then
        (.error (.timeout request bridge.timeout), kept)
      else awaitReply token request deadline kept
termination_by Transport.waiting bridge.transport
decreasing_by exact Transport.await_lowers _arrived

/-- Sends a request under a fresh token and waits for its reply. -/
def request (bridge : Bridge τ α) (build : Token → HostMessage α) :
    Except BridgeFault (WorkerMessage α) × Bridge τ α :=
  match bridge.tokens.next with
  | (token, tokens) =>
    let message := build token
    match { bridge with tokens := tokens }.post message with
    | (.error fault, bridge) => (.error fault, bridge)
    | (.ok _, bridge) =>
      awaitReply token message.kind (Transport.moment bridge.transport + bridge.timeout) bridge

/-- Loads a unit into the worker. -/
def register (bridge : Bridge τ α) (unit : LinkedUnit) : Except BridgeFault Unit × Bridge τ α :=
  match bridge.request fun token => .register token unit with
  | (.ok (.registered _ none), bridge) => (.ok (), bridge)
  | (.ok (.registered _ (some reason)), bridge) => (.error (.rejected reason), bridge)
  | (.ok reply, bridge) => (.error (.unexpectedReply reply.explain), bridge)
  | (.error fault, bridge) => (.error fault, bridge)

/-- Starts threads on the scripts of a hat; the worker answers which it started. -/
def startHats (bridge : Bridge τ α) (hat : String) (option : Option String)
    (starts : List ThreadStart) : Except BridgeFault (List ThreadId) × Bridge τ α :=
  match bridge.request fun token => .startHats token hat option starts with
  | (.ok (.started _ threads), bridge) => (.ok threads, bridge)
  | (.ok reply, bridge) => (.error (.unexpectedReply reply.explain), bridge)
  | (.error fault, bridge) => (.error fault, bridge)

/-- To register a unit is a request like any other. -/
theorem register_bridge (bridge : Bridge τ α) (unit : LinkedUnit) :
    (bridge.register unit).2 = (bridge.request fun token => .register token unit).2 := by
  unfold register
  split
  case h_1 result => rw [result]
  case h_2 result => rw [result]
  case h_3 result => rw [result]
  case h_4 result => rw [result]

/-- To ask for starts is a request like any other. -/
theorem startHats_bridge (bridge : Bridge τ α) (hat : String) (option : Option String)
    (starts : List ThreadStart) : (bridge.startHats hat option starts).2 =
      (bridge.request fun token => .startHats token hat option starts).2 := by
  unfold startHats
  split
  case h_1 result => rw [result]
  case h_2 result => rw [result]
  case h_3 result => rw [result]

/-- Stops threads; nothing is sent for none. -/
def stopThreads (bridge : Bridge τ α) (threads : List ThreadId) :
    Except BridgeFault Unit × Bridge τ α :=
  if threads = [] then (.ok (), bridge) else bridge.post (.stopThreads threads)

end Bridge

end SpriteMachine
