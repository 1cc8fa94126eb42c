import SpriteMachine.Block.Control
import SpriteMachine.Block.Event
import SpriteMachine.Block.Fault
import SpriteMachine.Block.Invocation
import SpriteMachine.Block.Looks
import SpriteMachine.Block.Motion
import SpriteMachine.Block.Probe
import SpriteMachine.Block.Procedure
import SpriteMachine.Block.Registry
import SpriteMachine.Block.Run
import SpriteMachine.Block.Sensing
import SpriteMachine.CommandLine
import SpriteMachine.Device.Clock
import SpriteMachine.Device.Keyboard
import SpriteMachine.Device.Motors
import SpriteMachine.Device.Mouse
import SpriteMachine.Device.Panel
import SpriteMachine.Identifier
import SpriteMachine.Json.Reader
import SpriteMachine.Json.Record
import SpriteMachine.Json.Tree
import SpriteMachine.Json.Writer
import SpriteMachine.Main
import SpriteMachine.Number.Binary
import SpriteMachine.Number.Exact
import SpriteMachine.Number.Interval
import SpriteMachine.Number.Layout
import SpriteMachine.Number.Numeral
import SpriteMachine.Number.Scalar
import SpriteMachine.Number.Shortest
import SpriteMachine.Number.Width
import SpriteMachine.OrderedMap
import SpriteMachine.Project.Basic
import SpriteMachine.Project.Run
import SpriteMachine.Proofs.Block.Devices
import SpriteMachine.Proofs.Block.Effect
import SpriteMachine.Proofs.Block.Exact
import SpriteMachine.Proofs.Block.Lasting
import SpriteMachine.Proofs.Block.Local
import SpriteMachine.Proofs.Block.Motion
import SpriteMachine.Proofs.Block.Registry
import SpriteMachine.Proofs.Block.Waiting
import SpriteMachine.Proofs.Device.Clock
import SpriteMachine.Proofs.Device.Containment
import SpriteMachine.Proofs.Device.Halt
import SpriteMachine.Proofs.Device.Keyboard
import SpriteMachine.Proofs.Device.Motors
import SpriteMachine.Proofs.Device.Timer
import SpriteMachine.Proofs.Identifier
import SpriteMachine.Proofs.Inline.Agreement
import SpriteMachine.Proofs.Inline.Bodies
import SpriteMachine.Proofs.Inline.Brisk
import SpriteMachine.Proofs.Inline.Dispatch
import SpriteMachine.Proofs.Inline.Fit
import SpriteMachine.Proofs.Inline.Hats
import SpriteMachine.Proofs.Inline.Loading
import SpriteMachine.Proofs.Inline.Procedure
import SpriteMachine.Proofs.Inline.Prompt
import SpriteMachine.Proofs.Inline.Quit
import SpriteMachine.Proofs.Inline.Reload
import SpriteMachine.Proofs.Inline.Request
import SpriteMachine.Proofs.Inline.Restart
import SpriteMachine.Proofs.Inline.Shared
import SpriteMachine.Proofs.Inline.Stillness
import SpriteMachine.Proofs.Inline.Tick
import SpriteMachine.Proofs.Inline.Turn
import SpriteMachine.Proofs.Inline.Unstarted
import SpriteMachine.Proofs.Json.Fields
import SpriteMachine.Proofs.Json.Quoting
import SpriteMachine.Proofs.Json.Spelling
import SpriteMachine.Proofs.Link.Calm
import SpriteMachine.Proofs.Link.Concord
import SpriteMachine.Proofs.Link.Drift
import SpriteMachine.Proofs.Link.Interleaving
import SpriteMachine.Proofs.Link.Lane
import SpriteMachine.Proofs.Link.Regular
import SpriteMachine.Proofs.List
import SpriteMachine.Proofs.Number.Order
import SpriteMachine.Proofs.OrderedMap
import SpriteMachine.Proofs.Project.Finish
import SpriteMachine.Proofs.Project.Launch
import SpriteMachine.Proofs.Scheduler.Act
import SpriteMachine.Proofs.Scheduler.Advance
import SpriteMachine.Proofs.Scheduler.Answers
import SpriteMachine.Proofs.Scheduler.Beat
import SpriteMachine.Proofs.Scheduler.Census
import SpriteMachine.Proofs.Scheduler.Chronicle
import SpriteMachine.Proofs.Scheduler.Clones
import SpriteMachine.Proofs.Scheduler.Devices
import SpriteMachine.Proofs.Scheduler.Dispatch
import SpriteMachine.Proofs.Scheduler.Duration
import SpriteMachine.Proofs.Scheduler.Ending
import SpriteMachine.Proofs.Scheduler.Idle
import SpriteMachine.Proofs.Scheduler.Ledger
import SpriteMachine.Proofs.Scheduler.Memory
import SpriteMachine.Proofs.Scheduler.Moment
import SpriteMachine.Proofs.Scheduler.Motion
import SpriteMachine.Proofs.Scheduler.Nesting
import SpriteMachine.Proofs.Scheduler.Notice
import SpriteMachine.Proofs.Scheduler.Operation
import SpriteMachine.Proofs.Scheduler.Progress
import SpriteMachine.Proofs.Scheduler.Provenance
import SpriteMachine.Proofs.Scheduler.Replay
import SpriteMachine.Proofs.Scheduler.Returns
import SpriteMachine.Proofs.Scheduler.Round
import SpriteMachine.Proofs.Scheduler.Scenery
import SpriteMachine.Proofs.Scheduler.Single
import SpriteMachine.Proofs.Scheduler.Stacks
import SpriteMachine.Proofs.Scheduler.Standing
import SpriteMachine.Proofs.Scheduler.Stop
import SpriteMachine.Proofs.Scheduler.Stroke
import SpriteMachine.Proofs.Scheduler.Tally
import SpriteMachine.Proofs.Scheduler.Timing
import SpriteMachine.Proofs.Scheduler.Tracking
import SpriteMachine.Proofs.Script.Checking
import SpriteMachine.Proofs.Script.Filing
import SpriteMachine.Proofs.Script.Linker
import SpriteMachine.Proofs.Script.Sections
import SpriteMachine.Proofs.Script.Shape
import SpriteMachine.Proofs.Script.Unit
import SpriteMachine.Proofs.Script.Written
import SpriteMachine.Proofs.Stack
import SpriteMachine.Proofs.Stage
import SpriteMachine.Proofs.Stage.Balance
import SpriteMachine.Proofs.Stage.Directions
import SpriteMachine.Proofs.Stage.Layers
import SpriteMachine.Proofs.Stage.Mirror
import SpriteMachine.Proofs.Stage.Operation
import SpriteMachine.Proofs.Stage.Picture
import SpriteMachine.Proofs.Stage.Ranges
import SpriteMachine.Proofs.Stage.Redraw
import SpriteMachine.Proofs.Text.Case
import SpriteMachine.Proofs.Text.Lines
import SpriteMachine.Proofs.Thread
import SpriteMachine.Proofs.Thread.Discipline
import SpriteMachine.Proofs.Value.Whole
import SpriteMachine.Proofs.Worker.Arrival
import SpriteMachine.Proofs.Worker.Conversation
import SpriteMachine.Proofs.Worker.Expiry
import SpriteMachine.Proofs.Worker.Fifo
import SpriteMachine.Proofs.Worker.Issue
import SpriteMachine.Proofs.Worker.Lifecycle
import SpriteMachine.Proofs.Worker.Parts
import SpriteMachine.Proofs.Worker.Pending
import SpriteMachine.Proofs.Worker.Reaction
import SpriteMachine.Proofs.Worker.Remaining
import SpriteMachine.Proofs.Worker.Reply
import SpriteMachine.Proofs.Worker.Seat
import SpriteMachine.Proofs.Worker.Sequence
import SpriteMachine.Proofs.Worker.Story
import SpriteMachine.Proofs.Worker.Tables
import SpriteMachine.Proofs.Worker.Tapped
import SpriteMachine.Proofs.Worker.Treatment
import SpriteMachine.Proofs.Worker.Untimed
import SpriteMachine.Proofs.Worker.Wire
import SpriteMachine.Scheduler.Execute
import SpriteMachine.Scheduler.Hats
import SpriteMachine.Scheduler.Lifecycle
import SpriteMachine.Scheduler.Loading
import SpriteMachine.Scheduler.State
import SpriteMachine.Scheduler.Step
import SpriteMachine.Scheduler.Threads
import SpriteMachine.Script.Batch
import SpriteMachine.Script.Body
import SpriteMachine.Script.Linker
import SpriteMachine.Script.Statement
import SpriteMachine.Script.Unit
import SpriteMachine.Settings.Basic
import SpriteMachine.Settings.Location
import SpriteMachine.Settings.LogLevel
import SpriteMachine.Stage.Basic
import SpriteMachine.Stage.Renderer
import SpriteMachine.Stage.Target
import SpriteMachine.Text.Blank
import SpriteMachine.Text.Case
import SpriteMachine.Text.Debug
import SpriteMachine.Text.Digit
import SpriteMachine.Text.Hidden
import SpriteMachine.Text.Lines
import SpriteMachine.Text.Word
import SpriteMachine.Thread.Basic
import SpriteMachine.Thread.Frame
import SpriteMachine.Toml.Document
import SpriteMachine.Toml.Token
import SpriteMachine.Toml.Tree
import SpriteMachine.Value.Args
import SpriteMachine.Value.Basic
import SpriteMachine.Value.Cast
import SpriteMachine.Version
import SpriteMachine.Worker.Bridge
import SpriteMachine.Worker.Inline
import SpriteMachine.Worker.Link
import SpriteMachine.Worker.Message
import SpriteMachine.Worker.PendingTokens
import SpriteMachine.Worker.Scheduled
import SpriteMachine.Worker.ScriptWorker
import SpriteMachine.Worker.Tap
import SpriteMachine.Worker.Transport
import SpriteMachine.Worker.Wire
