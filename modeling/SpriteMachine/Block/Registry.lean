import SpriteMachine.Device.Motors

/-!
# Blocks, hats and packages

A package offers blocks, which scripts call by opcode, and hats, on which scripts
start. A registry is an ordered choice of packages; where two of them offer the
same opcode or hat the later one counts. A restarting hat replaces the threads
that still run for it, any other hat leaves them alone.

The probe package makes a scheduler's behaviour observable, and the override
package shows that a later package takes over an opcode.
-/

namespace SpriteMachine

/-- Blocks that send broadcasts. -/
inductive EventBlock where
  | broadcast
  | broadcastAndWait
deriving DecidableEq, Repr

/-- Blocks that wait, stop threads and handle clones. -/
inductive ControlBlock where
  | wait
  | stop
  | createClone
  | deleteClone
deriving DecidableEq, Repr

/-- Blocks that place and turn a target. -/
inductive MotionBlock where
  | moveSteps
  | goTo
  | glide
  | turnRight
  | turnLeft
  | pointInDirection
  | changeX
  | setX
  | changeY
  | setY
  | setRotationStyle
  | xPosition
  | yPosition
  | direction
deriving DecidableEq, Repr

/-- Blocks that change how a target looks. -/
inductive LooksBlock where
  | say
  | sayForSeconds
  | think
  | thinkForSeconds
  | showTarget
  | hideTarget
  | setSize
  | changeSize
  | size
  | switchCostume
  | nextCostume
  | costumeNumber
  | setEffect
  | changeEffect
  | clearEffects
  | goToFrontBack
  | goForwardBackward
deriving DecidableEq, Repr

/-- Blocks that ask about devices and other targets. -/
inductive SensingBlock where
  | timer
  | resetTimer
  | keyPressed
  | mouseDown
  | mouseX
  | mouseY
  | touchingObject
  | distanceTo
  | attributeOf
deriving DecidableEq, Repr

/-- Blocks that call procedures and report their values. -/
inductive ProcedureBlock where
  | call
  | callForValue
  | report
deriving DecidableEq, Repr

/-- Blocks that make a scheduler's behaviour observable. -/
inductive ProbeBlock where
  | log
  | value
  | yieldTimes
  | forever
  | fail
  | later
  | start
  | self
deriving DecidableEq, Repr

/-- All blocks. `overriddenSay` only answers that it was called. -/
inductive Block where
  | event (block : EventBlock)
  | control (block : ControlBlock)
  | motion (block : MotionBlock)
  | looks (block : LooksBlock)
  | sensing (block : SensingBlock)
  | procedure (block : ProcedureBlock)
  | motor (block : MotorBlock)
  | probe (block : ProbeBlock)
  | overriddenSay
deriving DecidableEq, Repr

/-- A choice of blocks and hats that belong together. -/
inductive Package where
  | event
  | control
  | motion
  | looks
  | sensing
  | procedures
  | peripheral
  | probe
  | override
deriving DecidableEq, Repr

/-- The hat of the green flag. -/
def greenFlagHat : String := "event_whenflagclicked"

/-- The hat of a received broadcast. -/
def broadcastHat : String := "event_whenbroadcastreceived"

/-- The hat of a pressed key. -/
def keyPressedHat : String := "event_whenkeypressed"

/-- The hat of a clone that was just made. -/
def cloneHat : String := "control_start_as_clone"

/-- The hat of a procedure without a value. -/
def procedureHat : String := "procedures_defnoreturn"

/-- The hat of a procedure that reports a value. -/
def reportingProcedureHat : String := "procedures_defreturn"

namespace Package

/-- The name of a package. -/
def name : Package → String
  | event => "event"
  | control => "control"
  | motion => "motion"
  | looks => "looks"
  | sensing => "sensing"
  | procedures => "procedures"
  | peripheral => "peripheral"
  | probe => "probe"
  | override => "override"

/-- The package of a name. -/
def ofName? (name : String) : Option Package :=
  [event, control, motion, looks, sensing, procedures, peripheral, probe, override].find?
    fun package => package.name = name

/-- The blocks of a package by opcode. -/
def blocks : Package → List (String × Block)
  | event => [
    ("event_broadcast", .event .broadcast),
    ("event_broadcastandwait", .event .broadcastAndWait)]
  | control => [
    ("control_wait", .control .wait),
    ("control_stop", .control .stop),
    ("control_create_clone_of", .control .createClone),
    ("control_delete_this_clone", .control .deleteClone)]
  | motion => [
    ("motion_movesteps", .motion .moveSteps),
    ("motion_gotoxy", .motion .goTo),
    ("motion_glidesecstoxy", .motion .glide),
    ("motion_turnright", .motion .turnRight),
    ("motion_turnleft", .motion .turnLeft),
    ("motion_pointindirection", .motion .pointInDirection),
    ("motion_changexby", .motion .changeX),
    ("motion_setx", .motion .setX),
    ("motion_changeyby", .motion .changeY),
    ("motion_sety", .motion .setY),
    ("motion_setrotationstyle", .motion .setRotationStyle),
    ("motion_xposition", .motion .xPosition),
    ("motion_yposition", .motion .yPosition),
    ("motion_direction", .motion .direction)]
  | looks => [
    ("looks_say", .looks .say),
    ("looks_sayforsecs", .looks .sayForSeconds),
    ("looks_think", .looks .think),
    ("looks_thinkforsecs", .looks .thinkForSeconds),
    ("looks_show", .looks .showTarget),
    ("looks_hide", .looks .hideTarget),
    ("looks_setsizeto", .looks .setSize),
    ("looks_changesizeby", .looks .changeSize),
    ("looks_size", .looks .size),
    ("looks_switchcostumeto", .looks .switchCostume),
    ("looks_nextcostume", .looks .nextCostume),
    ("looks_costumenumbername", .looks .costumeNumber),
    ("looks_seteffectto", .looks .setEffect),
    ("looks_changeeffectby", .looks .changeEffect),
    ("looks_cleargraphiceffects", .looks .clearEffects),
    ("looks_gotofrontback", .looks .goToFrontBack),
    ("looks_goforwardbackwardlayers", .looks .goForwardBackward)]
  | sensing => [
    ("sensing_timer", .sensing .timer),
    ("sensing_resettimer", .sensing .resetTimer),
    ("sensing_keypressed", .sensing .keyPressed),
    ("sensing_mousedown", .sensing .mouseDown),
    ("sensing_mousex", .sensing .mouseX),
    ("sensing_mousey", .sensing .mouseY),
    ("sensing_touchingobject", .sensing .touchingObject),
    ("sensing_distanceto", .sensing .distanceTo),
    ("sensing_of", .sensing .attributeOf)]
  | procedures => [
    ("procedures_callnoreturn", .procedure .call),
    ("procedures_callreturn", .procedure .callForValue),
    ("procedures_report", .procedure .report)]
  | peripheral => [
    ("peripheral_setmotorspeed", .motor .setSpeed),
    ("peripheral_stopmotor", .motor .stop),
    ("peripheral_getmotorspeed", .motor .getSpeed)]
  | probe => [
    ("probe_log", .probe .log),
    ("probe_value", .probe .value),
    ("probe_yield", .probe .yieldTimes),
    ("probe_forever", .probe .forever),
    ("probe_fail", .probe .fail),
    ("probe_later", .probe .later),
    ("probe_start", .probe .start),
    ("probe_self", .probe .self)]
  | override => [("looks_say", .overriddenSay)]

/-- The hats of a package, and whether each restarts its threads. -/
def hats : Package → List (String × Bool)
  | event => [(greenFlagHat, true), (broadcastHat, true), (keyPressedHat, false)]
  | control => [(cloneHat, false)]
  | procedures => [(procedureHat, false), (reportingProcedureHat, false)]
  | probe => [("probe_when", false), ("probe_restart", true)]
  | override => [("probe_when", true)]
  | _ => []

end Package

/-- Packages in order; later ones take over what earlier ones offer too. -/
structure Registry where
  packages : List Package
deriving DecidableEq, Repr

namespace Registry

/-- The packages that scripts can count on. -/
def standard : Registry :=
  ⟨[.event, .control, .motion, .looks, .sensing, .procedures, .peripheral]⟩

/-- The block of an opcode. -/
def block? (registry : Registry) (opcode : String) : Option Block :=
  registry.packages.reverse.findSome? fun package => package.blocks.lookup opcode

/-- Whether an opcode names a block. -/
def hasBlock (registry : Registry) (opcode : String) : Bool := (registry.block? opcode).isSome

/-- Whether a hat restarts its threads, if the name is that of a hat. -/
def hat? (registry : Registry) (name : String) : Option Bool :=
  registry.packages.reverse.findSome? fun package => package.hats.lookup name

/-- Whether a name is that of a hat. -/
def isHat (registry : Registry) (name : String) : Bool := (registry.hat? name).isSome

/-- Texts in rising order, each once. -/
def sortedOnce (names : List String) : List String :=
  (Fields.ofList (names.map fun name => (name, ()))).map Prod.fst

/-- All opcodes in rising order. -/
def opcodes (registry : Registry) : List String :=
  sortedOnce (registry.packages.flatMap fun package => package.blocks.map Prod.fst)

/-- All hats in rising order, and whether each restarts its threads. -/
def hats (registry : Registry) : List (String × Bool) :=
  Fields.ofList (registry.packages.flatMap Package.hats)

/-- The opcodes among some that name no block, in rising order, each once. -/
def missing (registry : Registry) (opcodes : List String) : List String :=
  sortedOnce (opcodes.filter fun opcode => !registry.hasBlock opcode)

end Registry

end SpriteMachine
