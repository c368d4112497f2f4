import SerialBus.Bench.Board
import SerialBus.Host.Call

/-!
# Scripts for a test bench

A bench is a host over a simulated board together with the arbiter of its bus.  A
script is a list of steps: calls on the host, whole sessions, attempts on the
arbiter, changes of the board from outside, and accesses to the controller that go
past the host.

Every step leaves a record of what it answered, of the stage it left the bus in,
and of what was seen on the bus while it ran.  A session leaves such a record for
its opening and for each of its steps as well; what is seen while it ends belongs
to the session itself.
-/

set_option autoImplicit false

namespace SerialBus

namespace Bench

/-! ## Steps -/

/-- An access to the controller that goes past the host. -/
inductive Direct where
  | bringUp (clockHz : UInt32)
  | configure (device : Device) (mode : Mode) (divisor : UInt32)
  | select (device : Device)
  | finish
  | poll (condition : Condition)
  | send (unit : UInt16) (last : Bool)
  | take

/-- A step that is possible inside a session as well as outside. -/
inductive Common where
  | tryLock
  | unlock
  | advance (ticks : UInt64)
  | change (new : Board.Change)

/-- A step inside a session. -/
inductive SessionStep where
  | device
  | transceive (w : Width) (outgoing incoming : Option (List w.Word)) (length : Nat)
  | common (step : Common)

/-- A step of a script. -/
inductive Step where
  | call (call : Call)
  | settings
  | direct (access : Direct)
  | common (step : Common)
  | poke (index : Nat) (value : UInt32)
  | session (device : Device) (mode : Mode) (baudHz : UInt32) (steps : List SessionStep)
      (close : Bool)

/-! ## Records -/

/-- What a step answers. -/
inductive Value where
  | reply (reply : Reply)
  | done
  | flag (value : Bool)
  | number (value : UInt16)
  | device (device : Device)
  | settings (clockHz : UInt32) (discipline : Discipline)
  | opened
  | failed (failure : Failure)

/-- What a step inside a session leaves behind. -/
structure SessionRecord where
  value : Value
  events : List String

/-- How a session went after it was opened. -/
structure SessionLog where
  /-- What was seen while it was opened. -/
  opening : List String
  steps : List SessionRecord
  /-- The outcome of closing it, unless it was abandoned. -/
  closing : Option Outcome

/-- What a step leaves behind. -/
structure Record where
  value : Value
  stage : Stage
  events : List String
  arbiter : Arbiter
  clock : UInt64
  session : Option SessionLog := none

/-- The changing parts of a bench. -/
structure World (ρ κ : Type) where
  bus : Bus ρ Board κ
  arbiter : Arbiter := {}

namespace World

variable {ρ κ : Type}

/-- A world whose board has changed. -/
def changeBoard (change : Board → Board) (world : World ρ κ) : World ρ κ :=
  { world with bus := { world.bus with hardware := change world.bus.hardware } }

/-- A world on whose bus nothing was seen yet. -/
def forget (world : World ρ κ) : World ρ κ :=
  { world with bus := { world.bus with history := [] } }

/-- What was seen on the bus, written out. -/
def seen (controller : Controller ρ) (world : World ρ κ) : List String :=
  Trace.lines controller.name world.bus.trace

end World

/-! ## Running a script -/

section Run

variable {ρ κ : Type} (host : Host ρ Board κ)

/-- Carry out an access that goes past the host. -/
def direct (bus : Bus ρ Board κ) : Direct → Value × Bus ρ Board κ
  | .bringUp clockHz => (.done, host.run (host.controller.bringUp clockHz) bus)
  | .configure device mode divisor =>
      (.done, host.run (host.controller.configure device mode divisor) bus)
  | .select device => (.done, host.run (host.controller.select device) bus)
  | .finish => (.done, host.run host.controller.finish bus)
  | .poll condition =>
      let (ready, bus) := host.poll condition bus
      (.flag ready, bus)
  | .send unit last => (.done, host.send unit last bus)
  | .take =>
      let (unit, bus) := host.take bus
      (.number unit, bus)

/-- Carry out a step that is possible anywhere. -/
def common (world : World ρ κ) : Common → Value × World ρ κ
  | .tryLock =>
      let (taken, arbiter) := world.arbiter.tryLock
      (.flag taken, { world with arbiter := arbiter })
  | .unlock => (.done, { world with arbiter := world.arbiter.release })
  | .advance ticks => (.done, world.changeBoard (Board.advance ticks))
  | .change new => (.done, world.changeBoard (Board.change new))

/-- Carry out a call on the host. -/
def callStep (world : World ρ κ) (call : Call) : Option (Value × World ρ κ) :=
  (host.call world.bus call).map fun (reply, bus) => (.reply reply, { world with bus := bus })

/-- Carry out one step of a session. -/
def sessionStep (session : Session) (world : World ρ κ) :
    SessionStep → Option (Value × World ρ κ)
  | .device => some (.device session.device, world)
  | .transceive w outgoing incoming length =>
      callStep host world (.transceive w outgoing incoming length)
  | .common step => some (common world step)

/-- Carry out the steps of a session. -/
def sessionSteps (session : Session) (world : World ρ κ) :
    List SessionStep → Option (List SessionRecord × World ρ κ)
  | [] => some ([], world)
  | first :: rest =>
      match sessionStep host session world.forget first with
      | none => none
      | some (value, world) =>
          (sessionSteps session world rest).map fun (records, last) =>
            (⟨value, world.seen host.controller⟩ :: records, last)

/-- End a session, and report its outcome if it is closed. -/
def endSession (session : Session) (close : Bool) (world : World ρ κ) :
    Option (Option Outcome × World ρ κ) :=
  if close then
    (host.closeSession session world.bus).map fun (outcome, bus) =>
      (some outcome, { world with bus := bus })
  else
    (host.abandonSession session world.bus).map fun bus => (none, { world with bus := bus })

/-- Carry out a session from taking the lock to giving it back. -/
def session (world : World ρ κ) (device : Device) (mode : Mode) (baudHz : UInt32)
    (steps : List SessionStep) (close : Bool) :
    Option (Value × Option SessionLog × World ρ κ) :=
  match world.arbiter.acquire 0 with
  | (.error cause, arbiter) =>
      some (.failed cause.toFailure, none, { world with arbiter := arbiter })
  | (.ok held, arbiter) =>
      match host.openSession held device mode baudHz world.bus with
      | (.error failure, bus) =>
          some (.failed failure, none, ⟨bus, arbiter.release⟩)
      | (.ok session, bus) =>
          let opened : World ρ κ := ⟨bus, arbiter⟩
          match sessionSteps host session opened steps with
          | none => none
          | some (records, world) =>
              (endSession host session close world.forget).map fun (closing, world) =>
                (.opened, some ⟨opened.seen host.controller, records, closing⟩,
                  { world with arbiter := world.arbiter.release })

/-- Carry out a step on a bus on which nothing was seen yet. -/
def step (world : World ρ κ) : Step → Option (Value × Option SessionLog × World ρ κ)
  | .call call => (callStep host world call).map fun (value, world) => (value, none, world)
  | .settings => some (.settings host.clockHz host.discipline, none, world)
  | .direct access =>
      let (value, bus) := direct host world.bus access
      some (value, none, { world with bus := bus })
  | .common step =>
      let (value, world) := common world step
      some (value, none, world)
  | .poke index value => some (.done, none, world.changeBoard (Board.poke index value))
  | .session device mode baudHz steps close => session host world device mode baudHz steps close

/-- Carry out the steps of a script.  There is no answer when a wait never comes
back. -/
def runScript (world : World ρ κ) : List Step → Option (List Record × World ρ κ)
  | [] => some ([], world)
  | first :: rest =>
      match step host world.forget first with
      | none => none
      | some (value, log, world) =>
          (runScript world rest).map fun (records, last) =>
            ({ value := value
               stage := world.bus.stage
               events := world.seen host.controller
               arbiter := world.arbiter
               clock := world.bus.hardware.clock
               session := log } :: records, last)

end Run

end Bench

end SerialBus
