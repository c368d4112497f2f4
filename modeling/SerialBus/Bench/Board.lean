import SerialBus.Controller.Standard.Basic
import SerialBus.Controller.Usart.Basic
import SerialBus.Hardware
import SerialBus.WaitPolicy

/-!
# A simulated board

The board is hardware on which a bus can be tried out.  It keeps the registers of
either controller, answers every unit sent with the unit itself or with the next
of a list of answers, and can be told to be slow, to stall, or to stop answering.

Readiness is decided anew at each read of the status register.  A condition that
is stalled is not reported; receive readiness needs a unit that waits; and a
condition that is delayed is not reported until it was polled as often as the
delay says.  Sending a unit starts the delays afresh.

Instead of registers the board may be given plain memory.  Then every register is
the word of memory at its offset, and an access does nothing but read or write
that word.
-/

set_option autoImplicit false

namespace SerialBus

namespace Bench

/-- A value for each readiness condition. -/
structure PerCondition (α : Type) where
  txReady : α
  txEmpty : α
  rxReady : α
  deriving DecidableEq, Repr

namespace PerCondition

variable {α β γ : Type}

/-- The value for a condition. -/
def get (values : PerCondition α) : Condition → α
  | .txReady => values.txReady
  | .txEmpty => values.txEmpty
  | .rxReady => values.rxReady

/-- The values with that for one condition replaced. -/
def set (values : PerCondition α) (value : α) : Condition → PerCondition α
  | .txReady => { values with txReady := value }
  | .txEmpty => { values with txEmpty := value }
  | .rxReady => { values with rxReady := value }

/-- Values combined condition by condition. -/
def zipWith (combine : α → β → γ) (a : PerCondition α) (b : PerCondition β) :
    PerCondition γ where
  txReady := combine a.txReady b.txReady
  txEmpty := combine a.txEmpty b.txEmpty
  rxReady := combine a.rxReady b.rxReady

end PerCondition

/-! ## The state of the board -/

/-- The state of a simulated board. -/
structure Board where
  mode : UInt32 := 0
  slots : Vector UInt32 4 := Vector.replicate 4 0
  baudRate : UInt32 := 0
  interruptDisable : UInt32 := 0
  /-- The unit in the receive register. -/
  received : UInt32 := 0
  /-- Whether that unit waits to be read. -/
  waiting : Bool := false
  /-- Whether a reset leaves the registers as they are. -/
  sticky : Bool := false
  /-- Whether a unit is answered with itself. -/
  loopback : Bool := true
  /-- The answers still to be given when a unit is not answered with itself. -/
  answers : List UInt32 := []
  /-- Bits that show in every read of the receive register. -/
  receiveNoise : UInt32 := 0
  /-- Bits that show in every read of the status register. -/
  statusNoise : UInt32 := 0
  stalled : List Condition := []
  /-- How many polls must still pass before a condition is reported. -/
  delay : PerCondition Nat := ⟨0, 0, 0⟩
  /-- The delays that sending a unit starts; zero leaves a delay as it is. -/
  latency : PerCondition Nat := ⟨0, 0, 0⟩
  /-- After how many units the board stops answering. -/
  answerLimit : Option Nat := none
  /-- How far a status read moves the clock. -/
  tick : UInt64 := 0
  /-- The address of the first register, for a DMA engine. -/
  base : UInt64 := 0x40008000
  clock : UInt64 := 0
  /-- How often the board was enabled. -/
  enabled : Nat := 0
  /-- How many units were sent. -/
  sent : Nat := 0
  /-- How often the status register was read. -/
  statusReads : Nat := 0
  /-- Memory in place of the registers. -/
  memory : Option Memory := none

namespace Board

/-- How many words of memory stand in for registers. -/
def memoryWords : Nat := 16

/-- Memory that starts with the given words and goes on with zeros. -/
def memoryOf (words : List UInt32) : Memory where
  base := 0
  words := words ++ List.replicate (memoryWords - words.length) 0

/-- A board whose clock has moved on, up to the last instant there is. -/
def advance (ticks : UInt64) (board : Board) : Board :=
  { board with clock := WaitPolicy.instantAfter board.clock ticks }

/-! ## Register behaviour -/

/-- The status bit of a condition, the same on both controllers. -/
def statusBit : Condition → UInt32
  | .txReady => 0x002
  | .txEmpty => 0x200
  | .rxReady => 0x001

/-- Let a status value report a condition, unless it is stalled, has nothing to
report, or is delayed. -/
def report (value : UInt32) (board : Board) (condition : Condition) : UInt32 × Board :=
  if board.stalled.contains condition || (condition = .rxReady && !board.waiting) then
    (value, board)
  else
    match board.delay.get condition with
    | 0 => (value ||| statusBit condition, board)
    | left + 1 => (value, { board with delay := board.delay.set left condition })

/-- Read the status register. -/
def status (board : Board) : UInt32 × Board :=
  let board := { board with statusReads := board.statusReads + 1 }.advance board.tick
  [Condition.txReady, .txEmpty, .rxReady].foldl
    (fun (value, board) condition => report value board condition) (board.statusNoise, board)

/-- Whether the board still answers after one more unit. -/
def responds (board : Board) : Bool :=
  match board.answerLimit with
  | none => true
  | some limit => board.sent ≤ limit

/-- Take a unit from the transmit register and, as a rule, answer it. -/
def transmit (value : UInt32) (board : Board) : Board :=
  let board :=
    { board with
      sent := board.sent + 1
      delay := board.latency.zipWith (fun fresh old => if 0 < fresh then fresh else old)
        board.delay }
  if !board.responds then board
  else if board.loopback then { board with received := value &&& 0xFFFF, waiting := true }
  else
    { board with
      received := board.answers.headD 0
      answers := board.answers.tail
      waiting := true }

/-- Give the received unit away. -/
def receive (board : Board) : UInt32 × Board :=
  (board.received ||| board.receiveNoise, { board with waiting := false })

/-- Reset the standard controller, unless the board ignores resets. -/
def reset (board : Board) : Board :=
  if board.sticky then board
  else { board with mode := 0, slots := Vector.replicate 4 0, waiting := false }

/-- A board that was enabled once more. -/
def enable (board : Board) : Board :=
  { board with enabled := board.enabled + 1 }

/-! ## The board as hardware -/

namespace Standard

open SerialBus.Standard (Register)

/-- Read a register of the standard controller. -/
def read (register : Register) (board : Board) : UInt32 × Board :=
  match register with
  | .control | .transmit => (0, board)
  | .mode => (board.mode, board)
  | .settings slot => (board.slots[slot], board)
  | .status => board.status
  | .receive => board.receive

/-- Write a register of the standard controller. -/
def write (register : Register) (value : UInt32) (board : Board) : Board :=
  match register with
  | .control => if SerialBus.Standard.Control.reset.isFull value then board.reset else board
  | .transmit => board.transmit value
  | .mode => { board with mode := value }
  | .settings slot => { board with slots := board.slots.set slot value }
  | .status | .receive => board

end Standard

namespace Usart

open SerialBus.Usart (Register)

/-- Read a register of the USART. -/
def read (register : Register) (board : Board) : UInt32 × Board :=
  match register with
  | .control | .interruptDisable | .transmit => (0, board)
  | .mode => (board.mode, board)
  | .baudRate => (board.baudRate, board)
  | .status => board.status
  | .receive => board.receive

/-- Write a register of the USART. -/
def write (register : Register) (value : UInt32) (board : Board) : Board :=
  match register with
  | .control | .status | .receive => board
  | .interruptDisable => { board with interruptDisable := value }
  | .mode => { board with mode := value }
  | .baudRate => { board with baudRate := value }
  | .transmit => board.transmit value

end Usart

/-- A board as hardware, given how its registers behave.  With memory in place of
registers, a read of the status register still counts as a poll. -/
def hardware {ρ : Type} [DecidableEq ρ] (controller : Controller ρ)
    (read : ρ → Board → UInt32 × Board) (write : ρ → UInt32 → Board → Board) :
    Hardware ρ Board where
  enable := enable
  read := fun register board =>
    match board.memory with
    | none => read register board
    | some memory =>
        (memory.load (memory.base + controller.offset register),
          if register = controller.status then board.status.2 else board)
  write := fun register value board =>
    match board.memory with
    | none => write register value board
    | some memory =>
        { board with
          memory := some (memory.store (memory.base + controller.offset register) value) }
  address := fun register board => board.base + controller.offset register
  now := fun board => (board.clock, board)
  command := fun _ board => board
  elapse := fun _ board => board

/-- The board with a standard controller. -/
def standard : Hardware SerialBus.Standard.Register Board :=
  hardware SerialBus.Standard.controller Standard.read Standard.write

/-- The board with a USART. -/
def usart : Hardware SerialBus.Usart.Register Board :=
  hardware SerialBus.Usart.controller Usart.read Usart.write

/-! ## Changes from outside -/

/-- New values for some parts of a board. -/
structure Change where
  mode : Option UInt32 := none
  slots : Option (Vector UInt32 4) := none
  baudRate : Option UInt32 := none
  received : Option UInt32 := none
  waiting : Option Bool := none
  sticky : Option Bool := none
  loopback : Option Bool := none
  /-- Answers to be given after those that are still to be given. -/
  answers : Option (List UInt32) := none
  receiveNoise : Option UInt32 := none
  statusNoise : Option UInt32 := none
  stalled : Option (List Condition) := none
  delay : Option (PerCondition Nat) := none
  latency : Option (PerCondition Nat) := none
  answerLimit : Option (Option Nat) := none
  tick : Option UInt64 := none
  base : Option UInt64 := none

/-- A board with some parts changed; being given answers ends the loopback. -/
def change (new : Change) (board : Board) : Board :=
  { board with
    mode := new.mode.getD board.mode
    slots := new.slots.getD board.slots
    baudRate := new.baudRate.getD board.baudRate
    received := new.received.getD board.received
    waiting := new.waiting.getD board.waiting
    sticky := new.sticky.getD board.sticky
    loopback := if new.answers.isSome then false else new.loopback.getD board.loopback
    answers := board.answers ++ new.answers.getD []
    receiveNoise := new.receiveNoise.getD board.receiveNoise
    statusNoise := new.statusNoise.getD board.statusNoise
    stalled := new.stalled.getD board.stalled
    delay := new.delay.getD board.delay
    latency := new.latency.getD board.latency
    answerLimit := new.answerLimit.getD board.answerLimit
    tick := new.tick.getD board.tick
    base := new.base.getD board.base }

/-- A board with one word of its memory replaced, if it has any. -/
def poke (index : Nat) (value : UInt32) (board : Board) : Board :=
  { board with
    memory := board.memory.map fun memory =>
      { memory with words := memory.words.set index value } }

end Board

end Bench

end SerialBus
