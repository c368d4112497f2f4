import SerialBus.Dma
import SerialBus.Lines

/-!
# Traces

A trace is everything that an outside observer of the bus sees, in order: register
accesses with the values that went over, drives of select lines, commands to the
DMA engine, and readings of the clock.

A reading of the clock leaves no text, because nobody outside notices it.  When a
trace is written out, an event that is repeated is written once with the number of
its repetitions (`Trace.lines`).
-/

set_option autoImplicit false

namespace SerialBus

/-- Something that happened on a bus whose controller has registers `ρ`. -/
inductive Event (ρ : Type) where
  /-- The pins were routed and the controller's clock switched on. -/
  | enable
  | read (register : ρ) (value : UInt32)
  | write (register : ρ) (value : UInt32)
  | line (event : LineEvent)
  | dma (command : Dma.Command)
  /-- The clock was read. -/
  | clock (now : UInt64)
  /-- The select pin of a device adapter was driven. -/
  | adapter (level : Level)
  /-- A device adapter let time pass. -/
  | delay (nanoseconds : UInt32)
  deriving DecidableEq, Repr

namespace Event

variable {ρ : Type}

/-- An event written out, if it leaves a text. -/
def text? (name : ρ → String) : Event ρ → Option String
  | .enable => some "enable"
  | .read register value => some ("r " ++ name register ++ " " ++ toString value.toNat)
  | .write register value => some ("w " ++ name register ++ " " ++ toString value.toNat)
  | .line event => some event.text
  | .dma command => some command.text
  | .clock _ => none
  | .adapter level => some ("adapter " ++ level.text)
  | .delay nanoseconds => some ("delay " ++ toString nanoseconds.toNat)

end Event

namespace Trace

/-- A text that occurs a number of times in a row, written once. -/
def repeated (text : String) (count : Nat) : String :=
  if count ≤ 1 then text else text ++ " x" ++ toString count

/-- Texts with every run of equal neighbours written once, given the run that is
still open. -/
def joinRuns (text : String) (count : Nat) : List String → List String
  | [] => [repeated text count]
  | next :: rest =>
      if next = text then joinRuns text (count + 1) rest
      else repeated text count :: joinRuns next 1 rest

/-- A trace written out, one line for every run of equal events. -/
def lines {ρ : Type} (name : ρ → String) (events : List (Event ρ)) : List String :=
  match events.filterMap (Event.text? name) with
  | [] => []
  | first :: rest => joinRuns first 1 rest

end Trace

end SerialBus
