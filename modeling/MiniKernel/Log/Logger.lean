import MiniKernel.Log.Record
import MiniKernel.Word

/-!
The logger keeps the newest lines in a bounded ring and hands every line to the console, if there
is one. Records that its filter holds back leave no trace.
-/

namespace MiniKernel

def defaultLogCapacity : Nat := 128

structure Logger where
  filter : Filter
  capacity : Nat
  /-- Retained lines, oldest first. -/
  lines : List String
  /-- All lines that the console has received, in order; `none` without a console. -/
  console : Option (List String)
  deriving Repr

namespace Logger

def new (filter : Filter) (capacity : Nat) (hasConsole : Bool) : Logger :=
  { filter, capacity, lines := [], console := if hasConsole then some [] else none }

/-- Bytes that the ring takes for each line it can hold, the text apart. -/
def lineBytes : Nat := 24

def create (filter : Filter) (capacity : Nat) (hasConsole : Bool) : Except Trap Logger :=
  (Word.buffer capacity lineBytes).map fun _ => new filter capacity hasConsole

def enabled (logger : Logger) (level : Level) : Bool := logger.filter.allows level

def retain (capacity : Nat) (lines : List String) (line : String) : List String :=
  if capacity = 0 then lines
  else if lines.length = capacity then lines.drop 1 ++ [line]
  else lines ++ [line]

def log (logger : Logger) (record : Record) : Logger :=
  if logger.enabled record.level then
    { logger with
      lines := retain logger.capacity logger.lines record.line
      console := logger.console.map (· ++ [record.line]) }
  else
    logger

def logAll (logger : Logger) (records : List Record) : Logger := records.foldl log logger

end Logger

end MiniKernel
