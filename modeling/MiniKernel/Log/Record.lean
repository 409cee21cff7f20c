import MiniKernel.Text.Pad

/-!
Log records: how severe a record is, which ones a filter lets through, and the line that a record
is written as.
-/

namespace MiniKernel

inductive Level
  | error
  | warn
  | info
  | debug
  | trace
  deriving DecidableEq, Repr

namespace Level

/-- The most severe level has the lowest rank. -/
def rank : Level → Nat
  | .error => 1
  | .warn => 2
  | .info => 3
  | .debug => 4
  | .trace => 5

def word : Level → String
  | .error => "error"
  | .warn => "warn"
  | .info => "info"
  | .debug => "debug"
  | .trace => "trace"

def ofWord? : String → Option Level
  | "error" => some .error
  | "warn" => some .warn
  | "info" => some .info
  | "debug" => some .debug
  | "trace" => some .trace
  | _ => none

end Level

/-- A filter lets through the records of at least a given severity, or none. -/
inductive Filter
  | off
  | upTo (level : Level)
  deriving DecidableEq, Repr

namespace Filter

def allows : Filter → Level → Bool
  | .off, _ => false
  | .upTo limit, level => level.rank ≤ limit.rank

def ofWord? (word : String) : Option Filter :=
  if word = "off" then some .off else (Level.ofWord? word).map .upTo

end Filter

structure Record where
  level : Level
  component : String
  message : String
  deriving DecidableEq, Repr

def Record.line (record : Record) : String :=
  Text.pad .left 8 ("[" ++ record.level.word ++ "]") ++ record.component ++ ": " ++ record.message

def Filter.lines (filter : Filter) (records : List Record) : List String :=
  (records.filter fun record => filter.allows record.level).map Record.line

end MiniKernel
