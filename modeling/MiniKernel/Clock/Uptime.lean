/-!
A tick count broken down into days, hours, minutes and seconds.
-/

namespace MiniKernel

structure Uptime where
  days : Nat
  hours : Nat
  minutes : Nat
  seconds : Nat
  ticks : Nat
  deriving DecidableEq, Repr

namespace Uptime

/-- The time that `ticks` ticks take at `rate` ticks a second; a clock that stands still has seen
no time. -/
def ofTicks (ticks rate : Nat) : Uptime :=
  let seconds := if rate = 0 then 0 else ticks / rate
  let minutes := seconds / 60
  let hours := minutes / 60
  { days := hours / 24
    hours := hours % 24
    minutes := minutes % 60
    seconds := seconds % 60
    ticks }

def text (uptime : Uptime) : String :=
  let { days, hours, minutes, seconds, ticks } := uptime
  s!"system up for: {days} days, {hours} hours, {minutes} minutes, {seconds} seconds ({ticks} ticks)"

end Uptime

end MiniKernel
