import Mathlib.Data.Prod.Lex
import MiniKernel.Kernel
import MiniKernel.Proofs.Schedule.Ticks

/-! What the clock shows. A validated quantum divides the second, so no time is lost between ticks and
seconds, and days, hours, minutes and seconds are the digits of the seconds in a mixed base. -/

namespace MiniKernel

namespace Uptime

structure Shows (uptime : Uptime) (seconds : Nat) : Prop where
  total : 86400 * uptime.days + 3600 * uptime.hours + 60 * uptime.minutes + uptime.seconds = seconds
  hours_lt : uptime.hours < 24
  minutes_lt : uptime.minutes < 60
  seconds_lt : uptime.seconds < 60

def units (uptime : Uptime) : Nat ×ₗ Nat ×ₗ Nat ×ₗ Nat :=
  toLex (uptime.days, toLex (uptime.hours, toLex (uptime.minutes, uptime.seconds)))

theorem ofTicks_shows (ticks rate : Nat) : (ofTicks ticks rate).Shows (ticks / rate) := by
  have seconds : (if rate = 0 then 0 else ticks / rate) = ticks / rate := by
    split
    · rw [‹rate = 0›, Nat.div_zero]
    · rfl
  rw [ofTicks, seconds]
  generalize ticks / rate = seconds
  constructor <;> dsimp only <;> omega

variable {first second : Uptime} {fewer more : Nat}

/-- Times are compared unit by unit, since no unit but the largest reaches the next one. -/
theorem Shows.units_le_iff (left : first.Shows fewer) (right : second.Shows more) :
    first.units ≤ second.units ↔ fewer ≤ more := by
  obtain ⟨leftTotal, leftHours, leftMinutes, leftSeconds⟩ := left
  obtain ⟨rightTotal, rightHours, rightMinutes, rightSeconds⟩ := right
  simp only [units, Prod.Lex.toLex_le_toLex]
  omega

theorem Shows.units_eq (left : first.Shows fewer) (right : second.Shows fewer) :
    first.units = second.units :=
  le_antisymm ((left.units_le_iff right).mpr le_rfl) ((right.units_le_iff left).mpr le_rfl)

theorem ext_units (units : first.units = second.units) (ticks : first.ticks = second.ticks) :
    first = second := by
  obtain ⟨days, hours, minutes, seconds, count⟩ := first
  obtain ⟨_, _, _, _, _⟩ := second
  simp only [Uptime.units, toLex_inj, Prod.mk.injEq] at units
  obtain ⟨rfl, rfl, rfl, rfl⟩ := units
  cases ticks
  rfl

end Uptime

namespace Config

variable {config : Config}

theorem div_rate (even : 1000 % config.quantum = 0) (ticks : Nat) :
    ticks / (1000 / config.quantum) = ticks * config.quantum / 1000 := by
  calc ticks / (1000 / config.quantum)
      = ticks * config.quantum / (1000 / config.quantum * config.quantum) :=
        (Nat.mul_div_mul_right ticks _ (quantum_pos even)).symm
    _ = ticks * config.quantum / 1000 := by rw [rate_mul_quantum even]

theorem ofTicks_rate_shows (even : 1000 % config.quantum = 0) (ticks : Nat) :
    (Uptime.ofTicks ticks (1000 / config.quantum)).Shows (ticks * config.quantum / 1000) := by
  rw [← div_rate even]
  exact Uptime.ofTicks_shows ticks _

structure TellsTime (config : Config) (rate : Nat) : Prop where
  shows : ∀ ticks, (Uptime.ofTicks ticks rate).Shows (ticks * config.quantum / 1000) ∧
    (Uptime.ofTicks ticks rate).ticks = ticks
  unique : ∀ ticks uptime, uptime.Shows (ticks * config.quantum / 1000) → uptime.ticks = ticks →
    uptime = Uptime.ofTicks ticks rate
  monotone : ∀ earlier later, earlier ≤ later →
    (Uptime.ofTicks earlier rate).units ≤ (Uptime.ofTicks later rate).units
  inRange : ∀ ticks, Word.div ticks rate = .ok (ticks * config.quantum / 1000) ∧
    ticks * config.quantum / 1000 ≤ ticks ∧ (Uptime.ofTicks ticks rate).days ≤ ticks

theorem tellsTime (even : 1000 % config.quantum = 0) : config.TellsTime (1000 / config.quantum) := by
  have shows := ofTicks_rate_shows even
  refine ⟨fun ticks => ⟨shows ticks, rfl⟩, ?unique, ?monotone, ?inRange⟩
  case unique =>
    intro ticks uptime shown counted
    exact Uptime.ext_units (shown.units_eq (shows ticks)) counted
  case monotone =>
    intro earlier later le
    rw [(shows earlier).units_le_iff (shows later)]
    exact Nat.div_le_div_right (Nat.mul_le_mul_right _ le)
  case inRange =>
    intro ticks
    have total := (shows ticks).total
    have bound : ticks * config.quantum / 1000 ≤ ticks := by
      rw [← div_rate even]
      exact Nat.div_le_self ..
    refine ⟨?_, bound, by omega⟩
    rw [Word.div, if_neg (rate_pos even).ne', div_rate even]

/-- Under a validated configuration the clock breaks the elapsed time down exactly, for every number of
ticks, and this is what a kernel under it reports. -/
theorem validate_tellsTime (valid : config.validate = .ok ()) :
    ∃ rate, config.tickRate = .ok rate ∧ config.TellsTime rate ∧
      ∀ kernel : Kernel, (kernel.core.scheduler.map Scheduler.config).getD {} = config →
        kernel.uptime = .done kernel (Uptime.ofTicks kernel.clock.ticks rate) := by
  obtain ⟨-, quantum, even, -⟩ := Scheduler.validate_ok valid
  have rate := tickRate_ok quantum
  refine ⟨_, rate, tellsTime even, fun kernel inForce => ?_⟩
  rw [Kernel.uptime, inForce, rate]
  rfl

theorem validate_tellsTime_eighth :
    ({ quantum := 8 } : Config).validate = .ok () ∧
      ({ quantum := 8 } : Config).tickRate = .ok 125 ∧ ({ quantum := 8 } : Config).TellsTime 125 ∧
      Word.mul Word.max 8 = .error .mulOverflow ∧
      (Uptime.ofTicks Word.max 125).Shows 147573952589676412 := by
  have valid : ({ quantum := 8 } : Config).validate = .ok () := by decide
  obtain ⟨rate, rated, tells, -⟩ := validate_tellsTime valid
  obtain rfl : 125 = rate := Except.ok.inj rated
  exact ⟨valid, rated, tells, by decide, (tells.shows Word.max).1⟩

end Config

end MiniKernel
