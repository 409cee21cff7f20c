import Mathlib.Algebra.Order.Floor.Div
import MiniKernel.Proofs.Schedule.WellFormed

/-! Durations in ticks. A validated quantum divides the second, so the detour over the tick rate loses
nothing: a duration takes the ticks that cover it, up to the number at which a word overflows. -/

namespace MiniKernel.Config

variable {config : Config}

theorem rate_mul_quantum (even : 1000 % config.quantum = 0) : 1000 / config.quantum * config.quantum = 1000 :=
  Nat.div_mul_cancel (Nat.dvd_of_mod_eq_zero even)

theorem quantum_pos (even : 1000 % config.quantum = 0) : 0 < config.quantum := by
  by_contra stopped
  rw [Nat.eq_zero_of_not_pos stopped] at even
  cases even

theorem rate_pos (even : 1000 % config.quantum = 0) : 0 < 1000 / config.quantum :=
  Nat.div_pos (Nat.le_of_dvd (by decide) (Nat.dvd_of_mod_eq_zero even)) (quantum_pos even)

/-- A number of ticks is enough for a duration if it covers it, or if it is the most there can be. -/
theorem ticksFor_le_iff (even : 1000 % config.quantum = 0) {ms ticks : Nat} :
    config.ticksFor ms ≤ ticks ↔ ms ≤ config.quantum * ticks ∨ Word.max / 1000 ≤ ticks := by
  have inMillis : ms * (1000 / config.quantum) ≤ 1000 * ticks ↔ ms ≤ config.quantum * ticks := by
    calc ms * (1000 / config.quantum) ≤ 1000 * ticks
        ↔ ms * (1000 / config.quantum) ≤ config.quantum * ticks * (1000 / config.quantum) := by
          rw [Nat.mul_right_comm, Nat.mul_comm config.quantum, rate_mul_quantum even]
      _ ↔ ms ≤ config.quantum * ticks := Nat.mul_le_mul_right_iff (rate_pos even)
  rw [← inMillis, ticksFor, Word.satMul, Word.satAdd]
  generalize ms * (1000 / config.quantum) = exact
  simp only [Word.max]
  omega

theorem ticksFor_eq (even : 1000 % config.quantum = 0) (ms : Nat) :
    config.ticksFor ms = min (ms ⌈/⌉ config.quantum) (Word.max / 1000) := by
  refine eq_of_forall_ge_iff fun ticks => ?_
  rw [ticksFor_le_iff even, min_le_iff, ceilDiv_le_iff_le_mul (quantum_pos even)]

theorem ticksFor_mono : Monotone config.ticksFor := by
  intro shorter longer le
  have scaled := Nat.mul_le_mul_right (1000 / config.quantum) le
  simp only [ticksFor, Word.satMul, Word.satAdd]
  omega

structure ConvertsExactly (config : Config) : Prop where
  rate : ∃ rate, config.tickRate = .ok rate ∧ rate * config.quantum = 1000
  exact : ∀ ms, config.ticksOfMillis ms = .ok (min (ms ⌈/⌉ config.quantum) (Word.max / 1000))
  monotone : ∀ shorter longer few many, shorter ≤ longer → config.ticksOfMillis shorter = .ok few →
    config.ticksOfMillis longer = .ok many → few ≤ many
  covers : ∀ ms ticks, config.ticksOfMillis ms = .ok ticks →
    ms ≤ config.quantum * (Word.max / 1000) → ms ≤ ticks * config.quantum
  tight : ∀ ms ticks, config.ticksOfMillis ms = .ok ticks → 1 ≤ ms →
    1 ≤ ticks ∧ (ticks - 1) * config.quantum < ms

theorem validate_convertsExactly (valid : config.validate = .ok ()) : config.ConvertsExactly := by
  obtain ⟨-, quantum, even, -⟩ := Scheduler.validate_ok valid
  have converted : ∀ {ms ticks}, config.ticksOfMillis ms = .ok ticks → config.ticksFor ms = ticks := by
    intro ms ticks found
    rw [ticksOfMillis_ok quantum] at found
    exact Except.ok.inj found
  refine ⟨⟨1000 / config.quantum, by simp [tickRate, Word.div, quantum], rate_mul_quantum even⟩, ?exact,
    ?monotone, ?covers, ?tight⟩
  case exact =>
    intro ms
    rw [ticksOfMillis_ok quantum, ticksFor_eq even]
  case monotone =>
    intro shorter longer few many le first second
    rw [← converted first, ← converted second]
    exact ticksFor_mono le
  case covers =>
    intro ms ticks found countable
    rw [Nat.mul_comm]
    rcases (ticksFor_le_iff even).mp (converted found).le with covered | most
    · exact covered
    · exact countable.trans (Nat.mul_le_mul_left _ most)
  case tight =>
    intro ms ticks found nonzero
    have fewer : ∀ {less}, less < ticks → config.quantum * less < ms := by
      intro less before
      rw [← converted found, ← Nat.not_le, ticksFor_le_iff even, not_or, Nat.not_le] at before
      exact before.1
    have positive : 1 ≤ ticks := by
      by_contra without
      have covered := (ticksFor_le_iff even).mp (converted found).le
      rw [Nat.eq_zero_of_not_pos without] at covered
      simp only [Nat.mul_zero, Word.max] at covered
      omega
    refine ⟨positive, ?_⟩
    rw [Nat.mul_comm]
    exact fewer (Nat.sub_lt positive Nat.one_pos)

theorem validate_convertsExactly_eighth :
    ({ quantum := 8 } : Config).validate = .ok () ∧ ({ quantum := 8 } : Config).ConvertsExactly ∧
      ({ quantum := 8 } : Config).ticksOfMillis Word.max = .ok 18446744073709551 := by
  have valid : ({ quantum := 8 } : Config).validate = .ok () := by decide
  have converts := validate_convertsExactly valid
  refine ⟨valid, converts, ?_⟩
  rw [converts.exact]
  decide

end MiniKernel.Config
