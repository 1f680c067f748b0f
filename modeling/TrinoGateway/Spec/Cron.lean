import Mathlib.Data.Rat.Defs
import TrinoGateway.Spec.Spine

/-!
# Uptime schedules

`utils.IsTimeInCron`, with `robfig/cron` as a parameter. An instant is the number of nanoseconds
since the zero time.
-/

namespace TrinoGateway

/-- `robfig/cron`: its parser, and what it makes of a schedule. Minute `m` begins `m` minutes after
the zero time. -/
structure Cron where
  Schedule : Type
  parseStandard : String → Result Schedule
  /-- Whether a schedule matches a minute. -/
  covers : Schedule → ℤ → Bool
  next : Schedule → ℤ → ℤ
  /-- How far `next` looks ahead of an instant. -/
  horizon : ℤ → ℤ

namespace Time

/-- `time.Minute`. -/
def minute : ℤ := 60000000000

/-- `Time.Sub`, which saturates at the 64 bits of a `Duration`. -/
def sub (t u : ℤ) : ℤ :=
  max (-9223372036854775808) (min 9223372036854775807 (t - u))

/-- `Duration.Minutes`. The source's is a float, of which a comparison with `1` is exact. -/
def minutes (d : ℤ) : ℚ := d / minute

end Time

namespace Cron

open Time

variable (c : Cron)

/-- Minute `m` begins after `t`, up to the horizon, and the schedule matches it. -/
def Fires (s : c.Schedule) (t m : ℤ) : Prop :=
  t < m * minute ∧ m * minute ≤ c.horizon t ∧ c.covers s m

/-- What is assumed of `Next`: it is the least instant at which the schedule fires, and the zero
time where there is none within five years or more. -/
structure Lawful : Prop where
  five_years : ∀ t, t + 5 * 365 * 24 * 60 * minute ≤ c.horizon t
  least : ∀ s t m, c.Fires s t m → (∀ m' < m, ¬ c.Fires s t m') → c.next s t = m * minute
  never : ∀ s t, (∀ m, ¬ c.Fires s t m) → c.next s t = 0

/-- `utils.IsTimeInCron`. -/
def isTimeInCron (t : ℤ) (sched : String) : Result Bool :=
  match c.parseStandard sched with
  | .error err => .error err
  | .ok s =>
    let nextRun := c.next s t
    .ok (minutes (sub nextRun t) ≤ 1)

end Cron

end TrinoGateway
