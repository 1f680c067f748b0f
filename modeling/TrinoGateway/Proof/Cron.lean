import Mathlib.Algebra.Order.Field.Rat
import Mathlib.Data.Int.LeastGreatest
import Mathlib.Tactic.Linarith
import TrinoGateway.Spec.Cron

/-!
# Whether a schedule matches now

`IsTimeInCron` looks for the next activation strictly after the instant, and so answers for the
minute after the one that contains it. A schedule that never fires has the zero time as its next
activation, which is in the past.

`isTimeInCron_exact_iff`: **the answer is that for the minute that contains the instant exactly
when the minute after it has the same answer**, where a schedule with no activation ahead counts as
matching that minute.
-/

namespace TrinoGateway.Cron

open Time

theorem minutes_sub_le_one_iff {u t : ℤ} : minutes (sub u t) ≤ 1 ↔ u - t ≤ minute := by
  have hpos : (0 : ℚ) < minute := by norm_num [minute]
  rw [minutes, div_le_one₀ hpos, Int.cast_le]
  -- a minute is within the 64 bits
  simp only [sub, minute]
  omega

variable {c : Cron} {s : c.Schedule} {sched : String} {t : ℤ}

/-- The minute that contains an instant. -/
theorem minute_bounds (t : ℤ) : t / minute * minute ≤ t ∧ t < (t / minute + 1) * minute := by
  have h := Int.mul_ediv_add_emod t minute
  have hpos : 0 < minute := by decide
  have hr := Int.emod_nonneg t hpos.ne'
  have hr' := Int.emod_lt_of_pos t hpos
  constructor
  · linarith
  · linarith

/-- The minute after an instant is well before the horizon. -/
theorem fires_next_iff (h : c.Lawful) :
    c.Fires s t (t / minute + 1) ↔ c.covers s (t / minute + 1) = true := by
  have hb := minute_bounds t
  have hh := h.five_years t
  have hpos : 0 < minute := by decide
  refine ⟨fun hf => hf.2.2, fun hc => ⟨hb.2, ?_, hc⟩⟩
  linarith

/-- A minute that begins after the instant and no later than a minute on is the next one. -/
theorem sub_le_minute_iff {m : ℤ} (hm : t < m * minute) :
    m * minute - t ≤ minute ↔ m = t / minute + 1 := by
  have hb := minute_bounds t
  have hpos : 0 < minute := by decide
  have hlow : t / minute < m := Int.ediv_lt_of_lt_mul hpos hm
  constructor
  · intro hsub
    by_contra hne
    have hle : t / minute + 2 ≤ m := by omega
    have := mul_le_mul_of_nonneg_right hle hpos.le
    linarith
  · rintro rfl
    linarith

theorem isTimeInCron_eq (hs : c.parseStandard sched = .ok s) :
    c.isTimeInCron t sched = .ok (decide (c.next s t - t ≤ minute)) := by
  simp only [isTimeInCron, hs, minutes_sub_le_one_iff]

/-- **What is answered**: whether the schedule matches the minute after the one that contains the
instant, or never fires. -/
theorem isTimeInCron_eq_true_iff (h : c.Lawful) (hs : c.parseStandard sched = .ok s) :
    c.isTimeInCron t sched = .ok true ↔
      c.covers s (t / minute + 1) ∨ (∀ m, ¬ c.Fires s t m) ∧ -minute ≤ t := by
  rw [isTimeInCron_eq hs, Except.ok.injEq, decide_eq_true_eq, ← fires_next_iff h]
  by_cases hnever : ∀ m, ¬ c.Fires s t m
  · have hno := hnever (t / minute + 1)
    rw [h.never s t hnever]
    constructor
    · exact fun hle => Or.inr ⟨hnever, by linarith⟩
    · rintro (hf | ⟨-, hle⟩)
      · exact absurd hf hno
      · linarith
  · push Not at hnever
    -- the first minute at which it fires
    obtain ⟨m, hm, hleast⟩ := Int.exists_least_of_bdd (P := c.Fires s t)
      ⟨t / minute, fun m hf => (Int.ediv_lt_of_lt_mul (by decide) hf.1).le⟩ hnever
    have hfirst : ∀ m' < m, ¬ c.Fires s t m' := fun m' hlt hf => absurd (hleast m' hf) (by omega)
    rw [h.least s t m hm hfirst, sub_le_minute_iff hm.1]
    constructor
    · rintro rfl
      exact Or.inl hm
    · rintro (hf | ⟨hno, -⟩)
      · -- no minute after the instant is before the next one
        have hlow := Int.ediv_lt_of_lt_mul (by decide) hm.1
        exact le_antisymm (hleast _ hf) hlow
      · exact absurd hm (hno m)

/-- **When the answer is that for the current minute.** -/
theorem isTimeInCron_exact_iff (h : c.Lawful) (hs : c.parseStandard sched = .ok s) (t : ℤ) :
    c.isTimeInCron t sched = .ok (c.covers s (t / minute)) ↔
      (c.covers s (t / minute) ↔
        c.covers s (t / minute + 1) ∨ (∀ m, ¬ c.Fires s t m) ∧ -minute ≤ t) := by
  rw [← isTimeInCron_eq_true_iff h hs, isTimeInCron_eq hs]
  cases c.covers s (t / minute) <;> simp

/-- Two schedules: ten o'clock every day, and the thirtieth of February. -/
def tenOrNever : Cron where
  Schedule := Option ℤ
  parseStandard sched :=
    if sched = "0 10 * * *" then .ok (some 600)
    else if sched = "0 0 30 2 *" then .ok none
    else .error (.text "failed to parse")
  covers s m := s.any fun k => (m - k) % 1440 = 0
  next s t :=
    s.elim 0 fun k => (t / minute + 1 + (k - (t / minute + 1)) % 1440) * minute
  horizon t := t + 5 * 365 * 24 * 60 * minute

/-- The next minute of the day is at most a day ahead. -/
theorem tenOrNever_fires (k t : ℤ) : tenOrNever.Fires (some k) t
    (t / minute + 1 + (k - (t / minute + 1)) % 1440) := by
  refine ⟨?_, ?_, ?_⟩
  · simp only [minute]
    omega
  · simp only [tenOrNever, minute]
    omega
  · simp only [tenOrNever, Option.any_some, decide_eq_true_eq]
    omega

theorem tenOrNever_lawful : tenOrNever.Lawful := by
  refine ⟨fun t => le_rfl, fun s t m hm hleast => ?_, fun s t hnever => ?_⟩
  · cases s with
    | none => exact absurd hm.2.2 (by simp [tenOrNever])
    | some k =>
      have hlow := Int.ediv_lt_of_lt_mul (by decide) hm.1
      have hk : (m - k) % 1440 = 0 := by simpa [tenOrNever] using hm.2.2
      have hle : ¬ t / minute + 1 + (k - (t / minute + 1)) % 1440 < m := fun hlt =>
        hleast _ hlt (tenOrNever_fires k t)
      have heq : t / minute + 1 + (k - (t / minute + 1)) % 1440 = m := by omega
      exact congrArg (· * minute) heq
  · cases s with
    | none => rfl
    | some k => exact absurd (tenOrNever_fires k t) (hnever _)

/-- Ten o'clock on the first of January 2024. -/
def tenSharp : ℤ := (738885 * 1440 + 600) * minute

/-- At noon the schedule of ten o'clock is answered as it should be. -/
theorem tenOrNever_noon : tenOrNever.isTimeInCron (tenSharp + 120 * minute) "0 10 * * *" =
    .ok (tenOrNever.covers (some 600) ((tenSharp + 120 * minute) / minute)) := by
  refine (isTimeInCron_exact_iff tenOrNever_lawful rfl _).mpr (iff_of_false (by decide) ?_)
  rintro (hnext | ⟨hnever, -⟩)
  · exact absurd hnext (by decide)
  · exact hnever _ (tenOrNever_fires 600 _)

/-- At ten o'clock sharp the answer is no, and for the thirtieth of February it is yes. -/
theorem tenOrNever_inverted :
    tenOrNever.Lawful ∧
      (tenOrNever.parseStandard "0 10 * * *" = .ok (some 600) ∧
        tenOrNever.covers (some 600) (tenSharp / minute) = true ∧
        tenOrNever.isTimeInCron tenSharp "0 10 * * *" = .ok false) ∧
      (tenOrNever.parseStandard "0 0 30 2 *" = .ok none ∧
        (∀ m, tenOrNever.covers none m = false) ∧
        tenOrNever.isTimeInCron tenSharp "0 0 30 2 *" = .ok true) := by
  refine ⟨tenOrNever_lawful, ⟨rfl, by decide, ?_⟩, rfl, fun _ => rfl, ?_⟩
  · exact (isTimeInCron_eq (s := some 600) rfl).trans (by decide)
  · exact (isTimeInCron_eq (s := none) rfl).trans (by decide)

end TrinoGateway.Cron
