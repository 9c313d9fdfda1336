/-
**Timeouts on the SysTick timer.**

A timeout is a number of milliseconds and the count at which the timer was last looked at.  The
timer counts down and is reloaded every millisecond; whoever waits calls `is_timeout_ms` again and
again, and it takes one millisecond off whenever the count has gone up since the last call.

Main definitions:

* `Solar48.SysTick` — the timer;
* `Solar48.initTimeoutMs`, `Solar48.isTimeoutMs` — the code;
* `Solar48.Wait`, `Solar48.Wait.polls` — a timeout that is polled while the timer runs.

Main results:

* `Solar48.Wait.NotEarly.poll`, `Solar48.Wait.Exact.poll` — what one call preserves;
* `Solar48.isTimeoutMs_reloads` — **a timeout is never early, and it is exact if it is polled at
  least once in every round of the timer**.
-/

import Solar48.DownCounter
import Mathlib.Algebra.BigOperators.Group.List.Basic
import Mathlib.Algebra.GroupWithZero.Nat
import Mathlib.Data.List.Induction

set_option relaxedAutoImplicit false
set_option autoImplicit false

namespace Solar48

open DownCounter

/-! ### The code -/

/-- The SysTick timer: `LOAD` and `VAL` have 24 bits. -/
structure SysTick where
  counter : Counter
  load_le : counter.load ≤ 0xFFFFFF

namespace SysTick

/-- `SysTick->VAL`. -/
def val (s : SysTick) : UInt32 := UInt32.ofNat s.counter.val

/-- The timer some ticks later. -/
def after (s : SysTick) (ticks : ℕ) : SysTick where
  counter := s.counter.after ticks
  load_le := by
    rw [Counter.load_after]
    exact s.load_le

theorem toNat_val (s : SysTick) : s.val.toNat = s.counter.val := by
  have := s.counter.val_le
  have := s.load_le
  have hsize : UInt32.size = 2 ^ 32 := rfl
  exact UInt32.toNat_ofNat_of_lt' (by omega)

theorem val_lt_iff (s t : SysTick) : s.val < t.val ↔ s.counter.val < t.counter.val := by
  rw [UInt32.lt_iff_toNat_lt, toNat_val, toNat_val]

end SysTick

/-- `TIMEOUT_MS`. -/
structure TimeoutMs where
  valCntCurrent : UInt32
  timeoutMs : UInt32
  deriving DecidableEq, Repr

/-- `init_timeout_ms`, with the value of `SysTick->VAL`. -/
def initTimeoutMs (val timeout : UInt32) : TimeoutMs := ⟨val, timeout⟩

/-- `is_timeout_ms`, with the value of `SysTick->VAL`: the timeout afterwards, and the answer. -/
def isTimeoutMs (currentVal : UInt32) (t : TimeoutMs) : TimeoutMs × Bool :=
  let timeoutMs :=
    if currentVal > t.valCntCurrent then
      if t.timeoutMs ≠ 0 then t.timeoutMs - 1 else t.timeoutMs
    else t.timeoutMs
  (⟨currentVal, timeoutMs⟩, timeoutMs == 0)

/-- What a call leaves of the milliseconds. -/
theorem toNat_timeoutMs_isTimeoutMs (val : UInt32) (t : TimeoutMs) :
    (isTimeoutMs val t).1.timeoutMs.toNat =
      t.timeoutMs.toNat - if t.valCntCurrent < val then 1 else 0 := by
  unfold isTimeoutMs
  by_cases hup : t.valCntCurrent < val
  · by_cases hzero : t.timeoutMs = 0
    · simp [hzero]
    · have hpos : 1 ≤ t.timeoutMs.toNat := by
        rcases Nat.eq_zero_or_pos t.timeoutMs.toNat with h | h
        · exact absurd (UInt32.toNat_inj.1 h) hzero
        · exact h
      have hone : (1 : UInt32) ≤ t.timeoutMs := UInt32.le_iff_toNat_le.2 hpos
      simp [hup, hzero, UInt32.toNat_sub_of_le _ _ hone]
  · simp [hup]

theorem isTimeoutMs_eq_true {val : UInt32} {t : TimeoutMs} (h : (isTimeoutMs val t).2 = true) :
    (isTimeoutMs val t).1.timeoutMs.toNat = 0 := by
  have hzero : (isTimeoutMs val t).1.timeoutMs = 0 := by simpa [isTimeoutMs] using h
  rw [hzero]
  rfl

/-! ### Waiting -/

/-- A timeout, and the timer that it is polled on. -/
structure Wait where
  sysTick : SysTick
  timeout : TimeoutMs

/-- `init_timeout_ms` is called. -/
def Wait.init (s : SysTick) (timeout : UInt32) : Wait := ⟨s, initTimeoutMs s.val timeout⟩

/-- Ticks pass, and `is_timeout_ms` is called. -/
def Wait.poll (w : Wait) (ticks : ℕ) : Wait × Bool :=
  let sysTick := w.sysTick.after ticks
  let (timeout, expired) := isTimeoutMs sysTick.val w.timeout
  (⟨sysTick, timeout⟩, expired)

/-- Several calls, each so many ticks after the one before. -/
def Wait.polls (w : Wait) (gaps : List ℕ) : Wait := gaps.foldl (fun w ticks => (w.poll ticks).1) w

namespace Wait

variable {s : SysTick} {timeout : UInt32} {w : Wait} {n : ℕ}

/-- After `n` ticks, what a wait knows of the timer. -/
structure Sampled (s : SysTick) (n : ℕ) (w : Wait) : Prop where
  sysTick_eq : w.sysTick = s.after n
  valCntCurrent_eq : w.timeout.valCntCurrent = w.sysTick.val

/-- After `n` ticks, the reloads that were seen are among those that there were. -/
structure NotEarly (s : SysTick) (timeout : UInt32) (n : ℕ) (w : Wait) : Prop
    extends Sampled s n w where
  timeout_le : timeout.toNat ≤ w.timeout.timeoutMs.toNat + s.counter.reloads n

/-- After `n` ticks, every reload was seen. -/
structure Exact (s : SysTick) (timeout : UInt32) (n : ℕ) (w : Wait) : Prop
    extends Sampled s n w where
  timeoutMs_eq : w.timeout.timeoutMs.toNat = timeout.toNat - s.counter.reloads n

theorem sampled_init : Sampled s 0 (init s timeout) := ⟨rfl, rfl⟩

theorem Sampled.poll (h : Sampled s n w) (ticks : ℕ) : Sampled s (n + ticks) (w.poll ticks).1 := by
  refine ⟨?_, rfl⟩
  change w.sysTick.after ticks = s.after (n + ticks)
  simp [SysTick.after, h.sysTick_eq, Counter.after_add]

/-- The count is seen to go up exactly if it went up. -/
theorem Sampled.toNat_timeoutMs_poll (h : Sampled s n w) (ticks : ℕ) :
    (w.poll ticks).1.timeout.timeoutMs.toNat = w.timeout.timeoutMs.toNat -
      if (s.counter.after n).val < ((s.counter.after n).after ticks).val then 1 else 0 := by
  have hval : w.timeout.valCntCurrent = (s.after n).val := by rw [h.valCntCurrent_eq, h.sysTick_eq]
  have hup : w.timeout.valCntCurrent < (w.sysTick.after ticks).val ↔
      (s.counter.after n).val < ((s.counter.after n).after ticks).val := by
    rw [hval, h.sysTick_eq]
    exact SysTick.val_lt_iff _ _
  refine (toNat_timeoutMs_isTimeoutMs (w.sysTick.after ticks).val w.timeout).trans ?_
  simp only [hup]

/-- **One call does not run ahead of the timer.** -/
theorem NotEarly.poll (h : NotEarly s timeout n w) (ticks : ℕ) :
    NotEarly s timeout (n + ticks) (w.poll ticks).1 := by
  refine ⟨h.toSampled.poll ticks, ?_⟩
  have hle := h.timeout_le
  rw [h.toNat_timeoutMs_poll ticks, Counter.reloads_add]
  split
  · rename_i hup
    have := Counter.reloads_pos_of_lt hup
    omega
  · omega

/-- **One call keeps up with the timer**, if it comes within a round. -/
theorem Exact.poll (h : Exact s timeout n w) {ticks : ℕ} (hticks : ticks ≤ s.counter.load) :
    Exact s timeout (n + ticks) (w.poll ticks).1 := by
  refine ⟨h.toSampled.poll ticks, ?_⟩
  have heq := h.timeoutMs_eq
  have hround : ticks ≤ (s.counter.after n).load := by rwa [Counter.load_after]
  rw [h.toNat_timeoutMs_poll ticks, Counter.reloads_add]
  split
  · rename_i hup
    rw [Counter.reloads_eq_one_of_lt hround hup]
    omega
  · rename_i hdown
    rw [Counter.reloads_eq_zero_of_le hround (Nat.le_of_not_lt hdown)]
    omega

theorem polls_concat (w : Wait) (gaps : List ℕ) (gap : ℕ) :
    w.polls (gaps ++ [gap]) = ((w.polls gaps).poll gap).1 := by
  simp [polls]

/-- Any number of calls. -/
theorem notEarly_polls (s : SysTick) (timeout : UInt32) (gaps : List ℕ) :
    NotEarly s timeout gaps.sum ((init s timeout).polls gaps) := by
  induction gaps using List.reverseRecOn with
  | nil => exact ⟨sampled_init, Nat.le_refl _⟩
  | append_singleton gaps gap ih =>
      rw [polls_concat, List.sum_append, List.sum_singleton]
      exact ih.poll gap

/-- Any number of calls, each within a round of the one before. -/
theorem exact_polls (s : SysTick) (timeout : UInt32) {gaps : List ℕ}
    (h : ∀ gap ∈ gaps, gap ≤ s.counter.load) :
    Exact s timeout gaps.sum ((init s timeout).polls gaps) := by
  induction gaps using List.reverseRecOn with
  | nil => exact ⟨sampled_init, rfl⟩
  | append_singleton gaps gap ih =>
      rw [polls_concat, List.sum_append, List.sum_singleton]
      exact (ih fun g hg => h g (by simp [hg])).poll (h gap (by simp))

end Wait

/-- **A timeout is never early, and exact if it is polled in every round**: the call that comes
after any others says that the time is over only if the timer was reloaded as often as it had to
be; and if no two calls are more than `LOAD` ticks apart, what is left is what the reloads have
left. -/
theorem isTimeoutMs_reloads (s : SysTick) (timeout : UInt32) (gaps : List ℕ) (gap : ℕ) :
    ((((Wait.init s timeout).polls gaps).poll gap).2 = true →
        timeout.toNat ≤ s.counter.reloads (gaps.sum + gap)) ∧
      ((∀ g ∈ gaps ++ [gap], g ≤ s.counter.load) →
        (((Wait.init s timeout).polls gaps).poll gap).1.timeout.timeoutMs.toNat =
          timeout.toNat - s.counter.reloads (gaps.sum + gap)) := by
  constructor
  · intro h
    have hle := ((Wait.notEarly_polls s timeout gaps).poll gap).timeout_le
    have hzero : (((Wait.init s timeout).polls gaps).poll gap).1.timeout.timeoutMs.toNat = 0 :=
      isTimeoutMs_eq_true h
    omega
  · intro h
    have hgaps : ∀ g ∈ gaps, g ≤ s.counter.load := fun g hg => h g (by simp [hg])
    exact ((Wait.exact_polls s timeout hgaps).poll (h gap (by simp))).timeoutMs_eq

end Solar48
