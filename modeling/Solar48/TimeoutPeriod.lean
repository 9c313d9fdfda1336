/-
**Timeouts that are polled once in a period.**

The timers of the buses are to be polled every millisecond, and a millisecond is a whole round of
the SysTick timer.  A poll that comes exactly a round after the one before finds the count where it
was and takes nothing off, though the timer was reloaded.  If all polls come so, the time is never
over.

Main definitions:

* `Solar48.Wait.InTime` — a poll after which the timeout does not lag behind the timer.

Main results:

* `Solar48.Wait.poll_load_succ` — a poll after a whole round takes nothing off;
* `Solar48.Wait.polls_replicate` — a timeout that is polled once a round stays as it is;
* `Solar48.Wait.inTime_iff` — **polled within a round the timeout is in time exactly if every poll
  that comes after a whole round finds the time over already**.
-/

import Solar48.Timeout

set_option relaxedAutoImplicit false
set_option autoImplicit false

namespace Solar48

open DownCounter

namespace Wait

/-- After the calls, and one more, there is not more time left than the reloads have left, and if
that is nothing, the last call says so. -/
structure InTime (s : SysTick) (timeout : UInt32) (gaps : List ℕ) (gap : ℕ) : Prop where
  timeoutMs_le : (((init s timeout).polls gaps).poll gap).1.timeout.timeoutMs.toNat ≤
    timeout.toNat - s.counter.reloads (gaps.sum + gap)
  expired : timeout.toNat ≤ s.counter.reloads (gaps.sum + gap) →
    (((init s timeout).polls gaps).poll gap).2 = true

variable {s : SysTick} {timeout : UInt32} {w : Wait} {n : ℕ} {gaps : List ℕ} {gap : ℕ}

/-- **A poll after a whole round takes nothing off.** -/
theorem Sampled.poll_load_succ (h : Sampled s n w) :
    (w.poll (s.counter.load + 1)).1.timeout.timeoutMs.toNat = w.timeout.timeoutMs.toNat := by
  have hround : s.counter.load + 1 = (s.counter.after n).load + 1 := by rw [Counter.load_after]
  rw [h.toNat_timeoutMs_poll, hround, Counter.after_load_succ_val, if_neg (Nat.lt_irrefl _),
    Nat.sub_zero]

/-- Though the timer was reloaded. -/
theorem reloads_add_load_succ (s : SysTick) (n : ℕ) :
    s.counter.reloads (n + (s.counter.load + 1)) = s.counter.reloads n + 1 := by
  have hround : s.counter.load + 1 = (s.counter.after n).load + 1 := by rw [Counter.load_after]
  rw [Counter.reloads_add, hround, Counter.reloads_load_succ]

/-- What a call says is what it leaves. -/
theorem poll_snd_eq_true_iff (w : Wait) (ticks : ℕ) :
    (w.poll ticks).2 = true ↔ (w.poll ticks).1.timeout.timeoutMs.toNat = 0 := by
  constructor
  · exact isTimeoutMs_eq_true
  · intro h
    have hzero : (w.poll ticks).1.timeout.timeoutMs = 0 := UInt32.toNat_inj.1 h
    change ((w.poll ticks).1.timeout.timeoutMs == 0) = true
    rw [hzero]
    rfl

/-- Keeping up with the timer is to be in time. -/
theorem Exact.inTime
    (h : Exact s timeout (gaps.sum + gap) (((init s timeout).polls gaps).poll gap).1) :
    InTime s timeout gaps gap := by
  have heq := h.timeoutMs_eq
  refine ⟨Nat.le_of_eq heq, fun hover => ?_⟩
  rw [poll_snd_eq_true_iff, heq]
  omega

/-- No timeout runs ahead of the timer, so that one that does not lag behind keeps up. -/
theorem InTime.exact (h : InTime s timeout gaps gap) :
    Exact s timeout (gaps.sum + gap) (((init s timeout).polls gaps).poll gap).1 := by
  have hearly := (notEarly_polls s timeout gaps).poll gap
  have hle := h.timeoutMs_le
  have hge := hearly.timeout_le
  exact ⟨hearly.toSampled, by omega⟩

/-- **The step**: a poll within a round, or after a whole round with the time over already. -/
theorem Exact.poll_of_le (h : Exact s timeout n w) (hgap : gap ≤ s.counter.load + 1)
    (hround : gap = s.counter.load + 1 → timeout.toNat ≤ s.counter.reloads n) :
    Exact s timeout (n + gap) (w.poll gap).1 := by
  rcases Nat.eq_or_lt_of_le hgap with rfl | hlt
  · have hover := hround rfl
    have heq := h.timeoutMs_eq
    refine ⟨h.toSampled.poll _, ?_⟩
    rw [h.toSampled.poll_load_succ, reloads_add_load_succ]
    omega
  · exact h.poll (Nat.le_of_lt_succ hlt)

/-- **The run.** -/
theorem exact_polls_of_le (s : SysTick) (timeout : UInt32)
    (hgaps : ∀ gap ∈ gaps, gap ≤ s.counter.load + 1)
    (hround : ∀ front gap, front ++ [gap] <+: gaps → gap = s.counter.load + 1 →
      timeout.toNat ≤ s.counter.reloads front.sum) :
    Exact s timeout gaps.sum ((init s timeout).polls gaps) := by
  induction gaps using List.reverseRecOn with
  | nil => exact ⟨sampled_init, rfl⟩
  | append_singleton gaps gap ih =>
      have hfront : Exact s timeout gaps.sum ((init s timeout).polls gaps) :=
        ih (fun g hg => hgaps g (by simp [hg]))
          fun front g hpre => hround front g (hpre.trans (List.prefix_append _ _))
      rw [polls_concat, List.sum_append, List.sum_singleton]
      exact hfront.poll_of_le (hgaps gap (by simp)) (hround gaps gap (List.prefix_refl _))

/-- If every poll up to now was in time, the timeout has kept up. -/
theorem exact_of_inTime (s : SysTick) (timeout : UInt32)
    (h : ∀ front gap, front ++ [gap] <+: gaps → InTime s timeout front gap) :
    Exact s timeout gaps.sum ((init s timeout).polls gaps) := by
  cases gaps using List.reverseRecOn with
  | nil => exact ⟨sampled_init, rfl⟩
  | append_singleton gaps gap =>
      rw [polls_concat, List.sum_append, List.sum_singleton]
      exact (h gaps gap (List.prefix_refl _)).exact

/-- **Which timeouts are in time**, of those that are polled at least once in a period: every poll
that comes a whole period after the one before has to find the time over already. -/
theorem inTime_iff (s : SysTick) (timeout : UInt32)
    (hgaps : ∀ gap ∈ gaps, gap ≤ s.counter.load + 1) :
    (∀ front gap, front ++ [gap] <+: gaps → InTime s timeout front gap) ↔
      ∀ front gap, front ++ [gap] <+: gaps → gap = s.counter.load + 1 →
        timeout.toNat ≤ s.counter.reloads front.sum := by
  constructor
  · rintro h front gap hpre rfl
    have hfront : Exact s timeout front.sum ((init s timeout).polls front) := by
      refine exact_of_inTime s timeout fun front' gap' hpre' => h front' gap' ?_
      exact hpre'.trans ((List.prefix_append _ _).trans hpre)
    have hle := (h front _ hpre).timeoutMs_le
    have heq := hfront.timeoutMs_eq
    rw [hfront.toSampled.poll_load_succ, reloads_add_load_succ] at hle
    omega
  · intro h front gap hpre
    have hexact : Exact s timeout (front ++ [gap]).sum ((init s timeout).polls (front ++ [gap])) :=
      exact_polls_of_le s timeout (fun g hg => hgaps g (hpre.subset hg))
        fun front' gap' hpre' => h front' gap' (hpre'.trans hpre)
    rw [polls_concat, List.sum_append, List.sum_singleton] at hexact
    exact hexact.inTime

/-- **A timeout that is polled once a round stays as it is**, for ever. -/
theorem polls_replicate (s : SysTick) (timeout : UInt32) (n : ℕ) :
    ((init s timeout).polls (List.replicate n (s.counter.load + 1))).timeout.timeoutMs.toNat =
      timeout.toNat := by
  induction n with
  | zero => rfl
  | succ n ih =>
      have hsampled := (notEarly_polls s timeout
        (List.replicate n (s.counter.load + 1))).toSampled
      rw [List.replicate_succ', polls_concat, hsampled.poll_load_succ, ih]

/-- The timer as it is set up, at the beginning of a millisecond. -/
def systickTicks : SysTick := ⟨⟨8999, 8999, Nat.le_refl 8999⟩, by decide⟩

/-- Ten milliseconds, after twelve polls, each of them a little early. -/
theorem inTime_systickTicks : InTime systickTicks 10 (List.replicate 11 8999) 8999 := by
  have hmem : ∀ gap ∈ List.replicate 11 8999 ++ [8999], gap = 8999 := fun gap hgap =>
    List.eq_of_mem_replicate (n := 12) hgap
  have hgaps : ∀ gap ∈ List.replicate 11 8999 ++ [8999], gap ≤ systickTicks.counter.load + 1 := by
    intro gap hgap
    rw [hmem gap hgap]
    decide
  refine (inTime_iff systickTicks 10 hgaps).2 (fun front gap hpre heq => ?_) _ _
    (List.prefix_refl _)
  rw [hmem gap (hpre.subset (by simp))] at heq
  exact absurd heq (by decide)

/-- A first poll after a whole round is late. -/
theorem not_inTime_load_succ (s : SysTick) (h : 0 < timeout.toNat) :
    ¬ InTime s timeout [] (s.counter.load + 1) := by
  intro hin
  have hle := hin.timeoutMs_le
  have hsame : ((init s timeout).poll (s.counter.load + 1)).1.timeout.timeoutMs.toNat =
      timeout.toNat := sampled_init.poll_load_succ
  have hreload := reloads_add_load_succ s 0
  rw [Counter.reloads_zero] at hreload
  change ((init s timeout).poll (s.counter.load + 1)).1.timeout.timeoutMs.toNat ≤
    timeout.toNat - s.counter.reloads (0 + (s.counter.load + 1)) at hle
  omega

/-- One millisecond, polled after one millisecond. -/
theorem not_inTime_systickTicks :
    (∀ gap ∈ [9000], gap ≤ systickTicks.counter.load + 1) ∧
      ¬ ∀ front gap, front ++ [gap] <+: [9000] → InTime systickTicks 1 front gap := by
  constructor
  · intro gap hgap
    obtain rfl := List.mem_singleton.1 hgap
    exact Nat.le_refl _
  · intro h
    have hlate : ¬ InTime systickTicks 1 [] 9000 :=
      not_inTime_load_succ systickTicks (by decide)
    exact hlate (h [] 9000 (List.prefix_refl _))

end Wait

end Solar48
