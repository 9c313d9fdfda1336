/-
**Step systems and their runs.**

Several parts of a program that take turns are one step function on a common state: a label says
whose turn it is and how its free choices fall, and the step may be impossible.  A run is a finite
sequence of steps, of which each may be asked to meet a condition on its label and the state before
it; with the trivial condition the runs lead to the reachable states.

Main definitions:

* `StepSystem.Run` — the states that runs whose steps meet a condition lead to;
* `StepSystem.exec` — the run along a list of labels, as a computation.

Main results:

* `StepSystem.Run.invariant` — **what holds initially and is kept by every step that meets the
  condition holds after every run**;
* `StepSystem.run_of_exec` — a computed run is one;
* `StepSystem.exec_progress` — rounds that come nearer to an end lead to it;
* `StepSystem.exec_iff` — what can only fail in a last step holds after a run if and only if its
  steps meet the condition.
-/

import Mathlib.Data.List.Induction
import Mathlib.Data.Option.Basic

set_option relaxedAutoImplicit false
set_option autoImplicit false

namespace StepSystem

variable {α σ : Type*}

/-- `Run step ok s t`: a sequence of steps, each of which meets `ok`, leads from `s` to `t`. -/
inductive Run (step : α → σ → Option σ) (ok : α → σ → Bool) (s : σ) : σ → Prop where
  | refl : Run step ok s s
  | tail {t u : σ} (a : α) : Run step ok s t → ok a t = true → step a t = some u →
      Run step ok s u

variable {step : α → σ → Option σ} {ok : α → σ → Bool} {s t u : σ}

/-- **The invariant rule.** -/
theorem Run.invariant {I : σ → Prop} (h : Run step ok s t) (h₀ : I s)
    (hstep : ∀ a t u, I t → ok a t = true → step a t = some u → I u) : I t := by
  induction h with
  | refl => exact h₀
  | tail a _ hok hu ih => exact hstep a _ _ ih hok hu

/-- Runs can be joined. -/
theorem Run.trans (h₁ : Run step ok s t) (h₂ : Run step ok t u) : Run step ok s u := by
  induction h₂ with
  | refl => exact h₁
  | tail a _ hok hu ih => exact ih.tail a hok hu

/-- A weaker condition allows more runs. -/
theorem Run.mono {ok' : α → σ → Bool} (h : Run step ok s t)
    (hok : ∀ a t, ok a t = true → ok' a t = true) : Run step ok' s t := by
  induction h with
  | refl => exact .refl
  | tail a _ ha hu ih => exact ih.tail a (hok _ _ ha) hu

/-- The run along a list of labels, if all its steps are possible and meet the condition. -/
def exec (step : α → σ → Option σ) (ok : α → σ → Bool) : List α → σ → Option σ
  | [], s => some s
  | a :: as, s => if ok a s then (step a s).bind (exec step ok as) else none

/-- **A computed run is a run.** -/
theorem run_of_exec (as : List α) (h : exec step ok as s = some t) : Run step ok s t := by
  induction as generalizing s with
  | nil =>
      obtain rfl : s = t := Option.some.inj h
      exact .refl
  | cons a as ih =>
      rw [exec] at h
      split at h
      · rename_i hok
        obtain ⟨u, hu, hrest⟩ := Option.bind_eq_some_iff.1 h
        exact (Run.refl.tail a hok hu).trans (ih hrest)
      · cases h

/-- One run behind another. -/
theorem exec_append (as bs : List α) :
    exec step ok (as ++ bs) s = (exec step ok as s).bind (exec step ok bs) := by
  induction as generalizing s with
  | nil => rfl
  | cons a as ih =>
      rw [List.cons_append, exec, exec]
      split
      · cases step a s with
        | none => rfl
        | some t => exact ih
      · rfl

/-- One step more. -/
theorem exec_concat (as : List α) (a : α) : exec step ok (as ++ [a]) s =
    (exec step ok as s).bind fun t => if ok a t then step a t else none := by
  induction as generalizing s with
  | nil =>
      rw [List.nil_append, exec, exec, Option.bind_some]
      split
      · exact Option.bind_fun_some _
      · rfl
  | cons b as ih =>
      rw [List.cons_append, exec, exec]
      split
      · cases step b s with
        | none => rfl
        | some t => exact ih
      · rfl

/-- **The progress rule.**  If a round of steps leads from every state with `I` to one with `Q`, or
to one with `I` and a smaller rank, then rounds lead to `Q`, at most one more than the rank. -/
theorem exec_progress {I Q : σ → Prop} (rank : σ → ℕ) (as : List α)
    (hround : ∀ s, I s → ∃ t, exec step ok as s = some t ∧ (Q t ∨ I t ∧ rank t < rank s))
    (hs : I s) :
    ∃ k ≤ rank s + 1, ∃ t, exec step ok (List.replicate k as).flatten s = some t ∧ Q t := by
  induction h : rank s using Nat.strongRecOn generalizing s with
  | ind n ih =>
      subst h
      obtain ⟨t, ht, hQ | ⟨hI, hlt⟩⟩ := hround s hs
      · exact ⟨1, Nat.le_add_left 1 _, t, by simpa using ht, hQ⟩
      · obtain ⟨k, hk, u, hu, hQ⟩ := ih _ hlt hI rfl
        refine ⟨k + 1, by omega, u, ?_, hQ⟩
        rw [List.replicate_succ, List.flatten_cons, exec_append, ht]
        exact hu

/-- **What can only fail in a last step.**  Let `P` hold of each state that a step is possible from,
and of the state behind it if and only if the step meets the condition.  Then it holds after a run
if and only if all steps of the run do. -/
theorem exec_iff {P I : σ → Prop} (hI : I s) (hP : P s)
    (hkept : ∀ a t u, I t → step a t = some u → I u)
    (hlive : ∀ a t u, I t → step a t = some u → P t)
    (hlast : ∀ a t u, I t → step a t = some u → (P u ↔ ok a t = true)) (as : List α)
    (h : exec step (fun _ _ => true) as s = some t) :
    I t ∧ (P t ↔ exec step ok as s = some t) := by
  induction as using List.reverseRecOn generalizing t with
  | nil =>
      obtain rfl : s = t := Option.some.inj h
      exact ⟨hI, iff_of_true hP rfl⟩
  | append_singleton as a ih =>
      rw [exec_concat] at h
      obtain ⟨u, hu, hstep⟩ := Option.bind_eq_some_iff.1 h
      replace hstep : step a u = some t := hstep
      obtain ⟨hinv, hiff⟩ := ih hu
      refine ⟨hkept a u t hinv hstep, ?_⟩
      -- the steps before were met, because one more was possible
      have hbefore := hiff.1 (hlive a u t hinv hstep)
      rw [exec_concat, hbefore, Option.bind_some, hlast a u t hinv hstep]
      split
      · exact iff_of_true ‹_› hstep
      · exact iff_of_false ‹_› nofun

end StepSystem
