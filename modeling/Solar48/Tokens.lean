/-
**Tokens.**

The tokens of a list are its longest non-empty stretches without a separator.  Reading from the
left, a list is separators, a token up to the next separator, and so on.

Main definitions:

* `Tokens.tokens` — the tokens of a list.

Main results:

* `Tokens.exists_leading`, `Tokens.exists_token`, `Tokens.tokens_ne_nil` — what a list begins with;
* `Tokens.tokens_replicate_append`, `Tokens.tokens_append_cons` — **the tokens, from left to
  right**;
* `Tokens.tokens_append_flatMap` — tokens that are put together.
-/

import Mathlib.Data.List.Basic

set_option relaxedAutoImplicit false
set_option autoImplicit false

namespace Tokens

variable {α : Type*} [DecidableEq α]

/-- The tokens of a list: the pieces between the separators that are not empty. -/
def tokens (sep : α) (l : List α) : List (List α) := (l.splitOn sep).filter fun t => !t.isEmpty

variable {sep : α}

@[simp] theorem tokens_nil : tokens sep [] = [] := rfl

/-- A separator in front is skipped. -/
@[simp] theorem tokens_cons_self (l : List α) : tokens sep (sep :: l) = tokens sep l := by
  have hsplit : (sep :: l).splitOn sep = [] :: l.splitOn sep :=
    List.splitOn_append_cons_self_of_not_mem List.not_mem_nil l
  simp [tokens, hsplit]

/-- Any number of separators is. -/
@[simp] theorem tokens_replicate_append (n : ℕ) (l : List α) :
    tokens sep (List.replicate n sep ++ l) = tokens sep l := by
  induction n with
  | zero => rfl
  | succ n ih => rw [List.replicate_succ, List.cons_append, tokens_cons_self, ih]

/-- A token that is the rest. -/
theorem tokens_of_not_mem {w : List α} (h : sep ∉ w) (hw : w ≠ []) : tokens sep w = [w] := by
  simp [tokens, List.splitOn_eq_singleton h, hw]

/-- **A token, and what is behind it.** -/
theorem tokens_append_cons {w : List α} (h : sep ∉ w) (hw : w ≠ []) (l : List α) :
    tokens sep (w ++ sep :: l) = w :: tokens sep l := by
  simp [tokens, List.splitOn_append_cons_self_of_not_mem h, hw]

/-- A list begins with separators, and does not go on with one. -/
theorem exists_leading (sep : α) (l : List α) :
    ∃ n r, l = List.replicate n sep ++ r ∧ r.head? ≠ some sep := by
  induction l with
  | nil => exact ⟨0, [], rfl, by simp⟩
  | cons c l ih =>
      by_cases hc : c = sep
      · obtain ⟨n, r, rfl, hr⟩ := ih
        exact ⟨n + 1, r, by rw [hc, List.replicate_succ, List.cons_append], hr⟩
      · exact ⟨0, c :: l, rfl, by simpa using hc⟩

/-- A list that does not begin with a separator begins with a token. -/
theorem exists_token {l : List α} (hne : l ≠ []) (hhead : l.head? ≠ some sep) :
    ∃ w, w ≠ [] ∧ sep ∉ w ∧ (l = w ∨
      ∃ n r, l = w ++ sep :: (List.replicate n sep ++ r) ∧ r.head? ≠ some sep) := by
  induction l with
  | nil => exact absurd rfl hne
  | cons c l ih =>
      have hc : c ≠ sep := by simpa using hhead
      rcases l with _ | ⟨d, l⟩
      · exact ⟨[c], by simp, by simpa using hc.symm, Or.inl rfl⟩
      · by_cases hd : d = sep
        · obtain ⟨n, r, hl, hr⟩ := exists_leading sep l
          refine ⟨[c], by simp, by simpa using hc.symm, Or.inr ⟨n, r, ?_, hr⟩⟩
          rw [hd, hl]
          rfl
        · obtain ⟨w, hw, hsep, hcases⟩ := ih (by simp) (by simpa using hd)
          refine ⟨c :: w, by simp, by simp [hc.symm, hsep], ?_⟩
          rcases hcases with heq | ⟨n, r, heq, hr⟩
          · exact Or.inl (by rw [heq])
          · exact Or.inr ⟨n, r, by rw [heq, List.cons_append], hr⟩

/-- **What is put together of tokens** has these tokens. -/
theorem tokens_append_flatMap {w : List α} {ws : List (List α)} (h : sep ∉ w) (hw : w ≠ [])
    (hws : ∀ v ∈ ws, sep ∉ v ∧ v ≠ []) :
    tokens sep (w ++ ws.flatMap fun v => sep :: v) = w :: ws := by
  induction ws generalizing w with
  | nil => rw [List.flatMap_nil, List.append_nil, tokens_of_not_mem h hw]
  | cons v ws ih =>
      obtain ⟨hv, hne⟩ := hws v List.mem_cons_self
      rw [List.flatMap_cons, List.cons_append, tokens_append_cons h hw,
        ih hv hne fun u hu => hws u (List.mem_cons_of_mem v hu)]

/-- **There is a token** in a list that does not begin with a separator. -/
theorem tokens_ne_nil {l : List α} (hne : l ≠ []) (hhead : l.head? ≠ some sep) :
    tokens sep l ≠ [] := by
  obtain ⟨w, hw, hsep, rfl | ⟨n, r, rfl, -⟩⟩ := exists_token hne hhead
  · simp [tokens_of_not_mem hsep hw]
  · simp [tokens_append_cons hsep hw]

end Tokens
