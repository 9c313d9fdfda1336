/-
**Texts that are integers.**

The console takes numbers as texts.  `is_string_number` goes through a text once: a sign is passed
over, the rest must not be empty, and the loop ends behind the first character that is no digit,
which has to be the NUL.  What it accepts is then given to `strtol`.

Main definitions:

* `Solar48.isStringNumber` — the code; it is none if it reads outside of the text;
* `Solar48.IsInteger` — an integer, as it is written;
* `Solar48.strtolLength` — how much of a text `strtol` takes;
* `Solar48.hasLongintError` — the test of an argument of a command.

Main results:

* `Solar48.digitsEnd_eq` — where the loop ends;
* `Solar48.isStringNumber_eq` — **the texts that are accepted are the integers**;
* `Solar48.strtolLength_of_isInteger` — `strtol` takes all of an integer;
* `Solar48.hasLongintError_spec` — only an integer is passed on to it.
-/

import Solar48.BuildArgc
import Mathlib.Data.List.TakeWhile
import Solar48.Decimal

set_option relaxedAutoImplicit false
set_option autoImplicit false

namespace Solar48

open ByteMem Decimal

/-! ### The code -/

/-- The `do` loop, with so many bytes left of the text: the character that it ends with. -/
def digitsEnd (m : Mem) : ℕ → ℕ → Option UInt8
  | 0, _ => none
  | left + 1, p =>
      let c := m p
      if c ≥ 0x30 ∧ c ≤ 0x39 then digitsEnd m left (p + 1) else some c

/-- `is_string_number`, on a pointer to an array of so many bytes. -/
def isStringNumber (str : Option Mem) (size : ℕ) : Option Bool :=
  match str with
  | none => some false
  | some m =>
      if size = 0 then none
      else
        let c := m 0
        let str := if c = 0x2D ∨ c = 0x2B then 1 else 0
        if size ≤ str then none
        else if m str = 0 then some false
        else (digitsEnd m (size - str) str).map fun c => c == 0

/-! ### Integers -/

/-- `'-'` or `'+'`. -/
def IsSign (c : UInt8) : Prop := c = 0x2D ∨ c = 0x2B

instance (c : UInt8) : Decidable (IsSign c) := inferInstanceAs (Decidable (_ ∨ _))

/-- An integer as it is written: one sign or none, digits, and nothing else. -/
def IsInteger (s : List UInt8) : Prop :=
  ∃ sign digits, (sign = [] ∨ ∃ c, IsSign c ∧ sign = [c]) ∧ IsNumeral digits ∧ s = sign ++ digits

/-- The characters that `isspace` says yes to. -/
def isSpace (c : UInt8) : Bool := c == 0x20 || (0x09 ≤ c && c ≤ 0x0D)

/-- How many characters `strtol` takes, in base ten: blanks, a sign, and digits, if there are
any. -/
def strtolLength (s : List UInt8) : ℕ :=
  let rest := s.dropWhile isSpace
  let sign := if ∃ c ∈ rest.head?, IsSign c then 1 else 0
  let digits := ((rest.drop sign).takeWhile fun c => decide (IsDigit c)).length
  if digits = 0 then 0 else (s.takeWhile isSpace).length + sign + digits

/-- The end of a `long`, and `ERANGE`. -/
def longMax : ℤ := 0x7FFFFFFF

def longMin : ℤ := -0x80000000

def erange : ℤ := 34

/-- `strtol`, in base ten: the value, and what it leaves in an `errno` that is zero. -/
def strtol (s : List UInt8) : ℤ × ℤ :=
  let rest := s.dropWhile isSpace
  let sign := if ∃ c ∈ rest.head?, IsSign c then 1 else 0
  let n : ℤ := value ((rest.drop sign).takeWhile fun c => decide (IsDigit c))
  let v := if rest.head? = some 0x2D then -n else n
  if v > longMax then (longMax, erange) else if v < longMin then (longMin, erange) else (v, 0)

/-- What `has_longint_error` prints: `Not a number: %s = %s`, or `Error: %d. Invalid number
%s = %s`, with the name of the argument and the argument, in blank lines. -/
inductive LongintText
  | notNumber (name argument : List UInt8)
  | invalid (errno : ℤ) (name argument : List UInt8)
  deriving DecidableEq

/-- `has_longint_error`: what it returns, what it stores, and what it prints. -/
def hasLongintError (argument : Mem) (size : ℕ) (name : List UInt8) :
    Option (ℤ × Option ℤ × Option LongintText) :=
  let text := (read argument 0 size).takeWhile fun c => c != 0
  (isStringNumber (some argument) size).map fun
    | false => (-1, none, some (.notNumber name text))
    | true =>
        let (val, errno) := strtol text
        (errno, some val, if errno ≠ 0 then some (.invalid errno name text) else none)

variable {m : Mem} {p : ℕ} {s l : List UInt8} {c : UInt8}

theorem not_isSign_of_isDigit (h : IsDigit c) : ¬ IsSign c := by
  rintro (rfl | rfl)
  · exact absurd h (by decide)
  · exact absurd h (by decide)

theorem isSpace_of_isDigit (h : IsDigit c) : isSpace c = false := by
  have hlow : (0x30 : UInt8).toNat ≤ c.toNat := UInt8.le_iff_toNat_le.1 h.1
  have hne : c ≠ 0x20 := by
    rintro rfl
    exact absurd h (by decide)
  have hgt : ¬ c ≤ 0x0D := by
    intro hle
    have hle' : c.toNat ≤ (0x0D : UInt8).toNat := UInt8.le_iff_toNat_le.1 hle
    exact absurd (hlow.trans hle') (by decide)
  simp [isSpace, hne, hgt]

theorem isSpace_of_isSign (h : IsSign c) : isSpace c = false := by
  rcases h with rfl | rfl <;> rfl

theorem not_isInteger_nil : ¬ IsInteger [] := by
  rintro ⟨sign, digits, -, hdigits, heq⟩
  exact hdigits.1 (List.append_eq_nil_iff.1 heq.symm).2

/-- What is behind a sign is a numeral. -/
theorem isInteger_cons_of_isSign (h : IsSign c) : IsInteger (c :: l) ↔ IsNumeral l := by
  constructor
  · rintro ⟨sign, digits, hsign, hdigits, heq⟩
    rcases hsign with rfl | ⟨d, -, rfl⟩
    · have hmem : c ∈ digits := by
        rw [← List.nil_append digits, ← heq]
        exact List.mem_cons_self
      exact absurd h (not_isSign_of_isDigit (hdigits.2 c hmem))
    · rwa [(List.cons.inj heq).2]
  · intro hl
    exact ⟨[c], l, Or.inr ⟨c, h, rfl⟩, hl, rfl⟩

/-- Without a sign the whole is one. -/
theorem isInteger_cons_of_not_isSign (h : ¬ IsSign c) :
    IsInteger (c :: l) ↔ IsNumeral (c :: l) := by
  constructor
  · rintro ⟨sign, digits, hsign, hdigits, heq⟩
    rcases hsign with rfl | ⟨d, hd, rfl⟩
    · rwa [heq]
    · rw [(List.cons.inj heq).1] at h
      exact absurd hd h
  · intro hl
    exact ⟨[], c :: l, Or.inl rfl, hl, rfl⟩

/-! ### The loop -/

/-- **Where the loop ends**: at the first character that is no digit, or at the NUL. -/
theorem digitsEnd_eq (h : HoldsString m p l) :
    digitsEnd m (l.length + 1) p = some ((l.dropWhile fun c => decide (IsDigit c)).headD 0) := by
  induction l generalizing p with
  | nil =>
      have hp : m p = 0 := h.first
      rw [List.length_nil, digitsEnd, hp]
      rfl
  | cons c l ih =>
      obtain ⟨hp, -, hrest⟩ := h.cons
      rw [List.length_cons, digitsEnd, hp]
      by_cases hc : IsDigit c
      · rw [if_pos ⟨hc.1, hc.2⟩, ih hrest, List.dropWhile_cons_of_pos (by simpa using hc)]
      · rw [if_neg fun hand => hc ⟨hand.1, hand.2⟩, List.dropWhile_cons_of_neg (by simpa using hc)]
        rfl

/-- The loop ends at the NUL if there are only digits. -/
theorem digitsEnd_eq_zero_iff (h : HoldsString m p l) :
    ∃ c, digitsEnd m (l.length + 1) p = some c ∧ (c = 0 ↔ ∀ d ∈ l, IsDigit d) := by
  refine ⟨_, digitsEnd_eq h, ?_⟩
  have hall : (∀ d ∈ l, IsDigit d) ↔ (l.dropWhile fun c => decide (IsDigit c)) = [] := by
    rw [List.dropWhile_eq_nil_iff]
    simp
  rw [hall]
  constructor
  · intro hzero
    cases hdrop : l.dropWhile fun c => decide (IsDigit c) with
    | nil => rfl
    | cons d rest =>
        rw [hdrop] at hzero
        have hd : d = 0 := hzero
        have hmem : d ∈ l := (List.dropWhile_sublist _).subset (by rw [hdrop]; simp)
        exact absurd (hd ▸ hmem) h.2
  · intro hnil
    rw [hnil]
    rfl

/-- The text from the first digit on: it has to be a numeral. -/
theorem digitsEnd_isNumeral (h : HoldsString m p l) (hne : l ≠ []) :
    ∃ b, (digitsEnd m (l.length + 1) p).map (fun c => c == 0) = some b ∧
      (b = true ↔ IsNumeral l) := by
  obtain ⟨c, hend, hzero⟩ := digitsEnd_eq_zero_iff h
  refine ⟨c == 0, by rw [hend]; rfl, ?_⟩
  rw [beq_iff_eq, hzero]
  exact ⟨fun hall => ⟨hne, hall⟩, fun hnum => hnum.2⟩

/-! ### The whole function -/

/-- **The texts that are accepted are the integers**; nothing behind the NUL is read. -/
theorem isStringNumber_eq (h : HoldsString m 0 s) :
    ∃ b, isStringNumber (some m) (s.length + 1) = some b ∧ (b = true ↔ IsInteger s) := by
  have hsize : ¬ s.length + 1 = 0 := by omega
  have hfirst := h.first
  rw [isStringNumber, if_neg hsize]
  cases s with
  | nil =>
      have hzero : m 0 = 0 := hfirst
      refine ⟨false, by simp [hzero], ?_⟩
      exact iff_of_false Bool.false_ne_true not_isInteger_nil
  | cons c l =>
      obtain ⟨hc, hne, hrest⟩ := h.cons
      by_cases hsign : IsSign c
      · rw [isInteger_cons_of_isSign hsign]
        have hone : (if m 0 = 0x2D ∨ m 0 = 0x2B then 1 else 0) = 1 := if_pos (by rwa [hc])
        simp only [hone, List.length_cons]
        rw [if_neg (by omega), Nat.add_sub_cancel]
        have hbehind : m 1 = l.headD 0 := hrest.first
        cases l with
        | nil =>
            have hzero : m 1 = 0 := hbehind
            refine ⟨false, if_pos hzero, ?_⟩
            exact iff_of_false Bool.false_ne_true fun hnum => hnum.1 rfl
        | cons d l =>
            have hd : m 1 ≠ 0 := by
              rw [hbehind]
              exact hrest.cons.2.1
            rw [if_neg hd]
            exact digitsEnd_isNumeral hrest (by simp)
      · rw [isInteger_cons_of_not_isSign hsign]
        have hnone : (if m 0 = 0x2D ∨ m 0 = 0x2B then 1 else 0) = 0 := if_neg (by rwa [hc])
        simp only [hnone]
        rw [if_neg (by omega), if_neg (by rwa [hc]), Nat.sub_zero]
        exact digitsEnd_isNumeral h (by simp)

/-- All of a numeral is taken. -/
theorem takeWhile_of_isNumeral (h : IsNumeral l) :
    (l.takeWhile fun c => decide (IsDigit c)) = l := by
  rw [List.takeWhile_eq_self_iff]
  intro c hc
  simpa using h.2 c hc

/-- **`strtol` takes all of an integer.** -/
theorem strtolLength_of_isInteger (h : IsInteger s) : strtolLength s = s.length := by
  obtain ⟨sign, digits, hsign, hdigits, rfl⟩ := h
  have hpos : digits.length ≠ 0 := fun h0 => hdigits.1 (List.length_eq_zero_iff.1 h0)
  have htake := takeWhile_of_isNumeral hdigits
  rcases hsign with rfl | ⟨c, hc, rfl⟩
  · cases digits with
    | nil => exact absurd rfl hdigits.1
    | cons d rest =>
        have hd : IsDigit d := hdigits.2 d List.mem_cons_self
        have hblank := isSpace_of_isDigit hd
        have hnone : ¬ ∃ c ∈ (d :: rest).head?, IsSign c := by
          rintro ⟨c, hc, hsign⟩
          obtain rfl : d = c := Option.some.inj hc
          exact not_isSign_of_isDigit hd hsign
        have hdrop : (d :: rest).dropWhile isSpace = d :: rest :=
          List.dropWhile_cons_of_neg (by simp [hblank])
        have hblanks : (d :: rest).takeWhile isSpace = [] :=
          List.takeWhile_cons_of_neg (by simp [hblank])
        rw [strtolLength, List.nil_append, hdrop]
        simp only [if_neg hnone, List.drop_zero, htake, if_neg hpos, hblanks]
        simp
  · have hblank := isSpace_of_isSign hc
    have hsome : ∃ d ∈ ([c] ++ digits).head?, IsSign d := ⟨c, rfl, hc⟩
    have hdrop : ([c] ++ digits).dropWhile isSpace = [c] ++ digits :=
      List.dropWhile_cons_of_neg (by simp [hblank])
    have hblanks : ([c] ++ digits).takeWhile isSpace = [] :=
      List.takeWhile_cons_of_neg (by simp [hblank])
    have htail : ([c] ++ digits).drop 1 = digits := rfl
    rw [strtolLength, hdrop]
    simp only [if_pos hsome, htail, htake, if_neg hpos, hblanks]
    simp [Nat.add_comm]

/-- The text that is passed on is the one that the argument holds. -/
theorem takeWhile_read (h : HoldsString m 0 s) :
    ((read m 0 (s.length + 1)).takeWhile fun c => c != 0) = s := by
  have hall : ∀ c ∈ s, (c != 0) = true := by
    intro c hc
    rw [bne_iff_ne]
    rintro rfl
    exact h.2 hc
  rw [h.1, List.takeWhile_append_of_pos hall]
  simp

/-- **Only an integer is passed on to `strtol`**; no argument makes the test read outside of it. -/
theorem hasLongintError_spec (h : HoldsString m 0 s) (name : List UInt8) :
    ∃ r, hasLongintError m (s.length + 1) name = some r ∧
      (r.2.1 = none ∧ r.1 = -1 ∧ ¬ IsInteger s ∨
        r.2.1 = some (strtol s).1 ∧ r.1 = (strtol s).2 ∧ IsInteger s) := by
  obtain ⟨b, hb, hiff⟩ := isStringNumber_eq h
  rw [hasLongintError, hb, takeWhile_read h]
  cases b with
  | false => exact ⟨_, rfl, Or.inl ⟨rfl, rfl, fun hint => Bool.false_ne_true (hiff.2 hint)⟩⟩
  | true => exact ⟨_, rfl, Or.inr ⟨rfl, rfl, hiff.1 rfl⟩⟩

/-- **`is_string_number` accepts exactly the integers**, and reads no further than the NUL; what
`has_longint_error` passes on is taken by `strtol` as a whole. -/
theorem isStringNumber_iff (h : HoldsString m 0 s) (name : List UInt8) :
    (∃ b, isStringNumber (some m) (s.length + 1) = some b ∧ (b = true ↔ IsInteger s)) ∧
      ∃ r, hasLongintError m (s.length + 1) name = some r ∧
        ∀ val, r.2.1 = some val → val = (strtol s).1 ∧ strtolLength s = s.length := by
  refine ⟨isStringNumber_eq h, ?_⟩
  obtain ⟨r, hr, ⟨hnone, -⟩ | ⟨hsome, -, hint⟩⟩ := hasLongintError_spec h name
  · refine ⟨r, hr, ?_⟩
    intro val hval
    rw [hnone] at hval
    cases hval
  · refine ⟨r, hr, ?_⟩
    intro val hval
    rw [hsome] at hval
    exact ⟨(Option.some.inj hval).symm, strtolLength_of_isInteger hint⟩

/-- `"-12"`, given for a month. -/
theorem isStringNumber_minus_twelve :
    (∃ b, isStringNumber (some (stringMem [0x2D, 0x31, 0x32])) 4 = some b ∧
      (b = true ↔ IsInteger [0x2D, 0x31, 0x32])) ∧
    ∃ r, hasLongintError (stringMem [0x2D, 0x31, 0x32]) 4 [0x6D, 0x6D] = some r ∧
      ∀ val, r.2.1 = some val →
        val = (strtol [0x2D, 0x31, 0x32]).1 ∧ strtolLength [0x2D, 0x31, 0x32] = 3 :=
  isStringNumber_iff (holdsString_stringMem (s := [0x2D, 0x31, 0x32]) (by decide)) [0x6D, 0x6D]

end Solar48
