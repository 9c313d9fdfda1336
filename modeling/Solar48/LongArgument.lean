/-
**The numbers of a command.**

A command finds its arguments through the pointers of `argc_max_vec` and reads them as numbers of
the type `long`.  Behind a pointer there is what is left of `argument_buffer`, not the argument
alone: that a test of it stays in the buffer rests on where `build_argc` lets pointers go, and on
the NUL at the end of the buffer, which no cut removes.

Main definitions:

* `Solar48.longintAt` — the code, on the argument that a pointer of `argc_max_vec` leads to;
* `Solar48.intValue` — the integer that is written;
* `Solar48.longOf` — what an argument is read as;
* `Solar48.lineArguments` — the arguments of a line.

Main results:

* `Solar48.intValue_eq_none_iff`, `Solar48.strtol_eq` — what is an integer, and what `strtol` makes
  of it;
* `Solar48.buildArgc_inBuffer` — the pointers that `build_argc` leaves, and the NUL behind them;
* `Solar48.longintAt_eq` — an argument is read as the integer that is written there, if a `long` can
  hold it;
* `Solar48.buildArgc_longintAt` — **the numbers of a line are those of its arguments**.
-/

import Solar48.StringNumber

set_option relaxedAutoImplicit false
set_option autoImplicit false

namespace Solar48

open ByteMem Decimal Tokens

/-! ### The code -/

/-- `has_longint_error` on `argc_max_vec[i]`: the number, or what is printed. -/
def longintAt (args : Arguments) (i : ℕ) (name : List UInt8) : Option (Except LongintText ℤ) :=
  match args.argcMaxVec i with
  | none => none
  | some p =>
      match hasLongintError (fun k => args.argumentBuffer (p + k)) (argumentBufferMaxSize - p)
          name with
      | none => none
      | some (err, val, text) => if err = 0 then val.map .ok else text.map .error

/-! ### Integers -/

instance (s : List UInt8) : Decidable (IsNumeral s) := inferInstanceAs (Decidable (_ ∧ _))

/-- The integer that is written, if there is one and nothing else. -/
def intValue : List UInt8 → Option ℤ
  | [] => none
  | c :: l =>
      let digits := if IsSign c then l else c :: l
      if IsNumeral digits then some (if c = 0x2D then -value digits else value digits) else none

/-- What an argument is read as: the integer, if a `long` can hold it. -/
def longOf (name w : List UInt8) : Except LongintText ℤ :=
  match intValue w with
  | none => .error (.notNumber name w)
  | some v =>
      if longMin ≤ v ∧ v ≤ longMax then .ok v else .error (.invalid erange name w)

variable {m : Mem} {p : ℕ} {s l w : List UInt8} {v : ℤ}

theorem isInteger_iff_intValue : IsInteger s ↔ (intValue s).isSome := by
  cases s with
  | nil => exact iff_of_false not_isInteger_nil Bool.false_ne_true
  | cons c l =>
      by_cases hc : IsSign c
      · rw [isInteger_cons_of_isSign hc, intValue, if_pos hc]
        by_cases hl : IsNumeral l <;> simp [hl]
      · rw [isInteger_cons_of_not_isSign hc, intValue, if_neg hc]
        by_cases hl : IsNumeral (c :: l) <;> simp [hl]

/-- **The integers are the texts that have a value.** -/
theorem intValue_eq_none_iff : intValue s = none ↔ ¬ IsInteger s := by
  rw [isInteger_iff_intValue, Bool.not_eq_true, Option.isSome_eq_false_iff, Option.isNone_iff_eq_none]

/-- A numeral is the integer that it says. -/
theorem intValue_of_isNumeral (h : IsNumeral s) : intValue s = some (value s : ℤ) := by
  cases s with
  | nil => exact absurd rfl h.1
  | cons c l =>
      have hc : ¬ IsSign c := not_isSign_of_isDigit (h.2 c List.mem_cons_self)
      have hminus : c ≠ 0x2D := fun heq => hc (Or.inl heq)
      rw [intValue, if_neg hc, if_pos h, if_neg hminus]

/-- The number nearest to an integer that a `long` can hold, and `ERANGE` if it is another one. -/
def toLong (v : ℤ) : ℤ × ℤ :=
  if v > longMax then (longMax, erange) else if v < longMin then (longMin, erange) else (v, 0)

/-- `strtol` on a text that does not begin with a blank. -/
theorem strtol_cons {c : UInt8} (h : isSpace c = false) :
    strtol (c :: l) =
      toLong (if c = 0x2D
        then -value ((if IsSign c then l else c :: l).takeWhile fun d => decide (IsDigit d))
        else value ((if IsSign c then l else c :: l).takeWhile fun d => decide (IsDigit d))) := by
  have hdrop : (c :: l).dropWhile isSpace = c :: l := List.dropWhile_cons_of_neg (by simp [h])
  have hhead : (∃ d ∈ (c :: l).head?, IsSign d) ↔ IsSign c := by simp
  have hminus : (c :: l).head? = some 0x2D ↔ c = 0x2D := by simp
  have hdigits : (c :: l).drop (if IsSign c then 1 else 0) = if IsSign c then l else c :: l := by
    split <;> rfl
  simp only [strtol, hdrop, hhead, hminus, hdigits, toLong]

/-- **What `strtol` makes of an integer.** -/
theorem strtol_eq (h : intValue s = some v) : strtol s = toLong v := by
  cases s with
  | nil => cases h
  | cons c l =>
      by_cases hnum : IsNumeral (if IsSign c then l else c :: l)
      · rw [intValue, if_pos hnum] at h
        have hblank : isSpace c = false := by
          by_cases hc : IsSign c
          · exact isSpace_of_isSign hc
          · rw [if_neg hc] at hnum
            exact isSpace_of_isDigit (hnum.2 c List.mem_cons_self)
        rw [strtol_cons hblank, takeWhile_of_isNumeral hnum, Option.some.inj h]
      · rw [intValue, if_neg hnum] at h
        cases h

/-! ### An argument in a larger array -/

/-- A loop that has ended in a part of an array ends so in all of it. -/
theorem digitsEnd_mono {left left' : ℕ} {c : UInt8} (h : digitsEnd m left p = some c)
    (hle : left ≤ left') : digitsEnd m left' p = some c := by
  induction left generalizing left' p with
  | zero => cases h
  | succ left ih =>
      obtain ⟨k, rfl⟩ := Nat.exists_eq_add_of_le hle
      rw [Nat.succ_add, digitsEnd]
      rw [digitsEnd] at h
      split
      · rename_i hdigit
        rw [if_pos hdigit] at h
        exact ih h (Nat.le_add_right left k)
      · rename_i hdigit
        rwa [if_neg hdigit] at h

theorem isStringNumber_mono {size size' : ℕ} {b : Bool}
    (h : isStringNumber (some m) size = some b) (hle : size ≤ size') :
    isStringNumber (some m) size' = some b := by
  simp only [isStringNumber] at h ⊢
  generalize (if m 0 = 0x2D ∨ m 0 = 0x2B then 1 else 0) = sign at h ⊢
  split at h
  · cases h
  rename_i hsize
  rw [if_neg (by omega)]
  split at h
  · cases h
  rename_i hsign
  rw [if_neg (by omega)]
  split at h
  · rename_i hzero
    rwa [if_pos hzero]
  rename_i hzero
  rw [if_neg hzero]
  obtain ⟨c, hend, hc⟩ := Option.map_eq_some_iff.1 h
  rw [digitsEnd_mono hend (by omega), Option.map_some, hc]

/-- The text that is passed on ends at the NUL, however long the array is. -/
theorem takeWhile_read_of_lt {size : ℕ} (h : HoldsString m 0 s) (hlt : s.length < size) :
    ((read m 0 size).takeWhile fun c => c != 0) = s := by
  obtain ⟨k, rfl⟩ := Nat.exists_eq_add_of_le (Nat.succ_le_of_lt hlt)
  have hall : ∀ c ∈ s, (c != 0) = true := by
    intro c hc
    rw [bne_iff_ne]
    rintro rfl
    exact h.2 hc
  rw [read_add, h.1, List.append_assoc, List.takeWhile_append_of_pos hall]
  simp

/-- **The test of an argument**, wherever its array ends. -/
theorem hasLongintError_eq {size : ℕ} (h : HoldsString m 0 s) (hlt : s.length < size)
    (name : List UInt8) :
    hasLongintError m size name = some (match intValue s with
      | none => (-1, none, some (.notNumber name s))
      | some v => ((toLong v).2, some (toLong v).1,
          if (toLong v).2 ≠ 0 then some (.invalid (toLong v).2 name s) else none)) := by
  obtain ⟨b, hb, hiff⟩ := isStringNumber_eq h
  rw [hasLongintError, isStringNumber_mono hb hlt, takeWhile_read_of_lt h hlt]
  cases hv : intValue s with
  | none =>
      have hfalse : b = false := by
        rw [Bool.eq_false_iff]
        exact fun htrue => intValue_eq_none_iff.1 hv (hiff.1 htrue)
      rw [hfalse]
      rfl
  | some v =>
      have htrue : b = true := hiff.2 (isInteger_iff_intValue.2 (by rw [hv]; rfl))
      rw [htrue]
      simp only [Option.map_some, strtol_eq hv]

/-! ### Where the pointers lead -/

/-- The pointers lead in front of the end of the buffer, where there is a NUL. -/
structure Arguments.InBuffer (args : Arguments) : Prop where
  pointer_lt : ∀ i p, args.argcMaxVec i = some p → p < maxBufEnd
  nul : args.argumentBuffer (argumentBufferMaxSize - 1) = 0

variable {buf : Mem} {vec : ℕ → Option ℕ} {args args' : Arguments} {argc r n : ℕ}

/-- A cut does not remove the NUL at the end. -/
theorem nul_write (h : buf (argumentBufferMaxSize - 1) = 0) (k : ℕ) :
    write buf k [0] (argumentBufferMaxSize - 1) = 0 := by
  rcases lt_trichotomy (argumentBufferMaxSize - 1) k with hlt | rfl | hgt
  · rw [write_of_lt _ _ _ hlt]
    exact h
  · exact write_getElem buf _ [0] (i := 0) (by simp)
  · rw [write_of_ge _ _ _ (by simpa using hgt)]
    exact h

/-- A cut, and a pointer to what was cut off. -/
theorem Arguments.InBuffer.cut (h : Arguments.InBuffer ⟨buf, vec⟩) (hp : p < maxBufEnd) (i : ℕ)
    {buf' : Mem} (hnul : buf' (argumentBufferMaxSize - 1) = 0) :
    Arguments.InBuffer ⟨buf', Function.update vec i (some p)⟩ := by
  refine ⟨?_, hnul⟩
  intro j q hq
  replace hq : Function.update vec i (some p) j = some q := hq
  rcases eq_or_ne j i with rfl | hne
  · rw [Function.update_self] at hq
    rwa [← Option.some.inj hq]
  · rw [Function.update_of_ne hne] at hq
    exact h.pointer_lt j q hq

/-- No pointers, and the NUL. -/
theorem inBuffer_none (hnul : buf (argumentBufferMaxSize - 1) = 0) :
    Arguments.InBuffer ⟨buf, fun _ => none⟩ := by
  refine ⟨?_, hnul⟩
  intro i p hp
  cases hp

/-- Every token that the loop finds begins in front of the end of the buffer. -/
theorem argLoop_inBuffer {slots : ℕ} (h : Arguments.InBuffer ⟨buf, vec⟩) (hp : p < maxBufEnd)
    (hloop : argLoop buf vec argc p r slots = some (args, n)) : args.InBuffer := by
  induction slots generalizing buf vec argc p r with
  | zero =>
      rw [argLoop] at hloop
      obtain ⟨rfl, -⟩ := Prod.mk.inj (Option.some.inj hloop)
      exact h
  | succ slots ih =>
      rw [argLoop] at hloop
      split at hloop
      · obtain ⟨rfl, -⟩ := Prod.mk.inj (Option.some.inj hloop)
        exact h
      split at hloop
      · cases hloop
      rename_i k _
      dsimp only at hloop
      have hcut := h.cut hp argc (nul_write h.nul k)
      split at hloop
      · cases hloop
      rename_i q _
      split at hloop
      · obtain ⟨rfl, -⟩ := Prod.mk.inj (Option.some.inj hloop)
        exact hcut
      · rename_i hlt
        exact ih hcut (by omega) hloop

theorem buildArgcTail_inBuffer (hnul : buf (argumentBufferMaxSize - 1) = 0)
    (htail : buildArgcTail buf p = some (args, n)) : args.InBuffer := by
  rw [buildArgcTail] at htail
  split at htail
  · cases htail
  rename_i q _
  dsimp only at htail
  split at htail
  · obtain ⟨rfl, -⟩ := Prod.mk.inj (Option.some.inj htail)
    exact inBuffer_none hnul
  rename_i hlt
  split at htail
  · obtain ⟨rfl, -⟩ := Prod.mk.inj (Option.some.inj htail)
    exact (inBuffer_none hnul).cut (by omega) 0 hnul
  · exact argLoop_inBuffer (inBuffer_none hnul) (by omega) htail

/-- **The pointers that `build_argc` leaves**, if it has counted any. -/
theorem buildArgc_inBuffer {argument : Mem} (hbuild : buildArgc argument args = some (args', n))
    (hpos : 0 < n) : args'.InBuffer := by
  rw [buildArgc] at hbuild
  split at hbuild
  · cases hbuild
  rename_i a _
  dsimp only at hbuild
  split at hbuild
  · obtain ⟨-, rfl⟩ := Prod.mk.inj (Option.some.inj hbuild)
    exact absurd hpos (Nat.lt_irrefl 0)
  generalize write (write args.argumentBuffer 0 [0]) 0
    (strncpyBytes argument a argumentBufferMaxSize) = m at hbuild
  have hnul : write m (argumentBufferMaxSize - 1) [0] (argumentBufferMaxSize - 1) = 0 :=
    write_getElem m _ [0] (i := 0) (by simp)
  rw [buildArgcCut] at hbuild
  split at hbuild
  · cases hbuild
  rename_i b _
  split at hbuild
  · obtain ⟨-, rfl⟩ := Prod.mk.inj (Option.some.inj hbuild)
    exact absurd hpos (Nat.lt_irrefl 0)
  · exact buildArgcTail_inBuffer (nul_write hnul b) hbuild

/-! ### The arguments of a line -/

/-- What `build_argc` takes for the arguments of a line: the tokens behind the first one, up to the
number that there is room for, or the empty text behind a space. -/
def lineArguments (text : List UInt8) : List (List UInt8) :=
  if EndsInSpace text then [[]] else (tokens space text).tail.take argMaxVecSz

/-- The line is a token with spaces behind it: the empty text at the end is pointed to. -/
theorem buildArgcCut_endsInSpace {t : List UInt8} (hpad : Padded buf 0 t) (hz : (0 : UInt8) ∉ t)
    (hhead : t.head? ≠ some space) (hle : t.length ≤ 255) (hends : EndsInSpace t)
    (hbuild : buildArgcCut buf = some (args, n)) :
    ∃ q, args.argcMaxVec 0 = some q ∧ HoldsString args.argumentBuffer q [] := by
  have hmax : argumentBufferMaxSize = 384 := rfl
  have hend : maxBufEnd = 382 := rfl
  have hne : t ≠ [] := by
    rintro rfl
    exact absurd hends.1 (by simp)
  obtain ⟨w, k, rest, ht⟩ := exists_tokenAt hpad hz hne hhead (by omega)
  have hnext := ht.next_le
  have hcut : scan (fun c => c ≠ 0 && c ≠ space) buf argumentBufferMaxSize 0 =
      some (0 + w.length) := by
    refine scan_eq (by omega) (by omega) ?_ ?_
    · intro i hi hlt
      have hin := ht.inToken i hi hlt
      simpa [inToken, and_comm] using hin
    · have hstop := ht.stop
      simpa [inToken, Decidable.imp_iff_not_or, or_comm] using hstop
  rcases ht.split with ⟨htw, -, -⟩ | ⟨htw, hspace⟩
  · -- a token has no space at its end
    have hmem : space ∈ t := List.mem_of_getLast? hends.2
    obtain ⟨i, hi, heq⟩ := List.getElem_of_mem hmem
    have hin := ht.inToken (0 + i) (by omega) (by rw [← htw]; omega)
    rw [hpad.getElem hi (by omega), heq] at hin
    exact absurd hin (by decide)
  · have hrest : rest = [] := by
      by_contra hrest
      have hone := hends.1
      rw [ht.tokens_eq, List.length_cons] at hone
      exact tokens_ne_nil hrest ht.head (List.length_eq_zero_iff.1 (by omega))
    have hnonzero : buf (0 + w.length) ≠ 0 := by
      rw [hspace]
      decide
    rw [buildArgcCut, hcut] at hbuild
    dsimp only at hbuild
    rw [if_neg hnonzero] at hbuild
    have hspaces : Padded (write buf (0 + w.length) [0]) (0 + w.length + 1)
        (List.replicate k space) := by
      simpa [hrest] using ht.padded
    generalize write buf (0 + w.length) [0] = buf' at hbuild hspaces
    have hscan : scan (· = space) buf' (argumentBufferMaxSize - (0 + w.length + 1))
        (0 + w.length + 1) = some (0 + w.length + 1 + k) :=
      scan_spaces (l := []) (by simpa using hspaces) (by omega) (by simp)
    have hzero : ∀ i, 0 + w.length + 1 + k ≤ i → i < argumentBufferMaxSize → buf' i = 0 :=
      fun i hi => hspaces.zero (by simpa using hi)
    rw [buildArgcTail, hscan] at hbuild
    dsimp only at hbuild
    rw [if_neg (by omega), if_pos (hzero _ (by omega) (by omega))] at hbuild
    obtain ⟨rfl, -⟩ := Prod.mk.inj (Option.some.inj hbuild)
    refine ⟨0 + w.length + 1 + k, by simp, ?_⟩
    exact holdsString_nil (hzero _ (Nat.le_refl _) (by omega))

theorem buildArgc_endsInSpace {argument : Mem} {text : List UInt8}
    (h : HoldsString argument 0 text) (hle : text.length ≤ 255) (hends : EndsInSpace text)
    (hbuild : buildArgc argument args = some (args', n)) :
    ∃ q, args'.argcMaxVec 0 = some q ∧ HoldsString args'.argumentBuffer q [] := by
  have hsize : commandTextSize = 256 := rfl
  have hmax : argumentBufferMaxSize = 384 := rfl
  obtain ⟨a, t, rfl, hhead⟩ := exists_leading space text
  rw [List.length_append, List.length_replicate] at hle
  have hne : t ≠ [] := by
    rintro rfl
    exact absurd hends.1 (by rw [tokens_replicate_append]; simp)
  obtain ⟨hscan, hholds⟩ := scan_leading h hhead (by omega)
  have hnonzero : argument a ≠ 0 := by
    rw [hholds.first]
    cases t with
    | nil => exact absurd rfl hne
    | cons d t => exact hholds.cons.2.1
  rw [buildArgc, hscan] at hbuild
  dsimp only at hbuild
  rw [if_neg hnonzero] at hbuild
  exact buildArgcCut_endsInSpace (padded_strncpy _ hholds (by omega)) hholds.2 hhead (by omega)
    ((endsInSpace_replicate_append hne).1 hends) hbuild

/-- **The arguments of a line** are counted and pointed to. -/
theorem buildArgc_lineArguments {argument : Mem} {text : List UInt8}
    (h : HoldsString argument 0 text) (hle : text.length ≤ 255) (args : Arguments) :
    ∃ args', buildArgc argument args = some (args', (lineArguments text).length) ∧
      HoldsString args'.argumentBuffer 0 ((tokens space text).headD []) ∧
      ∀ i < (lineArguments text).length, ∃ p, args'.argcMaxVec i = some p ∧
        HoldsString args'.argumentBuffer p ((lineArguments text).getD i []) := by
  obtain ⟨args', argc, hbuild, hfirst, hends, hcount⟩ := buildArgc_spec h hle args
  by_cases hspace : EndsInSpace text
  · have hlist : lineArguments text = [[]] := if_pos hspace
    refine ⟨args', by rw [hlist, hbuild, hends hspace]; rfl, hfirst, ?_⟩
    intro i hi
    obtain rfl : i = 0 := by
      rw [hlist, List.length_singleton] at hi
      omega
    rw [hlist]
    exact buildArgc_endsInSpace h hle hspace hbuild
  · obtain ⟨hargc, hargs⟩ := hcount hspace
    have hlist : lineArguments text = (tokens space text).tail.take argMaxVecSz := if_neg hspace
    have hlen : (lineArguments text).length = argc := by rw [hlist, List.length_take, hargc]
    refine ⟨args', by rw [hlen, hbuild], hfirst, ?_⟩
    intro i hi
    rw [hlen] at hi
    obtain ⟨p, hp, hholds⟩ := hargs i hi
    refine ⟨p, hp, ?_⟩
    rw [hlist, List.getD_eq_getElem?_getD, List.getElem?_take_of_lt (by omega),
      ← List.getD_eq_getElem?_getD]
    exact hholds

/-! ### The argument -/

/-- A string behind a pointer, as it is seen through the pointer. -/
theorem HoldsString.behind (h : HoldsString buf p w) :
    HoldsString (fun k => buf (p + k)) 0 w := by
  refine ⟨?_, h.2⟩
  rw [← h.1]
  exact List.map_congr_left fun i _ => by rw [Nat.zero_add]

/-- A string in front of a NUL ends there. -/
theorem HoldsString.add_length_le (h : HoldsString buf p w) {e : ℕ} (hp : p ≤ e) (he : buf e = 0) :
    p + w.length ≤ e := by
  by_contra hgt
  have hat : e - p < w.length := by omega
  have hread := (holdsString_iff.1 h).1
  have hget : w[e - p] = buf e := by
    have hlen : e - p < (read buf p w.length).length := by rwa [length_read]
    have hbyte := getElem_read buf p w.length (e - p) hlen
    rw [Nat.add_sub_cancel' hp] at hbyte
    rw [← hbyte]
    exact List.getElem_of_eq hread.symm hat
  exact h.2 (by rw [← he, ← hget]; exact List.getElem_mem hat)

/-- **An argument is read as the integer that is written there**, if a `long` can hold it, and the
test does not leave the buffer. -/
theorem longintAt_eq {i : ℕ} (h : args.InBuffer) (hi : args.argcMaxVec i = some p)
    (hw : HoldsString args.argumentBuffer p w) (name : List UInt8) :
    longintAt args i name = some (longOf name w) := by
  have hmax : argumentBufferMaxSize = 384 := rfl
  have hend : maxBufEnd = 382 := rfl
  have hp := h.pointer_lt i p hi
  have hle := hw.add_length_le (by omega) h.nul
  rw [longintAt, hi]
  dsimp only
  rw [hasLongintError_eq hw.behind (by omega), longOf]
  cases intValue w with
  | none => rfl
  | some v =>
      dsimp only
      by_cases hhigh : v > longMax
      · have hlong : toLong v = (longMax, erange) := if_pos hhigh
        have hout : ¬ (longMin ≤ v ∧ v ≤ longMax) := fun hin => not_lt.2 hin.2 hhigh
        simp only [hlong, if_neg hout]
        rfl
      · by_cases hlow : v < longMin
        · have hlong : toLong v = (longMin, erange) := by rw [toLong, if_neg hhigh, if_pos hlow]
          have hout : ¬ (longMin ≤ v ∧ v ≤ longMax) := fun hin => not_lt.2 hin.1 hlow
          simp only [hlong, if_neg hout]
          rfl
        · have hlong : toLong v = (v, 0) := by rw [toLong, if_neg hhigh, if_neg hlow]
          have hin : longMin ≤ v ∧ v ≤ longMax := ⟨not_lt.1 hlow, not_lt.1 hhigh⟩
          simp only [hlong, if_pos hin]
          rfl

/-- **The numbers of a line**: the arguments are counted, and each is read as the integer that is
written there. -/
theorem buildArgc_longintAt {argument : Mem} {text : List UInt8} (h : HoldsString argument 0 text)
    (hle : text.length ≤ 255) (args : Arguments) :
    ∃ args', buildArgc argument args = some (args', (lineArguments text).length) ∧
      HoldsString args'.argumentBuffer 0 ((tokens space text).headD []) ∧
      ∀ i < (lineArguments text).length, ∀ name,
        longintAt args' i name = some (longOf name ((lineArguments text).getD i [])) := by
  obtain ⟨args', hbuild, hfirst, hargs⟩ := buildArgc_lineArguments h hle args
  refine ⟨args', hbuild, hfirst, ?_⟩
  intro i hi name
  obtain ⟨p, hp, hw⟩ := hargs i hi
  exact longintAt_eq (buildArgc_inBuffer hbuild (by omega)) hp hw name

end Solar48
