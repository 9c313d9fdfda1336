/-
**The arguments of a command.**

`build_argc` copies a line into `argument_buffer`, cuts it up there, and leaves pointers to the
pieces in `argc_max_vec`: the first token stays at the beginning of the buffer, the others are the
arguments.  A cursor `p` is at the beginning of a piece, another one, `r`, goes ahead to its end.
Behind the first token `r` starts one character ahead of `p`, so that `p` is not looked at: if there
are only spaces left, the empty string at the end is taken for an argument.

Main definitions:

* `Solar48.HoldsString` — a NUL-terminated string in memory;
* `Solar48.buildArgc` — the code; it is none if it reads outside of an array;
* `Solar48.CountsArguments` — the first token and the arguments are those of the text.

Main results:

* `Solar48.argLoop_spec` — what the loop finds;
* `Solar48.buildArgc_first` — the first token is always found;
* `Solar48.countsArguments_iff` — **the arguments are counted rightly unless there are none, and a
  space behind the first token**.
-/

import Solar48.ByteMem
import Solar48.Tokens
import Mathlib.Data.List.GetD
import Mathlib.Logic.Function.Basic

set_option relaxedAutoImplicit false
set_option autoImplicit false

namespace Solar48

open ByteMem Tokens

/-! ### The code -/

/-- `ARG_MAX_VEC_SZ`. -/
def argMaxVecSz : ℕ := 32

/-- `ARGUMENT_BUFFER_MAX_SIZE`. -/
def argumentBufferMaxSize : ℕ := 384

/-- `&MAX_BUF_END`, as an offset of `argument_buffer`. -/
def maxBufEnd : ℕ := argumentBufferMaxSize - 2

/-- The size of `text`, which every command is called with. -/
def commandTextSize : ℕ := 256

/-- `' '`. -/
def space : UInt8 := 0x20

/-- The variables `argument_buffer` and `argc_max_vec`, with pointers as offsets of the buffer. -/
structure Arguments where
  argumentBuffer : Mem
  argcMaxVec : ℕ → Option ℕ

/-- `while (c(*p)) ++p`, with so many bytes left of the array: where it ends. -/
def scan (c : UInt8 → Bool) (m : Mem) : ℕ → ℕ → Option ℕ
  | 0, _ => none
  | left + 1, p => if c (m p) then scan c m left (p + 1) else some p

/-- The characters of a token. -/
def inToken (c : UInt8) : Bool := c ≠ space && c ≠ 0

/-- The `while` loop that leads `r` to the end of a token. -/
def tokenEnd (m : Mem) : ℕ → ℕ → Option ℕ
  | 0, _ => none
  | left + 1, r =>
      if inToken (m r) then
        if r + 1 ≥ maxBufEnd then some (r + 1) else tokenEnd m left (r + 1)
      else some r

/-- The bytes that `strncpy` copies from a string of at most `n` characters: zeros follow it. -/
def strncpyBytes (src : Mem) (p n : ℕ) : List UInt8 :=
  let s := (read src p n).takeWhile (· ≠ 0)
  s ++ List.replicate (n - s.length) 0

/-- The outer `while` loop, with so many elements of `argc_max_vec` left. -/
def argLoop (buf : Mem) (vec : ℕ → Option ℕ) (argc p r : ℕ) : ℕ → Option (Arguments × ℕ)
  | 0 => some (⟨buf, vec⟩, argc)
  | slots + 1 =>
      if buf r = 0 then some (⟨buf, vec⟩, argc)
      else
        match tokenEnd buf (argumentBufferMaxSize - r) r with
        | none => none
        | some r =>
            let vec := Function.update vec argc (some p)
            let buf := write buf r [0]
            match scan (· = space) buf (argumentBufferMaxSize - (r + 1)) (r + 1) with
            | none => none
            | some r =>
                if r ≥ maxBufEnd then some (⟨buf, vec⟩, argc)
                else argLoop buf vec (argc + 1) r r slots

/-- `build_argc`, from where the first token is terminated: `p` is behind it. -/
def buildArgcTail (buf : Mem) (p : ℕ) : Option (Arguments × ℕ) :=
  match scan (· = space) buf (argumentBufferMaxSize - p) p with
  | none => none
  | some p =>
      let r := p + 1
      let vec : ℕ → Option ℕ := fun _ => none
      if r ≥ maxBufEnd then some (⟨buf, vec⟩, 0)
      else if buf r = 0 then some (⟨buf, Function.update vec 0 (some p)⟩, 1)
      else argLoop buf vec 0 p r argMaxVecSz

/-- `build_argc`, from where the line is in the buffer. -/
def buildArgcCut (buf : Mem) : Option (Arguments × ℕ) :=
  match scan (fun c => c ≠ 0 && c ≠ space) buf argumentBufferMaxSize 0 with
  | none => none
  | some p =>
      if buf p = 0 then some (⟨buf, fun _ => none⟩, 0)
      else buildArgcTail (write buf p [0]) (p + 1)

/-- `build_argc`. -/
def buildArgc (argument : Mem) (s : Arguments) : Option (Arguments × ℕ) :=
  let buf := write s.argumentBuffer 0 [0]
  match scan (fun c => c = space && c ≠ 0) argument commandTextSize 0 with
  | none => none
  | some p =>
      if argument p = 0 then some (⟨buf, s.argcMaxVec⟩, 0)
      else
        let buf := write buf 0 (strncpyBytes argument p argumentBufferMaxSize)
        buildArgcCut (write buf (argumentBufferMaxSize - 1) [0])

/-! ### Strings in memory -/

/-- There is a NUL-terminated string at `p`. -/
def HoldsString (m : Mem) (p : ℕ) (s : List UInt8) : Prop :=
  read m p (s.length + 1) = s ++ [0] ∧ (0 : UInt8) ∉ s

/-- From `p` on, the buffer holds a list, and zeros behind it. -/
def Padded (m : Mem) (p : ℕ) (l : List UInt8) : Prop :=
  ∀ i, p ≤ i → i < argumentBufferMaxSize → m i = l.getD (i - p) 0

/-- The text of a command, counted as it should be: the first token is in the buffer, the others
are counted, up to the number that there is room for, and pointed to. -/
def CountsArguments (text : List UInt8) (argument : Mem) (s : Arguments) : Prop :=
  ∃ s' argc, buildArgc argument s = some (s', argc) ∧
    HoldsString s'.argumentBuffer 0 ((tokens space text).headD []) ∧
    argc = min argMaxVecSz (tokens space text).tail.length ∧
    ∀ i < argc, ∃ p, s'.argcMaxVec i = some p ∧
      HoldsString s'.argumentBuffer p ((tokens space text).tail.getD i [])

variable {m m' buf : Mem} {p r : ℕ} {s l : List UInt8}

theorem holdsString_iff : HoldsString m p s ↔
    read m p s.length = s ∧ m (p + s.length) = 0 ∧ (0 : UInt8) ∉ s := by
  have hone : read m (p + s.length) 1 = [m (p + s.length)] := by rw [read_succ, read_zero]
  unfold HoldsString
  rw [read_add, hone]
  constructor
  · rintro ⟨heq, hz⟩
    obtain ⟨h₁, h₂⟩ := List.append_inj heq (by simp)
    exact ⟨h₁, by simpa using h₂, hz⟩
  · rintro ⟨h₁, h₂, hz⟩
    exact ⟨by rw [h₁, h₂], hz⟩

/-- A string stays where nothing is written. -/
theorem HoldsString.congr (h : HoldsString m p s)
    (heq : ∀ i, p ≤ i → i ≤ p + s.length → m' i = m i) : HoldsString m' p s := by
  refine ⟨?_, h.2⟩
  rw [← h.1]
  exact read_congr fun i hi hlt => heq i hi (by omega)

/-- A string, and the string that is behind its first characters. -/
theorem HoldsString.append {x y : List UInt8} (h : HoldsString m p (x ++ y)) :
    read m p x.length = x ∧ HoldsString m (p + x.length) y := by
  obtain ⟨hread, hnul, hz⟩ := holdsString_iff.1 h
  rw [List.length_append, read_add] at hread
  obtain ⟨hx, hy⟩ := List.append_inj hread (by simp)
  refine ⟨hx, holdsString_iff.2 ⟨hy, ?_, fun hmem => hz (List.mem_append_right x hmem)⟩⟩
  rw [← hnul, List.length_append, Nat.add_assoc]

/-- The first character of a string, or the NUL behind it. -/
theorem HoldsString.first (h : HoldsString m p s) : m p = s.headD 0 := by
  have hread := h.1
  rw [read_succ] at hread
  cases s with
  | nil => exact (List.cons.inj hread).1
  | cons c s => exact (List.cons.inj hread).1

/-- The first character of a string, and the rest of it. -/
theorem HoldsString.cons {c : UInt8} (h : HoldsString m p (c :: l)) :
    m p = c ∧ c ≠ 0 ∧ HoldsString m (p + 1) l := by
  obtain ⟨-, hrest⟩ := HoldsString.append (x := [c]) h
  exact ⟨h.first, fun h0 => h.2 (by simp [h0]), hrest⟩

/-- An empty string. -/
theorem holdsString_nil (h : m p = 0) : HoldsString m p [] :=
  holdsString_iff.2 ⟨rfl, h, List.not_mem_nil⟩

/-- Text that does not begin with a space. -/
theorem headD_ne_space (h : l.head? ≠ some space) : l.headD 0 ≠ space := by
  cases l with
  | nil => decide
  | cons c l => simpa using h

/-- A character of the padded list. -/
theorem Padded.getElem_sub (h : Padded m p l) {i : ℕ} (hi : p ≤ i)
    (hlt : i < argumentBufferMaxSize) (hlen : i - p < l.length) : m i = l[i - p] := by
  rw [h i hi hlt, List.getD_eq_getElem _ _ hlen]

theorem Padded.getElem (h : Padded m p l) {i : ℕ} (hi : i < l.length)
    (hlt : p + i < argumentBufferMaxSize) : m (p + i) = l[i] := by
  rw [h (p + i) (by omega) hlt, Nat.add_sub_cancel_left, List.getD_eq_getElem _ _ hi]

/-- The first character, or the padding. -/
theorem Padded.first (h : Padded m p l) (hlt : p < argumentBufferMaxSize) :
    m p = l.headD 0 := by
  rw [h p (Nat.le_refl p) hlt, Nat.sub_self]
  cases l with
  | nil => rfl
  | cons c l => rfl

/-- The padding. -/
theorem Padded.zero (h : Padded m p l) {i : ℕ} (hi : p + l.length ≤ i)
    (hlt : i < argumentBufferMaxSize) : m i = 0 := by
  rw [h i (by omega) hlt, List.getD_eq_default _ _ (by omega)]

/-- What is behind a piece of the list. -/
theorem Padded.drop {w : List UInt8} (h : Padded m p (w ++ l)) : Padded m (p + w.length) l := by
  intro i hi hlt
  rw [h i (by omega) hlt, List.getD_append_right _ _ _ _ (by omega)]
  congr 1
  omega

/-- What is behind spaces. -/
theorem Padded.drop_spaces {n : ℕ} (h : Padded m p (List.replicate n space ++ l)) :
    Padded m (p + n) l := by
  have hdrop := h.drop
  rwa [List.length_replicate] at hdrop

theorem Padded.congr (h : Padded m p l) (heq : ∀ i, p ≤ i → m' i = m i) : Padded m' p l := by
  intro i hi hlt
  rw [heq i hi, h i hi hlt]

/-- The piece itself. -/
theorem Padded.read_eq {w : List UInt8} (h : Padded m p (w ++ l))
    (hlt : p + w.length ≤ argumentBufferMaxSize) : read m p w.length = w := by
  refine List.ext_getElem (by simp) ?_
  intro i h₁ h₂
  rw [getElem_read, h.getElem (by simp; omega) (by omega), List.getElem_append_left h₂]

/-! ### Cursors -/

/-- A loop that runs ends where its condition fails first. -/
theorem scan_eq {c : UInt8 → Bool} {left q : ℕ} (hle : p ≤ q) (hlt : q < p + left)
    (hall : ∀ i, p ≤ i → i < q → c (m i) = true) (hstop : c (m q) = false) :
    scan c m left p = some q := by
  induction left generalizing p with
  | zero => omega
  | succ left ih =>
      rw [scan]
      rcases Nat.eq_or_lt_of_le hle with rfl | hpq
      · rw [if_neg (by simp [hstop])]
      · rw [if_pos (hall p (Nat.le_refl p) hpq)]
        exact ih hpq (by omega) fun i hi => hall i (by omega)

/-- The end of a token that is not at the end of the buffer. -/
theorem tokenEnd_eq {left q : ℕ} (hle : r ≤ q) (hlt : q < r + left) (hend : q < maxBufEnd)
    (hall : ∀ i, r ≤ i → i < q → inToken (m i) = true) (hstop : inToken (m q) = false) :
    tokenEnd m left r = some q := by
  induction left generalizing r with
  | zero => omega
  | succ left ih =>
      rw [tokenEnd]
      rcases Nat.eq_or_lt_of_le hle with rfl | hrq
      · rw [if_neg (by simp [hstop])]
      · rw [if_pos (hall r (Nat.le_refl r) hrq), if_neg (by omega)]
        exact ih hrq (by omega) fun i hi => hall i (by omega)

/-- Spaces are skipped up to what follows them. -/
theorem scan_spaces {n : ℕ} (h : Padded m p (List.replicate n space ++ l))
    (hlt : p + n < argumentBufferMaxSize) (hhead : l.head? ≠ some space) :
    scan (· = space) m (argumentBufferMaxSize - p) p = some (p + n) := by
  have hstop : m (p + n) ≠ space := by
    rw [h.drop_spaces.first hlt]
    exact headD_ne_space hhead
  refine scan_eq (by omega) (by omega) ?_ (by simpa using hstop)
  intro i hi hin
  rw [h.getElem_sub hi (by omega) (by simp; omega), List.getElem_append_left (by simp; omega)]
  simp

/-! ### One token -/

/-- The buffer holds `l` from `p` on, and `l` begins with the token `w`: once that is terminated,
`n` spaces and `rest` are behind it. -/
structure TokenAt (buf : Mem) (p : ℕ) (l w : List UInt8) (n : ℕ) (rest : List UInt8) : Prop where
  tokens_eq : tokens space l = w :: tokens space rest
  length_pos : 1 ≤ w.length
  inToken : ∀ i, p ≤ i → i < p + w.length → inToken (buf i) = true
  stop : Solar48.inToken (buf (p + w.length)) = false
  holds : HoldsString (write buf (p + w.length) [0]) p w
  padded : Padded (write buf (p + w.length) [0]) (p + w.length + 1)
    (List.replicate n space ++ rest)
  not_mem : (0 : UInt8) ∉ rest
  head : rest.head? ≠ some space
  next_le : p + w.length + 1 + n ≤ 256
  length_le : rest ≠ [] → p + w.length + 1 + n + rest.length ≤ 255
  split : l = w ∧ rest = [] ∧ buf (p + w.length) = 0 ∨
    l = w ++ space :: (List.replicate n space ++ rest) ∧ buf (p + w.length) = space

/-- A list that is not empty and does not begin with a space begins with a token. -/
theorem exists_tokenAt (h : Padded buf p l) (hz : (0 : UInt8) ∉ l) (hne : l ≠ [])
    (hhead : l.head? ≠ some space) (hle : p + l.length ≤ 255) :
    ∃ w n rest, TokenAt buf p l w n rest := by
  have hmax : argumentBufferMaxSize = 384 := rfl
  obtain ⟨w, hw, hspace, hcases⟩ := exists_token hne hhead
  have hpos : 1 ≤ w.length := List.length_pos_iff.2 hw
  -- what the token and its end are like, whatever follows
  have hcommon : ∀ tail, l = w ++ tail →
      (∀ i, p ≤ i → i < p + w.length → inToken (buf i) = true) ∧
        HoldsString (write buf (p + w.length) [0]) p w := by
    intro tail hl
    have hlen : w.length ≤ l.length := by rw [hl, List.length_append]; omega
    have hzw : (0 : UInt8) ∉ w := fun hmem => hz (by rw [hl]; exact List.mem_append_left _ hmem)
    rw [hl] at h
    refine ⟨?_, holdsString_iff.2 ⟨?_, ?_, hzw⟩⟩
    · intro i hi hlt
      have hat := h.getElem_sub hi (by omega) (by simp; omega)
      rw [List.getElem_append_left (by omega)] at hat
      have hmem : buf i ∈ w := by rw [hat]; exact List.getElem_mem _
      have hs : buf i ≠ space := fun heq => hspace (heq ▸ hmem)
      have h0 : buf i ≠ 0 := fun heq => hzw (heq ▸ hmem)
      simp [inToken, hs, h0]
    · rw [read_write_of_le _ _ _ (Nat.le_refl _)]
      exact h.read_eq (by omega)
    · exact write_getElem buf (p + w.length) [0] (i := 0) (by simp)
  rcases hcases with rfl | ⟨n, rest, hl, hrest⟩
  · obtain ⟨hin, hholds⟩ := hcommon [] (by simp)
    have hend : buf (p + l.length) = 0 := h.zero (Nat.le_refl _) (by omega)
    refine ⟨l, 0, [], ?_, hpos, hin, ?_, hholds, ?_, List.not_mem_nil, by simp, by omega,
      fun hne => absurd rfl hne, Or.inl ⟨rfl, rfl, hend⟩⟩
    · rw [tokens_of_not_mem hspace hw, tokens_nil]
    · rw [hend]
      rfl
    · intro i hi hlt
      rw [write_of_ge _ _ _ (by simpa using hi), h.zero (by omega) hlt]
      simp
  · obtain ⟨hin, hholds⟩ := hcommon _ hl
    have hlen : l.length = w.length + (1 + (n + rest.length)) := by
      rw [hl]
      simp
      omega
    have hpad := h
    rw [hl] at hpad
    have hbehind := hpad.drop
    have hend : buf (p + w.length) = space := hbehind.first (by omega)
    refine ⟨w, n, rest, ?_, hpos, hin, ?_, hholds, ?_, ?_, hrest, by omega, fun _ => by omega,
      Or.inr ⟨hl, hend⟩⟩
    · rw [hl, tokens_append_cons hspace hw, tokens_replicate_append]
    · rw [hend]
      rfl
    · have htail : Padded buf (p + w.length + 1) (List.replicate n space ++ rest) :=
        Padded.drop (w := [space]) hbehind
      exact htail.congr fun i hi => write_of_ge _ _ _ (by simpa using hi)
    · exact fun hmem => hz (by rw [hl]; simp [hmem])

/-! ### The loop -/

/-- **What the loop finds**: all the tokens, or as many as there is room for, if `r` is at the
beginning of the first of them or one character further. -/
theorem argLoop_spec (slots argc : ℕ) (vec : ℕ → Option ℕ) (hpad : Padded buf p l)
    (hz : (0 : UInt8) ∉ l) (hhead : l.head? ≠ some space) (hp : p ≤ 256)
    (hle : l ≠ [] → p + l.length ≤ 255) (hr : r = p ∨ r = p + 1 ∧ 2 ≤ l.length) :
    ∃ buf' vec', argLoop buf vec argc p r slots =
        some (⟨buf', vec'⟩, argc + min slots (tokens space l).length) ∧
      (∀ i < p, buf' i = buf i) ∧ (∀ i < argc, vec' i = vec i) ∧
      ∀ j < min slots (tokens space l).length, ∃ q, vec' (argc + j) = some q ∧
        HoldsString buf' q ((tokens space l).getD j []) := by
  have hmax : argumentBufferMaxSize = 384 := rfl
  have hend : maxBufEnd = 382 := rfl
  induction slots generalizing buf vec argc p r l with
  | zero => exact ⟨buf, vec, by simp [argLoop], fun _ _ => rfl, fun _ _ => rfl, by simp⟩
  | succ slots ih =>
      by_cases hne : l = []
      · obtain rfl : r = p := by
          rcases hr with hr | ⟨-, hlen⟩
          · exact hr
          · simp [hne] at hlen
        have hzero : buf r = 0 := hpad.zero (by simp [hne]) (by omega)
        exact ⟨buf, vec, by simp [argLoop, hzero, hne], fun _ _ => rfl, fun _ _ => rfl,
          by simp [hne]⟩
      · obtain ⟨w, n, rest, ht⟩ := exists_tokenAt hpad hz hne hhead (hle hne)
        have hwpos := ht.length_pos
        have hnext := ht.next_le
        have hnonzero : buf r ≠ 0 := by
          have hlen := hle hne
          have hpos : 1 ≤ l.length := List.length_pos_iff.2 hne
          obtain ⟨k, hk, rfl⟩ : ∃ k, k < l.length ∧ r = p + k := by
            rcases hr with rfl | ⟨rfl, hlen2⟩
            · exact ⟨0, by omega, rfl⟩
            · exact ⟨1, by omega, rfl⟩
          rw [hpad.getElem hk (by omega)]
          exact fun h0 => hz (h0 ▸ List.getElem_mem hk)
        have hrle : p ≤ r ∧ r ≤ p + w.length := by omega
        have hend_eq : tokenEnd buf (argumentBufferMaxSize - r) r = some (p + w.length) :=
          tokenEnd_eq hrle.2 (by omega) (by omega) (fun i hi => ht.inToken i (by omega)) ht.stop
        have hscan := scan_spaces ht.padded (by omega) ht.head
        have hrest : Padded (write buf (p + w.length) [0]) (p + w.length + 1 + n) rest :=
          ht.padded.drop_spaces
        obtain ⟨buf', vec', hloop, hbuf, hvec, hargs⟩ :=
          ih (argc + 1) (Function.update vec argc (some p)) hrest ht.not_mem ht.head ht.next_le
            ht.length_le (Or.inl rfl)
        have hcount : min (slots + 1) (tokens space l).length =
            min slots (tokens space rest).length + 1 := by
          rw [ht.tokens_eq, List.length_cons]
          omega
        refine ⟨buf', vec', ?_, ?_, ?_, ?_⟩
        · rw [argLoop, if_neg hnonzero, hend_eq]
          dsimp only
          rw [hscan]
          dsimp only
          rw [if_neg (by omega), hloop, hcount]
          simp only [Option.some.injEq, Prod.mk.injEq, true_and]
          omega
        · intro i hi
          rw [hbuf i (by omega), write_of_lt _ _ _ (by omega)]
        · intro i hi
          rw [hvec i (by omega), Function.update_of_ne (by omega)]
        · intro j hj
          rw [hcount] at hj
          rw [ht.tokens_eq]
          cases j with
          | zero =>
              refine ⟨p, by rw [hvec _ (by omega)]; simp, ?_⟩
              exact ht.holds.congr fun i _ hi => hbuf i (by omega)
          | succ j =>
              obtain ⟨q, hq, hholds⟩ := hargs j (by omega)
              exact ⟨q, by rw [← hq]; congr 1; omega, hholds⟩

/-! ### The whole function -/

/-- There are only spaces behind the first token. -/
theorem buildArgcTail_nil {n : ℕ} (hpad : Padded buf p (List.replicate n space))
    (hle : p + n ≤ 256) : ∃ vec', buildArgcTail buf p = some (⟨buf, vec'⟩, 1) := by
  have hmax : argumentBufferMaxSize = 384 := rfl
  have hend : maxBufEnd = 382 := rfl
  have hscan : scan (· = space) buf (argumentBufferMaxSize - p) p = some (p + n) :=
    scan_spaces (l := []) (by simpa using hpad) (by omega) (by simp)
  have hzero : buf (p + n + 1) = 0 := hpad.zero (by simp) (by omega)
  refine ⟨Function.update (fun _ => none) 0 (some (p + n)), ?_⟩
  rw [buildArgcTail, hscan]
  dsimp only
  rw [if_neg (by omega), if_pos hzero]

/-- There is something else behind the first token. -/
theorem buildArgcTail_spec {n : ℕ} (hpad : Padded buf p (List.replicate n space ++ l))
    (hz : (0 : UInt8) ∉ l) (hne : l ≠ []) (hhead : l.head? ≠ some space)
    (hle : p + n + l.length ≤ 255) :
    ∃ buf' vec', buildArgcTail buf p =
        some (⟨buf', vec'⟩, min argMaxVecSz (tokens space l).length) ∧
      (∀ i < p, buf' i = buf i) ∧
      ∀ j < min argMaxVecSz (tokens space l).length, ∃ q, vec' j = some q ∧
        HoldsString buf' q ((tokens space l).getD j []) := by
  have hmax : argumentBufferMaxSize = 384 := rfl
  have hend : maxBufEnd = 382 := rfl
  have hsize : argMaxVecSz = 32 := rfl
  have hscan := scan_spaces hpad (by omega) hhead
  have hl : Padded buf (p + n) l := hpad.drop_spaces
  rw [buildArgcTail, hscan]
  dsimp only
  rw [if_neg (by omega)]
  rcases l with _ | ⟨c, _ | ⟨d, l⟩⟩
  · exact absurd rfl hne
  · -- the argument has one character, and `r` is already behind it
    have hzero : buf (p + n + 1) = 0 := hl.zero (by simp) (by omega)
    have hc : space ∉ [c] := by simpa [eq_comm] using hhead
    have htokens : tokens space [c] = [[c]] := tokens_of_not_mem hc (by simp)
    have hchar : buf (p + n) = c := hl.first (by omega)
    rw [if_pos hzero, htokens]
    refine ⟨buf, _, rfl, fun _ _ => rfl, ?_⟩
    intro j hj
    obtain rfl : j = 0 := by
      rw [List.length_singleton] at hj
      omega
    refine ⟨p + n, by simp, holdsString_iff.2 ⟨?_, hzero, hz⟩⟩
    simp [read_succ, hchar]
  · have hlen : (c :: d :: l).length = l.length + 2 := rfl
    have hd : buf (p + n + 1) ≠ 0 := by
      have hat : buf (p + n + 1) = d := hl.getElem (i := 1) (by simp) (by omega)
      rw [hat]
      exact fun h0 => hz (by simp [h0])
    rw [if_neg hd]
    obtain ⟨buf', vec', hloop, hbuf, -, hargs⟩ := argLoop_spec argMaxVecSz 0 (fun _ => none) hl hz
      hhead (by omega) (fun _ => hle) (Or.inr ⟨rfl, by omega⟩)
    refine ⟨buf', vec', by rw [hloop, Nat.zero_add], fun i hi => hbuf i (by omega), ?_⟩
    intro j hj
    obtain ⟨q, hq, hholds⟩ := hargs j hj
    exact ⟨q, by rwa [Nat.zero_add] at hq, hholds⟩

/-- A string is copied with the zeros behind it. -/
theorem padded_strncpy (m : Mem) {argument : Mem} {a : ℕ} (h : HoldsString argument a s)
    (hle : s.length < argumentBufferMaxSize) :
    Padded (write (write m 0 (strncpyBytes argument a argumentBufferMaxSize))
      (argumentBufferMaxSize - 1) [0]) 0 s := by
  have hmax : argumentBufferMaxSize = 384 := rfl
  have htake : (read argument a argumentBufferMaxSize).takeWhile (· ≠ 0) = s := by
    obtain ⟨k, hk⟩ := Nat.exists_eq_add_of_le (Nat.succ_le_of_lt hle)
    have hall : ∀ c ∈ s, decide (c ≠ 0) = true := by
      intro c hc
      exact decide_eq_true fun h0 => h.2 (h0 ▸ hc)
    rw [hk, read_add, h.1, List.append_assoc, List.takeWhile_append_of_pos hall]
    simp
  intro i _ hi
  rcases Nat.lt_or_ge i (argumentBufferMaxSize - 1) with hlt | hge
  · rw [write_of_lt _ _ _ hlt]
    have hlen : i < (strncpyBytes argument a argumentBufferMaxSize).length := by
      simp only [strncpyBytes, htake, List.length_append, List.length_replicate]
      omega
    have hat := write_getElem m 0 _ hlen
    rw [Nat.zero_add] at hat
    rw [hat, Nat.sub_zero]
    simp only [strncpyBytes, htake]
    by_cases his : i < s.length
    · rw [List.getElem_append_left his, List.getD_eq_getElem _ _ his]
    · rw [List.getElem_append_right (by omega), List.getElem_replicate,
        List.getD_eq_default _ _ (by omega)]
  · obtain rfl : i = argumentBufferMaxSize - 1 := by omega
    have hat := write_getElem (write m 0 (strncpyBytes argument a argumentBufferMaxSize))
      (argumentBufferMaxSize - 1) [0] (i := 0) (by simp)
    rw [Nat.add_zero] at hat
    rw [hat, List.getD_eq_default _ _ (by omega)]
    rfl

/-- There are only spaces behind the first token, at least one. -/
def EndsInSpace (text : List UInt8) : Prop :=
  (tokens space text).length = 1 ∧ text.getLast? = some space

instance (text : List UInt8) : Decidable (EndsInSpace text) :=
  inferInstanceAs (Decidable (_ ∧ _))

/-- The spaces in front of the text are skipped. -/
theorem scan_leading {argument : Mem} {a : ℕ} {t : List UInt8}
    (h : HoldsString argument 0 (List.replicate a space ++ t)) (hhead : t.head? ≠ some space)
    (hlt : a < commandTextSize) :
    scan (fun c => c = space && c ≠ 0) argument commandTextSize 0 = some a ∧
      HoldsString argument a t := by
  obtain ⟨hread, hrest⟩ := h.append
  rw [List.length_replicate] at hread hrest
  rw [Nat.zero_add] at hrest
  have hspaces : ∀ i < a, argument i = space := by
    intro i hi
    have hat := getElem_read argument 0 a i (by simpa using hi)
    rw [Nat.zero_add] at hat
    have hmem : argument i ∈ List.replicate a space := by
      rw [← hread, ← hat]
      exact List.getElem_mem _
    exact List.eq_of_mem_replicate hmem
  have hstop : argument a ≠ space := by
    rw [hrest.first]
    exact headD_ne_space hhead
  refine ⟨scan_eq (Nat.zero_le a) (by omega) ?_ (by simp [hstop]), hrest⟩
  intro i _ hi
  rw [hspaces i hi]
  rfl

/-- The arguments are counted and pointed to, unless there are only spaces instead of them. -/
def Counted (text : List UInt8) (s : Arguments) (argc : ℕ) : Prop :=
  (EndsInSpace text → argc = 1) ∧ (¬ EndsInSpace text →
    argc = min argMaxVecSz (tokens space text).tail.length ∧
      ∀ i < argc, ∃ p, s.argcMaxVec i = some p ∧
        HoldsString s.argumentBuffer p ((tokens space text).tail.getD i []))

/-- A line that does not begin with a space is cut up. -/
theorem buildArgcCut_spec {t : List UInt8} (hpad : Padded buf 0 t) (hz : (0 : UInt8) ∉ t)
    (hne : t ≠ []) (hhead : t.head? ≠ some space) (hle : t.length ≤ 255) :
    ∃ s' argc, buildArgcCut buf = some (s', argc) ∧
      HoldsString s'.argumentBuffer 0 ((tokens space t).headD []) ∧ Counted t s' argc := by
  have hmax : argumentBufferMaxSize = 384 := rfl
  obtain ⟨w, n, rest, ht⟩ := exists_tokenAt hpad hz hne hhead (by omega)
  have hw : w ≠ [] := List.length_pos_iff.1 ht.length_pos
  have hnext := ht.next_le
  have hend : scan (fun c => c ≠ 0 && c ≠ space) buf argumentBufferMaxSize 0 =
      some (0 + w.length) := by
    refine scan_eq (by omega) (by omega) ?_ ?_
    · intro i hi hlt
      have := ht.inToken i hi hlt
      simpa [inToken, and_comm] using this
    · have := ht.stop
      simpa [inToken, Decidable.imp_iff_not_or, or_comm] using this
  rw [buildArgcCut, hend]
  dsimp only
  rw [ht.tokens_eq]
  rcases ht.split with ⟨htw, hrest, hnul⟩ | ⟨htw, hspace⟩
  · -- the line is one token
    have hlast : ¬ EndsInSpace t := by
      rintro ⟨-, hlast⟩
      have hmem : space ∈ w := by
        rw [← htw]
        exact List.mem_of_getLast? hlast
      obtain ⟨i, hi, heq⟩ := List.getElem_of_mem hmem
      have hin := ht.inToken (0 + i) (by omega) (by omega)
      rw [hpad.getElem (by rw [htw]; exact hi) (by omega)] at hin
      simp [htw, heq, inToken] at hin
    have hholds : HoldsString buf 0 w := by
      rw [← htw]
      refine holdsString_iff.2 ⟨?_, by rw [htw]; exact hnul, hz⟩
      exact Padded.read_eq (l := []) (by simpa using hpad) (by omega)
    rw [if_pos hnul]
    refine ⟨_, _, rfl, hholds, fun h => absurd h hlast, fun _ => ?_⟩
    simp [hrest, ht.tokens_eq]
  · have hnonzero : buf (0 + w.length) ≠ 0 := by
      rw [hspace]
      decide
    rw [if_neg hnonzero]
    by_cases hrest : rest = []
    · -- there are only spaces behind it
      have hends : EndsInSpace t := by
        refine ⟨by simp [ht.tokens_eq, hrest], ?_⟩
        have hsp : t = w ++ List.replicate (n + 1) space := by
          rw [htw, hrest, List.append_nil, List.replicate_succ]
        rw [hsp, List.getLast?_append_of_ne_nil _ (by simp), List.getLast?_replicate]
        simp
      have hspaces : Padded (write buf (0 + w.length) [0]) (0 + w.length + 1)
          (List.replicate n space) := by
        simpa [hrest] using ht.padded
      obtain ⟨vec', htail⟩ := buildArgcTail_nil hspaces (by omega)
      exact ⟨_, _, htail, ht.holds, fun _ => rfl, fun h => absurd hends h⟩
    · have hlast : ¬ EndsInSpace t := by
        rintro ⟨hone, -⟩
        rw [ht.tokens_eq, List.length_cons] at hone
        exact tokens_ne_nil hrest ht.head (List.length_eq_zero_iff.1 (by omega))
      have hlen := ht.length_le hrest
      obtain ⟨buf', vec', htail, hbuf, hargs⟩ := buildArgcTail_spec ht.padded ht.not_mem hrest
        ht.head (by omega)
      refine ⟨_, _, htail, ?_, fun h => absurd h hlast, fun _ => ?_⟩
      · exact ht.holds.congr fun i _ hi => hbuf i (by omega)
      · rw [ht.tokens_eq]
        exact ⟨rfl, hargs⟩

/-- Spaces in front of a text do not matter. -/
theorem endsInSpace_replicate_append {a : ℕ} {t : List UInt8} (hne : t ≠ []) :
    EndsInSpace (List.replicate a space ++ t) ↔ EndsInSpace t := by
  rw [EndsInSpace, EndsInSpace, tokens_replicate_append, List.getLast?_append_of_ne_nil _ hne]

/-- **What the code does with a text.** -/
theorem buildArgc_spec {argument : Mem} {text : List UInt8} (h : HoldsString argument 0 text)
    (hle : text.length ≤ 255) (s : Arguments) :
    ∃ s' argc, buildArgc argument s = some (s', argc) ∧
      HoldsString s'.argumentBuffer 0 ((tokens space text).headD []) ∧ Counted text s' argc := by
  have hsize : commandTextSize = 256 := rfl
  have hmax : argumentBufferMaxSize = 384 := rfl
  obtain ⟨a, t, rfl, hhead⟩ := exists_leading space text
  rw [List.length_append, List.length_replicate] at hle
  obtain ⟨hscan, hholds⟩ := scan_leading h hhead (by omega)
  have hfirst := hholds.first
  rw [buildArgc, hscan]
  dsimp only
  rcases List.eq_nil_or_concat' t with rfl | ⟨t', c, ht⟩
  · -- there are only spaces
    have hzero : argument a = 0 := hfirst
    have hnone : tokens space (List.replicate a space ++ []) = [] := by
      rw [tokens_replicate_append, tokens_nil]
    simp only [if_pos hzero, Counted, EndsInSpace, hnone]
    refine ⟨_, _, rfl, ?_, ?_, fun _ => ⟨by simp, by simp⟩⟩
    · exact holdsString_nil (write_getElem s.argumentBuffer 0 [0] (i := 0) (by simp))
    · rintro ⟨hone, -⟩
      exact absurd hone (by simp)
  · have hne : t ≠ [] := by simp [ht]
    have hnonzero : argument a ≠ 0 := by
      rw [hfirst]
      cases t with
      | nil => exact absurd rfl hne
      | cons d t =>
          intro h0
          have hd : d = 0 := h0
          exact hholds.2 (by simp [hd])
    rw [if_neg hnonzero]
    obtain ⟨s', argc, hcut, hbuf, hcount⟩ :=
      buildArgcCut_spec (padded_strncpy (write s.argumentBuffer 0 [0]) hholds (by omega))
        hholds.2 hne hhead (by omega)
    refine ⟨s', argc, hcut, by rwa [tokens_replicate_append], ?_⟩
    rwa [Counted, endsInSpace_replicate_append hne, tokens_replicate_append]

/-- The first token is always found. -/
theorem buildArgc_first {argument : Mem} {text : List UInt8} (h : HoldsString argument 0 text)
    (hle : text.length ≤ 255) (s : Arguments) :
    ∃ s' argc, buildArgc argument s = some (s', argc) ∧
      HoldsString s'.argumentBuffer 0 ((tokens space text).headD []) := by
  obtain ⟨s', argc, hbuild, hbuf, -⟩ := buildArgc_spec h hle s
  exact ⟨s', argc, hbuild, hbuf⟩

/-- Where there are only spaces behind the first token, one argument is counted. -/
theorem not_countsArguments {argument : Mem} {text : List UInt8}
    (h : HoldsString argument 0 text) (hle : text.length ≤ 255) (s : Arguments)
    (hends : EndsInSpace text) : ¬ CountsArguments text argument s := by
  obtain ⟨s', argc, hbuild, -, hone, -⟩ := buildArgc_spec h hle s
  rintro ⟨s'', argc', hbuild', -, hargc, -⟩
  rw [hbuild'] at hbuild
  obtain ⟨rfl, rfl⟩ := Prod.mk.inj (Option.some.inj hbuild)
  have hlen : (tokens space text).length = 1 := hends.1
  rw [hone hends, List.length_tail, hlen] at hargc
  omega

/-- **The arguments are counted rightly unless there are none, and a space behind the first
token.** -/
theorem countsArguments_iff {argument : Mem} {text : List UInt8}
    (h : HoldsString argument 0 text) (hle : text.length ≤ 255) (s : Arguments) :
    CountsArguments text argument s ↔ ¬ EndsInSpace text := by
  constructor
  · intro hcounts hends
    exact not_countsArguments h hle s hends hcounts
  · intro hends
    obtain ⟨s', argc, hbuild, hbuf, -, hcount⟩ := buildArgc_spec h hle s
    exact ⟨s', argc, hbuild, hbuf, hcount hends⟩

/-- The bytes of a string, as they are in memory: with zeros behind it. -/
def stringMem (s : List UInt8) : Mem := fun i => s.getD i 0

theorem holdsString_stringMem (h : (0 : UInt8) ∉ s) : HoldsString (stringMem s) 0 s := by
  refine holdsString_iff.2 ⟨List.ext_getElem (by simp) ?_, ?_, h⟩
  · intro i h₁ h₂
    rw [getElem_read, Nat.zero_add, stringMem, List.getD_eq_getElem _ _ h₂]
  · exact List.getD_eq_default _ _ (by omega)

/-- Two arguments, of which one has one character, are counted. -/
theorem countsArguments_two :
    CountsArguments [0x61, 0x62, 0x20, 0x20, 0x63, 0x64, 0x20, 0x65]
      (stringMem [0x61, 0x62, 0x20, 0x20, 0x63, 0x64, 0x20, 0x65]) ⟨fun _ => 0, fun _ => none⟩ :=
  (countsArguments_iff (holdsString_stringMem (by decide)) (by decide) _).2 (by decide)

/-- A command and a space: the code counts an argument. -/
theorem countsArguments_space :
    ¬ CountsArguments [0x70, 0x20] (stringMem [0x70, 0x20]) ⟨fun _ => 0, fun _ => none⟩ :=
  not_countsArguments (holdsString_stringMem (by decide)) (by decide) _ (by decide)

end Solar48
