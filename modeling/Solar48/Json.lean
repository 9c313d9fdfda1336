/-
**JSON texts.**

The grammar of JSON over bytes, with one relation for all its symbols, and a scanner that looks at
one character at a time.  The scanner knows only whether it is inside of a string, and whether a
value is still wanted behind a colon, so it lets through more than the grammar does.  What it stops
at is not JSON.

The bytes of a string are not checked for being UTF-8.

Main definitions:

* `Json.Derives` — the grammar;
* `Json.IsObject` — an object, with the keys of its members in their order;
* `Json.scan` — the scanner;
* `Json.objectPieces` — the template of an object, whose values are to be filled in.

Main results:

* `Json.IsObject.scan_eq` — **an object is let through**;
* `Json.isObject_fill` — **the template filled with values is an object**;
* `Json.scan_fill_eq_none` — with something else in one place it is stopped.
-/

import Solar48.Decimal
import Solar48.Template

set_option relaxedAutoImplicit false
set_option autoImplicit false

namespace Json

open Decimal Template

/-! ### Characters -/

abbrev quote : UInt8 := 0x22
abbrev backslash : UInt8 := 0x5C
abbrev colon : UInt8 := 0x3A
abbrev comma : UInt8 := 0x2C
abbrev openBrace : UInt8 := 0x7B
abbrev closeBrace : UInt8 := 0x7D
abbrev openBracket : UInt8 := 0x5B
abbrev closeBracket : UInt8 := 0x5D

/-- Blank, tab and the ends of a line. -/
def isBlank (c : UInt8) : Bool := c == 0x20 || c == 0x09 || c == 0x0A || c == 0x0D

/-- Blanks, or nothing. -/
def IsBlank (l : List UInt8) : Prop := ∀ c ∈ l, isBlank c = true

/-- `null`. -/
def nullText : List UInt8 := [0x6E, 0x75, 0x6C, 0x6C]

/-- `true`. -/
def trueText : List UInt8 := [0x74, 0x72, 0x75, 0x65]

/-- `false`. -/
def falseText : List UInt8 := [0x66, 0x61, 0x6C, 0x73, 0x65]

/-! ### Numbers and strings -/

/-- `'-'`, or nothing. -/
def IsMinus (l : List UInt8) : Prop := l = [] ∨ l = [0x2D]

/-- The integer part of a number: there is no zero in front of a digit. -/
def IsInt (l : List UInt8) : Prop := IsNumeral l ∧ (l.head? = some 0x30 → l = [0x30])

/-- The fraction of a number, or nothing. -/
def IsFrac (l : List UInt8) : Prop := l = [] ∨ ∃ d, IsNumeral d ∧ l = point :: d

/-- The exponent of a number, or nothing. -/
def IsExp (l : List UInt8) : Prop :=
  l = [] ∨ ∃ e s d, (e = 0x65 ∨ e = 0x45) ∧ (IsMinus s ∨ s = [0x2B]) ∧ IsNumeral d ∧
    l = e :: (s ++ d)

/-- A number. -/
def IsNumber (l : List UInt8) : Prop :=
  ∃ m i f e, IsMinus m ∧ IsInt i ∧ IsFrac f ∧ IsExp e ∧ l = m ++ (i ++ (f ++ e))

/-- What may be inside of a string. -/
inductive IsChars : List UInt8 → Prop
  | nil : IsChars []
  | char {c : UInt8} {l : List UInt8} : 0x20 ≤ c → c ≠ quote → c ≠ backslash → IsChars l →
      IsChars (c :: l)
  | escape {c : UInt8} {l : List UInt8} :
      c ∈ [quote, backslash, 0x2F, 0x62, 0x66, 0x6E, 0x72, 0x74] → IsChars l →
      IsChars (backslash :: c :: l)
  | unicode {h l : List UInt8} : h.length = 4 →
      (∀ c ∈ h, IsDigit c ∨ 0x41 ≤ c ∧ c ≤ 0x46 ∨ 0x61 ≤ c ∧ c ≤ 0x66) → IsChars l →
      IsChars (backslash :: 0x75 :: (h ++ l))

/-- A string. -/
def quoted (l : List UInt8) : List UInt8 := quote :: (l ++ [quote])

/-! ### The grammar -/

/-- What a text can stand for. -/
inductive Symbol
  | value
  /-- the elements of an array that is not empty -/
  | elements
  /-- the members of an object that is not empty, with these keys -/
  | members (keys : List (List UInt8))

/-- The grammar. -/
inductive Derives : Symbol → List UInt8 → Prop
  | nullWord : Derives .value nullText
  | trueWord : Derives .value trueText
  | falseWord : Derives .value falseText
  | number {l : List UInt8} : IsNumber l → Derives .value l
  | string {l : List UInt8} : IsChars l → Derives .value (quoted l)
  | emptyArray {w : List UInt8} : IsBlank w → Derives .value (openBracket :: (w ++ [closeBracket]))
  | array {l : List UInt8} : Derives .elements l →
      Derives .value (openBracket :: (l ++ [closeBracket]))
  | emptyObject {w : List UInt8} : IsBlank w → Derives .value (openBrace :: (w ++ [closeBrace]))
  | object {k : List (List UInt8)} {l : List UInt8} : Derives (.members k) l →
      Derives .value (openBrace :: (l ++ [closeBrace]))
  | lastElement {w v w' : List UInt8} : IsBlank w → IsBlank w' → Derives .value v →
      Derives .elements (w ++ (v ++ w'))
  | element {w v w' l : List UInt8} : IsBlank w → IsBlank w' → Derives .value v →
      Derives .elements l → Derives .elements (w ++ (v ++ (w' ++ comma :: l)))
  | lastMember {w k w' u v u' : List UInt8} : IsBlank w → IsBlank w' → IsBlank u → IsBlank u' →
      IsChars k → Derives .value v →
      Derives (.members [k]) (w ++ (quoted k ++ (w' ++ colon :: (u ++ (v ++ u')))))
  | member {w k w' u v u' l : List UInt8} {ks : List (List UInt8)} : IsBlank w → IsBlank w' →
      IsBlank u → IsBlank u' → IsChars k → Derives .value v → Derives (.members ks) l →
      Derives (.members (k :: ks))
        (w ++ (quoted k ++ (w' ++ colon :: (u ++ (v ++ (u' ++ comma :: l))))))

/-- A JSON text that is an object with these keys. -/
def IsObject (keys : List (List UInt8)) (l : List UInt8) : Prop :=
  ∃ w m w', IsBlank w ∧ IsBlank w' ∧ Derives (.members keys) m ∧
    l = w ++ openBrace :: (m ++ closeBrace :: w')

/-! ### The scanner -/

/-- What the scanner knows. -/
inductive ScanState
  /-- not in a string; a colon was read and no value behind it, or not -/
  | outside (wanted : Bool)
  | inString
  /-- behind a backslash -/
  | escaped
  deriving DecidableEq, Repr

/-- The characters of numbers and words, and the brackets that a value begins with. -/
def isPlain (c : UInt8) : Bool :=
  (0x30 ≤ c && c ≤ 0x39) ||
    c ∈ [0x2D, 0x2B, point, 0x65, 0x45, 0x6E, 0x75, 0x6C, 0x74, 0x72, 0x66, 0x61, 0x73,
      openBrace, openBracket]

/-- The scanner at one character. -/
def scanChar : ScanState → UInt8 → Option ScanState
  | .outside w, c =>
      if isPlain c then some (.outside false)
      else if isBlank c then some (.outside w)
      else if c = quote then some .inString
      else if c = colon then some (.outside true)
      else if c ∈ [comma, closeBrace, closeBracket] then
        if w then none else some (.outside false)
      else none
  | .inString, c =>
      if c = quote then some (.outside false)
      else if c = backslash then some .escaped
      else some .inString
  | .escaped, _ => some .inString

/-- The scanner. -/
def scan (s : ScanState) : List UInt8 → Option ScanState
  | [] => some s
  | c :: l => (scanChar s c).bind fun s => scan s l

variable {l l' k v : List UInt8} {s : ScanState} {w : Bool}

@[simp] theorem scan_nil : scan s [] = some s := rfl

@[simp] theorem scan_append (s : ScanState) (l l' : List UInt8) :
    scan s (l ++ l') = (scan s l).bind fun s => scan s l' := by
  induction l generalizing s with
  | nil => rfl
  | cons c l ih =>
      rw [List.cons_append, scan, scan]
      cases scanChar s c with
      | none => rfl
      | some t => exact ih t

/-- Blanks change nothing. -/
theorem scan_blank (h : IsBlank l) : scan (.outside w) l = some (.outside w) := by
  induction l with
  | nil => rfl
  | cons c l ih =>
      have hc : isBlank c = true := h c List.mem_cons_self
      have hplain : isPlain c = false := by
        simp only [isBlank, Bool.or_eq_true, beq_iff_eq] at hc
        rcases hc with ((rfl | rfl) | rfl) | rfl <;> rfl
      rw [scan, scanChar, hplain, hc]
      exact ih fun d hd => h d (List.mem_cons_of_mem c hd)

/-- A number or a word is let through. -/
theorem scan_plain (hne : l ≠ []) (h : ∀ c ∈ l, isPlain c = true) :
    scan (.outside w) l = some (.outside false) := by
  induction l generalizing w with
  | nil => exact absurd rfl hne
  | cons c l ih =>
      have hc : isPlain c = true := h c List.mem_cons_self
      rw [scan, scanChar, hc]
      cases l with
      | nil => rfl
      | cons d l => exact ih (by simp) fun e he => h e (List.mem_cons_of_mem c he)

theorem isPlain_of_isDigit {c : UInt8} (h : IsDigit c) : isPlain c = true := by
  have h₁ : decide (0x30 ≤ c) = true := decide_eq_true h.1
  have h₂ : decide (c ≤ 0x39) = true := decide_eq_true h.2
  rw [isPlain, h₁, h₂]
  rfl

theorem isPlain_of_isNumeral (h : IsNumeral l) : ∀ c ∈ l, isPlain c = true :=
  fun c hc => isPlain_of_isDigit (h.2 c hc)

theorem isPlain_of_isMinus (h : IsMinus l) : ∀ c ∈ l, isPlain c = true := by
  intro c hc
  rcases h with rfl | rfl
  · cases hc
  · obtain rfl := List.mem_singleton.1 hc
    rfl

/-- Numbers are made of plain characters. -/
theorem isPlain_of_isNumber (h : IsNumber l) : l ≠ [] ∧ ∀ c ∈ l, isPlain c = true := by
  obtain ⟨m, i, f, e, hm, hi, hf, he, rfl⟩ := h
  have hi' := isPlain_of_isNumeral hi.1
  refine ⟨by simp [hi.1.1], ?_⟩
  intro c hc
  simp only [List.mem_append] at hc
  rcases hc with hc | hc | hc | hc
  · exact isPlain_of_isMinus hm c hc
  · exact hi' c hc
  · rcases hf with rfl | ⟨d, hd, rfl⟩
    · cases hc
    · rcases List.mem_cons.1 hc with rfl | hc
      · rfl
      · exact isPlain_of_isNumeral hd c hc
  · rcases he with rfl | ⟨x, t, d, hx, ht, hd, rfl⟩
    · cases hc
    · rcases List.mem_cons.1 hc with rfl | hc
      · rcases hx with rfl | rfl <;> rfl
      · rcases List.mem_append.1 hc with hc | hc
        · rcases ht with ht | rfl
          · exact isPlain_of_isMinus ht c hc
          · rw [List.mem_singleton.1 hc]
            rfl
        · exact isPlain_of_isNumeral hd c hc

/-- A fixed-point numeral is a number. -/
theorem derives_fixedPoint (a b : ℕ) : Derives .value (numeral a ++ point :: numeral b) := by
  refine .number ⟨[], numeral a, point :: numeral b, [], Or.inl rfl,
    ⟨isNumeral_numeral a, numeral_head⟩, Or.inr ⟨_, isNumeral_numeral b, rfl⟩, Or.inl rfl, ?_⟩
  rw [List.append_nil, List.nil_append]

/-- What is not a quote and not a backslash leaves the scanner in the string. -/
theorem scan_inString_cons {c : UInt8} (hq : c ≠ quote) (hb : c ≠ backslash) :
    scan .inString (c :: l) = scan .inString l := by
  rw [scan, scanChar, if_neg hq, if_neg hb]
  rfl

/-- The inside of a string. -/
theorem scan_isChars (h : IsChars k) : scan .inString k = some .inString := by
  induction h with
  | nil => rfl
  | char _ hq hb _ ih => rw [scan_inString_cons hq hb, ih]
  | escape _ _ ih => exact ih
  | @unicode x l hlen hhex _ ih =>
      have hx : scan .inString x = some .inString := by
        clear hlen ih
        induction x with
        | nil => rfl
        | cons c x ihx =>
            have hc := hhex c List.mem_cons_self
            have hq : c ≠ quote := by
              rintro rfl
              revert hc
              decide
            have hb : c ≠ backslash := by
              rintro rfl
              revert hc
              decide
            rw [scan_inString_cons hq hb]
            exact ihx fun d hd => hhex d (List.mem_cons_of_mem c hd)
      change scan .inString (x ++ l) = some .inString
      rw [scan_append, hx]
      exact ih

/-- A string. -/
theorem scan_quoted (h : IsChars k) : scan (.outside w) (quoted k) = some (.outside false) := by
  change scan .inString (k ++ [quote]) = some (.outside false)
  rw [scan_append, scan_isChars h]
  rfl

/-- A colon. -/
@[simp] theorem scan_colon (w : Bool) (l : List UInt8) :
    scan (.outside w) (colon :: l) = scan (.outside true) l := rfl

/-- A comma behind a value. -/
@[simp] theorem scan_comma (l : List UInt8) :
    scan (.outside false) (comma :: l) = scan (.outside false) l := rfl

@[simp] theorem scan_closeBrace (l : List UInt8) :
    scan (.outside false) (closeBrace :: l) = scan (.outside false) l := rfl

@[simp] theorem scan_closeBracket (l : List UInt8) :
    scan (.outside false) (closeBracket :: l) = scan (.outside false) l := rfl

@[simp] theorem scan_openBrace (w : Bool) (l : List UInt8) :
    scan (.outside w) (openBrace :: l) = scan (.outside false) l := rfl

@[simp] theorem scan_openBracket (w : Bool) (l : List UInt8) :
    scan (.outside w) (openBracket :: l) = scan (.outside false) l := rfl

/-- **What the grammar derives is let through.** -/
theorem Derives.scan_eq {x : Symbol} (h : Derives x l) (w : Bool) :
    scan (.outside w) l = some (.outside false) := by
  induction h generalizing w with
  | nullWord => rfl
  | trueWord => rfl
  | falseWord => rfl
  | number hn => exact scan_plain (isPlain_of_isNumber hn).1 (isPlain_of_isNumber hn).2
  | string hs => exact scan_quoted hs
  | emptyArray hb => simp [scan_blank hb]
  | array _ ih => simp [ih]
  | emptyObject hb => simp [scan_blank hb]
  | object _ ih => simp [ih]
  | lastElement hb hb' _ ih => simp [scan_blank hb, scan_blank hb', ih]
  | element hb hb' _ _ ih ih' => simp [scan_blank hb, scan_blank hb', ih, ih']
  | lastMember hw hw' hu hu' hk _ ih =>
      simp [scan_blank hw, scan_blank hw', scan_blank hu, scan_blank hu', scan_quoted hk, ih]
  | member hw hw' hu hu' hk _ _ ih ih' =>
      simp [scan_blank hw, scan_blank hw', scan_blank hu, scan_blank hu', scan_quoted hk, ih, ih']

/-- **An object is let through.** -/
theorem IsObject.scan_eq {keys : List (List UInt8)} (h : IsObject keys l) :
    scan (.outside false) l = some (.outside false) := by
  obtain ⟨x, m, y, hx, hy, hm, rfl⟩ := h
  simp [scan_blank hx, scan_blank hy, hm.scan_eq]

/-! ### Templates -/

/-- A member up to its value. -/
def memberPiece (w k : List UInt8) : List UInt8 := w ++ (quoted k ++ [colon, 0x20])

/-- What is behind the first value of an object: more members, and the brace. -/
def restPieces (w : List UInt8) (keys : List (List UInt8)) : List (List UInt8) :=
  keys.map (fun k => comma :: memberPiece w k) ++ [[closeBrace]]

/-- The template of an object, with blanks in front of the keys. -/
def objectPieces (w k : List UInt8) (keys : List (List UInt8)) : List (List UInt8) :=
  (openBrace :: memberPiece w k) :: restPieces w keys

variable {keys ps vs : List (List UInt8)}

theorem isChars_of_forall (h : ∀ c ∈ k, 0x20 ≤ c ∧ c ≠ quote ∧ c ≠ backslash) : IsChars k := by
  induction k with
  | nil => exact .nil
  | cons c k ih =>
      obtain ⟨hc, hq, hb⟩ := h c List.mem_cons_self
      exact .char hc hq hb (ih fun d hd => h d (List.mem_cons_of_mem c hd))

/-- The members of the template, filled with values, and the brace behind them. -/
theorem exists_members (hw : IsBlank l) (hlen : vs.length = keys.length) (hk : IsChars k)
    (hkeys : ∀ x ∈ keys, IsChars x) (hv : Derives .value v) (hvs : ∀ x ∈ vs, Derives .value x) :
    ∃ m, memberPiece l k ++ (v ++ fill (restPieces l keys) vs) = m ++ [closeBrace] ∧
      Derives (.members (k :: keys)) m := by
  have hnone : IsBlank [] := by simp [IsBlank]
  have hblank : IsBlank [0x20] := by simp [IsBlank, isBlank]
  induction keys generalizing k v vs with
  | nil =>
      obtain rfl := List.length_eq_zero_iff.1 hlen
      refine ⟨_, ?_, Derives.lastMember hw hnone hblank hnone hk hv⟩
      simp [memberPiece, restPieces, fill]
  | cons k' keys ih =>
      cases vs with
      | nil => cases hlen
      | cons v' vs =>
          obtain ⟨m, hm, hderives⟩ := ih (Nat.succ.inj hlen) (hkeys k' List.mem_cons_self)
            (fun x hx => hkeys x (List.mem_cons_of_mem k' hx)) (hvs v' List.mem_cons_self)
            (fun x hx => hvs x (List.mem_cons_of_mem v' hx))
          refine ⟨_, ?_, Derives.member hw hnone hblank hnone hk hv hderives⟩
          have hfill : fill (restPieces l (k' :: keys)) (v' :: vs) =
              comma :: (memberPiece l k' ++ (v' ++ fill (restPieces l keys) vs)) := rfl
          rw [hfill, hm]
          simp [memberPiece]

/-- **The template filled with values is an object**, and has the keys of the template. -/
theorem isObject_fill (hw : IsBlank l) (hlen : vs.length = keys.length)
    (hkeys : ∀ x ∈ k :: keys, IsChars x) (hvs : ∀ x ∈ v :: vs, Derives .value x) :
    IsObject (k :: keys) (fill (objectPieces l k keys) (v :: vs)) := by
  obtain ⟨m, hm, hderives⟩ := exists_members hw hlen (hkeys k List.mem_cons_self)
    (fun x hx => hkeys x (List.mem_cons_of_mem k hx)) (hvs v List.mem_cons_self)
    (fun x hx => hvs x (List.mem_cons_of_mem v hx))
  refine ⟨[], m, [], by simp [IsBlank], by simp [IsBlank], hderives, ?_⟩
  change openBrace :: (memberPiece l k ++ (v ++ fill (restPieces l keys) vs)) = _
  rw [hm]
  rfl

/-- Between two pieces there has to be a value: the first one ends where one is wanted, and the
second one cannot follow there. -/
def punctuates : List (List UInt8) → Bool
  | p :: q :: ps =>
      scan (.outside false) p == some (.outside true) && scan (.outside true) q == none &&
        punctuates (q :: ps)
  | _ => true

/-- The scanner is stopped at a text that stands where a value is wanted, or right behind it. -/
def IsStopped (v : List UInt8) : Prop := v = [] ∨ scan (.outside true) v = none

/-- **With something else in place of a value the scanner is stopped.** -/
theorem scan_fill_eq_none {rest : List (List UInt8)} (hps : punctuates ps = true)
    (hlen : (vs ++ v :: rest).length < ps.length) (hvs : ∀ x ∈ vs, Derives .value x)
    (hv : IsStopped v) : scan (.outside false) (fill ps (vs ++ v :: rest)) = none := by
  induction vs generalizing ps with
  | nil =>
      rcases ps with - | ⟨p, - | ⟨q, ps⟩⟩
      · simp at hlen
      · simp at hlen
      · simp only [punctuates, Bool.and_eq_true, beq_iff_eq] at hps
        obtain ⟨⟨hp, hq⟩, -⟩ := hps
        rcases hv with rfl | hv
        · cases rest <;> simp [fill, hp, hq]
        · simp [fill, hp, hv]
  | cons u vs ih =>
      rcases ps with - | ⟨p, - | ⟨q, ps⟩⟩
      · simp at hlen
      · simp at hlen
      · simp only [punctuates, Bool.and_eq_true, beq_iff_eq] at hps
        obtain ⟨⟨hp, -⟩, htail⟩ := hps
        have hrest := ih htail (Nat.lt_of_succ_lt_succ hlen)
          fun x hx => hvs x (List.mem_cons_of_mem u hx)
        have hu := (hvs u List.mem_cons_self).scan_eq true
        simp only [List.cons_append, fill, scan_append, hp, Option.bind_some, hu]
        exact hrest

/-- What the scanner is stopped at is no object. -/
theorem not_isObject_of_scan (h : scan (.outside false) l = none) : ¬ IsObject keys l := by
  intro hobject
  rw [hobject.scan_eq] at h
  cases h

end Json
