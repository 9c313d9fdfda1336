/-
**The texts of the USB device.**

A string descriptor is its length, its type and the characters of a text, each in two bytes.
`USBD_GetString` builds it from an ASCII text, with counters of eight bits; the serial number is
written in hexadecimal, from the top digit on, out of the unique identifier of the chip.

Main definitions:

* `Solar48.widen`, `Solar48.readString` — characters of two bytes, and how a host reads a
  descriptor;
* `Solar48.usbdGetString`, `Solar48.intToUnicode`, `Solar48.getSerialNum` — how one is built;
* `Solar48.UsbTexts`, `Solar48.fsDesc` — the texts and the descriptors of the device.

Main results:

* `Solar48.usbdGetString_eq` — what is written, and where;
* `Solar48.readString_usbdGetString_iff` — **exactly the texts of at most 126 characters are read
  back**;
* `Solar48.readString_serial` — **the serial number is read back** as two numbers;
* `Solar48.serial_eq_iff` — **which chips have the same serial number**;
* `Solar48.string_of_run` — **a host that asks for a text gets it**, in every run.
-/

import Solar48.ControlReplies
import Solar48.Hexadecimal
import Solar48.UsbCommand

set_option relaxedAutoImplicit false
set_option autoImplicit false

namespace Solar48

open ByteMem StepSystem

/-! ### Characters of two bytes -/

/-- The characters of a text, each in two bytes. -/
def widen (text : List UInt8) : List UInt8 := text.flatMap fun c => [c, 0]

/-- The text again, if there is nothing in the upper bytes. -/
def narrow : List UInt8 → Option (List UInt8)
  | [] => some []
  | c :: 0 :: bs => (narrow bs).map (c :: ·)
  | _ => none

/-- `USB_DESC_TYPE_STRING`. -/
def usbDescTypeString : UInt8 := 0x03

/-- How a host reads a string descriptor. -/
def readString : List UInt8 → Option (List UInt8)
  | length :: type :: bs =>
      if length.toNat = bs.length + 2 ∧ type = usbDescTypeString then narrow bs else none
  | _ => none

theorem widen_cons (c : UInt8) (text : List UInt8) : widen (c :: text) = c :: 0 :: widen text := rfl

theorem widen_append (xs ys : List UInt8) : widen (xs ++ ys) = widen xs ++ widen ys :=
  List.flatMap_append

@[simp] theorem length_widen (text : List UInt8) : (widen text).length = 2 * text.length := by
  induction text with
  | nil => rfl
  | cons c text ih =>
      rw [widen_cons, List.length_cons, List.length_cons, ih, List.length_cons]
      omega

@[simp] theorem narrow_widen (text : List UInt8) : narrow (widen text) = some text := by
  induction text with
  | nil => rfl
  | cons c text ih =>
      rw [widen_cons, narrow, ih]
      rfl

theorem length_of_narrow {bs text : List UInt8} (h : narrow bs = some text) :
    bs.length = 2 * text.length := by
  induction bs using narrow.induct generalizing text with
  | case1 =>
      cases h
      rfl
  | case2 c bs ih =>
      rw [narrow] at h
      obtain ⟨rest, hrest, rfl⟩ := Option.map_eq_some_iff.1 h
      rw [List.length_cons, List.length_cons, ih hrest, List.length_cons]
      omega
  | case3 bs hnil hcons =>
      rw [narrow] at h
      · cases h
      · exact hnil
      · exact hcons

/-- The descriptor of a text. -/
def stringDescriptor (text : List UInt8) : List UInt8 :=
  UInt8.ofNat (2 * text.length + 2) :: usbDescTypeString :: widen text

@[simp] theorem length_stringDescriptor (text : List UInt8) :
    (stringDescriptor text).length = 2 * text.length + 2 := by
  simp [stringDescriptor]

theorem readString_stringDescriptor {text : List UInt8} (h : text.length ≤ 126) :
    readString (stringDescriptor text) = some text := by
  have hlength : (UInt8.ofNat (2 * text.length + 2)).toNat = 2 * text.length + 2 :=
    UInt8.toNat_ofNat_of_lt' (by
      show 2 * text.length + 2 < 256
      omega)
  rw [stringDescriptor, readString, if_pos ⟨by rw [hlength, length_widen], rfl⟩, narrow_widen]

/-- A text that is read is as long as its descriptor says. -/
theorem length_of_readString {bs text : List UInt8} (h : readString bs = some text) :
    bs.length = 2 * text.length + 2 ∧ text.length ≤ 126 := by
  unfold readString at h
  split at h
  · rename_i length type bs
    split at h
    · rename_i hlength
      have hbs := length_of_narrow h
      have hlt : length.toNat < 256 := length.toNat_lt
      rw [List.length_cons, List.length_cons, hbs]
      omega
    · cases h
  · cases h

/-! ### `USBD_GetString` -/

/-- `USBD_GetLen`. -/
def usbdGetLen (buf : List UInt8) : UInt8 := buf.foldl (fun len _ => len + 1) 0

/-- `USBD_GetString`, of the text in front of the NUL, with `*len`. -/
def usbdGetString (desc : List UInt8) (unicode : Mem) : Mem × UInt16 :=
  let len : UInt16 := (usbdGetLen desc).toUInt16 * 2 + 2
  let unicode := write (write unicode 0 [lo len]) 1 [usbDescTypeString]
  let (unicode, _) := desc.foldl
    (fun (unicode, idx) c => (write (write unicode idx.toNat [c]) (idx + 1).toNat [0], idx + 2))
    (unicode, (2 : UInt8))
  (unicode, len)

theorem usbdGetLen_eq (buf : List UInt8) : usbdGetLen buf = UInt8.ofNat buf.length := by
  have hgen (len : UInt8) :
      buf.foldl (fun len _ => len + 1) len = len + UInt8.ofNat buf.length := by
    induction buf generalizing len with
    | nil => exact (UInt8.add_zero len).symm
    | cons c buf ih =>
        rw [List.foldl_cons, ih, List.length_cons, UInt8.ofNat_add, UInt8.add_assoc,
          UInt8.add_comm 1]
        rfl
  rw [usbdGetLen, hgen, UInt8.zero_add]

/-- The loop: the characters lie behind one another, as long as the index does not wrap. -/
theorem foldl_usbdGetString (desc : List UInt8) {m : Mem} {idx : UInt8}
    (h : idx.toNat + 2 * desc.length ≤ 255) :
    (desc.foldl (fun (unicode, idx) c =>
      (write (write unicode idx.toNat [c]) (idx + 1).toNat [0], idx + 2)) (m, idx)).1 =
        write m idx.toNat (widen desc) := by
  induction desc generalizing m idx with
  | nil => exact (write_nil _ _).symm
  | cons c desc ih =>
      rw [List.length_cons] at h
      have hone : (idx + 1).toNat = idx.toNat + 1 := by
        rw [UInt8.toNat_add]
        exact Nat.mod_eq_of_lt (show idx.toNat + 1 < 256 by omega)
      have htwo : (idx + 2).toNat = idx.toNat + 2 := by
        rw [UInt8.toNat_add]
        exact Nat.mod_eq_of_lt (show idx.toNat + 2 < 256 by omega)
      rw [List.foldl_cons, ih (by rw [htwo]; omega), hone, htwo,
        write_write_of_eq m idx.toNat (idx.toNat + 1) [c] [0] rfl,
        write_write_of_eq m idx.toNat (idx.toNat + 2) ([c] ++ [0]) (widen desc) rfl]
      rfl

/-- **What is written**, and nothing else is. -/
theorem usbdGetString_eq {desc : List UInt8} (h : desc.length ≤ 126) (m : Mem) :
    usbdGetString desc m =
      (write m 0 (stringDescriptor desc), UInt16.ofNat (2 * desc.length + 2)) := by
  have hgetLen : (usbdGetLen desc).toNat = desc.length := by
    rw [usbdGetLen_eq]
    exact UInt8.toNat_ofNat_of_lt' (by
      show desc.length < 256
      omega)
  have hlen : (usbdGetLen desc).toUInt16 * 2 + 2 = UInt16.ofNat (2 * desc.length + 2) := by
    refine UInt16.toNat_inj.1 ?_
    rw [UInt16.toNat_add, UInt16.toNat_mul, UInt8.toNat_toUInt16, hgetLen, UInt16.toNat_ofNat']
    show (desc.length * 2 % 65536 + 2) % 65536 = (2 * desc.length + 2) % 65536
    omega
  have hlo : lo (UInt16.ofNat (2 * desc.length + 2)) = UInt8.ofNat (2 * desc.length + 2) := by
    refine UInt8.toNat_inj.1 ?_
    rw [toNat_lo, UInt16.toNat_ofNat', UInt8.toNat_ofNat']
    show (2 * desc.length + 2) % 65536 % 256 = (2 * desc.length + 2) % 256
    omega
  refine Prod.ext ?_ hlen
  show (desc.foldl _ (write (write m 0 [lo ((usbdGetLen desc).toUInt16 * 2 + 2)]) 1
    [usbDescTypeString], (2 : UInt8))).1 = _
  rw [foldl_usbdGetString desc (by show 2 + _ ≤ 255; omega), hlen, hlo,
    write_write_of_eq m 0 1 [UInt8.ofNat (2 * desc.length + 2)] [usbDescTypeString] rfl,
    write_write_of_eq m 0 (2 : UInt8).toNat ([UInt8.ofNat (2 * desc.length + 2)] ++
      [usbDescTypeString]) (widen desc) rfl]
  rfl

/-- What the functions of `FS_Desc` give to be sent: so many bytes from the beginning. -/
theorem read_usbdGetString {desc : List UInt8} (h : desc.length ≤ 126) (m : Mem) :
    read (usbdGetString desc m).1 0 (usbdGetString desc m).2.toNat = stringDescriptor desc := by
  have hlen : (UInt16.ofNat (2 * desc.length + 2)).toNat = (stringDescriptor desc).length := by
    rw [length_stringDescriptor, UInt16.toNat_ofNat']
    exact Nat.mod_eq_of_lt (by omega)
  rw [usbdGetString_eq h]
  show read (write m 0 (stringDescriptor desc)) 0 (UInt16.ofNat (2 * desc.length + 2)).toNat = _
  rw [hlen, read_write_self]

/-- **Which texts are read back**: the length of the descriptor has only eight bits. -/
theorem readString_usbdGetString_iff (desc : List UInt8) (m : Mem) :
    readString (read (usbdGetString desc m).1 0 (usbdGetString desc m).2.toNat) = some desc ↔
      desc.length ≤ 126 := by
  constructor
  · exact fun h => (length_of_readString h).2
  · intro h
    rw [read_usbdGetString h, readString_stringDescriptor h]

/-! ### The serial number -/

/-- A character of `IntToUnicode`. -/
def topDigit (value : UInt32) : UInt8 :=
  if value >>> 28 < 0xA then (value >>> 28).toUInt8 + 0x30 else (value >>> 28).toUInt8 + 0x41 - 10

/-- `IntToUnicode`. -/
def intToUnicode (pbuf : ℕ) : ℕ → UInt32 → Mem → Mem
  | 0, _, m => m
  | len + 1, value, m =>
      intToUnicode (pbuf + 2) len (value <<< 4) (write m pbuf [topDigit value, 0])

/-- `USB_SIZ_STRING_SERIAL`. -/
def usbSizStringSerial : UInt8 := 0x1A

/-- `Get_SerialNum`, with `USBD_StringSerial`. -/
def getSerialNum (id1 id2 id3 : UInt32) (stringSerial : Mem) : Mem :=
  let deviceserial0 := id1 + id3
  if deviceserial0 ≠ 0 then
    intToUnicode 18 4 id2 (intToUnicode 2 8 deviceserial0 stringSerial)
  else stringSerial

theorem toNat_shiftRight_28 (value : UInt32) : (value >>> 28).toNat = value.toNat / 16 ^ 7 := by
  rw [UInt32.toNat_shiftRight, Nat.shiftRight_eq_div_pow]
  rfl

theorem toNat_shiftLeft_four (value : UInt32) :
    (value <<< 4).toNat = value.toNat * 16 % 16 ^ 8 := by
  rw [UInt32.toNat_shiftLeft, Nat.shiftLeft_eq]
  rfl

theorem topDigit_eq (value : UInt32) :
    topDigit value = Hexadecimal.digit (value.toNat / 16 ^ 7 % 16) := by
  have hlt : value.toNat / 16 ^ 7 < 16 := by
    have := value.toNat_lt
    omega
  have htop : (value >>> 28).toUInt8.toNat = value.toNat / 16 ^ 7 := by
    rw [UInt32.toNat_toUInt8, toNat_shiftRight_28]
    exact Nat.mod_eq_of_lt (by omega)
  have hten : value >>> 28 < 0xA ↔ value.toNat / 16 ^ 7 < 10 := by
    rw [UInt32.lt_iff_toNat_lt, toNat_shiftRight_28]
    rfl
  rw [Nat.mod_eq_of_lt hlt]
  refine UInt8.toNat_inj.1 ?_
  rw [Hexadecimal.toNat_digit hlt, topDigit]
  by_cases h : value.toNat / 16 ^ 7 < 10
  · rw [if_pos (hten.2 h), if_pos h, UInt8.toNat_add, htop]
    show (value.toNat / 16 ^ 7 + 48) % 256 = _
    omega
  · rw [if_neg fun h' => h (hten.1 h'), if_neg h, UInt8.toNat_sub_of_le, UInt8.toNat_add, htop]
    · show (value.toNat / 16 ^ 7 + 65) % 256 - 10 = _
      omega
    · rw [UInt8.le_iff_toNat_le, UInt8.toNat_add, htop]
      show 10 ≤ (value.toNat / 16 ^ 7 + 65) % 256
      omega

/-- **The digits from the top one on**: those that are not written are the lowest. -/
theorem intToUnicode_eq {len : ℕ} (h : len ≤ 8) (pbuf : ℕ) (value : UInt32) (m : Mem) :
    intToUnicode pbuf len value m =
      write m pbuf (widen (Hexadecimal.numeral len (value.toNat / 16 ^ (8 - len)))) := by
  induction len generalizing pbuf value m with
  | zero => exact (write_nil _ _).symm
  | succ k ih =>
      have hhead : value.toNat / 16 ^ (8 - (k + 1)) / 16 ^ k = value.toNat / 16 ^ 7 := by
        rw [Nat.div_div_eq_div_mul, ← Nat.pow_add, show 8 - (k + 1) + k = 7 by omega]
      -- the shift makes room for the digits that are still to come
      have htail : Hexadecimal.numeral k ((value <<< 4).toNat / 16 ^ (8 - k)) =
          Hexadecimal.numeral k (value.toNat / 16 ^ (8 - (k + 1))) := by
        refine Hexadecimal.numeral_congr ?_
        have hsplit : 16 ^ 8 = 16 ^ (8 - k) * 16 ^ k := by
          rw [← Nat.pow_add, Nat.sub_add_cancel (by omega)]
        have hroom : 16 ^ (8 - k) = 16 ^ (8 - (k + 1)) * 16 := by
          rw [← Nat.pow_succ, show (8 - (k + 1)).succ = 8 - k by omega]
        rw [toNat_shiftLeft_four, hsplit, Nat.mod_mul_right_div_self, Nat.mod_mod, hroom,
          Nat.mul_div_mul_right _ _ (by decide)]
      rw [intToUnicode, ih (by omega), htail, topDigit_eq,
        write_write_of_eq m pbuf (pbuf + 2) [_, 0] _ rfl, Hexadecimal.numeral, hhead]
      rfl

/-- `USBD_StringSerial`, before anything was written to it. -/
def usbdStringSerial : Mem := write (fun _ => 0) 0 [usbSizStringSerial, usbDescTypeString]

/-- `USBD_FS_SerialStrDescriptor`: what is sent. -/
def usbdFsSerialStrDescriptor (id1 id2 id3 : UInt32) : List UInt8 :=
  read (getSerialNum id1 id2 id3 usbdStringSerial) 0 usbSizStringSerial.toNat

/-- The serial number of a chip: eight digits and four, or nothing but NUL characters. -/
def serialText (id1 id2 id3 : UInt32) : List UInt8 :=
  if id1 + id3 ≠ 0 then
    Hexadecimal.numeral 8 (id1 + id3).toNat ++ Hexadecimal.numeral 4 (id2.toNat / 16 ^ 4)
  else List.replicate 12 0

theorem length_serialText (id1 id2 id3 : UInt32) : (serialText id1 id2 id3).length = 12 := by
  unfold serialText
  split
  · rw [List.length_append, Hexadecimal.length_numeral, Hexadecimal.length_numeral]
  · exact List.length_replicate

theorem usbdFsSerialStrDescriptor_eq (id1 id2 id3 : UInt32) :
    usbdFsSerialStrDescriptor id1 id2 id3 = stringDescriptor (serialText id1 id2 id3) := by
  have hhead : stringDescriptor (serialText id1 id2 id3) =
      [usbSizStringSerial, usbDescTypeString] ++ widen (serialText id1 id2 id3) := by
    rw [stringDescriptor, length_serialText]
    rfl
  have hread {text : List UInt8} (hlength : text.length = 12) :
      read (write usbdStringSerial 2 (widen text)) 0 26 =
        [usbSizStringSerial, usbDescTypeString] ++ widen text := by
    have hsize : ([usbSizStringSerial, usbDescTypeString] ++ widen text).length = 26 := by
      rw [List.length_append, length_widen, hlength]
      rfl
    rw [usbdStringSerial, write_write_of_eq _ 0 2 _ _ rfl, ← hsize, read_write_self]
  rw [hhead, ← hread (length_serialText id1 id2 id3), usbdFsSerialStrDescriptor]
  show read _ 0 26 = _
  congr 1
  rw [getSerialNum, serialText]
  split
  · rw [intToUnicode_eq (by decide), intToUnicode_eq (by decide), widen_append,
      write_write_of_eq _ 2 18 _ _ (by rw [length_widen, Hexadecimal.length_numeral]),
      Nat.pow_zero, Nat.div_one]
  · -- the zeros are there from the beginning
    exact (write_read usbdStringSerial 2 24).symm

theorem toNat_lt_digits (value : UInt32) : value.toNat < 16 ^ 8 := value.toNat_lt

theorem upper_lt_digits (value : UInt32) : value.toNat / 16 ^ 4 < 16 ^ 4 :=
  Nat.div_lt_of_lt_mul (toNat_lt_digits value)

/-- **The serial number is read back**: two numbers, of which the second one is cut. -/
theorem readString_serial {id1 id3 : UInt32} (h : id1 + id3 ≠ 0) (id2 : UInt32) :
    ∃ high low : List UInt8,
      readString (usbdFsSerialStrDescriptor id1 id2 id3) = some (high ++ low) ∧
        Hexadecimal.IsNumeral (high ++ low) ∧ high.length = 8 ∧ low.length = 4 ∧
        Hexadecimal.value high = (id1 + id3).toNat ∧
        Hexadecimal.value low = id2.toNat / 16 ^ 4 := by
  refine ⟨Hexadecimal.numeral 8 (id1 + id3).toNat, Hexadecimal.numeral 4 (id2.toNat / 16 ^ 4), ?_,
    ?_, Hexadecimal.length_numeral _ _, Hexadecimal.length_numeral _ _, ?_, ?_⟩
  · rw [usbdFsSerialStrDescriptor_eq,
      readString_stringDescriptor (by rw [length_serialText]; decide), serialText, if_pos h]
  · intro c hc
    rcases List.mem_append.1 hc with hc | hc
    · exact Hexadecimal.isNumeral_numeral _ _ c hc
    · exact Hexadecimal.isNumeral_numeral _ _ c hc
  · rw [Hexadecimal.value_numeral, Nat.mod_eq_of_lt (toNat_lt_digits _)]
  · rw [Hexadecimal.value_numeral, Nat.mod_eq_of_lt (upper_lt_digits _)]

/-- NUL is no digit. -/
theorem numeral_ne_replicate {k : ℕ} (h : k ≠ 0) (n : ℕ) (low : List UInt8) :
    Hexadecimal.numeral k n ++ low ≠ List.replicate (k + low.length) 0 := by
  intro heq
  obtain ⟨k, rfl⟩ := Nat.exists_eq_succ_of_ne_zero h
  have hmem : Hexadecimal.digit (n / 16 ^ k % 16) ∈
      List.replicate (k.succ + low.length) (0 : UInt8) :=
    heq ▸ List.mem_append_left low List.mem_cons_self
  have hdigit := Hexadecimal.isDigit_digit (Nat.mod_lt (n / 16 ^ k) (show 0 < 16 by decide))
  rw [List.eq_of_mem_replicate hmem] at hdigit
  revert hdigit
  unfold Hexadecimal.IsDigit
  decide

/-- **Which chips have the same serial number**: those whose first and last words have the same sum,
and the upper halves of whose middle words agree, unless the sum is zero. -/
theorem serial_eq_iff (id1 id2 id3 id1' id2' id3' : UInt32) :
    usbdFsSerialStrDescriptor id1 id2 id3 = usbdFsSerialStrDescriptor id1' id2' id3' ↔
      id1 + id3 = id1' + id3' ∧ (id1 + id3 = 0 ∨ id2.toNat / 16 ^ 4 = id2'.toNat / 16 ^ 4) := by
  have htext : usbdFsSerialStrDescriptor id1 id2 id3 = usbdFsSerialStrDescriptor id1' id2' id3' ↔
      serialText id1 id2 id3 = serialText id1' id2' id3' := by
    rw [usbdFsSerialStrDescriptor_eq, usbdFsSerialStrDescriptor_eq]
    refine ⟨fun h => Option.some.inj ?_, fun h => by rw [h]⟩
    rw [← readString_stringDescriptor (by rw [length_serialText]; decide), h,
      readString_stringDescriptor (by rw [length_serialText]; decide)]
  have hnumeral (id2 : UInt32) (n : ℕ) : Hexadecimal.numeral 8 n ++
      Hexadecimal.numeral 4 (id2.toNat / 16 ^ 4) ≠ List.replicate 12 0 := by
    have hne := numeral_ne_replicate (show 8 ≠ 0 by decide) n
      (Hexadecimal.numeral 4 (id2.toNat / 16 ^ 4))
    rwa [Hexadecimal.length_numeral] at hne
  rw [htext, serialText, serialText]
  by_cases hzero : id1 + id3 = 0
  · by_cases hzero' : id1' + id3' = 0
    · simp only [hzero, hzero', ne_eq, not_true_eq_false, if_false, true_or, and_self]
    · simp only [hzero, hzero', ne_eq, not_true_eq_false, not_false_eq_true, if_false, if_true]
      exact ⟨fun h => absurd h.symm (hnumeral _ _), fun h => absurd h.1.symm hzero'⟩
  · by_cases hzero' : id1' + id3' = 0
    · simp only [hzero, hzero', ne_eq, not_true_eq_false, not_false_eq_true, if_false, if_true]
      exact ⟨fun h => absurd h (hnumeral _ _), fun h => absurd h.1 id⟩
    · simp only [hzero, hzero', ne_eq, not_false_eq_true, if_true, false_or]
      rw [← UInt32.toNat_inj,
        ← Hexadecimal.numeral_inj (toNat_lt_digits (id1 + id3)) (toNat_lt_digits (id1' + id3')),
        ← Hexadecimal.numeral_inj (upper_lt_digits id2) (upper_lt_digits id2')]
      have hlength : (Hexadecimal.numeral 8 (id1 + id3).toNat).length =
          (Hexadecimal.numeral 8 (id1' + id3').toNat).length := by
        rw [Hexadecimal.length_numeral, Hexadecimal.length_numeral]
      exact ⟨fun h => List.append_inj h hlength, fun h => by rw [h.1, h.2]⟩

/-! ### The descriptors of the device -/

/-- `USBD_MAX_STR_DESC_SIZ`, the length of `USBD_StrDesc`. -/
def usbdMaxStrDescSiz : ℕ := 128

/-- The texts; for each of them there is room in `USBD_StrDesc`. -/
structure UsbTexts where
  manufacturer : List UInt8
  product : List UInt8
  configuration : List UInt8
  interface : List UInt8
  fits : ∀ text ∈ [manufacturer, product, configuration, interface],
    2 * text.length + 2 ≤ usbdMaxStrDescSiz

/-- `USBD_MANUFACTURER_STRING`, `USBD_PRODUCT_STRING_FS`, `USBD_CONFIGURATION_STRING_FS` and
`USBD_INTERFACE_STRING_FS`. -/
def solar48Texts : UsbTexts where
  manufacturer := nameBytes "DevFabioSilva"
  product := nameBytes "Solar48 Virtual Communication Port for 48 V solar panel"
  configuration := nameBytes "CDC Config"
  interface := nameBytes "CDC Interface"
  fits := by decide

/-- `USBD_FS_ManufacturerStrDescriptor` and the others that call `USBD_GetString`: what is sent. -/
def usbdFsStrDescriptor (text : List UInt8) (strDesc : Mem) : List UInt8 :=
  let (strDesc, length) := usbdGetString text strDesc
  read strDesc 0 length.toNat

/-- `USBD_FS_DeviceDesc`. -/
def usbdFsDeviceDesc : List UInt8 :=
  [0x12, 0x01, 0x00, 0x02, 0x02, 0x02, 0x00, 64] ++ bytes16 1155 ++ bytes16 22336 ++
    [0x00, 0x02, 0x01, 0x02, 0x03, usbdMaxNumConfiguration]

/-- `USBD_LangIDDesc`. -/
def usbdLangIDDesc : List UInt8 := [0x04, usbDescTypeString] ++ bytes16 1033

/-- `USBD_CDC_CfgFSDesc`. -/
def usbdCdcCfgFSDesc : List UInt8 :=
  -- the configuration
  [0x09, 0x02, 67, 0x00, 0x02, 0x01, 0x00, 0xC0, 0x32] ++
  -- the interface for the control of the line, with its functional descriptors and its endpoint
  [0x09, 0x04, 0x00, 0x00, 0x01, 0x02, 0x02, 0x01, 0x00] ++ [0x05, 0x24, 0x00, 0x10, 0x01] ++
  [0x05, 0x24, 0x01, 0x00, 0x01] ++ [0x04, 0x24, 0x02, 0x02] ++ [0x05, 0x24, 0x06, 0x00, 0x01] ++
  [0x07, 0x05, 0x82, 0x03] ++ bytes16 8 ++ [0x10] ++
  -- the interface for the data, with its two endpoints
  [0x09, 0x04, 0x01, 0x00, 0x02, 0x0A, 0x00, 0x00, 0x00] ++
  [0x07, 0x05, 0x01, 0x02] ++ bytes16 64 ++ [0x00] ++
  [0x07, 0x05, 0x81, 0x02] ++ bytes16 64 ++ [0x00]

/-- `FS_Desc`, with what its functions give when the three words of the unique identifier are
these. -/
def fsDesc (texts : UsbTexts) (strDesc : Mem) (id1 id2 id3 : UInt32) : UsbdDescriptors where
  device := usbdFsDeviceDesc
  langIDStr := usbdLangIDDesc
  manufacturerStr := usbdFsStrDescriptor texts.manufacturer strDesc
  productStr := usbdFsStrDescriptor texts.product strDesc
  serialStr := usbdFsSerialStrDescriptor id1 id2 id3
  configurationStr := usbdFsStrDescriptor texts.configuration strDesc
  interfaceStr := usbdFsStrDescriptor texts.interface strDesc
  fsConfig := usbdCdcCfgFSDesc

/-- The text with a number, from `USBD_IDX_MFC_STR` to `USBD_IDX_INTERFACE_STR`. -/
def UsbTexts.text (texts : UsbTexts) (serial : List UInt8) (index : UInt8) :
    Option (List UInt8) :=
  match index.toNat with
  | 1 => some texts.manufacturer
  | 2 => some texts.product
  | 3 => some serial
  | 4 => some texts.configuration
  | 5 => some texts.interface
  | _ => none

section

variable {texts : UsbTexts} {strDesc : Mem} {id1 id2 id3 : UInt32}

theorem usbdFsStrDescriptor_eq {text : List UInt8} (h : 2 * text.length + 2 ≤ usbdMaxStrDescSiz)
    (strDesc : Mem) : usbdFsStrDescriptor text strDesc = stringDescriptor text :=
  read_usbdGetString (by
    unfold usbdMaxStrDescSiz at h
    omega) strDesc

/-- Each text has its descriptor, whatever was in `USBD_StrDesc`. -/
theorem fsDesc_eq (texts : UsbTexts) (strDesc : Mem) (id1 id2 id3 : UInt32) :
    fsDesc texts strDesc id1 id2 id3 =
      { device := usbdFsDeviceDesc
        langIDStr := usbdLangIDDesc
        manufacturerStr := stringDescriptor texts.manufacturer
        productStr := stringDescriptor texts.product
        serialStr := stringDescriptor (serialText id1 id2 id3)
        configurationStr := stringDescriptor texts.configuration
        interfaceStr := stringDescriptor texts.interface
        fsConfig := usbdCdcCfgFSDesc } := by
  rw [fsDesc, usbdFsSerialStrDescriptor_eq,
    usbdFsStrDescriptor_eq (texts.fits texts.manufacturer (by simp)),
    usbdFsStrDescriptor_eq (texts.fits texts.product (by simp)),
    usbdFsStrDescriptor_eq (texts.fits texts.configuration (by simp)),
    usbdFsStrDescriptor_eq (texts.fits texts.interface (by simp))]

/-- What is found under the number of a text is its descriptor. -/
theorem find_fsDesc {index : UInt8} (h : index ≠ 0) :
    (fsDesc texts strDesc id1 id2 id3).find usbDescTypeString index =
      (texts.text (serialText id1 id2 id3) index).map stringDescriptor := by
  have htype : usbDescTypeString.toNat = 3 := rfl
  have hindex : index.toNat ≠ 0 := fun hzero => h (UInt8.toNat_inj.1 hzero)
  rw [fsDesc_eq]
  unfold UsbdDescriptors.find UsbTexts.text
  rw [htype]
  split <;> simp_all

theorem length_text {index : UInt8} {text : List UInt8}
    (h : texts.text (serialText id1 id2 id3) index = some text) :
    2 * text.length + 2 ≤ usbdMaxStrDescSiz := by
  unfold UsbTexts.text at h
  split at h
  · exact Option.some.inj h ▸ texts.fits _ (by simp)
  · exact Option.some.inj h ▸ texts.fits _ (by simp)
  · rw [← Option.some.inj h, length_serialText]
    decide
  · exact Option.some.inj h ▸ texts.fits _ (by simp)
  · exact Option.some.inj h ▸ texts.fits _ (by simp)
  · cases h

theorem filled_fsDesc (texts : UsbTexts) (strDesc : Mem) (id1 id2 id3 : UInt32) :
    Filled (fsDesc texts strDesc id1 id2 id3) := by
  have hstring (text : List UInt8) : stringDescriptor text ≠ [] := List.cons_ne_nil _ _
  rw [fsDesc_eq]
  refine filled_of_ne (List.cons_ne_nil _ _) (List.cons_ne_nil _ _) ?_
  intro bs hbs
  simp only [List.mem_cons, List.not_mem_nil, or_false] at hbs
  rcases hbs with rfl | rfl | rfl | rfl | rfl | rfl
  · exact List.cons_ne_nil _ _
  all_goals exact hstring _

/-- What is in the log is what the device without packets answers. -/
theorem Tells.answer {pDesc : UsbdDescriptors} {f f' : UsbFunction}
    {log : List (HostAction × Reply)} {r : ControlRequest} {reply : Reply}
    (h : Tells pDesc f log f') (hmem : (HostAction.request r, reply) ∈ log) :
    ∃ f₁, reply = (UsbFunction.answer pDesc f₁ r).1 := by
  obtain ⟨pre, post, rfl⟩ := List.append_of_mem hmem
  obtain ⟨f₁, -, hrest⟩ := h.split
  exact ⟨f₁, (congrArg Prod.fst hrest.cons.1).symm⟩

end

/-- The text in an answer. -/
def Reply.text : Reply → Option (List UInt8)
  | .data bs => readString bs
  | _ => none

/-- **A host that asks for a text gets it**, in every run, whenever the interrupt comes between the
packets of a transfer, the one for the last of them before the next `SETUP` packet, and what there
is none for is refused; it asks for as many bytes as `USBD_StrDesc` has, or for more. -/
theorem string_of_run {texts : UsbTexts} {strDesc : Mem} {id1 id2 id3 : UInt32} {classData : Mem}
    {s : UsbBus} (h : Run (busStep (fsDesc texts strDesc id1 id2 id3))
      (busOk (fsDesc texts strDesc id1 id2 id3) (functionInit classData)) (busInit classData) s)
    {index : UInt8} {langId length : UInt16} {reply : Reply} (hindex : index ≠ 0)
    (hlength : usbdMaxStrDescSiz ≤ length.toNat)
    (hmem : (HostAction.request (.getDescriptor usbDescTypeString index langId length), reply) ∈
      s.log) :
    reply.text = texts.text (serialText id1 id2 id3) index ∧
      (reply = .refused ↔ texts.text (serialText id1 id2 id3) index = none) := by
  have htells : Tells (fsDesc texts strDesc id1 id2 id3) (functionInit classData) s.log _ :=
    ⟨(busInv_of_run (filled_fsDesc _ _ _ _ _) (busInv_init _ classData) h).replies, rfl⟩
  obtain ⟨f, hreply⟩ := htells.answer hmem
  simp only [UsbFunction.answer, find_fsDesc hindex] at hreply
  cases htext : texts.text (serialText id1 id2 id3) index with
  | none =>
      rw [htext] at hreply
      rw [hreply]
      exact ⟨rfl, Iff.intro (fun _ => rfl) fun _ => rfl⟩
  | some text =>
      have hfits := length_text htext
      have hzero : length ≠ 0 := by
        rintro rfl
        exact absurd hlength (by decide)
      have htake : (stringDescriptor text).take length.toNat = stringDescriptor text :=
        List.take_of_length_le (by rw [length_stringDescriptor]; omega)
      have hreply' : reply = .data (stringDescriptor text) := by
        simpa only [htext, Option.map_some, if_neg hzero, htake] using hreply
      rw [hreply']
      refine ⟨readString_stringDescriptor ?_, fun h => Reply.noConfusion h,
        fun h => absurd h (Option.some_ne_none _)⟩
      unfold usbdMaxStrDescSiz at hfits
      omega

theorem string_of_run_configuration : ∃ (s : UsbBus) (reply : Reply),
    (HostAction.request (.getDescriptor usbDescTypeString 4 1033 255), reply) ∈ s.log ∧
      reply.text = some (nameBytes "CDC Config") := by
  have hrun : ∃ s, exec (busStep (fsDesc solar48Texts (fun _ => 0) 1 2 3))
      (busOk (fsDesc solar48Texts (fun _ => 0) 1 2 3) (functionInit fun _ => 0))
      [.request (.getDescriptor usbDescTypeString 4 1033 255), .host, .irq, .host, .irq, .host,
        .irq] (busInit fun _ => 0) = some s ∧
      s.log = [(.request (.getDescriptor usbDescTypeString 4 1033 255),
        .data (stringDescriptor solar48Texts.configuration))] := ⟨_, rfl, rfl⟩
  obtain ⟨s, hs, hlog⟩ := hrun
  have hmem : (HostAction.request (.getDescriptor usbDescTypeString 4 1033 255),
      Reply.data (stringDescriptor solar48Texts.configuration)) ∈ s.log := by
    rw [hlog]
    exact List.mem_cons_self
  exact ⟨s, _, hmem, (string_of_run (run_of_exec _ hs) (by decide) (by decide) hmem).1⟩

end Solar48
