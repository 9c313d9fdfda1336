/-
**A line runs the command it names.**

A line is looked at twice.  `usb_receive_complete_process` calls the handler of the first command
in its list whose name the line begins with.  The handler cuts the line up with `build_argc` and
goes on only if the first token is its own name.  The list is in such an order that a name is
tried before the names it begins with, so that the two agree.

Main definitions:

* `Solar48.commandCheckCallArg` — the first look, and the second one by the handler;
* `Solar48.checkedCommands` — the handlers that go on.

Main results:

* `Solar48.commandCheckCallArg_eq` — the handler called is the one that `findCommand` finds;
* `Solar48.checkedCommands_usbReceive` — **for every packet, at most one handler goes on, the one
  that the first token names, and it does if the line begins with its name**.
-/

import Solar48.BuildArgc
import Solar48.UsbCommand
import Mathlib.Data.List.TakeWhile

set_option relaxedAutoImplicit false
set_option autoImplicit false

namespace Solar48

open ByteMem Tokens

/-! ### The code -/

/-- `strncmp(a, b, n) == 0`, with `n` characters to go from `i` on. -/
def strncmpEq (a b : Mem) : ℕ → ℕ → Bool
  | 0, _ => true
  | n + 1, i => a i == b i && (a i == 0 || strncmpEq a b n (i + 1))

/-- `COMP_ARGUMENT_COMMAND` does not return from the handler: `sizeof` counts the NUL. -/
def compArgumentCommand (name : String) (s : Arguments) : Bool :=
  strncmpEq (stringMem (nameBytes name)) s.argumentBuffer ((nameBytes name).length + 1) 0

/-- `CMD_BEGIN_ARG` and the beginning of `CMD_BEGIN_NOARG`: the handler, if it goes on. -/
def cmdBegin (c : Command × String) (argument : Mem) (s : Arguments) :
    Option (Arguments × List Command) :=
  (buildArgc argument s).map fun r => (r.1, if compArgumentCommand c.2 r.1 then [c.1] else [])

/-- The `COMMAND_CHECK_CALL_ARG` lines.  After a handler has returned the process is at its end. -/
def commandCheckCallArg (text : Mem) (s : Arguments) :
    List (Command × String) → Option (Arguments × List Command)
  | [] => some (s, [])
  | c :: table =>
      if strncmpEq text (stringMem (nameBytes c.2)) (nameBytes c.2).length 0 then cmdBegin c text s
      else commandCheckCallArg text s table

/-- `usb_receive_complete_process`: the handlers that go on. -/
def checkedCommands (text : Mem) (textSz : ℕ) (s : Arguments) :
    Option (Arguments × List Command) :=
  if textSz ≤ 2 then some (s, []) else commandCheckCallArg text s commandTable

/-! ### Comparing strings -/

variable {a b text : Mem} {p : ℕ} {l w : List UInt8}

/-- The comparison of as many characters as the second string has: is it a prefix? -/
theorem strncmpEq_length_iff (ha : HoldsString a p l) (hb : HoldsString b p w) :
    strncmpEq a b w.length p = true ↔ w <+: l := by
  induction w generalizing p l with
  | nil => simp [strncmpEq]
  | cons c w ih =>
      obtain ⟨hbp, hc, hbrest⟩ := hb.cons
      rw [List.length_cons, strncmpEq, hbp]
      cases l with
      | nil =>
          have hap : a p = 0 := ha.first
          rw [hap, Bool.and_eq_true, beq_iff_eq]
          exact ⟨fun h => absurd h.1.symm hc, fun h => absurd h (by simp)⟩
      | cons d l =>
          obtain ⟨hap, hd, harest⟩ := ha.cons
          rw [hap, List.cons_prefix_cons, ← ih harest hbrest, beq_false_of_ne hd, Bool.false_or,
            Bool.and_eq_true, beq_iff_eq, @eq_comm _ d c]

/-- The comparison with the NUL of the first string: are they equal? -/
theorem strncmpEq_length_succ_iff (ha : HoldsString a p w) (hb : HoldsString b p l) :
    strncmpEq a b (w.length + 1) p = true ↔ l = w := by
  induction w generalizing p l with
  | nil =>
      have hap : a p = 0 := ha.first
      have hbp : b p = l.headD 0 := hb.first
      rw [List.length_nil, strncmpEq, hap, hbp]
      cases l with
      | nil => simp
      | cons d l => simp [hb.cons.2.1.symm]
  | cons c w ih =>
      obtain ⟨hap, hc, harest⟩ := ha.cons
      rw [List.length_cons, strncmpEq, hap]
      cases l with
      | nil =>
          have hbp : b p = 0 := hb.first
          rw [hbp, Bool.and_eq_true, beq_iff_eq]
          exact ⟨fun h => absurd h.1 hc, fun h => absurd h (by simp)⟩
      | cons d l =>
          obtain ⟨hbp, -, hbrest⟩ := hb.cons
          rw [hbp, List.cons.injEq, ← ih harest hbrest, beq_false_of_ne hc, Bool.false_or,
            Bool.and_eq_true, beq_iff_eq, @eq_comm _ c d]

/-- What a `char` array holds, if it is a string. -/
theorem holdsString_cString (h : (cString text).length < appTxDataSize) :
    HoldsString text 0 (cString text) := by
  obtain ⟨k, hk⟩ := Nat.exists_eq_add_of_le (Nat.succ_le_of_lt h)
  have hz : (0 : UInt8) ∉ cString text := by
    intro hmem
    simpa using List.mem_takeWhile_imp hmem
  have hsplit : read text 0 appTxDataSize =
      cString text ++ (read text 0 appTxDataSize).dropWhile (· ≠ 0) :=
    List.takeWhile_append_dropWhile.symm
  cases hdrop : (read text 0 appTxDataSize).dropWhile (· ≠ 0) with
  | nil =>
      have hlen := congrArg List.length hsplit
      rw [hdrop, List.append_nil, length_read] at hlen
      omega
  | cons d rest =>
      have hd : d = 0 := by
        have hhead := List.head?_dropWhile_not (· ≠ 0) (ByteMem.read text 0 appTxDataSize)
        rw [hdrop] at hhead
        simpa using hhead
      rw [hdrop, hd, hk, read_add, List.append_cons] at hsplit
      exact ⟨List.append_inj_left hsplit (by simp), hz⟩

/-- The line of a packet is a string, and short. -/
theorem length_packetLine_le (packet : List UInt8) : (packetLine packet).length ≤ 255 := by
  have h₁ := (List.takeWhile_sublist inLine (l := packet.take (appTxDataSize - 1))).length_le
  have h₂ := (List.takeWhile_sublist (· ≠ 0)
    (l := (packet.take (appTxDataSize - 1)).takeWhile inLine)).length_le
  have h₃ : (packet.take (appTxDataSize - 1)).length ≤ appTxDataSize - 1 := List.length_take_le _ _
  exact h₂.trans (h₁.trans h₃)

/-- After `usb_receive` took a packet, its line is in `text`. -/
theorem holdsString_usbReceive {s : UsbState} (h : s.usbIoLocked = false) (packet : List UInt8) :
    (usbReceive packet false s).textSz = min packet.length (appTxDataSize - 1) ∧
      HoldsString (usbReceive packet false s).text 0 (packetLine packet) := by
  have hn : (if packet.length > appTxDataSize - 1 then appTxDataSize - 1 else packet.length) =
      min packet.length (appTxDataSize - 1) := by
    split <;> omega
  have htext : cString (usbReceive packet false s).text = packetLine packet := by
    rw [← cString_copyLine packet s.text _ rfl]
    simp [usbReceive, h, hn]
  have hlt : (packetLine packet).length < appTxDataSize :=
    Nat.lt_succ_of_le (length_packetLine_le packet)
  refine ⟨by simp [usbReceive, h, hn], ?_⟩
  rw [← htext]
  exact holdsString_cString (by rwa [htext])

/-! ### The handler -/

/-- Names are tokens. -/
def IsName (name : String) : Prop :=
  nameBytes name ≠ [] ∧ space ∉ nameBytes name ∧ (0 : UInt8) ∉ nameBytes name

instance (name : String) : Decidable (IsName name) :=
  inferInstanceAs (Decidable (_ ∧ _ ∧ _))

theorem commandTable_isName : ∀ e ∈ commandTable, IsName e.2 := by decide

/-- A handler goes on if the first token is its name. -/
theorem cmdBegin_eq {c : Command × String} (h : HoldsString text 0 l) (hle : l.length ≤ 255)
    (hname : IsName c.2) (s : Arguments) :
    ∃ s', cmdBegin c text s =
      some (s', if (tokens space l).head? = some (nameBytes c.2) then [c.1] else []) := by
  obtain ⟨s', argc, hbuild, hfirst⟩ := buildArgc_first h hle s
  refine ⟨s', ?_⟩
  have hcomp : compArgumentCommand c.2 s' = true ↔
      (tokens space l).head? = some (nameBytes c.2) := by
    rw [compArgumentCommand,
      strncmpEq_length_succ_iff (holdsString_stringMem hname.2.2) hfirst]
    cases tokens space l with
    | nil => simp [hname.1.symm]
    | cons w rest => simp
  simp only [cmdBegin, hbuild, Option.map_some, hcomp]

/-! ### The list of the commands -/

theorem isPrefixOf_eq_false (h : ¬ w <+: l) : w.isPrefixOf l = false := by
  rw [Bool.eq_false_iff]
  exact fun heq => h (List.isPrefixOf_iff_prefix.1 heq)

/-- **The handler called is the one of the first name that the line begins with.** -/
theorem commandCheckCallArg_eq (h : HoldsString text 0 l) (s : Arguments)
    {table : List (Command × String)} (hnames : ∀ e ∈ table, IsName e.2) :
    commandCheckCallArg text s table =
      match table.find? fun c => (nameBytes c.2).isPrefixOf l with
      | none => some (s, [])
      | some c => cmdBegin c text s := by
  induction table with
  | nil => rfl
  | cons c table ih =>
      have hname := hnames c (List.mem_cons_self)
      have hiff := strncmpEq_length_iff h (holdsString_stringMem hname.2.2)
      rw [commandCheckCallArg, List.find?_cons]
      by_cases hpre : nameBytes c.2 <+: l
      · rw [if_pos (hiff.2 hpre), List.isPrefixOf_iff_prefix.2 hpre]
      · rw [if_neg fun heq => hpre (hiff.1 heq), isPrefixOf_eq_false hpre]
        exact ih fun e he => hnames e (List.mem_cons_of_mem c he)

/-- Names are tried before the names that they begin with. -/
theorem commandTable_pairwise :
    commandTable.Pairwise fun c d => ¬ nameBytes c.2 <+: nameBytes d.2 := by
  decide

/-- A line that begins with a name, and then a space or its end: it is the first name that the line
begins with. -/
theorem find?_of_name {table : List (Command × String)} {e : Command × String} {rest : List UInt8}
    (hnames : ∀ c ∈ table, IsName c.2)
    (horder : table.Pairwise fun c d => ¬ nameBytes c.2 <+: nameBytes d.2) (he : e ∈ table)
    (hl : l = nameBytes e.2 ++ rest) (hrest : rest = [] ∨ rest.head? = some space) :
    table.find? (fun c => (nameBytes c.2).isPrefixOf l) = some e := by
  induction table with
  | nil => cases he
  | cons c table ih =>
      rw [List.find?_cons]
      rw [List.pairwise_cons] at horder
      rcases List.mem_cons.1 he with rfl | htable
      · have hpre : nameBytes e.2 <+: l := ⟨rest, hl.symm⟩
        rw [List.isPrefixOf_iff_prefix.2 hpre]
      · have hpre : ¬ nameBytes c.2 <+: l := by
          intro hpre
          have hnot := horder.1 e htable
          rcases List.prefix_or_prefix_of_prefix hpre ⟨rest, hl.symm⟩ with hce | ⟨x, hx⟩
          · exact hnot hce
          · -- a longer name has the space in it
            rw [hl, ← hx, List.prefix_append_right_inj] at hpre
            cases x with
            | nil => exact hnot ⟨[], by rw [← hx, List.append_nil, List.append_nil]⟩
            | cons d x =>
                obtain ⟨y, hy⟩ := hpre
                have hd : d = space := by
                  rcases hrest with hnil | hspace
                  · rw [hnil] at hy
                    cases hy
                  · rw [← hy] at hspace
                    exact Option.some.inj hspace
                exact (hnames c List.mem_cons_self).2.1 (by rw [← hx, hd]; simp)
        rw [isPrefixOf_eq_false hpre]
        exact ih (fun d hd => hnames d (List.mem_cons_of_mem c hd)) horder.2 htable

/-! ### The whole way -/

/-- A line that begins with a name, and then a space or its end, has the name as its first token. -/
theorem head?_tokens_of_name {name : String} {rest : List UInt8} (hname : IsName name)
    (hl : l = nameBytes name ++ rest) (hrest : rest = [] ∨ rest.head? = some space) :
    (tokens space l).head? = some (nameBytes name) := by
  cases rest with
  | nil =>
      rw [hl, List.append_nil, tokens_of_not_mem hname.2.1 hname.1]
      rfl
  | cons c rest =>
      obtain rfl : c = space := by simpa using hrest
      rw [hl, tokens_append_cons hname.2.1 hname.1]
      rfl

/-- No name fits into the lines that are refused as too short. -/
theorem commandTable_length : ∀ e ∈ commandTable, 2 < (nameBytes e.2).length := by decide

/-- The line has no more characters than the packet. -/
theorem length_packetLine_le_packet (packet : List UInt8) :
    (packetLine packet).length ≤ packet.length :=
  ((List.takeWhile_sublist _).trans ((List.takeWhile_sublist _).trans
    (List.take_sublist _ _))).length_le

/-- **A line runs the command it names, and no other.** -/
theorem checkedCommands_usbReceive {s : UsbState} (h : s.usbIoLocked = false)
    (packet : List UInt8) (args : Arguments) :
    ∃ args' passed,
      checkedCommands (usbReceive packet false s).text (usbReceive packet false s).textSz args =
        some (args', passed) ∧
      passed.length ≤ 1 ∧
      (∀ c ∈ passed, ∃ name, (c, name) ∈ commandTable ∧
        (tokens space (packetLine packet)).head? = some (nameBytes name)) ∧
      ∀ c name rest, (c, name) ∈ commandTable → packetLine packet = nameBytes name ++ rest →
        (rest = [] ∨ rest.head? = some space) → passed = [c] := by
  obtain ⟨hsz, htext⟩ := holdsString_usbReceive h packet
  have hle := length_packetLine_le_packet packet
  rw [checkedCommands, hsz]
  by_cases hshort : min packet.length (appTxDataSize - 1) ≤ 2
  · rw [if_pos hshort]
    refine ⟨args, [], rfl, by simp, by simp, ?_⟩
    intro c name rest hmem hl _
    have hname : 2 < (nameBytes name).length := commandTable_length _ hmem
    have hsize : appTxDataSize = 256 := rfl
    rw [hl, List.length_append] at hle
    omega
  · rw [if_neg hshort, commandCheckCallArg_eq htext args commandTable_isName]
    cases hfind : commandTable.find? fun c => (nameBytes c.2).isPrefixOf (packetLine packet) with
    | none =>
        refine ⟨args, [], rfl, by simp, by simp, ?_⟩
        intro c name rest hmem hl hrest
        have hfound := find?_of_name commandTable_isName commandTable_pairwise hmem hl hrest
        rw [hfind] at hfound
        cases hfound
    | some e =>
        have he := List.mem_of_find?_eq_some hfind
        obtain ⟨args', hbegin⟩ :=
          cmdBegin_eq htext (length_packetLine_le packet) (commandTable_isName e he) args
        refine ⟨args', _, hbegin, ?_, ?_, ?_⟩
        · split <;> simp
        · intro c hc
          split at hc
          · rename_i hfirst
            obtain rfl := List.mem_singleton.1 hc
            exact ⟨e.2, he, hfirst⟩
          · cases hc
        · intro c name rest hmem hl hrest
          have hfound := find?_of_name commandTable_isName commandTable_pairwise hmem hl hrest
          rw [hfind] at hfound
          obtain rfl := Option.some.inj hfound
          rw [if_pos (head?_tokens_of_name (commandTable_isName _ hmem) hl hrest)]

/-- `readep2000_status`, though `readep2000` is a command too. -/
theorem checkedCommands_usbReceive_status :
    ∃ args', checkedCommands (usbReceive (nameBytes "readep2000_status\r\n") false usbInit).text
        (usbReceive (nameBytes "readep2000_status\r\n") false usbInit).textSz
        ⟨fun _ => 0, fun _ => none⟩ =
      some (args', [.readep2000Status]) := by
  obtain ⟨args', passed, hchecked, -, -, hruns⟩ := checkedCommands_usbReceive (s := usbInit) rfl
    (nameBytes "readep2000_status\r\n") ⟨fun _ => 0, fun _ => none⟩
  have hpassed := hruns .readep2000Status "readep2000_status" [] (by decide)
    (by decide) (Or.inl rfl)
  exact ⟨args', by rw [hchecked, hpassed]⟩

end Solar48
