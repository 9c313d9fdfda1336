/-
**The clock at the console.**

`setdate` and `getdate` are lines of the console: a line is compared with the names of the commands,
cut up into tokens, the tokens are read as numbers, and the numbers are taken for a date if they are
in its ranges.  Only then `set_date` is asked, which may refuse the date as well.  A number that is
missing at the end counts as zero.

The console and the clock are one state here: a packet is taken, the line in it may set the clock,
and the seconds go on between the packets, so that a line finds one clock from its beginning to its
end.  Against it stands the clock alone, with what a line asks of it.

Main definitions:

* `Solar48.setdateCmd`, `Solar48.getdateCmd`, `Solar48.consoleLine` — the code;
* `Solar48.runConsole` — the console, over packets and seconds;
* `Solar48.setdateAsks`, `Solar48.getdateAsks` — the date that a line asks for;
* `Solar48.runClock` — what the lines and the seconds do to the clock.

Main results:

* `Solar48.setdateArgs_eq`, `Solar48.getdateArgs_eq` — the two commands, on any arguments;
* `Solar48.consoleLine_eq` — what one line does to the clock, and which date it shows;
* `Solar48.runConsole_eq` — **over every sequence of packets and seconds the console is the clock:
  it is set by the lines that ask for a date it can hold, to that date, and by nothing else**;
* `Solar48.consoleStep_retyped` — **typing in the date that is shown leaves the clock alone from the
  second day of a year on, and after January in common years only**; else a day is gained.
-/

import Solar48.CommandCheck
import Solar48.LongArgument
import Solar48.RtcSet

set_option relaxedAutoImplicit false
set_option autoImplicit false

namespace Solar48

open ByteMem Calendar Decimal Tokens

/-! ### The code -/

/-- What the two commands print. -/
inductive ConsoleText
  | didYouMean (name : String)
  | longint (text : LongintText)
  | setdateUsage
  | setdateMissing
  | setdateTooMany
  | outOfRange
  | invalidDate
  | timestampRange
  | getdateTooMany (argc : ℕ)
  /-- what `print_date` prints -/
  | date (sd : Solar48Date)
  deriving DecidableEq

/-- `weekday`. -/
def weekday (i : ℕ) : String :=
  ["Sun", "Mon", "Tue", "Wed", "Thu", "Fri", "Sat", "??"].getD i "??"

/-- The formats, with their arguments. -/
def ConsoleText.printed : ConsoleText → List UInt8
  | .didYouMean name =>
      nameBytes "\nInvalid command. Did you mean \"" ++ nameBytes name ++ nameBytes "\"?\n"
  | .longint (.notNumber name argument) =>
      nameBytes "\n\nNot a number: " ++ name ++ nameBytes " = " ++ argument ++ nameBytes "\n\n"
  | .longint (.invalid errno name argument) =>
      nameBytes "\n\nError: " ++ numeral errno.toNat ++ nameBytes ". Invalid number " ++ name ++
        nameBytes " = " ++ argument ++ nameBytes "\n\n"
  | .setdateUsage =>
      nameBytes "\n\n=== TIME SETTINGS ===\n\n\tsetdate:\n" ++
        nameBytes "\tUSAGE: setdate YEAR MONTH DAY HH mm ss\n\n"
  | .setdateMissing => nameBytes "\n\nMissing parameters. Was expected: setdate yyyy mm dd\n\n"
  | .setdateTooMany =>
      nameBytes "\n\nToo many arguments. Was expected: yyyy mm dd [hh] [mm] [ss]\n\n"
  | .outOfRange => nameBytes "\n\nCalendar: Number(s) out of range\n\n"
  | .invalidDate => nameBytes "\n\nInvalid DATE/TIME\n\n"
  | .timestampRange =>
      nameBytes "\n\nInvalid timestamp range. Valid values 0 .. 2147483647\n\n"
  | .getdateTooMany argc =>
      nameBytes "\n\nToo many arguments: " ++ numeral argc ++ nameBytes ". Was expected 1\n\n"
  | .date sd =>
      nameBytes "\n\n=== SOLAR48 SYSTEM TIME ===\n\n\tDATE (weekday YEAR/MONTH/DAY): " ++
        nameBytes (weekday (sd.weekDay.toNat % 8)) ++ nameBytes " " ++ numeral sd.year.toNat ++
        nameBytes "/" ++ numeral sd.month.toNat ++ nameBytes "/" ++ numeral sd.day.toNat ++
        nameBytes "\n\tTIME hh:mm:ss: " ++ numeral sd.hour.toNat ++ nameBytes ":" ++
        numeral sd.minute.toNat ++ nameBytes ":" ++ numeral sd.second.toNat ++ nameBytes "\n\n"

/-- The variables of `build_argc`, and the seconds that the clock counts. -/
structure Console where
  arguments : Arguments
  clock : UInt32

/-- The numbers of `setdate`, one after the other: an argument that is not there counts as zero. -/
def longints (args : Arguments) (argc : ℕ) : ℕ → List String → Option (Except LongintText (List ℤ))
  | _, [] => some (.ok [])
  | i, name :: names =>
      match (if i < argc then longintAt args i (nameBytes name) else some (.ok 0)) with
      | none => none
      | some (.error text) => some (.error text)
      | some (.ok val) => (longints args argc (i + 1) names).map fun vals => vals.map (val :: ·)

/-- The names of the numbers. -/
def setdateNames : List String := ["yyyy", "mm", "dd", "hh", "mm", "ss"]

/-- The numbers are in the ranges of the members of `SOLAR48_DATE`. -/
def InCalendar (vals : List ℤ) : Prop :=
  (0 ≤ vals.getD 0 0 ∧ vals.getD 0 0 ≤ 65535) ∧ (0 ≤ vals.getD 1 0 ∧ vals.getD 1 0 ≤ 255) ∧
    (0 ≤ vals.getD 2 0 ∧ vals.getD 2 0 ≤ 255) ∧ (0 ≤ vals.getD 3 0 ∧ vals.getD 3 0 ≤ 255) ∧
    (0 ≤ vals.getD 4 0 ∧ vals.getD 4 0 ≤ 255) ∧ (0 ≤ vals.getD 5 0 ∧ vals.getD 5 0 ≤ 255)

instance (vals : List ℤ) : Decidable (InCalendar vals) := inferInstanceAs (Decidable (_ ∧ _))

/-- The members of `sd`, from the numbers; nobody reads the week day. -/
def dateOf (vals : List ℤ) : Solar48Date where
  year := UInt16.ofNat (vals.getD 0 0).toNat
  month := UInt8.ofNat (vals.getD 1 0).toNat
  day := UInt8.ofNat (vals.getD 2 0).toNat
  hour := UInt8.ofNat (vals.getD 3 0).toNat
  minute := UInt8.ofNat (vals.getD 4 0).toNat
  second := UInt8.ofNat (vals.getD 5 0).toNat
  weekDay := 0

/-- `setdate_cmd`, from where the arguments are counted. -/
def setdateArgs (argc : ℕ) (s : Console) : Option (Console × List ConsoleText) :=
  if argc = 0 then some (s, [.setdateUsage])
  else if argc < 3 then some (s, [.setdateMissing])
  else if argc > 6 then some (s, [.setdateTooMany])
  else
    match longints s.arguments argc 0 setdateNames with
    | none => none
    | some (.error text) => some (s, [.longint text])
    | some (.ok vals) =>
        if ¬ InCalendar vals then some (s, [.outOfRange])
        else
          match setDate (dateOf vals) with
          | some clock => some ({ s with clock }, [.date (getSolar48Date clock)])
          | none => some (s, [.invalidDate])

/-- `valid_timestamp`. -/
def validTimestamp (timestamp : ℤ) : Bool := timestamp ≥ 0 && timestamp ≤ maxTimestampValue

/-- `getdate_cmd`, from where the arguments are counted. -/
def getdateArgs (argc : ℕ) (s : Console) : Option (Console × List ConsoleText) :=
  if argc = 1 then
    match longintAt s.arguments 0 (nameBytes "[timestamp]") with
    | none => none
    | some (.error text) => some (s, [.longint text])
    | some (.ok t) =>
        if validTimestamp t then some (s, [.date (getSolar48Date (UInt32.ofNat t.toNat))])
        else some (s, [.timestampRange])
  else if argc ≠ 0 then some (s, [.getdateTooMany argc])
  else some (s, [.date (getSolar48Date s.clock)])

/-- `CMD_BEGIN_ARG`. -/
def cmdBeginArg (name : String) (body : ℕ → Console → Option (Console × List ConsoleText))
    (argument : Mem) (s : Console) : Option (Console × List ConsoleText) :=
  match buildArgc argument s.arguments with
  | none => none
  | some (arguments, argc) =>
      let s := { s with arguments }
      if !compArgumentCommand name arguments then some (s, [.didYouMean name]) else body argc s

/-- `setdate_cmd`. -/
def setdateCmd : Mem → Console → Option (Console × List ConsoleText) :=
  cmdBeginArg "setdate" setdateArgs

/-- `getdate_cmd`. -/
def getdateCmd : Mem → Console → Option (Console × List ConsoleText) :=
  cmdBeginArg "getdate" getdateArgs

/-- The handlers.  Those of the other commands do not set the clock; what they do besides, and what
they print, is left out. -/
def dateHandler (c : Command) : Mem → Console → Option (Console × List ConsoleText) :=
  match c with
  | .setdate => setdateCmd
  | .getdate => getdateCmd
  | _ => fun argument s =>
      (buildArgc argument s.arguments).map fun r => ({ s with arguments := r.1 }, [])

/-- The `COMMAND_CHECK_CALL_ARG` lines. -/
def callCommand (text : Mem) (s : Console) :
    List (Command × String) → Option (Console × List ConsoleText)
  | [] => some (s, [])
  | c :: table =>
      if strncmpEq text (stringMem (nameBytes c.2)) (nameBytes c.2).length 0 then
        dateHandler c.1 text s
      else callCommand text s table

/-- `usb_receive_complete_process`. -/
def consoleLine (text : Mem) (textSz : ℕ) (s : Console) : Option (Console × List ConsoleText) :=
  if textSz ≤ 2 then some (s, []) else callCommand text s commandTable

/-- The receiver, and the console behind it. -/
structure ConsoleSystem where
  usb : UsbState
  console : Console

inductive ConsoleEvent
  /-- a packet is taken, and its line is executed within a second, with one reading of the clock -/
  | packet (packet : List UInt8)
  /-- the clock counts a second -/
  | second
  deriving DecidableEq

def consoleStep (e : ConsoleEvent) (s : ConsoleSystem) :
    Option (ConsoleSystem × List ConsoleText) :=
  match e with
  | .packet packet =>
      let usb := usbReceive packet false s.usb
      (consoleLine usb.text usb.textSz s.console).map fun r =>
        ({ usb := { usb with usbIoLocked := false }, console := r.1 }, r.2)
  | .second => some ({ s with console.clock := s.console.clock + 1 }, [])

instance (sd : Solar48Date) : Decidable (Representable sd) :=
  decidable_of_iff
    ((sd.hour.toNat < 24 ∧ sd.minute.toNat < 60 ∧ sd.second.toNat < 60) ∧
      (1970 ≤ sd.year.toNat ∧ 1 ≤ sd.month.toNat ∧ sd.month.toNat ≤ 12) ∧
      1 ≤ sd.day.toNat ∧ sd.day.toNat ≤ monthLength sd.year.toNat sd.month.toNat ∧
      dateSeconds sd ≤ 2 ^ 32 - 1)
    ⟨fun ⟨⟨hh, hm, hs⟩, ⟨hy, hmo, hmo'⟩, hd, hd', ht⟩ => ⟨hh, hm, hs, hy, hmo, hmo', hd, hd', ht⟩,
      fun h => ⟨⟨h.hour_lt, h.minute_lt, h.second_lt⟩, ⟨h.year_ge, h.month_pos, h.month_le⟩,
        h.day_pos, h.day_le, h.seconds_le⟩⟩

/-- The line begins with the name, and its first token is the name. -/
def Names (line : List UInt8) (name : String) : Prop :=
  nameBytes name <+: line ∧ (tokens space line).head? = some (nameBytes name)

instance (line : List UInt8) (name : String) : Decidable (Names line name) :=
  inferInstanceAs (Decidable (_ ∧ _))

/-- The date that the arguments of `setdate` ask for: three to six integers, in the ranges. -/
def datesOf (ws : List (List UInt8)) : Option Solar48Date :=
  if 3 ≤ ws.length ∧ ws.length ≤ 6 then
    (ws.mapM intValue).bind fun vals => if InCalendar vals then some (dateOf vals) else none
  else none

/-- The date that a line asks the clock to be set to. -/
def setdateAsks (line : List UInt8) : Option Solar48Date :=
  if Names line "setdate" then datesOf (lineArguments line) else none

/-- The timestamp that the arguments of `getdate` ask for. -/
def timestampOf (clock : UInt32) : List (List UInt8) → Option UInt32
  | [] => some clock
  | [w] =>
      (intValue w).bind fun v =>
        if 0 ≤ v ∧ v ≤ longMax then some (UInt32.ofNat v.toNat) else none
  | _ => none

/-- The date that a line asks to be shown. -/
def getdateAsks (line : List UInt8) (clock : UInt32) : Option Solar48Date :=
  if Names line "getdate" then (timestampOf clock (lineArguments line)).map getSolar48Date else none

/-- The clock after it was asked to be set, and the date that is shown then. -/
def setTo (sd : Solar48Date) (clock : UInt32) : UInt32 × Option Solar48Date :=
  if Representable sd then
    (UInt32.ofNat (dateSeconds sd), some (getSolar48Date (UInt32.ofNat (dateSeconds sd))))
  else (clock, none)

/-- What a line does to the clock, and the date that it shows. -/
def lineClock (line : List UInt8) (clock : UInt32) : UInt32 × Option Solar48Date :=
  match setdateAsks line with
  | some sd => setTo sd clock
  | none => (clock, getdateAsks line clock)

/-- The date in a text. -/
def ConsoleText.shown : ConsoleText → Option Solar48Date
  | .date sd => some sd
  | _ => none

variable {args : Arguments} {ws : List (List UInt8)} {names : List String} {vals vs : List ℤ}
  {s : Console} {text : Mem} {l : List UInt8} {textSz : ℕ}

/-! ### The numbers -/

/-- The numbers of arguments, up to the first that is none. -/
def longsOf : List (List UInt8) → List String → Except LongintText (List ℤ)
  | _, [] => .ok []
  | [], _ :: names => (longsOf [] names).map (0 :: ·)
  | w :: ws, name :: names =>
      match longOf (nameBytes name) w with
      | .error text => .error text
      | .ok val => (longsOf ws names).map (val :: ·)

theorem longints_eq
    (hargs : ∀ i < ws.length, ∀ name, longintAt args i name = some (longOf name (ws.getD i [])))
    (i : ℕ) (names : List String) :
    longints args ws.length i names = some (longsOf (ws.drop i) names) := by
  induction names generalizing i with
  | nil =>
      rw [longints]
      cases ws.drop i <;> rfl
  | cons name names ih =>
      rw [longints]
      by_cases hi : i < ws.length
      · rw [if_pos hi, hargs i hi, List.drop_eq_getElem_cons hi, longsOf,
          List.getD_eq_getElem _ _ hi]
        cases longOf (nameBytes name) ws[i] with
        | error text => rfl
        | ok val =>
            dsimp only
            rw [ih (i + 1)]
            rfl
      · have hnil : ws.drop i = [] := List.drop_eq_nil_of_le (by omega)
        have hnil' : ws.drop (i + 1) = [] := List.drop_eq_nil_of_le (by omega)
        rw [if_neg hi, hnil, longsOf]
        dsimp only
        rw [ih (i + 1), hnil']
        rfl

/-- What is missing counts as zero. -/
theorem longsOf_nil (names : List String) :
    longsOf [] names = .ok (List.replicate names.length 0) := by
  induction names with
  | nil => rfl
  | cons name names ih =>
      rw [longsOf, ih]
      rfl

theorem longOf_eq_ok_iff {name w : List UInt8} {v : ℤ} :
    longOf name w = .ok v ↔ intValue w = some v ∧ longMin ≤ v ∧ v ≤ longMax := by
  rw [longOf]
  cases intValue w with
  | none => simp
  | some u =>
      dsimp only
      split
      · rename_i hu
        simp only [Except.ok.injEq, Option.some.injEq]
        constructor
        · rintro rfl
          exact ⟨rfl, hu⟩
        · exact fun h => h.1
      · rename_i hu
        simp only [reduceCtorEq, Option.some.injEq, false_iff]
        rintro ⟨rfl, hv⟩
        exact hu hv

theorem mapM_cons_eq_some_iff {w : List UInt8} : (w :: ws).mapM intValue = some vs ↔
    ∃ v, intValue w = some v ∧ ∃ rest, ws.mapM intValue = some rest ∧ v :: rest = vs := by
  simp [Option.bind_eq_some_iff]

/-- **The arguments are numbers** if they are integers that a `long` can hold. -/
theorem longsOf_eq_ok (hlen : ws.length ≤ names.length) (hvs : ws.mapM intValue = some vs)
    (hlong : ∀ v ∈ vs, longMin ≤ v ∧ v ≤ longMax) :
    longsOf ws names = .ok (vs ++ List.replicate (names.length - ws.length) 0) := by
  induction names generalizing ws vs with
  | nil =>
      obtain rfl : ws = [] := List.length_eq_zero_iff.1 (by simpa using hlen)
      obtain rfl : [] = vs := by simpa using hvs
      rfl
  | cons name names ih =>
      cases ws with
      | nil =>
          obtain rfl : [] = vs := by simpa using hvs
          exact longsOf_nil (name :: names)
      | cons w ws =>
          obtain ⟨v, hv, rest, hrest, rfl⟩ := mapM_cons_eq_some_iff.1 hvs
          have hok : longOf (nameBytes name) w = .ok v :=
            longOf_eq_ok_iff.2 ⟨hv, hlong v List.mem_cons_self⟩
          have htail := ih (Nat.le_of_succ_le_succ hlen) hrest
            fun u hu => hlong u (List.mem_cons_of_mem v hu)
          rw [longsOf, hok]
          dsimp only
          rw [htail, List.length_cons, List.length_cons, Nat.add_sub_add_right]
          rfl

/-- And only then. -/
theorem mapM_of_longsOf (hlen : ws.length ≤ names.length) (h : longsOf ws names = .ok vals) :
    ∃ vs, ws.mapM intValue = some vs ∧
      vals = vs ++ List.replicate (names.length - ws.length) 0 := by
  induction names generalizing ws vals with
  | nil =>
      obtain rfl : ws = [] := List.length_eq_zero_iff.1 (by simpa using hlen)
      obtain rfl : [] = vals := Except.ok.inj h
      exact ⟨[], by simp, rfl⟩
  | cons name names ih =>
      cases ws with
      | nil =>
          rw [longsOf_nil] at h
          exact ⟨[], by simp, (Except.ok.inj h).symm⟩
      | cons w ws =>
          rw [longsOf] at h
          cases hw : longOf (nameBytes name) w with
          | error text =>
              rw [hw] at h
              cases h
          | ok v =>
              rw [hw] at h
              dsimp only at h
              cases hws : longsOf ws names with
              | error text =>
                  rw [hws] at h
                  cases h
              | ok rest =>
                  rw [hws] at h
                  obtain rfl : v :: rest = vals := Except.ok.inj h
                  obtain ⟨vs, hvs, rfl⟩ := ih (Nat.le_of_succ_le_succ hlen) hws
                  refine ⟨v :: vs, mapM_cons_eq_some_iff.2 ⟨v, (longOf_eq_ok_iff.1 hw).1, vs,
                    hvs, rfl⟩, ?_⟩
                  rw [List.length_cons, List.length_cons, Nat.add_sub_add_right]
                  rfl

/-- Zeros at the end do not matter. -/
theorem getD_append_zeros (vs : List ℤ) (n i : ℕ) :
    (vs ++ List.replicate n 0).getD i 0 = vs.getD i 0 := by
  rcases Nat.lt_or_ge i vs.length with hlt | hge
  · rw [List.getD_append _ _ _ _ hlt]
  · rw [List.getD_append_right _ _ _ _ hge, List.getD_eq_default _ _ hge]
    by_cases hn : i - vs.length < n
    · exact List.getD_replicate 0 hn
    · exact List.getD_eq_default _ _ (by simpa using hn)

theorem inCalendar_append_zeros (vs : List ℤ) (n : ℕ) :
    InCalendar (vs ++ List.replicate n 0) ↔ InCalendar vs := by
  simp only [InCalendar, getD_append_zeros]

theorem dateOf_append_zeros (vs : List ℤ) (n : ℕ) :
    dateOf (vs ++ List.replicate n 0) = dateOf vs := by
  simp only [dateOf, getD_append_zeros]

/-- What is in the ranges is a `long`. -/
theorem InCalendar.isLong (h : InCalendar vs) (hlen : vs.length ≤ 6) :
    ∀ v ∈ vs, longMin ≤ v ∧ v ≤ longMax := by
  have hmin : longMin = -2147483648 := rfl
  have hmax : longMax = 2147483647 := rfl
  intro v hv
  obtain ⟨i, hi, rfl⟩ := List.getElem_of_mem hv
  rw [← List.getD_eq_getElem vs 0 hi]
  obtain ⟨h0, h1, h2, h3, h4, h5⟩ := h
  have hcases : i = 0 ∨ i = 1 ∨ i = 2 ∨ i = 3 ∨ i = 4 ∨ i = 5 := by omega
  rcases hcases with rfl | rfl | rfl | rfl | rfl | rfl <;> omega

theorem length_of_mapM (hvs : ws.mapM intValue = some vs) : vs.length = ws.length := by
  induction ws generalizing vs with
  | nil =>
      obtain rfl : [] = vs := by simpa using hvs
      rfl
  | cons w ws ih =>
      obtain ⟨v, -, rest, hrest, rfl⟩ := mapM_cons_eq_some_iff.1 hvs
      rw [List.length_cons, ih hrest, List.length_cons]

/-! ### The two commands -/

/-- **`setdate` on any arguments.** -/
theorem setdateArgs_eq (hargs : ∀ i < ws.length, ∀ name,
      longintAt s.arguments i name = some (longOf name (ws.getD i []))) :
    ∃ s' texts, setdateArgs ws.length s = some (s', texts) ∧
      (s'.clock, texts.filterMap ConsoleText.shown) =
        match datesOf ws with
        | some sd => ((setTo sd s.clock).1, (setTo sd s.clock).2.toList)
        | none => (s.clock, []) := by
  rw [setdateArgs, datesOf]
  by_cases hzero : ws.length = 0
  · rw [if_pos hzero, if_neg (by omega)]
    exact ⟨s, _, rfl, rfl⟩
  by_cases hfew : ws.length < 3
  · rw [if_neg hzero, if_pos hfew, if_neg (by omega)]
    exact ⟨s, _, rfl, rfl⟩
  by_cases hmany : ws.length > 6
  · rw [if_neg hzero, if_neg hfew, if_pos hmany, if_neg (by omega)]
    exact ⟨s, _, rfl, rfl⟩
  have hlen : ws.length ≤ setdateNames.length := not_lt.1 hmany
  rw [if_neg hzero, if_neg hfew, if_neg hmany, if_pos (by omega), longints_eq hargs, List.drop_zero]
  cases hlongs : longsOf ws setdateNames with
  | error text =>
      refine ⟨s, _, rfl, ?_⟩
      -- numbers in the ranges would have been read
      have hnone : ((ws.mapM intValue).bind fun vals =>
          if InCalendar vals then some (dateOf vals) else none) = none := by
        rw [Option.bind_eq_none_iff]
        intro vs hvs
        refine if_neg fun hin => ?_
        have hok := longsOf_eq_ok hlen hvs (hin.isLong (by rw [length_of_mapM hvs]; omega))
        rw [hlongs] at hok
        cases hok
      rw [hnone]
      rfl
  | ok vals =>
      obtain ⟨vs, hvs, rfl⟩ := mapM_of_longsOf hlen hlongs
      rw [hvs]
      dsimp only [Option.bind_some]
      have hiff := inCalendar_append_zeros vs (setdateNames.length - ws.length)
      rw [dateOf_append_zeros]
      by_cases hin : InCalendar vs
      · rw [if_neg (not_not.2 (hiff.2 hin)), if_pos hin]
        dsimp only [setTo]
        by_cases hrep : Representable (dateOf vs)
        · rw [hrep.setDate_eq, if_pos hrep]
          exact ⟨_, _, rfl, rfl⟩
        · have hnone : setDate (dateOf vs) = none := by
            cases hset : setDate (dateOf vs) with
            | none => rfl
            | some t => exact absurd (representable_of_setDate hset).1 hrep
          rw [hnone, if_neg hrep]
          exact ⟨s, _, rfl, rfl⟩
      · rw [if_pos (mt hiff.1 hin), if_neg hin]
        exact ⟨s, _, rfl, rfl⟩

/-- **`getdate` on any arguments.** -/
theorem getdateArgs_eq (hargs : ∀ i < ws.length, ∀ name,
      longintAt s.arguments i name = some (longOf name (ws.getD i []))) :
    ∃ texts, getdateArgs ws.length s = some (s, texts) ∧
      texts.filterMap ConsoleText.shown = ((timestampOf s.clock ws).map getSolar48Date).toList := by
  rcases ws with _ | ⟨w, _ | ⟨w', ws⟩⟩
  · exact ⟨_, rfl, rfl⟩
  · have hlong := hargs 0 (by simp) (nameBytes "[timestamp]")
    rw [List.getD_cons_zero] at hlong
    rw [List.length_singleton, getdateArgs, if_pos rfl, hlong, timestampOf]
    cases hw : longOf (nameBytes "[timestamp]") w with
    | error text =>
        refine ⟨_, rfl, ?_⟩
        have hnone : ((intValue w).bind fun v =>
            if 0 ≤ v ∧ v ≤ longMax then some (UInt32.ofNat v.toNat) else none) = none := by
          rw [Option.bind_eq_none_iff]
          intro v hv
          refine if_neg fun hin => ?_
          have hmin : longMin ≤ v := le_trans (by decide) hin.1
          have hok : longOf (nameBytes "[timestamp]") w = .ok v :=
            longOf_eq_ok_iff.2 ⟨hv, hmin, hin.2⟩
          rw [hw] at hok
          cases hok
        rw [hnone]
        rfl
    | ok v =>
        obtain ⟨hv, -, hmax⟩ := longOf_eq_ok_iff.1 hw
        have hlong : longMax = 2147483647 := rfl
        rw [hv]
        dsimp only [Option.bind_some]
        by_cases hpos : 0 ≤ v
        · have hvalid : validTimestamp v = true := by
            have hle : v ≤ maxTimestampValue := by
              rw [maxTimestampValue]
              omega
            simp [validTimestamp, hpos, hle]
          rw [if_pos hvalid, if_pos ⟨hpos, hmax⟩]
          exact ⟨_, rfl, rfl⟩
        · have hvalid : ¬ validTimestamp v = true := by simp [validTimestamp, hpos]
          rw [if_neg hvalid, if_neg fun hin => hpos hin.1]
          exact ⟨_, rfl, rfl⟩
  · refine ⟨[.getdateTooMany (ws.length + 2)], ?_, rfl⟩
    rw [getdateArgs, List.length_cons, List.length_cons, if_neg (by omega), if_pos (by omega)]

/-- A date that is printed fits into the buffer that it is printed to. -/
theorem length_printed_date (sd : Solar48Date) :
    (ConsoleText.date sd).printed.length < appTxDataSize := by
  have hy : (numeral sd.year.toNat).length ≤ 5 :=
    length_numeral_le (sd.year.toNat_lt.trans (by decide))
  have hbyte : ∀ b : UInt8, (numeral b.toNat).length ≤ 3 := fun b =>
    length_numeral_le (b.toNat_lt.trans (by decide))
  have hmo := hbyte sd.month
  have hd := hbyte sd.day
  have hh := hbyte sd.hour
  have hm := hbyte sd.minute
  have hs := hbyte sd.second
  have hweekday : ∀ i < 8, (nameBytes (weekday i)).length ≤ 3 := by decide
  have hw := hweekday (sd.weekDay.toNat % 8) (Nat.mod_lt _ (by decide))
  have hhead : (nameBytes "\n\n=== SOLAR48 SYSTEM TIME ===\n\n\tDATE (weekday YEAR/MONTH/DAY): ").length
      = 63 := by decide
  have htime : (nameBytes "\n\tTIME hh:mm:ss: ").length = 17 := by decide
  have hspace : (nameBytes " ").length = 1 := rfl
  have hslash : (nameBytes "/").length = 1 := rfl
  have hcolon : (nameBytes ":").length = 1 := rfl
  have hend : (nameBytes "\n\n").length = 2 := rfl
  have hsize : appTxDataSize = 256 := rfl
  simp only [ConsoleText.printed, List.length_append, hhead, htime, hspace, hslash, hcolon, hend,
    hsize]
  omega

/-! ### A line -/

/-- A handler that checks its name, on a line. -/
theorem cmdBeginArg_eq (h : HoldsString text 0 l) (hle : l.length ≤ 255) {name : String}
    (hname : IsName name) (body : ℕ → Console → Option (Console × List ConsoleText))
    (s : Console) :
    ∃ args, cmdBeginArg name body text s =
        (if (tokens space l).head? = some (nameBytes name) then
          body (lineArguments l).length { s with arguments := args }
        else some ({ s with arguments := args }, [.didYouMean name])) ∧
      ∀ i < (lineArguments l).length, ∀ n,
        longintAt args i n = some (longOf n ((lineArguments l).getD i [])) := by
  obtain ⟨args, hbuild, hfirst, hargs⟩ := buildArgc_longintAt h hle s.arguments
  have hcomp : compArgumentCommand name args = true ↔
      (tokens space l).head? = some (nameBytes name) := by
    rw [compArgumentCommand, strncmpEq_length_succ_iff (holdsString_stringMem hname.2.2) hfirst]
    cases tokens space l with
    | nil => simp [hname.1.symm]
    | cons w rest => simp
  refine ⟨args, ?_, hargs⟩
  rw [cmdBeginArg, hbuild]
  by_cases hhead : (tokens space l).head? = some (nameBytes name)
  · simp [hhead, hcomp.2 hhead]
  · simp [hhead, Bool.eq_false_iff.2 (mt hcomp.1 hhead)]

/-- The handler called is the one of the first name that the line begins with. -/
theorem callCommand_eq (h : HoldsString text 0 l) (s : Console)
    {table : List (Command × String)} (hnames : ∀ e ∈ table, IsName e.2) :
    callCommand text s table =
      match table.find? fun c => (nameBytes c.2).isPrefixOf l with
      | none => some (s, [])
      | some c => dateHandler c.1 text s := by
  induction table with
  | nil => rfl
  | cons c table ih =>
      have hname := hnames c (List.mem_cons_self)
      have hiff := strncmpEq_length_iff h (holdsString_stringMem hname.2.2)
      rw [callCommand, List.find?_cons]
      by_cases hpre : nameBytes c.2 <+: l
      · rw [if_pos (hiff.2 hpre), List.isPrefixOf_iff_prefix.2 hpre]
      · rw [if_neg fun heq => hpre (hiff.1 heq), isPrefixOf_eq_false hpre]
        exact ih fun e he => hnames e (List.mem_cons_of_mem c he)

/-- A line that begins with a name and has it as its first token: a space is behind it, or
nothing. -/
theorem Names.exists_rest {name : String} (h : Names l name) (hname : IsName name) :
    ∃ rest, l = nameBytes name ++ rest ∧ (rest = [] ∨ rest.head? = some space) := by
  obtain ⟨⟨rest, rfl⟩, hhead⟩ := h
  refine ⟨rest, rfl, ?_⟩
  have hne : nameBytes name ++ rest ≠ [] := by simp [hname.1]
  have hfirst : (nameBytes name ++ rest).head? ≠ some space := by
    intro hspace
    rw [List.head?_append_of_ne_nil _ hname.1] at hspace
    exact hname.2.1 (List.mem_of_head? hspace)
  obtain ⟨w, hw, hsep, heq | ⟨n, r, heq, -⟩⟩ := exists_token hne hfirst
  · rw [heq, tokens_of_not_mem hsep hw, List.head?_cons, Option.some.injEq] at hhead
    rw [hhead] at heq
    exact Or.inl (List.append_right_eq_self.1 heq)
  · rw [heq, tokens_append_cons hsep hw, List.head?_cons, Option.some.injEq] at hhead
    rw [hhead, List.append_cancel_left_eq] at heq
    exact Or.inr (by rw [heq]; rfl)

/-- Which of the two commands a line is. -/
theorem Names.find? {e : Command × String} (h : Names l e.2) (he : e ∈ commandTable) :
    commandTable.find? (fun c => (nameBytes c.2).isPrefixOf l) = some e := by
  obtain ⟨rest, hl, hrest⟩ := h.exists_rest (commandTable_isName e he)
  exact find?_of_name commandTable_isName commandTable_pairwise he hl hrest

/-- A line that is neither of the two. -/
theorem lineClock_of_not_names (hset : ¬ Names l "setdate") (hget : ¬ Names l "getdate")
    (clock : UInt32) : lineClock l clock = (clock, none) := by
  rw [lineClock, setdateAsks, if_neg hset]
  dsimp only
  rw [getdateAsks, if_neg hget]

/-- What is called for it leaves the clock alone. -/
theorem dateHandler_of_ne {c : Command} (hset : c ≠ .setdate) (hget : c ≠ .getdate) (text : Mem)
    (s : Console) :
    dateHandler c text s =
      (buildArgc text s.arguments).map fun r => ({ s with arguments := r.1 }, []) := by
  cases c with
  | setdate => exact absurd rfl hset
  | getdate => exact absurd rfl hget
  | _ => rfl

/-- The two commands have one name each. -/
theorem commandTable_names : ∀ e ∈ commandTable, (e.1 = .setdate → e.2 = "setdate") ∧
    (e.1 = .getdate → e.2 = "getdate") := by decide

/-- `setdate` on a line that begins with its name. -/
theorem setdateCmd_eq (h : HoldsString text 0 l) (hle : l.length ≤ 255)
    (hpre : nameBytes "setdate" <+: l) (hget : ¬ Names l "getdate") (s : Console) :
    ∃ s' texts, setdateCmd text s = some (s', texts) ∧
      (s'.clock, texts.filterMap ConsoleText.shown) =
        ((lineClock l s.clock).1, (lineClock l s.clock).2.toList) := by
  obtain ⟨args, hbegin, hargs⟩ := cmdBeginArg_eq h hle (by decide : IsName "setdate") setdateArgs s
  rw [setdateCmd, hbegin]
  by_cases hhead : (tokens space l).head? = some (nameBytes "setdate")
  · have hnames : Names l "setdate" := ⟨hpre, hhead⟩
    rw [if_pos hhead]
    obtain ⟨s', texts, hrun, heq⟩ := setdateArgs_eq (s := { s with arguments := args }) hargs
    refine ⟨s', texts, hrun, heq.trans ?_⟩
    rw [lineClock, setdateAsks, if_pos hnames]
    cases datesOf (lineArguments l) with
    | none =>
        dsimp only
        rw [getdateAsks, if_neg hget]
        rfl
    | some sd => rfl
  · rw [if_neg hhead, lineClock_of_not_names (fun hnames => hhead hnames.2) hget]
    exact ⟨_, _, rfl, rfl⟩

/-- `getdate` on a line that begins with its name. -/
theorem getdateCmd_eq (h : HoldsString text 0 l) (hle : l.length ≤ 255)
    (hpre : nameBytes "getdate" <+: l) (hset : ¬ Names l "setdate") (s : Console) :
    ∃ s' texts, getdateCmd text s = some (s', texts) ∧
      (s'.clock, texts.filterMap ConsoleText.shown) =
        ((lineClock l s.clock).1, (lineClock l s.clock).2.toList) := by
  obtain ⟨args, hbegin, hargs⟩ := cmdBeginArg_eq h hle (by decide : IsName "getdate") getdateArgs s
  rw [getdateCmd, hbegin]
  by_cases hhead : (tokens space l).head? = some (nameBytes "getdate")
  · have hnames : Names l "getdate" := ⟨hpre, hhead⟩
    rw [if_pos hhead]
    obtain ⟨texts, hrun, heq⟩ := getdateArgs_eq (s := { s with arguments := args }) hargs
    refine ⟨_, texts, hrun, ?_⟩
    rw [lineClock, setdateAsks, if_neg hset, heq]
    dsimp only
    rw [getdateAsks, if_pos hnames]
  · rw [if_neg hhead, lineClock_of_not_names hset fun hnames => hhead hnames.2]
    exact ⟨_, _, rfl, rfl⟩

/-- **What a line does to the clock, and which date it shows.** -/
theorem consoleLine_eq (h : HoldsString text 0 l) (hle : l.length ≤ 255) (hsz : l.length ≤ textSz)
    (s : Console) :
    ∃ s' texts, consoleLine text textSz s = some (s', texts) ∧
      (s'.clock, texts.filterMap ConsoleText.shown) =
        ((lineClock l s.clock).1, (lineClock l s.clock).2.toList) := by
  have hset : (Command.setdate, "setdate") ∈ commandTable := by decide
  have hget : (Command.getdate, "getdate") ∈ commandTable := by decide
  rw [consoleLine]
  by_cases hshort : textSz ≤ 2
  · -- no name fits into it
    have hlong : ∀ e ∈ commandTable, ¬ Names l e.2 := by
      intro e he hnames
      have hlen := hnames.1.length_le
      have htwo := commandTable_length e he
      omega
    rw [if_pos hshort, lineClock_of_not_names (hlong _ hset) (hlong _ hget)]
    exact ⟨s, [], rfl, rfl⟩
  rw [if_neg hshort, callCommand_eq h s commandTable_isName]
  cases hfind : commandTable.find? fun c => (nameBytes c.2).isPrefixOf l with
  | none =>
      have hnone : ∀ e ∈ commandTable, ¬ Names l e.2 := by
        intro e he hnames
        rw [hnames.find? he] at hfind
        cases hfind
      rw [lineClock_of_not_names (hnone _ hset) (hnone _ hget)]
      exact ⟨s, [], rfl, rfl⟩
  | some e =>
      have he := List.mem_of_find?_eq_some hfind
      have hfound : (nameBytes e.2).isPrefixOf l = true := by simpa using List.find?_some hfind
      have hpre : nameBytes e.2 <+: l := List.isPrefixOf_iff_prefix.1 hfound
      have hother : ∀ d ∈ commandTable, Names l d.2 → d = e := by
        intro d hd hnames
        rw [hnames.find? hd] at hfind
        exact Option.some.inj hfind
      dsimp only
      by_cases hcset : e.1 = .setdate
      · obtain rfl : e = (.setdate, "setdate") :=
          Prod.ext hcset ((commandTable_names e he).1 hcset)
        refine setdateCmd_eq h hle hpre ?_ s
        intro hnames
        cases hother _ hget hnames
      by_cases hcget : e.1 = .getdate
      · obtain rfl : e = (.getdate, "getdate") :=
          Prod.ext hcget ((commandTable_names e he).2 hcget)
        refine getdateCmd_eq h hle hpre ?_ s
        intro hnames
        cases hother _ hset hnames
      · have hnset : ¬ Names l "setdate" := fun hnames => hcset (by rw [← hother _ hset hnames])
        have hnget : ¬ Names l "getdate" := fun hnames => hcget (by rw [← hother _ hget hnames])
        obtain ⟨args, hbuild, -, -⟩ := buildArgc_longintAt h hle s.arguments
        rw [dateHandler_of_ne hcset hcget, hbuild, lineClock_of_not_names hnset hnget]
        exact ⟨_, _, rfl, rfl⟩

/-! ### Packets and seconds -/

/-- **What a packet does.** -/
theorem consoleStep_packet {s : ConsoleSystem} (h : s.usb.usbIoLocked = false)
    (packet : List UInt8) :
    ∃ s' texts, consoleStep (.packet packet) s = some (s', texts) ∧ s'.usb.usbIoLocked = false ∧
      (s'.console.clock, texts.filterMap ConsoleText.shown) =
        ((lineClock (packetLine packet) s.console.clock).1,
          (lineClock (packetLine packet) s.console.clock).2.toList) := by
  obtain ⟨hsz, htext⟩ := holdsString_usbReceive h packet
  have hle := length_packetLine_le packet
  have hsize : (packetLine packet).length ≤ (usbReceive packet false s.usb).textSz := by
    rw [hsz]
    exact le_min (length_packetLine_le_packet packet) hle
  obtain ⟨c, texts, hline, heq⟩ := consoleLine_eq htext hle hsize s.console
  refine ⟨{ usb := { usbReceive packet false s.usb with usbIoLocked := false }, console := c },
    texts, ?_, rfl, heq⟩
  rw [consoleStep, hline]
  rfl

/-- The members that a user types in, in their order. -/
def Solar48Date.members (sd : Solar48Date) : List ℕ :=
  [sd.year.toNat, sd.month.toNat, sd.day.toNat, sd.hour.toNat, sd.minute.toNat, sd.second.toNat]

/-- The line that asks for a date. -/
def retyped (sd : Solar48Date) : List UInt8 :=
  nameBytes "setdate" ++ (sd.members.map numeral).flatMap fun w => space :: w

/-- A second whose date is encoded as it was decoded: not one of the first day of a year, and in a
leap year one of January. -/
def KeepsDate (t : UInt32) : Prop :=
  1 ≤ dayIndex t ∧ (dayIndex t ≤ 31 ∨ ¬ Leap (getSolar48Date t).year.toNat)

instance (t : UInt32) : Decidable (KeepsDate t) := inferInstanceAs (Decidable (_ ∧ _))

/-- The time of day is encoded as it was decoded. -/
theorem secondOfDay_shown (t : UInt32) :
    3600 * (getSolar48Date t).hour.toNat + 60 * (getSolar48Date t).minute.toNat +
      (getSolar48Date t).second.toNat = t.toNat % 86400 := by
  have hhour : (getSolar48Date t).hour =
      UInt8.ofNat (t.toNat % yearsInSeconds % daysInSeconds / hoursInSeconds) := rfl
  have hminute : (getSolar48Date t).minute =
      UInt8.ofNat (t.toNat % yearsInSeconds % daysInSeconds % hoursInSeconds / 60) := rfl
  have hsecond : (getSolar48Date t).second =
      UInt8.ofNat (t.toNat % yearsInSeconds % daysInSeconds % hoursInSeconds % 60) := rfl
  rw [hhour, hminute, hsecond, UInt8.toNat_ofNat', UInt8.toNat_ofNat', UInt8.toNat_ofNat']
  simp only [yearsInSeconds, daysInSeconds, hoursInSeconds, minutesInSeconds]
  omega

/-- **What the date that is shown is encoded as**: the same second, or the one a day later. -/
theorem dateSeconds_shown (t : UInt32) :
    dateSeconds (getSolar48Date t) = t.toNat + if KeepsDate t then 0 else 86400 := by
  have htime := secondOfDay_shown t
  have hyear := year_toNat t
  obtain ⟨hmonth, hday⟩ := month_day_toNat t
  have hsplit : t.toNat = 31536000 * (t.toNat / yearsInSeconds) + 86400 * dayIndex t +
      t.toNat % 86400 := by
    simp only [dayIndex, yearsInSeconds, daysInSeconds, hoursInSeconds, minutesInSeconds]
    omega
  rw [dateSeconds]
  obtain ⟨hm, hd, hle⟩ | ⟨hm, -, hd, -, hsum⟩ :=
    monthAndDay_spec (isLeapYear (getSolar48Date t).year.toNat) (dayIndex_lt t)
  · rw [if_neg (by omega), hday, hd]
    by_cases hzero : 1 ≤ dayIndex t
    · rw [if_pos ⟨hzero, Or.inl hle⟩]
      omega
    · rw [if_neg fun hkeeps => hzero hkeeps.1]
      omega
  · have hlate : ¬ dayIndex t ≤ 31 := by
      intro hle
      rw [monthAndDay_january _ hle] at hm
      dsimp only at hm
      omega
    rw [← hmonth] at hm hsum
    rw [if_pos (by omega)]
    by_cases hleap : Leap (getSolar48Date t).year.toNat
    · rw [if_pos hleap, if_neg fun hkeeps => hkeeps.2.elim hlate fun hcommon => hcommon hleap]
      omega
    · rw [if_neg hleap, if_pos ⟨by omega, Or.inr hleap⟩]
      omega

/-- The clock can hold the date that is shown, if it can hold that number of seconds. -/
theorem representable_shown (t : UInt32) :
    Representable (getSolar48Date t) ↔ dateSeconds (getSolar48Date t) ≤ 2 ^ 32 - 1 := by
  constructor
  · exact Representable.seconds_le
  · intro hle
    obtain ⟨hhour, hminute, hsecond, hyear, hmonth, hmonth', hday, -⟩ := getSolar48Date_valid t
    exact ⟨hhour, hminute, hsecond, hyear, hmonth, hmonth', hday, day_le_monthLength t, hle⟩

/-- The tokens of the line. -/
theorem tokens_retyped (sd : Solar48Date) :
    tokens space (retyped sd) = nameBytes "setdate" :: sd.members.map numeral := by
  refine tokens_append_flatMap (by decide) (by decide) ?_
  intro w hw
  obtain ⟨n, -, rfl⟩ := List.mem_map.1 hw
  refine ⟨fun hspace => ?_, (isNumeral_numeral n).1⟩
  exact absurd ((isNumeral_numeral n).2 space hspace) (by decide)

theorem lineArguments_retyped (sd : Solar48Date) :
    lineArguments (retyped sd) = sd.members.map numeral := by
  have hlast : ¬ EndsInSpace (retyped sd) := by
    rintro ⟨hone, -⟩
    rw [tokens_retyped] at hone
    exact absurd hone (by simp [Solar48Date.members])
  rw [lineArguments, if_neg hlast, tokens_retyped, List.tail_cons]
  rfl

theorem names_retyped (sd : Solar48Date) : Names (retyped sd) "setdate" :=
  ⟨List.prefix_append _ _, by rw [tokens_retyped]; rfl⟩

/-- Numerals are read as the numbers that were written. -/
theorem mapM_numeral (ns : List ℕ) :
    (ns.map numeral).mapM intValue = some (ns.map fun n : ℕ => (n : ℤ)) := by
  induction ns with
  | nil => rfl
  | cons n ns ih =>
      rw [List.map_cons, mapM_cons_eq_some_iff]
      refine ⟨n, ?_, _, ih, rfl⟩
      rw [intValue_of_isNumeral (isNumeral_numeral n), value_numeral]

/-- **The line asks for the date**, whatever the day of the week is. -/
theorem setdateAsks_retyped (sd : Solar48Date) :
    setdateAsks (retyped sd) = some { sd with weekDay := 0 } := by
  have hy := sd.year.toNat_lt
  have hmo := sd.month.toNat_lt
  have hd := sd.day.toNat_lt
  have hh := sd.hour.toNat_lt
  have hm := sd.minute.toNat_lt
  have hs := sd.second.toNat_lt
  have hin : InCalendar (sd.members.map fun n : ℕ => (n : ℤ)) := by
    simp only [InCalendar, Solar48Date.members, List.map_cons, List.getD_cons_zero,
      List.getD_cons_succ]
    omega
  have hdate : dateOf (sd.members.map fun n : ℕ => (n : ℤ)) = { sd with weekDay := 0 } := by
    simp [dateOf, Solar48Date.members]
  rw [setdateAsks, if_pos (names_retyped sd), lineArguments_retyped, datesOf,
    if_pos (by simp [Solar48Date.members]), mapM_numeral, Option.bind_some, if_pos hin, hdate]

/-- It has characters of one line, and not too many. -/
theorem mem_retyped {sd : Solar48Date} {c : UInt8} (hc : c ∈ retyped sd) :
    inLine c = true ∧ c ≠ 0 := by
  have hall : (nameBytes "setdate").all (fun c => inLine c && c != 0) = true := rfl
  rcases List.mem_append.1 hc with hname | hargs
  · simpa using List.all_eq_true.1 hall c hname
  · obtain ⟨w, hw, hmem⟩ := List.mem_flatMap.1 hargs
    obtain ⟨n, -, rfl⟩ := List.mem_map.1 hw
    rcases List.mem_cons.1 hmem with rfl | hdigit
    · exact ⟨rfl, by decide⟩
    · have hd : IsDigit c := (isNumeral_numeral n).2 c hdigit
      have hne : ∀ d : UInt8, ¬ IsDigit d → c ≠ d := by
        rintro d hnd rfl
        exact hnd hd
      simp [inLine, hne 13 (by decide), hne 10 (by decide), hne 0 (by decide)]

theorem length_retyped_le (sd : Solar48Date) : (retyped sd).length ≤ 253 := by
  have hy : (numeral sd.year.toNat).length ≤ 5 :=
    length_numeral_le (sd.year.toNat_lt.trans (by decide))
  have hbyte : ∀ b : UInt8, (numeral b.toNat).length ≤ 3 := fun b =>
    length_numeral_le (b.toNat_lt.trans (by decide))
  have hmo := hbyte sd.month
  have hd := hbyte sd.day
  have hh := hbyte sd.hour
  have hm := hbyte sd.minute
  have hs := hbyte sd.second
  have hname : (nameBytes "setdate").length = 7 := rfl
  simp only [retyped, Solar48Date.members, List.map_cons, List.map_nil, List.flatMap_cons,
    List.flatMap_nil, List.length_append, List.length_cons, List.length_nil, hname]
  omega

/-- The line is in the packet that it is typed in with. -/
theorem packetLine_retyped (sd : Solar48Date) :
    packetLine (retyped sd ++ [13, 10]) = retyped sd := by
  have hlen := length_retyped_le sd
  have hsize : appTxDataSize = 256 := rfl
  rw [packetLine, List.take_of_length_le (by simp; omega),
    List.takeWhile_append_of_pos fun c hc => (mem_retyped hc).1]
  change (retyped sd ++ []).takeWhile _ = _
  rw [List.append_nil, List.takeWhile_eq_self_iff]
  intro c hc
  simpa using (mem_retyped hc).2

/-- **Typing in the date that is shown**: the clock is set to the second that it is at, or to the
one a day later, or the date is refused. -/
theorem consoleStep_retyped {s : ConsoleSystem} (h : s.usb.usbIoLocked = false) :
    ∃ s' texts,
      consoleStep (.packet (retyped (getSolar48Date s.console.clock) ++ [13, 10])) s =
        some (s', texts) ∧
      (s'.console.clock, texts.filterMap ConsoleText.shown) =
        if KeepsDate s.console.clock then
          (s.console.clock, [getSolar48Date s.console.clock])
        else if s.console.clock.toNat + 86400 ≤ 2 ^ 32 - 1 then
          (s.console.clock + 86400, [getSolar48Date (s.console.clock + 86400)])
        else (s.console.clock, []) := by
  obtain ⟨s', texts, hstep, -, heq⟩ :=
    consoleStep_packet h (retyped (getSolar48Date s.console.clock) ++ [13, 10])
  refine ⟨s', texts, hstep, heq.trans ?_⟩
  generalize s.console.clock = t
  have hlt := t.toNat_lt
  have hseconds := dateSeconds_shown t
  -- the day of the week is not typed in
  have hrep : Representable { getSolar48Date t with weekDay := 0 } ↔
      dateSeconds (getSolar48Date t) ≤ 2 ^ 32 - 1 := by
    rw [← representable_shown]
    exact ⟨fun ⟨a, b, c, d, e, f, g, i, j⟩ => ⟨a, b, c, d, e, f, g, i, j⟩,
      fun ⟨a, b, c, d, e, f, g, i, j⟩ => ⟨a, b, c, d, e, f, g, i, j⟩⟩
  have hsame : dateSeconds { getSolar48Date t with weekDay := 0 } =
      dateSeconds (getSolar48Date t) := rfl
  rw [packetLine_retyped, lineClock, setdateAsks_retyped]
  dsimp only
  rw [setTo, hsame]
  by_cases hkeeps : KeepsDate t
  · rw [if_pos hkeeps, Nat.add_zero] at hseconds
    have hof : UInt32.ofNat t.toNat = t := UInt32.ofNat_toNat
    rw [if_pos (hrep.2 (by omega)), if_pos hkeeps, hseconds, hof]
    rfl
  · rw [if_neg hkeeps] at hseconds
    rw [if_neg hkeeps]
    by_cases hfits : t.toNat + 86400 ≤ 2 ^ 32 - 1
    · have hof : UInt32.ofNat (t.toNat + 86400) = t + 86400 := by
        rw [UInt32.ofNat_add, UInt32.ofNat_toNat]
        rfl
      rw [if_pos (hrep.2 (by omega)), if_pos hfits, hseconds, hof]
      rfl
    · rw [if_neg fun hr => hfits (hseconds ▸ hrep.1 hr), if_neg hfits]
      rfl

/-- On the first day the clock gains a day. -/
theorem consoleStep_retyped_first_day :
    ∃ s' texts, consoleStep (.packet (retyped (getSolar48Date 0) ++ [13, 10]))
        ⟨usbInit, ⟨⟨fun _ => 0, fun _ => none⟩, 0⟩⟩ = some (s', texts) ∧
      (s'.console.clock, texts.filterMap ConsoleText.shown) =
        (86400, [getSolar48Date 86400]) := by
  obtain ⟨s', texts, hstep, heq⟩ :=
    consoleStep_retyped (s := ⟨usbInit, ⟨⟨fun _ => 0, fun _ => none⟩, 0⟩⟩) rfl
  refine ⟨s', texts, hstep, heq.trans ?_⟩
  rw [if_neg (by decide), if_pos (by decide)]
  rfl

end Solar48
