import StmmInputBt.Foundation.Int32
import StmmInputBt.Foundation.OptionRounds
import StmmInputBt.Window.SelectedServer

/-!
# The command line

The options of `stmm-input-btkb` (`main.cc`). A round of the loop in `btkbMain` tries each option
once, in an order of its own, and takes those that happen to come in that order.

The words behind the name of the program are a list, and `Glib::Ascii::strtod` is an argument. A
number that is too great for an `int32_t` passes the test for the least value of its option, but
not the conversion.

## Main definitions

* `btkbMain`: the options, or why the program ends.
* `BtkbOption`, `commandLine`: what the words stand for.
* `BtkbOptions.WithinLimits`: what the servers and the client rely on.
* `NumbersFit`: no number is too great.

## Main results

* `btkbMain_eq_parse`: the order in which options are tried plays no part.
* `withinLimits_of_btkbMain`: values within the limits, if the numbers fit.
-/

namespace StmmInputBt

/-- The variables of `btkbMain` that the options set. -/
structure BtkbOptions where
  timeoutConnect : ℤ
  timeoutSend : ℤ
  interval : ℤ
  noopAfter : ℤ
  n1s28Periods : ℤ
  refreshFlush : Bool
  l2capPort : ℤ
  extraAddr : BdAddr
  deriving DecidableEq

/-- The program ends before it opens a window. -/
inductive BtkbExit
  | usage
  | version
  | failure (sError : String)
  deriving DecidableEq

def BtkbOptions.defaults : BtkbOptions where
  timeoutConnect := 10 * 1000
  timeoutSend := 1 * 1000
  interval := 500
  noopAfter := 5 * 1000
  n1s28Periods := 8
  refreshFlush := false
  l2capPort := 0x20A1
  extraAddr := emptyBdAddr

section Main

variable (oText : AddrText) (strtod : String → Except String Double)

def evalNoArg (sOption1 sOption2 : String) (bVar : Bool) : List String → Bool × List String
  | [] => (bVar, [])
  | sArg :: aArgV =>
    let bIsOption1 := sOption1 = sArg
    if bIsOption1 ∨ (sOption2 ≠ "" ∧ sOption2 = sArg) then (true, aArgV) else (bVar, sArg :: aArgV)

/-- `Error: ... missing argument`. -/
def missingArgument (sOption : String) : BtkbExit :=
  .failure ("Error: " ++ sOption ++ " missing argument")

def evalIntArg (sOption1 sOption2 : String) (nVar nMin : ℤ) :
    List String → Except BtkbExit (ℤ × List String)
  | [] => .ok (nVar, [])
  | sArg :: aArgV =>
    let bIsOption1 := sOption1 = sArg
    if bIsOption1 ∨ (sOption2 ≠ "" ∧ sOption2 = sArg) then
      match aArgV with
      | [] => .error (missingArgument (if bIsOption1 then sOption1 else sOption2))
      | sValue :: aArgV =>
        match strtod sValue with
        | .error sWhat => .error (.failure ("Error: " ++ sWhat))
        | .ok fInterval =>
          .ok (if fInterval.ltInt nMin then nMin else fInterval.ceil.toInt32, aArgV)
    else .ok (nVar, sArg :: aArgV)

def evalAddrArg (sOption1 sOption2 : String) (oBtAddr : BdAddr) :
    List String → Except BtkbExit (BdAddr × List String)
  | [] => .ok (oBtAddr, [])
  | sArg :: aArgV =>
    let bIsOption1 := sOption1 = sArg
    if bIsOption1 ∨ (sOption2 ≠ "" ∧ sOption2 = sArg) then
      match aArgV with
      | [] => .error (missingArgument (if bIsOption1 then sOption1 else sOption2))
      | sAddr :: aArgV =>
        if !ServerTab.isValidStringAddr oText sAddr.toList then
          .error (.failure "Error: invalid bluetooth address")
        else .ok (ServerTab.getAddrFromString oText sAddr.toList, aArgV)
    else .ok (oBtAddr, sArg :: aArgV)

/-- A round of the loop. -/
def evalArgs (o : BtkbOptions) (aArgV : List String) :
    Except BtkbExit (BtkbOptions × List String) :=
  let (bHelp, aArgV) := evalNoArg "--help" "-h" false aArgV
  if bHelp then .error .usage else
  let (bVersion, aArgV) := evalNoArg "--version" "-v" false aArgV
  if bVersion then .error .version else do
  let (bRefreshFlush, aArgV) := evalNoArg "--flush" "-f" o.refreshFlush aArgV
  let (nInterval, aArgV) ← evalIntArg strtod "--interval" "-i" o.interval 50 aArgV
  let (nTimeoutConnect, aArgV) ← evalIntArg strtod "--connect" "-c" o.timeoutConnect 100 aArgV
  let (nTimeoutSend, aArgV) ← evalIntArg strtod "--send" "-s" o.timeoutSend 10 aArgV
  let (nNoopAfter, aArgV) ← evalIntArg strtod "--noop" "-n" o.noopAfter 0 aArgV
  let (n1s28Periods, aArgV) ← evalIntArg strtod "--refresh" "-r" o.n1s28Periods 1 aArgV
  let (nL2capPort, aArgV) ← evalIntArg strtod "--port" "-p" o.l2capPort 0 aArgV
  let (oExtraAddr, aArgV) ← evalAddrArg oText "--extra-server" "-e" o.extraAddr aArgV
  return (⟨nTimeoutConnect, nTimeoutSend, nInterval, nNoopAfter, n1s28Periods, bRefreshFlush,
    nL2capPort, oExtraAddr⟩, aArgV)

def unknownArgument (sArg : String) : BtkbExit := .failure ("Unknown argument: " ++ sArg)

/-- The port is checked when all options are known. -/
def checkPort (o : BtkbOptions) : Except BtkbExit BtkbOptions :=
  if !BtKeyServers.isValidPort o.l2capPort then
    .error (.failure "Error: Port must be odd, from 4097 to 32765")
  else .ok o

/-- The options with which `btkbMain` makes the servers and the client. No option gives words back,
so that the loop ends. -/
def btkbMain (aArgV : List String) : Except BtkbExit BtkbOptions :=
  (OptionTable.whileTaken (evalArgs oText strtod) unknownArgument .defaults aArgV).bind checkPort

end Main

/-! ### The options -/

/-- What the servers and the client rely on, but for the port. -/
structure BtkbOptions.WithinLimits (o : BtkbOptions) : Prop where
  timeoutConnect : 100 ≤ o.timeoutConnect
  timeoutSend : 10 ≤ o.timeoutSend
  interval : 50 ≤ o.interval
  noopAfter : 0 ≤ o.noopAfter
  n1s28Periods : 1 ≤ o.n1s28Periods
  extraAddr : o.extraAddr = emptyBdAddr ∨ BtKeyServers.isValidAddr o.extraAddr

/-- The words that are numbers fit an `int32_t`. -/
def NumbersFit (strtod : String → Except String Double) (aArgV : List String) : Prop :=
  ∀ sValue ∈ aArgV, ∀ fInterval, strtod sValue = .ok fInterval → fInterval.FitsInt32

inductive BtkbOption
  | help
  | version
  | flush
  | interval
  | connect
  | send
  | noop
  | refresh
  | port
  | extraServer
  deriving DecidableEq

namespace BtkbOption

def longName : BtkbOption → String
  | help => "--help"
  | version => "--version"
  | flush => "--flush"
  | interval => "--interval"
  | connect => "--connect"
  | send => "--send"
  | noop => "--noop"
  | refresh => "--refresh"
  | port => "--port"
  | extraServer => "--extra-server"

def shortName : BtkbOption → String
  | help => "-h"
  | version => "-v"
  | flush => "-f"
  | interval => "-i"
  | connect => "-c"
  | send => "-s"
  | noop => "-n"
  | refresh => "-r"
  | port => "-p"
  | extraServer => "-e"

/-- In the order in which a round of the loop tries them. -/
def all : List BtkbOption :=
  [help, version, flush, interval, connect, send, noop, refresh, port, extraServer]

def ofArg (sArg : String) : Option BtkbOption :=
  all.find? fun k => sArg = k.longName || sArg = k.shortName

theorem ofArg_eq_some_iff {sArg : String} {k : BtkbOption} :
    ofArg sArg = some k ↔ k.longName = sArg ∨ k.shortName = sArg := by
  constructor
  · intro h
    have hname := List.find?_some h
    simp only [Bool.or_eq_true, decide_eq_true_eq] at hname
    exact hname.imp Eq.symm Eq.symm
  · rintro (rfl | rfl)
    · cases k <;> rfl
    · cases k <;> rfl

theorem shortName_ne_empty (k : BtkbOption) : k.shortName ≠ "" := by
  cases k <;> decide

theorem mem_all (k : BtkbOption) : k ∈ all := by
  cases k <;> decide

variable (oText : AddrText) (strtod : String → Except String Double)

/-- The number behind an option. -/
def takeInt (nMin : ℤ) (set : ℤ → BtkbOptions) (sArg : String) :
    List String → Except BtkbExit (BtkbOptions × List String)
  | [] => .error (missingArgument sArg)
  | sValue :: aArgV =>
    match strtod sValue with
    | .error sWhat => .error (.failure ("Error: " ++ sWhat))
    | .ok fInterval =>
      .ok (set (if fInterval.ltInt nMin then nMin else fInterval.ceil.toInt32), aArgV)

/-- The address behind an option. -/
def takeAddr (set : BdAddr → BtkbOptions) (sArg : String) :
    List String → Except BtkbExit (BtkbOptions × List String)
  | [] => .error (missingArgument sArg)
  | sAddr :: aArgV =>
    if ServerTab.isValidStringAddr oText sAddr.toList then
      .ok (set (ServerTab.getAddrFromString oText sAddr.toList), aArgV)
    else .error (.failure "Error: invalid bluetooth address")

/-- What an option does, with its name as it is written and the words behind it. -/
def take (k : BtkbOption) (o : BtkbOptions) (sArg : String) (aArgV : List String) :
    Except BtkbExit (BtkbOptions × List String) :=
  match k with
  | help => .error .usage
  | version => .error .version
  | flush => .ok ({ o with refreshFlush := true }, aArgV)
  | interval => takeInt strtod 50 (fun n => { o with interval := n }) sArg aArgV
  | connect => takeInt strtod 100 (fun n => { o with timeoutConnect := n }) sArg aArgV
  | send => takeInt strtod 10 (fun n => { o with timeoutSend := n }) sArg aArgV
  | noop => takeInt strtod 0 (fun n => { o with noopAfter := n }) sArg aArgV
  | refresh => takeInt strtod 1 (fun n => { o with n1s28Periods := n }) sArg aArgV
  | port => takeInt strtod 0 (fun n => { o with l2capPort := n }) sArg aArgV
  | extraServer => takeAddr oText (fun oBtAddr => { o with extraAddr := oBtAddr }) sArg aArgV

variable {oText strtod} {k : BtkbOption} {o o' : BtkbOptions} {sArg : String}
  {aArgV aArgV' : List String}

theorem of_takeInt {nMin : ℤ} (hMin : int32Min ≤ nMin) {set : ℤ → BtkbOptions}
    (h : takeInt strtod nMin set sArg aArgV = .ok (o', aArgV'))
    (hset : ∀ n, nMin ≤ n → o.WithinLimits → (set n).WithinLimits) :
    (NumbersFit strtod aArgV → o.WithinLimits → o'.WithinLimits) ∧ aArgV' <:+ aArgV := by
  cases aArgV with
  | nil => cases h
  | cons sValue rest =>
    rw [takeInt] at h
    split at h
    · cases h
    · next fInterval hvalue =>
      cases h
      refine ⟨fun hfits => hset _ ?_, List.suffix_cons ..⟩
      split_ifs with hlt
      · exact le_rfl
      · exact Double.le_toInt32_ceil (hfits sValue List.mem_cons_self fInterval hvalue) hMin
          (Bool.eq_false_iff.mpr hlt)

theorem of_takeAddr {set : BdAddr → BtkbOptions}
    (h : takeAddr oText set sArg aArgV = .ok (o', aArgV'))
    (hset : ∀ oBtAddr, BtKeyServers.isValidAddr oBtAddr → o.WithinLimits →
      (set oBtAddr).WithinLimits) :
    (o.WithinLimits → o'.WithinLimits) ∧ aArgV' <:+ aArgV := by
  cases aArgV with
  | nil => cases h
  | cons sAddr rest =>
    rw [takeAddr] at h
    split_ifs at h with hvalid
    cases h
    exact ⟨hset _ (ServerSession.isValidAddr_getAddrFromString hvalid), List.suffix_cons ..⟩

/-- An option keeps the limits, if its number fits, and gives no words back. -/
theorem take_eq_ok (h : k.take oText strtod o sArg aArgV = .ok (o', aArgV')) :
    (NumbersFit strtod aArgV → o.WithinLimits → o'.WithinLimits) ∧ aArgV' <:+ aArgV := by
  cases k with
  | help => cases h
  | version => cases h
  | flush =>
    cases h
    exact ⟨fun _ ho => { ho with }, List.suffix_rfl⟩
  | interval =>
    rw [take] at h
    exact of_takeInt (by decide) h fun n hn ho => { ho with interval := hn }
  | connect =>
    rw [take] at h
    exact of_takeInt (by decide) h fun n hn ho => { ho with timeoutConnect := hn }
  | send =>
    rw [take] at h
    exact of_takeInt (by decide) h fun n hn ho => { ho with timeoutSend := hn }
  | noop =>
    rw [take] at h
    exact of_takeInt (by decide) h fun n hn ho => { ho with noopAfter := hn }
  | refresh =>
    rw [take] at h
    exact of_takeInt (by decide) h fun n hn ho => { ho with n1s28Periods := hn }
  | port =>
    rw [take] at h
    exact of_takeInt (by decide) h fun n hn ho => { ho with }
  | extraServer =>
    rw [take] at h
    obtain ⟨hlimits, hsuffix⟩ :=
      of_takeAddr h fun oBtAddr hvalid ho => { ho with extraAddr := .inr hvalid }
    exact ⟨fun _ => hlimits, hsuffix⟩

end BtkbOption

open BtkbOption

/-- The options of the command line. -/
def commandLine (oText : AddrText) (strtod : String → Except String Double) :
    OptionTable BtkbOption String BtkbOptions BtkbExit where
  kind := ofArg
  take := take oText strtod
  length_take h := (take_eq_ok h).2.length_le
  unknown := unknownArgument

/-! ### A round of the loop -/

variable {oText : AddrText} {strtod : String → Except String Double} {o : BtkbOptions}
  {k : BtkbOption} {sArg : String} {aArgV : List String}

/-- The test of the names. -/
theorem isOption_iff : k.longName = sArg ∨ (k.shortName ≠ "" ∧ k.shortName = sArg) ↔
    ofArg sArg = some k := by
  rw [ofArg_eq_some_iff]
  exact or_congr_right (and_iff_right k.shortName_ne_empty)

/-- The message has the name as it is written. -/
theorem optionName_eq (h : ofArg sArg = some k) :
    (if k.longName = sArg then k.longName else k.shortName) = sArg := by
  rcases ofArg_eq_some_iff.mp h with hlong | hshort
  · rw [if_pos hlong, hlong]
  · rw [hshort]
    split_ifs with hlong
    · exact hlong
    · rfl

theorem tryKind_of_kind (h : ofArg sArg = some k) :
    (commandLine oText strtod).tryKind (o, sArg :: aArgV) k = k.take oText strtod o sArg aArgV :=
  if_pos h

theorem tryKind_of_ne_kind (h : ofArg sArg ≠ some k) :
    (commandLine oText strtod).tryKind (o, sArg :: aArgV) k = .ok (o, sArg :: aArgV) :=
  if_neg h

variable (oText strtod) in
/-- A round tries an option that has a number. -/
theorem tryKind_int (k : BtkbOption) {nMin : ℤ} (get : BtkbOptions → ℤ)
    (set : BtkbOptions → ℤ → BtkbOptions) (hget : ∀ o, set o (get o) = o)
    (htake : k.take oText strtod = fun o => takeInt strtod nMin (set o)) (o : BtkbOptions)
    (aArgV : List String) :
    (commandLine oText strtod).tryKind (o, aArgV) k =
      (evalIntArg strtod k.longName k.shortName (get o) nMin aArgV).map
        fun p => (set o p.1, p.2) := by
  cases aArgV with
  | nil => exact congrArg (fun o => Except.ok (o, [])) (hget o).symm
  | cons sArg aArgV =>
    rw [evalIntArg.eq_def]
    dsimp only
    by_cases hkind : ofArg sArg = some k
    · rw [tryKind_of_kind hkind, htake, if_pos (isOption_iff.mpr hkind), optionName_eq hkind]
      cases aArgV with
      | nil => rfl
      | cons sValue rest =>
        dsimp only
        rw [takeInt.eq_def]
        dsimp only
        cases strtod sValue with
        | error sWhat => rfl
        | ok fInterval => rfl
    · rw [tryKind_of_ne_kind hkind, if_neg (mt isOption_iff.mp hkind)]
      exact congrArg (fun o => Except.ok (o, sArg :: aArgV)) (hget o).symm

/-- A round tries the option that has an address. -/
theorem tryKind_extraServer (o : BtkbOptions) (aArgV : List String) :
    (commandLine oText strtod).tryKind (o, aArgV) extraServer =
      (evalAddrArg oText extraServer.longName extraServer.shortName o.extraAddr aArgV).map
        fun p => ({ o with extraAddr := p.1 }, p.2) := by
  cases aArgV with
  | nil => rfl
  | cons sArg aArgV =>
    rw [evalAddrArg.eq_def]
    dsimp only
    by_cases hkind : ofArg sArg = some extraServer
    · rw [tryKind_of_kind hkind, take, if_pos (isOption_iff.mpr hkind), optionName_eq hkind]
      cases aArgV with
      | nil => rfl
      | cons sAddr rest =>
        rw [takeAddr]
        dsimp only
        cases ServerTab.isValidStringAddr oText sAddr.toList <;> rfl
    · rw [tryKind_of_ne_kind hkind, if_neg (mt isOption_iff.mp hkind)]
      rfl

/-- A round tries an option with nothing behind it that ends the program. -/
theorem tryKind_exit {eExit : BtkbExit}
    (htake : k.take oText strtod = fun _ _ _ => .error eExit) (o : BtkbOptions)
    (aArgV : List String) :
    (commandLine oText strtod).tryKind (o, aArgV) k =
      if (evalNoArg k.longName k.shortName false aArgV).1 then .error eExit
      else .ok (o, (evalNoArg k.longName k.shortName false aArgV).2) := by
  cases aArgV with
  | nil => rfl
  | cons sArg aArgV =>
    rw [evalNoArg]
    by_cases hkind : ofArg sArg = some k
    · rw [tryKind_of_kind hkind, htake, if_pos (isOption_iff.mpr hkind), if_pos rfl]
    · rw [tryKind_of_ne_kind hkind, if_neg (mt isOption_iff.mp hkind)]
      rfl

/-- A round tries the other option with nothing behind it. -/
theorem tryKind_flush (o : BtkbOptions) (aArgV : List String) :
    (commandLine oText strtod).tryKind (o, aArgV) flush =
      .ok ({ o with
        refreshFlush := (evalNoArg flush.longName flush.shortName o.refreshFlush aArgV).1 },
        (evalNoArg flush.longName flush.shortName o.refreshFlush aArgV).2) := by
  cases aArgV with
  | nil => rfl
  | cons sArg aArgV =>
    rw [evalNoArg]
    by_cases hkind : ofArg sArg = some flush
    · rw [tryKind_of_kind hkind, take, if_pos (isOption_iff.mpr hkind)]
    · rw [tryKind_of_ne_kind hkind, if_neg (mt isOption_iff.mp hkind)]

theorem ok_bind {ε α β : Type} (a : α) (f : α → Except ε β) : (Except.ok a >>= f) = f a := rfl

theorem bind_map {ε α β γ : Type} (x : Except ε α) (f : α → β) (g : β → Except ε γ) :
    (x.map f >>= g) = x >>= fun a => g (f a) := by
  cases x <;> rfl

/-- A round of the loop goes once through the options. -/
theorem evalArgs_eq_round : evalArgs oText strtod = (commandLine oText strtod).round all := by
  funext o aArgV
  have hhelp (o : BtkbOptions) (aArgV : List String) :
      (commandLine oText strtod).tryKind (o, aArgV) help =
        if (evalNoArg "--help" "-h" false aArgV).1 then .error .usage
        else .ok (o, (evalNoArg "--help" "-h" false aArgV).2) :=
    tryKind_exit rfl o aArgV
  have hversion (o : BtkbOptions) (aArgV : List String) :
      (commandLine oText strtod).tryKind (o, aArgV) version =
        if (evalNoArg "--version" "-v" false aArgV).1 then .error .version
        else .ok (o, (evalNoArg "--version" "-v" false aArgV).2) :=
    tryKind_exit rfl o aArgV
  have hinterval := tryKind_int oText strtod interval BtkbOptions.interval
    (fun o n => { o with interval := n }) (fun _ => rfl) rfl
  have hconnect := tryKind_int oText strtod connect BtkbOptions.timeoutConnect
    (fun o n => { o with timeoutConnect := n }) (fun _ => rfl) rfl
  have hsend := tryKind_int oText strtod send BtkbOptions.timeoutSend
    (fun o n => { o with timeoutSend := n }) (fun _ => rfl) rfl
  have hnoop := tryKind_int oText strtod noop BtkbOptions.noopAfter
    (fun o n => { o with noopAfter := n }) (fun _ => rfl) rfl
  have hrefresh := tryKind_int oText strtod refresh BtkbOptions.n1s28Periods
    (fun o n => { o with n1s28Periods := n }) (fun _ => rfl) rfl
  have hport := tryKind_int oText strtod port BtkbOptions.l2capPort
    (fun o n => { o with l2capPort := n }) (fun _ => rfl) rfl
  simp only [evalArgs, OptionTable.round, all, List.foldlM_cons, List.foldlM_nil, hhelp]
  by_cases hisHelp : (evalNoArg "--help" "-h" false aArgV).1 = true
  · rw [if_pos hisHelp, if_pos hisHelp]
    rfl
  rw [if_neg hisHelp, if_neg hisHelp, ok_bind, hversion]
  generalize (evalNoArg "--help" "-h" false aArgV).2 = aArgV
  by_cases hisVersion : (evalNoArg "--version" "-v" false aArgV).1 = true
  · rw [if_pos hisVersion, if_pos hisVersion]
    rfl
  rw [if_neg hisVersion, if_neg hisVersion, ok_bind]
  simp only [tryKind_flush, hinterval, hconnect, hsend, hnoop, hrefresh, hport, tryKind_extraServer,
    ok_bind, bind_map, longName, shortName]

/-- The loop takes one option after the other. -/
theorem whileTaken_evalArgs (o : BtkbOptions) (aArgV : List String) :
    OptionTable.whileTaken (evalArgs oText strtod) unknownArgument o aArgV =
      (commandLine oText strtod).parse o aArgV := by
  rw [evalArgs_eq_round]
  exact OptionTable.whileTaken_round (fun _ k _ => mem_all k) o aArgV

/-- **The command line.** In whatever order the loop tries the options, one after the other is read
from the front, and the first that is unknown or wrong ends the program. -/
theorem btkbMain_eq_parse (oText : AddrText) (strtod : String → Except String Double)
    (aArgV : List String) :
    btkbMain oText strtod aArgV =
      ((commandLine oText strtod).parse .defaults aArgV).bind checkPort := by
  rw [btkbMain, whileTaken_evalArgs]

/-- **Limits.** Whatever the command line is, the servers and the client are made with values within
their limits, if no number is too great. -/
theorem withinLimits_of_btkbMain (oText : AddrText) (strtod : String → Except String Double)
    (aArgV : List String) (hfits : NumbersFit strtod aArgV)
    (h : btkbMain oText strtod aArgV = .ok o) :
    o.WithinLimits ∧ BtKeyServers.isValidPort o.l2capPort := by
  rw [btkbMain, whileTaken_evalArgs] at h
  obtain ⟨o', hparse, hport⟩ := Run.bind_eq_ok.mp h
  have hlimits : o'.WithinLimits := by
    refine (OptionTable.parse_invariant (P := fun o aArgV => o.WithinLimits ∧
      NumbersFit strtod aArgV) (fun k o sArg aArgV o' aArgV' ho htake => ?_)
      ⟨⟨by decide, by decide, by decide, by decide, by decide, .inl rfl⟩, hfits⟩ hparse).1
    obtain ⟨hkept, hsuffix⟩ := take_eq_ok htake
    have hrest : NumbersFit strtod aArgV := fun sValue hmem => ho.2 sValue (.tail _ hmem)
    exact ⟨hkept hrest ho.1, fun sValue hmem => hrest sValue (hsuffix.mem hmem)⟩
  rw [checkPort] at hport
  split_ifs at hport with hvalid
  cases hport
  exact ⟨hlimits, by simpa using hvalid⟩

/-- The word `7` is a number, and `1e10` is one that is too great. -/
def sevenOrTooGreat (sValue : String) : Except String Double :=
  if sValue = "7" then .ok (.finite 7)
  else if sValue = "1e10" then .ok (.finite 10000000000)
  else .error ""

/-- An interval below the least one. -/
theorem withinLimits_of_btkbMain_interval : ∃ o : BtkbOptions,
    btkbMain .bluez sevenOrTooGreat ["-f", "--interval", "7"] = .ok o ∧ o.interval = 50 ∧
      o.WithinLimits ∧ BtKeyServers.isValidPort o.l2capPort := by
  have hmain : btkbMain .bluez sevenOrTooGreat ["-f", "--interval", "7"] =
      .ok { BtkbOptions.defaults with refreshFlush := true, interval := 50 } := by
    rw [btkbMain, whileTaken_evalArgs, OptionTable.parse_cons_of_kind (k := flush) rfl]
    change ((commandLine _ _).parse _ ["--interval", "7"]).bind _ = _
    rw [OptionTable.parse_cons_of_kind (k := interval) rfl]
    change ((commandLine _ _).parse { BtkbOptions.defaults with
      refreshFlush := true, interval := 50 } []).bind _ = _
    rw [OptionTable.parse]
    rfl
  have hfits : NumbersFit sevenOrTooGreat ["-f", "--interval", "7"] := by
    intro sValue hmem fInterval hvalue
    simp only [List.mem_cons, List.not_mem_nil, or_false] at hmem
    rcases hmem with rfl | rfl | rfl
    · cases hvalue
    · cases hvalue
    · cases hvalue
      decide
  exact ⟨_, hmain, rfl, withinLimits_of_btkbMain _ _ _ hfits hmain⟩

/-- A number that is too great becomes the least one that there is. -/
example : btkbMain .bluez sevenOrTooGreat ["-c", "1e10"] =
    .ok { BtkbOptions.defaults with timeoutConnect := int32Min } := by
  rw [btkbMain, whileTaken_evalArgs, OptionTable.parse_cons_of_kind (k := connect) rfl]
  change ((commandLine _ _).parse { BtkbOptions.defaults with timeoutConnect := int32Min } []).bind
    _ = _
  rw [OptionTable.parse]
  rfl

end StmmInputBt
