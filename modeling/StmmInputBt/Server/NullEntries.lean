import StmmInputBt.Manager.NullEntries
import StmmInputBt.Server.KeyTypes

/-!
# Null devices and listeners that call the manager

A server whose listeners may re-enter the manager uses no null device as long as a window is only
selected, and a listener only finalized, while no entry of `m_aBtDevices` is null. Only the removal
of a device makes an entry null, and it is the last thing that a dispatch does.

## Main definitions

* `Owner.AvoidsNull`: an owner that uses no null device while it has a property.
* `GtkBackend.CallsFull`: the condition on a step.

## Main results

* `GtkBackend.noNullDevice_of_guarded`.
-/

namespace StmmInputBt

open BtGtkDeviceManager

/-- The owner uses no null device while it has the property `P`, which keys keep. -/
structure Owner.AvoidsNull {σ : Type} (O : Owner σ) (P : σ → Prop) : Prop where
  onDeviceAdded : ∀ sName nBackendId s,
    Avoids .nullDevice (fun _ => True) (O.onDeviceAdded sName nBackendId s)
  onDeviceRemoved : ∀ nBackendId s, P s →
    Avoids .nullDevice (fun _ => True) (O.onDeviceRemoved nBackendId s)
  onBlueKey : ∀ nBackendId eType eHK s, P s →
    Avoids .nullDevice (fun r => P r.2) (O.onBlueKey nBackendId eType eHK s)

/-- The manager, while no entry is null or nothing is selected. -/
theorem avoidsNull_managerOwnerWith {handle : Handler} {n : ℕ} (hh : KeepsFull n handle) :
    (managerOwnerWith handle).AvoidsNull (Ready n) where
  onDeviceAdded _ _ _ :=
    (avoids_assertThat _).bind fun _ _ => (avoids_assertThat _).bind fun _ _ => trivial
  onDeviceRemoved _ _ h := hh.onDeviceRemoved h
  onBlueKey _ eType eHK _ h := hh.onBlueKey eType eHK h

namespace GtkBackend

variable {σ : Type} {O : Owner σ} {P : σ → Prop} {b : GtkBackend σ} {oPkt : KeyPacket}

section Backend

variable (hO : O.AvoidsNull P)
include hO

theorem avoids_receiveKey (nBackendId : ℕ) (bRemove : Bool) (hcmd : oPkt.cmd = packetCmdKey)
    (h : P b.owner) : Avoids .nullDevice (fun r => P r.2.owner)
      (doServerReceive O nBackendId bRemove oPkt b) := by
  rw [doServerReceive]
  refine (avoids_assertThat _).bind fun _ _ => ?_
  rw [if_pos hcmd]
  exact (hO.onBlueKey nBackendId _ _ b.owner h).bind fun r hr => hr

theorem avoids_doServerReceive (nBackendId : ℕ) (bRemove : Bool) (oPkt : KeyPacket)
    (h : P b.owner) : Avoids .nullDevice (fun _ => True)
      (doServerReceive O nBackendId bRemove oPkt b) := by
  by_cases hcmd : oPkt.cmd = packetCmdKey
  · exact (avoids_receiveKey hO nBackendId bRemove hcmd h).mono fun _ _ => trivial
  · rw [doServerReceive]
    refine (avoids_assertThat _).bind fun _ _ => ?_
    rw [if_neg hcmd]
    cases bRemove with
    | false => trivial
    | true =>
      refine (avoids_assertThat _).bind fun _ _ => (avoids_assertThat _).bind fun _ _ => ?_
      exact (hO.onDeviceRemoved nBackendId b.owner h).bind fun _ _ => trivial

theorem avoids_closeConnection (sid : SourceId) (nBackendId : ℕ) (bSlot bRemove : Bool)
    (oPkt : KeyPacket) (h : P b.owner) : Avoids .nullDevice (fun _ => True)
      (closeConnection O sid nBackendId bSlot bRemove oPkt b) := by
  cases bSlot with
  | false => trivial
  | true => exact avoids_doServerReceive hO nBackendId bRemove oPkt h

theorem avoids_processPackets (order : ByteOrder) (sid : SourceId) (nBackendId : ℕ)
    (oDummyPacket : KeyPacket) (nBytesReceived : ℕ) (ps : List KeyPacket) (nBufPos : ℕ)
    (h : P b.owner) : Avoids .nullDevice (fun _ => True)
      (processPackets O order sid nBackendId oDummyPacket nBytesReceived ps nBufPos b) := by
  induction ps generalizing nBufPos b with
  | nil =>
    rw [processPackets]
    split_ifs
    · exact avoids_closeConnection hO sid nBackendId true false oDummyPacket h
    · trivial
  | cons p ps ih =>
    rw [processPackets]
    dsimp only
    split_ifs with hmagic hremove hnoop hcmd
    · exact avoids_closeConnection hO sid nBackendId true false _ h
    · exact avoids_closeConnection hO sid nBackendId true true _ h
    · exact avoids_closeConnection hO sid nBackendId true false _ h
    · refine (avoids_receiveKey hO nBackendId false (not_not.mp hcmd) h).bind fun r hr => ?_
      split_ifs
      · trivial
      · exact ih _ hr
    · exact ih _ h

theorem avoids_dispatchSource (order : ByteOrder) (sid : SourceId) (nIOFlags : IOCondition)
    (recv : RecvResult) (oDummyPacket : KeyPacket) (h : P b.owner) :
    Avoids .nullDevice (fun _ => True)
      (dispatchSource O order sid nIOFlags recv oDummyPacket b) := by
  rw [dispatchSource]
  cases b.sources[sid]? with
  | none => trivial
  | some src =>
    dsimp only
    split_ifs
    · trivial
    · refine Avoids.bind (Q := fun _ => True) ?_ fun r _ => ?_
      · rw [dispatch.eq_def]
        split_ifs
        · exact avoids_closeConnection hO sid src.backendId true false oDummyPacket h
        · trivial
        · cases recv with
          | error => exact avoids_closeConnection hO sid src.backendId true false oDummyPacket h
          | received bytes => exact avoids_processPackets hO order sid src.backendId _ _ _ 0 h
      · split_ifs <;> trivial

theorem avoids_doServerAcceptClient (nClientFD : ℕ) (oClientBdAddr : RemoteAddr)
    (b : GtkBackend σ) : Avoids .nullDevice (fun _ => True)
      (doServerAcceptClient O nClientFD oClientBdAddr b) := by
  rw [doServerAcceptClient]
  cases getBackendId b.permanentAddrs oClientBdAddr with
  | some nBackendId => trivial
  | none =>
    cases getBackendId b.permanentAddrs emptyBdAddr with
    | none => exact (hO.onDeviceAdded ..).bind fun _ _ => trivial
    | some nBackendId =>
      exact (avoids_assertThat _).bind fun _ _ => (hO.onDeviceAdded ..).bind fun _ _ => trivial

end Backend

/-- While a window is selected, and when a listener is finalized, no entry is null. No key event is
handed out otherwise. -/
def CallsFull (b : Server) (i : ServerInput) : Prop :=
  match i.op with
  | .accept .. => True
  | .ui (.finalizeListener _) => b.owner.hasNull = false
  | .dispatch .. | .ui _ => b.owner.selected.isSome → b.owner.hasNull = false

theorem ready_of_selected {m : BtGtkDeviceManager}
    (h : m.selected.isSome → m.hasNull = false) : Ready m.btDevices.length m := by
  cases hsel : m.selected with
  | none => exact .inl hsel
  | some refSelected => exact .inr (full_of_hasNull (h (by simp [hsel])))

/-- A step uses no null device. -/
theorem avoids_reentrantStep (order : ByteOrder) {b : Server} {i : ServerInput}
    (h : b.CallsFull i) : Avoids .nullDevice (fun _ => True) (reentrantStep order b i) := by
  have hh : KeepsFull b.owner.btDevices.length i.handle :=
    keepsFull_reenter _ i.react i.calls i.op.deselecting i.depth
  have hO := avoidsNull_managerOwnerWith hh
  rw [reentrantStep]
  rw [CallsFull] at h
  cases hop : i.op with
  | accept nClientFD oClientBdAddr => exact avoids_doServerAcceptClient hO nClientFD oClientBdAddr b
  | dispatch sid nIOFlags recv oDummyPacket =>
    rw [hop] at h
    exact avoids_dispatchSource hO order sid nIOFlags recv oDummyPacket (ready_of_selected h)
  | ui op =>
    rw [hop] at h
    have hstep : Avoids .nullDevice
        (fun t => Full b.owner.btDevices.length b.owner → Full b.owner.btDevices.length t)
        (uiStepWith i.handle b.owner op) := by
      cases op with
      | finalizeListener l =>
        have hfull := full_of_hasNull h
        exact hh.uiStepWith (fun _ _ => hfull) (.inr hfull)
      | addAccessor | removeAccessor | activeChanged | windowChanged | enableEventClass
      | addListener | removeListener =>
        exact hh.uiStepWith (fun l hl => by cases hl) (ready_of_selected h)
    exact hstep.map fun _ _ => trivial

/-- **No null device is used** in any run, with listeners that re-enter the manager at any depth,
in which no entry is null while a window is selected or when a listener is finalized. -/
theorem noNullDevice_of_guarded (order : ByteOrder) (b : Server) (is : List ServerInput)
    (h : Run.Guarded (reentrantStep order) CallsFull b is) :
    Run.exec (reentrantStep order) b is ≠ .error .nullDevice := by
  intro herror
  obtain ⟨pre, i, post, t, rfl, ht, hfault⟩ := Run.exec_eq_error herror
  exact (avoids_reentrantStep order (h.of_exec ht)).ne_error hfault

end GtkBackend

end StmmInputBt
