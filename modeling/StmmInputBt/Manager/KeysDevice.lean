import StmmInputBt.Server.Backend
import Mathlib.Data.List.AList

/-!
# Key devices and their listeners

The state of `BtGtkDeviceManager` and the functions of `BtKeysDevice` (`btgtkkeysdevice.cc`):
a key packet handed to the listeners, and the cancels sent to one or to all of them.

A device is addressed by its index in `m_aBtDevices`, so that its functions see what a callback
has done to it in the meantime. What a listener does when it is handed an event is an argument
`handle` of every function that calls `handleEventCallIf`; `BtGtkDeviceManager.record` is the
listener that does not re-enter the manager. `m_oPressedKeys` is an association list with
pairwise distinct keys: the order in which an `unordered_map` is traversed is unspecified.
The times of events and the recycling of event objects are left out.

## Main definitions

* `BtGtkDeviceManager`: the state of the manager, its devices and its listeners.
* `BtKeysDevice.onBlueKey`, `BtKeysDevice.finalizeListener`,
  `BtKeysDevice.cancelSelectedAccessorKeys`, `BtKeysDevice.sendKeyEventToListener`.
-/

namespace StmmInputBt

abbrev Window := ℕ
abbrev WindowDataId := ℕ
abbrev DeviceId := ℕ
abbrev ListenerId := ℕ

/-- What the manager asks a window. -/
structure WindowState where
  /-- `get_realized() && get_visible() && is_active()`. -/
  isActive : Bool
  /-- `GtkAccessor::isDeleted()`. -/
  isDeleted : Bool

/-- A `GtkWindowData`; the accessor is given by its window. -/
structure GtkWindowData where
  accessor : Window
  isEnabled : Bool

inductive EventClass
  | deviceMgmtEvent
  | keyEvent
  deriving DecidableEq

inductive DeviceMgmtType
  | added
  | removed
  deriving DecidableEq

structure KeyEvent where
  accessor : Window
  /-- The device whose key capability the event refers to. -/
  device : DeviceId
  type : KeyInputType
  key : HardwareKey
  deriving DecidableEq

structure KeyData where
  pressedTimeStamp : ℕ
  deriving DecidableEq

structure BtKeysDevice where
  name : BdAddr
  deviceId : DeviceId
  /-- `getOwnerDeviceManager()` is non-null. -/
  hasOwner : Bool
  pressedKeys : AList fun _ : HardwareKey => KeyData

structure ListenerData where
  id : ListenerId
  addedTimeStamp : ℕ
  deriving DecidableEq

/-- The listeners of a manager, which are distinct objects. -/
abbrev Listeners := {ls : List ListenerData // (ls.map ListenerData.id).Nodup}

/-- What listeners are handed: a key event by `handleEventCallIf` of one listener, or a device
management event sent to all of them. -/
inductive Delivery
  | key (listener : ListenerId) (event : KeyEvent)
  | deviceMgmt (type : DeviceMgmtType) (sName : BdAddr) (device : DeviceId)
  deriving DecidableEq

structure BtGtkDeviceManager where
  windows : Window → WindowState
  gtkWindowData : List (Window × WindowDataId)
  windowData : WindowDataId → GtkWindowData
  /-- The identity of the next object that the factory hands out. -/
  nextWindowData : WindowDataId
  selected : Option WindowDataId
  cancelingNestedDepth : ℤ
  btDevices : List (Option BtKeysDevice)
  nextDeviceId : DeviceId
  enabledEventClasses : EventClass → Bool
  listeners : Listeners
  /-- `m_aCanceledKeys` of the extra data of each listener. -/
  canceledKeys : ListenerId → List HardwareKey
  nextTimeStamp : ℕ
  /-- What the listeners were handed so far, in order. -/
  deliveries : List Delivery

/-- What a listener does with an event: `handleEventCallIf`. -/
abbrev Handler := ListenerData → KeyEvent → BtGtkDeviceManager → Except Fault BtGtkDeviceManager

namespace BtGtkDeviceManager

/-- The device that `m_aBtDevices[nBackendId]` points to. -/
def device (nBackendId : ℕ) (m : BtGtkDeviceManager) : Option BtKeysDevice :=
  m.btDevices[nBackendId]?.join

def modifyDevice (nBackendId : ℕ) (f : BtKeysDevice → BtKeysDevice) (m : BtGtkDeviceManager) :
    BtGtkDeviceManager :=
  { m with btDevices := m.btDevices.modify nBackendId (Option.map f) }

/-- The key is in `m_oPressedKeys` of the device. -/
def isKeyPressed (nBackendId : ℕ) (eHardwareKey : HardwareKey) (m : BtGtkDeviceManager) : Bool :=
  (m.device nBackendId).any fun d => eHardwareKey ∈ d.pressedKeys

def isEventClassEnabled (c : EventClass) (m : BtGtkDeviceManager) : Bool := m.enabledEventClasses c

/-- `BtGtkListenerExtraData::isKeyCanceled`. -/
def isKeyCanceled (l : ListenerId) (nKey : HardwareKey) (m : BtGtkDeviceManager) : Bool :=
  (m.canceledKeys l).contains nKey

/-- `BtGtkListenerExtraData::setKeyCanceled`. -/
def setKeyCanceled (l : ListenerId) (nKey : HardwareKey) (m : BtGtkDeviceManager) :
    BtGtkDeviceManager :=
  { m with canceledKeys := Function.update m.canceledKeys l (m.canceledKeys l ++ [nKey]) }

/-- Empty the memory of every current listener. -/
def resetExtraDataOfAllListeners (m : BtGtkDeviceManager) : BtGtkDeviceManager :=
  { m with canceledKeys := fun l =>
      if l ∈ m.listeners.1.map ListenerData.id then [] else m.canceledKeys l }

/-- Listeners that do not re-enter the manager. -/
def record : Handler := fun l e m => .ok { m with deliveries := m.deliveries ++ [.key l.id e] }

end BtGtkDeviceManager

namespace BtKeysDevice

open BtGtkDeviceManager

variable (handle : Handler)

def sendKeyEventToListener (l : ListenerData) (nPressedTimeStamp : ℕ) (e : KeyEvent)
    (m : BtGtkDeviceManager) : Except Fault BtGtkDeviceManager :=
  if nPressedTimeStamp < l.addedTimeStamp then .ok m else handle l e m

/-- Hand a cancel to a listener unless its memory already holds the key: the body of the loops of
`cancelSelectedAccessorKeys` and, but for the way it goes on, of `finalizeListener`. -/
def cancelKey (l : ListenerData) (nPressedTimeStamp : ℕ) (e : KeyEvent) (m : BtGtkDeviceManager) :
    Except Fault BtGtkDeviceManager :=
  if m.isKeyCanceled l.id e.key then .ok m
  else sendKeyEventToListener handle l nPressedTimeStamp e (m.setKeyCanceled l.id e.key)

/-- The cancel of a pressed key. -/
def cancelEvent (d : BtKeysDevice) (refSelectedAccessor : Window) (eHardwareKey : HardwareKey) :
    KeyEvent :=
  ⟨refSelectedAccessor, d.deviceId, keyReleaseCancel, eHardwareKey⟩

/-- The two inner loops of `cancelSelectedAccessorKeys`, over a copy of the pressed keys and over
the listeners. -/
def cancelKeysOfListeners (d : BtKeysDevice) (refSelectedAccessor : Window)
    (refListeners : List ListenerData) (oPressedKeys : List (Sigma fun _ : HardwareKey => KeyData))
    (m : BtGtkDeviceManager) : Except Fault BtGtkDeviceManager :=
  oPressedKeys.foldlM (fun m oPair => refListeners.foldlM (fun m l =>
    cancelKey handle l oPair.2.pressedTimeStamp (d.cancelEvent refSelectedAccessor oPair.1) m) m) m

def cancelSelectedAccessorKeys (nBackendId : ℕ) (m : BtGtkDeviceManager) :
    Except Fault BtGtkDeviceManager :=
  match m.device nBackendId with
  | none => .error .nullDevice
  | some d =>
    if !d.hasOwner then .ok m
    else if !m.isEventClassEnabled .keyEvent then .ok m
    else match m.selected with
      | none => .ok m
      | some refSelected => do
        let m ← cancelKeysOfListeners handle d (m.windowData refSelected).accessor m.listeners.1
          d.pressedKeys.entries m
        return m.modifyDevice nBackendId fun d => { d with pressedKeys := ∅ }

/-- The loop of `finalizeListener` over a copy of the pressed keys. -/
def cancelKeysOfListener (d : BtKeysDevice) (refSelectedAccessor : Window) (l : ListenerData) :
    (oPressedKeys : List (Sigma fun _ : HardwareKey => KeyData)) → BtGtkDeviceManager →
      Except Fault BtGtkDeviceManager
  | [], m => .ok m
  | oPair :: oPressedKeys, m =>
    if m.isKeyCanceled l.id oPair.1 then
      cancelKeysOfListener d refSelectedAccessor l oPressedKeys m
    else do
      let m ← sendKeyEventToListener handle l oPair.2.pressedTimeStamp
        (d.cancelEvent refSelectedAccessor oPair.1) (m.setKeyCanceled l.id oPair.1)
      -- there can't be pressed keys without an active window
      if m.selected = none then return m
      else cancelKeysOfListener d refSelectedAccessor l oPressedKeys m

def finalizeListener (nBackendId : ℕ) (l : ListenerData) (m : BtGtkDeviceManager) :
    Except Fault BtGtkDeviceManager :=
  match m.device nBackendId with
  | none => .error .nullDevice
  | some d =>
    if !d.hasOwner then .ok m
    else if !m.isEventClassEnabled .keyEvent then .ok m
    else match m.selected with
      | none => .ok m
      | some refSelected =>
        cancelKeysOfListener handle d (m.windowData refSelected).accessor l d.pressedKeys.entries m

/-- The loop of `onBlueKey` over the listeners. It ends early when a callback has cancelled the
key whose press is being handed out. -/
def sendKeyToListeners (nBackendId : ℕ) (nPressedTimeStamp : ℕ) (e : KeyEvent) :
    (refListeners : List ListenerData) → BtGtkDeviceManager → Except Fault BtGtkDeviceManager
  | [], m => .ok m
  | l :: refListeners, m => do
    let m ← sendKeyEventToListener handle l nPressedTimeStamp e m
    if e.type = keyPress ∧ !m.isKeyPressed nBackendId e.key then return m
    else sendKeyToListeners nBackendId nPressedTimeStamp e refListeners m

/-- `BtKeysDevice::onBlueKey`, with the value of `bContinue` that it returns. -/
def onBlueKey (nBackendId : ℕ) (eInputType : KeyInputType) (eHardwareKey : HardwareKey)
    (refWindowData : WindowDataId) (m : BtGtkDeviceManager) :
    Except Fault (Bool × BtGtkDeviceManager) :=
  match m.device nBackendId with
  | none => .error .nullDevice
  | some d =>
    if !d.hasOwner then .ok (false, m)
    else
      let refListeners := m.listeners.1
      let e : KeyEvent :=
        ⟨(m.windowData refWindowData).accessor, d.deviceId, eInputType, eHardwareKey⟩
      if eInputType = keyPress then
        -- a key repeat is suppressed
        if eHardwareKey ∈ d.pressedKeys then .ok (true, m)
        else do
          let nPressedTimeStamp := m.nextTimeStamp
          let m := { m with nextTimeStamp := m.nextTimeStamp + 1 }
          let m := m.modifyDevice nBackendId fun d =>
            { d with pressedKeys := d.pressedKeys.insert eHardwareKey ⟨nPressedTimeStamp⟩ }
          return (true, ← sendKeyToListeners handle nBackendId nPressedTimeStamp e refListeners m)
      else match d.pressedKeys.lookup eHardwareKey with
        -- an orphan release or cancel is ignored
        | none => .ok (true, m)
        | some oKeyData => do
          let m := m.modifyDevice nBackendId fun d =>
            { d with pressedKeys := d.pressedKeys.erase eHardwareKey }
          return (true, ← sendKeyToListeners handle nBackendId oKeyData.pressedTimeStamp e
            refListeners m)

end BtKeysDevice

end StmmInputBt
