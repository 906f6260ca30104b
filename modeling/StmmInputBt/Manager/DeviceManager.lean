import StmmInputBt.Foundation.Run
import StmmInputBt.Manager.KeysDevice

/-!
# The device manager

The functions of `BtGtkDeviceManager` (`btgtkdevicemanager.cc`): devices that come and go, keys,
windows that are added, removed or change their active flag, and listeners that are finalized.

`BtGtkDeviceManager.Op` lists what happens to a manager from outside, and
`BtGtkDeviceManager.step` lets one of these happen, with listeners that do not re-enter the
manager; `BtGtkDeviceManager.stepWith` is the same with any listeners. The base class
`StdDeviceManager` is not part of this repository: of it the state keeps the listeners with the
time stamps at which they were added, and which event classes are enabled.
-/

namespace StmmInputBt

/-- What a `shared_ptr<Accessor>` points to. -/
inductive Accessor
  | null
  | otherType
  | gtk (w : Window)
  deriving DecidableEq

/-- `dynamic_pointer_cast<GtkAccessor>`, with the window of the accessor. -/
def Accessor.gtkWindow : Accessor → Option Window
  | .gtk w => some w
  | _ => none

namespace BtGtkDeviceManager

variable (handle : Handler)

/-! ### Cancels -/

/-- The end of a cancelling function: one level less, and at level zero the listeners forget. -/
def endCanceling (m : BtGtkDeviceManager) : BtGtkDeviceManager :=
  let m := { m with cancelingNestedDepth := m.cancelingNestedDepth - 1 }
  if m.cancelingNestedDepth = 0 then m.resetExtraDataOfAllListeners else m

/-- `for (auto& refDevice : m_aBtDevices)`. -/
def forEachDevice (f : ℕ → BtGtkDeviceManager → Except Fault BtGtkDeviceManager)
    (m : BtGtkDeviceManager) : Except Fault BtGtkDeviceManager :=
  (List.range m.btDevices.length).foldlM (fun m nBackendId => f nBackendId m) m

def deselectAccessor (m : BtGtkDeviceManager) : Except Fault BtGtkDeviceManager := do
  let m := { m with cancelingNestedDepth := m.cancelingNestedDepth + 1 }
  let m ← m.forEachDevice (BtKeysDevice.cancelSelectedAccessorKeys handle)
  return endCanceling { m with selected := none }

def cancelDeviceKeys (nBackendId : ℕ) (m : BtGtkDeviceManager) :
    Except Fault BtGtkDeviceManager := do
  let m := { m with cancelingNestedDepth := m.cancelingNestedDepth + 1 }
  let m ← BtKeysDevice.cancelSelectedAccessorKeys handle nBackendId m
  return endCanceling m

def finalizeListener (l : ListenerData) (m : BtGtkDeviceManager) :
    Except Fault BtGtkDeviceManager := do
  let m := { m with cancelingNestedDepth := m.cancelingNestedDepth + 1 }
  let m ← m.forEachDevice fun nBackendId => BtKeysDevice.finalizeListener handle nBackendId l
  return endCanceling m

/-! ### What the backend calls -/

def sendDeviceMgmtToListeners (eType : DeviceMgmtType) (d : BtKeysDevice)
    (m : BtGtkDeviceManager) : BtGtkDeviceManager :=
  { m with deliveries := m.deliveries ++ [.deviceMgmt eType d.name d.deviceId] }

/-- `m_aBtDevices.resize(nBackendId + 1)` when the vector is too short. -/
def resizeDevices (nBackendId : ℕ) (aBtDevices : List (Option BtKeysDevice)) :
    List (Option BtKeysDevice) :=
  aBtDevices ++ List.replicate (nBackendId + 1 - aBtDevices.length) none

def onDeviceAdded (sName : BdAddr) (nBackendId : ℕ) (m : BtGtkDeviceManager) :
    Except Fault BtGtkDeviceManager := do
  let refNewDevice : BtKeysDevice := ⟨sName, m.nextDeviceId, true, ∅⟩
  let m := { m with nextDeviceId := m.nextDeviceId + 1 }
  assertThat (m.btDevices.all fun d => d.all fun d => d.deviceId ≠ refNewDevice.deviceId)
  let m := { m with btDevices := resizeDevices nBackendId m.btDevices }
  assertThat (m.device nBackendId).isNone
  let m := { m with btDevices := m.btDevices.set nBackendId (some refNewDevice) }
  return m.sendDeviceMgmtToListeners .added refNewDevice

def onDeviceRemoved (nBackendId : ℕ) (m : BtGtkDeviceManager) :
    Except Fault BtGtkDeviceManager := do
  assertThat (nBackendId < m.btDevices.length)
  assertThat (m.device nBackendId).isSome
  let m ← cancelDeviceKeys handle nBackendId m
  let m := m.modifyDevice nBackendId fun d => { d with hasOwner := false }
  match m.device nBackendId with
  | none => .error .nullDevice
  | some refRemovedBtKeysDevice =>
    let m := { m with btDevices := m.btDevices.set nBackendId none }
    return m.sendDeviceMgmtToListeners .removed refRemovedBtKeysDevice

def onBlueKey (nBackendId : ℕ) (eType : KeyInputType) (eHK : HardwareKey)
    (m : BtGtkDeviceManager) : Except Fault (Bool × BtGtkDeviceManager) := do
  assertThat (nBackendId < m.btDevices.length)
  match m.selected with
  | none => return (true, m)
  | some refSelected =>
    assertThat (m.device nBackendId).isSome
    BtKeysDevice.onBlueKey handle nBackendId eType eHK refSelected m

/-! ### Windows -/

/-- `findWindow`: the position of the window in `m_aGtkWindowData`. -/
def findWindow (w : Window) (m : BtGtkDeviceManager) : Option ℕ :=
  m.gtkWindowData.findIdx? (·.1 = w)

/-- `GtkWindowData::isWindowActive`. -/
def isWindowActive (refData : WindowDataId) (m : BtGtkDeviceManager) : Bool :=
  (m.windows (m.windowData refData).accessor).isActive

/-- `removeAccessor` of the entry at a position. -/
def removeAccessorAt (itGtkData : ℕ) (m : BtGtkDeviceManager) :
    Except Fault BtGtkDeviceManager :=
  match m.gtkWindowData[itGtkData]? with
  | none => .error .assertion
  | some (_, refData) =>
    let bIsSelected := m.selected = some refData
    let m := { m with
      windowData := Function.update m.windowData refData
        { m.windowData refData with isEnabled := false }
      gtkWindowData := m.gtkWindowData.eraseIdx itGtkData }
    if bIsSelected then deselectAccessor handle m else .ok m

/-- A new `GtkWindowData` for the window, at the back of `m_aGtkWindowData` and enabled. -/
def addWindowData (w : Window) (m : BtGtkDeviceManager) : BtGtkDeviceManager :=
  { m with
    nextWindowData := m.nextWindowData + 1
    gtkWindowData := m.gtkWindowData ++ [(w, m.nextWindowData)]
    windowData := Function.update m.windowData m.nextWindowData
      ⟨w, !(m.windows w).isDeleted⟩ }

/-- `addAccessor`, with the value it returns. -/
def addAccessor (refAccessor : Accessor) (m : BtGtkDeviceManager) :
    Except Fault (Bool × BtGtkDeviceManager) :=
  match refAccessor.gtkWindow with
  | none => .ok (false, m)
  | some w =>
    if (m.windows w).isDeleted then
      match m.findWindow w with
      | none => .ok (false, m)
      | some itFind => return (false, ← removeAccessorAt handle itFind m)
    else if (m.findWindow w).isSome then .ok (false, m)
    else
      let refData := m.nextWindowData
      let m := m.addWindowData w
      match m.selected with
      | none =>
        if m.isWindowActive refData then .ok (true, { m with selected := some refData })
        else .ok (true, m)
      | some refSelected =>
        let selectedWindow := (m.windowData refSelected).accessor
        if m.isWindowActive refData then do
          let m ←
            if (m.windows selectedWindow).isDeleted then
              match m.findWindow selectedWindow with
              | none => .error .assertion
              | some itSelectedFind => removeAccessorAt handle itSelectedFind m
            else deselectAccessor handle m
          return (true, { m with selected := some refData })
        else return (true, ← deselectAccessor handle m)

/-- `removeAccessor` of an accessor, with the value it returns. -/
def removeAccessor (refAccessor : Accessor) (m : BtGtkDeviceManager) :
    Except Fault (Bool × BtGtkDeviceManager) :=
  match refAccessor.gtkWindow.bind fun w => m.findWindow w with
  | none => .ok (false, m)
  | some itFind => return (true, ← removeAccessorAt handle itFind m)

def onIsActiveChanged (refWindowData : WindowDataId) (m : BtGtkDeviceManager) :
    Except Fault BtGtkDeviceManager :=
  if !(m.windowData refWindowData).isEnabled then .ok m
  else
    let bIsActive := !(m.windows (m.windowData refWindowData).accessor).isDeleted &&
      m.isWindowActive refWindowData
    let bIsSelected := m.selected = some refWindowData
    if bIsActive then
      -- activating the window that is selected already shouldn't happen
      if bIsSelected then .ok m
      else do
        let m ← if m.selected.isSome then deselectAccessor handle m else .ok m
        return { m with selected := some refWindowData }
    else if bIsSelected then deselectAccessor handle m
    else .ok m

/-! ### Steps -/

/-- What a user of the manager, the windows and the base class do. -/
inductive UiOp
  | addAccessor (refAccessor : Accessor)
  | removeAccessor (refAccessor : Accessor)
  /-- The active flag of a window changes, and the property reports it. -/
  | activeChanged (w : Window) (isActive : Bool)
  /-- The state of a window changes without a report: it is hidden, unrealized or deleted. -/
  | windowChanged (w : Window) (state : WindowState)
  | enableEventClass (oEventClass : EventClass)
  | addListener (l : ListenerId)
  | finalizeListener (l : ListenerData)
  | removeListener (l : ListenerId)

inductive Op
  | deviceAdded (sName : BdAddr) (nBackendId : ℕ)
  | deviceRemoved (nBackendId : ℕ)
  | blueKey (nBackendId : ℕ) (eType : KeyInputType) (eHK : HardwareKey)
  | ui (op : UiOp)

def setWindow (w : Window) (state : WindowState) (m : BtGtkDeviceManager) : BtGtkDeviceManager :=
  { m with windows := Function.update m.windows w state }

/-- `signal_changed` of the property `is_active`: the window data that tracks the window, if any,
calls `onIsActiveChanged`. -/
def reportActive (w : Window) (m : BtGtkDeviceManager) : Except Fault BtGtkDeviceManager :=
  match m.gtkWindowData.find? (·.1 = w) with
  | none => .ok m
  | some (_, refWindowData) => onIsActiveChanged handle refWindowData m

/-- A new listener gets a unique time stamp and an empty memory. -/
def addListener (l : ListenerId) (m : BtGtkDeviceManager) : BtGtkDeviceManager :=
  if h : l ∈ m.listeners.1.map ListenerData.id then m
  else { m with
    listeners := ⟨m.listeners.1 ++ [⟨l, m.nextTimeStamp⟩], by
      simpa [List.nodup_append, m.listeners.2] using h⟩
    nextTimeStamp := m.nextTimeStamp + 1
    canceledKeys := Function.update m.canceledKeys l [] }

def removeListener (l : ListenerId) (m : BtGtkDeviceManager) : BtGtkDeviceManager :=
  { m with listeners := ⟨m.listeners.1.filter (·.id ≠ l),
      (List.filter_sublist.map _).nodup m.listeners.2⟩ }

/-- An operation on a manager whose listeners may do anything with an event. -/
def uiStepWith (m : BtGtkDeviceManager) : UiOp → Except Fault BtGtkDeviceManager
  | .addAccessor refAccessor => return (← addAccessor handle refAccessor m).2
  | .removeAccessor refAccessor => return (← removeAccessor handle refAccessor m).2
  | .activeChanged w isActive =>
    reportActive handle w (m.setWindow w { m.windows w with isActive })
  | .windowChanged w state => .ok (m.setWindow w state)
  | .enableEventClass c =>
    .ok { m with enabledEventClasses := Function.update m.enabledEventClasses c true }
  | .addListener l => .ok (m.addListener l)
  | .finalizeListener l => BtGtkDeviceManager.finalizeListener handle l m
  | .removeListener l => .ok (m.removeListener l)

/-- One thing happens to such a manager. -/
def stepWith (m : BtGtkDeviceManager) : Op → Except Fault BtGtkDeviceManager
  | .deviceAdded sName nBackendId => m.onDeviceAdded sName nBackendId
  | .deviceRemoved nBackendId => onDeviceRemoved handle nBackendId m
  | .blueKey nBackendId eType eHK => return (← onBlueKey handle nBackendId eType eHK m).2
  | .ui op => uiStepWith handle m op

/-- An operation on a manager whose listeners do not re-enter it. -/
def uiStep (m : BtGtkDeviceManager) (op : UiOp) : Except Fault BtGtkDeviceManager :=
  uiStepWith record m op

/-- One thing happens to a manager whose listeners do not re-enter it. -/
def step (m : BtGtkDeviceManager) (op : Op) : Except Fault BtGtkDeviceManager :=
  stepWith record m op

theorem uiStepWith_record (m : BtGtkDeviceManager) (op : UiOp) :
    uiStepWith record m op = m.uiStep op := rfl

theorem stepWith_record (m : BtGtkDeviceManager) (op : Op) :
    stepWith record m op = m.step op := rfl

/-- A manager as it is created, with the given event classes enabled and windows around it. -/
def create (enabledEventClasses : EventClass → Bool) (windows : Window → WindowState) :
    BtGtkDeviceManager where
  windows := windows
  gtkWindowData := []
  windowData := fun _ => ⟨0, false⟩
  nextWindowData := 0
  selected := none
  cancelingNestedDepth := 0
  btDevices := []
  nextDeviceId := 0
  enabledEventClasses := enabledEventClasses
  listeners := ⟨[], List.nodup_nil⟩
  canceledKeys := fun _ => []
  nextTimeStamp := 0
  deliveries := []

end BtGtkDeviceManager

end StmmInputBt
