import StmmInputBt.Manager.Steps

/-!
# Listeners that re-enter the manager

While it is handed an event, a listener may add or remove windows, add listeners and change the
state of windows. These calls may make the manager hand out further events, during which
listeners may call it again. `BtGtkDeviceManager.reenter` is the handler of such listeners, for
any number of calls and any depth of nesting, and `BtGtkDeviceManager.reentrantStep` is the step
of a manager with such listeners: every step comes with what the listeners do in the course of it.

## Main definitions

* `BtGtkDeviceManager.Reaction`: what listeners call.
* `BtGtkDeviceManager.reentrantStep`: one step, with the listeners' calls nested in it.
* `BtGtkDeviceManager.KeptByCancels`: a property of managers that the parts of a cancelling
  function keep, its callbacks included.
* `BtGtkDeviceManager.KeptByOps`: a property that all that happens to a manager keeps.

## Main results

* `BtGtkDeviceManager.reentrantStep_of_depth_zero`: without nested calls it is the step of
  listeners that do not re-enter.
* `BtGtkDeviceManager.KeptByCancels.deselectAccessor`,
  `BtGtkDeviceManager.KeptByCancels.cancelDeviceKeys`,
  `BtGtkDeviceManager.KeptByCancels.finalizeListener`: then the whole function keeps it.
* `BtGtkDeviceManager.KeptByOps.uiStepWith`, `BtGtkDeviceManager.KeptByOps.reenter`: the
  operations and the listeners keep it too.
* `BtGtkDeviceManager.makeCalls_of_settle`, `BtGtkDeviceManager.sameDevices_of_settle`: calls that
  deselect no window hand out nothing.
-/

namespace StmmInputBt

namespace BtGtkDeviceManager

/-- What a listener calls while it is handed an event. -/
inductive Call
  | addAccessor (refAccessor : Accessor)
  | removeAccessor (refAccessor : Accessor)
  | addListener (l : ListenerId)
  /-- The state of a window changes without a report. -/
  | windowChanged (w : Window) (state : WindowState)

def Call.uiOp : Call → UiOp
  | .addAccessor refAccessor => .addAccessor refAccessor
  | .removeAccessor refAccessor => .removeAccessor refAccessor
  | .addListener l => .addListener l
  | .windowChanged w state => .windowChanged w state

/-- What a listener calls next while it is handed an event, or `none` when it returns. The flag
says whether the listener is called from inside `deselectAccessor`, the number how many more
calls it may make. -/
abbrev Reaction := Bool → ListenerData → KeyEvent → ℕ → BtGtkDeviceManager → Option Call

/-- The manager after an event was recorded. -/
def recorded (l : ListenerData) (e : KeyEvent) (m : BtGtkDeviceManager) : BtGtkDeviceManager :=
  { m with deliveries := m.deliveries ++ [.key l.id e] }

/-- The calls that a listener makes while it is handed an event. -/
def makeCalls (handle : Handler) (next : ℕ → BtGtkDeviceManager → Option Call) :
    ℕ → BtGtkDeviceManager → Except Fault BtGtkDeviceManager
  | 0, m => .ok m
  | n + 1, m =>
    match next n m with
    | none => .ok m
    | some c => do
      let m ← uiStepWith handle m c.uiOp
      makeCalls handle next n m

/-- Listeners that re-enter the manager, up to a depth. Of the functions that they call, only
`addAccessor` and `removeAccessor` call listeners, and these do it from `deselectAccessor`. -/
def reenter (react : Reaction) (calls : ℕ) : (deselecting : Bool) → (depth : ℕ) → Handler
  | _, 0 => record
  | deselecting, depth + 1 => fun l e m => do
    let m ← record l e m
    makeCalls (reenter react calls true depth) (react deselecting l e) calls m

/-- The listeners that the operation calls are called from inside `deselectAccessor`. -/
def Op.deselecting : Op → Bool
  | .ui (.addAccessor _) | .ui (.removeAccessor _) | .ui (.activeChanged ..) => true
  | _ => false

/-- Something that happens to a manager, and what the listeners do in the course of it. -/
structure Input where
  op : Op
  react : Reaction
  /-- How many calls a listener makes at most while it is handed one event. -/
  calls : ℕ
  /-- How many listeners are at most called from inside each other. -/
  depth : ℕ

/-- The listeners in the course of an input. -/
def Input.handle (i : Input) : Handler := reenter i.react i.calls i.op.deselecting i.depth

/-- One thing happens to a manager whose listeners may re-enter it. -/
def reentrantStep (m : BtGtkDeviceManager) (i : Input) : Except Fault BtGtkDeviceManager :=
  stepWith i.handle m i.op

variable {handle : Handler} {m t : BtGtkDeviceManager}

/-- Without nested calls it is the step of a manager whose listeners do not re-enter it. -/
theorem reentrantStep_of_depth_zero {i : Input} (h : i.depth = 0) :
    m.reentrantStep i = m.step i.op := by
  have hhandle : i.handle = record := by
    rw [Input.handle, h, reenter]
  rw [reentrantStep, hhandle, stepWith_record]

/-! ### What holds around callbacks -/

/-- What every call keeps, a listener keeps. -/
theorem makeCalls_invariant {next : ℕ → BtGtkDeviceManager → Option Call}
    {P : BtGtkDeviceManager → Prop} (hcall : ∀ n m c t, next n m = some c → P m →
      uiStepWith handle m c.uiOp = .ok t → P t) {n : ℕ} (hm : P m)
    (ht : makeCalls handle next n m = .ok t) : P t := by
  induction n generalizing m with
  | zero => exact Except.ok.inj ht ▸ hm
  | succ n ih =>
    rw [makeCalls] at ht
    cases hnext : next n m with
    | none =>
      rw [hnext] at ht
      exact Except.ok.inj ht ▸ hm
    | some c =>
      rw [hnext] at ht
      obtain ⟨u, hu, hrest⟩ := Run.bind_eq_ok.mp ht
      exact ih (hcall n m c u hnext hm hu) hrest

/-- The parts of a cancelling function keep `P`, when the events that it hands out are among
`E`. -/
structure KeptByCancels (handle : Handler) (P : BtGtkDeviceManager → Prop)
    (E : ListenerData → KeyEvent → Prop) : Prop where
  handle : ∀ l e m t, P m → E l e → handle l e m = .ok t → P t
  canceledKeys : ∀ m canceledKeys, P m → P { m with canceledKeys }
  depth : ∀ m cancelingNestedDepth, P m → P { m with cancelingNestedDepth }
  release : ∀ m nBackendId, P m → P (m.modifyDevice nBackendId fun d => { d with pressedKeys := ∅ })
  /-- The cancel of a pressed key to a listener that was there when it was pressed. -/
  cancel : ∀ m nBackendId d w x l, P m → m.device nBackendId = some d → x ∈ d.pressedKeys.entries →
    l ∈ m.listeners.1 → l.addedTimeStamp ≤ x.2.pressedTimeStamp → E l (d.cancelEvent w x.1)

namespace KeptByCancels

variable {P : BtGtkDeviceManager → Prop} {E : ListenerData → KeyEvent → Prop}

theorem sendKeyEventToListener (h : KeptByCancels handle P E) {l : ListenerData} {s : ℕ}
    {e : KeyEvent} (he : l.addedTimeStamp ≤ s → E l e) (hm : P m)
    (ht : BtKeysDevice.sendKeyEventToListener handle l s e m = .ok t) : P t := by
  rw [BtKeysDevice.sendKeyEventToListener] at ht
  split_ifs at ht with hlt
  · exact Except.ok.inj ht ▸ hm
  · exact h.handle l e m t hm (he (Nat.not_lt.mp hlt)) ht

theorem cancelKey (h : KeptByCancels handle P E) {l : ListenerData} {s : ℕ} {e : KeyEvent}
    (he : l.addedTimeStamp ≤ s → E l e) (hm : P m)
    (ht : BtKeysDevice.cancelKey handle l s e m = .ok t) : P t := by
  rw [BtKeysDevice.cancelKey] at ht
  split_ifs at ht
  · exact Except.ok.inj ht ▸ hm
  · exact h.sendKeyEventToListener he (h.canceledKeys m _ hm) ht

theorem cancelSelectedAccessorKeys (h : KeptByCancels handle P E) {nBackendId : ℕ} (hm : P m)
    (ht : BtKeysDevice.cancelSelectedAccessorKeys handle nBackendId m = .ok t) : P t := by
  rw [BtKeysDevice.cancelSelectedAccessorKeys] at ht
  cases hd : m.device nBackendId with
  | none =>
    rw [hd] at ht
    cases ht
  | some d =>
    rw [hd] at ht
    simp only at ht
    split_ifs at ht
    · exact Except.ok.inj ht ▸ hm
    · exact Except.ok.inj ht ▸ hm
    · cases hsel : m.selected with
      | none =>
        rw [hsel] at ht
        exact Except.ok.inj ht ▸ hm
      | some refSelected =>
        rw [hsel] at ht
        obtain ⟨u, hu, hrest⟩ := Run.bind_eq_ok.mp ht
        -- both loops go over copies that were made in the state `m`
        have hPu : P u := by
          refine Run.foldlM_invariant (fun s x s' hx hs hs' => ?_) hm hu
          refine Run.foldlM_invariant (fun s l s' hl hs hs' => ?_) hs hs'
          exact h.cancelKey (h.cancel m nBackendId d _ x l hm hd hx hl) hs hs'
        exact Except.ok.inj hrest ▸ h.release u nBackendId hPu

theorem cancelKeysOfListener (h : KeptByCancels handle P E) {d : BtKeysDevice} {w : Window}
    {l : ListenerData} {xs : List (Sigma fun _ : HardwareKey => KeyData)}
    (hxs : ∀ x ∈ xs, l.addedTimeStamp ≤ x.2.pressedTimeStamp → E l (d.cancelEvent w x.1)) (hm : P m)
    (ht : BtKeysDevice.cancelKeysOfListener handle d w l xs m = .ok t) : P t := by
  induction xs generalizing m with
  | nil => exact Except.ok.inj ht ▸ hm
  | cons x xs ih =>
    have ih' {u : BtGtkDeviceManager} := ih (m := u) fun y hy => hxs y (List.mem_cons_of_mem x hy)
    rw [BtKeysDevice.cancelKeysOfListener] at ht
    split_ifs at ht
    · exact ih' hm ht
    · obtain ⟨u, hu, hrest⟩ := Run.bind_eq_ok.mp ht
      have hPu : P u := h.sendKeyEventToListener (hxs x (List.mem_cons_self ..))
        (h.canceledKeys m _ hm) hu
      split_ifs at hrest
      · exact Except.ok.inj hrest ▸ hPu
      · exact ih' hPu hrest

theorem finalizeListener_device (h : KeptByCancels handle P E) {nBackendId : ℕ} {l : ListenerData}
    (hl : ∀ m d w x, P m → m.device nBackendId = some d → x ∈ d.pressedKeys.entries →
      l.addedTimeStamp ≤ x.2.pressedTimeStamp → E l (d.cancelEvent w x.1)) (hm : P m)
    (ht : BtKeysDevice.finalizeListener handle nBackendId l m = .ok t) : P t := by
  rw [BtKeysDevice.finalizeListener] at ht
  cases hd : m.device nBackendId with
  | none =>
    rw [hd] at ht
    cases ht
  | some d =>
    rw [hd] at ht
    simp only at ht
    split_ifs at ht
    · exact Except.ok.inj ht ▸ hm
    · exact Except.ok.inj ht ▸ hm
    · cases hsel : m.selected with
      | none =>
        rw [hsel] at ht
        exact Except.ok.inj ht ▸ hm
      | some refSelected =>
        rw [hsel] at ht
        exact h.cancelKeysOfListener (fun x hx => hl m d _ x hm hd hx) hm ht

theorem endCanceling (h : KeptByCancels handle P E) (hm : P m) :
    P (BtGtkDeviceManager.endCanceling m) := by
  rw [BtGtkDeviceManager.endCanceling]
  dsimp only
  split_ifs
  · exact h.canceledKeys _ _ (h.depth _ _ hm)
  · exact h.depth _ _ hm

theorem deselectAccessor (h : KeptByCancels handle P E)
    (hdeselect : ∀ m, P m → P { m with selected := none }) (hm : P m)
    (ht : deselectAccessor handle m = .ok t) : P t ∧ t.selected = none := by
  obtain ⟨u, hu, hrest⟩ := Run.bind_eq_ok.mp ht
  have hPu : P u := Run.foldlM_invariant
    (fun s nBackendId s' _ hs hs' => h.cancelSelectedAccessorKeys hs hs') (h.depth m _ hm) hu
  obtain rfl := Except.ok.inj hrest
  refine ⟨h.endCanceling (hdeselect u hPu), ?_⟩
  rw [BtGtkDeviceManager.endCanceling]
  dsimp only
  split_ifs <;> rfl

theorem cancelDeviceKeys (h : KeptByCancels handle P E) {nBackendId : ℕ} (hm : P m)
    (ht : cancelDeviceKeys handle nBackendId m = .ok t) : P t := by
  obtain ⟨u, hu, hrest⟩ := Run.bind_eq_ok.mp ht
  exact Except.ok.inj hrest ▸
    h.endCanceling (h.cancelSelectedAccessorKeys (h.depth m _ hm) hu)

theorem finalizeListener (h : KeptByCancels handle P E) {l : ListenerData}
    (hl : ∀ m nBackendId d w x, P m → m.device nBackendId = some d → x ∈ d.pressedKeys.entries →
      l.addedTimeStamp ≤ x.2.pressedTimeStamp → E l (d.cancelEvent w x.1)) (hm : P m)
    (ht : BtGtkDeviceManager.finalizeListener handle l m = .ok t) : P t := by
  obtain ⟨u, hu, hrest⟩ := Run.bind_eq_ok.mp ht
  have hPu : P u := Run.foldlM_invariant (fun s nBackendId s' _ hs hs' =>
    h.finalizeListener_device (fun m d w x => hl m nBackendId d w x) hs hs') (h.depth m _ hm) hu
  exact Except.ok.inj hrest ▸ h.endCanceling hPu

/-- The loop that hands out a key. -/
theorem sendKeyToListeners (h : KeptByCancels handle P E) {nBackendId s : ℕ} {e : KeyEvent}
    {ls : List ListenerData} (he : ∀ l ∈ ls, l.addedTimeStamp ≤ s → E l e) (hm : P m)
    (ht : BtKeysDevice.sendKeyToListeners handle nBackendId s e ls m = .ok t) : P t := by
  induction ls generalizing m with
  | nil => exact Except.ok.inj ht ▸ hm
  | cons l ls ih =>
    obtain ⟨u, hu, hrest⟩ := Run.bind_eq_ok.mp ht
    have hPu : P u := h.sendKeyEventToListener (he l (List.mem_cons_self ..)) hm hu
    split_ifs at hrest
    · exact Except.ok.inj hrest ▸ hPu
    · exact ih (fun l' hl' => he l' (List.mem_cons_of_mem l hl')) hPu hrest

end KeptByCancels

/-- What happens to a manager keeps `P`, when the events that are handed out are among `E`. The
windows and the selection do not matter to `P`. -/
structure KeptByOps (P : BtGtkDeviceManager → Prop) (E : ListenerData → KeyEvent → Prop) :
    Prop where
  recorded : ∀ m l e, P m → E l e → P (m.recorded l e)
  windows : ∀ m t, P m → t.btDevices = m.btDevices → t.nextDeviceId = m.nextDeviceId →
    t.listeners = m.listeners → t.nextTimeStamp = m.nextTimeStamp →
    t.deliveries = m.deliveries → P t
  addListener : ∀ m l, P m → P (m.addListener l)
  removeListener : ∀ m l, P m → P (m.removeListener l)
  release : ∀ m nBackendId, P m → P (m.modifyDevice nBackendId fun d => { d with pressedKeys := ∅ })
  cancel : ∀ m nBackendId d w x l, P m → m.device nBackendId = some d → x ∈ d.pressedKeys.entries →
    l ∈ m.listeners.1 → l.addedTimeStamp ≤ x.2.pressedTimeStamp → E l (d.cancelEvent w x.1)

namespace KeptByOps

variable {P : BtGtkDeviceManager → Prop} {E : ListenerData → KeyEvent → Prop}

theorem keptByCancels (h : KeptByOps P E)
    (hhandle : ∀ l e m t, P m → E l e → handle l e m = .ok t → P t) :
    KeptByCancels handle P E where
  handle := hhandle
  canceledKeys m _ hm := h.windows m _ hm rfl rfl rfl rfl rfl
  depth m _ hm := h.windows m _ hm rfl rfl rfl rfl rfl
  release := h.release
  cancel := h.cancel

theorem deselectAccessor (h : KeptByOps P E) (hc : KeptByCancels handle P E) (hm : P m)
    (ht : deselectAccessor handle m = .ok t) : P t :=
  (hc.deselectAccessor (fun m hm => h.windows m _ hm rfl rfl rfl rfl rfl) hm ht).1

theorem removeAccessorAt (h : KeptByOps P E) (hc : KeptByCancels handle P E) {itGtkData : ℕ}
    (hm : P m) (ht : removeAccessorAt handle itGtkData m = .ok t) : P t := by
  rw [BtGtkDeviceManager.removeAccessorAt] at ht
  cases hget : m.gtkWindowData[itGtkData]? with
  | none =>
    rw [hget] at ht
    cases ht
  | some e =>
    rw [hget] at ht
    simp only at ht
    split_ifs at ht
    · refine h.deselectAccessor hc ?_ ht
      exact h.windows m _ hm rfl rfl rfl rfl rfl
    · exact Except.ok.inj ht ▸ h.windows m _ hm rfl rfl rfl rfl rfl

theorem select (h : KeptByOps P E) (hm : P m) (refData : WindowDataId) :
    P { m with selected := some refData } :=
  h.windows m _ hm rfl rfl rfl rfl rfl

theorem addAccessor (h : KeptByOps P E) (hc : KeptByCancels handle P E) {refAccessor : Accessor}
    (hm : P m) {r : Bool × BtGtkDeviceManager} (hr : addAccessor handle refAccessor m = .ok r) :
    P r.2 := by
  cases hw : refAccessor.gtkWindow with
  | none =>
    simp only [BtGtkDeviceManager.addAccessor, hw] at hr
    exact Except.ok.inj hr ▸ hm
  | some w =>
    have hadd : P (m.addWindowData w) := h.windows m _ hm rfl rfl rfl rfl rfl
    simp only [BtGtkDeviceManager.addAccessor, hw] at hr
    split_ifs at hr
    · -- a deleted window
      cases hfind : m.findWindow w with
      | none =>
        rw [hfind] at hr
        exact Except.ok.inj hr ▸ hm
      | some itFind =>
        rw [hfind] at hr
        obtain ⟨u, hu, hrest⟩ := Run.bind_eq_ok.mp hr
        exact Except.ok.inj hrest ▸ h.removeAccessorAt hc hm hu
    · exact Except.ok.inj hr ▸ hm
    · -- the new window is active
      cases hsel : (m.addWindowData w).selected with
      | none =>
        rw [hsel] at hr
        exact Except.ok.inj hr ▸ h.select hadd _
      | some refSelected =>
        rw [hsel] at hr
        simp only at hr
        split_ifs at hr
        · cases hfind : (m.addWindowData w).findWindow
              ((m.addWindowData w).windowData refSelected).accessor with
          | none =>
            rw [hfind] at hr
            cases hr
          | some itSelectedFind =>
            rw [hfind] at hr
            obtain ⟨u, hu, hrest⟩ := Run.bind_eq_ok.mp hr
            exact Except.ok.inj hrest ▸ h.select (h.removeAccessorAt hc hadd hu) _
        · obtain ⟨u, hu, hrest⟩ := Run.bind_eq_ok.mp hr
          exact Except.ok.inj hrest ▸ h.select (h.deselectAccessor hc hadd hu) _
    · cases hsel : (m.addWindowData w).selected with
      | none =>
        rw [hsel] at hr
        exact Except.ok.inj hr ▸ hadd
      | some refSelected =>
        rw [hsel] at hr
        obtain ⟨u, hu, hrest⟩ := Run.bind_eq_ok.mp hr
        exact Except.ok.inj hrest ▸ h.deselectAccessor hc hadd hu

theorem removeAccessor (h : KeptByOps P E) (hc : KeptByCancels handle P E)
    {refAccessor : Accessor} (hm : P m) {r : Bool × BtGtkDeviceManager}
    (hr : removeAccessor handle refAccessor m = .ok r) : P r.2 := by
  rw [BtGtkDeviceManager.removeAccessor] at hr
  cases hfind : refAccessor.gtkWindow.bind fun w => m.findWindow w with
  | none =>
    rw [hfind] at hr
    exact Except.ok.inj hr ▸ hm
  | some itFind =>
    rw [hfind] at hr
    obtain ⟨u, hu, hrest⟩ := Run.bind_eq_ok.mp hr
    exact Except.ok.inj hrest ▸ h.removeAccessorAt hc hm hu

theorem onIsActiveChanged (h : KeptByOps P E) (hc : KeptByCancels handle P E)
    {refWindowData : WindowDataId} (hm : P m)
    (ht : onIsActiveChanged handle refWindowData m = .ok t) : P t := by
  rw [BtGtkDeviceManager.onIsActiveChanged] at ht
  dsimp only at ht
  split_ifs at ht
  · exact Except.ok.inj ht ▸ hm
  · exact Except.ok.inj ht ▸ hm
  · obtain ⟨u, hu, hrest⟩ := Run.bind_eq_ok.mp ht
    exact Except.ok.inj hrest ▸ h.select (h.deselectAccessor hc hm hu) _
  · exact Except.ok.inj ht ▸ h.select hm _
  · exact h.deselectAccessor hc hm ht
  · exact Except.ok.inj ht ▸ hm

/-- An operation on windows or listeners. A listener that is finalized need not be there. -/
theorem uiStepWith (h : KeptByOps P E) (hc : KeptByCancels handle P E) {op : UiOp}
    (hfinalize : ∀ l, op = .finalizeListener l → ∀ m nBackendId d w x, P m →
      m.device nBackendId = some d → x ∈ d.pressedKeys.entries →
      l.addedTimeStamp ≤ x.2.pressedTimeStamp → E l (d.cancelEvent w x.1))
    (hm : P m) (ht : uiStepWith handle m op = .ok t) : P t := by
  cases op with
  | addAccessor refAccessor =>
    obtain ⟨r, hr, hrest⟩ := Run.bind_eq_ok.mp ht
    exact Except.ok.inj hrest ▸ h.addAccessor hc hm hr
  | removeAccessor refAccessor =>
    obtain ⟨r, hr, hrest⟩ := Run.bind_eq_ok.mp ht
    exact Except.ok.inj hrest ▸ h.removeAccessor hc hm hr
  | activeChanged w isActive =>
    have hset : P (m.setWindow w { m.windows w with isActive }) :=
      h.windows m _ hm rfl rfl rfl rfl rfl
    simp only [BtGtkDeviceManager.uiStepWith, reportActive] at ht
    cases hfind : (m.setWindow w { m.windows w with isActive }).gtkWindowData.find? (·.1 = w) with
    | none =>
      rw [hfind] at ht
      exact Except.ok.inj ht ▸ hset
    | some e =>
      rw [hfind] at ht
      exact h.onIsActiveChanged hc hset ht
  | windowChanged w state => exact Except.ok.inj ht ▸ h.windows m _ hm rfl rfl rfl rfl rfl
  | enableEventClass c => exact Except.ok.inj ht ▸ h.windows m _ hm rfl rfl rfl rfl rfl
  | addListener l => exact Except.ok.inj ht ▸ h.addListener m l hm
  | finalizeListener l => exact hc.finalizeListener (hfinalize l rfl) hm ht
  | removeListener l => exact Except.ok.inj ht ▸ h.removeListener m l hm

/-- What listeners call keeps `P`, if what they are called for does. -/
theorem makeCalls (h : KeptByOps P E) (hc : KeptByCancels handle P E)
    {next : ℕ → BtGtkDeviceManager → Option Call} {n : ℕ} (hm : P m)
    (ht : makeCalls handle next n m = .ok t) : P t := by
  refine makeCalls_invariant (fun n s c s' _ hs hs' => ?_) hm ht
  refine h.uiStepWith hc (fun l hl => ?_) hs hs'
  cases c <;> cases hl

/-- Listeners that do not re-enter the manager keep `P`. -/
theorem keptByRecord (h : KeptByOps P E) : KeptByCancels record P E :=
  h.keptByCancels fun l e m _ hm he ht => Except.ok.inj ht ▸ h.recorded m l e hm he

/-- Listeners that re-enter the manager keep `P`, however deep their calls are nested. -/
theorem reenter (h : KeptByOps P E) (react : Reaction) (calls : ℕ) (deselecting : Bool)
    (depth : ℕ) : KeptByCancels (reenter react calls deselecting depth) P E := by
  induction depth generalizing deselecting with
  | zero => exact h.keptByRecord
  | succ depth ih =>
    exact h.keptByCancels fun l e m t hm he ht => h.makeCalls (ih true) (h.recorded m l e hm he) ht

end KeptByOps

/-! ### What the backend calls -/

/-- The keys of a device are cancelled before it is removed. -/
theorem onDeviceRemoved_cases {nBackendId : ℕ} (ht : onDeviceRemoved handle nBackendId m = .ok t) :
    ∃ u d, cancelDeviceKeys handle nBackendId m = .ok u ∧
      t = deviceRemoved nBackendId d
        (u.modifyDevice nBackendId fun d => { d with hasOwner := false }) := by
  obtain ⟨-, -, ht⟩ := Run.bind_eq_ok.mp ht
  obtain ⟨-, -, ht⟩ := Run.bind_eq_ok.mp ht
  obtain ⟨u, hu, ht⟩ := Run.bind_eq_ok.mp ht
  dsimp only at ht
  let removing := u.modifyDevice nBackendId fun d => { d with hasOwner := false }
  cases hd : removing.device nBackendId with
  | none =>
    rw [hd] at ht
    cases ht
  | some d =>
    rw [hd] at ht
    exact ⟨u, d, hu, (Except.ok.inj ht).symm⟩

/-! ### Calls that deselect no window -/

/-- The manager after the calls of a listener, unless one of them deselects a window. -/
def settle (next : ℕ → BtGtkDeviceManager → Option Call) :
    ℕ → BtGtkDeviceManager → Option BtGtkDeviceManager
  | 0, m => some m
  | n + 1, m =>
    match next n m with
    | none => some m
    | some c =>
      if m.deselects c.uiOp then none
      else settle next n ((m.prepare c.uiOp).select (m.selects c.uiOp))

/-- The normal form of a call that does not deselect one window to select another one. -/
theorem uiStepWith_call (handle : Handler) {c : Call}
    (h : m.deselects c.uiOp → m.selects c.uiOp = none) : uiStepWith handle m c.uiOp =
      (if m.deselects c.uiOp then deselectAccessor handle (m.prepare c.uiOp)
      else .ok (m.prepare c.uiOp)).map (select (m.selects c.uiOp)) := by
  cases c with
  | addAccessor refAccessor =>
    exact uiStepWith_addAccessor handle fun hdes hsel => absurd (h hdes) hsel
  | removeAccessor refAccessor =>
    exact (uiStepWith_removeAccessor handle refAccessor m).trans (map_select_none _).symm
  | addListener l => rfl
  | windowChanged w state => rfl

theorem makeCalls_of_settle (handle : Handler) {next : ℕ → BtGtkDeviceManager → Option Call}
    {n : ℕ} (h : settle next n m = some t) : makeCalls handle next n m = .ok t := by
  induction n generalizing m with
  | zero => exact congrArg Except.ok (Option.some.inj h)
  | succ n ih =>
    rw [settle] at h
    rw [makeCalls]
    cases hnext : next n m with
    | none =>
      rw [hnext] at h
      exact congrArg Except.ok (Option.some.inj h)
    | some c =>
      rw [hnext] at h
      simp only at h
      split_ifs at h with hdes
      have hcall := uiStepWith_call handle (m := m) (c := c) fun hyes => absurd hyes hdes
      rw [if_neg hdes] at hcall
      simp only [hcall]
      exact ih h

/-- Such calls hand out nothing and change no device. -/
theorem sameDevices_of_settle {next : ℕ → BtGtkDeviceManager → Option Call} {n : ℕ}
    (h : settle next n m = some t) :
    t.btDevices = m.btDevices ∧ t.deliveries = m.deliveries := by
  induction n generalizing m with
  | zero =>
    obtain rfl := Option.some.inj h
    exact ⟨rfl, rfl⟩
  | succ n ih =>
    rw [settle] at h
    cases hnext : next n m with
    | none =>
      rw [hnext] at h
      obtain rfl := Option.some.inj h
      exact ⟨rfl, rfl⟩
    | some c =>
      rw [hnext] at h
      simp only at h
      split_ifs at h
      have hsame := sameDevices_prepare m c.uiOp
      obtain ⟨hdevices, hdeliveries⟩ := ih h
      exact ⟨hdevices.trans hsame.btDevices, hdeliveries.trans hsame.deliveries⟩

end BtGtkDeviceManager

end StmmInputBt
