import StmmInputBt.Manager.ActiveWindow
import StmmInputBt.Manager.Reentry

/-!
# Windows that listeners select

A listener that is handed a cancel may add a window that is active by now. The manager selects
it, but when this happens inside `deselectAccessor`, the selection is reset at the end all the
same, and the window stays active without being selected. Away from that, what the listeners call
keeps the selected window the active one: around the callbacks of `deselectAccessor` no tracked
window is active, and around all others the selection agrees.

## Main definitions

* `BtGtkDeviceManager.Idle`: no tracked window is active.
* `BtGtkDeviceManager.Reaction.Orderly`: what is assumed of the windows when listeners call.
* `BtGtkDeviceManager.Reaction.SelectsOutside`: no listener adds an active window from inside
  `deselectAccessor`.

## Main results

* `BtGtkDeviceManager.Agrees.uiStepWith`: an operation whose cancels leave the windows idle.
* `BtGtkDeviceManager.agrees_of_guarded`: the selection agrees along every run in which no
  listener adds an active window from inside `deselectAccessor`.
-/

namespace StmmInputBt

namespace BtGtkDeviceManager

/-- No tracked window is active. -/
def Idle (m : BtGtkDeviceManager) : Prop :=
  ∀ e ∈ m.gtkWindowData, (m.windows e.1).isActive = false

/-- The window data is tracked, and the windows are in order. -/
structure Tidy (m : BtGtkDeviceManager) : Prop extends WindowDataTracked m, WindowsInOrder m

/-- The windows are in order before anything is deselected or selected, and changes of active
flags are reported. -/
structure OrderlyOp (m : BtGtkDeviceManager) (op : UiOp) : Prop where
  prepared : (m.prepare op).WindowsInOrder
  reported : m.ReportsActive (.ui op)

def Op.toUiOp : Op → Option UiOp
  | .ui op => some op
  | _ => none

/-- The windows are in order when the step begins, and its operation keeps them in order. -/
structure OrderlyInput (m : BtGtkDeviceManager) (i : Input) : Prop where
  before : m.WindowsInOrder
  op : ∀ op ∈ i.op.toUiOp, m.OrderlyOp op

/-- Whatever a listener calls keeps the windows in order. -/
def Reaction.Orderly (react : Reaction) : Prop :=
  ∀ deselecting l e n m c, react deselecting l e n m = some c → m.WindowsInOrder →
    m.OrderlyOp c.uiOp

/-- From inside `deselectAccessor` no listener adds a window that would be selected. Elsewhere none
adds an idle window while one is selected. -/
structure Reaction.SelectsOutside (react : Reaction) : Prop where
  inside : ∀ l e n m refAccessor, react true l e n m = some (.addAccessor refAccessor) →
    m.selects (.addAccessor refAccessor) = none
  outside : ∀ l e n m c, react false l e n m = some c → m.NoIdleAdd (.ui c.uiOp)

instance (m : BtGtkDeviceManager) (op : UiOp) : Decidable (m.OrderlyOp op) :=
  decidable_of_iff ((m.prepare op).WindowsInOrder ∧ m.ReportsActive (.ui op))
    ⟨fun h => ⟨h.1, h.2⟩, fun h => ⟨h.prepared, h.reported⟩⟩

instance (m : BtGtkDeviceManager) (i : Input) : Decidable (m.OrderlyInput i) :=
  decidable_of_iff (m.WindowsInOrder ∧ ∀ op ∈ i.op.toUiOp, m.OrderlyOp op)
    ⟨fun h => ⟨h.1, h.2⟩, fun h => ⟨h.before, h.op⟩⟩

variable {handle : Handler} {m t : BtGtkDeviceManager}

theorem Idle.of_eq (h : m.Idle) (hwindows : t.windows = m.windows)
    (hentries : t.gtkWindowData = m.gtkWindowData) : t.Idle := by
  intro e he
  rw [hwindows]
  exact h e (hentries ▸ he)

theorem Idle.agrees (h : m.Idle) (hsel : m.selected = none) : m.Agrees := by
  intro d
  rw [hsel]
  refine iff_of_false (by simp) ?_
  rintro ⟨w, hmem, hactive⟩
  rw [h _ hmem] at hactive
  cases hactive

theorem Tidy.of_eq (h : m.Tidy) (hwindows : t.windows = m.windows)
    (hentries : t.gtkWindowData = m.gtkWindowData) (hdata : t.windowData = m.windowData)
    (hnext : t.nextWindowData = m.nextWindowData) (hnull : none ∉ t.btDevices) : t.Tidy := by
  refine ⟨h.toWindowDataTracked.of_eq hentries hdata hnext, ?_, ?_, hnull⟩
  · rw [hentries, hwindows]
    exact h.notDeleted
  · rw [hentries, hwindows]
    exact h.oneActive

/-- The selected window is tracked, since it is active. -/
theorem Agrees.windowsTracked (h : m.Agrees) (hw : m.WindowDataTracked) : m.WindowsTracked := by
  refine ⟨hw, fun d hd => ?_⟩
  obtain ⟨w, hmem, -⟩ := (h d).mp hd
  exact ⟨w, hmem⟩

theorem noNull_modifyDevice (hnull : none ∉ m.btDevices) (nBackendId : ℕ)
    (f : BtKeysDevice → BtKeysDevice) : none ∉ (m.modifyDevice nBackendId f).btDevices := by
  rw [List.mem_iff_getElem?] at hnull ⊢
  rintro ⟨i, hi⟩
  refine hnull ⟨i, ?_⟩
  simp only [modifyDevice, List.getElem?_modify] at hi
  cases hget : m.btDevices[i]? with
  | none => simp [hget] at hi
  | some d =>
    rw [hget] at hi
    by_cases heq : nBackendId = i <;> simpa [heq] using hi

/-! ### Around callbacks -/

/-- The listeners keep `Q` when they are handed an event while the windows are in order. -/
def Keeps (Q : BtGtkDeviceManager → Prop) (handle : Handler) : Prop :=
  ∀ l e m t, m.Tidy → Q m → handle l e m = .ok t → t.Tidy ∧ Q t

/-- A property of the windows and the selection. -/
def AboutWindows (Q : BtGtkDeviceManager → Prop) : Prop :=
  ∀ m t, Q m → t.windows = m.windows → t.gtkWindowData = m.gtkWindowData →
    t.selected = m.selected → Q t

theorem aboutWindows_idle : AboutWindows Idle := fun _ _ h hwindows hentries _ =>
  h.of_eq hwindows hentries

theorem aboutWindows_agrees : AboutWindows Agrees := fun _ _ h hwindows hentries hsel =>
  h.of_eq hentries hsel fun _ _ => by rw [hwindows]

theorem Keeps.keptByCancels {Q : BtGtkDeviceManager → Prop} (h : Keeps Q handle)
    (hQ : AboutWindows Q) :
    KeptByCancels handle (fun m => m.Tidy ∧ Q m) fun _ _ => True where
  handle l e m t hm _ ht := h l e m t hm.1 hm.2 ht
  canceledKeys m _ hm := ⟨hm.1.of_eq rfl rfl rfl rfl hm.1.noNull, hQ m _ hm.2 rfl rfl rfl⟩
  depth m _ hm := ⟨hm.1.of_eq rfl rfl rfl rfl hm.1.noNull, hQ m _ hm.2 rfl rfl rfl⟩
  release m nBackendId hm :=
    ⟨hm.1.of_eq rfl rfl rfl rfl (noNull_modifyDevice hm.1.noNull nBackendId _),
      hQ m _ hm.2 rfl rfl rfl⟩
  cancel _ _ _ _ _ _ _ _ _ _ _ := trivial

/-- Deselecting while no window is active. -/
theorem Keeps.deselectAccessor (h : Keeps Idle handle) (htidy : m.Tidy) (hidle : m.Idle)
    (ht : deselectAccessor handle m = .ok t) : t.Tidy ∧ t.Idle ∧ t.selected = none := by
  obtain ⟨hkept, hsel⟩ := (h.keptByCancels aboutWindows_idle).deselectAccessor
    (fun m hm => ⟨hm.1.of_eq rfl rfl rfl rfl hm.1.noNull, hm.2.of_eq rfl rfl⟩) ⟨htidy, hidle⟩ ht
  exact ⟨hkept.1, hkept.2, hsel⟩

/-! ### Inside `deselectAccessor` -/

theorem idle_untrack (h : m.Idle) (hw : m.WindowDataTracked) (w : Window) : (m.untrack w).Idle := by
  intro e he
  rw [windows_untrack]
  exact h e (hw.mem_untrack.mp he).1

/-- A call that selects nothing keeps the windows idle. -/
theorem Idle.prepare_call (h : m.Idle) (hw : m.WindowDataTracked) {c : Call}
    (hreport : m.ReportsActive (.ui c.uiOp)) (hsel : m.selects c.uiOp = none) :
    (m.prepare c.uiOp).Idle := by
  cases c with
  | addAccessor refAccessor =>
    cases hgw : refAccessor.gtkWindow with
    | none => simpa [Call.uiOp, prepare, hgw] using h
    | some w =>
      cases hdel : (m.windows w).isDeleted with
      | true => simpa [Call.uiOp, prepare, hgw, hdel] using idle_untrack h hw w
      | false =>
        cases hnew : m.entryOf w with
        | some d => simpa [Call.uiOp, prepare, hgw, hdel, hnew] using h
        | none =>
          have hidle : (m.windows w).isActive = false := by
            simpa [Call.uiOp, selects, hgw, hdel, hnew] using hsel
          have hprepare : m.prepare (.addAccessor refAccessor) = m.addWindowData w := by
            simp only [prepare, hgw, hdel, hnew, hidle]
            cases m.selectedWindow <;> simp
          intro e he
          rw [Call.uiOp, hprepare] at he ⊢
          rcases List.mem_append.mp he with he | he
          · exact h e he
          · rw [List.mem_singleton.mp he]
            exact hidle
  | removeAccessor refAccessor =>
    cases hgw : refAccessor.gtkWindow with
    | none => simpa [Call.uiOp, prepare, hgw] using h
    | some w => simpa [Call.uiOp, prepare, hgw] using idle_untrack h hw w
  | addListener l =>
    simp only [Call.uiOp, prepare, addListener]
    split_ifs
    · exact h
    · exact h.of_eq rfl rfl
  | windowChanged w state =>
    intro e he
    by_cases hew : e.1 = w
    · have hsome : (m.entryOf w).isSome := by
        rw [Option.isSome_iff_ne_none]
        exact fun hnone => entryOf_eq_none.mp hnone e he hew
      have hsame := hreport hsome
      simp only [Call.uiOp, prepare, setWindow, hew, Function.update_self, hsame]
      exact hew ▸ h e he
    · simp only [Call.uiOp, prepare, setWindow, Function.update_of_ne hew]
      exact h e he

theorem Idle.uiStepWith_call (h : m.Idle) (htidy : m.Tidy) {c : Call}
    (horder : m.OrderlyOp c.uiOp) (hsel : m.selects c.uiOp = none) (hh : Keeps Idle handle)
    (ht : uiStepWith handle m c.uiOp = .ok t) : t.Tidy ∧ t.Idle := by
  have hprepared : (m.prepare c.uiOp).Tidy :=
    ⟨htidy.toWindowDataTracked.prepare c.uiOp, horder.prepared⟩
  have hidle := h.prepare_call htidy.toWindowDataTracked horder.reported hsel
  rw [BtGtkDeviceManager.uiStepWith_call handle fun _ => hsel, hsel, map_select_none] at ht
  split_ifs at ht
  · obtain ⟨htidy', hidle', -⟩ := hh.deselectAccessor hprepared hidle ht
    exact ⟨htidy', hidle'⟩
  · exact Except.ok.inj ht ▸ ⟨hprepared, hidle⟩

/-- Whatever listeners call from inside `deselectAccessor`, the windows stay idle. -/
theorem keepsIdle_reenter {react : Reaction} (horder : react.Orderly)
    (hselects : react.SelectsOutside) (calls depth : ℕ) :
    Keeps Idle (reenter react calls true depth) := by
  induction depth with
  | zero =>
    intro l e m t htidy hidle ht
    obtain rfl := Except.ok.inj ht
    exact ⟨htidy.of_eq rfl rfl rfl rfl htidy.noNull, hidle.of_eq rfl rfl⟩
  | succ depth ih =>
    intro l e m t htidy hidle ht
    have hrecorded : (m.recorded l e).Tidy ∧ (m.recorded l e).Idle :=
      ⟨htidy.of_eq rfl rfl rfl rfl htidy.noNull, hidle.of_eq rfl rfl⟩
    refine makeCalls_invariant (P := fun m => m.Tidy ∧ m.Idle) (fun n s c s' hc hs hs' => ?_)
      hrecorded ht
    have hsel : s.selects c.uiOp = none := by
      cases c with
      | addAccessor refAccessor => exact hselects.inside l e n s refAccessor hc
      | _ => rfl
    exact hs.2.uiStepWith_call hs.1 (horder true l e n s c hc hs.1.toWindowsInOrder) hsel ih hs'

/-! ### Outside `deselectAccessor` -/

/-- An operation that deselects the active window selects no other one. -/
theorem Agrees.selects_eq_none (h : m.Agrees) (hw : m.WindowsTracked) (horder : m.WindowsInOrder)
    {op : UiOp} (hprepared : (m.prepare op).WindowsInOrder) (hdes : m.deselects op) :
    m.selects op = none := by
  obtain ⟨s, hs⟩ := Option.ne_none_iff_exists'.mp (selected_ne_none_of_deselects hdes)
  obtain ⟨ws, hmem, hactive⟩ := (h s).mp hs
  by_contra hne
  obtain ⟨d, hsel⟩ := Option.ne_none_iff_exists'.mp hne
  cases op with
  | addAccessor refAccessor =>
    obtain ⟨w, hgw, hd⟩ := Option.bind_eq_some_iff.mp hsel
    simp only [Option.ite_none_right_eq_some, Bool.and_eq_true, Bool.not_eq_true',
      Option.isNone_iff_eq_none] at hd
    obtain ⟨⟨⟨hdel, hnew⟩, hidle⟩, -⟩ := hd
    have hselW : m.selectedWindow = some ws := by simp [selectedWindow, hs, hw.data _ hmem]
    have hprepare : m.prepare (.addAccessor refAccessor) = m.addWindowData w := by
      simp [prepare, hgw, hdel, hnew, hselW, horder.notDeleted _ hmem]
    rw [hprepare] at hprepared
    -- the new window and the selected one are both active
    have heq : w = ws := hprepared.oneActive (w, m.nextWindowData)
      (List.mem_append_right _ (List.mem_singleton_self _)) (ws, s) (List.mem_append_left _ hmem)
      hidle hactive
    exact entryOf_eq_none.mp hnew _ hmem heq.symm
  | activeChanged w isActive =>
    simp only [selects, Option.ite_none_right_eq_some, Bool.and_eq_true, Bool.not_eq_true'] at hsel
    obtain ⟨⟨rfl, hdel⟩, hentry⟩ := hsel
    simp only [deselects, hdel, hentry, Bool.not_false, Bool.and_self, if_true, Option.isSome_some,
      Bool.true_and, Bool.and_eq_true, Bool.not_eq_true'] at hdes
    have hmem' := hw.toWindowDataTracked.entryOf_eq_some.mp hentry
    have hother : ws ≠ w := by
      rintro rfl
      rw [h.isSelectedWindow_iff hw hmem', hactive] at hdes
      exact Bool.false_ne_true hdes.2.symm
    refine hother (hprepared.oneActive (ws, s) hmem (w, d) hmem' ?_ ?_)
    · simpa [prepare, setWindow, Function.update_of_ne hother] using hactive
    · simp [prepare, setWindow]
  | _ => cases hsel

theorem noNull_uiStep (hw : m.WindowsTracked) (hnull : none ∉ m.btDevices) {op : UiOp}
    (ht : m.uiStep op = .ok t) : none ∉ t.btDevices := by
  obtain ⟨l, es, canceledKeys, rfl, rfl⟩ | ⟨-, rfl⟩ | ⟨-, -, es, canceledKeys, rfl⟩ :=
    uiStep_cases hw ht
  · exact hnull
  · exact (sameDevices_prepare m op).btDevices ▸ hnull
  · simpa [select, appendKeyEvents] using hnull

/-- An operation with listeners that leave the windows idle when it deselects one. It ends with
the windows and the selection that it has without any listeners. -/
theorem Agrees.uiStepWith (h : m.Agrees) (htidy : m.Tidy) {op : UiOp}
    (hop : ∀ l, op ≠ .finalizeListener l) (horder : m.OrderlyOp op) (hno : m.NoIdleAdd (.ui op))
    (hh : m.deselects op → Keeps Idle handle) (ht : uiStepWith handle m op = .ok t) :
    t.Tidy ∧ t.Agrees := by
  have hw := h.windowsTracked htidy.toWindowDataTracked
  have hprepared : (m.prepare op).Tidy :=
    ⟨htidy.toWindowDataTracked.prepare op, horder.prepared⟩
  obtain ⟨r, hr⟩ : ∃ r, m.uiStep op = .ok r := by
    cases hr : m.uiStep op with
    | ok r => exact ⟨r, rfl⟩
    | error e =>
      have hnull := (uiStep_eq_error hw hr).2.2
      exact absurd (hasNull_eq_true.mp hnull) htidy.noNull
  obtain ⟨hwindows, hentries, hselected⟩ := uiStep_windows hw hr
  have hafter : r.WindowsInOrder := by
    refine ⟨?_, ?_, noNull_uiStep hw htidy.noNull hr⟩
    · rw [hwindows, hentries]
      exact horder.prepared.notDeleted
    · rw [hwindows, hentries]
      exact horder.prepared.oneActive
  have hagrees : r.Agrees :=
    (h.uiStep_iff hw htidy.toWindowsInOrder hafter horder.reported hr).mpr hno
  cases hdes : m.deselects op with
  | true =>
    have hsel := h.selects_eq_none hw htidy.toWindowsInOrder horder.prepared hdes
    rw [hsel, hdes] at hselected
    have hidle : (m.prepare op).Idle := by
      intro e he
      rw [← hwindows]
      exact hagrees.not_active hselected (hentries ▸ he)
    rw [uiStepWith_eq handle hw hop, hdes, if_pos rfl, hsel, map_select_none] at ht
    obtain ⟨htidy', hidle', hnone⟩ := (hh hdes).deselectAccessor hprepared hidle ht
    exact ⟨htidy', hidle'.agrees hnone⟩
  | false =>
    rw [uiStep_eq hw hop, hdes] at hr
    rw [uiStepWith_eq handle hw hop, hdes] at ht
    have hrt : r = t := Except.ok.inj (hr.symm.trans ht)
    obtain rfl := Except.ok.inj ht
    exact ⟨⟨hprepared.toWindowDataTracked.of_eq rfl rfl rfl, hrt ▸ hafter⟩, hrt ▸ hagrees⟩

/-- Outside, whatever listeners call keeps the selection in agreement. -/
theorem keepsAgrees_reenter {react : Reaction} (horder : react.Orderly)
    (hselects : react.SelectsOutside) (calls depth : ℕ) :
    Keeps Agrees (reenter react calls false depth) := by
  intro l e m t htidy hagrees ht
  have hrecorded : (m.recorded l e).Tidy ∧ (m.recorded l e).Agrees :=
    ⟨htidy.of_eq rfl rfl rfl rfl htidy.noNull, aboutWindows_agrees m _ hagrees rfl rfl rfl⟩
  cases depth with
  | zero => exact Except.ok.inj ht ▸ hrecorded
  | succ depth =>
    refine makeCalls_invariant (P := fun m => m.Tidy ∧ m.Agrees) (fun n s c s' hc hs hs' => ?_)
      hrecorded ht
    refine hs.2.uiStepWith hs.1 (fun l hl => ?_)
      (horder false l e n s c hc hs.1.toWindowsInOrder) (hselects.outside l e n s c hc)
      (fun _ => keepsIdle_reenter horder hselects calls depth) hs'
    cases c <;> cases hl

/-! ### Runs -/

/-- What holds between steps. -/
structure Selecting (m : BtGtkDeviceManager) : Prop extends WindowDataTracked m where
  agrees : m.Agrees

theorem Selecting.of_eq (h : m.Selecting) (hwindows : t.windows = m.windows)
    (hentries : t.gtkWindowData = m.gtkWindowData) (hdata : t.windowData = m.windowData)
    (hnext : t.nextWindowData = m.nextWindowData) (hsel : t.selected = m.selected) :
    t.Selecting :=
  ⟨h.toWindowDataTracked.of_eq hentries hdata hnext,
    aboutWindows_agrees m t h.agrees hwindows hentries hsel⟩

theorem selecting_deviceAdded (h : m.Selecting) {sName : BdAddr} {nBackendId : ℕ}
    (ht : m.onDeviceAdded sName nBackendId = .ok t) : t.Selecting := by
  obtain ⟨-, -, ht⟩ := Run.bind_eq_ok.mp ht
  obtain ⟨-, -, ht⟩ := Run.bind_eq_ok.mp ht
  exact Except.ok.inj ht ▸ h.of_eq rfl rfl rfl rfl rfl

theorem selecting_blueKey (htidy : m.Tidy) (hagrees : m.Agrees) (hh : Keeps Agrees handle)
    {nBackendId : ℕ} {eType : KeyInputType} {eHK : HardwareKey} {r : Bool × BtGtkDeviceManager}
    (hr : onBlueKey handle nBackendId eType eHK m = .ok r) : r.2.Tidy ∧ r.2.Agrees := by
  have hkept := hh.keptByCancels aboutWindows_agrees
  have hmodify (f : BtKeysDevice → BtKeysDevice) (nextTimeStamp : ℕ) :
      Tidy { m.modifyDevice nBackendId f with nextTimeStamp } ∧
        Agrees { m.modifyDevice nBackendId f with nextTimeStamp } :=
    ⟨htidy.of_eq rfl rfl rfl rfl (noNull_modifyDevice htidy.noNull nBackendId f),
      aboutWindows_agrees m _ hagrees rfl rfl rfl⟩
  have hkeyed : (m.keyed nBackendId eType eHK).Tidy ∧ (m.keyed nBackendId eType eHK).Agrees := by
    obtain hsame | ⟨-, -, -, -, -, -, hpressed⟩ | ⟨-, hreleased⟩ :=
      keyed_cases nBackendId eType eHK m
    · rw [hsame]
      exact ⟨htidy, hagrees⟩
    · exact hpressed ▸ hmodify _ (m.nextTimeStamp + 1)
    · exact hreleased ▸ hmodify _ m.nextTimeStamp
  obtain ⟨hsame, -⟩ | ⟨_, _, _, -, -, -, hsend⟩ := onBlueKey_cases hr
  · exact hsame ▸ ⟨htidy, hagrees⟩
  · exact hkept.sendKeyToListeners (fun _ _ _ => trivial) hkeyed hsend

theorem deselecting_of_deselects {op : UiOp} (h : m.deselects op) :
    (Op.ui op).deselecting = true := by
  cases op with
  | addAccessor _ => rfl
  | removeAccessor _ => rfl
  | activeChanged _ _ => rfl
  | _ => cases h

theorem Selecting.step (h : m.Selecting) {i : Input} (horder : m.OrderlyInput i)
    (hno : m.NoIdleAdd i.op) (hreact : i.react.Orderly ∧ i.react.SelectsOutside)
    (ht : m.reentrantStep i = .ok t) : t.Selecting := by
  have htidy : m.Tidy := ⟨h.toWindowDataTracked, horder.before⟩
  have hinside := keepsIdle_reenter hreact.1 hreact.2 i.calls i.depth
  have houtside := keepsAgrees_reenter hreact.1 hreact.2 i.calls i.depth
  rw [reentrantStep, Input.handle] at ht
  cases hop : i.op with
  | deviceAdded sName nBackendId =>
    rw [hop] at ht
    exact selecting_deviceAdded h ht
  | deviceRemoved nBackendId =>
    rw [hop] at ht
    obtain ⟨u, d, hu, rfl⟩ := onDeviceRemoved_cases ht
    have hkept := (houtside.keptByCancels aboutWindows_agrees).cancelDeviceKeys
      ⟨htidy, h.agrees⟩ hu
    have hselecting : u.Selecting := ⟨hkept.1.toWindowDataTracked, hkept.2⟩
    exact hselecting.of_eq rfl rfl rfl rfl rfl
  | blueKey nBackendId eType eHK =>
    rw [hop] at ht
    obtain ⟨r, hr, hrest⟩ := Run.bind_eq_ok.mp ht
    have hkept := selecting_blueKey htidy h.agrees houtside hr
    exact Except.ok.inj hrest ▸ ⟨hkept.1.toWindowDataTracked, hkept.2⟩
  | ui op =>
    rw [hop] at ht hno
    have horder' := horder.op op (by simp [hop, Op.toUiOp])
    by_cases hfinalize : ∃ l, op = .finalizeListener l
    · obtain ⟨l, rfl⟩ := hfinalize
      have hkept := (houtside.keptByCancels aboutWindows_agrees).finalizeListener
        (fun _ _ _ _ _ _ _ _ _ => trivial) ⟨htidy, h.agrees⟩ ht
      exact ⟨hkept.1.toWindowDataTracked, hkept.2⟩
    · have hkept := h.agrees.uiStepWith htidy (fun l hl => hfinalize ⟨l, hl⟩) horder' hno
        (fun hdes => (deselecting_of_deselects hdes).symm ▸ hinside) ht
      exact ⟨hkept.1.toWindowDataTracked, hkept.2⟩

/-- **The selected window is the active window** after every step of a run in which no listener
adds an active window from inside `deselectAccessor`. -/
theorem agrees_of_guarded (enabledEventClasses : EventClass → Bool)
    (windows : Window → WindowState) (is : List Input)
    (horder : Run.Guarded reentrantStep OrderlyInput (create enabledEventClasses windows) is)
    (hcalls : ∀ i ∈ is, i.react.Orderly)
    (hno : Run.Guarded reentrantStep (fun m i => m.NoIdleAdd i.op)
      (create enabledEventClasses windows) is)
    (hselects : ∀ i ∈ is, i.react.SelectsOutside) :
    Run.Always reentrantStep Agrees (create enabledEventClasses windows) is := by
  have hreact : Run.Guarded reentrantStep
      (fun _ i => i.react.Orderly ∧ i.react.SelectsOutside)
      (create enabledEventClasses windows) is :=
    Run.guarded_of_forall_mem fun i hi _ => ⟨hcalls i hi, hselects i hi⟩
  have hcreate : (create enabledEventClasses windows).Selecting :=
    ⟨(sound_create enabledEventClasses windows).toWindowDataTracked, by simp [Agrees, create]⟩
  exact Run.always_of_guarded (I := Selecting) (fun _ h => h.agrees)
    (fun _ _ _ h hg ht => h.step hg.1.1 hg.1.2 hg.2 ht) hcreate ((horder.and hno).and hreact)

/-- A listener that adds window `1` when it is handed a cancel, after the window has become active
or while it is idle. -/
def addsWhenCanceled (activates : Bool) : Reaction := fun deselecting _ _ n m =>
  let c : Call :=
    if activates ∧ n = 1 then .windowChanged 1 ⟨true, false⟩ else .addAccessor (.gtk 1)
  if deselecting ∧ m.OrderlyOp c.uiOp ∧ (activates ∨ m.selects c.uiOp = none) then some c else none

/-- The selected window becomes idle while a key is pressed. -/
def idleWhilePressed (activates : Bool) : List Input :=
  let quiet (op : Op) : Input := ⟨op, fun _ _ _ _ _ => none, 0, 0⟩
  [quiet (.ui (.addListener 0)), quiet (.ui (.addAccessor (.gtk 0))), quiet (.deviceAdded 0xA0 0),
    quiet (.blueKey 0 keyPress 30),
    ⟨.ui (.activeChanged 0 false), addsWhenCanceled activates, 2, 1⟩]

theorem addsWhenCanceled_eq_some {activates deselecting : Bool} {l : ListenerData} {e : KeyEvent}
    {n : ℕ} {c : Call} (h : addsWhenCanceled activates deselecting l e n m = some c) :
    deselecting = true ∧ m.OrderlyOp c.uiOp ∧ (activates ∨ m.selects c.uiOp = none) := by
  simp only [addsWhenCanceled, Option.ite_none_right_eq_some, Option.some.injEq] at h
  obtain ⟨hcall, rfl⟩ := h
  exact hcall

theorem idleWhilePressed_orderly (activates : Bool) :
    ∀ i ∈ idleWhilePressed activates, i.react.Orderly := by
  have hquiet : Reaction.Orderly fun _ _ _ _ _ => none := fun _ _ _ _ _ _ h => by cases h
  have hadds : Reaction.Orderly (addsWhenCanceled activates) :=
    fun _ _ _ _ _ _ h _ => (addsWhenCanceled_eq_some h).2.1
  simp [idleWhilePressed, hquiet, hadds]

/-- Adding the window while it is idle does no harm. -/
theorem agrees_idleWhilePressed : Run.Always reentrantStep Agrees (amongWindows (some 0))
    (idleWhilePressed false) := by
  have hquiet : Reaction.SelectsOutside fun _ _ _ _ _ => none :=
    ⟨fun _ _ _ _ _ h => (by cases h), fun _ _ _ _ _ h => (by cases h)⟩
  have hadds : Reaction.SelectsOutside (addsWhenCanceled false) :=
    ⟨fun _ _ _ _ _ h => by simpa [Call.uiOp] using (addsWhenCanceled_eq_some h).2.2,
      fun _ _ _ _ _ h => by cases (addsWhenCanceled_eq_some h).1⟩
  refine agrees_of_guarded (fun _ => true) (fun w => ⟨some 0 = some w, false⟩)
    (idleWhilePressed false) (by decide +kernel) (idleWhilePressed_orderly false)
    (by decide +kernel) ?_
  simp [idleWhilePressed, hquiet, hadds]

/-- Adding it when it has become active leaves it active and not selected. -/
theorem not_agrees_idleWhilePressed :
    Run.Guarded reentrantStep OrderlyInput (amongWindows (some 0)) (idleWhilePressed true) ∧
      (∀ i ∈ idleWhilePressed true, i.react.Orderly) ∧
      ¬ Run.Always reentrantStep Agrees (amongWindows (some 0)) (idleWhilePressed true) := by
  refine ⟨by decide +kernel, idleWhilePressed_orderly true, fun halways => ?_⟩
  have hok : (Run.exec reentrantStep (amongWindows (some 0)) (idleWhilePressed true)).toOption.map
      (fun t => (t.selected, t.gtkWindowData, (t.windows 1).isActive)) =
        some (none, [(0, 0), (1, 1)], true) := by decide +kernel
  obtain ⟨t, ht, hview⟩ := Run.exists_exec_of_view hok
  simp only [Prod.mk.injEq] at hview
  obtain ⟨hsel, hentries, hactive⟩ := hview
  have hone : ((1, 1) : Window × WindowDataId) ∈ t.gtkWindowData := by
    rw [hentries]
    exact List.mem_cons_of_mem _ (List.mem_cons_self ..)
  rw [(halways.last ht).not_active hsel hone] at hactive
  cases hactive

end BtGtkDeviceManager

end StmmInputBt
