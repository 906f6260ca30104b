import StmmInputBt.Client.KeyClient
import StmmInputBt.Foundation.Alternation

/-!
# The keys that the window holds

`BtkbWindow` as far as it presses and releases keys (`btkbwindow.cc`). The same key can be held by
the keyboard, the mouse and several fingers at once. The server is told of the first press and of
the last release only: `m_aPressedKeys` has an entry for each input that holds a key, and
`releaseKey` sends nothing while another entry with the same key is left.

`clientCalls` records, in order, what the window asks the client to send. Messages to the log are
left out, and so are the asserts.

## Main definitions

* `BtkbWindow.pressKey`, `BtkbWindow.releaseKey`, `BtkbWindow.finalizeKeys`.
* `BtkbWindow.keyEvents`: the events sent for a key.
* `BtkbWindow.Merged`: entries and events fit together.

## Main results

* `BtkbWindow.merged_run`, `BtkbWindow.finalized_finalizeKeys`.
* `BtkbWindow.mergedKeys_run`.
-/

namespace StmmInputBt

/-- `PRESS_TYPE`. -/
inductive PressType
  | keyboard
  | mouse
  | touch
  deriving DecidableEq

/-- An entry of `m_aPressedKeys`. The finger stands for a pointer to a `GdkEventSequence`. -/
structure PressedKey where
  key : HardwareKey
  type : PressType
  finger : Option ℕ
  deriving DecidableEq

/-- A call of a method of `BtKeyClient`. -/
inductive ClientCall
  | sendKeyToServer (eType : Hk.KeyInputType) (eKey : HardwareKey)
  | sendRemoveToServer
  deriving DecidableEq

structure BtkbWindow where
  pressedKeys : List PressedKey
  clientCalls : List ClientCall
  deriving DecidableEq

namespace BtkbWindow

def new : BtkbWindow := ⟨[], []⟩

def sendKeyToServer (eType : Hk.KeyInputType) (eKey : HardwareKey) (w : BtkbWindow) : BtkbWindow :=
  { w with clientCalls := w.clientCalls ++ [.sendKeyToServer eType eKey] }

def isKeyPressed (eKey : HardwareKey) (w : BtkbWindow) : Bool :=
  w.pressedKeys.any (·.key = eKey)

/-- The loop looks for the entry itself and, on the way, for one with the same key. -/
def pressKey (eKey : HardwareKey) (eType : PressType) (p0Finger : Option ℕ) (w : BtkbWindow) :
    Bool × BtkbWindow :=
  let oPK : PressedKey := ⟨eKey, eType, p0Finger⟩
  if oPK ∈ w.pressedKeys then (false, w)
  else
    let bKeyAlreadyPressed := w.isKeyPressed eKey
    let w := { w with pressedKeys := w.pressedKeys ++ [oPK] }
    if bKeyAlreadyPressed then (true, w) else (true, w.sendKeyToServer .press eKey)

/-- What `releaseKey` looks for; `HK_NULL` is any key. -/
def releases (eKey : HardwareKey) (eType : PressType) (p0Finger : Option ℕ) (oPK : PressedKey) :
    Bool :=
  (eKey = hkNull || oPK.key = eKey) && oPK.type = eType && oPK.finger = p0Finger

def releaseKey (eKey : HardwareKey) (eType : PressType) (p0Finger : Option ℕ) (bCancel : Bool)
    (w : BtkbWindow) : Bool × BtkbWindow :=
  match w.pressedKeys.find? (releases eKey eType p0Finger) with
  | none => (false, w)
  | some oPK =>
    let w := { w with pressedKeys := w.pressedKeys.eraseP (releases eKey eType p0Finger) }
    if w.isKeyPressed oPK.key then (true, w)
    else (true, w.sendKeyToServer (if bCancel then .releaseCancel else .release) oPK.key)

def pressKeyboardKey (eKey : HardwareKey) (w : BtkbWindow) : Bool × BtkbWindow :=
  w.pressKey eKey .keyboard none

def pressMouseKey (eKey : HardwareKey) (w : BtkbWindow) : Bool × BtkbWindow :=
  w.pressKey eKey .mouse none

def pressFingerKey (eKey : HardwareKey) (p0Finger : ℕ) (w : BtkbWindow) : Bool × BtkbWindow :=
  w.pressKey eKey .touch (some p0Finger)

def releaseKeyboardKey (eKey : HardwareKey) (w : BtkbWindow) : Bool × BtkbWindow :=
  w.releaseKey eKey .keyboard none false

def releaseMouseKey (w : BtkbWindow) : Bool × BtkbWindow := w.releaseKey hkNull .mouse none false

def releaseFingerKey (p0Finger : ℕ) (bCancel : Bool) (w : BtkbWindow) : Bool × BtkbWindow :=
  w.releaseKey hkNull .touch (some p0Finger) bCancel

/-- Cancel what is pressed, by a copy of the entries. -/
def finalizeKeys (w : BtkbWindow) : BtkbWindow :=
  w.pressedKeys.foldl (fun w oPK => (w.releaseKey oPK.key oPK.type oPK.finger true).2) w

def onButtonRemove (w : BtkbWindow) : BtkbWindow :=
  { w.finalizeKeys with clientCalls := w.finalizeKeys.clientCalls ++ [.sendRemoveToServer] }

end BtkbWindow

/-- What can happen to the keys of the window. -/
inductive WindowOp
  | pressKeyboardKey (eKey : HardwareKey)
  | pressMouseKey (eKey : HardwareKey)
  | pressFingerKey (eKey : HardwareKey) (p0Finger : ℕ)
  | releaseKeyboardKey (eKey : HardwareKey)
  | releaseMouseKey
  | releaseFingerKey (p0Finger : ℕ) (bCancel : Bool)
  | finalizeKeys
  | onButtonRemove

namespace BtkbWindow

def perform (w : BtkbWindow) : WindowOp → BtkbWindow
  | .pressKeyboardKey eKey => (w.pressKeyboardKey eKey).2
  | .pressMouseKey eKey => (w.pressMouseKey eKey).2
  | .pressFingerKey eKey p0Finger => (w.pressFingerKey eKey p0Finger).2
  | .releaseKeyboardKey eKey => (w.releaseKeyboardKey eKey).2
  | .releaseMouseKey => w.releaseMouseKey.2
  | .releaseFingerKey p0Finger bCancel => (w.releaseFingerKey p0Finger bCancel).2
  | .finalizeKeys => w.finalizeKeys
  | .onButtonRemove => w.onButtonRemove

/-- The window after a sequence of inputs. -/
def run (ops : List WindowOp) : BtkbWindow := ops.foldl perform new

/-- The event that a call sends for the key. -/
def keyEvent (eKey : HardwareKey) : ClientCall → Option Hk.KeyInputType
  | .sendKeyToServer eType eKey' => if eKey' = eKey then some eType else none
  | .sendRemoveToServer => none

/-- The events sent for the key, in order. -/
def keyEvents (eKey : HardwareKey) (w : BtkbWindow) : List Hk.KeyInputType :=
  w.clientCalls.filterMap (keyEvent eKey)

/-- `KEY_RELEASE` or `KEY_RELEASE_CANCEL`. -/
def IsRelease (eType : Hk.KeyInputType) : Prop := eType = .release ∨ eType = .releaseCancel

/-- The entries are distinct, and for each key presses and releases alternate, with a press last
as long as there is an entry. -/
structure Merged (w : BtkbWindow) : Prop where
  nodup : w.pressedKeys.Nodup
  alternates : ∀ eKey, Alternates (· = .press) IsRelease (w.keyEvents eKey) (w.isKeyPressed eKey)

variable {w : BtkbWindow} {eKey eKey' : HardwareKey} {eType : PressType} {p0Finger : Option ℕ}
  {bCancel : Bool}

/-! ### Small facts -/

@[simp] theorem pressedKeys_sendKeyToServer (eType : Hk.KeyInputType) :
    (w.sendKeyToServer eType eKey).pressedKeys = w.pressedKeys := rfl

@[simp] theorem isKeyPressed_sendKeyToServer (eType : Hk.KeyInputType) :
    (w.sendKeyToServer eType eKey).isKeyPressed eKey' = w.isKeyPressed eKey' := rfl

theorem keyEvents_sendKeyToServer_self (eType : Hk.KeyInputType) :
    (w.sendKeyToServer eType eKey).keyEvents eKey = w.keyEvents eKey ++ [eType] := by
  simp [keyEvents, sendKeyToServer, keyEvent]

theorem keyEvents_sendKeyToServer_of_ne (h : eKey ≠ eKey') (eType : Hk.KeyInputType) :
    (w.sendKeyToServer eType eKey).keyEvents eKey' = w.keyEvents eKey' := by
  simp [keyEvents, sendKeyToServer, keyEvent, h]

theorem not_isRelease_press : ∀ e : Hk.KeyInputType, e = .press → ¬ IsRelease e := by
  rintro _ rfl (h | h) <;> cases h

/-- Where an event is sent for a key that changes between pressed and not pressed, and none where it
does not, the histories stay as they should be. -/
theorem Merged.of_pressedKeys (h : w.Merged) {aPressedKeys : List PressedKey}
    (hnodup : aPressedKeys.Nodup)
    (hsame : ∀ eKey, aPressedKeys.any (·.key = eKey) = w.isKeyPressed eKey) :
    Merged { w with pressedKeys := aPressedKeys } := by
  refine ⟨hnodup, fun eKey => (h.alternates eKey).of_iff ?_⟩
  rw [← hsame eKey]
  rfl

theorem Merged.sendPress (h : w.Merged) {aPressedKeys : List PressedKey}
    (hnodup : aPressedKeys.Nodup) (hbefore : w.isKeyPressed eKey = false)
    (hafter : aPressedKeys.any (·.key = eKey))
    (hsame : ∀ eKey', eKey ≠ eKey' → aPressedKeys.any (·.key = eKey') = w.isKeyPressed eKey') :
    (sendKeyToServer .press eKey { w with pressedKeys := aPressedKeys }).Merged := by
  refine ⟨hnodup, fun eKey' => ?_⟩
  by_cases hkey : eKey = eKey'
  · subst hkey
    have hbOpen : w.isKeyPressed eKey ↔ False := by simp [hbefore]
    have hclosed := (h.alternates eKey).of_iff hbOpen
    rw [keyEvents_sendKeyToServer_self]
    refine (hclosed.opened rfl).of_iff ?_
    exact iff_of_true trivial hafter
  · rw [keyEvents_sendKeyToServer_of_ne hkey]
    refine (h.alternates eKey').of_iff ?_
    rw [← hsame eKey' hkey]
    rfl

theorem Merged.sendRelease (h : w.Merged) {aPressedKeys : List PressedKey}
    (hnodup : aPressedKeys.Nodup) (hbefore : w.isKeyPressed eKey)
    (hafter : aPressedKeys.any (·.key = eKey) = false)
    (hsame : ∀ eKey', eKey ≠ eKey' → aPressedKeys.any (·.key = eKey') = w.isKeyPressed eKey')
    {eType : Hk.KeyInputType} (hrelease : IsRelease eType) :
    (sendKeyToServer eType eKey { w with pressedKeys := aPressedKeys }).Merged := by
  refine ⟨hnodup, fun eKey' => ?_⟩
  by_cases hkey : eKey = eKey'
  · subst hkey
    have hbOpen : w.isKeyPressed eKey ↔ True := by simp [hbefore]
    have hopen := (h.alternates eKey).of_iff hbOpen
    rw [keyEvents_sendKeyToServer_self]
    refine (hopen.closed not_isRelease_press hrelease).of_iff ?_
    exact iff_of_false not_false (Bool.eq_false_iff.mp hafter)
  · rw [keyEvents_sendKeyToServer_of_ne hkey]
    refine (h.alternates eKey').of_iff ?_
    rw [← hsame eKey' hkey]
    rfl

/-! ### One input -/

theorem Merged.pressKey (h : w.Merged) : (w.pressKey eKey eType p0Finger).2.Merged := by
  rw [BtkbWindow.pressKey]
  dsimp only
  have hany (eKey' : HardwareKey) :
      (w.pressedKeys ++ [(⟨eKey, eType, p0Finger⟩ : PressedKey)]).any (·.key = eKey') =
        (w.isKeyPressed eKey' || decide (eKey = eKey')) := by
    simp [isKeyPressed]
  split_ifs with hmem hpressed
  · exact h
  all_goals
    have hnodup : (w.pressedKeys ++ [(⟨eKey, eType, p0Finger⟩ : PressedKey)]).Nodup :=
      List.nodup_append.mpr ⟨h.nodup, List.nodup_singleton _, by
        rintro a ha b hb rfl
        exact hmem (List.mem_singleton.mp hb ▸ ha)⟩
  · refine h.of_pressedKeys hnodup fun eKey' => ?_
    rw [hany]
    by_cases hkey : eKey = eKey'
    · rw [← hkey, hpressed, Bool.true_or]
    · rw [decide_eq_false hkey, Bool.or_false]
  · rw [Bool.not_eq_true] at hpressed
    refine h.sendPress hnodup hpressed (by simp) fun eKey' hkey => ?_
    rw [hany, decide_eq_false hkey, Bool.or_false]

/-- The entry that is found goes, the others stay. -/
theorem exists_eraseP {p : PressedKey → Bool} {aPressedKeys : List PressedKey} {oPK : PressedKey}
    (hfind : aPressedKeys.find? p = some oPK) : ∃ aBefore aAfter,
      aPressedKeys = aBefore ++ oPK :: aAfter ∧ aPressedKeys.eraseP p = aBefore ++ aAfter := by
  obtain ⟨hp, aBefore, aAfter, rfl, hbefore⟩ := List.find?_eq_some_iff_append.mp hfind
  refine ⟨aBefore, aAfter, rfl, ?_⟩
  rw [List.eraseP_append_right _ (by simpa using hbefore), List.eraseP_cons_of_pos hp]

theorem Merged.releaseKey (h : w.Merged) : (w.releaseKey eKey eType p0Finger bCancel).2.Merged := by
  rw [BtkbWindow.releaseKey]
  cases hfind : w.pressedKeys.find? (releases eKey eType p0Finger) with
  | none => exact h
  | some oPK =>
    obtain ⟨aBefore, aAfter, hpressed, herase⟩ := exists_eraseP hfind
    have hnodup : (aBefore ++ aAfter).Nodup :=
      (hpressed ▸ h.nodup).sublist ((List.sublist_cons_self oPK aAfter).append_left aBefore)
    have hany (eKey' : HardwareKey) : w.isKeyPressed eKey' =
        ((aBefore ++ aAfter).any (·.key = eKey') || decide (oPK.key = eKey')) := by
      simp only [isKeyPressed, hpressed, List.any_append, List.any_cons]
      ac_rfl
    dsimp only
    rw [herase]
    by_cases hstill : (aBefore ++ aAfter).any (·.key = oPK.key)
    · rw [if_pos (by exact hstill)]
      refine h.of_pressedKeys hnodup fun eKey' => ?_
      rw [hany]
      by_cases hkey : oPK.key = eKey'
      · have hkey' : (aBefore ++ aAfter).any (·.key = eKey') := hkey ▸ hstill
        rw [hkey', Bool.true_or]
      · rw [decide_eq_false hkey, Bool.or_false]
    · rw [if_neg (by exact hstill)]
      rw [Bool.not_eq_true] at hstill
      refine h.sendRelease hnodup (by simp [hany]) hstill (fun eKey' hkey => ?_) ?_
      · rw [hany, decide_eq_false hkey, Bool.or_false]
      · cases bCancel
        · exact .inl rfl
        · exact .inr rfl

theorem Merged.finalizeKeys (h : w.Merged) : w.finalizeKeys.Merged := by
  rw [BtkbWindow.finalizeKeys]
  generalize w.pressedKeys = aPressedKeys
  induction aPressedKeys generalizing w with
  | nil => exact h
  | cons oPK aPressedKeys ih => exact ih h.releaseKey

theorem Merged.perform (h : w.Merged) (op : WindowOp) : (w.perform op).Merged := by
  cases op with
  | pressKeyboardKey | pressMouseKey | pressFingerKey => exact h.pressKey
  | releaseKeyboardKey | releaseMouseKey | releaseFingerKey => exact h.releaseKey
  | finalizeKeys => exact h.finalizeKeys
  | onButtonRemove =>
    refine ⟨h.finalizeKeys.nodup, fun eKey => ?_⟩
    have hsame : (w.onButtonRemove).keyEvents eKey = w.finalizeKeys.keyEvents eKey := by
      simp [keyEvents, onButtonRemove, keyEvent]
    rw [BtkbWindow.perform, hsame]
    exact h.finalizeKeys.alternates eKey

/-! ### `finalizeKeys` -/

/-- An entry that is first in the list is the one that `releaseKey` finds by its own data. -/
theorem releaseKey_head {oPK : PressedKey} {aPressedKeys : List PressedKey}
    (h : w.pressedKeys = oPK :: aPressedKeys) :
    (w.releaseKey oPK.key oPK.type oPK.finger true).2 =
      if isKeyPressed oPK.key { w with pressedKeys := aPressedKeys } then
        { w with pressedKeys := aPressedKeys }
      else sendKeyToServer .releaseCancel oPK.key { w with pressedKeys := aPressedKeys } := by
  have hreleases : releases oPK.key oPK.type oPK.finger oPK = true := by simp [releases]
  rw [releaseKey, h, List.find?_cons_of_pos hreleases, List.eraseP_cons_of_pos hreleases]
  dsimp only
  by_cases hlater : isKeyPressed oPK.key { w with pressedKeys := aPressedKeys }
  · rw [if_pos hlater, if_pos hlater]
  · rw [if_neg hlater, if_neg hlater]
    rfl

/-- Each key is canceled with its last entry. -/
theorem foldl_releaseKey {aPressedKeys : List PressedKey} (h : w.pressedKeys = aPressedKeys) :
    aPressedKeys.foldl (fun w oPK => (w.releaseKey oPK.key oPK.type oPK.finger true).2) w =
      { w with
        pressedKeys := []
        clientCalls := w.clientCalls ++ (aPressedKeys.map PressedKey.key).dedup.map
          (.sendKeyToServer .releaseCancel) } := by
  induction aPressedKeys generalizing w with
  | nil =>
    obtain ⟨aPressedKeys, aClientCalls⟩ := w
    cases h
    simp
  | cons oPK aPressedKeys ih =>
    rw [List.foldl_cons, releaseKey_head h]
    by_cases hlater : isKeyPressed oPK.key { w with pressedKeys := aPressedKeys }
    · have hmem : oPK.key ∈ aPressedKeys.map PressedKey.key := by
        simpa [isKeyPressed] using hlater
      rw [if_pos hlater, ih rfl, List.map_cons, List.dedup_cons_of_mem hmem]
    · have hmem : oPK.key ∉ aPressedKeys.map PressedKey.key := by
        simpa [isKeyPressed] using hlater
      rw [if_neg hlater, ih rfl, List.map_cons, List.dedup_cons_of_notMem hmem]
      simp [sendKeyToServer]

/-- `w'` is `w` after exactly one cancel of each key that was pressed. -/
structure Finalized (w w' : BtkbWindow) : Prop where
  pressedKeys : w'.pressedKeys = []
  cancels : ∃ aKeys : List HardwareKey,
    w'.clientCalls = w.clientCalls ++ aKeys.map (.sendKeyToServer .releaseCancel) ∧
      ∀ eKey, aKeys.count eKey = if w.isKeyPressed eKey then 1 else 0

theorem finalized_finalizeKeys (w : BtkbWindow) : Finalized w w.finalizeKeys := by
  have hrun : w.finalizeKeys = _ := foldl_releaseKey (w := w) rfl
  refine ⟨by rw [hrun], (w.pressedKeys.map PressedKey.key).dedup, by rw [hrun], fun eKey => ?_⟩
  rw [List.count_dedup]
  refine if_congr ?_ rfl rfl
  simp [isKeyPressed]

/-! ### Runs -/

theorem merged_run (ops : List WindowOp) : (run ops).Merged := by
  have hrun (w : BtkbWindow) (h : w.Merged) : (ops.foldl perform w).Merged := by
    induction ops generalizing w with
    | nil => exact h
    | cons op ops ih => exact ih _ (h.perform op)
  exact hrun new ⟨List.nodup_nil, fun eKey => Alternates.nil.of_iff (by simp [new, isKeyPressed])⟩

/-- **Merged presses.** Whatever the keyboard, the mouse and the fingers do, the entries of
`m_aPressedKeys` stay distinct, the events sent for a key alternate, with a press first, and last
as long as the key is pressed, and `finalizeKeys` cancels each pressed key once. -/
theorem mergedKeys_run (ops : List WindowOp) :
    (run ops).Merged ∧ Finalized (run ops) (run ops).finalizeKeys :=
  ⟨merged_run ops, finalized_finalizeKeys _⟩

end BtkbWindow

end StmmInputBt
