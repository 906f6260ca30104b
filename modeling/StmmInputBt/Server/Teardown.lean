import StmmInputBt.Foundation.Run
import StmmInputBt.Server.ReceivePath

/-!
# Tearing down the server

`GtkBackend` from `initServer` to `~GtkBackend`, with the source that accepts clients. A source
stays attached to the main loop until it is destroyed or its callback returns false, whoever
holds it, and its slot is a plain method of the backend. The destructor destroys the accept
source. The receive sources stay as they are, so a client that is still connected goes on calling
a backend that is gone.

## Main definitions

* `BlueServerAcceptSource`, `ListeningBackend`: the backend with its accept source.
* `ListeningBackend.destructor`, `ListeningBackend.step`: the destructor, and what happens before
  and after it.
* `ListeningBackend.LeavesNoCallbacks`: nothing that is left calls the backend.
* `GtkBackend.Referenced`: an attached source is in `m_aInputSources`.

## Main results

* `GtkBackend.dispatch_callsSlot`: when a dispatch of a receive source calls the backend.
* `ListeningBackend.leavesNoCallbacks_iff`.
-/

namespace StmmInputBt

/-- How the system calls of `BlueServerAcceptSource` go, with the descriptor of `::socket`. -/
inductive ListenerCalls
  | socketFailed (sError : String)
  | bindFailed (nFD : ℕ) (sError : String)
  | listenFailed (nFD : ℕ) (sError : String)
  | listening (nFD : ℕ)

/-- What `::accept` returns. -/
inductive AcceptResult
  | failed (sError : String)
  | accepted (nFdClient : ℕ) (oRemoteAddr : RemoteAddr)

/-- A `BlueServerAcceptSource` as the main loop sees it. -/
structure BlueServerAcceptSource where
  listenerFD : ℤ
  errorStr : String
  /-- There is a slot. -/
  connected : Bool
  attached : Bool

namespace BlueServerAcceptSource

/-- The constructor. -/
def new : ListenerCalls → BlueServerAcceptSource
  | .socketFailed sError =>
    ⟨-1, "BlueServerAcceptSource(): socket failed: " ++ sError, false, false⟩
  | .bindFailed _ sError => ⟨-1, "BlueServerAcceptSource(): bind failed: " ++ sError, false, false⟩
  | .listenFailed _ sError =>
    ⟨-1, "BlueServerAcceptSource(): listen failed: " ++ sError, false, false⟩
  | .listening nFD => ⟨nFD, "", false, false⟩

def connect (src : BlueServerAcceptSource) : BlueServerAcceptSource :=
  if src.listenerFD = -1 then src else { src with connected := true }

/-- `dispatch` of an attached source up to the call of the slot: the client that the slot is
called with. In any case the source stays attached. -/
def dispatch (nIOFlags : IOCondition) (res : AcceptResult) (src : BlueServerAcceptSource) :
    Option (ℕ × RemoteAddr) :=
  if !src.attached || !src.connected then none
  else if nIOFlags.ioHup || nIOFlags.ioErr || nIOFlags.ioNval then none
  else if !nIOFlags.ioIn then none
  else match res with
    | .failed _ => none
    | .accepted nFdClient oRemoteAddr => some (nFdClient, oRemoteAddr)

end BlueServerAcceptSource

/-- The slot is called for what was read: for a key, or with the end of the connection. -/
def Reading.callsSlot (reading : Reading) : Bool :=
  !(keyPackets reading.packets).isEmpty || reading.stop.isSome

/-- The backend with `m_refServerAccept`. -/
structure ListeningBackend (σ : Type) where
  backend : GtkBackend σ
  serverAccept : Option BlueServerAcceptSource
  /-- The destructor has run. -/
  destroyed : Bool

/-- What ends a run of the server: a fault of the backend, or a call of a backend that has been
destroyed. -/
inductive TeardownFault
  | backend (f : Fault)
  | destroyedBackend

/-- What happens to the backend: the main loop dispatches its sources, the owner does what it
does, and in the end the backend is destroyed. -/
inductive BackendOp (σ : Type)
  | dispatchAccept (nIOFlags : IOCondition) (res : AcceptResult)
  | dispatchReceive (sid : SourceId) (nIOFlags : IOCondition) (recv : RecvResult)
      (oDummyPacket : KeyPacket)
  | ownerActs (owner : σ)
  | destroy

namespace ListeningBackend

variable {σ : Type} (O : Owner σ) (order : ByteOrder)

/-- `initServer`, with the error that it returns. -/
def initServer (calls : ListenerCalls) (w : ListeningBackend σ) : String × ListeningBackend σ :=
  let src := BlueServerAcceptSource.new calls
  if src.errorStr ≠ "" then
    ("Bluetooth error (initServer):\n -> " ++ src.errorStr, { w with serverAccept := some src })
  else ("", { w with serverAccept := some { src.connect with attached := true } })

/-- `create` up to the test of the error. -/
def create (owner : σ) (calls : ListenerCalls) : ListeningBackend σ :=
  (initServer calls ⟨⟨owner, [], [], []⟩, none, false⟩).2

/-- `~GtkBackend`. -/
def destructor (w : ListeningBackend σ) : ListeningBackend σ :=
  { w with
    serverAccept := w.serverAccept.map fun src => { src with attached := false }
    destroyed := true }

/-- One thing happens to the backend. -/
def step (w : ListeningBackend σ) :
    BackendOp σ → Except TeardownFault (ListeningBackend σ)
  | .dispatchAccept nIOFlags res =>
    match w.serverAccept.bind (·.dispatch nIOFlags res) with
    | none => .ok w
    | some (nFdClient, oRemoteAddr) =>
      if w.destroyed then .error .destroyedBackend
      else match w.backend.doServerAcceptClient O nFdClient oRemoteAddr with
        | .error f => .error (.backend f)
        | .ok backend => .ok { w with backend }
  | .dispatchReceive sid nIOFlags recv oDummyPacket =>
    if w.destroyed then
      if (w.backend.sources[sid]?).any (·.attached) &&
          (readMessage nIOFlags recv).callsSlot then
        .error .destroyedBackend
      else .ok w
    else match w.backend.dispatchSource O order sid nIOFlags recv oDummyPacket with
      | .error f => .error (.backend f)
      | .ok backend => .ok { w with backend }
  | .ownerActs owner => .ok { w with backend := { w.backend with owner } }
  | .destroy => .ok w.destructor

/-- No source is attached whose slot is a method of the backend, and no event calls one. -/
structure LeavesNoCallbacks (w : ListeningBackend σ) : Prop where
  accept : ∀ src, w.serverAccept = some src → src.attached = false
  receive : ∀ src ∈ w.backend.sources, src.attached = false
  silent : ∀ ops, Run.exec (step O order) w ops ≠ .error .destroyedBackend

/-- No source in `m_aInputSources` is attached: no client is connected. -/
def NoneConnected (w : ListeningBackend σ) : Prop :=
  ∀ sid src, some sid ∈ w.backend.inputSources → w.backend.sources[sid]? = some src →
    src.attached = false

end ListeningBackend

/-! ### When a dispatch calls the slot -/

namespace GtkBackend

variable {σ : Type} {O : Owner σ} {order : ByteOrder} {sid : SourceId} {nBackendId : ℕ}
  {oDummyPacket : KeyPacket} {b b' : GtkBackend σ} {bContinue : Bool}

theorem doServerReceive_of_empty (h : b.inputSources = []) (bRemove : Bool) (p : KeyPacket) :
    doServerReceive O nBackendId bRemove p b = .error .assertion := by
  simp only [doServerReceive, h, List.length_nil, not_lt_zero, decide_false]
  rfl

variable (O order sid nBackendId oDummyPacket b) in
/-- The loop over the packets leaves the backend alone or calls the slot, which fails at once where
`m_aInputSources` has no entries. -/
theorem processPackets_callsSlot (nBytesReceived : ℕ) (ps : List KeyPacket) (nBufPos : ℕ) :
    let reading := readPackets (nBufPos + 8 * ps.length < nBytesReceived) (ps.map (·.btohl order))
    let run := processPackets O order sid nBackendId oDummyPacket nBytesReceived ps nBufPos b
    (reading.callsSlot = false → run = .ok (true, b)) ∧
      (reading.callsSlot → b.inputSources = [] → run = .error .assertion) := by
  induction ps generalizing nBufPos with
  | nil =>
    by_cases hrest : nBufPos < nBytesReceived
    · refine ⟨by simp [readPackets, Reading.callsSlot, hrest], fun _ hempty => ?_⟩
      rw [processPackets, if_pos hrest]
      exact doServerReceive_of_empty (b := b.destroySource sid) hempty _ _
    · refine ⟨fun _ => by rw [processPackets, if_neg hrest], ?_⟩
      simp [readPackets, Reading.callsSlot, keyPackets, hrest]
  | cons p ps ih =>
    have hpos : nBufPos + 8 * (p :: ps).length = nBufPos + 8 + 8 * ps.length := by
      rw [List.length_cons]
      ring
    rw [List.map_cons, hpos]
    rcases processPackets_cons O order sid nBackendId oDummyPacket nBytesReceived p ps nBufPos with
      ⟨stop, hread, hrun⟩ | ⟨hread, ⟨hne, hrun⟩ | ⟨hk, hrun⟩⟩
    · rw [hread, hrun]
      exact ⟨by simp [Reading.callsSlot],
        fun _ hempty => doServerReceive_of_empty (b := b.destroySource sid) hempty _ _⟩
    · rw [hread, hrun]
      simpa only [Reading.callsSlot, keyPackets_cons_of_ne hne] using ih (nBufPos + 8)
    · rw [hread, hrun]
      refine ⟨by simp [Reading.callsSlot, keyPackets_cons_of_key hk], fun _ hempty => ?_⟩
      rw [doServerReceive_of_empty hempty]
      rfl

/-- A dispatch leaves the backend alone or calls the slot. -/
theorem dispatch_callsSlot (nIOFlags : IOCondition) (recv : RecvResult) :
    let run := dispatch O order sid nBackendId nIOFlags recv oDummyPacket b
    ((readMessage nIOFlags recv).callsSlot = false → run = .ok (true, b)) ∧
      ((readMessage nIOFlags recv).callsSlot → b.inputSources = [] →
        run = .error .assertion) := by
  have hclose (hempty : b.inputSources = []) :
      closeConnection O sid nBackendId true false oDummyPacket b = .error .assertion :=
    doServerReceive_of_empty (b := b.destroySource sid) hempty _ _
  simp only [readMessage, dispatch]
  split_ifs with hflags hin
  · exact ⟨by simp [Reading.callsSlot], fun _ => hclose⟩
  · exact ⟨fun _ => rfl, by simp [Reading.callsSlot, keyPackets]⟩
  · cases recv with
    | error => exact ⟨by simp [Reading.callsSlot], fun _ => hclose⟩
    | received bytes =>
      have hlen : (packetsOfMemory order bytes).length = (packetsOfWire bytes).length := by
        rw [← packetsOfMemory_ofLittle order, List.length_map]
      have hrun := processPackets_callsSlot O order sid nBackendId oDummyPacket b bytes.length
        (packetsOfMemory order bytes) 0
      simpa only [Nat.zero_add, packetsOfMemory_ofLittle, hlen] using hrun

/-! ### The sources that are attached -/

/-- An attached source is the one that `m_aInputSources` has for its device. -/
structure Referenced (b : GtkBackend σ) : Prop where
  length : b.permanentAddrs.length = b.inputSources.length
  attached : ∀ sid (src : BlueServerReceiveSource), b.sources[sid]? = some src → src.attached →
    b.inputSources[src.backendId]? = some (some sid)

/-- The source is not attached. -/
def IsDetached (sid : SourceId) (b : GtkBackend σ) : Prop :=
  ∀ src : BlueServerReceiveSource, b.sources[sid]? = some src → src.attached = false

theorem Referenced.owner (h : b.Referenced) (owner : σ) : Referenced { b with owner } :=
  ⟨h.length, h.attached⟩

/-- Sources that are detached need no reference. -/
theorem Referenced.detach (h : b.Referenced)
    {f : BlueServerReceiveSource → BlueServerReceiveSource} (hf : ∀ src, (f src).attached = false)
    (sid : SourceId) : Referenced { b with sources := b.sources.modify sid f } := by
  refine ⟨h.length, fun k src hk hatt => ?_⟩
  rw [List.getElem?_modify] at hk
  by_cases hks : sid = k
  · obtain ⟨src', -, rfl⟩ := Option.map_eq_some_iff.mp hk
    simp [hks, hf] at hatt
  · exact h.attached k src (by simpa [hks] using hk) hatt

theorem isDetached_modify {f : BlueServerReceiveSource → BlueServerReceiveSource}
    (hf : ∀ src, (f src).attached = false) (sid : SourceId) (b : GtkBackend σ) :
    IsDetached sid { b with sources := b.sources.modify sid f } := by
  intro src hsrc
  rw [List.getElem?_modify] at hsrc
  obtain ⟨src', -, rfl⟩ := Option.map_eq_some_iff.mp hsrc
  simp [hf]

/-- A reference to a source that is detached can be dropped. -/
theorem Referenced.forget (h : b.Referenced) (hsid : IsDetached sid b)
    (hown : b.inputSources[nBackendId]? = some (some sid)) {addrs : List BdAddr}
    (hlen : addrs.length = b.permanentAddrs.length) :
    Referenced { b with
      permanentAddrs := addrs
      inputSources := b.inputSources.set nBackendId none } := by
  refine ⟨by rw [hlen, h.length, List.length_set], fun k src hk hatt => ?_⟩
  have href := h.attached k src hk hatt
  have hne : nBackendId ≠ src.backendId := by
    rintro rfl
    rw [hown, Option.some.injEq, Option.some.injEq] at href
    subst href
    exact Bool.false_ne_true ((hsid src hk).symm.trans hatt)
  rw [List.getElem?_set_ne hne]
  exact href

/-- What `doServerReceive` does to the connections: nothing for a key, else it forgets the source
of the device. -/
theorem doServerReceive_connections {bRemove : Bool} {p : KeyPacket}
    (hrun : doServerReceive O nBackendId bRemove p b = .ok (bContinue, b')) :
    (∃ owner, b' = { b with owner }) ∨
    p.cmd ≠ packetCmdKey ∧ ∃ owner addrs, addrs.length = b.permanentAddrs.length ∧ b' = { b with
      owner
      permanentAddrs := addrs
      inputSources := b.inputSources.set nBackendId none } := by
  rw [doServerReceive] at hrun
  obtain ⟨-, -, hrun⟩ := Run.bind_eq_ok.mp hrun
  split_ifs at hrun with hkey hremove
  · obtain ⟨⟨bContinue', owner⟩, -, hrun⟩ := Run.bind_eq_ok.mp hrun
    cases hrun
    exact .inl ⟨owner, rfl⟩
  · obtain ⟨-, -, hrun⟩ := Run.bind_eq_ok.mp hrun
    obtain ⟨-, -, hrun⟩ := Run.bind_eq_ok.mp hrun
    obtain ⟨owner, -, hrun⟩ := Run.bind_eq_ok.mp hrun
    cases hrun
    exact .inr ⟨hkey, owner, _, List.length_set .., rfl⟩
  · cases hrun
    exact .inr ⟨hkey, b.owner, b.permanentAddrs, rfl, rfl⟩

/-- The end of a connection. -/
theorem Referenced.closeConnection (h : b.Referenced)
    (hown : b.inputSources[nBackendId]? = some (some sid)) {bSlot bRemove : Bool} {p : KeyPacket}
    (hrun : closeConnection O sid nBackendId bSlot bRemove p b = .ok (bContinue, b')) :
    b'.Referenced := by
  have hdestroyed : (b.destroySource sid).Referenced := h.detach (fun _ => rfl) sid
  rw [GtkBackend.closeConnection] at hrun
  cases bSlot with
  | false =>
    cases hrun
    exact hdestroyed
  | true =>
    rcases doServerReceive_connections hrun with ⟨owner, rfl⟩ | ⟨-, owner, addrs, hlen, rfl⟩
    · exact hdestroyed.owner owner
    · exact (hdestroyed.forget (isDetached_modify (fun _ => rfl) sid b) hown hlen).owner owner

/-- The loop over the packets of a source that is attached. -/
theorem Referenced.processPackets (h : b.Referenced)
    (hown : b.inputSources[nBackendId]? = some (some sid)) (nBytesReceived : ℕ)
    (ps : List KeyPacket) (nBufPos : ℕ)
    (hrun : processPackets O order sid nBackendId oDummyPacket nBytesReceived ps nBufPos b =
      .ok (bContinue, b')) : b'.Referenced := by
  induction ps generalizing nBufPos b with
  | nil =>
    rw [GtkBackend.processPackets] at hrun
    split_ifs at hrun
    · exact h.closeConnection hown hrun
    · cases hrun
      exact h
  | cons p ps ih =>
    rw [GtkBackend.processPackets] at hrun
    dsimp only at hrun
    split_ifs at hrun with hmagic hrem hnoop hkey
    · exact h.closeConnection hown hrun
    · exact h.closeConnection hown hrun
    · exact h.closeConnection hown hrun
    · obtain ⟨⟨bContinue', b₁⟩, hreceive, hrun⟩ := Run.bind_eq_ok.mp hrun
      obtain ⟨owner, rfl⟩ : ∃ owner, b₁ = { b with owner } :=
        (doServerReceive_connections hreceive).resolve_right fun hother => hkey hother.1
      split_ifs at hrun
      · exact (h.owner owner).closeConnection hown hrun
      · exact ih (h.owner owner) hown _ hrun
    · exact ih h hown _ hrun

theorem Referenced.dispatchSource (h : b.Referenced) {nIOFlags : IOCondition} {recv : RecvResult}
    (hrun : dispatchSource O order sid nIOFlags recv oDummyPacket b = .ok b') :
    b'.Referenced := by
  rw [GtkBackend.dispatchSource] at hrun
  cases hsrc : b.sources[sid]? with
  | none =>
    simp only [hsrc] at hrun
    cases hrun
    exact h
  | some src =>
    simp only [hsrc] at hrun
    split_ifs at hrun with hatt
    · cases hrun
      exact h
    · rw [Bool.not_eq_true, Bool.not_eq_false'] at hatt
      have hown := h.attached sid src hsrc hatt
      obtain ⟨⟨bContinue, b₁⟩, hdispatch, hrun⟩ := Run.bind_eq_ok.mp hrun
      have h₁ : b₁.Referenced := by
        simp only [dispatch] at hdispatch
        split_ifs at hdispatch
        · exact h.closeConnection hown hdispatch
        · cases hdispatch
          exact h
        · cases recv with
          | error => exact h.closeConnection hown hdispatch
          | received bytes => exact h.processPackets hown _ _ _ hdispatch
      split_ifs at hrun
      · cases hrun
        exact h₁
      · cases hrun
        exact h₁.detach (fun _ => rfl) sid

/-- A new source takes the place of one that is detached, or an empty one. -/
theorem Referenced.attachNewSource (h : b.Referenced) (hlt : nBackendId < b.inputSources.length)
    (hfree : b.inputSources[nBackendId]? = some none) (nClientFD : ℕ)
    (oClientBdAddr : RemoteAddr) :
    (b.attachNewSource nBackendId nClientFD oClientBdAddr).Referenced := by
  refine ⟨by rw [GtkBackend.attachNewSource, List.length_set, h.length],
    fun sid src hsrc hatt => ?_⟩
  rw [GtkBackend.attachNewSource] at hsrc ⊢
  dsimp only at hsrc ⊢
  rcases lt_trichotomy sid b.sources.length with hlt' | rfl | hgt
  · rw [List.getElem?_append_left hlt'] at hsrc
    have href := h.attached sid src hsrc hatt
    have hne : nBackendId ≠ src.backendId := by
      rintro rfl
      rw [hfree] at href
      cases href
    rw [List.getElem?_set_ne hne]
    exact href
  · rw [List.getElem?_concat_length, Option.some.injEq] at hsrc
    subst hsrc
    exact List.getElem?_set_self hlt
  · rw [List.getElem?_eq_none (by simpa using hgt)] at hsrc
    cases hsrc

theorem lt_of_getBackendId {aAddrs : List BdAddr} {oBdAddr : BdAddr}
    (h : getBackendId aAddrs oBdAddr = some nBackendId) : nBackendId < aAddrs.length := by
  rw [getBackendId, List.findIdx?_eq_some_iff_getElem] at h
  exact h.1

theorem Referenced.doServerAcceptClient (h : b.Referenced) {nClientFD : ℕ}
    {oClientBdAddr : RemoteAddr}
    (hrun : doServerAcceptClient O nClientFD oClientBdAddr b = .ok b') : b'.Referenced := by
  rw [GtkBackend.doServerAcceptClient] at hrun
  cases hknown : getBackendId b.permanentAddrs oClientBdAddr with
  | some nBackendId =>
    have hlt : nBackendId < b.inputSources.length := h.length ▸ lt_of_getBackendId hknown
    simp only [hknown, List.getD_eq_getElem?_getD, List.getElem?_eq_getElem hlt,
      Option.getD_some] at hrun
    have hget := List.getElem?_eq_getElem hlt
    cases hsource : b.inputSources[nBackendId] with
    | some sid =>
      -- the old source is destroyed before the new one takes its place
      rw [hsource] at hget
      simp only [hsource] at hrun
      cases hrun
      have hlen : b.permanentAddrs.length = (b.destroySource sid).permanentAddrs.length := rfl
      have hforgotten := Referenced.forget (b := b.destroySource sid) (h.detach (fun _ => rfl) sid)
        (isDetached_modify (fun _ => rfl) sid b) hget hlen
      exact hforgotten.attachNewSource (by simpa [destroySource] using hlt)
        (by simp [destroySource, hlt]) _ _
    | none =>
      rw [hsource] at hget
      simp only [hsource] at hrun
      cases hrun
      exact h.attachNewSource hlt hget _ _
  | none =>
    simp only [hknown] at hrun
    cases hempty : getBackendId b.permanentAddrs emptyBdAddr with
    | none =>
      simp only [hempty] at hrun
      obtain ⟨owner, -, hrun⟩ := Run.bind_eq_ok.mp hrun
      cases hrun
      have hgrown : Referenced { b with
          permanentAddrs := b.permanentAddrs ++ [oClientBdAddr.1]
          inputSources := b.inputSources ++ [none] } := by
        refine ⟨by simp [h.length], fun sid src hsrc hatt => ?_⟩
        have href := h.attached sid src hsrc hatt
        exact (List.getElem?_append_left (List.getElem?_eq_some_iff.mp href).1).trans href
      exact (hgrown.attachNewSource (by simp [h.length]) (by simp [h.length]) _ _).owner owner
    | some nBackendId =>
      simp only [hempty] at hrun
      obtain ⟨_, hassert, hrun⟩ := Run.bind_eq_ok.mp hrun
      obtain ⟨owner, -, hrun⟩ := Run.bind_eq_ok.mp hrun
      cases hrun
      have hfree : b.inputSources[nBackendId]? = some none := by
        by_contra hne
        simp [assertThat, hne] at hassert
      have hset : Referenced { b with
          permanentAddrs := b.permanentAddrs.set nBackendId oClientBdAddr } :=
        ⟨by simp [h.length], h.attached⟩
      exact (hset.attachNewSource (List.getElem?_eq_some_iff.mp hfree).1 hfree _ _).owner owner

end GtkBackend

/-! ### The destructor -/

namespace ListeningBackend

variable {σ : Type} {O : Owner σ} {order : ByteOrder} {w w' : ListeningBackend σ}

theorem referenced_create (owner : σ) (calls : ListenerCalls) :
    (create owner calls).backend.Referenced := by
  have hbackend : (create owner calls).backend = ⟨owner, [], [], []⟩ := by
    simp only [create, initServer]
    split_ifs <;> rfl
  rw [hbackend]
  exact ⟨rfl, by simp⟩

theorem referenced_step (h : w.backend.Referenced) {op : BackendOp σ}
    (hstep : w.step O order op = .ok w') : w'.backend.Referenced := by
  cases op with
  | dispatchAccept nIOFlags res =>
    simp only [step] at hstep
    split at hstep
    · cases hstep
      exact h
    · split_ifs at hstep
      split at hstep
      · cases hstep
      · rename_i backend haccept
        cases hstep
        exact h.doServerAcceptClient haccept
  | dispatchReceive sid nIOFlags recv oDummyPacket =>
    simp only [step] at hstep
    split_ifs at hstep
    · cases hstep
      exact h
    · split at hstep
      · cases hstep
      · rename_i backend hdispatch
        cases hstep
        exact h.dispatchSource hdispatch
  | ownerActs owner =>
    cases hstep
    exact h.owner owner
  | destroy =>
    cases hstep
    exact h

/-- With every source of `m_aInputSources` detached, every source is. -/
theorem detached_of_noneConnected (h : w.backend.Referenced) (hnone : w.NoneConnected) :
    ∀ src ∈ w.backend.sources, src.attached = false := by
  intro src hmem
  obtain ⟨sid, hsid⟩ := List.mem_iff_getElem?.mp hmem
  by_contra hatt
  rw [Bool.not_eq_false] at hatt
  have href := h.attached sid src hsid hatt
  exact Bool.false_ne_true ((hnone sid src (List.mem_of_getElem? href) hsid).symm.trans hatt)

/-- What has been destroyed with all its sources detached is never called again. -/
structure Silenced (w : ListeningBackend σ) : Prop where
  destroyed : w.destroyed
  accept : ∀ src, w.serverAccept = some src → src.attached = false
  receive : ∀ src ∈ w.backend.sources, src.attached = false

variable (O order) in
theorem Silenced.step (h : w.Silenced) (op : BackendOp σ) :
    ∃ w', w.step O order op = .ok w' ∧ w'.Silenced := by
  cases op with
  | dispatchAccept nIOFlags res =>
    have hno : w.serverAccept.bind (·.dispatch nIOFlags res) = none := by
      cases haccept : w.serverAccept with
      | none => rfl
      | some src => simp [BlueServerAcceptSource.dispatch, h.accept src haccept]
    exact ⟨w, by simp only [ListeningBackend.step, hno], h⟩
  | dispatchReceive sid nIOFlags recv oDummyPacket =>
    have hno : (w.backend.sources[sid]?).any (·.attached) = false := by
      cases hsrc : w.backend.sources[sid]? with
      | none => rfl
      | some src => exact h.receive src (List.mem_of_getElem? hsrc)
    exact ⟨w, by simp [ListeningBackend.step, h.destroyed, hno], h⟩
  | ownerActs owner => exact ⟨_, rfl, h.destroyed, h.accept, h.receive⟩
  | destroy =>
    refine ⟨_, rfl, rfl, fun src hsrc => ?_, h.receive⟩
    obtain ⟨src', -, rfl⟩ := Option.map_eq_some_iff.mp hsrc
    rfl

variable (O order) in
theorem Silenced.run (h : w.Silenced) (ops : List (BackendOp σ)) :
    ∃ w', Run.exec (ListeningBackend.step O order) w ops = .ok w' := by
  induction ops generalizing w with
  | nil => exact ⟨w, rfl⟩
  | cons op ops ih =>
    obtain ⟨w', hstep, h'⟩ := h.step O order op
    rw [Run.exec_cons_of_ok hstep]
    exact ih h'

/-- **Tearing down the server.** In every state that a run of the backend reaches, the destructor
leaves nothing behind that calls the backend, if and only if no client is connected. -/
theorem leavesNoCallbacks_iff (O : Owner σ) (order : ByteOrder) (owner : σ)
    (calls : ListenerCalls) (ops : List (BackendOp σ)) :
    Run.Always (step O order)
      (fun w => w.destroyed = false → (w.destructor.LeavesNoCallbacks O order ↔ w.NoneConnected))
      (create owner calls) ops := by
  refine Run.always_of_invariant (I := fun w => w.backend.Referenced) (fun w h _ => ?_)
    (fun _ _ _ h hstep => referenced_step h hstep) (referenced_create owner calls)
  constructor
  · exact fun hleaves sid src _ hsrc => hleaves.receive src (List.mem_of_getElem? hsrc)
  · intro hnone
    have hsilenced : w.destructor.Silenced := by
      refine ⟨rfl, fun src hsrc => ?_, detached_of_noneConnected h hnone⟩
      obtain ⟨src', -, rfl⟩ := Option.map_eq_some_iff.mp hsrc
      rfl
    refine ⟨hsilenced.accept, hsilenced.receive, fun ops hfault => ?_⟩
    obtain ⟨w', hrun⟩ := hsilenced.run O order ops
    cases hrun.symm.trans hfault

/-- A client connects. -/
def connectOnce : List (BackendOp (List OwnerCall)) :=
  [.dispatchAccept GtkBackend.ioInOnly (.accepted 5 GtkBackend.clientAddr)]

/-- The client hangs up. -/
def hangUp : BackendOp (List OwnerCall) :=
  .dispatchReceive 0 ⟨false, true, false, false⟩ .error ⟨0, 0, 0, 0, 0⟩

theorem not_leavesNoCallbacks_connectOnce :
    ¬ Run.Always (step recorder .little)
      (fun w => w.destroyed = false → w.destructor.LeavesNoCallbacks recorder .little)
      (create [] (.listening 3)) connectOnce := by
  intro h
  have hrun : (Run.exec (step recorder .little) (create [] (.listening 3)) connectOnce).toOption.map
      (fun w => (w.destroyed, Run.exec (step recorder .little) w.destructor [hangUp])) =
        some (false, .error .destroyedBackend) := by rfl
  obtain ⟨w, hexec, hview⟩ := Run.exists_exec_of_view hrun
  rw [Prod.mk.injEq] at hview
  exact (h.last hexec hview.1).silent [hangUp] hview.2

end ListeningBackend

end StmmInputBt
