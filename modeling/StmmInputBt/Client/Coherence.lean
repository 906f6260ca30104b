import StmmInputBt.Client.Steps

/-!
# The state of the client stays coherent

The state of the client, its socket and its pending sources fit each other in every state that
is reached, whatever the operations and the results of the system calls are.

## Main results

* `BtKeyClient.coherent_perform`, `BtKeyClient.coherent_new`.
-/

namespace StmmInputBt

namespace BtKeyClient

variable {s : BtKeyClient}

theorem coherent_new (nTimeoutConnect nTimeoutSend nInterval nNoopAfter : ℤ) (btAddr : BitVec 48)
    (packets : Vector StagedPacket sendBufferSize) :
    (new nTimeoutConnect nTimeoutSend nInterval nNoopAfter btAddr packets).Coherent :=
  ⟨by simp [new], by simp [new], by simp [new]⟩

theorem coherent_disconnectInternal (h : s.Coherent) (e : String) :
    (s.disconnectInternal e).Coherent := by
  by_cases hfd : s.clientFD < 0
  · rwa [disconnectInternal, if_pos hfd]
  · obtain ⟨hstate, hfd', hconnect, hsend⟩ := disconnectInternal_closes (not_lt.mp hfd) e
    exact ⟨by simp [hfd', hstate], by simp [hconnect, hstate], by simp [hsend]⟩

theorem coherent_offerPackets (hc : s.Coherent) (hon : s.state.online) {eNewState : ClientState}
    (hnew : eNewState.online) (res : SendResult) :
    (s.offerPackets s.state eNewState res).Coherent := by
  have hc' : (s.emit (.sent s.clientFD s.batch res)).Coherent := hc.of_online hon rfl rfl hon
  cases res with
  | failed sError => exact coherent_disconnectInternal hc' _
  | again =>
    simp only [offerPackets]
    split
    · exact hc'.of_online hon (ensurePendingSend_clientFD ..)
        (ensurePendingSend_refPendingConnect ..) (by simpa [emit] using hon)
    · exact hc'.of_online hon (by simp [emit]) (by simp [emit]) (by simpa using hnew)
  | accepted =>
    simp only [offerPackets]
    split
    · exact hc'.of_online hon rfl rfl hon
    · split_ifs
      · apply coherent_disconnectInternal
        exact hc'.of_online hon rfl rfl hon
      · exact hc'.of_online hon (by simp) (by simp) (by simp [ClientState.online])

theorem coherent_sendPackets (hc : s.Coherent) (hon : s.state.online) (res : SendResult) :
    (s.sendPacketsFromBufferedKeys res).Coherent := by
  obtain ⟨hcv, hstate, hnew⟩ := coherent_staged hc
  rw [sendPacketsFromBufferedKeys_eq]
  split_ifs
  · exact hcv
  · rw [← hstate] at hon ⊢
    exact coherent_offerPackets hcv hon hnew res

theorem coherent_connectToServer (hc : s.Coherent) (oBtAddr : BitVec 48) (nL2capPort : ℤ)
    (calls : SocketCalls) : (s.connectToServer oBtAddr nL2capPort calls).Coherent := by
  simp only [connectToServer]
  split_ifs with hrem hfd
  · exact hc
  · exact hc
  · have hstate : s.state = .disconnected := not_not.mp fun h => hfd (hc.clientFD.mpr h)
    have hconnect : s.refPendingConnect.isSome = false := by
      rw [Bool.eq_false_iff, Ne, hc.pendingConnect, hstate]
      decide
    have hsend : s.refPendingSend.isSome = false := by
      rw [Bool.eq_false_iff]
      intro h
      have := hc.pendingSend h
      simp [hstate, ClientState.online] at this
    have hclosed {t : BtKeyClient} (hfd : t.clientFD = -1) (ht : t.state = s.state)
        (htc : t.refPendingConnect = s.refPendingConnect)
        (hts : t.refPendingSend = s.refPendingSend) : t.Coherent :=
      ⟨by simp [hfd, ht, hstate], by simp [htc, hconnect, ht, hstate], by simp [hts, hsend]⟩
    cases calls with
    | socketFailed sError => exact hclosed rfl rfl rfl rfl
    | getFlagsFailed nFD sError | setFlagsFailed nFD sError => exact hclosed rfl rfl rfl rfl
    | opened nFD result =>
      cases result with
      | connected =>
        exact ⟨by simp [connectSocket, signalStateChanged, emit],
          by simp [connectSocket, signalStateChanged, emit, hconnect], fun _ => rfl⟩
      | inProgress =>
        refine ⟨by simp [connectSocket, signalStateChanged, emit, attachPendingWriteSource],
          by simp [connectSocket, signalStateChanged, emit, attachPendingWriteSource], fun h => ?_⟩
        exact absurd (hsend.symm.trans h) Bool.false_ne_true
      | failed sError => exact hclosed rfl rfl rfl rfl

theorem coherent_doPendingConnect (hc : s.Coherent) (nSourceId : ℕ) (bError : Bool) :
    (s.doPendingConnect nSourceId bError).2.Coherent := by
  rw [doPendingConnect]
  cases hconnect : s.refPendingConnect with
  | none => exact hc
  | some nId =>
    have hstate : s.state = .connecting := hc.pendingConnect.mp (by rw [hconnect]; rfl)
    have hfd : 0 ≤ s.clientFD := hc.clientFD.mpr (by rw [hstate]; decide)
    dsimp only
    split_ifs
    · exact hc
    · exact coherent_disconnectInternal hc _
    · exact ⟨by simpa [signalStateChanged, emit] using hfd, by simp [signalStateChanged, emit],
        fun _ => rfl⟩

theorem coherent_offerPending (hc : s.Coherent) (hon : s.state.online) (res res' : SendResult) :
    (s.offerPending res res').2.Coherent := by
  have hc' : (s.emit (.sent s.clientFD s.batch res)).Coherent := hc.congr rfl rfl rfl rfl
  simp only [offerPending]
  cases res with
  | failed sError | again => exact coherent_disconnectInternal hc' _
  | accepted =>
    dsimp only
    split
    · exact hc.congr rfl rfl rfl rfl
    · split_ifs
      · exact hc.of_online hon rfl rfl rfl
      · apply coherent_sendPackets
        · exact hc.congr rfl rfl rfl rfl
        · exact hon

theorem coherent_doPendingSend (hc : s.Coherent) (nSourceId : ℕ) (bError : Bool)
    (res res' : SendResult) : (s.doPendingSend nSourceId bError res res').2.Coherent := by
  rw [doPendingSend]
  cases hsend : s.refPendingSend with
  | none => exact hc
  | some nId =>
    dsimp only
    split_ifs
    · exact hc
    · exact coherent_disconnectInternal hc _
    · exact coherent_offerPending hc (hc.pendingSend (by rw [hsend]; rfl)) res res'

theorem coherent_doIntervalTimeout (hc : s.Coherent) (nElapsed : ℤ) (res : SendResult) :
    (s.doIntervalTimeout nElapsed res).Coherent := by
  rw [doIntervalTimeout]
  split
  · split_ifs
    · exact coherent_disconnectInternal hc _
    · exact hc
  · rename_i hs
    split_ifs
    · apply coherent_sendPackets
      · exact hc.congr rfl rfl rfl rfl
      · exact (congrArg ClientState.online hs).trans rfl
    · exact hc
  · rename_i hs
    split_ifs
    · exact hc.of_online (by rw [hs]; rfl) rfl rfl rfl
    · exact hc
  · exact hc
  · exact hc

theorem coherent_sendKeyToServer (hc : s.Coherent) (eType : Hk.KeyInputType)
    (eKey : HardwareKey) (res : SendResult) : (s.sendKeyToServer eType eKey res).Coherent := by
  have hput {u : BtKeyClient} (hu : u.Coherent) (oKey : BufferedKey) :
      (u.makePlace.putBufferedKey oKey).Coherent := by
    rw [makePlace]
    split_ifs <;> exact hu.congr rfl rfl rfl rfl
  have hstate {u : BtKeyClient} (oKey : BufferedKey) :
      (u.makePlace.putBufferedKey oKey).state = u.state := by
    rw [makePlace]
    split_ifs <;> rfl
  have hc' (oKey : BufferedKey) :
      Coherent { s.emit (.passed oKey) with nextSerial := s.nextSerial + 1 } :=
    hc.congr rfl rfl rfl rfl
  rw [sendKeyToServer]
  dsimp only
  split
  · exact hput (hc' _) _
  · rename_i hs
    refine coherent_sendPackets (hput (hc' _) _) ?_ res
    rw [hstate, hs]
    rfl
  · exact hc' _
  · exact hc' _
  · exact hc' _

theorem coherent_sendRemoveToServer (hc : s.Coherent) (res : SendResult) :
    (s.sendRemoveToServer res).Coherent := by
  rw [sendRemoveToServer]
  split_ifs with hoff hs
  · exact hc
  · apply coherent_sendPackets
    · exact hc.congr rfl rfl rfl rfl
    · exact (congrArg ClientState.online hs).trans rfl
  · apply coherent_sendPackets
    · exact hc.congr rfl rfl rfl rfl
    · change s.state.online
      cases h : s.state <;> simp_all [ClientState.online]

theorem coherent_dispatch (hc : s.Coherent) (nSourceId : ℕ) (nIOFlags : WriteCondition)
    (res res' : SendResult) : (s.dispatch nSourceId nIOFlags res res').Coherent := by
  have hslot (slot : Option PendingSlot) :
      (s.dispatchSlot nSourceId slot nIOFlags res res').2.Coherent := by
    simp only [dispatchSlot]
    cases slot with
    | none => exact hc
    | some slot =>
      dsimp only
      split_ifs
      · exact hc
      · cases slot with
        | doPendingConnect => exact coherent_doPendingConnect hc ..
        | doPendingSend => exact coherent_doPendingSend hc ..
  rw [dispatch]
  cases s.sources[nSourceId]? with
  | none => exact hc
  | some src =>
    dsimp only
    split_ifs
    · exact hc
    · exact hslot src.slot
    · exact (hslot src.slot).congr rfl rfl rfl rfl

/-- Every operation keeps the state coherent. -/
theorem coherent_perform (hc : s.Coherent) (op : ClientOp) : (s.perform op).Coherent := by
  cases op with
  | connectToServer oBtAddr nL2capPort calls => exact coherent_connectToServer hc ..
  | disconnectFromServer =>
    simp only [perform, disconnectFromServer]
    split_ifs
    · exact hc
    · exact coherent_disconnectInternal hc _
  | sendKeyToServer eType eKey res => exact coherent_sendKeyToServer hc ..
  | sendRemoveToServer res => exact coherent_sendRemoveToServer hc res
  | intervalTick res =>
    simp only [perform, intervalCallback]
    split
    · exact hc
    · apply coherent_doIntervalTimeout
      exact hc.congr rfl rfl rfl rfl
  | dispatch nSourceId nIOFlags res res' => exact coherent_dispatch hc ..
  | destroySource nSourceId =>
    simp only [perform, destroySource]
    cases s.sources[nSourceId]? with
    | none => exact hc
    | some src =>
      dsimp only
      split_ifs
      · exact hc
      · exact hc.congr rfl rfl rfl rfl
      · exact hc.congr rfl rfl rfl rfl

end BtKeyClient

end StmmInputBt
