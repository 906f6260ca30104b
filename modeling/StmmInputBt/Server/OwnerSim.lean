import StmmInputBt.Foundation.Lockstep
import StmmInputBt.Server.Backend

/-!
# Two owners of the backend

The backend treats its owner as a black box. When two owners stay related as long as the same
functions of both are called, two backends that only differ in these owners do the same and keep
them related.

## Main definitions

* `Owner.Sim`: the two owners stay related.
* `GtkBackend.Rel`: the two backends only differ in their owners, which are related.

## Main results

* `GtkBackend.rel_doServerAcceptClient`, `GtkBackend.rel_dispatchSource`.
-/

namespace StmmInputBt

variable {σ τ : Type}

/-- Each function keeps the relation. -/
structure Owner.Sim (O : Owner σ) (O' : Owner τ) (R : σ → τ → Prop) : Prop where
  onDeviceAdded : ∀ sName nBackendId s t, R s t →
    Lockstep R (O.onDeviceAdded sName nBackendId s) (O'.onDeviceAdded sName nBackendId t)
  onDeviceRemoved : ∀ nBackendId s t, R s t →
    Lockstep R (O.onDeviceRemoved nBackendId s) (O'.onDeviceRemoved nBackendId t)
  onBlueKey : ∀ nBackendId eType eHK s t, R s t →
    Lockstep (fun r r' => r.1 = r'.1 ∧ R r.2 r'.2) (O.onBlueKey nBackendId eType eHK s)
      (O'.onBlueKey nBackendId eType eHK t)

/-- What the functions of an owner keep, it keeps next to itself. -/
theorem Owner.Sim.of_keeps {O : Owner σ} {P : σ → Prop}
    (hadded : ∀ sName nBackendId s t, P s → O.onDeviceAdded sName nBackendId s = .ok t → P t)
    (hremoved : ∀ nBackendId s t, P s → O.onDeviceRemoved nBackendId s = .ok t → P t)
    (hkey : ∀ nBackendId eType eHK s r, P s → O.onBlueKey nBackendId eType eHK s = .ok r → P r.2) :
    O.Sim O fun s t => s = t ∧ P s where
  onDeviceAdded := by
    rintro sName nBackendId s _ ⟨rfl, hs⟩
    exact .of_forall_ok fun t ht => hadded sName nBackendId s t hs ht
  onDeviceRemoved := by
    rintro nBackendId s _ ⟨rfl, hs⟩
    exact .of_forall_ok fun t ht => hremoved nBackendId s t hs ht
  onBlueKey := by
    rintro nBackendId eType eHK s _ ⟨rfl, hs⟩
    refine (Lockstep.of_forall_ok fun r hr => hkey nBackendId eType eHK s r hs hr).mono ?_
    rintro r _ ⟨rfl, hr⟩
    exact ⟨rfl, rfl, hr⟩

namespace GtkBackend

/-- The same backend with another owner. -/
def mapOwner (f : σ → τ) (b : GtkBackend σ) : GtkBackend τ :=
  ⟨f b.owner, b.permanentAddrs, b.inputSources, b.sources⟩

/-- The backends only differ in their owners. -/
structure Rel (R : σ → τ → Prop) (b : GtkBackend σ) (c : GtkBackend τ) : Prop where
  owner : R b.owner c.owner
  permanentAddrs : b.permanentAddrs = c.permanentAddrs
  inputSources : b.inputSources = c.inputSources
  sources : b.sources = c.sources

/-- What a callback returns, with the backends after it. -/
abbrev RelResult (R : σ → τ → Prop) (r : Bool × GtkBackend σ) (r' : Bool × GtkBackend τ) : Prop :=
  r.1 = r'.1 ∧ r.2.Rel R r'.2

variable {O : Owner σ} {O' : Owner τ} {R : σ → τ → Prop} {b : GtkBackend σ} {c : GtkBackend τ}

theorem rel_mapOwner {f : σ → τ} : b.Rel (fun s t => f s = t) c ↔ b.mapOwner f = c := by
  cases c
  constructor
  · rintro ⟨rfl, rfl, rfl, rfl⟩
    rfl
  · rintro ⟨⟩
    exact ⟨rfl, rfl, rfl, rfl⟩

theorem Rel.destroySource (h : b.Rel R c) (sid : SourceId) :
    (b.destroySource sid).Rel R (c.destroySource sid) :=
  ⟨h.owner, h.permanentAddrs, h.inputSources, congrArg (List.modify · sid _) h.sources⟩

theorem Rel.attachNewSource (h : b.Rel R c) (nBackendId nClientFD : ℕ)
    (oClientBdAddr : RemoteAddr) :
    (b.attachNewSource nBackendId nClientFD oClientBdAddr).Rel R
      (c.attachNewSource nBackendId nClientFD oClientBdAddr) := by
  refine ⟨h.owner, h.permanentAddrs, ?_, ?_⟩
  · simp only [GtkBackend.attachNewSource, h.inputSources, h.sources]
  · simp only [GtkBackend.attachNewSource, h.sources]

theorem rel_doServerReceive (hO : O.Sim O' R) (h : b.Rel R c) (nBackendId : ℕ) (bRemove : Bool)
    (oPkt : KeyPacket) : Lockstep (RelResult R) (doServerReceive O nBackendId bRemove oPkt b)
      (doServerReceive O' nBackendId bRemove oPkt c) := by
  rw [doServerReceive, doServerReceive]
  rw [h.inputSources]
  refine (Lockstep.refl _).bind fun _ _ _ => ?_
  by_cases hcmd : oPkt.cmd = packetCmdKey
  · simp only [hcmd, if_true]
    refine (hO.onBlueKey nBackendId oPkt.keyType oPkt.hardwareKey _ _ h.owner).bind ?_
    rintro ⟨bContinue, s⟩ ⟨bContinue', t⟩ ⟨rfl, hst⟩
    exact .ok ⟨rfl, hst, h.permanentAddrs, rfl, h.sources⟩
  · simp only [hcmd, if_false]
    cases bRemove with
    | false => exact .ok ⟨rfl, h.owner, h.permanentAddrs, rfl, h.sources⟩
    | true =>
      simp only [if_true]
      refine (Lockstep.refl _).bind fun _ _ _ => ?_
      rw [h.permanentAddrs]
      refine (Lockstep.refl _).bind fun _ _ _ => ?_
      refine (hO.onDeviceRemoved nBackendId _ _ h.owner).bind fun s t hst => ?_
      exact .ok ⟨rfl, hst, rfl, rfl, h.sources⟩

theorem rel_closeConnection (hO : O.Sim O' R) (h : b.Rel R c) (sid : SourceId) (nBackendId : ℕ)
    (bSlot bRemove : Bool) (oPkt : KeyPacket) :
    Lockstep (RelResult R) (closeConnection O sid nBackendId bSlot bRemove oPkt b)
      (closeConnection O' sid nBackendId bSlot bRemove oPkt c) := by
  cases bSlot with
  | false => exact .ok ⟨rfl, h.destroySource sid⟩
  | true => exact rel_doServerReceive hO (h.destroySource sid) nBackendId bRemove oPkt

theorem rel_processPackets (hO : O.Sim O' R) (order : ByteOrder) (sid : SourceId)
    (nBackendId : ℕ) (oDummyPacket : KeyPacket) (nBytesReceived : ℕ) (ps : List KeyPacket)
    (nBufPos : ℕ) (h : b.Rel R c) :
    Lockstep (RelResult R)
      (processPackets O order sid nBackendId oDummyPacket nBytesReceived ps nBufPos b)
      (processPackets O' order sid nBackendId oDummyPacket nBytesReceived ps nBufPos c) := by
  induction ps generalizing nBufPos b c with
  | nil =>
    rw [processPackets, processPackets]
    split_ifs
    · exact rel_closeConnection hO h ..
    · exact .ok ⟨rfl, h⟩
  | cons p ps ih =>
    rw [processPackets, processPackets]
    dsimp only
    split_ifs
    · exact rel_closeConnection hO h ..
    · exact rel_closeConnection hO h ..
    · exact rel_closeConnection hO h ..
    · refine (rel_doServerReceive hO h nBackendId false (p.btohl order)).bind ?_
      rintro ⟨bContinue, b'⟩ ⟨bContinue', c'⟩ ⟨hcontinue, h'⟩
      cases hcontinue
      cases bContinue with
      | false => exact rel_closeConnection hO h' sid nBackendId false false (p.btohl order)
      | true => exact ih _ h'
    · exact ih _ h

theorem rel_dispatch (hO : O.Sim O' R) (h : b.Rel R c) (order : ByteOrder) (sid : SourceId)
    (nBackendId : ℕ) (nIOFlags : IOCondition) (recv : RecvResult) (oDummyPacket : KeyPacket) :
    Lockstep (RelResult R) (dispatch O order sid nBackendId nIOFlags recv oDummyPacket b)
      (dispatch O' order sid nBackendId nIOFlags recv oDummyPacket c) := by
  rw [dispatch.eq_def, dispatch.eq_def]
  split_ifs
  · exact rel_closeConnection hO h ..
  · exact .ok ⟨rfl, h⟩
  · cases recv with
    | error => exact rel_closeConnection hO h ..
    | received bytes => exact rel_processPackets hO order sid nBackendId _ _ _ 0 h

/-- The main loop dispatches a source. -/
theorem rel_dispatchSource (hO : O.Sim O' R) (h : b.Rel R c) (order : ByteOrder) (sid : SourceId)
    (nIOFlags : IOCondition) (recv : RecvResult) (oDummyPacket : KeyPacket) :
    Lockstep (Rel R) (dispatchSource O order sid nIOFlags recv oDummyPacket b)
      (dispatchSource O' order sid nIOFlags recv oDummyPacket c) := by
  rw [dispatchSource, dispatchSource]
  rw [h.sources]
  cases c.sources[sid]? with
  | none => exact .ok h
  | some src =>
    dsimp only
    split_ifs
    · exact .ok h
    · refine (rel_dispatch hO h order sid src.backendId nIOFlags recv oDummyPacket).bind ?_
      rintro ⟨bContinue, b'⟩ ⟨bContinue', c'⟩ ⟨hcontinue, h'⟩
      cases hcontinue
      cases bContinue with
      | false => exact .ok ⟨h'.owner, h'.permanentAddrs, h'.inputSources,
          congrArg (List.modify · sid _) h'.sources⟩
      | true => exact .ok h'

/-- A client connects. -/
theorem rel_doServerAcceptClient (hO : O.Sim O' R) (h : b.Rel R c) (nClientFD : ℕ)
    (oClientBdAddr : RemoteAddr) :
    Lockstep (Rel R) (doServerAcceptClient O nClientFD oClientBdAddr b)
      (doServerAcceptClient O' nClientFD oClientBdAddr c) := by
  obtain ⟨s, aAddrs, aInputs, aSources⟩ := b
  obtain ⟨t, aAddrs', aInputs', aSources'⟩ := c
  obtain ⟨hst, haddrs, hinputs, hsources⟩ := h
  dsimp only at hst haddrs hinputs hsources
  subst haddrs hinputs hsources
  rw [doServerAcceptClient, doServerAcceptClient]
  dsimp only
  cases getBackendId aAddrs oClientBdAddr with
  | some nBackendId =>
    refine .ok (Rel.attachNewSource ?_ nBackendId nClientFD oClientBdAddr)
    split <;> exact ⟨hst, rfl, rfl, rfl⟩
  | none =>
    cases getBackendId aAddrs emptyBdAddr with
    | none =>
      refine (hO.onDeviceAdded oClientBdAddr aAddrs.length _ _ hst).bind fun s t hst => ?_
      exact .ok ⟨hst, rfl, rfl, rfl⟩
    | some nBackendId =>
      refine (Lockstep.refl _).bind fun _ _ _ => ?_
      refine (hO.onDeviceAdded oClientBdAddr nBackendId _ _ hst).bind fun s t hst => ?_
      exact .ok ⟨hst, rfl, rfl, rfl⟩

end GtkBackend

end StmmInputBt
