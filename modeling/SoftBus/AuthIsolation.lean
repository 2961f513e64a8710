import SoftBus.AuthRouting
import SoftBus.AuthSessionSound

/-!
# The sessions of other connections

As long as nothing that a step of a connection reaches belongs to another one, the sessions and managers of the other
connections are what they would be if the connection had never existed.
-/

namespace SoftBus

section
variable {Key : Type} {list : List (AuthFsm Key)} {p : AuthPacket} {test : AuthFsm Key → Bool} {c : BitVec 64}

/-! ## Posting -/

def otherFsms (c : BitVec 64) (list : List (AuthFsm Key)) : List (AuthFsm Key) := list.filter (·.connId ≠ c)

theorem getAuthFsm_others (h : ∀ fsm ∈ list, test fsm → fsm.connId ≠ c) :
    getAuthFsm (otherFsms c list) test = getAuthFsm list test := by
  unfold getAuthFsm otherFsms
  rw [FirstMatch.find?_filter_of_imp]
  intro fsm hfsm htest
  simpa using h fsm hfsm htest

theorem postMessage_own (h : ∀ fsm ∈ list, test fsm → fsm.connId = c) (type : AuthFsmMsgType) :
    otherFsms c (postMessage list p test type).2 = otherFsms c list := by
  unfold postMessage
  split
  · rfl
  · split
    · rfl
    · refine FirstMatch.filter_modify_of_not fun fsm hfsm htest => ?_
      simp [AuthFsm.post, h fsm hfsm htest]

theorem postMessage_other (h : ∀ fsm ∈ list, test fsm → fsm.connId ≠ c) (type : AuthFsmMsgType) :
    postMessage (otherFsms c list) p test type =
      ((postMessage list p test type).1, otherFsms c (postMessage list p test type).2) := by
  unfold postMessage
  rw [getAuthFsm_others h]
  cases getAuthFsm list test with
  | none => rfl
  | some fsm =>
    dsimp only
    cases p.posted with
    | false => rfl
    | true =>
      refine Prod.ext rfl ?_
      refine (FirstMatch.filter_modify_of_imp fun fsm hfsm htest => ?_).symm
      exact ⟨decide_eq_true (h fsm hfsm htest), decide_eq_true (h fsm hfsm htest)⟩

/-! ## The connection of the packet -/

theorem byConnId_own (isServer : Bool) (type : AuthFsmMsgType) :
    otherFsms p.connId (postMessageToAuthFsmByConnId list p isServer type).2 = otherFsms p.connId list :=
  postMessage_own (fun fsm _ htest => by simp [byConnId] at htest; exact htest.1) type

theorem byConnId_other (hc : p.connId ≠ c) (isServer : Bool) (type : AuthFsmMsgType) :
    postMessageToAuthFsmByConnId (otherFsms c list) p isServer type =
      ((postMessageToAuthFsmByConnId list p isServer type).1,
        otherFsms c (postMessageToAuthFsmByConnId list p isServer type).2) :=
  postMessage_other (fun fsm _ htest => by simp [byConnId] at htest; exact htest.1 ▸ hc) type

section
variable (hseq : ∀ fsm ∈ list, fsm.session.authSeq = p.seq → fsm.connId = p.connId)
include hseq

theorem bySeq_own (type : AuthFsmMsgType) :
    otherFsms p.connId (postMessageToAuthFsm list p type).2 = otherFsms p.connId list :=
  postMessage_own (fun fsm hfsm htest => hseq fsm hfsm (by simpa [byAuthSeq] using htest)) type

theorem bySeq_other (hc : p.connId ≠ c) (type : AuthFsmMsgType) :
    postMessageToAuthFsm (otherFsms c list) p type =
      ((postMessageToAuthFsm list p type).1, otherFsms c (postMessageToAuthFsm list p type).2) :=
  postMessage_other (fun fsm hfsm htest => hseq fsm hfsm (by simpa [byAuthSeq] using htest) ▸ hc) type

theorem created_own : ∀ fsm ∈ createAuthFsm list p.id p.connId p.seq true p.connInfo p.idType,
    fsm.session.authSeq = p.seq → fsm.connId = p.connId := by
  intro fsm hfsm heq
  rcases List.mem_cons.mp hfsm with rfl | hfsm
  · rfl
  · exact hseq fsm hfsm heq

theorem startAuthByPacket_own : otherFsms p.connId (startAuthByPacket list p) = otherFsms p.connId list := by
  unfold startAuthByPacket
  split
  · rfl
  · rw [bySeq_own (created_own hseq)]
    simp [createAuthFsm, otherFsms]

theorem handleDeviceIdData_own : otherFsms p.connId (handleDeviceIdData list p) = otherFsms p.connId list := by
  unfold handleDeviceIdData
  split
  · split
    · rfl
    · split
      · exact startAuthByPacket_own hseq
      · split
        · exact bySeq_own hseq _
        · split
          · rfl
          · exact startAuthByPacket_own hseq
  · exact bySeq_own hseq _

theorem handleDeviceInfoData_own : otherFsms p.connId (handleDeviceInfoData list p) = otherFsms p.connId list := by
  have hpost := bySeq_own hseq .recvDeviceInfo
  unfold handleDeviceInfoData
  split
  · rfl
  · generalize postMessageToAuthFsm list p .recvDeviceInfo = res at hpost
    obtain ⟨ok, list'⟩ := res
    cases ok with
    | true => exact hpost
    | false => exact (byConnId_own _ _).trans hpost

theorem handleCloseAckData_own : otherFsms p.connId (handleCloseAckData list p) = otherFsms p.connId list := by
  unfold handleCloseAckData
  split
  · exact bySeq_own hseq _
  · exact byConnId_own _ _

variable (hc : p.connId ≠ c)
include hc

theorem startAuthByPacket_other : startAuthByPacket (otherFsms c list) p = otherFsms c (startAuthByPacket list p) := by
  have hcreate : createAuthFsm (otherFsms c list) p.id p.connId p.seq true p.connInfo p.idType =
      otherFsms c (createAuthFsm list p.id p.connId p.seq true p.connInfo p.idType) := by
    simp [createAuthFsm, otherFsms, hc]
  unfold startAuthByPacket
  rw [hcreate, bySeq_other (created_own hseq) hc]
  cases p.created <;> rfl

theorem handleDeviceIdData_other : otherFsms c (handleDeviceIdData list p) = handleDeviceIdData (otherFsms c list) p := by
  have hget : getAuthFsmByConnId (otherFsms c list) p.connId true = getAuthFsmByConnId list p.connId true := by
    refine getAuthFsm_others fun fsm _ htest => ?_
    simp [byConnId] at htest
    exact htest.1 ▸ hc
  unfold handleDeviceIdData
  rw [hget, bySeq_other hseq hc, startAuthByPacket_other hseq hc]
  split
  · split
    · rfl
    · cases getAuthFsmByConnId list p.connId true with
      | none => rfl
      | some fsm =>
        dsimp only
        split
        · rfl
        · split <;> rfl
  · rfl

theorem handleDeviceInfoData_other :
    otherFsms c (handleDeviceInfoData list p) = handleDeviceInfoData (otherFsms c list) p := by
  unfold handleDeviceInfoData
  rw [bySeq_other hseq hc]
  split
  · rfl
  · generalize postMessageToAuthFsm list p .recvDeviceInfo = res
    obtain ⟨ok, list'⟩ := res
    cases ok with
    | true => rfl
    | false => exact (congrArg Prod.snd (byConnId_other hc _ _)).symm

theorem handleCloseAckData_other : otherFsms c (handleCloseAckData list p) = handleCloseAckData (otherFsms c list) p := by
  unfold handleCloseAckData
  rw [bySeq_other hseq hc, byConnId_other hc]
  split <;> rfl

end

/-! ## Managers -/

variable {connId : BitVec 64} {connInfo : AuthConnInfo} {managers : List (AuthManagerItem Key)}

def otherManagers (c : BitVec 64) (managers : List (AuthManagerItem Key)) : List (AuthManagerItem Key) :=
  managers.filter (·.connId ≠ c)

/-- A function on the managers of a side that reaches only managers of `connId`. -/
structure Reaches (connId : BitVec 64) (managers : List (AuthManagerItem Key))
    (f : List (AuthManagerItem Key) → List (AuthManagerItem Key)) : Prop where
  mem : ∀ auth ∈ f managers, auth ∈ managers ∨ auth.connId = connId
  own : otherManagers connId (f managers) = otherManagers connId managers
  other : ∀ c, connId ≠ c → otherManagers c (f managers) = f (otherManagers c managers)

theorem Reaches.alter (h : Mine connId connInfo managers) {g : Option (AuthManagerItem Key) → Option (AuthManagerItem Key)}
    (hg : ∀ auth? : Option (AuthManagerItem Key), (∀ auth ∈ auth?, auth.connId = connId) →
      ∀ auth ∈ g auth?, auth.connId = connId) :
    Reaches connId managers (FirstMatch.alter (isItemOf connInfo) g) := by
  have hnew : ∀ auth ∈ g (managers.find? (isItemOf connInfo)), auth.connId = connId :=
    hg _ fun auth hauth => h auth (List.mem_of_find?_eq_some hauth) (List.find?_some hauth)
  refine ⟨fun auth hauth => (FirstMatch.mem_alter hauth).imp_right (hnew auth), ?_, fun c hc => ?_⟩
  · exact FirstMatch.filter_alter_of_not (fun auth ha hi => by simp [h auth ha hi]) fun auth ha => by simp [hnew auth ha]
  · exact FirstMatch.filter_alter_of_imp (fun auth ha hi => by simp [h auth ha hi, hc])
      fun auth ha => by simp [hnew auth ha, hc]

theorem Reaches.self : Reaches connId managers (·) := ⟨fun _ => .inl, rfl, fun _ _ => rfl⟩

theorem reaches_handleConnectionData (gcm : AesGcm Key) (h : Mine p.connId p.connInfo managers) :
    Reaches p.connId managers (handleConnectionData gcm · p) := by
  refine .alter h fun auth? hauth auth hmem => ?_
  obtain ⟨auth', rfl, rfl⟩ := Option.mem_map.mp hmem
  split
  · rfl
  · exact hauth auth' rfl

theorem reaches_manage {fsm : AuthFsm Key} {info : AuthSessionInfo} (env : WorkEnv)
    (hold : Mine fsm.connId fsm.session.info.connInfo managers) (hnew : Mine fsm.connId info.connInfo managers)
    (entry : AuthLog Key) : Reaches fsm.connId managers (fsm.manage info env · entry) := by
  cases entry with
  | stored key =>
    unfold AuthFsm.manage
    simp only [setSessionKey_eq ⟨true, fsm.connId, env.now, true, true⟩ rfl rfl rfl]
    refine .alter hold fun auth? _ auth hmem => ?_
    obtain rfl := Option.some.inj hmem
    cases auth? <;> rfl
  | passed =>
    refine .alter hnew fun auth? hauth auth hmem => ?_
    obtain ⟨auth', rfl, rfl⟩ := Option.mem_map.mp hmem
    split
    · exact hauth auth' rfl
    · exact hauth auth' rfl
  | failed reason =>
    refine .alter hnew fun auth? hauth auth hmem => hauth auth ?_
    exact (Option.filter_eq_some_iff.mp hmem).1
  | _ => exact .self

theorem Reaches.foldl {ι : Type} {f : List (AuthManagerItem Key) → ι → List (AuthManagerItem Key)}
    {a b : AuthConnInfo} (hf : ∀ managers, Mine connId a managers → Mine connId b managers →
      ∀ entry, Reaches connId managers (f · entry)) :
    ∀ (log : List ι) {managers : List (AuthManagerItem Key)}, Mine connId a managers → Mine connId b managers →
      otherManagers connId (log.foldl f managers) = otherManagers connId managers ∧
        ∀ c, connId ≠ c → otherManagers c (log.foldl f managers) = log.foldl f (otherManagers c managers)
  | [], _, _, _ => ⟨rfl, fun _ _ => rfl⟩
  | entry :: log, managers, ha, hb => by
    have hstep := hf managers ha hb entry
    have hkeep : ∀ {connInfo}, Mine connId connInfo managers → Mine connId connInfo (f managers entry) :=
      fun h auth hauth hitem => (hstep.mem auth hauth).elim (h auth · hitem) id
    obtain ⟨hown, hother⟩ := Reaches.foldl hf log (hkeep ha) (hkeep hb)
    refine ⟨hown.trans hstep.own, fun c hc => ?_⟩
    rw [List.foldl_cons, hother c hc, hstep.other c hc, List.foldl_cons]

/-! ## Steps -/

section
variable {gcm : AesGcm Key} {s : AuthState Key} {id : Nat}

theorem others_update (M : Bool → List (AuthManagerItem Key)) (side : Bool) (managers : List (AuthManagerItem Key)) :
    (fun isServer => otherManagers c (Function.update M side managers isServer)) =
      Function.update (fun isServer => otherManagers c (M isServer)) side (otherManagers c managers) := by
  funext isServer
  by_cases h : isServer = side
  · subst h
    rw [Function.update_self, Function.update_self]
  · rw [Function.update_of_ne h, Function.update_of_ne h]

theorem isAt_connId {fsm : AuthFsm Key} (h : fsm.isAt connId id = true) : fsm.connId = connId := by
  simp only [AuthFsm.isAt, Bool.and_eq_true, decide_eq_true_eq] at h
  exact h.1

theorem onDataReceived_own (h : OwnTargets gcm s (.packet p)) :
    others p.connId (onDataReceived gcm s p) = others p.connId s := by
  obtain ⟨hseq, hmanager⟩ := h
  unfold onDataReceived
  cases htype : p.dataType with
  | deviceId => exact congrArg (AuthState.mk · _) (handleDeviceIdData_own hseq)
  | auth => exact congrArg (AuthState.mk · _) (bySeq_own hseq .recvAuthData)
  | deviceInfo => exact congrArg (AuthState.mk · _) (handleDeviceInfoData_own hseq)
  | closeAck => exact congrArg (AuthState.mk · _) (handleCloseAckData_own hseq)
  | connection =>
    have hreach := reaches_handleConnectionData gcm (hmanager htype)
    refine congrArg (AuthState.mk _) ((others_update _ _ _).trans ?_)
    rw [hreach.own, Function.update_eq_self]
    rfl
  | unknown => rfl

theorem onDataReceived_other (h : OwnTargets gcm s (.packet p)) (hc : p.connId ≠ c) :
    others c (onDataReceived gcm s p) = onDataReceived gcm (others c s) p := by
  obtain ⟨hseq, hmanager⟩ := h
  unfold onDataReceived
  cases htype : p.dataType with
  | deviceId => exact congrArg (AuthState.mk · _) (handleDeviceIdData_other hseq hc)
  | auth => exact congrArg (AuthState.mk · _) (congrArg Prod.snd (bySeq_other hseq hc .recvAuthData)).symm
  | deviceInfo => exact congrArg (AuthState.mk · _) (handleDeviceInfoData_other hseq hc)
  | closeAck => exact congrArg (AuthState.mk · _) (handleCloseAckData_other hseq hc)
  | connection =>
    have hreach := reaches_handleConnectionData gcm (hmanager htype)
    refine congrArg (AuthState.mk _) ((others_update _ _ _).trans ?_)
    rw [hreach.other c hc]
    rfl
  | unknown => rfl

theorem work_own {e : AuthSessionEvent Key} {env : WorkEnv} (h : OwnTargets gcm s (.work connId id e env)) :
    others connId (s.work gcm connId id e env) = others connId s := by
  unfold AuthState.work
  cases hfind : s.fsms.find? (AuthFsm.isAt connId id) with
  | none => rfl
  | some fsm =>
    obtain rfl := isAt_connId (List.find?_some hfind)
    obtain ⟨hold, hnew⟩ := h fsm (by rw [hfind]; exact List.mem_singleton_self _)
    have hfold log := Reaches.foldl (fun _ ha hb => reaches_manage env ha hb) log hold hnew
    refine congrArg₂ AuthState.mk (FirstMatch.filter_modify_of_not fun fsm' _ hat => ?_) ?_
    · simp [isAt_connId hat]
    · refine (others_update _ _ _).trans ?_
      rw [(hfold _).1, Function.update_eq_self]
      rfl

theorem work_other {e : AuthSessionEvent Key} {env : WorkEnv} (h : OwnTargets gcm s (.work connId id e env))
    (hc : connId ≠ c) : others c (s.work gcm connId id e env) = (others c s).work gcm connId id e env := by
  have hget : (others c s).fsms.find? (AuthFsm.isAt connId id) = s.fsms.find? (AuthFsm.isAt connId id) :=
    FirstMatch.find?_filter_of_imp fun fsm _ hat => by simp [isAt_connId hat, hc]
  unfold AuthState.work
  rw [hget]
  cases hfind : s.fsms.find? (AuthFsm.isAt connId id) with
  | none => rfl
  | some fsm =>
    obtain rfl := isAt_connId (List.find?_some hfind)
    obtain ⟨hold, hnew⟩ := h fsm (by rw [hfind]; exact List.mem_singleton_self _)
    have hfold log := Reaches.foldl (fun _ ha hb => reaches_manage env ha hb) log hold hnew
    have hworked : fsm.worked gcm ((others c s).managers fsm.session.info.isServer) e =
        fsm.worked gcm (s.managers fsm.session.info.isServer) e := by
      unfold AuthFsm.worked others
      rw [FirstMatch.find?_filter_of_imp fun auth ha hi => by simp [hold auth ha hi, hc]]
    dsimp only
    rw [hworked]
    refine congrArg₂ AuthState.mk (FirstMatch.filter_modify_of_imp fun fsm' _ hat => ?_) ?_
    · simp [isAt_connId hat, hc]
    · refine (others_update _ _ _).trans ?_
      rw [(hfold _).2 c hc]
      rfl

theorem authStep_own (e : AuthEvent Key) (h : OwnTargets gcm s e) :
    others e.connId (authStep gcm s e) = others e.connId s := by
  cases e with
  | packet p => exact onDataReceived_own h
  | start id connId authSeq connInfo idType => simp [authStep, createAuthFsm, others, AuthEvent.connId]
  | work connId id e env => exact work_own h
  | destroy connId id =>
    refine congrArg (AuthState.mk · _) ((List.filter_comm ..).trans (List.filter_eq_self.mpr fun fsm hfsm => ?_))
    have hne : fsm.connId ≠ connId := of_decide_eq_true (List.mem_filter.mp hfsm).2
    simp [AuthFsm.isAt, hne]

theorem authStep_other (e : AuthEvent Key) (h : OwnTargets gcm s e) (hc : e.connId ≠ c) :
    others c (authStep gcm s e) = authStep gcm (others c s) e := by
  cases e with
  | packet p => exact onDataReceived_other h hc
  | start id connId authSeq connInfo idType =>
    have hc : connId ≠ c := hc
    simp [authStep, createAuthFsm, others, hc]
  | work connId id e env => exact work_other h hc
  | destroy connId id => exact congrArg (AuthState.mk · _) (List.filter_comm ..)

end

theorem others_final (gcm : AesGcm Key) (l : List (AuthEvent Key)) (h : Run.Always (authStep gcm) (OwnTargets gcm) {} l)
    (c : BitVec 64) : others c (Run.final (authStep gcm) {} l) =
      Run.final (authStep gcm) {} (l.filter fun e => !decide (e.connId = c)) := by
  refine Run.view_final (others c) (fun e => decide (e.connId = c)) (fun s e hs he => ?_) (fun s e hs he => ?_) l h
  · rw [← of_decide_eq_true he]
    exact authStep_own e hs
  · exact authStep_other e hs (of_decide_eq_false he)

end

def peerPacket (connId : BitVec 64) (ip : UInt8) (seq : BitVec 64) (dataType : AuthDataType) : AuthPacket :=
  { connId, connInfo := .wifi [ip] 80, fromServer := false, dataType, seq, flag := clientSideFlag, data := []
    supportAsServer := true, isFlushDevicePacket := false, posted := true, created := true, id := 1
    idType := exchangeUdid, now := 0 }

/-- A peer on connection 1 has its session key stored. Then one on connection 2 sends a device id that is no JSON. -/
def badDeviceId (ip : UInt8) : List (AuthEvent UInt8) :=
  .packet (peerPacket 1 10 5 .deviceId) :: ((wifiServerRun 1 1).take 4).map (.work 1 1 · {}) ++
    [.packet (peerPacket 2 ip 6 .deviceId), .work 2 1 (.start true) {},
      .work 2 1 (.msg (.recvDeviceId { deviceIdMsg .getAuthInfo [65] with json := none })) {}] ++
    ((wifiServerRun 1 1).drop 4).map (.work 1 1 · {})

def sessionLogs (s : AuthState UInt8) : List (BitVec 64 × List (AuthLog UInt8)) :=
  s.fsms.map fun fsm => (fsm.connId, fsm.session.log)

end SoftBus
