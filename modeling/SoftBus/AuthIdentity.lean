import SoftBus.AuthSessionSound

/-!
# Whose key an auth session stores

HiChain authenticates the peer under the udid that the session holds when HiChain is started or asks for it. The
auth manager is made, or found by the address of the peer, when the key arrives. The two agree if no device id message
replaces the udid in between and the auth manager of the address is that of the same device.
-/

namespace SoftBus

namespace AuthSession

section
variable {Key : Type} {gcm : AesGcm Key} {s s' s'' : AuthSession Key} (m : DeviceInfoMsg)

/-! ## Handlers that do not concern the identity -/

def NoKeyAdded (log log' : List (AuthLog Key)) : Prop := ∃ entries, log' = log ++ entries ∧ ∀ key, .stored key ∉ entries

theorem NoKeyAdded.refl (log : List (AuthLog Key)) : NoKeyAdded log log := ⟨[], by simp⟩

theorem NoKeyAdded.trans {log log' log'' : List (AuthLog Key)} (h : NoKeyAdded log log') (h' : NoKeyAdded log' log'') :
    NoKeyAdded log log'' := by
  obtain ⟨entries, rfl, hentries⟩ := h
  obtain ⟨entries', rfl, hentries'⟩ := h'
  refine ⟨entries ++ entries', List.append_assoc .., fun key hkey => ?_⟩
  exact (List.mem_append.mp hkey).elim (hentries key) (hentries' key)

theorem NoKeyAdded.mem {log log' : List (AuthLog Key)} (h : NoKeyAdded log log') {key : Key} (hkey : .stored key ∈ log') :
    .stored key ∈ log := by
  obtain ⟨entries, rfl, hentries⟩ := h
  exact (List.mem_append.mp hkey).resolve_right (hentries key)

theorem NoKeyAdded.not_prefix {log log' : List (AuthLog Key)} (h : NoKeyAdded log log') (key : Key) :
    ¬ log ++ [.stored key] <+: log' := by
  obtain ⟨entries, rfl, hentries⟩ := h
  intro hprefix
  exact hentries key (((List.prefix_append_right_inj _).mp hprefix).subset (.head _))

structure SameIdentity (s s' : AuthSession Key) : Prop where
  udid : s'.info.udid = s.info.udid
  vouched : s'.vouched = s.vouched
  curState : s'.curState = s.curState
  alive : s'.isDead = false → s.isDead = false
  log : NoKeyAdded s.log s'.log

theorem SameIdentity.refl (s : AuthSession Key) : SameIdentity s s := ⟨rfl, rfl, rfl, id, .refl _⟩

theorem SameIdentity.trans (h : SameIdentity s s') (h' : SameIdentity s' s'') : SameIdentity s s'' :=
  ⟨h'.udid.trans h.udid, h'.vouched.trans h.vouched, h'.curState.trans h.curState, h.alive ∘ h'.alive, h.log.trans h'.log⟩

theorem completeFail_same (reason : AuthFailReason) : SameIdentity s (s.completeFail reason) :=
  ⟨rfl, rfl, rfl, nofun, [.failed reason], rfl, by simp⟩

theorem completeOk_same : SameIdentity s s.completeOk := ⟨rfl, rfl, rfl, nofun, [.finished], rfl, by simp⟩

theorem setAuthPassed_same : SameIdentity s s.setAuthPassed := ⟨rfl, rfl, rfl, id, [.passed], rfl, by simp⟩

theorem tryFinishAuthSession_same : SameIdentity s s.tryFinishAuthSession := by
  unfold tryFinishAuthSession
  split
  · exact completeOk_same
  · exact .refl s

theorem handleMsgAuthFinish_same : SameIdentity s s.handleMsgAuthFinish := by
  refine SameIdentity.trans ?_ tryFinishAuthSession_same
  exact ⟨rfl, rfl, rfl, id, .refl _⟩

theorem handleMsgRecvAuthData_same (processed : Bool) : SameIdentity s (s.handleMsgRecvAuthData processed) := by
  unfold handleMsgRecvAuthData
  split
  · exact completeFail_same _
  · exact .refl s

theorem handleCommonMsg_same (msg : AuthMsg Key) : SameIdentity s (s.handleCommonMsg msg) := by
  unfold handleCommonMsg
  split
  · exact completeFail_same _
  · exact completeFail_same _
  · split
    · exact completeOk_same
    · exact completeFail_same _
  · exact .refl s

theorem nodeInfoReceivedWifi_same : SameIdentity s (s.nodeInfoReceivedWifi gcm m) := by
  have h : SameIdentity s { s with info := { s.info with isCloseAckReceived := true } } := ⟨rfl, rfl, rfl, id, .refl _⟩
  unfold nodeInfoReceivedWifi
  dsimp only
  split
  · exact h.trans (completeFail_same _)
  · exact (h.trans setAuthPassed_same).trans tryFinishAuthSession_same

theorem nodeInfoReceivedBt_same : SameIdentity s (s.nodeInfoReceivedBt m) := by
  have htail (s' : AuthSession Key) (h : SameIdentity s s') :
      SameIdentity s (if !m.ackSent then s'.completeFail .sendFail
        else if s'.info.isCloseAckReceived then s'.setAuthPassed.tryFinishAuthSession else s') := by
    split
    · exact h.trans (completeFail_same _)
    split
    · exact (h.trans setAuthPassed_same).trans tryFinishAuthSession_same
    · exact h
  unfold nodeInfoReceivedBt
  split
  · apply htail
    exact ⟨rfl, rfl, rfl, id, .refl _⟩
  · exact htail s (.refl s)

theorem handleMsgRecvDeviceInfo_same : SameIdentity s (s.handleMsgRecvDeviceInfo gcm m) := by
  unfold handleMsgRecvDeviceInfo
  split
  · exact completeFail_same _
  · have h : SameIdentity s { s with
        info := { s.info with isNodeInfoReceived := true }
        log := s.log ++ (s.sessionKey.map AuthLog.decrypted).toList } := ⟨rfl, rfl, rfl, id, _, rfl, by simp⟩
    dsimp only
    split
    · exact h.trans (nodeInfoReceivedWifi_same m)
    · exact h.trans (nodeInfoReceivedBt_same m)

theorem handleMsgRecvCloseAck_same : SameIdentity s s.handleMsgRecvCloseAck := by
  have h : SameIdentity s { s with
      info := { s.info with isCloseAckReceived := true }, log := s.log ++ [.closeAck] } :=
    ⟨rfl, rfl, rfl, id, _, rfl, by simp⟩
  unfold handleMsgRecvCloseAck
  dsimp only
  split
  · exact (h.trans setAuthPassed_same).trans tryFinishAuthSession_same
  · exact h.trans tryFinishAuthSession_same

def Open (s : AuthSession Key) : Prop := s.isDead = false ∧ s.curState ≠ some .syncDeviceInfo

theorem process_cases (gcm : AesGcm Key) (s : AuthSession Key) (msg : AuthMsg Key) :
    SameIdentity s (s.process gcm msg) ∨
    (∃ m, msg = .recvDeviceId m ∧ s.Open ∧ s.process gcm msg = s.handleMsgRecvDeviceId m) ∨
    ∃ m, msg = .saveSessionKey m ∧ s.Open ∧ s.process gcm msg = s.handleMsgSaveSessionKey gcm m := by
  unfold process
  cases halive : s.isDead with
  | true => exact .inl (.refl s)
  | false =>
    rw [if_neg (by simp)]
    split
    · exact .inl (.refl s)
    · rename_i hstate
      unfold syncDevIdStateProcess
      split
      · exact .inr (.inl ⟨_, rfl, ⟨halive, by simp [hstate]⟩, rfl⟩)
      · exact .inl (handleCommonMsg_same _)
    · rename_i hstate
      unfold deviceAuthStateProcess
      split
      · exact .inr (.inl ⟨_, rfl, ⟨halive, by simp [hstate]⟩, rfl⟩)
      · exact .inl (handleMsgRecvAuthData_same _)
      · exact .inr (.inr ⟨_, rfl, ⟨halive, by simp [hstate]⟩, rfl⟩)
      · exact .inl (completeFail_same _)
      · exact .inl ⟨rfl, rfl, rfl, id, .refl _⟩
      · exact .inl handleMsgAuthFinish_same
      · exact .inl (handleCommonMsg_same _)
    · unfold syncDevInfoStateProcess
      split
      · exact .inl (handleMsgRecvDeviceInfo_same _)
      · exact .inl handleMsgRecvCloseAck_same
      · exact .inl (handleMsgRecvAuthData_same _)
      · exact .inl handleMsgAuthFinish_same
      · exact .inl (handleCommonMsg_same _)

/-! ## Device id messages -/

theorem updateUdidHashIfEmpty_udid (udidHash : List UInt8) (info : AuthSessionInfo) :
    (updateUdidHashIfEmpty udidHash info).udid = info.udid := by
  unfold updateUdidHashIfEmpty
  split
  · split <;> rfl
  · rfl

structure TakesUdid (udid : List UInt8) (s s' : AuthSession Key) : Prop where
  taken : s'.info.udid = udid
  vouched : ∀ u ∈ s'.vouched, u ∈ s.vouched ∨ u = udid
  log : NoKeyAdded s.log s'.log

theorem TakesUdid.trans_same {udid : List UInt8} (h : TakesUdid udid s s') (h' : SameIdentity s' s'') :
    TakesUdid udid s s'' :=
  ⟨h'.udid.trans h.taken, fun u hu => h.vouched u (h'.vouched ▸ hu), h.log.trans h'.log⟩

theorem enterSyncDeviceId_takes (posted : Bool) : TakesUdid s.info.udid s (s.enterSyncDeviceId posted) := by
  have h : TakesUdid s.info.udid s { s with curState := some .syncDeviceId } := ⟨rfl, fun _ => .inl, .refl _⟩
  unfold enterSyncDeviceId
  dsimp only
  split
  · exact h.trans_same (completeFail_same _)
  · exact h

theorem startDeviceAuth_takes (m : DeviceIdMsg) : TakesUdid s.info.udid s (s.startDeviceAuth m) := by
  have h : TakesUdid s.info.udid s { s with curState := some .deviceAuth } := ⟨rfl, fun _ => .inl, .refl _⟩
  have hvouched (u : List UInt8) (hu : u ∈ s.vouched ++ [s.info.udid]) : u ∈ s.vouched ∨ u = s.info.udid := by
    simpa using hu
  unfold startDeviceAuth
  dsimp only
  split
  · cases m.recovered with
    | none => exact h.trans_same (completeFail_same _)
    | some found =>
      have hfound : TakesUdid s.info.udid s { s with
          curState := some .deviceAuth, info := { s.info with oldIndex := found.1 },
          vouched := s.vouched ++ [s.info.udid] } := ⟨rfl, hvouched, .refl _⟩
      dsimp only
      split
      · exact hfound
      · exact hfound.trans_same (completeFail_same _)
  split
  · exact h
  split
  · have henter := enterSyncDeviceId_takes (s := { s with
      curState := some .deviceAuth, info := { s.info with idType := exchangeUdid } }) m.reposted
    exact ⟨henter.taken, henter.vouched, henter.log⟩
  split
  · exact ⟨rfl, hvouched, .refl _⟩
  · exact h.trans_same (completeFail_same _)

def udidAfter (s : AuthSession Key) (m : DeviceIdMsg) : List UInt8 :=
  match processDeviceIdMessage m s.info with
  | none => s.info.udid
  | some info => info.udid

theorem handleMsgRecvDeviceId_takes (m : DeviceIdMsg) : TakesUdid (s.udidAfter m) s (s.handleMsgRecvDeviceId m) := by
  unfold handleMsgRecvDeviceId udidAfter
  cases processDeviceIdMessage m s.info with
  | none =>
    have h := completeFail_same (s := s) .syncDevIdFail
    exact ⟨h.udid, fun u hu => .inl (h.vouched ▸ hu), h.log⟩
  | some info =>
    have hudid := updateUdidHashIfEmpty_udid m.udidHash info
    dsimp only
    split
    · exact ⟨hudid, fun _ => .inl, (completeFail_same _).log⟩
    · have hstart := startDeviceAuth_takes (s := { s with info := updateUdidHashIfEmpty m.udidHash info }) m
      dsimp only at hstart
      rw [hudid] at hstart
      exact ⟨hstart.taken, hstart.vouched, hstart.log⟩

/-! ## The session key -/

theorem handleMsgSaveSessionKey_cases (gcm : AesGcm Key) (s : AuthSession Key) (m : SessionKeyMsg Key) :
    SameIdentity s (s.handleMsgSaveSessionKey gcm m) ∨
    ((s.handleMsgSaveSessionKey gcm m).info.udid = s.info.udid ∧
      (s.handleMsgSaveSessionKey gcm m).info.connInfo = s.info.connInfo ∧
      (s.handleMsgSaveSessionKey gcm m).vouched = s.vouched ∧ ¬ (s.handleMsgSaveSessionKey gcm m).Open ∧
      (NoKeyAdded s.log (s.handleMsgSaveSessionKey gcm m).log ∨
        authManagerSetSessionKey s.authSeq s.info m.key m.mem s.managers =
          some (s.handleMsgSaveSessionKey gcm m).managers)) := by
  unfold handleMsgSaveSessionKey
  split
  · exact .inl (.refl s)
  right
  cases authManagerSetSessionKey s.authSeq s.info m.key m.mem s.managers with
  | none =>
    dsimp only
    split
    · exact ⟨rfl, rfl, rfl, (fun h => nomatch h.1), .inl (completeFail_same _).log⟩
    · exact ⟨rfl, rfl, rfl, fun h => h.2 rfl, .inl (.refl _)⟩
  | some managers =>
    dsimp only
    split
    · exact ⟨rfl, rfl, rfl, (fun h => nomatch h.1), .inr rfl⟩
    · exact ⟨rfl, rfl, rfl, fun h => h.2 rfl, .inr rfl⟩

theorem getLatestSessionKey_addSessionKey (list : SessionKeyList Key) (index : BitVec 32) (key : Key) :
    getLatestSessionKey (addSessionKey list index key) = some ⟨index, key⟩ := by
  unfold getLatestSessionKey addSessionKey removeOldKey
  split
  · exact List.getLast?_concat
  · rename_i hlen
    cases list with
    | nil => simp [sessionKeyMaxNum] at hlen
    | cons item list => exact List.getLast?_concat

theorem find_set {authSeq : BitVec 64} {info : AuthSessionInfo} {key : Key} {mem : Bool}
    {managers managers' : List (AuthManager Key)}
    (h : authManagerSetSessionKey authSeq info key mem managers = some managers')
    (hudid : ∀ auth, findAuthManagerByConnInfo managers info.connInfo = some auth → auth.udid = info.udid) :
    ∃ auth, findAuthManagerByConnInfo managers' info.connInfo = some auth ∧ auth.udid = info.udid ∧
      (getLatestSessionKey auth.sessionKeyList).map (·.key) = some key := by
  obtain ⟨hfind, rfl⟩ | ⟨auth, hfind, rfl⟩ := authManagerSetSessionKey_cases h
  · refine ⟨⟨info.connInfo, info.udid, addSessionKey [] (sessionKeyIndex authSeq info) key⟩, ?_, rfl, ?_⟩
    · unfold findAuthManagerByConnInfo at hfind ⊢
      rw [List.find?_append, hfind, Option.none_or, List.find?_singleton, isManagerOf, compareConnInfo_self, if_pos rfl]
    · rw [getLatestSessionKey_addSessionKey, Option.map_some]
  · refine ⟨{ auth with
      sessionKeyList := addSessionKey auth.sessionKeyList (sessionKeyIndex authSeq info) key }, ?_, hudid auth hfind, ?_⟩
    · unfold findAuthManagerByConnInfo at hfind ⊢
      rw [FirstMatch.find?_modify, hfind, Option.map_some]
      exact fun _ hx => hx
    · rw [getLatestSessionKey_addSessionKey, Option.map_some]

/-! ## All steps -/

/-- HiChain gives a key for a udid that it was started with, or asked for, in the session; a recovered key is that of a udid it
was recovered for. -/
def HichainHonest (s : AuthSession Key) : AuthSessionEvent Key → Prop
  | .msg (.saveSessionKey m) => m.udid ∈ s.vouched
  | _ => True

/-- No device id message replaces a udid that is vouched for, and a key only comes when the auth manager of the
address, if there is one, is that of the device. -/
def KeepsIdentity (s : AuthSession Key) : AuthSessionEvent Key → Prop
  | .msg (.recvDeviceId m) => s.Open → s.vouched ≠ [] → s.udidAfter m = s.info.udid
  | .msg (.saveSessionKey _) =>
    ∀ auth, findAuthManagerByConnInfo s.managers s.info.connInfo = some auth → auth.udid = s.info.udid
  | _ => True

/-- If the key is stored, the session and the auth manager that has it now hold the udid it is for. Once a
key is stored the udid stays. -/
def IdentityBound (gcm : AesGcm Key) (s : AuthSession Key) (e : AuthSessionEvent Key) : Prop :=
  let s' := s.step gcm e
  (∀ m, e = .msg (.saveSessionKey m) → s.log ++ [.stored m.key] <+: s'.log →
    s'.info.udid = m.udid ∧ ∃ auth, findAuthManagerByConnInfo s'.managers s'.info.connInfo = some auth ∧
      auth.udid = m.udid ∧ (getLatestSessionKey auth.sessionKeyList).map (·.key) = some m.key) ∧
  ((∃ key, .stored key ∈ s.log) → s'.info.udid = s.info.udid)

structure Bound (s : AuthSession Key) : Prop where
  vouched : ∀ u ∈ s.vouched, u = s.info.udid
  closed : ∀ key, .stored key ∈ s.log → ¬ s.Open

theorem SameIdentity.bound (h : SameIdentity s s') (hs : Bound s) : Bound s' := by
  refine ⟨?_, fun key hkey hopen => ?_⟩
  · rw [h.vouched, h.udid]
    exact hs.vouched
  · exact hs.closed key (h.log.mem hkey) ⟨h.alive hopen.1, h.curState ▸ hopen.2⟩

theorem TakesUdid.bound {udid : List UInt8} (h : TakesUdid udid s s') (hs : Bound s) (hopen : s.Open)
    (hkeep : s.vouched ≠ [] → udid = s.info.udid) : Bound s' := by
  refine ⟨fun u hu => ?_, fun key hkey => absurd hopen (hs.closed key (h.log.mem hkey))⟩
  rw [h.taken]
  rcases h.vouched u hu with hu | rfl
  · exact (hs.vouched u hu).trans (hkeep (List.ne_nil_of_mem hu)).symm
  · rfl

theorem Bound.process (hs : Bound s) (msg : AuthMsg Key) (hkeep : KeepsIdentity s (.msg msg)) :
    Bound (s.process gcm msg) := by
  obtain h | ⟨m, rfl, hopen, h⟩ | ⟨m, rfl, -, h⟩ := process_cases gcm s msg
  · exact h.bound hs
  · rw [h]
    exact (handleMsgRecvDeviceId_takes m).bound hs hopen (hkeep hopen)
  · rw [h]
    obtain h | ⟨hudid, -, hvouched, hclosed, -⟩ := handleMsgSaveSessionKey_cases gcm s m
    · exact h.bound hs
    · refine ⟨?_, fun _ _ => hclosed⟩
      rw [hudid, hvouched]
      exact hs.vouched

theorem Bound.step (hs : Bound s) (e : AuthSessionEvent Key) (hkeep : KeepsIdentity s e) : Bound (s.step gcm e) := by
  cases e with
  | start posted =>
    unfold AuthSession.step
    dsimp only
    split
    · exact hs
    · rename_i hstart
      have hopen : s.Open := by
        constructor <;> simp_all
      exact (enterSyncDeviceId_takes posted).bound hs hopen fun _ => rfl
  | msg msg => exact hs.process msg hkeep
  | request =>
    unfold AuthSession.step
    dsimp only
    split
    · exact hs
    · refine ⟨fun u hu => ?_, hs.closed⟩
      rcases List.mem_append.mp hu with hu | hu
      · exact hs.vouched u hu
      · exact List.mem_singleton.mp hu
  | managers managers => exact ⟨hs.vouched, hs.closed⟩

theorem step_saveSessionKey_bound (hs : Bound s) (m : SessionKeyMsg Key) (hhonest : m.udid ∈ s.vouched)
    (hkeep : ∀ auth, findAuthManagerByConnInfo s.managers s.info.connInfo = some auth → auth.udid = s.info.udid)
    (hstored : s.log ++ [.stored m.key] <+: (s.process gcm (.saveSessionKey m)).log) :
    (s.process gcm (.saveSessionKey m)).info.udid = m.udid ∧
      ∃ auth, findAuthManagerByConnInfo (s.process gcm (.saveSessionKey m)).managers
          (s.process gcm (.saveSessionKey m)).info.connInfo = some auth ∧
        auth.udid = m.udid ∧ (getLatestSessionKey auth.sessionKeyList).map (·.key) = some m.key := by
  obtain h | ⟨_, hmsg, _⟩ | ⟨_, hmsg, -, h⟩ := process_cases gcm s (.saveSessionKey m)
  · exact absurd hstored (h.log.not_prefix m.key)
  · cases hmsg
  cases hmsg
  rw [h] at hstored ⊢
  obtain h | ⟨hudid, hconn, -, -, hkey⟩ := handleMsgSaveSessionKey_cases gcm s m
  · exact absurd hstored (h.log.not_prefix m.key)
  rcases hkey with hkey | hset
  · exact absurd hstored (hkey.not_prefix m.key)
  rw [hudid, hconn, hs.vouched m.udid hhonest]
  exact ⟨rfl, find_set hset hkeep⟩

theorem step_udid_of_not_open (hclosed : ¬ s.Open) (e : AuthSessionEvent Key) :
    (s.step gcm e).info.udid = s.info.udid := by
  cases e with
  | start posted =>
    unfold AuthSession.step
    dsimp only
    rw [if_pos]
    by_contra hstart
    apply hclosed
    constructor <;> simp_all
  | msg msg =>
    obtain h | ⟨m, -, hopen, -⟩ | ⟨m, -, hopen, -⟩ := process_cases gcm s msg
    · exact h.udid
    · exact absurd hopen hclosed
    · exact absurd hopen hclosed
  | request =>
    unfold AuthSession.step
    dsimp only
    split <;> rfl
  | managers managers => rfl

theorem Bound.identityBound (hs : Bound s) (e : AuthSessionEvent Key) (hhonest : HichainHonest s e)
    (hkeep : KeepsIdentity s e) : IdentityBound gcm s e := by
  constructor
  · rintro m rfl hstored
    exact step_saveSessionKey_bound hs m hhonest hkeep hstored
  · rintro ⟨key, hkey⟩
    exact step_udid_of_not_open (hs.closed key hkey) e

/-- In every run in which HiChain is honest and each step keeps the identity, a key that the session stores
goes to the auth manager of the udid it is for, and the udid stays. -/
theorem auth_identity_bound (gcm : AesGcm Key) (authSeq : BitVec 64) (isServer : Bool) (connInfo : AuthConnInfo)
    (idType : BitVec 32) (managers : List (AuthManager Key)) (l : List (AuthSessionEvent Key))
    (hhonest : Run.Always (AuthSession.step gcm) HichainHonest (create authSeq isServer connInfo idType managers) l)
    (hkeep : Run.Always (AuthSession.step gcm) KeepsIdentity (create authSeq isServer connInfo idType managers) l) :
    Run.Always (AuthSession.step gcm) (IdentityBound gcm) (create authSeq isServer connInfo idType managers) l := by
  have hstart : Bound (create authSeq isServer connInfo idType managers) := ⟨by simp [create], by simp [create]⟩
  apply Run.always_of_inv (fun s e hs h => ?_) l hstart ((Run.always_and _).mpr ⟨hhonest, hkeep⟩)
  exact ⟨Bound.step hs e h.2, Bound.identityBound hs e h.1 h.2⟩

end

end AuthSession

/-! ## Runs of a server -/

def peerDeviceId (udid : List UInt8) : AuthSessionEvent UInt8 := .msg (.recvDeviceId (deviceIdMsg .getAuthInfo udid))

def hichainKey (udid : List UInt8) : AuthSessionEvent UInt8 := .msg (.saveSessionKey ⟨1, udid, true, true, deviceInfoPost⟩)

theorem auth_identity_bound_repeated_id :
    let l := [.start true, peerDeviceId [65], .request, peerDeviceId [65], hichainKey [65]]
    Run.Always (AuthSession.step markGcm) (AuthSession.IdentityBound markGcm) (wifiSession true []) l ∧
      (Run.final (AuthSession.step markGcm) (wifiSession true []) l).managers = [⟨.wifi [10] 80, [65], [⟨5, 1⟩]⟩] := by
  refine ⟨?_, by decide⟩
  apply AuthSession.auth_identity_bound markGcm 5 true (.wifi [10] 80) exchangeUdid []
  · exact ⟨trivial, trivial, trivial, trivial, List.mem_cons_self, trivial⟩
  · exact ⟨trivial, fun _ hnil => absurd rfl hnil, trivial, fun _ _ => by decide, nofun, trivial⟩

/-- After HiChain has asked for the udid the peer sends another device id, and the key for the first device goes to an
auth manager of the second. An auth manager of another device at the same address is given the key as well. -/
theorem auth_key_under_other_udid :
    let l := [.start true, peerDeviceId [65], .request, peerDeviceId [66], hichainKey [65]]
    let l' := [.start true, peerDeviceId [65], .request, hichainKey [65]]
    let s := wifiSession true []
    let s' := wifiSession true [⟨.wifi [10] 90, [66], []⟩]
    Run.Always (AuthSession.step markGcm) AuthSession.HichainHonest s l ∧
      (Run.final (AuthSession.step markGcm) s l).managers = [⟨.wifi [10] 80, [66], [⟨5, 1⟩]⟩] ∧
      ¬ Run.Always (AuthSession.step markGcm) (AuthSession.IdentityBound markGcm) s l ∧
      Run.Always (AuthSession.step markGcm) AuthSession.HichainHonest s' l' ∧
      (Run.final (AuthSession.step markGcm) s' l').managers = [⟨.wifi [10] 90, [66], [⟨5, 1⟩]⟩] ∧
      ¬ Run.Always (AuthSession.step markGcm) (AuthSession.IdentityBound markGcm) s' l' := by
  refine ⟨⟨trivial, trivial, trivial, trivial, List.mem_cons_self, trivial⟩, by decide, ?_,
    ⟨trivial, trivial, trivial, List.mem_cons_self, trivial⟩, by decide, ?_⟩
  · rintro ⟨-, -, -, -, h, -⟩
    exact absurd (h.1 _ rfl (by decide)).1 (by decide)
  · rintro ⟨-, -, -, h, -⟩
    obtain ⟨-, auth, hfind, hudid, -⟩ := h.1 _ rfl (by decide)
    cases hfind
    exact absurd hudid (by decide)

end SoftBus
