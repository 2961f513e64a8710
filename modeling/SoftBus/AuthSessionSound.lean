import SoftBus.AuthSession
import SoftBus.Lib.History

/-!
# What an auth session ends with

Whatever messages a session gets, it is completed at most once and nothing is done after that. It passes when a
device info was decrypted and, except on WiFi, a close ack came in; it finishes after it has passed. The
key under which the device info was decrypted is one that the session has stored, if nobody else has a key under the
index of the session.
-/

namespace SoftBus

section
variable {Key : Type}

/-! ## The log -/

def AuthLog.isEnd : AuthLog Key → Bool
  | .finished | .failed _ => true
  | _ => false

/-- An entry that may stand after the ones before it. -/
def AuthLog.InOrder (t : AuthLinkType) (before : List (AuthLog Key)) (x : AuthLog Key) : Prop :=
  (∀ y ∈ before, y.isEnd = false) ∧
    match x with
    | .passed => (∃ key, .decrypted key ∈ before) ∧ (t = .wifi ∨ .closeAck ∈ before)
    | .finished => .passed ∈ before
    | _ => True

def AuthLog.UnderStoredKey (before : List (AuthLog Key)) (x : AuthLog Key) : Prop :=
  ∀ key, x = .decrypted key → .stored key ∈ before

namespace AuthSession

def OwnKeys (authSeq : BitVec 64) (log : List (AuthLog Key)) (managers : List (AuthManager Key)) : Prop :=
  ∀ auth ∈ managers, ∀ item ∈ auth.sessionKeyList, item.index = toInt32 authSeq → .stored item.key ∈ log

structure Base (t : AuthLinkType) (own : Prop) (s : AuthSession Key) : Prop where
  type : s.info.connInfo.type = t
  order : History.Each (AuthLog.InOrder t) s.log
  underStored : own → History.Each AuthLog.UnderStoredKey s.log
  keys : own → OwnKeys s.authSeq s.log s.managers

structure Running (t : AuthLinkType) (own : Prop) (s : AuthSession Key) : Prop extends Base t own s where
  alive : s.isDead = false
  pending : ∀ y ∈ s.log, y.isEnd = false
  node : s.info.isNodeInfoReceived = true → ∃ key, .decrypted key ∈ s.log
  ack : s.info.isCloseAckReceived = true → t = .wifi ∨ .closeAck ∈ s.log

structure Sound (t : AuthLinkType) (own : Prop) (s : AuthSession Key) : Prop extends Base t own s where
  running : s.isDead = false → Running t own s
  passed : s.isDead = false → s.info.isNodeInfoReceived = true → s.info.isCloseAckReceived = true → .passed ∈ s.log

section
variable {t : AuthLinkType} {own : Prop} {s s' : AuthSession Key}

theorem OwnKeys.mono {authSeq : BitVec 64} {log log' : List (AuthLog Key)} {managers : List (AuthManager Key)}
    (h : OwnKeys authSeq log managers) (hsub : ∀ x ∈ log, x ∈ log') : OwnKeys authSeq log' managers :=
  fun auth hauth item hitem hindex => hsub _ (h auth hauth item hitem hindex)

theorem Base.snoc (h : Base t own s) {x : AuthLog Key} (hx : AuthLog.InOrder t s.log x)
    (hkey : own → AuthLog.UnderStoredKey s.log x) (hlog : s'.log = s.log ++ [x])
    (htype : s'.info.connInfo.type = s.info.connInfo.type)
    (hkeys : own → OwnKeys s'.authSeq s'.log s'.managers) : Base t own s' := by
  refine ⟨htype.trans h.type, ?_, ?_, hkeys⟩
  · rw [hlog]
    exact h.order.snoc hx
  · intro hown
    rw [hlog]
    exact (h.underStored hown).snoc (hkey hown)

theorem Base.keys_snoc (h : Base t own s) (x : AuthLog Key) (hown : own) :
    OwnKeys s.authSeq (s.log ++ [x]) s.managers :=
  (h.keys hown).mono fun _ hy => List.mem_append_left _ hy

theorem Running.sound (h : Running t own s)
    (hpassed : s.info.isNodeInfoReceived = true → s.info.isCloseAckReceived = true → .passed ∈ s.log) : Sound t own s :=
  ⟨h.toBase, fun _ => h, fun _ => hpassed⟩

theorem Base.dead (h : Base t own s) (hdead : s.isDead = true) : Sound t own s :=
  ⟨h, fun hd => absurd (hd.symm.trans hdead) (by simp), fun hd => absurd (hd.symm.trans hdead) (by simp)⟩

theorem Running.fail (h : Running t own s) (reason : AuthFailReason) : Sound t own (s.completeFail reason) := by
  refine Base.dead ?_ rfl
  exact h.toBase.snoc (x := .failed reason) ⟨h.pending, trivial⟩ nofun rfl rfl (h.keys_snoc _)

theorem Running.finish (h : Running t own s) (hpassed : .passed ∈ s.log) : Sound t own s.completeOk := by
  refine Base.dead ?_ rfl
  exact h.toBase.snoc (x := .finished) ⟨h.pending, hpassed⟩ nofun rfl rfl (h.keys_snoc _)

theorem Running.snoc (h : Running t own s) {x : AuthLog Key} (hx : AuthLog.InOrder t s.log x)
    (hkey : own → AuthLog.UnderStoredKey s.log x) (hend : x.isEnd = false) (hlog : s'.log = s.log ++ [x])
    (htype : s'.info.connInfo.type = s.info.connInfo.type) (hkeys : own → OwnKeys s'.authSeq s'.log s'.managers)
    (halive : s'.isDead = s.isDead)
    (hnode : s'.info.isNodeInfoReceived = true → s.info.isNodeInfoReceived = true ∨ ∃ key, x = .decrypted key)
    (hack : s'.info.isCloseAckReceived = true → s.info.isCloseAckReceived = true ∨ x = .closeAck) :
    Running t own s' := by
  refine ⟨h.toBase.snoc hx hkey hlog htype hkeys, halive.trans h.alive, ?_, ?_, ?_⟩
  · intro y hy
    rw [hlog] at hy
    rcases List.mem_append.mp hy with hy | hy
    · exact h.pending y hy
    · rw [List.mem_singleton.mp hy]
      exact hend
  · intro hflag
    rw [hlog]
    rcases hnode hflag with hflag | ⟨key, rfl⟩
    · obtain ⟨key, hkey⟩ := h.node hflag
      exact ⟨key, List.mem_append_left _ hkey⟩
    · exact ⟨key, by simp⟩
  · intro hflag
    rw [hlog]
    rcases hack hflag with hflag | rfl
    · exact (h.ack hflag).imp_right (List.mem_append_left _)
    · exact .inr (by simp)

theorem Running.quiet (h : Running t own s) (hlog : s'.log = s.log)
    (htype : s'.info.connInfo.type = s.info.connInfo.type) (hseq : s'.authSeq = s.authSeq)
    (hman : s'.managers = s.managers) (halive : s'.isDead = s.isDead)
    (hnode : s'.info.isNodeInfoReceived = s.info.isNodeInfoReceived)
    (hack : s'.info.isCloseAckReceived = true → s.info.isCloseAckReceived = true ∨ t = .wifi) : Running t own s' := by
  refine ⟨⟨htype.trans h.type, hlog ▸ h.order, hlog ▸ h.underStored, ?_⟩, halive.trans h.alive, hlog ▸ h.pending,
    ?_, ?_⟩
  · rw [hseq, hlog, hman]
    exact h.keys
  · rw [hnode, hlog]
    exact h.node
  · intro hflag
    rw [hlog]
    exact (hack hflag).elim h.ack .inl

theorem Running.pass (h : Running t own s) (hnode : s.info.isNodeInfoReceived = true)
    (hack : s.info.isCloseAckReceived = true) : Running t own s.setAuthPassed :=
  h.snoc (x := .passed) ⟨h.pending, h.node hnode, h.ack hack⟩ nofun rfl rfl rfl (h.keys_snoc _) rfl .inl .inl

theorem Running.tryFinish (h : Running t own s)
    (hpassed : s.info.isNodeInfoReceived = true → s.info.isCloseAckReceived = true → .passed ∈ s.log) :
    Sound t own s.tryFinishAuthSession := by
  unfold tryFinishAuthSession
  by_cases hall : (s.info.isNodeInfoReceived && s.info.isCloseAckReceived && s.info.isAuthFinished) = true
  · rw [if_pos hall]
    simp only [Bool.and_eq_true] at hall
    exact h.finish (hpassed hall.1.1 hall.1.2)
  · rw [if_neg hall]
    exact h.sound hpassed

theorem Running.passAndTryFinish (h : Running t own s) (hnode : s.info.isNodeInfoReceived = true)
    (hack : s.info.isCloseAckReceived = true) : Sound t own s.setAuthPassed.tryFinishAuthSession :=
  (h.pass hnode hack).tryFinish fun _ _ => List.mem_append_right _ (.head _)

/-! ## What a device id message leaves alone -/

structure SameProgress (info info' : AuthSessionInfo) : Prop where
  type : info'.connInfo.type = info.connInfo.type
  isNodeInfoReceived : info'.isNodeInfoReceived = info.isNodeInfoReceived
  isCloseAckReceived : info'.isCloseAckReceived = info.isCloseAckReceived

section
variable {info info' info'' : AuthSessionInfo} {m : DeviceIdMsg}

theorem SameProgress.trans (h : SameProgress info info') (h' : SameProgress info' info'') : SameProgress info info'' :=
  ⟨h'.type.trans h.type, h'.isNodeInfoReceived.trans h.isNodeInfoReceived,
    h'.isCloseAckReceived.trans h.isCloseAckReceived⟩

theorem verifyExchangeIdTypeAndInfo_same (idType : BitVec 32) :
    SameProgress info (verifyExchangeIdTypeAndInfo m info idType) := by
  unfold verifyExchangeIdTypeAndInfo
  split
  · split <;> exact ⟨rfl, rfl, rfl⟩
  · exact ⟨rfl, rfl, rfl⟩

theorem setExchangeIdTypeAndValue_same (m : DeviceIdMsg) (idType : Option (BitVec 32)) :
    SameProgress info (setExchangeIdTypeAndValue m info idType) := by
  cases idType with
  | none => exact ⟨rfl, rfl, rfl⟩
  | some idType =>
    unfold setExchangeIdTypeAndValue
    dsimp only
    split
    · exact ⟨rfl, rfl, rfl⟩
    split
    · exact verifyExchangeIdTypeAndInfo_same idType
    split
    · split
      · refine SameProgress.trans ?_ (verifyExchangeIdTypeAndInfo_same idType)
        exact ⟨rfl, rfl, rfl⟩
      · exact verifyExchangeIdTypeAndInfo_same idType
    · exact ⟨rfl, rfl, rfl⟩

theorem unpackUdid_same (obj : DeviceIdJson) (uuid : List UInt8) : SameProgress info (unpackUdid info obj uuid) := by
  unfold unpackUdid
  dsimp only
  split <;> exact ⟨rfl, rfl, rfl⟩

theorem unpackDeviceIdJson_same (h : unpackDeviceIdJson m info = some info') : SameProgress info info' := by
  unfold unpackDeviceIdJson at h
  cases hobj : m.json with
  | none => rw [hobj] at h; cases h
  | some obj =>
    rw [hobj] at h
    dsimp only at h
    cases hcmd : obj.cmd with
    | none => rw [hcmd] at h; cases h
    | some cmd =>
      rw [hcmd] at h
      obtain ⟨-, h⟩ := Option.ite_none_left_eq_some.mp h
      obtain ⟨-, h⟩ := Option.ite_none_left_eq_some.mp h
      cases huuid : obj.uuid with
      | none => rw [huuid] at h; cases h
      | some uuid =>
        rw [huuid] at h
        obtain rfl := Option.some.inj h
        refine ((unpackUdid_same obj uuid).trans (setExchangeIdTypeAndValue_same m obj.exchangeIdType)).trans ?_
        split <;> exact ⟨rfl, rfl, rfl⟩

theorem processDeviceIdMessage_same (h : processDeviceIdMessage m info = some info') : SameProgress info info' := by
  unfold processDeviceIdMessage at h
  split at h
  · obtain rfl := Option.some.inj h
    exact ⟨rfl, rfl, rfl⟩
  · exact unpackDeviceIdJson_same h

theorem updateUdidHashIfEmpty_same (udidHash : List UInt8) : SameProgress info (updateUdidHashIfEmpty udidHash info) := by
  unfold updateUdidHashIfEmpty
  split
  · rename_i hble
    split
    · exact ⟨by rw [hble]; rfl, rfl, rfl⟩
    · exact ⟨rfl, rfl, rfl⟩
  · exact ⟨rfl, rfl, rfl⟩

end

/-! ## One step -/

theorem Running.same (h : Running t own s) (hinfo : SameProgress s.info s'.info) (hlog : s'.log = s.log)
    (hseq : s'.authSeq = s.authSeq) (hman : s'.managers = s.managers) (halive : s'.isDead = s.isDead) :
    Running t own s' := by
  refine h.quiet hlog hinfo.type hseq hman halive hinfo.isNodeInfoReceived ?_
  rw [hinfo.isCloseAckReceived]
  exact .inl

theorem Running.enterSyncDeviceId (h : Running t own s)
    (hpassed : s.info.isNodeInfoReceived = true → s.info.isCloseAckReceived = true → .passed ∈ s.log) (posted : Bool) :
    Sound t own (s.enterSyncDeviceId posted) := by
  have h' : Running t own { s with curState := some .syncDeviceId } := h.same ⟨rfl, rfl, rfl⟩ rfl rfl rfl rfl
  unfold AuthSession.enterSyncDeviceId
  dsimp only
  split
  · exact h'.fail _
  · exact h'.sound hpassed

theorem Running.startDeviceAuth (h : Running t own s)
    (hpassed : s.info.isNodeInfoReceived = true → s.info.isCloseAckReceived = true → .passed ∈ s.log) (m : DeviceIdMsg) :
    Sound t own (s.startDeviceAuth m) := by
  have h' : Running t own { s with curState := some .deviceAuth } := h.same ⟨rfl, rfl, rfl⟩ rfl rfl rfl rfl
  unfold AuthSession.startDeviceAuth
  dsimp only
  split
  · cases m.recovered with
    | none => exact h'.fail _
    | some found =>
      dsimp only
      split
      · refine Running.sound ?_ hpassed
        exact h'.same ⟨rfl, rfl, rfl⟩ rfl rfl rfl rfl
      · refine Running.fail ?_ _
        exact h'.same ⟨rfl, rfl, rfl⟩ rfl rfl rfl rfl
  split
  · exact h'.sound hpassed
  split
  · apply Running.enterSyncDeviceId
    · exact h'.same ⟨rfl, rfl, rfl⟩ rfl rfl rfl rfl
    · exact hpassed
  split
  · refine Running.sound ?_ hpassed
    exact h'.same ⟨rfl, rfl, rfl⟩ rfl rfl rfl rfl
  · exact h'.fail _

theorem Sound.recvDeviceId (h : Sound t own s) (halive : s.isDead = false) (m : DeviceIdMsg) :
    Sound t own (s.handleMsgRecvDeviceId m) := by
  unfold handleMsgRecvDeviceId
  cases hinfo : processDeviceIdMessage m s.info with
  | none => exact (h.running halive).fail _
  | some info =>
    have hsame := (processDeviceIdMessage_same hinfo).trans (updateUdidHashIfEmpty_same m.udidHash)
    have h' : Running t own { s with info := updateUdidHashIfEmpty m.udidHash info } :=
      (h.running halive).same hsame rfl rfl rfl rfl
    dsimp only
    split
    · exact h'.fail _
    · apply h'.startDeviceAuth
      dsimp only
      rw [hsame.isNodeInfoReceived, hsame.isCloseAckReceived]
      exact h.passed halive

/-! ## The session key -/

theorem mem_addSessionKey {list : SessionKeyList Key} {index : BitVec 32} {key : Key} {item : SessionKeyItem Key}
    (h : item ∈ addSessionKey list index key) : item ∈ list ∨ item = ⟨index, key⟩ := by
  unfold addSessionKey removeOldKey at h
  have h : item ∈ list ++ [⟨index, key⟩] := by
    split at h
    · exact h
    · exact List.mem_of_mem_tail h
  simpa using h

theorem authManagerSetSessionKey_cases {authSeq : BitVec 64} {info : AuthSessionInfo} {key : Key} {mem : Bool}
    {managers managers' : List (AuthManager Key)}
    (h : authManagerSetSessionKey authSeq info key mem managers = some managers') :
    (findAuthManagerByConnInfo managers info.connInfo = none ∧
      managers' = managers ++ [⟨info.connInfo, info.udid, addSessionKey [] (sessionKeyIndex authSeq info) key⟩]) ∨
    ∃ auth, findAuthManagerByConnInfo managers info.connInfo = some auth ∧
      managers' = FirstMatch.modify (isManagerOf info.connInfo)
        (fun auth => { auth with
          sessionKeyList := addSessionKey auth.sessionKeyList (sessionKeyIndex authSeq info) key }) managers := by
  unfold authManagerSetSessionKey at h
  split at h
  · cases h
  cases hfind : findAuthManagerByConnInfo managers info.connInfo with
  | none =>
    rw [hfind] at h
    exact .inl ⟨rfl, (Option.some.inj h).symm⟩
  | some auth =>
    rw [hfind] at h
    exact .inr ⟨auth, rfl, (Option.some.inj h).symm⟩

theorem OwnKeys.set {authSeq : BitVec 64} {info : AuthSessionInfo} {key : Key} {mem : Bool} {log : List (AuthLog Key)}
    {managers managers' : List (AuthManager Key)} (h : OwnKeys authSeq log managers)
    (hset : authManagerSetSessionKey authSeq info key mem managers = some managers') :
    OwnKeys authSeq (log ++ [.stored key]) managers' := by
  have hadd (list : SessionKeyList Key) (hlist : ∀ item ∈ list, item.index = toInt32 authSeq → .stored item.key ∈ log) :
      ∀ item ∈ addSessionKey list (sessionKeyIndex authSeq info) key, item.index = toInt32 authSeq →
        .stored item.key ∈ log ++ [.stored key] := by
    intro item hitem hindex
    rcases mem_addSessionKey hitem with hitem | rfl
    · exact List.mem_append_left _ (hlist item hitem hindex)
    · exact List.mem_append_right _ (.head _)
  have hold : OwnKeys authSeq (log ++ [.stored key]) managers := h.mono fun _ hx => List.mem_append_left _ hx
  intro auth hauth
  obtain ⟨-, rfl⟩ | ⟨_, -, rfl⟩ := authManagerSetSessionKey_cases hset
  · rcases List.mem_append.mp hauth with hauth | hauth
    · exact hold auth hauth
    · rw [List.mem_singleton.mp hauth]
      exact hadd [] (by simp)
  · rcases FirstMatch.mem_modify hauth with hauth | ⟨auth', hauth', -, rfl⟩
    · exact hold auth hauth
    · exact hadd auth'.sessionKeyList (h auth' hauth')

theorem Sound.saveSessionKey (h : Sound t own s) (halive : s.isDead = false) (gcm : AesGcm Key)
    (m : SessionKeyMsg Key) : Sound t own (s.handleMsgSaveSessionKey gcm m) := by
  have hrun := h.running halive
  have hpassed := h.passed halive
  -- with the key stored, or without it
  have htail (s' : AuthSession Key) (hrun : Running t own s')
      (hpassed : s'.info.isNodeInfoReceived = true → s'.info.isCloseAckReceived = true → .passed ∈ s'.log) :
      Sound t own (if !s'.trySyncDeviceInfo gcm m.post then s'.completeFail .syncDevInfoFail
        else { s' with info := { s'.info with deviceInfoData := none }, curState := some .syncDeviceInfo }) := by
    split
    · exact hrun.fail _
    · refine Running.sound ?_ hpassed
      exact hrun.same ⟨rfl, rfl, rfl⟩ rfl rfl rfl rfl
  unfold handleMsgSaveSessionKey
  split
  · exact h
  cases hset : authManagerSetSessionKey s.authSeq s.info m.key m.mem s.managers with
  | none => exact htail s hrun hpassed
  | some managers =>
    refine htail { s with managers := managers, log := s.log ++ [.stored m.key] } ?_ ?_
    · exact hrun.snoc (x := .stored m.key) ⟨hrun.pending, trivial⟩ nofun rfl rfl rfl
        (fun hown => (h.keys hown).set hset) rfl .inl .inl
    · exact fun hnode hack => List.mem_append_left _ (hpassed hnode hack)

/-! ## The device infos -/

theorem exists_sessionKey {gcm : AesGcm Key} {decompress : Codec} {unpack : List UInt8 → Bool} {data out : List UInt8}
    (h : processDeviceInfoMessage gcm decompress unpack s.authSeq s.authEnd data = .ok out) :
    ∃ key, s.sessionKey = some key := by
  unfold processDeviceInfoMessage getSessionKeyList at h
  cases hkey : getSessionKeyByIndex s.authEnd.sessionKeyList (toInt32 s.authSeq) with
  | some key => exact ⟨key, hkey⟩
  | none =>
    rw [hkey] at h
    unfold decryptInner decryptData at h
    simp [getSessionKeyByIndex] at h

theorem Base.stored_sessionKey (h : Base t own s) (hown : own) {key : Key} (hkey : s.sessionKey = some key) :
    .stored key ∈ s.log := by
  unfold sessionKey authEnd getSessionKeyByIndex at hkey
  obtain ⟨item, hitem, rfl⟩ := Option.map_eq_some_iff.mp hkey
  cases hfind : findAuthManagerByConnInfo s.managers s.info.connInfo with
  | none => simp [hfind] at hitem
  | some auth =>
    simp only [hfind, Option.map_some, Option.getD_some] at hitem
    refine h.keys hown auth (List.mem_of_find?_eq_some hfind) item (List.mem_of_find?_eq_some hitem) ?_
    simpa using List.find?_some hitem

theorem Running.nodeInfoReceivedWifi (h : Running t own s) (hwifi : t = .wifi)
    (hnode : s.info.isNodeInfoReceived = true) (gcm : AesGcm Key) (m : DeviceInfoMsg) :
    Sound t own (s.nodeInfoReceivedWifi gcm m) := by
  have h' : Running t own { s with info := { s.info with isCloseAckReceived := true } } :=
    h.quiet rfl rfl rfl rfl rfl rfl fun _ => .inr hwifi
  unfold AuthSession.nodeInfoReceivedWifi
  dsimp only
  split
  · exact h'.fail _
  · exact h'.passAndTryFinish hnode rfl

theorem Running.nodeInfoReceivedBt (h : Running t own s) (hnode : s.info.isNodeInfoReceived = true)
    (m : DeviceInfoMsg) : Sound t own (s.nodeInfoReceivedBt m) := by
  have htail (s' : AuthSession Key) (h' : Running t own s') (hnode : s'.info.isNodeInfoReceived = true) :
      Sound t own (if !m.ackSent then s'.completeFail .sendFail
        else if s'.info.isCloseAckReceived then s'.setAuthPassed.tryFinishAuthSession else s') := by
    split
    · exact h'.fail _
    split
    · rename_i hack
      exact h'.passAndTryFinish hnode hack
    · rename_i hack
      exact h'.sound fun _ hflag => absurd hflag hack
  unfold AuthSession.nodeInfoReceivedBt
  split
  · rename_i hconn _
    refine htail _ ?_ hnode
    exact h.quiet rfl (by rw [hconn]; rfl) rfl rfl rfl rfl .inl
  · exact htail s h hnode

theorem Sound.recvDeviceInfo (h : Sound t own s) (halive : s.isDead = false) (gcm : AesGcm Key) (m : DeviceInfoMsg) :
    Sound t own (s.handleMsgRecvDeviceInfo gcm m) := by
  have hrun := h.running halive
  unfold handleMsgRecvDeviceInfo
  cases hmsg : processDeviceInfoMessage gcm m.decompress m.unpackDeviceInfoMessage s.authSeq s.authEnd m.data with
  | error _ => exact hrun.fail _
  | ok _ =>
    obtain ⟨key, hkey⟩ := exists_sessionKey hmsg
    have h' : Running t own { s with
        info := { s.info with isNodeInfoReceived := true }, log := s.log ++ [.decrypted key] } := by
      refine hrun.snoc (x := .decrypted key) ⟨hrun.pending, trivial⟩ ?_ rfl rfl rfl (h.keys_snoc _) rfl
        (fun _ => .inr ⟨key, rfl⟩) .inl
      rintro hown _ ⟨⟩
      exact h.stored_sessionKey hown hkey
    rw [hkey]
    dsimp only [Option.map_some, Option.toList_some]
    split
    · rename_i hwifi
      exact h'.nodeInfoReceivedWifi (h.type.symm.trans hwifi) rfl gcm m
    · exact h'.nodeInfoReceivedBt rfl m

theorem Sound.recvCloseAck (h : Sound t own s) (halive : s.isDead = false) :
    Sound t own s.handleMsgRecvCloseAck := by
  have hrun := h.running halive
  have h' : Running t own { s with
      info := { s.info with isCloseAckReceived := true }, log := s.log ++ [.closeAck] } :=
    hrun.snoc (x := .closeAck) ⟨hrun.pending, trivial⟩ nofun rfl rfl rfl (h.keys_snoc _) rfl .inl fun _ => .inr rfl
  unfold handleMsgRecvCloseAck
  dsimp only
  split
  · rename_i hnode
    exact h'.passAndTryFinish hnode rfl
  · rename_i hnode
    exact h'.tryFinish fun hflag => absurd hflag hnode

/-! ## All messages -/

theorem Sound.authFinish (h : Sound t own s) (halive : s.isDead = false) : Sound t own s.handleMsgAuthFinish := by
  refine Running.tryFinish ?_ (h.passed halive)
  exact (h.running halive).same ⟨rfl, rfl, rfl⟩ rfl rfl rfl rfl

theorem Sound.recvAuthData (h : Sound t own s) (halive : s.isDead = false) (processed : Bool) :
    Sound t own (s.handleMsgRecvAuthData processed) := by
  unfold handleMsgRecvAuthData
  split
  · exact (h.running halive).fail _
  · exact h

theorem Sound.commonMsg (h : Sound t own s) (halive : s.isDead = false) (msg : AuthMsg Key) :
    Sound t own (s.handleCommonMsg msg) := by
  unfold handleCommonMsg
  split
  · exact (h.running halive).fail _
  · exact (h.running halive).fail _
  · split
    · rename_i hboth
      rw [Bool.and_eq_true] at hboth
      exact (h.running halive).finish (h.passed halive hboth.1 hboth.2)
    · exact (h.running halive).fail _
  · exact h

theorem Sound.process (h : Sound t own s) (gcm : AesGcm Key) (msg : AuthMsg Key) :
    Sound t own (s.process gcm msg) := by
  unfold AuthSession.process
  cases halive : s.isDead with
  | true => exact h
  | false =>
    rw [if_neg (by simp)]
    split
    · exact h
    · unfold syncDevIdStateProcess
      split
      · exact h.recvDeviceId halive _
      · exact h.commonMsg halive _
    · unfold deviceAuthStateProcess
      split
      · exact h.recvDeviceId halive _
      · exact h.recvAuthData halive _
      · exact h.saveSessionKey halive gcm _
      · exact (h.running halive).fail _
      · refine Running.sound ?_ (h.passed halive)
        exact (h.running halive).same ⟨rfl, rfl, rfl⟩ rfl rfl rfl rfl
      · exact h.authFinish halive
      · exact h.commonMsg halive _
    · unfold syncDevInfoStateProcess
      split
      · exact h.recvDeviceInfo halive gcm _
      · exact h.recvCloseAck halive
      · exact h.recvAuthData halive _
      · exact h.authFinish halive
      · exact h.commonMsg halive _

end

def Alone (s : AuthSession Key) : AuthSessionEvent Key → Prop
  | .managers managers => OwnKeys s.authSeq s.log managers
  | _ => True

section
variable {t : AuthLinkType} {own : Prop} {s : AuthSession Key}

theorem Sound.step (h : Sound t own s) (gcm : AesGcm Key) (e : AuthSessionEvent Key) (halone : own → Alone s e) :
    Sound t own (s.step gcm e) := by
  cases e with
  | start posted =>
    unfold AuthSession.step
    dsimp only
    split
    · exact h
    · rename_i hstart
      have halive : s.isDead = false := by simp_all
      exact (h.running halive).enterSyncDeviceId (h.passed halive) posted
  | msg m => exact h.process gcm m
  | request =>
    unfold AuthSession.step
    dsimp only
    split
    · exact h
    · rename_i hdead
      have halive : s.isDead = false := by simpa using hdead
      refine Running.sound ?_ (h.passed halive)
      exact (h.running halive).same ⟨rfl, rfl, rfl⟩ rfl rfl rfl rfl
  | managers managers =>
    have hbase : Base t own { s with managers := managers } := ⟨h.type, h.order, h.underStored, halone⟩
    refine ⟨hbase, fun halive => ?_, h.passed⟩
    have hrun := h.running halive
    exact ⟨hbase, halive, hrun.pending, hrun.node, hrun.ack⟩

theorem sound_create (own : Prop) (authSeq : BitVec 64) (isServer : Bool) (connInfo : AuthConnInfo) (idType : BitVec 32)
    (managers : List (AuthManager Key)) (hkeys : own → OwnKeys authSeq [] managers) :
    Sound connInfo.type own (create authSeq isServer connInfo idType managers) := by
  have hbase : Base connInfo.type own (create authSeq isServer connInfo idType managers) :=
    ⟨rfl, History.each_nil, fun _ => History.each_nil, hkeys⟩
  exact ⟨hbase, fun _ => ⟨hbase, rfl, by simp [create], by simp [create], by simp [create]⟩, by simp [create]⟩

/-- In every run the log is in order: the session is completed at most once, with nothing after it, finished after it
has passed, and passed after a device info was decrypted and, except on WiFi, a close ack came in. If no key
of others is found under the index of the session, the device info was decrypted under a key that the session has stored. -/
theorem auth_session_outcome (gcm : AesGcm Key) (authSeq : BitVec 64) (isServer : Bool) (connInfo : AuthConnInfo)
    (idType : BitVec 32) (managers : List (AuthManager Key)) (l : List (AuthSessionEvent Key)) :
    let s := create authSeq isServer connInfo idType managers
    let log := (Run.final (AuthSession.step gcm) s l).log
    History.Each (AuthLog.InOrder connInfo.type) log ∧
      (OwnKeys authSeq [] managers → Run.Always (AuthSession.step gcm) Alone s l →
        History.Each AuthLog.UnderStoredKey log) := by
  intro s log
  constructor
  · have hstart := sound_create False authSeq isServer connInfo idType managers nofun
    exact (Run.inv_final_of_step (fun s e h => h.step gcm e nofun) l hstart).order
  · intro hkeys halone
    have hstart := sound_create True authSeq isServer connInfo idType managers fun _ => hkeys
    have hstep (s : AuthSession Key) (e : AuthSessionEvent Key) (h : Sound connInfo.type True s) (ha : Alone s e) :
        Sound connInfo.type True (s.step gcm e) := h.step gcm e fun _ => ha
    exact (Run.inv_final hstep l hstart halone).underStored trivial

end

end AuthSession

end

/-! ## A run of two sessions -/

def markGcm : AesGcm UInt8 where
  encrypt key _ data := List.replicate overheadLen key ++ data
  decrypt key data := if data.head? = some key then some (data.drop overheadLen) else none
  length_encrypt key _ data := length_replicate_append key data
  decrypt_encrypt key _ data := by simp [overheadLen, List.replicate_succ]

def deviceIdMsg (cmd : DeviceIdCmd) (udid : List UInt8) : DeviceIdMsg :=
  { data := [123], json := some ⟨some cmd, some [117], some udid, some softbusNewV2, none, none⟩,
    ipRefused := false, getPeerUdidByNetworkId := fun _ => none, feature := false, fastAuth := false, udidHash := [],
    posted := true, recovered := none, hichainStarted := true, reposted := true }

def deviceInfoPost : DeviceInfoPost := ⟨some shortInfo, fun _ => none, [], true⟩

def deviceInfoMsg (key : UInt8) : DeviceInfoMsg :=
  ⟨Bytes.put encryptIndexLen 5 ++ markGcm.encrypt key [] shortInfo.bytes, fun _ => none, fun _ => true, deviceInfoPost,
    none, true⟩

def wifiSession (isServer : Bool) (managers : List (AuthManager UInt8)) : AuthSession UInt8 :=
  AuthSession.create 5 isServer (.wifi [10] 80) exchangeUdid managers

def wifiServerRun (key infoKey : UInt8) : List (AuthSessionEvent UInt8) :=
  [.start true, .msg (.recvDeviceId (deviceIdMsg .getAuthInfo [65])), .request,
    .msg (.saveSessionKey ⟨key, [65], true, true, deviceInfoPost⟩), .msg (.recvDeviceInfo (deviceInfoMsg infoKey)),
    .msg .authFinish]

theorem auth_session_outcome_wifi :
    let s := Run.final (AuthSession.step markGcm) (wifiSession true []) (wifiServerRun 1 1)
    s.log = [.stored 1, .decrypted 1, .passed, .finished] ∧ History.Each AuthLog.UnderStoredKey s.log :=
  ⟨by decide, (AuthSession.auth_session_outcome markGcm 5 true (.wifi [10] 80) exchangeUdid [] (wifiServerRun 1 1)).2
    nofun ⟨trivial, trivial, trivial, trivial, trivial, trivial, trivial⟩⟩

/-- The client comes again under the same number. The key of the first session is still found under the index and a
device info under it passes the second session. -/
theorem auth_session_passes_under_old_key :
    let first := Run.final (AuthSession.step markGcm) (wifiSession true []) (wifiServerRun 1 1)
    let second := Run.final (AuthSession.step markGcm) (wifiSession true first.managers) (wifiServerRun 2 1)
    first.log = [.stored 1, .decrypted 1, .passed, .finished] ∧
      second.log = [.stored 2, .decrypted 1, .passed, .finished] ∧ ¬ History.Each AuthLog.UnderStoredKey second.log := by
  intro first second
  have hlog : second.log = [.stored 2, .decrypted 1, .passed, .finished] := by decide
  refine ⟨by decide, hlog, ?_⟩
  rw [hlog]
  intro h
  exact absurd (h [.stored 2] (.decrypted 1) [.passed, .finished] rfl 1 rfl) (by decide)

end SoftBus
