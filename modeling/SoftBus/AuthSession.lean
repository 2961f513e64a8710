import SoftBus.AuthDeviceInfo
import SoftBus.Lib.FirstMatch
import SoftBus.Lib.Run

/-!
# An auth session

`auth_session_fsm.c`: the state machine of one session. The two devices exchange their ids, HiChain
authenticates the peer (or a stored key is taken for fast auth), the session key is stored in the auth
manager of the peer, and the device infos are exchanged under it.

The messages a session gets may come in any order. What a handler finds out about the rest of the
program while it works on a message comes with the message. The auth managers are shared: the rest of the program
may change them at any time.
-/

namespace SoftBus

inductive AuthFsmState where
  | syncDeviceId | deviceAuth | syncDeviceInfo
deriving DecidableEq

def softbusOldV1 : BitVec 32 := 1

def softbusOldV2 : BitVec 32 := 2

def softbusNewV2 : BitVec 32 := 101

structure AuthSessionInfo where
  isServer : Bool
  connInfo : AuthConnInfo
  udid : List UInt8 := []
  uuid : List UInt8 := []
  version : BitVec 32 := softbusNewV2
  idType : BitVec 32 := exchangeUdid
  isSupportCompress : Bool := false
  isSupportFastAuth : Bool := false
  oldIndex : BitVec 64 := 0
  deviceInfoData : Option (List UInt8) := none
  isNodeInfoReceived : Bool := false
  isCloseAckReceived : Bool := false
  isAuthFinished : Bool := false

/-! ## Device ids -/

inductive DeviceIdCmd where
  | getAuthInfo | retAuthInfo | other
deriving DecidableEq

/-- The members of the JSON object of a device id message; `none` if missing or too long. -/
structure DeviceIdJson where
  cmd : Option DeviceIdCmd
  uuid : Option (List UInt8)
  deviceId : Option (List UInt8)
  version : Option (BitVec 32)
  exchangeIdType : Option (BitVec 32)
  supportInfoCompress : Option (List UInt8)

structure DeviceIdMsg where
  data : List UInt8
  json : Option DeviceIdJson
  -- `UnpackWifiSinglePassInfo` refuses the address of the peer
  ipRefused : Bool
  getPeerUdidByNetworkId : List UInt8 → Option (List UInt8)
  feature : Bool
  -- `UnpackFastAuth` finds that both ends have a key for the udid
  fastAuth : Bool
  -- the hash that `UpdateUdidHashIfEmpty` writes
  udidHash : List UInt8
  posted : Bool
  -- `RecoveryDeviceKey`: the index of the key that is found, and whether its messages are posted
  recovered : Option (BitVec 64 × Bool)
  hichainStarted : Bool
  -- the device id is sent once more
  reposted : Bool

def deviceIdStrLen : Nat := 64

def verifyExchangeIdTypeAndInfo (m : DeviceIdMsg) (info : AuthSessionInfo) (idType : BitVec 32) : AuthSessionInfo :=
  if idType = exchangeNetworkId then
    match m.getPeerUdidByNetworkId info.udid with
    | none => { info with idType := exchangeFail }
    | some peerUdid => { info with udid := peerUdid, idType := exchangeNetworkId }
  else info

def setExchangeIdTypeAndValue (m : DeviceIdMsg) (info : AuthSessionInfo) : Option (BitVec 32) → AuthSessionInfo
  | none => { info with idType := exchangeUdid }
  | some idType =>
    if idType = exchangeUdid then { info with idType := exchangeUdid }
    else if info.isServer then verifyExchangeIdTypeAndInfo m info idType
    else if info.idType = exchangeNetworkId then
      let info := if idType = exchangeFail then { info with idType := exchangeFail } else info
      verifyExchangeIdTypeAndInfo m info idType
    else info

def unpackUdid (info : AuthSessionInfo) (obj : DeviceIdJson) (uuid : List UInt8) : AuthSessionInfo :=
  let udid := obj.deviceId.getD []
  let info := { info with uuid }
  let info := if udid ≠ [] then { info with udid, version := softbusOldV2 }
    else { info with udid := uuid, version := softbusOldV1 }
  { info with version := obj.version.getD info.version }

def unpackDeviceIdJson (m : DeviceIdMsg) (info : AuthSessionInfo) : Option AuthSessionInfo :=
  match m.json with
  | none => none
  | some obj =>
    match obj.cmd with
    | none => none
    | some cmd =>
      if m.ipRefused then none
      else if cmd ≠ (if info.connInfo.type = .wifi ∧ info.isServer = true then .getAuthInfo else .retAuthInfo) then none
      else match obj.uuid with
        | none => none
        | some uuid =>
          let info := setExchangeIdTypeAndValue m (unpackUdid info obj uuid) obj.exchangeIdType
          let info := if info.connInfo.type ≠ .wifi then
              { info with
                isSupportCompress := setCompressFlag m.feature (obj.supportInfoCompress.getD falseStringTag) }
            else info
          some { info with isSupportFastAuth := m.fastAuth }

def unPackBtDeviceIdV1 (info : AuthSessionInfo) (data : List UInt8) : AuthSessionInfo :=
  { info with udid := data.takeWhile (· ≠ 0), version := softbusOldV1 }

def processDeviceIdMessage (m : DeviceIdMsg) (info : AuthSessionInfo) : Option AuthSessionInfo :=
  if info.connInfo.type ≠ .wifi ∧ m.data.length = deviceIdStrLen ∧ info.isServer = true then
    some (unPackBtDeviceIdV1 info m.data)
  else unpackDeviceIdJson m info

/-- `PostDeviceIdMessage`: an old client has no id to send. -/
def postDeviceIdMessage (info : AuthSessionInfo) (posted : Bool) : Bool :=
  if info.version = softbusOldV1 then info.isServer && posted else posted

def updateUdidHashIfEmpty (udidHash : List UInt8) (info : AuthSessionInfo) : AuthSessionInfo :=
  match info.connInfo with
  | .ble bleMac deviceIdHash =>
    if info.udid ≠ [] ∧ deviceIdHash.head? = some 0 then { info with connInfo := .ble bleMac udidHash } else info
  | _ => info

/-! ## Auth managers -/

structure AuthManager (Key : Type) where
  connInfo : AuthConnInfo
  udid : List UInt8
  sessionKeyList : SessionKeyList Key
deriving DecidableEq

section
variable {Key : Type}

def isManagerOf (connInfo : AuthConnInfo) (auth : AuthManager Key) : Bool := compareConnInfo auth.connInfo connInfo true

def findAuthManagerByConnInfo (managers : List (AuthManager Key)) (connInfo : AuthConnInfo) : Option (AuthManager Key) :=
  managers.find? (isManagerOf connInfo)

def sessionKeyIndex (authSeq : BitVec 64) (info : AuthSessionInfo) : BitVec 32 :=
  if info.isSupportFastAuth = true ∧ info.version.toNat ≤ softbusOldV2.toNat then toInt32 info.oldIndex
  else toInt32 authSeq

/-- `AuthManagerSetSessionKey`; `mem` says whether the allocations succeed. A manager that exists is taken as
it is. -/
def authManagerSetSessionKey (authSeq : BitVec 64) (info : AuthSessionInfo) (key : Key) (mem : Bool)
    (managers : List (AuthManager Key)) : Option (List (AuthManager Key)) :=
  if !mem then none
  else
    let index := sessionKeyIndex authSeq info
    match findAuthManagerByConnInfo managers info.connInfo with
    | none => some (managers ++ [⟨info.connInfo, info.udid, addSessionKey [] index key⟩])
    | some _ => some (FirstMatch.modify (isManagerOf info.connInfo)
        (fun auth => { auth with sessionKeyList := addSessionKey auth.sessionKeyList index key }) managers)

/-! ## The session -/

inductive AuthFailReason where
  | syncDevIdFail | hichainAuthFail | hichainProcessFail | hichainAuthError | syncDevInfoFail | unpackDevInfoFail
  | sendFail | timeout | notTrusted | disconnected
deriving DecidableEq

/-- What the session does outside of itself: a key of the session is stored, a device info is decrypted
under a key, a close ack comes in, and the calls of `AuthManagerSetAuthPassed`, `AuthManagerSetAuthFinished` and
`AuthManagerSetAuthFailed`. -/
inductive AuthLog (Key : Type) where
  | stored (key : Key)
  | decrypted (key : Key)
  | closeAck
  | passed
  | finished
  | failed (reason : AuthFailReason)
deriving DecidableEq

structure AuthSession (Key : Type) where
  authSeq : BitVec 64
  info : AuthSessionInfo
  curState : Option AuthFsmState := none
  isDead : Bool := false
  -- the auth managers of the side of the session
  managers : List (AuthManager Key)
  log : List (AuthLog Key) := []
  -- the udids for which HiChain was started or asked, or a stored key was recovered
  vouched : List (List UInt8) := []

structure DeviceInfoPost where
  -- `PackDeviceInfoMessage`
  text : Option DeviceInfoText
  compress : Codec
  iv : List UInt8
  sent : Bool

structure DeviceInfoMsg where
  data : List UInt8
  decompress : Codec
  unpackDeviceInfoMessage : List UInt8 → Bool
  reply : DeviceInfoPost
  -- the hash of the udid in the device info, if there is one
  udidHash : Option (List UInt8)
  ackSent : Bool

/-- A session key, for the udid that HiChain has authenticated or whose stored key it is. -/
structure SessionKeyMsg (Key : Type) where
  key : Key
  udid : List UInt8
  fits : Bool
  mem : Bool
  post : DeviceInfoPost

inductive AuthMsg (Key : Type) where
  | recvDeviceId (m : DeviceIdMsg)
  | recvAuthData (processed : Bool)
  | saveSessionKey (m : SessionKeyMsg Key)
  | authError
  | recvDeviceInfo (m : DeviceInfoMsg)
  | authFinish
  | recvCloseAck
  | authTimeout
  | deviceNotTrusted
  | deviceDisconnected

namespace AuthSession

variable (gcm : AesGcm Key) (s : AuthSession Key)

def completeOk : AuthSession Key := { s with isDead := true, log := s.log ++ [.finished] }

/-- `AuthManagerSetAuthFailed` also removes the auth manager, which no longer concerns the session. -/
def completeFail (reason : AuthFailReason) : AuthSession Key :=
  { s with isDead := true, log := s.log ++ [.failed reason] }

def setAuthPassed : AuthSession Key := { s with log := s.log ++ [.passed] }

def tryFinishAuthSession : AuthSession Key :=
  if s.info.isNodeInfoReceived && s.info.isCloseAckReceived && s.info.isAuthFinished then s.completeOk else s

def enterSyncDeviceId (posted : Bool) : AuthSession Key :=
  let s := { s with curState := some .syncDeviceId }
  if !s.info.isServer && !postDeviceIdMessage s.info posted then s.completeFail .syncDevIdFail else s

/-- `HandleMsgRecvDeviceId` once the message has been accepted and answered. -/
def startDeviceAuth (m : DeviceIdMsg) : AuthSession Key :=
  let s := { s with curState := some .deviceAuth }
  if s.info.isSupportFastAuth then
    match m.recovered with
    | none => s.completeFail .syncDevIdFail
    | some (keyIndex, posted) =>
      let s := { s with info := { s.info with oldIndex := keyIndex }, vouched := s.vouched ++ [s.info.udid] }
      if posted then s else s.completeFail .syncDevIdFail
  else if s.info.isServer then s
  else if s.info.idType = exchangeFail then
    { s with info := { s.info with idType := exchangeUdid } }.enterSyncDeviceId m.reposted
  else if m.hichainStarted then { s with vouched := s.vouched ++ [s.info.udid] }
  else s.completeFail .hichainAuthFail

def handleMsgRecvDeviceId (m : DeviceIdMsg) : AuthSession Key :=
  match processDeviceIdMessage m s.info with
  | none => s.completeFail .syncDevIdFail
  | some info =>
    let s := { s with info := updateUdidHashIfEmpty m.udidHash info }
    if s.info.isServer && !postDeviceIdMessage s.info m.posted then s.completeFail .syncDevIdFail
    else s.startDeviceAuth m

def handleMsgRecvAuthData (processed : Bool) : AuthSession Key :=
  if !processed && !s.info.isAuthFinished then s.completeFail .hichainProcessFail else s

def authEnd : AuthEnd Key :=
  ⟨s.info.connInfo, s.info.isServer, s.info.isSupportCompress,
    ((findAuthManagerByConnInfo s.managers s.info.connInfo).map (·.sessionKeyList)).getD []⟩

def postDeviceInfo (p : DeviceInfoPost) : Bool :=
  match p.text with
  | none => false
  | some text => match postDeviceInfoMessage gcm p.compress p.iv s.authSeq s.authEnd text with
    | .error _ => false
    | .ok _ => p.sent

def trySyncDeviceInfo (p : DeviceInfoPost) : Bool :=
  if s.info.connInfo.type = .wifi ∧ s.info.isServer = true then true else s.postDeviceInfo gcm p

/-- A failure to store the key is not looked at. A device info that came early is posted again. -/
def handleMsgSaveSessionKey (m : SessionKeyMsg Key) : AuthSession Key :=
  if !m.fits then s
  else
    let s : AuthSession Key := match authManagerSetSessionKey s.authSeq s.info m.key m.mem s.managers with
      | none => s
      | some managers => { s with managers, log := s.log ++ [.stored m.key] }
    if !s.trySyncDeviceInfo gcm m.post then s.completeFail .syncDevInfoFail
    else { s with info := { s.info with deviceInfoData := none }, curState := some .syncDeviceInfo }

def handleMsgRecvDevInfoEarly (m : DeviceInfoMsg) : AuthSession Key :=
  { s with info := { s.info with deviceInfoData := some m.data } }

def handleMsgAuthFinish : AuthSession Key :=
  { s with info := { s.info with isAuthFinished := true } }.tryFinishAuthSession

/-- The key that `GetSessionKeyList` finds. -/
def sessionKey : Option Key := getSessionKeyByIndex s.authEnd.sessionKeyList (toInt32 s.authSeq)

/-- `HandleMsgRecvDeviceInfo` once the message has been accepted, on WiFi. -/
def nodeInfoReceivedWifi (m : DeviceInfoMsg) : AuthSession Key :=
  let s := { s with info := { s.info with isCloseAckReceived := true } }
  if s.info.isServer && !s.postDeviceInfo gcm m.reply then s.completeFail .syncDevInfoFail
  else s.setAuthPassed.tryFinishAuthSession

def nodeInfoReceivedBt (m : DeviceInfoMsg) : AuthSession Key :=
  let s := match s.info.connInfo, m.udidHash with
    | .ble bleMac _, some udidHash => { s with info := { s.info with connInfo := .ble bleMac udidHash } }
    | _, _ => s
  if !m.ackSent then s.completeFail .sendFail
  else if s.info.isCloseAckReceived then s.setAuthPassed.tryFinishAuthSession
  else s

def handleMsgRecvDeviceInfo (m : DeviceInfoMsg) : AuthSession Key :=
  match processDeviceInfoMessage gcm m.decompress m.unpackDeviceInfoMessage s.authSeq s.authEnd m.data with
  | .error _ => s.completeFail .unpackDevInfoFail
  | .ok _ =>
    let s := { s with
      info := { s.info with isNodeInfoReceived := true }
      log := s.log ++ (s.sessionKey.map AuthLog.decrypted).toList }
    if s.info.connInfo.type = .wifi then s.nodeInfoReceivedWifi gcm m else s.nodeInfoReceivedBt m

def handleMsgRecvCloseAck : AuthSession Key :=
  let s : AuthSession Key :=
    { s with info := { s.info with isCloseAckReceived := true }, log := s.log ++ [.closeAck] }
  let s := if s.info.isNodeInfoReceived then s.setAuthPassed else s
  s.tryFinishAuthSession

def handleCommonMsg : AuthMsg Key → AuthSession Key
  | .authTimeout => s.completeFail .timeout
  | .deviceNotTrusted => s.completeFail .notTrusted
  | .deviceDisconnected =>
    if s.info.isNodeInfoReceived && s.info.isCloseAckReceived then s.completeOk else s.completeFail .disconnected
  | _ => s

def syncDevIdStateProcess : AuthMsg Key → AuthSession Key
  | .recvDeviceId m => s.handleMsgRecvDeviceId m
  | msg => s.handleCommonMsg msg

def deviceAuthStateProcess : AuthMsg Key → AuthSession Key
  | .recvDeviceId m => s.handleMsgRecvDeviceId m
  | .recvAuthData processed => s.handleMsgRecvAuthData processed
  | .saveSessionKey m => s.handleMsgSaveSessionKey gcm m
  | .authError => s.completeFail .hichainAuthError
  | .recvDeviceInfo m => s.handleMsgRecvDevInfoEarly m
  | .authFinish => s.handleMsgAuthFinish
  | msg => s.handleCommonMsg msg

def syncDevInfoStateProcess : AuthMsg Key → AuthSession Key
  | .recvDeviceInfo m => s.handleMsgRecvDeviceInfo gcm m
  | .recvCloseAck => s.handleMsgRecvCloseAck
  | .recvAuthData processed => s.handleMsgRecvAuthData processed
  | .authFinish => s.handleMsgAuthFinish
  | msg => s.handleCommonMsg msg

/-- A message to a session that is dead or not started is dropped. -/
def process (msg : AuthMsg Key) : AuthSession Key :=
  if s.isDead then s
  else match s.curState with
    | none => s
    | some .syncDeviceId => s.syncDevIdStateProcess msg
    | some .deviceAuth => s.deviceAuthStateProcess gcm msg
    | some .syncDeviceInfo => s.syncDevInfoStateProcess gcm msg

end AuthSession

inductive AuthSessionEvent (Key : Type) where
  | start (posted : Bool)
  | msg (m : AuthMsg Key)
  -- HiChain asks for the udid of the peer
  | request
  -- the rest of the program changes the auth managers
  | managers (managers : List (AuthManager Key))

def AuthSession.step (gcm : AesGcm Key) (s : AuthSession Key) : AuthSessionEvent Key → AuthSession Key
  | .start posted => if s.isDead || s.curState.isSome then s else s.enterSyncDeviceId posted
  | .msg m => s.process gcm m
  | .request => if s.isDead then s else { s with vouched := s.vouched ++ [s.info.udid] }
  | .managers managers => { s with managers }

/-- `CreateAuthFsm`; `idType` is `EXCHANGE_NETWORKID` for a known BLE peer. -/
def AuthSession.create (authSeq : BitVec 64) (isServer : Bool) (connInfo : AuthConnInfo) (idType : BitVec 32)
    (managers : List (AuthManager Key)) : AuthSession Key :=
  { authSeq, info := { isServer, connInfo, idType }, managers }

end

end SoftBus
