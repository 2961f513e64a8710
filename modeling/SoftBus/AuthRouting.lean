import SoftBus.AuthManagers
import SoftBus.Lib.Run

/-!
# From packets to auth sessions

`OnDataReceived` hands a packet to an auth session. Most packets are handed over by the sequence number
in their head, which the peer chooses, whatever connection they came on. A session that is not found there
is sometimes looked for by the connection.

The auth managers of a side are shared by its sessions, which find theirs by the address of the peer. The messages a
session works on come with the step: those that were posted to it, and those of HiChain, of timers and of its own.
Other users of the auth managers are left out.
-/

namespace SoftBus

/-! ## Sessions -/

inductive AuthFsmMsgType where
  | recvDeviceId | recvAuthData | recvDeviceInfo | recvCloseAck
deriving DecidableEq

structure AuthFsmMsg where
  type : AuthFsmMsgType
  data : List UInt8
deriving DecidableEq

structure AuthFsm (Key : Type) where
  id : Nat
  connId : BitVec 64
  session : AuthSession Key
  msgs : List AuthFsmMsg := []

structure AuthState (Key : Type) where
  fsms : List (AuthFsm Key) := []
  -- those of the servers under `true`
  managers : Bool → List (AuthManagerItem Key) := fun _ => []

section
variable {Key : Type} (list : List (AuthFsm Key)) (gcm : AesGcm Key)

def AuthFsm.post (type : AuthFsmMsgType) (data : List UInt8) (fsm : AuthFsm Key) : AuthFsm Key :=
  { fsm with msgs := fsm.msgs ++ [⟨type, data⟩] }

def AuthFsm.live (fsm : AuthFsm Key) : Option (AuthFsm Key) := if fsm.session.isDead then none else some fsm

def getAuthFsm (test : AuthFsm Key → Bool) : Option (AuthFsm Key) :=
  (list.find? test).bind AuthFsm.live

def byAuthSeq (authSeq : BitVec 64) (fsm : AuthFsm Key) : Bool := fsm.session.authSeq = authSeq

def byConnId (connId : BitVec 64) (isServer : Bool) (fsm : AuthFsm Key) : Bool :=
  fsm.connId = connId && fsm.session.info.isServer = isServer

def getAuthFsmByConnId (connId : BitVec 64) (isServer : Bool) : Option (AuthFsm Key) :=
  getAuthFsm list (byConnId connId isServer)

def createAuthFsm (id : Nat) (connId authSeq : BitVec 64) (isServer : Bool) (connInfo : AuthConnInfo)
    (idType : BitVec 32) : List (AuthFsm Key) :=
  ⟨id, connId, .create authSeq isServer connInfo idType [], []⟩ :: list

/-! ## Packets -/

inductive AuthDataType where
  | auth | deviceInfo | deviceId | connection | closeAck | unknown
deriving DecidableEq

def clientSideFlag : BitVec 32 := 0

structure AuthPacket where
  connId : BitVec 64
  connInfo : AuthConnInfo
  fromServer : Bool
  dataType : AuthDataType
  seq : BitVec 64
  flag : BitVec 32
  data : List UInt8
  supportAsServer : Bool
  isFlushDevicePacket : Bool
  -- whether a message is accepted by the queue of a session
  posted : Bool
  -- whether a session can be created, its name and its id type
  created : Bool
  id : Nat
  idType : BitVec 32
  now : BitVec 64

def postMessage (p : AuthPacket) (test : AuthFsm Key → Bool) (type : AuthFsmMsgType) : Bool × List (AuthFsm Key) :=
  match getAuthFsm list test with
  | none => (false, list)
  | some _ => if !p.posted then (false, list) else (true, FirstMatch.modify test (.post type p.data) list)

def postMessageToAuthFsm (p : AuthPacket) (type : AuthFsmMsgType) : Bool × List (AuthFsm Key) :=
  postMessage list p (byAuthSeq p.seq) type

def postMessageToAuthFsmByConnId (p : AuthPacket) (isServer : Bool) (type : AuthFsmMsgType) :
    Bool × List (AuthFsm Key) :=
  postMessage list p (byConnId p.connId isServer) type

/-- `AuthSessionStartAuth` for the packet, then `AuthSessionProcessDevIdData`. -/
def startAuthByPacket (p : AuthPacket) : List (AuthFsm Key) :=
  if !p.created then list
  else (postMessageToAuthFsm (createAuthFsm list p.id p.connId p.seq true p.connInfo p.idType) p .recvDeviceId).2

/-- `HandleDeviceIdData`. A packet that comes while the connection has a session that waits for a
device id is kept and handed over again later. -/
def handleDeviceIdData (p : AuthPacket) : List (AuthFsm Key) :=
  if p.flag = clientSideFlag then
    if !p.supportAsServer then list
    else match getAuthFsmByConnId list p.connId true with
      | none => startAuthByPacket list p
      | some fsm =>
        if fsm.session.info.idType = exchangeNetworkId ∨ fsm.session.info.idType = exchangeFail then
          (postMessageToAuthFsm list p .recvDeviceId).2
        else if fsm.session.info.idType = exchangeUdid then list
        else startAuthByPacket list p
  else (postMessageToAuthFsm list p .recvDeviceId).2

def handleAuthData (p : AuthPacket) : List (AuthFsm Key) :=
  (postMessageToAuthFsm list p .recvAuthData).2

def handleDeviceInfoData (p : AuthPacket) : List (AuthFsm Key) :=
  if p.isFlushDevicePacket then list
  else match postMessageToAuthFsm list p .recvDeviceInfo with
    | (true, list) => list
    | (false, list) => (postMessageToAuthFsmByConnId list p (!p.fromServer) .recvDeviceInfo).2

def handleCloseAckData (p : AuthPacket) : List (AuthFsm Key) :=
  if p.seq ≠ 0 then (postMessageToAuthFsm list p .recvCloseAck).2
  else (postMessageToAuthFsmByConnId list p (!p.fromServer) .recvCloseAck).2

/-- The manager is found by the address of the packet, and takes over its connection. -/
def handleConnectionData (managers : List (AuthManagerItem Key)) (p : AuthPacket) : List (AuthManagerItem Key) :=
  FirstMatch.alter (isItemOf p.connInfo) (·.map fun auth =>
    if (decryptInner gcm auth.sessionKeyList p.data).isSome then { auth with lastActiveTime := p.now, connId := p.connId }
    else auth) managers

def onDataReceived (s : AuthState Key) (p : AuthPacket) : AuthState Key :=
  match p.dataType with
  | .deviceId => { s with fsms := handleDeviceIdData s.fsms p }
  | .auth => { s with fsms := handleAuthData s.fsms p }
  | .deviceInfo => { s with fsms := handleDeviceInfoData s.fsms p }
  | .closeAck => { s with fsms := handleCloseAckData s.fsms p }
  | .connection =>
    { s with
      managers := Function.update s.managers (!p.fromServer) (handleConnectionData gcm (s.managers (!p.fromServer)) p) }
  | .unknown => s

/-! ## What a session does to the managers -/

/-- The hash of the udid in the device info, and the time. -/
structure WorkEnv where
  udidHash : Option (List UInt8) := none
  now : BitVec 64 := 0

/-- `ComplementConnectionInfoIfNeed` -/
def complementConnectionInfoIfNeed (udidHash : Option (List UInt8)) : AuthConnInfo → Option AuthConnInfo
  | .ble bleMac _ => udidHash.map (.ble bleMac)
  | connInfo => some connInfo

def authManagerSetAuthPassed (info : AuthSessionInfo) (env : WorkEnv) (managers : List (AuthManagerItem Key)) :
    List (AuthManagerItem Key) :=
  FirstMatch.alter (isItemOf info.connInfo) (·.map fun auth =>
    match complementConnectionInfoIfNeed env.udidHash auth.connInfo with
    | none => auth
    | some connInfo => { auth with connInfo, hasAuthPassed := true }) managers

def portChanged : AuthConnInfo → AuthConnInfo → Bool
  | .wifi _ port, .wifi _ port' => port ≠ port'
  | _, _ => false

def authManagerSetAuthFailed (info : AuthSessionInfo) (reason : AuthFailReason) (managers : List (AuthManagerItem Key)) :
    List (AuthManagerItem Key) :=
  FirstMatch.alter (isItemOf info.connInfo)
    (·.filter fun auth => reason = .timeout && portChanged info.connInfo auth.connInfo) managers

/-- The call that an entry of the log stands for; `info` is that of the session after the step. -/
def AuthFsm.manage (fsm : AuthFsm Key) (info : AuthSessionInfo) (env : WorkEnv) (managers : List (AuthManagerItem Key)) :
    AuthLog Key → List (AuthManagerItem Key)
  | .stored key =>
    (setSessionKey fsm.session.authSeq fsm.session.info key ⟨true, fsm.connId, env.now, true, true⟩ managers).2
  | .passed => authManagerSetAuthPassed info env managers
  | .failed reason => authManagerSetAuthFailed info reason managers
  | _ => managers

/-- The session after it has worked on a message with the manager it finds. -/
def AuthFsm.worked (fsm : AuthFsm Key) (managers : List (AuthManagerItem Key)) (e : AuthSessionEvent Key) :
    AuthSession Key :=
  { fsm.session with
    managers := ((managers.find? (isItemOf fsm.session.info.connInfo)).map AuthManagerItem.toAuthManager).toList }.step gcm e

def AuthFsm.isAt (connId : BitVec 64) (id : Nat) (fsm : AuthFsm Key) : Bool := fsm.connId = connId && fsm.id = id

def AuthState.work (s : AuthState Key) (connId : BitVec 64) (id : Nat) (e : AuthSessionEvent Key) (env : WorkEnv) :
    AuthState Key :=
  match s.fsms.find? (AuthFsm.isAt connId id) with
  | none => s
  | some fsm =>
    let managers := s.managers fsm.session.info.isServer
    let session := fsm.worked gcm managers e
    ⟨FirstMatch.modify (AuthFsm.isAt connId id) ({ · with session }) s.fsms, Function.update s.managers
      fsm.session.info.isServer ((session.log.drop fsm.session.log.length).foldl (fsm.manage session.info env) managers)⟩

/-! ## Steps -/

inductive AuthEvent (Key : Type) where
  | packet (p : AuthPacket)
  -- `AuthSessionStartAuth` on this side
  | start (id : Nat) (connId authSeq : BitVec 64) (connInfo : AuthConnInfo) (idType : BitVec 32)
  | work (connId : BitVec 64) (id : Nat) (e : AuthSessionEvent Key) (env : WorkEnv)
  | destroy (connId : BitVec 64) (id : Nat)

def AuthEvent.connId : AuthEvent Key → BitVec 64
  | packet p => p.connId
  | start _ connId _ _ _ => connId
  | work connId _ _ _ => connId
  | destroy connId _ => connId

def authStep (s : AuthState Key) : AuthEvent Key → AuthState Key
  | .packet p => onDataReceived gcm s p
  | .start id connId authSeq connInfo idType =>
    { s with fsms := createAuthFsm s.fsms id connId authSeq false connInfo idType }
  | .work connId id e env => s.work gcm connId id e env
  | .destroy connId id => { s with fsms := s.fsms.filter fun fsm => !fsm.isAt connId id }

/-- The sessions and managers of the other connections. -/
def others (connId : BitVec 64) (s : AuthState Key) : AuthState Key :=
  ⟨s.fsms.filter (·.connId ≠ connId), fun isServer => (s.managers isServer).filter (·.connId ≠ connId)⟩

/-- The managers that are found under an address are of the connection. -/
def Mine (connId : BitVec 64) (connInfo : AuthConnInfo) (managers : List (AuthManagerItem Key)) : Prop :=
  ∀ auth ∈ managers, isItemOf connInfo auth = true → auth.connId = connId

instance (connId : BitVec 64) (connInfo : AuthConnInfo) (managers : List (AuthManagerItem Key)) :
    Decidable (Mine connId connInfo managers) := inferInstanceAs (Decidable (∀ _ ∈ _, _))

/-- What an event reaches belongs to its connection: no other connection has a session with the sequence number of a
packet, or a manager under the address of a connection packet, or under the one that a session has before or after its
step. -/
def OwnTargets (s : AuthState Key) : AuthEvent Key → Prop
  | .packet p => (∀ fsm ∈ s.fsms, fsm.session.authSeq = p.seq → fsm.connId = p.connId) ∧
    (p.dataType = .connection → Mine p.connId p.connInfo (s.managers (!p.fromServer)))
  | .work connId id e _ => ∀ fsm ∈ (s.fsms.find? (AuthFsm.isAt connId id)).toList,
    let managers := s.managers fsm.session.info.isServer
    Mine connId fsm.session.info.connInfo managers ∧ Mine connId (fsm.worked gcm managers e).info.connInfo managers
  | _ => True

instance (gcm : AesGcm Key) (s : AuthState Key) : ∀ e, Decidable (OwnTargets gcm s e)
  | .packet _ => inferInstanceAs (Decidable (_ ∧ (_ → _)))
  | .work .. => inferInstanceAs (Decidable (∀ _ ∈ _, _ ∧ _))
  | .start .. | .destroy .. => .isTrue trivial

end

end SoftBus
