import SoftBus.Lib.Run

/-!
# Online devices in the distributed ledger

The part of `lnn_distributed_net_ledger.c` that a connection goes through when it comes and goes. A device
has a counter and two auth ids for each address type, a discovery bit for each kind of network, and its status.
-/

namespace SoftBus

inductive ConnectionAddrType where
  | wlan | br | ble | eth | session
deriving DecidableEq

inductive DiscoveryType where
  | wifi | ble | br
deriving DecidableEq

def DiscoveryType.bit : DiscoveryType → Nat
  | .wifi => 1
  | .ble => 2
  | .br => 3

/-- `LnnConvAddrTypeToDiscType` -/
def ConnectionAddrType.discType : ConnectionAddrType → DiscoveryType
  | .wlan | .eth => .wifi
  | .br => .br
  | .ble | .session => .ble

inductive AuthSide where
  | client | server
deriving DecidableEq

inductive ReportCategory where
  | none | change | online | offline
deriving DecidableEq

def lnnRelationMask : UInt8 := 0x03

structure NodeInfo where
  networkId : String := ""
  status : Bool := false
  discoveryType : BitVec 32 := 0
  authChannelId : ConnectionAddrType → AuthSide → Int32 := fun _ _ => 0
  relation : ConnectionAddrType → UInt8 := fun _ => 0

structure LnnConn where
  type : ConnectionAddrType
  side : AuthSide
  authId : Int32
deriving DecidableEq

namespace NodeInfo

variable (info : NodeInfo)

def hasDiscoveryType (type : DiscoveryType) : Bool := info.discoveryType.getLsbD type.bit

def clearDiscoveryType (type : DiscoveryType) : NodeInfo :=
  { info with discoveryType := info.discoveryType &&& ~~~ BitVec.twoPow 32 type.bit }

def setAuthChannelId (type : ConnectionAddrType) (ids : AuthSide → Int32) : NodeInfo :=
  { info with authChannelId := Function.update info.authChannelId type ids }

def lnnFillConnInfo (networkId : String) (c : LnnConn) : NodeInfo where
  networkId
  discoveryType := BitVec.twoPow 32 c.type.discType.bit
  authChannelId := Function.update (fun _ _ => 0) c.type (Function.update (fun _ => 0) c.side c.authId)
  relation := Function.update (fun _ => 0) c.type 1

def mergeLnnInfo (oldInfo : NodeInfo) : NodeInfo :=
  { info with
    relation := fun type => (info.relation type + oldInfo.relation type) &&& lnnRelationMask
    authChannelId := fun type side =>
      if oldInfo.authChannelId type side ≠ 0 ∧ info.authChannelId type side = 0 then oldInfo.authChannelId type side
      else info.authChannelId type side }

/-- An auth id of the other side keeps the device online. -/
def clearAuthChannelId (type : ConnectionAddrType) (authId : Int32) : ReportCategory × NodeInfo :=
  let cleared := info.setAuthChannelId type fun side =>
    if info.authChannelId type side = authId then 0 else info.authChannelId type side
  if (info.hasDiscoveryType .wifi ∧ type.discType = .wifi) ∧
      (cleared.authChannelId type .client ≠ 0 ∨ cleared.authChannelId type .server ≠ 0) then (.none, cleared)
  else (.offline, info.setAuthChannelId type fun _ => 0)

end NodeInfo

structure NetLedger where
  udidMap : String → Option NodeInfo := fun _ => none
  conns : String → List LnnConn := fun _ => []

namespace NetLedger

variable (s : NetLedger)

/-- `LnnMapSet` has memory for the entry; its failure would only be logged, and the report be the same. -/
def lnnAddOnlineNode (udid : String) (info : NodeInfo) : ReportCategory × NodeInfo :=
  match s.udidMap udid with
  | none => (.online, { info with status := true })
  | some oldInfo =>
    if !oldInfo.status then (.online, { info with status := true })
    else
      let merged := { info with discoveryType := info.discoveryType ||| oldInfo.discoveryType }.mergeLnnInfo oldInfo
      (if info.networkId ≠ oldInfo.networkId then .change else .none, { merged with status := true })

def lnnSetNodeOffline (udid : String) (type : ConnectionAddrType) (authId : Int32) :
    ReportCategory × Option NodeInfo :=
  match s.udidMap udid with
  | none => (.none, none)
  | some info =>
    let info :=
      if 0 < info.relation type then
        { info with relation := Function.update info.relation type (info.relation type - 1) }
      else info
    let cleared := info.clearAuthChannelId type authId
    if cleared.1 = .none then (.none, some cleared.2)
    else
      let info := cleared.2.clearDiscoveryType type.discType
      if info.discoveryType ≠ 0 then (.none, some info)
      else if !info.status then (.none, some info)
      else (.offline, some { info with status := false })

end NetLedger

inductive LedgerEvent where
  | online (udid networkId : String) (c : LnnConn)
  | offline (udid : String) (c : LnnConn)
deriving DecidableEq

namespace NetLedger

variable (s : NetLedger)

def report : LedgerEvent → ReportCategory
  | .online udid networkId c => (s.lnnAddOnlineNode udid (.lnnFillConnInfo networkId c)).1
  | .offline udid c => (s.lnnSetNodeOffline udid c.type c.authId).1

def step : LedgerEvent → NetLedger
  | .online udid networkId c =>
    { udidMap := Function.update s.udidMap udid (some (s.lnnAddOnlineNode udid (.lnnFillConnInfo networkId c)).2)
      conns := Function.update s.conns udid (c :: s.conns udid) }
  | .offline udid c =>
    { udidMap := Function.update s.udidMap udid (s.lnnSetNodeOffline udid c.type c.authId).2
      conns := Function.update s.conns udid ((s.conns udid).erase c) }

end NetLedger

end SoftBus
