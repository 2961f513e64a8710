import SoftBus.Common
import SoftBus.Lib.FirstMatch

/-!
# The discovery manager

`disc_manager.c`: what modules and packages publish and look for is kept in two lists with an item for each caller.
What they look for is linked into a list for each capability as well.

An entry has the address of its node, which is not used twice. What the media return comes with a call. The calls of
their functions are recorded; no function looks at them. Memory is always there.
-/

namespace SoftBus

def capabilityMaxBitnum : Nat := 16

def pkgNameSizeMax : Nat := 65

def maxCapabilityDataLen : Nat := 513

inductive DiscoverMode where
  | passive | active
deriving DecidableEq

inductive ExchangeMedium where
  | auto | ble | coap
deriving DecidableEq

inductive ServiceType where
  | publish | publishInner | subscribe | subscribeInner
deriving DecidableEq

inductive DiscModule where
  | lnn | conn
deriving DecidableEq

inductive DiscRet where
  | ok | invalidParam | infoNotCreate | duplicateParam | innerFunctionFail | infoNotDelete
  /-- The medium's own code. -/
  | medium (code : Int)
deriving DecidableEq

/-! ## What is asked for -/

/-- `PublishInfo` and `SubscribeInfo`, which are checked in the same way. -/
structure ServiceInfo where
  id : Int
  mode : Int
  medium : Int
  freq : Int
  capability : String
  capabilityData : Option (List UInt8)
  dataLen : Nat

def DiscoverMode.ofInt (mode : Int) : Option DiscoverMode :=
  if mode = 0x55 then some .passive else if mode = 0xAA then some .active else none

def ExchangeMedium.ofInt (medium : Int) : Option ExchangeMedium :=
  if medium = 0 then some .auto else if medium = 1 then some .ble else if medium = 2 then some .coap else none

def ServiceInfo.dataOk (info : ServiceInfo) : Bool :=
  match info.capabilityData with
  | none => info.dataLen = 0
  | some data =>
    info.dataLen ≠ 0 && info.dataLen ≤ maxCapabilityDataLen && data.getD info.dataLen 0 = 0 &&
      (cString data).length = info.dataLen

/-- `CheckPublishInfo` and `CheckSubscribeInfo` with the mode and the medium they accept. -/
def ServiceInfo.check (info : ServiceInfo) : Option (DiscoverMode × ExchangeMedium) :=
  match DiscoverMode.ofInt info.mode, ExchangeMedium.ofInt info.medium with
  | some mode, some medium => if 0 ≤ info.freq ∧ info.freq ≤ 3 ∧ info.dataOk then some (mode, medium) else none
  | _, _ => none

/-- The names of the capabilities in the order of their bits. -/
def capabilityMap : List String :=
  ["hicall", "profile", "homevisionPic", "castPlus", "aaCapability", "dvKit", "ddmpCapability", "osdCapability",
    "share", "approach"]

def transferStringCapToBitmap (capability : String) : Option Nat := capabilityMap.findIdx? (· = capability)

/-- The bitmap of an entry has the one bit `capability`. -/
structure DiscInfo where
  node : Nat
  id : Int
  mode : DiscoverMode
  medium : ExchangeMedium
  capability : Nat
deriving DecidableEq

/-- `CreateDiscInfoForPublish` and `CreateDiscInfoForSubscribe` after the checks. -/
def createDiscInfo (node : Nat) (info : ServiceInfo) : Except DiscRet DiscInfo :=
  match info.check with
  | none => .error .invalidParam
  | some (mode, medium) =>
    match transferStringCapToBitmap info.capability with
    | none => .error .infoNotCreate
    | some capability => .ok { node, id := info.id, mode, medium, capability }

/-! ## The lists of items -/

structure DiscItem where
  packageName : String
  infoNum : Nat := 0
  infoList : List DiscInfo := []
deriving DecidableEq

def isItem (packageName : String) (item : DiscItem) : Bool := item.packageName = packageName

def DiscItem.link (item : DiscItem) (info : DiscInfo) : DiscItem :=
  { item with infoNum := item.infoNum + 1, infoList := item.infoList ++ [info] }

/-- The entry to unlink is the first that passes the test. -/
def DiscItem.unlink (item : DiscItem) (p : DiscInfo → Bool) : DiscItem :=
  { item with infoNum := item.infoNum - 1, infoList := item.infoList.eraseP p }

/-- The list part of `CreateDiscItem`. -/
def insertItem (type : ServiceType) (item : DiscItem) (serviceList : List DiscItem) : List DiscItem :=
  match type with
  | .publishInner | .subscribeInner => item :: serviceList
  | .publish | .subscribe => serviceList ++ [item]

/-- Without the link into the list of the capability; `none` is `SOFTBUS_DISCOVER_MANAGER_DUPLICATE_PARAM`. -/
def addDiscInfoToList (serviceList : List DiscItem) (packageName : String) (info : DiscInfo) (type : ServiceType) :
    Option (List DiscItem) :=
  match serviceList.find? (isItem packageName) with
  | some item =>
    if item.infoList.any (·.id = info.id) then none
    else some (FirstMatch.put (isItem packageName) (some (item.link info)) serviceList)
  | none => some (insertItem type (DiscItem.link { packageName } info) serviceList)

def removeInfoFromList (serviceList : List DiscItem) (packageName : String) (id : Int) :
    Option DiscInfo × List DiscItem :=
  match serviceList.find? (isItem packageName) with
  | none => (none, serviceList)
  | some item =>
    if item.infoNum = 0 then (none, FirstMatch.put (isItem packageName) none serviceList)
    else
      match item.infoList.find? (·.id = id) with
      | none => (none, serviceList)
      | some info =>
        let item := item.unlink (·.id = id)
        (some info, FirstMatch.put (isItem packageName) (if item.infoNum = 0 then none else some item) serviceList)

/-- What `InnerPublishService` and `InnerStartDiscovery` do if the media fail. The item stays. -/
def unlinkInfo (serviceList : List DiscItem) (packageName : String) (node : Nat) : List DiscItem :=
  match serviceList.find? (isItem packageName) with
  | none => serviceList
  | some item => FirstMatch.put (isItem packageName) (some (item.unlink (·.node = node))) serviceList

/-! ## The media -/

inductive InterfaceFuncType where
  | publish | unpublish | startDiscovery | stopDiscovery
deriving DecidableEq

/-- The type and the mode select the function of the medium. -/
structure InterfaceCall where
  medium : ExchangeMedium
  type : InterfaceFuncType
  mode : DiscoverMode
  node : Nat
deriving DecidableEq

/-- What the functions of the media return; zero is `SOFTBUS_OK`. -/
structure MediaRes where
  coap : Int
  ble : Int

def DiscRet.ofMedium (code : Int) : DiscRet := if code = 0 then .ok else .medium code

/-- The calls that `CallInterfaceByMedium` makes. -/
def interfaceCalls (info : DiscInfo) (type : InterfaceFuncType) : List InterfaceCall :=
  match info.medium with
  | .auto => [⟨.coap, type, info.mode, info.node⟩, ⟨.ble, type, info.mode, info.node⟩]
  | medium => [⟨medium, type, info.mode, info.node⟩]

/-- One medium's own code is returned, not that of two. -/
def callInterfaceByMedium (info : DiscInfo) (res : MediaRes) : DiscRet :=
  match info.medium with
  | .coap => .ofMedium res.coap
  | .ble => .ofMedium res.ble
  | .auto => if res.coap = 0 ∨ res.ble = 0 then .ok else .innerFunctionFail

/-! ## The manager -/

/-- The list of a capability holds the addresses of its entries. -/
structure DiscManager where
  publishInfoList : List DiscItem := []
  discoveryInfoList : List DiscItem := []
  capabilityList : Nat → List Nat := fun _ => []
  calls : List InterfaceCall := []
  next : Nat := 0

def discModuleMap : DiscModule → String
  | .lnn => "MODULE_LNN"
  | .conn => "MODULE_CONN"

namespace DiscManager

variable (s : DiscManager)

def addDiscInfoToCapabilityList (info : DiscInfo) (type : ServiceType) : Nat → List Nat :=
  if info.capability < capabilityMaxBitnum then
    let list := s.capabilityList info.capability
    Function.update s.capabilityList info.capability
      (if type = .subscribe then list ++ [info.node] else info.node :: list)
  else s.capabilityList

def removeDiscInfoFromCapabilityList (info : DiscInfo) : Nat → List Nat :=
  fun capability => (s.capabilityList capability).filter (· ≠ info.node)

def innerPublishService (packageName : String) (info : DiscInfo) (type : ServiceType) (res : MediaRes) :
    DiscRet × DiscManager :=
  match addDiscInfoToList s.publishInfoList packageName info type with
  | none => (.duplicateParam, s)
  | some publishInfoList =>
    let s := { s with publishInfoList, calls := s.calls ++ interfaceCalls info .publish, next := s.next + 1 }
    let ret := callInterfaceByMedium info res
    (ret, if ret = .ok then s else { s with publishInfoList := unlinkInfo publishInfoList packageName info.node })

def innerUnPublishService (packageName : String) (publishId : Int) (res : MediaRes) : DiscRet × DiscManager :=
  match removeInfoFromList s.publishInfoList packageName publishId with
  | (none, publishInfoList) => (.infoNotDelete, { s with publishInfoList })
  | (some info, publishInfoList) =>
    (callInterfaceByMedium info res,
      { s with publishInfoList, calls := s.calls ++ interfaceCalls info .unpublish })

def innerStartDiscovery (packageName : String) (info : DiscInfo) (type : ServiceType) (res : MediaRes) :
    DiscRet × DiscManager :=
  match addDiscInfoToList s.discoveryInfoList packageName info type with
  | none => (.duplicateParam, s)
  | some discoveryInfoList =>
    let s :=
      { s with
        discoveryInfoList
        capabilityList := s.addDiscInfoToCapabilityList info type
        calls := s.calls ++ interfaceCalls info .startDiscovery
        next := s.next + 1 }
    let ret := callInterfaceByMedium info res
    (ret, if ret = .ok then s else
      { s with
        discoveryInfoList := unlinkInfo discoveryInfoList packageName info.node
        capabilityList := s.removeDiscInfoFromCapabilityList info })

def innerStopDiscovery (packageName : String) (subscribeId : Int) (res : MediaRes) : DiscRet × DiscManager :=
  match removeInfoFromList s.discoveryInfoList packageName subscribeId with
  | (none, discoveryInfoList) => (.infoNotDelete, { s with discoveryInfoList })
  | (some info, discoveryInfoList) =>
    (callInterfaceByMedium info res,
      { s with
        discoveryInfoList
        capabilityList := s.removeDiscInfoFromCapabilityList info
        calls := s.calls ++ interfaceCalls info .stopDiscovery })

/-- Callbacks are left out; the item of a module may be made here. -/
def innerSetDiscoveryCallback (packageName : String) : DiscManager :=
  match s.discoveryInfoList.find? (isItem packageName) with
  | some _ => s
  | none => { s with discoveryInfoList := insertItem .subscribeInner { packageName } s.discoveryInfoList }

/-! ### The interface of the modules and packages -/

/-- The checked part of the functions that publish. -/
def publishAs (packageName : String) (info : ServiceInfo) (type : ServiceType) (res : MediaRes) : DiscRet × DiscManager :=
  match createDiscInfo s.next info with
  | .error err => (err, s)
  | .ok info => s.innerPublishService packageName info type res

/-- The checked part of the functions that look for devices. -/
def startAs (packageName : String) (info : ServiceInfo) (type : ServiceType) (res : MediaRes) : DiscRet × DiscManager :=
  match createDiscInfo s.next info with
  | .error err => (err, s)
  | .ok info => s.innerStartDiscovery packageName info type res

def discSetDiscoverCallback (moduleId : DiscModule) : DiscRet × DiscManager :=
  (.ok, s.innerSetDiscoveryCallback (discModuleMap moduleId))

def discPublish (moduleId : DiscModule) (info : ServiceInfo) (res : MediaRes) : DiscRet × DiscManager :=
  if DiscoverMode.ofInt info.mode ≠ some .active then (.invalidParam, s)
  else s.publishAs (discModuleMap moduleId) info .publishInner res

def discStartScan (moduleId : DiscModule) (info : ServiceInfo) (res : MediaRes) : DiscRet × DiscManager :=
  if DiscoverMode.ofInt info.mode ≠ some .passive then (.invalidParam, s)
  else s.publishAs (discModuleMap moduleId) info .publishInner res

def discUnpublish (moduleId : DiscModule) (publishId : Int) (res : MediaRes) : DiscRet × DiscManager :=
  s.innerUnPublishService (discModuleMap moduleId) publishId res

def discStartAdvertise (moduleId : DiscModule) (info : ServiceInfo) (res : MediaRes) : DiscRet × DiscManager :=
  if DiscoverMode.ofInt info.mode ≠ some .active then (.invalidParam, s)
  else s.startAs (discModuleMap moduleId) info .subscribeInner res

def discSubscribe (moduleId : DiscModule) (info : ServiceInfo) (res : MediaRes) : DiscRet × DiscManager :=
  if DiscoverMode.ofInt info.mode ≠ some .passive then (.invalidParam, s)
  else s.startAs (discModuleMap moduleId) info .subscribeInner res

def discStopAdvertise (moduleId : DiscModule) (subscribeId : Int) (res : MediaRes) : DiscRet × DiscManager :=
  s.innerStopDiscovery (discModuleMap moduleId) subscribeId res

def discPublishService (packageName : String) (info : ServiceInfo) (res : MediaRes) : DiscRet × DiscManager :=
  if pkgNameSizeMax ≤ packageName.utf8ByteSize then (.invalidParam, s) else s.publishAs packageName info .publish res

def discUnPublishService (packageName : String) (publishId : Int) (res : MediaRes) : DiscRet × DiscManager :=
  if pkgNameSizeMax ≤ packageName.utf8ByteSize then (.invalidParam, s)
  else s.innerUnPublishService packageName publishId res

def discStartDiscovery (packageName : String) (info : ServiceInfo) (res : MediaRes) : DiscRet × DiscManager :=
  if pkgNameSizeMax ≤ packageName.utf8ByteSize then (.invalidParam, s) else s.startAs packageName info .subscribe res

def discStopDiscovery (packageName : String) (subscribeId : Int) (res : MediaRes) : DiscRet × DiscManager :=
  if pkgNameSizeMax ≤ packageName.utf8ByteSize then (.invalidParam, s)
  else s.innerStopDiscovery packageName subscribeId res

/-! ### The death of a package -/

/-- The ids that `RemoveDiscInfoByPackageName` collects. -/
def idsByPackageName (itemList : List DiscItem) (pkgName : String) : List Int :=
  (itemList.filter (isItem pkgName)).flatMap fun item => item.infoList.map (·.id)

/-- `CleanupPublishDiscovery` for `PUBLISH_SERVICE`: it returns after the first id. -/
def cleanupPublish (pkgName : String) (ids : List Int) (res : Int → MediaRes) : DiscManager :=
  match ids with
  | [] => s
  | id :: _ => (s.discUnPublishService pkgName id (res id)).2

/-- `CleanupPublishDiscovery` for `SUBSCRIBE_SERVICE`. -/
def cleanupDiscovery (s : DiscManager) (pkgName : String) (ids : List Int) (res : Int → MediaRes) : DiscManager :=
  ids.foldl (fun s id => (s.discStopDiscovery pkgName id (res id)).2) s

/-- The results of the media come by id, for publications and for subscriptions. -/
def discMgrDeathCallback (pkgName : String) (unpublishRes stopRes : Int → MediaRes) : DiscManager :=
  let s := s.cleanupPublish pkgName (idsByPackageName s.publishInfoList pkgName) unpublishRes
  s.cleanupDiscovery pkgName (idsByPackageName s.discoveryInfoList pkgName) stopRes

end DiscManager

inductive DiscEvent where
  | setDiscoverCallback (moduleId : DiscModule)
  | publish (moduleId : DiscModule) (info : ServiceInfo) (res : MediaRes)
  | startScan (moduleId : DiscModule) (info : ServiceInfo) (res : MediaRes)
  | unpublish (moduleId : DiscModule) (publishId : Int) (res : MediaRes)
  | startAdvertise (moduleId : DiscModule) (info : ServiceInfo) (res : MediaRes)
  | subscribe (moduleId : DiscModule) (info : ServiceInfo) (res : MediaRes)
  | stopAdvertise (moduleId : DiscModule) (subscribeId : Int) (res : MediaRes)
  | publishService (packageName : String) (info : ServiceInfo) (res : MediaRes)
  | unPublishService (packageName : String) (publishId : Int) (res : MediaRes)
  | startDiscovery (packageName : String) (info : ServiceInfo) (res : MediaRes)
  | stopDiscovery (packageName : String) (subscribeId : Int) (res : MediaRes)
  | death (pkgName : String) (unpublishRes stopRes : Int → MediaRes)

/-- The calls that add an entry. -/
def DiscEvent.adds : DiscEvent → Bool
  | .publish .. | .startScan .. | .startAdvertise .. | .subscribe .. | .publishService .. | .startDiscovery .. => true
  | _ => false

namespace DiscManager

def exec (s : DiscManager) : DiscEvent → DiscRet × DiscManager
  | .setDiscoverCallback moduleId => s.discSetDiscoverCallback moduleId
  | .publish moduleId info res => s.discPublish moduleId info res
  | .startScan moduleId info res => s.discStartScan moduleId info res
  | .unpublish moduleId publishId res => s.discUnpublish moduleId publishId res
  | .startAdvertise moduleId info res => s.discStartAdvertise moduleId info res
  | .subscribe moduleId info res => s.discSubscribe moduleId info res
  | .stopAdvertise moduleId subscribeId res => s.discStopAdvertise moduleId subscribeId res
  | .publishService packageName info res => s.discPublishService packageName info res
  | .unPublishService packageName publishId res => s.discUnPublishService packageName publishId res
  | .startDiscovery packageName info res => s.discStartDiscovery packageName info res
  | .stopDiscovery packageName subscribeId res => s.discStopDiscovery packageName subscribeId res
  | .death pkgName unpublishRes stopRes => (.ok, s.discMgrDeathCallback pkgName unpublishRes stopRes)

def step (s : DiscManager) (event : DiscEvent) : DiscManager := (s.exec event).2

end DiscManager

end SoftBus
