import SoftBus.Common
import SoftBus.Lib.FirstMatch
import SoftBus.Lib.Run

/-!
# The Wi-Fi Direct link manager

The manager keeps its links in one list per link type and counts them in a
field of its own. A link is a container of optional entries, with the link ids
that were given out for it. A call that reaches for a list outside the array
of lists, or that never returns, has no next state.
-/

namespace SoftBus

/-! ## Links -/

inductive WifiDirectLinkType where
  | p2p
  | hml
deriving DecidableEq, Repr

namespace WifiDirectLinkType

def toInt : WifiDirectLinkType → Int
  | p2p => 0
  | hml => 1

def ofInt (linkType : Int) : Option WifiDirectLinkType :=
  if linkType = 0 then some p2p else if linkType = 1 then some hml else none

def other : WifiDirectLinkType → WifiDirectLinkType
  | p2p => hml
  | hml => p2p

end WifiDirectLinkType

def linkTypeInvalid : Int := -1

def linkTypeMax : Int := 2

inductive InnerLinkState where
  | invalid
  | disconnected
  | connected
  | connecting
  | disconnecting
deriving DecidableEq, Repr

structure WifiDirectIpv4Info where
  address : BitVec 32
  prefixLength : BitVec 8
deriving DecidableEq, Repr

structure LinkIdStruct where
  id : BitVec 32
  requestId : BitVec 32
  pid : BitVec 32
deriving DecidableEq, Repr

structure InnerLink where
  linkType : Option Int := none
  state : Option InnerLinkState := none
  localBaseMac : Option (List UInt8) := none
  remoteBaseMac : Option (List UInt8) := none
  remoteIpv4 : Option WifiDirectIpv4Info := none
  isBeingUsedByLocal : Option Bool := none
  deviceId : Option (List UInt8) := none
  reference : Int := 0
  idList : List LinkIdStruct := []
deriving DecidableEq, Repr

namespace InnerLink

section
variable (link : InnerLink)

def increaseReference : InnerLink :=
  { link with reference := link.reference + 1, isBeingUsedByLocal := some true }

def decreaseReference : InnerLink :=
  let reference := if link.reference > 0 then link.reference - 1 else link.reference
  { link with
    reference := reference
    isBeingUsedByLocal := if reference = 0 then some false else link.isBeingUsedByLocal }

/-- `AddId`; without memory for the item it does nothing. -/
def addId (linkId requestId pid : BitVec 32) (alloc : Bool) : InnerLink :=
  if alloc then increaseReference { link with idList := link.idList ++ [⟨linkId, requestId, pid⟩] } else link

def containId (linkId : BitVec 32) : Bool := link.idList.any (·.id == linkId)

def removeId (linkId : BitVec 32) : InnerLink :=
  clearUsed (if link.containId linkId then
    decreaseReference { link with idList := link.idList.eraseP (·.id == linkId) } else link)
where
  clearUsed (link : InnerLink) : InnerLink :=
    if link.idList = [] then { link with isBeingUsedByLocal := some false } else link

/-- The test of `GetLinkByTypeAndDevice`. -/
def hasMac (mac : List UInt8) (link : InnerLink) : Bool := link.remoteBaseMac.any (strCmpIgnoreCase · mac)

/-- `deepCopy` into a new link: the entries, not the ids. -/
def deepCopy : InnerLink := { link with reference := 0, idList := [] }

end

/-- The loop of `UpdateLink`: the entries that the new link has. -/
def merge (oldLink newLink : InnerLink) : InnerLink :=
  { oldLink with
    linkType := newLink.linkType.or oldLink.linkType
    state := newLink.state.or oldLink.state
    localBaseMac := newLink.localBaseMac.or oldLink.localBaseMac
    remoteBaseMac := newLink.remoteBaseMac.or oldLink.remoteBaseMac
    remoteIpv4 := newLink.remoteIpv4.or oldLink.remoteIpv4
    isBeingUsedByLocal := newLink.isBeingUsedByLocal.or oldLink.isBeingUsedByLocal
    deviceId := newLink.deviceId.or oldLink.deviceId }

/-- The test of `AdjustIfRemoteMacChange`: the same device under another MAC. -/
def replaces (innerLink target : InnerLink) : Bool :=
  innerLink.remoteBaseMac.getD [] ≠ [] && target.remoteBaseMac.getD [] ≠ [] &&
    !strCmpIgnoreCase (innerLink.remoteBaseMac.getD []) (target.remoteBaseMac.getD []) &&
    strCmpIgnoreCase (innerLink.deviceId.getD []) (target.deviceId.getD [])

/-- What `innerLink` takes over from a link that it replaces. -/
def inherit (target innerLink : InnerLink) : InnerLink :=
  { innerLink with
    localBaseMac := if target.localBaseMac.getD [] ≠ [] then target.localBaseMac else innerLink.localBaseMac
    remoteIpv4 := target.remoteIpv4.or innerLink.remoteIpv4 }

end InnerLink

/-! ## The manager -/

structure LinkManager where
  linkLists : WifiDirectLinkType → List InnerLink := fun _ => []
  currentLinkId : BitVec 32 := 0
  count : Int := 0

namespace LinkManager

section
variable (m : LinkManager)

/-- All links, in the order in which the manager goes through them. -/
def links : List InnerLink := m.linkLists .p2p ++ m.linkLists .hml

def setList (t : WifiDirectLinkType) (l : List InnerLink) : LinkManager :=
  { m with linkLists := Function.update m.linkLists t l }

def dropFirst (t : WifiDirectLinkType) (p : InnerLink → Bool) : LinkManager :=
  { m.setList t ((m.linkLists t).eraseP p) with count := m.count - 1 }

def modifyFirst (t : WifiDirectLinkType) (p : InnerLink → Bool) (f : InnerLink → InnerLink) :
    LinkManager := m.setList t (FirstMatch.modify p f (m.linkLists t))

/-! ### Looking up -/

/-- `GetLinkByTypeAndDevice`: the link with its list. The index is checked against the upper bound only. -/
def getLinkByTypeAndDevice (linkType : Int) (mac : List UInt8) : Option (Option (WifiDirectLinkType × InnerLink)) :=
  if linkTypeMax ≤ linkType then some none
  else
    match WifiDirectLinkType.ofInt linkType with
    | none => none
    | some t => some (((m.linkLists t).find? (·.hasMac mac)).map (t, ·))

def listWith (p : InnerLink → Bool) : Option WifiDirectLinkType :=
  if (m.linkLists .p2p).any p then some .p2p else if (m.linkLists .hml).any p then some .hml else none

def modifyAny (p : InnerLink → Bool) (f : InnerLink → InnerLink) : LinkManager :=
  match m.listWith p with
  | none => m
  | some t => m.modifyFirst t p f

def getLinkById (linkId : BitVec 32) : Option InnerLink := m.links.find? (·.containId linkId)

/-! ### Changes -/

/-- `AdjustIfRemoteMacChange`, with what it writes to `innerLink`. -/
def adjustIfRemoteMacChange (innerLink : InnerLink) : LinkManager × (InnerLink → InnerLink) :=
  match WifiDirectLinkType.ofInt (innerLink.linkType.getD linkTypeInvalid) with
  | none => (m, id)
  | some t =>
    match (m.linkLists t).find? innerLink.replaces with
    | none => (m, id)
    | some target => (m.dropFirst t innerLink.replaces, InnerLink.inherit target)

/-- `OnInnerLinkChange`, with what it writes to `innerLink`. -/
def onInnerLinkChange (innerLink : InnerLink) (isStateChange : Bool) : LinkManager × (InnerLink → InnerLink) :=
  if isStateChange ∧ innerLink.state.getD .invalid = .connected then m.adjustIfRemoteMacChange innerLink else (m, id)

/-- `AddLink`; `alloc` tells whether there is memory for the link. What is written to the caller's link
stays with the caller. -/
def addLink (link : InnerLink) (alloc : Bool) : Option LinkManager :=
  if linkTypeMax ≤ link.linkType.getD linkTypeMax then some m
  else if ¬alloc then some m
  else
    match WifiDirectLinkType.ofInt (link.linkType.getD linkTypeMax) with
    | none => none
    | some t =>
      some ({ m.setList t (m.linkLists t ++ [link.deepCopy]) with count := m.count + 1 }.onInnerLinkChange link true).1

/-- `RemoveLink`: the link goes in state `INNER_LINK_STATE_DISCONNECTED`, so that `OnInnerLinkChange` only
tells the listener. -/
def removeLink (link : InnerLink) : Option LinkManager :=
  if linkTypeMax ≤ link.linkType.getD linkTypeMax then some m
  else
    match m.getLinkByTypeAndDevice (link.linkType.getD linkTypeMax) (link.remoteBaseMac.getD []) with
    | none => none
    | some none => some m
    | some (some (t, _)) => some (m.dropFirst t (·.hasMac (link.remoteBaseMac.getD [])))

/-- `UpdateLink` for two links. The new link has a MAC, so that something has changed. -/
def mergeLink (t : WifiDirectLinkType) (oldLink newLink : InnerLink) : LinkManager :=
  let isStateChange := newLink.state.getD .invalid ≠ .invalid ∧ oldLink.state.getD .invalid ≠ newLink.state.getD .invalid
  let changed := (m.modifyFirst t (·.hasMac (newLink.remoteBaseMac.getD [])) (·.merge newLink)).onInnerLinkChange
    (oldLink.merge newLink) isStateChange
  changed.1.modifyFirst t (·.hasMac (newLink.remoteBaseMac.getD [])) changed.2

def updateLink (oldLink : Option (WifiDirectLinkType × InnerLink)) (newLink : InnerLink) (alloc : Bool) :
    Option LinkManager :=
  match oldLink with
  | none => m.addLink newLink alloc
  | some (t, oldLink) => some (m.mergeLink t oldLink newLink)

/-- `NotifyLinkChange`. A link that has gone is taken out and then treated like any other. -/
def notifyLinkChange (newLink : InnerLink) (alloc : Bool) : Option LinkManager :=
  match if newLink.state.getD .invalid = .disconnected then m.removeLink newLink else some m with
  | none => none
  | some m =>
    if newLink.remoteBaseMac.getD [] = [] then some m
    else
      match m.getLinkByTypeAndDevice (newLink.linkType.getD linkTypeMax) (newLink.remoteBaseMac.getD []) with
      | none => none
      | some oldLink => m.updateLink oldLink newLink alloc

/-- The loop of `RemoveLinksByLinkType`, over what is left of the list. -/
def removeAll (t : WifiDirectLinkType) : List InnerLink → LinkManager → LinkManager
  | [], m => m
  | _ :: rest, m => removeAll t rest { m.setList t rest with count := m.count - 1 }

def removeLinksByLinkType (linkType : Int) : Option LinkManager :=
  if linkTypeMax ≤ linkType then some m
  else
    match WifiDirectLinkType.ofInt linkType with
    | none => none
    | some t => some (removeAll t (m.linkLists t) m)

/-- The loop of `RefreshLinks`: `kept` are the links already passed over. -/
def refresh (t : WifiDirectLinkType) (clientDevices : List (List UInt8)) (kept : List InnerLink) :
    List InnerLink → LinkManager → LinkManager
  | [], m => m
  | link :: rest, m =>
    if link.state.getD .invalid = .connecting ∨ link.remoteBaseMac.getD [] ∈ clientDevices then
      refresh t clientDevices (kept ++ [link]) rest m
    else refresh t clientDevices kept rest { m.setList t (kept ++ rest) with count := m.count - 1 }

/-- `RefreshLinks`: the index is not checked. -/
def refreshLinks (linkType : Int) (clientDevices : List (List UInt8)) : Option LinkManager :=
  match WifiDirectLinkType.ofInt linkType with
  | none => none
  | some t => some (refresh t clientDevices [] (m.linkLists t) m)

/-! ### Link ids -/

def linkIdInvalid : BitVec 32 := -1

/-- The loop of `GenerateLinkId`: the first id from `newId` on that no link has. -/
def nextLinkId (m : LinkManager) : Nat → BitVec 32 → Option (BitVec 32)
  | 0, _ => none
  | fuel + 1, newId => if (m.getLinkById newId).isNone then some newId else nextLinkId m fuel (newId + 1)

/-- `GenerateLinkId`. After `2 ^ 32` turns every id has been tried. -/
def generateLinkId (innerLink : InnerLink) (requestId pid : BitVec 32) (alloc : Bool) :
    Option (LinkManager × BitVec 32) :=
  match m.getLinkByTypeAndDevice (innerLink.linkType.getD linkTypeInvalid) (innerLink.remoteBaseMac.getD []) with
  | none => none
  | some none => some (m, linkIdInvalid)
  | some (some (t, _)) =>
    match m.nextLinkId (2 ^ 32) (if m.currentLinkId.toInt < 0 then 0 else m.currentLinkId) with
    | none => none
    | some newId =>
      some ({ m with currentLinkId := newId + 1 }.modifyFirst t (·.hasMac (innerLink.remoteBaseMac.getD []))
        (·.addId newId requestId pid alloc), newId)

def recycleLinkId (linkId : BitVec 32) (remoteMac : Option (List UInt8)) : LinkManager :=
  if linkId.toInt < 0 then
    match remoteMac with
    | none => m
    | some mac => m.modifyAny (·.hasMac mac) InnerLink.decreaseReference
  else m.modifyAny (·.containId linkId) (·.removeId linkId)

end

end LinkManager

/-! ## Calls -/

inductive LinkCall where
  | notifyLinkChange (link : InnerLink) (alloc : Bool)
  | removeLinksByLinkType (linkType : Int)
  | refreshLinks (linkType : Int) (clientDevices : List (List UInt8))
  | generateLinkId (link : InnerLink) (requestId pid : BitVec 32) (alloc : Bool)
  | recycleLinkId (linkId : BitVec 32) (remoteMac : Option (List UInt8))
deriving DecidableEq, Repr

def LinkManager.call (m : LinkManager) : LinkCall → Option LinkManager
  | .notifyLinkChange link alloc => m.notifyLinkChange link alloc
  | .removeLinksByLinkType linkType => m.removeLinksByLinkType linkType
  | .refreshLinks linkType clientDevices => m.refreshLinks linkType clientDevices
  | .generateLinkId link requestId pid alloc => (m.generateLinkId link requestId pid alloc).map (·.1)
  | .recycleLinkId linkId remoteMac => some (m.recycleLinkId linkId remoteMac)

/-- A sequence of calls, as long as each of them returns. -/
def LinkManager.step (s : Option LinkManager) (c : LinkCall) : Option LinkManager := s.bind (·.call c)

end SoftBus
