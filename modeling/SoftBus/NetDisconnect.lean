import SoftBus.NetLedger

/-!
# The last connection to an address is gone

`TryDisconnectAllConnection` of `lnn_net_builder.c`: when a connection is cleaned, the links to its address are closed
unless a connection that is left uses them.
-/

namespace SoftBus

inductive ConnectionAddr where
  | ip (isEth : Bool) (addr : String) (port : UInt16)
  | br (brMac : String)
  | ble (bleMac : String) (udidHash : Vector UInt8 32)
  | session (sessionId channelId type : Int32)
deriving DecidableEq

inductive ConnectOption where
  | br (brMac : String)
  | ble (bleMac : String)
  | socket (addr : String) (port : UInt16)
deriving DecidableEq

namespace ConnectionAddr

def type : ConnectionAddr → ConnectionAddrType
  | ip isEth _ _ => if isEth then .eth else .wlan
  | br _ => .br
  | ble _ _ => .ble
  | session _ _ _ => .session

/-- An option has room for as many bytes as the address, so the copies succeed. -/
def lnnConvertAddrToOption : ConnectionAddr → Option ConnectOption
  | ip _ addr port => some (.socket addr port)
  | br brMac => some (.br brMac)
  | ble bleMac _ => some (.ble bleMac)
  | session .. => none

/-- The comparison in the loop. Both macs are read from `addr2`, and the ips are compared over the length of the first. -/
def stillUsed (addr1 addr2 : ConnectionAddr) : Bool :=
  addr1.type = addr2.type &&
    match addr1, addr2 with
    | br _, br brMac => brMac = brMac
    | ble _ _, ble bleMac _ => bleMac = bleMac
    | ip _ addr _, ip _ addr' _ => addr.toList.isPrefixOf addr'.toList
    | _, _ => false

/-- The same kind of address, and the same mac or ip. -/
def sameTarget : ConnectionAddr → ConnectionAddr → Bool
  | ip isEth addr _, ip isEth' addr' _ => isEth = isEth' && addr = addr'
  | br brMac, br brMac' => brMac = brMac'
  | ble bleMac _, ble bleMac' _ => bleMac = bleMac'
  | _, _ => false

def ipString : ConnectionAddr → String
  | ip _ addr _ => addr
  | _ => ""

end ConnectionAddr

structure LnnConnectionFsm where
  id : UInt16
  addr : ConnectionAddr
  -- `LNN_CONN_INFO_FLAG_ONLINE`
  online : Bool := false
deriving DecidableEq

structure NetBuilder where
  fsmList : List LnnConnectionFsm := []

namespace NetBuilder

variable (s : NetBuilder)

def stopConnectionFsm (connFsmId : UInt16) : NetBuilder :=
  { s with fsmList := s.fsmList.eraseP (·.id = connFsmId) }

/-- What `ConnDisconnectDeviceAllConn` is called with. -/
def tryDisconnectAllConnection (connFsm : LnnConnectionFsm) : Option ConnectOption :=
  if !connFsm.online then none
  else if s.fsmList.any fun item => connFsm.addr.stillUsed item.addr then none
  else connFsm.addr.lnnConvertAddrToOption

/-- The call of it in `ProcessCleanConnectionFsm`. -/
def cleanDisconnects (connFsmId : UInt16) : Option ConnectOption :=
  match s.fsmList.find? (·.id = connFsmId) with
  | none => none
  | some connFsm => (s.stopConnectionFsm connFsmId).tryDisconnectAllConnection connFsm

end NetBuilder

/-! ## When the links are closed -/

namespace ConnectionAddr

variable {addr1 addr2 : ConnectionAddr}

theorem stillUsed_iff (h : addr1.type ≠ .session) :
    addr1.stillUsed addr2 = true ↔ addr2.type = addr1.type ∧ addr1.ipString.toList <+: addr2.ipString.toList := by
  cases addr1 <;> cases addr2 <;> simp [stillUsed, type, ipString, List.isPrefixOf_iff_prefix] at h ⊢ <;> grind

theorem stillUsed_of_sameTarget (h : addr1.sameTarget addr2) : addr1.stillUsed addr2 = true := by
  cases addr1 <;> cases addr2 <;> simp_all [sameTarget, stillUsed, type]

theorem lnnConvertAddrToOption_eq_none : addr1.lnnConvertAddrToOption = none ↔ addr1.type = .session := by
  cases addr1 <;> simp [lnnConvertAddrToOption, type]
  split <;> nofun

theorem not_sameTarget_of_session (h : addr1.type = .session) : ¬ addr1.sameTarget addr2 := by
  cases addr1 <;> simp_all [sameTarget, type]
  split at h <;> nomatch h

end ConnectionAddr

namespace NetBuilder

variable {s : NetBuilder} {connFsmId : UInt16} {connFsm : LnnConnectionFsm}

/-- The links of an address are closed with its last connection exactly if it is no session, and if a connection
that is left, of the same kind and with an ip that starts with the one of the address, comes with one that has the
same mac or ip. -/
theorem disconnect_with_last_iff (hfind : s.fsmList.find? (·.id = connFsmId) = some connFsm)
    (honline : connFsm.online = true) :
    ((∃ option, connFsm.addr.lnnConvertAddrToOption = some option ∧ s.cleanDisconnects connFsmId = some option) ↔
        ∀ item ∈ (s.stopConnectionFsm connFsmId).fsmList, ¬ connFsm.addr.sameTarget item.addr) ↔
      connFsm.addr.type ≠ .session ∧
        ((∃ item ∈ (s.stopConnectionFsm connFsmId).fsmList, item.addr.type = connFsm.addr.type ∧
            connFsm.addr.ipString.toList <+: item.addr.ipString.toList) →
          ∃ item ∈ (s.stopConnectionFsm connFsmId).fsmList, connFsm.addr.sameTarget item.addr) := by
  have hcall : s.cleanDisconnects connFsmId =
      (s.stopConnectionFsm connFsmId).tryDisconnectAllConnection connFsm := by
    rw [cleanDisconnects, hfind]
  rw [hcall, tryDisconnectAllConnection, if_neg (by simp [honline])]
  generalize (s.stopConnectionFsm connFsmId).fsmList = rest
  cases hoption : connFsm.addr.lnnConvertAddrToOption with
  | none =>
    have hsession := ConnectionAddr.lnnConvertAddrToOption_eq_none.mp hoption
    have hnone : ∀ item ∈ rest, ¬ connFsm.addr.sameTarget item.addr :=
      fun item _ => ConnectionAddr.not_sameTarget_of_session hsession
    simpa [hsession] using hnone
  | some option =>
    have hsession : connFsm.addr.type ≠ .session := fun h => by
      rw [ConnectionAddr.lnnConvertAddrToOption_eq_none.mpr h] at hoption
      nomatch hoption
    simp only [← ConnectionAddr.stillUsed_iff hsession]
    by_cases hused : ∃ item ∈ rest, connFsm.addr.stillUsed item.addr = true
    · rw [if_pos (List.any_eq_true.mpr hused)]
      simp [hused, hsession]
    · rw [if_neg fun h => hused (List.any_eq_true.mp h)]
      have hnone : ∀ item ∈ rest, ¬ connFsm.addr.sameTarget item.addr :=
        fun item hitem h => hused ⟨item, hitem, ConnectionAddr.stillUsed_of_sameTarget h⟩
      simpa [hused, hsession] using hnone

def wlanConnections : NetBuilder where
  fsmList :=
    [{ id := 1, addr := .ip false "10.0.0.12" 0, online := true }, { id := 2, addr := .ip false "10.0.0.1" 0 }]

def brConnections : NetBuilder where
  fsmList := [{ id := 1, addr := .br "00:01", online := true }, { id := 2, addr := .br "00:02" }]

theorem links_closed_beside_other_ip :
    ((∃ option, (ConnectionAddr.ip false "10.0.0.12" 0).lnnConvertAddrToOption = some option ∧
        wlanConnections.cleanDisconnects 1 = some option) ↔
      ∀ item ∈ (wlanConnections.stopConnectionFsm 1).fsmList,
        ¬ (ConnectionAddr.ip false "10.0.0.12" 0).sameTarget item.addr) := by
  have honline : wlanConnections.fsmList.find? (·.id = 1) =
      some { id := 1, addr := .ip false "10.0.0.12" 0, online := true } := by decide
  exact (disconnect_with_last_iff honline rfl).mpr (by decide)

/-- Another device that is reached over BR keeps the links to this one open. -/
theorem links_kept_for_other_mac :
    (brConnections.fsmList.find? (·.id = 1)).map (fun item => (item.addr, item.online)) =
        some (.br "00:01", true) ∧
      (∀ item ∈ (brConnections.stopConnectionFsm 1).fsmList, ¬ (ConnectionAddr.br "00:01").sameTarget item.addr) ∧
      brConnections.cleanDisconnects 1 = none := by
  decide

end NetBuilder

end SoftBus
