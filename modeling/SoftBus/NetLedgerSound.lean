import Mathlib.Data.List.Perm.Basic
import SoftBus.NetLedger

/-!
# The ledger counts connections

The relation counters are always right. The discovery bits, and with them the status, are right exactly as
long as no connection goes whose discovery type another one shares, unless an auth id of its address type is left.
-/

namespace SoftBus

/-! ## One device -/

namespace NodeInfo

structure Counts (info : NodeInfo) (conns : List LnnConn) : Prop where
  relation : ∀ type, (info.relation type).toNat = conns.countP (·.type = type)
  discovery : ∀ i, info.discoveryType.getLsbD i = true ↔ ∃ c ∈ conns, c.type.discType.bit = i
  status : info.status = true ↔ conns ≠ []

def Owned (info : NodeInfo) (conns : List LnnConn) : Prop :=
  ∀ type side, info.authChannelId type side ≠ 0 → ∃ c ∈ conns, c.type = type ∧ c.authId = info.authChannelId type side

theorem bit_lt (type : DiscoveryType) : type.bit < 32 := by cases type <;> decide

theorem getLsbD_bit (type : DiscoveryType) (i : Nat) :
    (BitVec.twoPow 32 type.bit).getLsbD i = true ↔ type.bit = i := by
  rw [BitVec.getLsbD_twoPow, decide_eq_true (bit_lt type), Bool.true_and, decide_eq_true_iff]

/-! ### A connection comes -/

theorem relation_fill (networkId : String) (c : LnnConn) (type : ConnectionAddrType) :
    ((lnnFillConnInfo networkId c).relation type).toNat = if c.type = type then 1 else 0 := by
  by_cases h : c.type = type
  · subst h
    simp [lnnFillConnInfo]
  · simp [lnnFillConnInfo, h, Function.update_of_ne (Ne.symm h)]

theorem authChannelId_fill (networkId : String) (c : LnnConn) (type : ConnectionAddrType) (side : AuthSide)
    (h : (lnnFillConnInfo networkId c).authChannelId type side ≠ 0) :
    c.type = type ∧ c.authId = (lnnFillConnInfo networkId c).authChannelId type side := by
  by_cases htype : type = c.type
  · subst htype
    by_cases hside : side = c.side
    · subst hside
      simp [lnnFillConnInfo]
    · simp [lnnFillConnInfo, Function.update_of_ne hside] at h
  · simp [lnnFillConnInfo, Function.update_of_ne htype] at h

theorem counts_fill (networkId : String) (c : LnnConn) :
    Counts { lnnFillConnInfo networkId c with status := true } [c] where
  relation type := by
    rw [List.countP_singleton, relation_fill]
    simp
  discovery i := by
    rw [show ({ lnnFillConnInfo networkId c with status := true } : NodeInfo).discoveryType =
      BitVec.twoPow 32 c.type.discType.bit from rfl, getLsbD_bit]
    simp
  status := by simp

theorem owned_fill (networkId : String) (c : LnnConn) : Owned { lnnFillConnInfo networkId c with status := true } [c] :=
  fun type side h => ⟨c, List.mem_singleton_self c, authChannelId_fill networkId c type side h⟩

def merged (networkId : String) (c : LnnConn) (oldInfo : NodeInfo) : NodeInfo :=
  let info := lnnFillConnInfo networkId c
  { ({ info with discoveryType := info.discoveryType ||| oldInfo.discoveryType } : NodeInfo).mergeLnnInfo oldInfo with
    status := true }

section
variable {oldInfo : NodeInfo} {conns : List LnnConn} {c : LnnConn} (networkId : String)

theorem toNat_and_relationMask (x y : UInt8) (h : x.toNat + y.toNat ≤ 3) :
    ((x + y) &&& lnnRelationMask).toNat = x.toNat + y.toNat := by
  rw [UInt8.toNat_and, UInt8.toNat_add, Nat.mod_eq_of_lt (by omega)]
  change (x.toNat + y.toNat) &&& (2 ^ 2 - 1) = _
  rw [Nat.and_two_pow_sub_one_eq_mod, Nat.mod_eq_of_lt (by omega)]

theorem Counts.merged (h : oldInfo.Counts conns) (hlt : ∀ type, (c :: conns).countP (·.type = type) ≤ 3) :
    (merged networkId c oldInfo).Counts (c :: conns) where
  relation type := by
    have hfill := relation_fill networkId c type
    have hold := h.relation type
    have hle := hlt type
    rw [List.countP_cons] at hle ⊢
    simp only [decide_eq_true_eq] at hle ⊢
    change (((lnnFillConnInfo networkId c).relation type + oldInfo.relation type) &&& lnnRelationMask).toNat = _
    rw [toNat_and_relationMask _ _ (by omega), hfill, hold, Nat.add_comm]
  discovery i := by
    change (BitVec.twoPow 32 c.type.discType.bit ||| oldInfo.discoveryType).getLsbD i = true ↔ _
    rw [BitVec.getLsbD_or, Bool.or_eq_true, getLsbD_bit, h.discovery]
    simp
  status := ⟨fun _ => List.cons_ne_nil c conns, fun _ => rfl⟩

theorem authChannelId_merged (type : ConnectionAddrType) (side : AuthSide) :
    (merged networkId c oldInfo).authChannelId type side = (lnnFillConnInfo networkId c).authChannelId type side ∨
    oldInfo.authChannelId type side ≠ 0 ∧
      (merged networkId c oldInfo).authChannelId type side = oldInfo.authChannelId type side := by
  by_cases hold : oldInfo.authChannelId type side ≠ 0 ∧ (lnnFillConnInfo networkId c).authChannelId type side = 0
  · exact .inr ⟨hold.1, if_pos hold⟩
  · exact .inl (if_neg hold)

theorem Owned.merged (h : oldInfo.Owned conns) : (merged networkId c oldInfo).Owned (c :: conns) := by
  intro type side hne
  rcases authChannelId_merged networkId type side with heq | ⟨hold, heq⟩
  · rw [heq] at hne ⊢
    exact ⟨c, List.mem_cons_self, authChannelId_fill networkId c type side hne⟩
  · rw [heq]
    obtain ⟨c', hmem, hc'⟩ := h type side hold
    exact ⟨c', List.mem_cons_of_mem c hmem, hc'⟩

end

/-! ### A connection goes -/

section
variable {info : NodeInfo} {conns rest : List LnnConn} {c : LnnConn}

theorem Counts.discoveryType_eq_zero (hbits : ∀ i, info.discoveryType.getLsbD i = true ↔ ∃ c ∈ conns,
    c.type.discType.bit = i) :
    info.discoveryType = 0 ↔ conns = [] := by
  constructor
  · intro hzero
    refine List.eq_nil_iff_forall_not_mem.mpr fun c hmem => ?_
    have hbit := (hbits c.type.discType.bit).mpr ⟨c, hmem, rfl⟩
    rw [hzero] at hbit
    simp at hbit
  · intro hnil
    refine BitVec.eq_of_getLsbD_eq fun i _ => ?_
    have hbit := hbits i
    rw [hnil] at hbit
    simpa using hbit

def KeepsAuthId (info : NodeInfo) (c : LnnConn) : Prop :=
  c.type.discType = .wifi ∧ ∃ side, info.authChannelId c.type side ≠ 0 ∧ info.authChannelId c.type side ≠ c.authId

def leftIds (info : NodeInfo) (c : LnnConn) (side : AuthSide) : Int32 :=
  if info.authChannelId c.type side = c.authId then 0 else info.authChannelId c.type side

theorem leftIds_ne_zero {side : AuthSide} : info.leftIds c side ≠ 0 ↔
    info.authChannelId c.type side ≠ 0 ∧ info.authChannelId c.type side ≠ c.authId := by
  unfold leftIds
  by_cases h : info.authChannelId c.type side = c.authId
  · simp [h]
  · simp [h]

theorem clearAuthChannelId_keeps (info : NodeInfo) (hwifi : info.hasDiscoveryType .wifi = true)
    (h : info.KeepsAuthId c) :
    info.clearAuthChannelId c.type c.authId = (.none, info.setAuthChannelId c.type (info.leftIds c)) := by
  obtain ⟨htype, side, hside⟩ := h
  refine if_pos ⟨⟨hwifi, htype⟩, ?_⟩
  simp only [setAuthChannelId, Function.update_self]
  cases side with
  | client => exact .inl (leftIds_ne_zero.mpr hside)
  | server => exact .inr (leftIds_ne_zero.mpr hside)

theorem clearAuthChannelId_clears (info : NodeInfo) (h : ¬ info.KeepsAuthId c) :
    info.clearAuthChannelId c.type c.authId = (.offline, info.setAuthChannelId c.type fun _ => 0) := by
  refine if_neg fun hkeeps => h ⟨hkeeps.1.2, ?_⟩
  obtain ⟨_, hkeeps⟩ := hkeeps
  simp only [setAuthChannelId, Function.update_self] at hkeeps
  rcases hkeeps with hside | hside
  · exact ⟨.client, leftIds_ne_zero.mp hside⟩
  · exact ⟨.server, leftIds_ne_zero.mp hside⟩

theorem Counts.relation_pos (h : info.Counts conns) (hperm : conns.Perm (c :: rest)) : 0 < info.relation c.type := by
  rw [UInt8.lt_iff_toNat_lt, h.relation, hperm.countP_eq, List.countP_cons_of_pos (by simp)]
  exact Nat.succ_pos _

theorem Counts.relation_dec (h : info.Counts conns) (hperm : conns.Perm (c :: rest)) (type : ConnectionAddrType) :
    (Function.update info.relation c.type (info.relation c.type - 1) type).toNat = rest.countP (·.type = type) := by
  have hcount := h.relation type
  rw [hperm.countP_eq, List.countP_cons] at hcount
  by_cases htype : type = c.type
  · subst htype
    rw [if_pos (by simp)] at hcount
    rw [Function.update_self, UInt8.toNat_sub_of_le _ _ (UInt8.le_iff_toNat_le.mpr (by rw [hcount]; simp)), hcount]
    exact Nat.add_sub_cancel ..
  · rw [if_neg (by simpa using Ne.symm htype)] at hcount
    rw [Function.update_of_ne htype, hcount, Nat.add_zero]

theorem Owned.leftIds (h : info.Owned conns) (hperm : conns.Perm (c :: rest)) :
    ∀ type side, Function.update info.authChannelId c.type (info.leftIds c) type side ≠ 0 →
      ∃ c' ∈ rest, c'.type = type ∧ c'.authId = Function.update info.authChannelId c.type (info.leftIds c) type side := by
  intro type side hne
  have hother : ∀ c' ∈ conns, c' ≠ c → c' ∈ rest := by
    intro c' hmem hc'
    exact (List.mem_cons.mp (hperm.mem_iff.mp hmem)).resolve_left hc'
  by_cases htype : type = c.type
  · subst htype
    rw [Function.update_self] at hne ⊢
    obtain ⟨hid, hdiff⟩ := leftIds_ne_zero.mp hne
    obtain ⟨c', hmem, hc', hauth⟩ := h c.type side hid
    rw [NodeInfo.leftIds, if_neg hdiff]
    refine ⟨c', hother c' hmem fun heq => hdiff ?_, hc', hauth⟩
    rw [← hauth, heq]
  · rw [Function.update_of_ne htype] at hne ⊢
    obtain ⟨c', hmem, hc', hauth⟩ := h type side hne
    refine ⟨c', hother c' hmem fun heq => htype ?_, hc', hauth⟩
    rw [← hc', heq]

theorem Owned.cleared (h : info.Owned conns) (hperm : conns.Perm (c :: rest)) :
    ∀ type side, Function.update info.authChannelId c.type (fun _ => 0) type side ≠ 0 →
      ∃ c' ∈ rest, c'.type = type ∧ c'.authId = Function.update info.authChannelId c.type (fun _ => 0) type side := by
  intro type side hne
  by_cases htype : type = c.type
  · rw [htype, Function.update_self] at hne
    exact absurd rfl hne
  · rw [Function.update_of_ne htype] at hne ⊢
    have hleft := h.leftIds hperm type side
    rw [Function.update_of_ne htype] at hleft
    exact hleft hne

end

end NodeInfo

/-! ## The two calls -/

namespace NetLedger

variable {s : NetLedger} {udid : String}

def Counts (entry : Option NodeInfo) (conns : List LnnConn) : Prop :=
  match entry with
  | none => conns = []
  | some info => info.Counts conns

structure Inv (s : NetLedger) : Prop where
  counts : ∀ udid, Counts (s.udidMap udid) (s.conns udid)
  bounded : ∀ udid type, (s.conns udid).countP (·.type = type) ≤ 3
  owned : ∀ udid, ∀ info ∈ s.udidMap udid, info.Owned (s.conns udid)

/-- The mask has room for a connection that comes, and one that goes is there. -/
def Legal (s : NetLedger) : LedgerEvent → Prop
  | .online udid _ c => (s.conns udid).countP (·.type = c.type) < lnnRelationMask.toNat
  | .offline udid c => c ∈ s.conns udid

def FirstUp (s : NetLedger) : LedgerEvent → Prop
  | .online udid _ _ => s.conns udid = []
  | .offline _ _ => False

def LastDown (s : NetLedger) : LedgerEvent → Prop
  | .online _ _ _ => False
  | .offline udid c => (s.conns udid).erase c = []

/-- The ledger is right after the call, and the call reports the first connection and the last. -/
structure Right (s : NetLedger) (e : LedgerEvent) : Prop where
  counts : ∀ udid, Counts ((s.step e).udidMap udid) ((s.step e).conns udid)
  online : s.report e = .online ↔ s.FirstUp e
  offline : s.report e = .offline ↔ s.LastDown e

/-- A connection goes whose discovery type no other one has, or that leaves an auth id of its address type. -/
def GoodStep (s : NetLedger) : LedgerEvent → Prop
  | .online _ _ _ => True
  | .offline udid c => (∃ c' ∈ (s.conns udid).erase c, c'.type.discType = c.type.discType) →
      ∃ info ∈ s.udidMap udid, info.KeepsAuthId c

theorem Inv.init : Inv {} := ⟨fun _ => rfl, fun _ _ => Nat.zero_le 3, fun _ _ h => nomatch h⟩

theorem Legal.bounded (h : Inv s) {networkId : String} {c : LnnConn} (hlegal : s.Legal (.online udid networkId c))
    (type : ConnectionAddrType) : (c :: s.conns udid).countP (·.type = type) ≤ 3 := by
  by_cases htype : c.type = type
  · subst htype
    rw [List.countP_cons_of_pos (by simp)]
    exact hlegal
  · rw [List.countP_cons_of_neg (by simpa using htype)]
    exact h.bounded udid type

theorem Inv.entry (h : Inv s) (hne : s.conns udid ≠ []) :
    ∃ info, s.udidMap udid = some info ∧ info.Counts (s.conns udid) := by
  have hcounts := h.counts udid
  cases hinfo : s.udidMap udid with
  | none =>
    rw [hinfo] at hcounts
    exact absurd hcounts hne
  | some info =>
    rw [hinfo] at hcounts
    exact ⟨info, rfl, hcounts⟩

theorem lnnAddOnlineNode_offline (h : Inv s) (hnil : s.conns udid = []) (info : NodeInfo) :
    s.lnnAddOnlineNode udid info = (.online, { info with status := true }) := by
  have hcounts := h.counts udid
  unfold lnnAddOnlineNode
  cases hold : s.udidMap udid with
  | none => rfl
  | some oldInfo =>
    rw [hold] at hcounts
    have hstatus : oldInfo.status = false := by
      rw [Bool.eq_false_iff]
      exact fun htrue => hcounts.status.mp htrue hnil
    dsimp only
    rw [hstatus]
    rfl

theorem lnnAddOnlineNode_online (h : Inv s) (hne : s.conns udid ≠ []) (networkId : String) (c : LnnConn) :
    ∃ oldInfo, s.udidMap udid = some oldInfo ∧
      (s.lnnAddOnlineNode udid (.lnnFillConnInfo networkId c)).2 = oldInfo.merged networkId c ∧
      (s.lnnAddOnlineNode udid (.lnnFillConnInfo networkId c)).1 ≠ .online ∧
      (s.lnnAddOnlineNode udid (.lnnFillConnInfo networkId c)).1 ≠ .offline := by
  obtain ⟨oldInfo, hold, hcounts⟩ := h.entry hne
  refine ⟨oldInfo, hold, ?_⟩
  unfold lnnAddOnlineNode
  rw [hold]
  dsimp only
  rw [hcounts.status.mpr hne]
  refine ⟨rfl, ?_⟩
  by_cases hchange : (NodeInfo.lnnFillConnInfo networkId c).networkId ≠ oldInfo.networkId <;> simp [hchange]

section
variable {info : NodeInfo} {c : LnnConn} {rest : List LnnConn}

theorem hasDiscoveryType_wifi {conns : List LnnConn} (hcounts : info.Counts conns) (hmem : c ∈ conns)
    (h : info.KeepsAuthId c) : info.hasDiscoveryType .wifi = true :=
  (hcounts.discovery _).mpr ⟨c, hmem, congrArg _ h.1⟩

theorem lnnSetNodeOffline_keeps (hinfo : s.udidMap udid = some info) (hcounts : info.Counts (s.conns udid))
    (hmem : c ∈ s.conns udid) (h : info.KeepsAuthId c) : s.lnnSetNodeOffline udid c.type c.authId =
      (.none, some
        { info with
          relation := Function.update info.relation c.type (info.relation c.type - 1)
          authChannelId := Function.update info.authChannelId c.type (info.leftIds c) }) := by
  unfold lnnSetNodeOffline
  rw [hinfo]
  dsimp only
  rw [if_pos (hcounts.relation_pos (List.perm_cons_erase hmem))]
  have hwifi := hasDiscoveryType_wifi hcounts hmem h
  rw [NodeInfo.clearAuthChannelId_keeps
    { info with relation := Function.update info.relation c.type (info.relation c.type - 1) } hwifi h]
  rfl

def leaving (info : NodeInfo) (c : LnnConn) : NodeInfo where
  networkId := info.networkId
  status := info.status
  discoveryType := info.discoveryType &&& ~~~ BitVec.twoPow 32 c.type.discType.bit
  authChannelId := Function.update info.authChannelId c.type fun _ => 0
  relation := Function.update info.relation c.type (info.relation c.type - 1)

theorem lnnSetNodeOffline_clears (hinfo : s.udidMap udid = some info) (hcounts : info.Counts (s.conns udid))
    (hmem : c ∈ s.conns udid) (h : ¬ info.KeepsAuthId c) : s.lnnSetNodeOffline udid c.type c.authId =
      if (leaving info c).discoveryType ≠ 0 then (.none, some (leaving info c))
      else (.offline, some { leaving info c with status := false }) := by
  unfold lnnSetNodeOffline
  rw [hinfo]
  dsimp only
  rw [if_pos (hcounts.relation_pos (List.perm_cons_erase hmem))]
  rw [NodeInfo.clearAuthChannelId_clears
    { info with relation := Function.update info.relation c.type (info.relation c.type - 1) } h]
  have hstatus : info.status = true := hcounts.status.mpr (List.ne_nil_of_mem hmem)
  dsimp only [NodeInfo.setAuthChannelId, NodeInfo.clearDiscoveryType, leaving]
  rw [if_neg (fun h => nomatch h), hstatus]
  rfl

theorem counts_keeps (hcounts : info.Counts (s.conns udid)) (howned : info.Owned (s.conns udid))
    (hmem : c ∈ s.conns udid) (h : info.KeepsAuthId c) :
    NodeInfo.Counts
      { info with
        relation := Function.update info.relation c.type (info.relation c.type - 1)
        authChannelId := Function.update info.authChannelId c.type (info.leftIds c) } ((s.conns udid).erase c) := by
  have hperm := List.perm_cons_erase hmem
  -- the connection that has the auth id that is left
  obtain ⟨hwifi, side, hid, hne⟩ := h
  obtain ⟨c', hmem', htype, hauth⟩ := howned c.type side hid
  have hrest : c' ∈ (s.conns udid).erase c := by
    refine (List.mem_cons.mp (hperm.mem_iff.mp hmem')).resolve_left fun heq => hne ?_
    rw [← hauth, heq]
  refine ⟨hcounts.relation_dec hperm, fun i => ?_, ?_⟩
  · change info.discoveryType.getLsbD i = true ↔ _
    rw [hcounts.discovery]
    constructor
    · rintro ⟨d, hd, hbit⟩
      rcases List.mem_cons.mp (hperm.mem_iff.mp hd) with rfl | hd
      · exact ⟨c', hrest, by rw [htype, hbit]⟩
      · exact ⟨d, hd, hbit⟩
    · rintro ⟨d, hd, hbit⟩
      exact ⟨d, List.mem_of_mem_erase hd, hbit⟩
  · exact ⟨fun _ => List.ne_nil_of_mem hrest, fun _ => hcounts.status.mpr (List.ne_nil_of_mem hmem)⟩

theorem getLsbD_leaving (i : Nat) :
    (leaving info c).discoveryType.getLsbD i = true ↔ info.discoveryType.getLsbD i = true ∧ c.type.discType.bit ≠ i := by
  change (info.discoveryType &&& ~~~ BitVec.twoPow 32 c.type.discType.bit).getLsbD i = true ↔ _
  rw [BitVec.getLsbD_and, Bool.and_eq_true, ne_eq, ← NodeInfo.getLsbD_bit]
  refine and_congr_right fun hbit => ?_
  simp [BitVec.lt_of_getLsbD hbit]

theorem bit_injective {type type' : DiscoveryType} (h : type.bit = type'.bit) : type = type' := by
  cases type <;> cases type' <;> first | rfl | exact nomatch h

theorem discovery_leaving (hcounts : info.Counts (s.conns udid)) (hmem : c ∈ s.conns udid)
    (halone : ∀ c' ∈ (s.conns udid).erase c, c'.type.discType ≠ c.type.discType) (i : Nat) :
    (leaving info c).discoveryType.getLsbD i = true ↔ ∃ c' ∈ (s.conns udid).erase c, c'.type.discType.bit = i := by
  rw [getLsbD_leaving, hcounts.discovery]
  constructor
  · rintro ⟨⟨c', hmem', hbit⟩, hne⟩
    rcases List.mem_cons.mp ((List.perm_cons_erase hmem).mem_iff.mp hmem') with rfl | hmem'
    · exact absurd hbit hne
    · exact ⟨c', hmem', hbit⟩
  · rintro ⟨c', hmem', hbit⟩
    refine ⟨⟨c', List.mem_of_mem_erase hmem', hbit⟩, fun heq => halone c' hmem' (bit_injective ?_)⟩
    rw [hbit, heq]

def Leaves (report : ReportCategory) (entry : Option NodeInfo) (conns : List LnnConn) : Prop :=
  ∃ info, entry = some info ∧ info.Counts conns ∧ info.Owned conns ∧ report ≠ .online ∧ (report = .offline ↔ conns = [])

theorem leaves_offline (h : Inv s) (hmem : c ∈ s.conns udid) (hgood : s.GoodStep (.offline udid c)) :
    Leaves (s.lnnSetNodeOffline udid c.type c.authId).1 (s.lnnSetNodeOffline udid c.type c.authId).2
      ((s.conns udid).erase c) := by
  have hperm := List.perm_cons_erase hmem
  obtain ⟨info, hinfo, hcounts⟩ := h.entry (List.ne_nil_of_mem hmem)
  have howned := h.owned udid info hinfo
  by_cases hkeeps : info.KeepsAuthId c
  · have hrest := counts_keeps hcounts howned hmem hkeeps
    rw [lnnSetNodeOffline_keeps hinfo hcounts hmem hkeeps]
    refine ⟨_, rfl, hrest, howned.leftIds hperm, (fun h => nomatch h), (fun h => nomatch h), fun hnil => ?_⟩
    exact absurd hnil (hrest.status.mp (hcounts.status.mpr (List.ne_nil_of_mem hmem)))
  · have halone : ∀ c' ∈ (s.conns udid).erase c, c'.type.discType ≠ c.type.discType := by
      intro c' hmem' heq
      obtain ⟨info', hinfo', hkeeps'⟩ := hgood ⟨c', hmem', heq⟩
      rw [Option.mem_def, hinfo, Option.some_inj] at hinfo'
      exact hkeeps (hinfo' ▸ hkeeps')
    have hbits := discovery_leaving hcounts hmem halone
    have hzero := NodeInfo.Counts.discoveryType_eq_zero hbits
    have hstatus : info.status = true := hcounts.status.mpr (List.ne_nil_of_mem hmem)
    rw [lnnSetNodeOffline_clears hinfo hcounts hmem hkeeps]
    by_cases hnil : (s.conns udid).erase c = []
    · rw [if_neg (not_not.mpr (hzero.mpr hnil))]
      refine ⟨_, rfl, ⟨hcounts.relation_dec hperm, hbits, ?_⟩, howned.cleared hperm, (fun h => nomatch h),
        fun _ => hnil, fun _ => rfl⟩
      exact ⟨(fun h => nomatch h), fun hne => absurd hnil hne⟩
    · rw [if_pos (hzero.not.mpr hnil)]
      exact ⟨_, rfl, ⟨hcounts.relation_dec hperm, hbits, fun _ => hnil, fun _ => hstatus⟩, howned.cleared hperm,
        (fun h => nomatch h), (fun h => nomatch h), fun h => absurd h hnil⟩

theorem not_counts_offline (h : Inv s) (hmem : c ∈ s.conns udid) (hbad : ¬ s.GoodStep (.offline udid c)) :
    ¬ Counts (s.lnnSetNodeOffline udid c.type c.authId).2 ((s.conns udid).erase c) := by
  obtain ⟨info, hinfo, hcounts⟩ := h.entry (List.ne_nil_of_mem hmem)
  rw [GoodStep, Classical.not_imp] at hbad
  obtain ⟨⟨c', hmem', heq⟩, hkeeps⟩ := hbad
  have hclears : ¬ info.KeepsAuthId c := fun hk => hkeeps ⟨info, hinfo, hk⟩
  have hbit : ¬ (leaving info c).discoveryType.getLsbD c.type.discType.bit = true := by
    rw [getLsbD_leaving]
    exact fun h => h.2 rfl
  have hneed : ∃ d ∈ (s.conns udid).erase c, d.type.discType.bit = c.type.discType.bit := ⟨c', hmem', congrArg _ heq⟩
  rw [lnnSetNodeOffline_clears hinfo hcounts hmem hclears]
  split
  · exact fun hc => hbit ((hc.discovery _).mpr hneed)
  · exact fun hc => hbit ((hc.discovery _).mpr hneed)

end

theorem adds_online (h : Inv s) {networkId : String} {c : LnnConn} (hlegal : s.Legal (.online udid networkId c)) :
    ∃ info, (s.lnnAddOnlineNode udid (.lnnFillConnInfo networkId c)).2 = info ∧
      info.Counts (c :: s.conns udid) ∧ info.Owned (c :: s.conns udid) ∧
      (s.lnnAddOnlineNode udid (.lnnFillConnInfo networkId c)).1 ≠ .offline ∧
      ((s.lnnAddOnlineNode udid (.lnnFillConnInfo networkId c)).1 = .online ↔ s.conns udid = []) := by
  by_cases hnil : s.conns udid = []
  · rw [lnnAddOnlineNode_offline h hnil, hnil]
    exact ⟨_, rfl, NodeInfo.counts_fill networkId c, NodeInfo.owned_fill networkId c, (fun h => nomatch h),
      fun _ => rfl, fun _ => rfl⟩
  · obtain ⟨oldInfo, hold, hentry, honline, hoffline⟩ := lnnAddOnlineNode_online h hnil networkId c
    have hcounts := h.counts udid
    rw [hold] at hcounts
    refine ⟨_, hentry, hcounts.merged networkId (hlegal.bounded h), (h.owned udid oldInfo hold).merged networkId, hoffline, ?_⟩
    exact ⟨fun h => absurd h honline, fun h => absurd h hnil⟩

/-! ## Runs -/

theorem Inv.update (h : Inv s) {info : NodeInfo} {conns : List LnnConn} (hcounts : info.Counts conns)
    (hbounded : ∀ type, conns.countP (·.type = type) ≤ 3) (howned : info.Owned conns) :
    Inv ⟨Function.update s.udidMap udid (some info), Function.update s.conns udid conns⟩ := by
  constructor
  · intro udid'
    by_cases hudid : udid' = udid
    · subst hudid
      dsimp only
      rw [Function.update_self, Function.update_self]
      exact hcounts
    · simpa only [Function.update_of_ne hudid] using h.counts udid'
  · intro udid'
    by_cases hudid : udid' = udid
    · subst hudid
      simpa only [Function.update_self] using hbounded
    · simpa only [Function.update_of_ne hudid] using h.bounded udid'
  · intro udid'
    by_cases hudid : udid' = udid
    · subst hudid
      simpa [Function.update_self] using howned
    · simpa only [Function.update_of_ne hudid] using h.owned udid'

theorem Inv.step (s : NetLedger) (e : LedgerEvent) (h : Inv s) (hlegal : s.Legal e) (hgood : s.GoodStep e) :
    Inv (s.step e) ∧ s.Right e := by
  cases e with
  | online udid networkId c =>
    obtain ⟨info, hentry, hcounts, howned, hoffline, honline⟩ := adds_online h hlegal
    have hinv : Inv (s.step (.online udid networkId c)) := by
      rw [NetLedger.step, hentry]
      exact h.update hcounts (hlegal.bounded h) howned
    exact ⟨hinv, hinv.counts, honline, fun h => absurd h hoffline, False.elim⟩
  | offline udid c =>
    obtain ⟨info, hentry, hcounts, howned, honline, hoffline⟩ := leaves_offline h hlegal hgood
    have hinv : Inv (s.step (.offline udid c)) := by
      rw [NetLedger.step, hentry]
      refine h.update hcounts (fun type => ?_) howned
      exact Nat.le_trans List.erase_sublist.countP_le (h.bounded udid type)
    exact ⟨hinv, hinv.counts, ⟨fun h => absurd h honline, False.elim⟩, hoffline⟩

theorem Right.goodStep {e : LedgerEvent} (h : Inv s) (hlegal : s.Legal e) (hright : s.Right e) : s.GoodStep e := by
  cases e with
  | online udid networkId c => trivial
  | offline udid c =>
    by_contra hbad
    have hcounts := hright.counts udid
    rw [NetLedger.step] at hcounts
    simp only [Function.update_self] at hcounts
    exact not_counts_offline h hlegal hbad hcounts

/-- In every run of connections that come and go, all is right exactly when every step is good. -/
theorem ledger_counts_connections (l : List LedgerEvent) (hlegal : Run.Always step Legal {} l) :
    Run.Always step Right {} l ↔ Run.Always step GoodStep {} l := by
  have hiff := Run.always_iff_of_inv
    (P := fun s e => Legal s e ∧ Right s e) (Q := fun s e => Legal s e ∧ GoodStep s e)
    (fun s e hinv => and_congr_right fun hl => ⟨Right.goodStep hinv hl, fun hg => (Inv.step s e hinv hl hg).2⟩)
    (fun s e hinv hp => (Inv.step s e hinv hp.1 (hp.2.goodStep hinv hp.1)).1) Inv.init l
  rw [Run.always_and, Run.always_and] at hiff
  exact ⟨fun h => (hiff.mp ⟨hlegal, h⟩).2, fun h => (hiff.mpr ⟨hlegal, h⟩).2⟩

instance (info : NodeInfo) (c : LnnConn) : Decidable (info.KeepsAuthId c) :=
  @instDecidableAnd _ _ _ (decidable_of_iff
    ((info.authChannelId c.type .client ≠ 0 ∧ info.authChannelId c.type .client ≠ c.authId) ∨
      info.authChannelId c.type .server ≠ 0 ∧ info.authChannelId c.type .server ≠ c.authId)
    ⟨fun h => h.elim (fun h => ⟨.client, h⟩) fun h => ⟨.server, h⟩, fun
      | ⟨.client, h⟩ => .inl h
      | ⟨.server, h⟩ => .inr h⟩)

instance (s : NetLedger) : (e : LedgerEvent) → Decidable (s.GoodStep e)
  | .online _ _ _ => .isTrue trivial
  | .offline udid c => inferInstanceAs (Decidable ((∃ c' ∈ (s.conns udid).erase c, c'.type.discType = c.type.discType) →
      ∃ info ∈ s.udidMap udid, info.KeepsAuthId c))

instance (s : NetLedger) : (e : LedgerEvent) → Decidable (s.Legal e)
  | .online udid _ c => inferInstanceAs (Decidable ((s.conns udid).countP (·.type = c.type) < lnnRelationMask.toNat))
  | .offline udid c => inferInstanceAs (Decidable (c ∈ s.conns udid))

end NetLedger

def ledgerEvents : List LedgerEvent :=
  [.online "tv" "n1" ⟨.wlan, .client, 11⟩, .online "tv" "n1" ⟨.ble, .server, 12⟩, .online "tv" "n1" ⟨.wlan, .server, 13⟩,
    .offline "tv" ⟨.wlan, .client, 11⟩, .offline "tv" ⟨.wlan, .server, 13⟩, .offline "tv" ⟨.ble, .server, 12⟩]

open NetLedger in
theorem ledger_counts_connections_two_wlan : Run.Always step Right {} ledgerEvents :=
  (ledger_counts_connections ledgerEvents (by decide +kernel)).mpr (by decide +kernel)

def wlanGoesEvents : List LedgerEvent :=
  [.online "tv" "n1" ⟨.wlan, .client, 11⟩, .online "tv" "n1" ⟨.eth, .client, 12⟩, .offline "tv" ⟨.wlan, .client, 11⟩]

def bleGoesEvents : List LedgerEvent :=
  [.online "tv" "n1" ⟨.ble, .client, 11⟩, .online "tv" "n1" ⟨.ble, .server, 12⟩, .offline "tv" ⟨.ble, .client, 11⟩]

open NetLedger in
/-- It is reported as offline with one connection left. -/
theorem ledger_forgets_connection :
    (Run.Always step Legal {} wlanGoesEvents ∧ ¬ Run.Always step Right {} wlanGoesEvents) ∧
    Run.Always step Legal {} bleGoesEvents ∧ ¬ Run.Always step Right {} bleGoesEvents := by
  refine ⟨⟨by decide +kernel, fun h => ?_⟩, by decide +kernel, fun h => ?_⟩
  · exact absurd (h.2.2.1.offline.mp (by decide +kernel)) (List.cons_ne_nil _ _)
  · exact absurd (h.2.2.1.offline.mp (by decide +kernel)) (List.cons_ne_nil _ _)

end SoftBus
