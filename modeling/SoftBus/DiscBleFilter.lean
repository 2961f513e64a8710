import SoftBus.DiscBleRegister
import SoftBus.DiscBleUtils

/-!
# What a found device is reported with

`ProcessDisNonPacket` of `disc_ble.c`: of the capabilities in an advertisement those that are looked for are reported, if
the account of the device is right. The bits of an advertisement and of the registers are not those of a report.
-/

namespace SoftBus

/-- What the ledger says of the own account: `DiscBleGetShortUserIdHash` and `LnnIsDefaultOhosAccount`. -/
structure LocalAccount where
  shortUserIdHash : Option (List UInt8)
  isDefaultOhosAccount : Bool
deriving DecidableEq

def bleTransCapabilityMap : Nat → Option Nat
  | 1 => some 3
  | 2 => some 5
  | 4 => some 7
  | _ => none

def deConvertBitMap (srcCap : BitVec 32) : BitVec 32 :=
  (List.range capabilityMaxBitnum).foldl
    (fun dstCap i =>
      if !srcCap.getLsbD i then dstCap
      else
        match bleTransCapabilityMap i with
        | some bleCapability => dstCap ||| BitVec.twoPow 32 bleCapability
        | none => dstCap)
    0

/-- The two registers of what is looked for. -/
structure SubscribeRegisters where
  active : DiscBleInfo
  passive : DiscBleInfo

namespace SubscribeRegisters

variable (g : SubscribeRegisters)

def marked (pos : Nat) : Bool := g.active.isSameAccount pos || g.passive.isSameAccount pos

/-- Every turn of the loop returns but those that skip a capability. -/
def processHashAccount (account : LocalAccount) (capabilityBitmap : BitVec 32) (accountHash : List UInt8) : Bool :=
  match (List.range capabilityMaxBitnum).find? fun pos => capabilityBitmap.getLsbD pos with
  | none => false
  | some pos =>
    if !g.marked pos then true
    else
      match account.shortUserIdHash with
      | none => false
      | some accountIdHash =>
        if account.isDefaultOhosAccount then false else accountIdHash.take 2 = accountHash.take 2

def subscribeCap : BitVec 32 := g.active.capBitMap ||| g.passive.capBitMap

/-- The check before the account. The comparison binds more tightly than the `&` in it. -/
def capMismatch (capabilityBitmap : BitVec 32) : Bool := g.subscribeCap &&& (if capabilityBitmap = 0 then 1 else 0) ≠ 0

/-- The capabilities that the device is reported with, if it is. The address is always converted and ranging does not
fail. -/
def processDisNonPacket (custJson : CustJson) (account : LocalAccount) (reportInfo : BroadcastPacket) :
    Option (BitVec 32) :=
  match getDeviceInfoFromDisAdvData custJson .found reportInfo with
  | .error _ => none
  | .ok foundInfo =>
    let capabilityBitmap := foundInfo.capabilityBitmap.toBitVec
    if g.capMismatch capabilityBitmap then none
    else
      let capabilityBitmap := g.subscribeCap &&& capabilityBitmap
      if !g.processHashAccount account capabilityBitmap foundInfo.accountHash then none
      else
        let tempCap := deConvertBitMap capabilityBitmap
        if tempCap = 0 then none else some tempCap

end SubscribeRegisters

/-! ## The bits of a report -/

theorem bleTransCapabilityMap_eq_some {i p : Nat} :
    bleTransCapabilityMap i = some p ↔ (i = 1 ∧ p = 3) ∨ (i = 2 ∧ p = 5) ∨ (i = 4 ∧ p = 7) := by
  unfold bleTransCapabilityMap
  split <;> simp_all <;> omega

theorem bleTransCapabilityMap_injective {i j p : Nat} (hi : bleTransCapabilityMap i = some p)
    (hj : bleTransCapabilityMap j = some p) : i = j := by
  have hi := bleTransCapabilityMap_eq_some.mp hi
  have hj := bleTransCapabilityMap_eq_some.mp hj
  omega

theorem getLsbD_deConvertBitMap (srcCap : BitVec 32) (p : Nat) :
    (deConvertBitMap srcCap).getLsbD p = true ↔ ∃ i, bleTransCapabilityMap i = some p ∧ srcCap.getLsbD i = true := by
  have hloop : ∀ (l : List Nat) (dstCap : BitVec 32),
      (l.foldl (fun dstCap i =>
        if !srcCap.getLsbD i then dstCap
        else
          match bleTransCapabilityMap i with
          | some bleCapability => dstCap ||| BitVec.twoPow 32 bleCapability
          | none => dstCap) dstCap).getLsbD p = true ↔
        dstCap.getLsbD p = true ∨ ∃ i ∈ l, bleTransCapabilityMap i = some p ∧ srcCap.getLsbD i = true := by
    intro l
    induction l with
    | nil => simp
    | cons i l ih =>
      intro dstCap
      rw [List.foldl_cons, ih]
      simp only [List.mem_cons, exists_eq_or_imp]
      cases hsrc : srcCap.getLsbD i with
      | false => simp
      | true =>
        cases hmap : bleTransCapabilityMap i with
        | none => simp
        | some c =>
          have hc : c < 32 := by
            have := bleTransCapabilityMap_eq_some.mp hmap
            omega
          simp [BitVec.getLsbD_twoPow, hc, or_assoc]
  rw [deConvertBitMap, hloop]
  simp only [BitVec.ofNat_eq_ofNat, BitVec.getLsbD_zero, Bool.false_eq_true, false_or]
  refine exists_congr fun i => and_iff_right_of_imp fun h => List.mem_range.mpr ?_
  have hi := bleTransCapabilityMap_eq_some.mp h.1
  simp only [capabilityMaxBitnum]
  omega

namespace SubscribeRegisters

variable {custJson : CustJson} {g : SubscribeRegisters} {account : LocalAccount} {reportInfo : BroadcastPacket}
  {foundInfo : DeviceWrapper}

/-- The device has the own account, which is not the default one. -/
def SameAccount (account : LocalAccount) (foundInfo : DeviceWrapper) : Prop :=
  account.isDefaultOhosAccount = false ∧
    ∃ accountIdHash, account.shortUserIdHash = some accountIdHash ∧ accountIdHash.take 2 = foundInfo.accountHash.take 2

/-- Advertised and looked for. -/
def Wanted (g : SubscribeRegisters) (foundInfo : DeviceWrapper) (i : Nat) : Prop :=
  foundInfo.capabilityBitmap.toBitVec.getLsbD i = true ∧
    (g.active.capBitMap.getLsbD i = true ∨ g.passive.capBitMap.getLsbD i = true)

theorem least_unique {P : Nat → Prop} {a b : Nat} (ha : P a) (hleast : ∀ j < a, ¬ P j) (hb : P b)
    (hleast' : ∀ j < b, ¬ P j) : a = b := by
  refine le_antisymm (Nat.le_of_not_lt fun hlt => ?_) (Nat.le_of_not_lt fun hlt => ?_)
  · exact hleast b hlt hb
  · exact hleast' a hlt ha

theorem wanted_iff (i : Nat) :
    (g.subscribeCap &&& foundInfo.capabilityBitmap.toBitVec).getLsbD i = true ↔ g.Wanted foundInfo i := by
  simp [subscribeCap, Wanted, and_comm]

/-- The first capability decides. -/
theorem processHashAccount_iff :
    g.processHashAccount account (g.subscribeCap &&& foundInfo.capabilityBitmap.toBitVec) foundInfo.accountHash = true ↔
      ∃ first < capabilityMaxBitnum, (g.Wanted foundInfo first ∧ ∀ i < first, ¬ g.Wanted foundInfo i) ∧
        (g.marked first = false ∨ SameAccount account foundInfo) := by
  have hfirst : ∀ first, (List.range capabilityMaxBitnum).find?
      (fun pos => (g.subscribeCap &&& foundInfo.capabilityBitmap.toBitVec).getLsbD pos) = some first ↔
        first < capabilityMaxBitnum ∧ g.Wanted foundInfo first ∧ ∀ i < first, ¬ g.Wanted foundInfo i := by
    intro first
    rw [List.find?_range_eq_some, List.mem_range, wanted_iff, and_left_comm]
    simp only [Bool.not_eq_true', ← Bool.not_eq_true, wanted_iff]
  unfold processHashAccount
  split
  case h_1 hnone =>
    simp only [Bool.false_eq_true, false_iff]
    rintro ⟨first, hlt, hfst, -⟩
    rw [(hfirst first).mpr ⟨hlt, hfst⟩] at hnone
    nomatch hnone
  case h_2 pos hpos =>
    have hunique : ∀ first, first < capabilityMaxBitnum ∧ (g.Wanted foundInfo first ∧ ∀ i < first, ¬ g.Wanted foundInfo i) ↔
        first = pos := by
      intro first
      rw [← hfirst, hpos]
      exact ⟨fun h => (Option.some.inj h).symm, fun h => congrArg some h.symm⟩
    have hpos' := (hunique pos).mpr rfl
    have hright : (∃ first < capabilityMaxBitnum, (g.Wanted foundInfo first ∧ ∀ i < first, ¬ g.Wanted foundInfo i) ∧
        (g.marked first = false ∨ SameAccount account foundInfo)) ↔
          (g.marked pos = false ∨ SameAccount account foundInfo) := by
      constructor
      · rintro ⟨first, hlt, hfst, h⟩
        rwa [(hunique first).mp ⟨hlt, hfst⟩] at h
      · exact fun h => ⟨pos, hpos'.1, hpos'.2, h⟩
    rw [hright, SameAccount]
    cases g.marked pos <;> cases account.shortUserIdHash <;> cases account.isDefaultOhosAccount <;> simp

theorem reports_iff (hfound : getDeviceInfoFromDisAdvData custJson .found reportInfo = .ok foundInfo) (p : Nat) :
    (∃ report, g.processDisNonPacket custJson account reportInfo = some report ∧ report.getLsbD p = true) ↔
      g.processHashAccount account (g.subscribeCap &&& foundInfo.capabilityBitmap.toBitVec) foundInfo.accountHash = true ∧
        ∃ i, bleTransCapabilityMap i = some p ∧ g.Wanted foundInfo i := by
  have hbits := getLsbD_deConvertBitMap (g.subscribeCap &&& foundInfo.capabilityBitmap.toBitVec) p
  simp only [wanted_iff] at hbits
  rw [processDisNonPacket, hfound, ← hbits]
  dsimp only
  cases hmismatch : g.capMismatch foundInfo.capabilityBitmap.toBitVec with
  | true =>
    -- nothing is advertised, so nothing is wanted
    have hzero : foundInfo.capabilityBitmap.toBitVec = 0 := by
      by_contra hne
      rw [capMismatch, if_neg hne] at hmismatch
      simp at hmismatch
    simp only [if_true, reduceCtorEq, false_and, exists_const, false_iff, hbits]
    rintro ⟨-, i, -, hwanted, -⟩
    simp [hzero] at hwanted
  | false =>
    cases g.processHashAccount account (g.subscribeCap &&& foundInfo.capabilityBitmap.toBitVec)
      foundInfo.accountHash with
    | false => simp
    | true =>
      generalize deConvertBitMap (g.subscribeCap &&& foundInfo.capabilityBitmap.toBitVec) = tempCap
      by_cases hempty : tempCap = 0
      · simp [hempty]
      · simpa using fun _ => hempty

/-- The report is right exactly if the account is the own one, or if the capabilities that are reported are all
marked or all unmarked, as the first wanted one is. -/
theorem same_account_filter_iff (hfound : getDeviceInfoFromDisAdvData custJson .found reportInfo = .ok foundInfo) :
    (∀ p, (∃ report, g.processDisNonPacket custJson account reportInfo = some report ∧ report.getLsbD p = true) ↔
        ∃ i, bleTransCapabilityMap i = some p ∧ g.Wanted foundInfo i ∧
          ((g.active.isSameAccount i = false ∧ g.passive.isSameAccount i = false) ∨ SameAccount account foundInfo)) ↔
      SameAccount account foundInfo ∨
        ∀ first i, g.Wanted foundInfo first → (∀ j < first, ¬ g.Wanted foundInfo j) → g.Wanted foundInfo i →
          bleTransCapabilityMap i ≠ none → g.marked i = g.marked first := by
  have hunmarked : ∀ i, (g.active.isSameAccount i = false ∧ g.passive.isSameAccount i = false) ↔ g.marked i = false := by
    simp [marked]
  simp only [reports_iff hfound, hunmarked]
  -- a wanted capability that can be reported comes with a first one
  have hfirst : ∀ i, g.Wanted foundInfo i → bleTransCapabilityMap i ≠ none → ∃ first < capabilityMaxBitnum,
      g.Wanted foundInfo first ∧ ∀ j < first, ¬ g.Wanted foundInfo j := by
    classical
    intro i hi hmap
    obtain ⟨p, hp⟩ := Option.ne_none_iff_exists'.mp hmap
    have hle : Nat.find ⟨i, hi⟩ ≤ i := Nat.find_le hi
    have hcases := bleTransCapabilityMap_eq_some.mp hp
    exact ⟨Nat.find ⟨i, hi⟩, by simp only [capabilityMaxBitnum]; omega, Nat.find_spec ⟨i, hi⟩,
      fun j hj => Nat.find_min ⟨i, hi⟩ hj⟩
  rw [processHashAccount_iff]
  by_cases hsame : SameAccount account foundInfo
  · simp only [hsame, or_true, and_true, true_or, iff_true]
    intro p
    constructor
    · exact fun h => h.2
    · rintro ⟨i, hmap, hi⟩
      obtain ⟨first, hlt, hfst⟩ := hfirst i hi (by simp [hmap])
      exact ⟨⟨first, hlt, hfst⟩, i, hmap, hi⟩
  · simp only [hsame, or_false, false_or]
    constructor
    · intro h first i hfst hleast hi hmap
      obtain ⟨p, hp⟩ := Option.ne_none_iff_exists'.mp hmap
      obtain ⟨first', hlt', hfst', hleast'⟩ := hfirst i hi hmap
      obtain rfl := least_unique hfst hleast hfst' hleast'
      cases hmark : g.marked first with
      | false =>
        obtain ⟨i', hp', -, hi'⟩ := (h p).mp ⟨⟨first, hlt', ⟨hfst, hleast⟩, hmark⟩, i, hp, hi⟩
        rwa [bleTransCapabilityMap_injective hp hp']
      | true =>
        by_contra hi'
        obtain ⟨⟨first', -, ⟨hfst'', hleast''⟩, hmark'⟩, -⟩ := (h p).mpr ⟨i, hp, hi, by simpa using hi'⟩
        rw [least_unique hfst hleast hfst'' hleast'', hmark'] at hmark
        nomatch hmark
    · intro h p
      constructor
      · rintro ⟨⟨first, -, ⟨hfst, hleast⟩, hmark⟩, i, hp, hi⟩
        exact ⟨i, hp, hi, by rw [h first i hfst hleast hi (by simp [hp]), hmark]⟩
      · rintro ⟨i, hp, hi, hmark⟩
        obtain ⟨first, hlt, hfst, hleast⟩ := hfirst i hi (by simp [hp])
        exact ⟨⟨first, hlt, ⟨hfst, hleast⟩, by rw [← h first i hfst hleast hi (by simp [hp]), hmark]⟩, i, hp, hi⟩

/-- `castPlus` is looked for from all devices, and `dvKit` from those of the own account. -/
def mixedRegisters : SubscribeRegisters where
  active := { capBitMap := 0x06, isSameAccount := fun pos => pos = 2 }
  passive := {}

/-- The advertisement of a device with the account hash `1, 2`. -/
def advertisement (capability : UInt8) : BroadcastPacket := ⟨[4, 5, 0x10, 1, 2, capability, 0], []⟩

def advertiser (capability : UInt8) : DeviceWrapper :=
  { DeviceWrapper.found with
    accountHash := [1, 2] ++ List.replicate 94 0
    capabilityBitmap := capability.toUInt32 }

/-- Two capabilities are wanted of the device, both from all devices. -/
theorem unmarked_capability_reported :
    let g : SubscribeRegisters := ⟨{ capBitMap := 0x0e, isSameAccount := fun pos => pos = 2 }, {}⟩
    getDeviceInfoFromDisAdvData (fun _ => .error .err) .found (advertisement 10) = .ok (advertiser 10) ∧
      g.Wanted (advertiser 10) 1 ∧ g.Wanted (advertiser 10) 3 ∧
      ∀ p, (∃ report, g.processDisNonPacket (fun _ => .error .err) ⟨some [8, 9], false⟩ (advertisement 10) = some report ∧
          report.getLsbD p = true) ↔
        ∃ i, bleTransCapabilityMap i = some p ∧ g.Wanted (advertiser 10) i ∧
          ((g.active.isSameAccount i = false ∧ g.passive.isSameAccount i = false) ∨
            SameAccount ⟨some [8, 9], false⟩ (advertiser 10)) := by
  intro g
  have hbit : ∀ i < 32, (advertiser 10).capabilityBitmap.toBitVec.getLsbD i = true → g.marked i = false := by decide
  have hunmarked : ∀ i, g.Wanted (advertiser 10) i → g.marked i = false :=
    fun i hi => hbit i (BitVec.lt_of_getLsbD hi.1) hi.1
  refine ⟨rfl, ⟨rfl, by decide⟩, ⟨rfl, by decide⟩, (same_account_filter_iff rfl).mpr (.inr fun first i hfirst _ hi _ => ?_)⟩
  rw [hunmarked i hi, hunmarked first hfirst]

/-- `dvKit` is reported for a device of another account, because `castPlus` comes first. -/
theorem marked_capability_reported :
    mixedRegisters.processDisNonPacket (fun _ => .error .err) ⟨some [8, 9], false⟩ (advertisement 6) = some 0x28 ∧
      bleTransCapabilityMap 2 = some 5 ∧ (0x28#32).getLsbD 5 = true ∧ mixedRegisters.active.isSameAccount 2 = true ∧
      getDeviceInfoFromDisAdvData (fun _ => .error .err) .found (advertisement 6) = .ok (advertiser 6) ∧
      [8, 9] ≠ (advertiser 6).accountHash.take 2 := by
  refine ⟨?_, rfl, rfl, rfl, rfl, ?_⟩
  · decide +kernel
  · decide

end SubscribeRegisters

end SoftBus
