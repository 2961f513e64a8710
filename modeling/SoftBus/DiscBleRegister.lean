import SoftBus.DiscManager
import SoftBus.Lib.Run

/-!
# The BLE registers

`disc_ble.c` keeps what is published and looked for on BLE in registers with one slot for each capability. All
registrations of a capability share its slot, which holds what the last call wrote.

The live registrations stand beside a register; no function looks at them. Memory is always there.
-/

namespace SoftBus

structure PublishOption where
  freq : Int32
  capabilityBitmap : BitVec 32
  capabilityData : Option (List UInt8) := none
  dataLen : Nat := 0
  ranging : Bool := false
deriving DecidableEq

structure SubscribeOption where
  freq : Int32
  isSameAccount : Bool
  isWakeRemote : Bool
  capabilityBitmap : BitVec 32
  capabilityData : Option (List UInt8) := none
  dataLen : Nat := 0
deriving DecidableEq

inductive DiscBleOption where
  | publishOption (option : PublishOption)
  | subscribeOption (option : SubscribeOption)
deriving DecidableEq

structure BleOption where
  optionCapBitMap : BitVec 32
  custData : Option (List UInt8)
  custDataLen : Nat
  freq : Int32
  isSameAccount : Bool
  isWakeRemote : Bool
  ranging : Bool
deriving DecidableEq

/-- The bits 3, 5 and 7 stand for `castPlus`, `dvKit` and `osdCapability`. A map with more than one bit stays. -/
def convertCapBitMap (oldCap : BitVec 32) : BitVec 32 :=
  if oldCap = 1#32 <<< 7 then 0x10
  else if oldCap = 1#32 <<< 3 then 0x02
  else if oldCap = 1#32 <<< 5 then 0x04
  else oldCap

def getBleOption : DiscBleOption → BleOption
  | .publishOption option =>
    { optionCapBitMap := convertCapBitMap option.capabilityBitmap
      custDataLen := option.dataLen
      custData := option.capabilityData
      isSameAccount := false
      isWakeRemote := false
      freq := option.freq
      ranging := option.ranging }
  | .subscribeOption option =>
    { optionCapBitMap := convertCapBitMap option.capabilityBitmap
      custDataLen := option.dataLen
      custData := option.capabilityData
      isSameAccount := option.isSameAccount
      isWakeRemote := option.isWakeRemote
      freq := option.freq
      ranging := false }

structure DiscBleInfo where
  needUpdate : Bool := false
  capBitMap : BitVec 32 := 0
  capCount : Nat → Int16 := fun _ => 0
  capabilityData : Nat → Option (List UInt8) := fun _ => none
  capDataLen : Nat → Nat := fun _ => 0
  isSameAccount : Nat → Bool := fun _ => false
  isWakeRemote : Nat → Bool := fun _ => false
  freq : Nat → Int32 := fun _ => -1
  rangingRefCnt : Int := 0

namespace DiscBleInfo

open Function

variable (info : DiscBleInfo)

/-- The body of the loop up to the custom data. -/
def registerPos (option : BleOption) (pos : Nat) : DiscBleInfo :=
  let info :=
    if !info.capBitMap.getLsbD pos then
      { info with capBitMap := info.capBitMap ||| BitVec.twoPow 32 pos, needUpdate := true }
    else info
  { info with
    capCount := update info.capCount pos (info.capCount pos + 1)
    isSameAccount := update info.isSameAccount pos option.isSameAccount
    isWakeRemote := update info.isWakeRemote pos option.isWakeRemote
    freq := update info.freq pos option.freq
    capDataLen := update info.capDataLen pos 0 }

/-- Data that is too long ends the loop. -/
def registerLoop (option : BleOption) : List Nat → DiscBleInfo → SoftbusRet × DiscBleInfo
  | [], info => (.ok, info)
  | pos :: poss, info =>
    if !option.optionCapBitMap.getLsbD pos then registerLoop option poss info
    else
      let info := info.registerPos option pos
      match option.custData with
      | none => registerLoop option poss info
      | some custData =>
        if maxCapabilityDataLen < option.custDataLen then
          (.memErr, { info with capabilityData := update info.capabilityData pos none })
        else
          registerLoop option poss
            { info with
              capabilityData := update info.capabilityData pos (some (custData.take option.custDataLen))
              capDataLen := update info.capDataLen pos option.custDataLen }

def registerCapability (option : DiscBleOption) : SoftbusRet × DiscBleInfo :=
  let bleOption := getBleOption option
  match registerLoop bleOption (List.range capabilityMaxBitnum) info with
  | (.ok, info) =>
    (.ok, if bleOption.ranging then { info with rangingRefCnt := info.rangingRefCnt + 1, needUpdate := true } else info)
  | failed => failed

def unregisterPos (option : BleOption) (info : DiscBleInfo) (pos : Nat) : DiscBleInfo :=
  if !option.optionCapBitMap.getLsbD pos || !info.capBitMap.getLsbD pos then info
  else
    let info := { info with capCount := update info.capCount pos (info.capCount pos - 1) }
    let info :=
      if info.capCount pos = 0 then
        { info with
          capBitMap := info.capBitMap &&& ~~~ BitVec.twoPow 32 pos
          capabilityData := update info.capabilityData pos none
          capDataLen := update info.capDataLen pos 0
          needUpdate := true }
      else info
    { info with
      isSameAccount := update info.isSameAccount pos option.isSameAccount
      isWakeRemote := update info.isWakeRemote pos option.isWakeRemote
      freq := update info.freq pos (-1) }

def unregisterCapability (option : DiscBleOption) : DiscBleInfo :=
  let bleOption := getBleOption option
  let info := (List.range capabilityMaxBitnum).foldl (unregisterPos bleOption) info
  if bleOption.ranging ∧ 0 < info.rangingRefCnt then
    { info with rangingRefCnt := info.rangingRefCnt - 1, needUpdate := true }
  else info

end DiscBleInfo

/-- The frequency of the scanner, over all registers. -/
def getMaxExchangeFreq (bleInfoManager : List DiscBleInfo) : Int32 :=
  (List.range capabilityMaxBitnum).foldl
    (fun maxFreq pos => bleInfoManager.foldl (fun maxFreq info => max maxFreq (info.freq pos)) maxFreq) 0

/-! ## A register and its live registrations -/

structure BleRegister where
  info : DiscBleInfo := {}
  live : List DiscBleOption := []

inductive RegisterEvent where
  | register (option : DiscBleOption)
  -- of the live registration with this index
  | unregister (n : Nat)

def BleRegister.step (s : BleRegister) : RegisterEvent → BleRegister
  | .register option =>
    match s.info.registerCapability option with
    | (.ok, info) => ⟨info, option :: s.live⟩
    | (_, info) => { s with info }
  | .unregister n =>
    match s.live[n]? with
    | none => s
    | some option => ⟨s.info.unregisterCapability option, s.live.eraseIdx n⟩

/-- What one slot holds. -/
structure BleSlot where
  freq : Int32
  isSameAccount : Bool
  isWakeRemote : Bool

def DiscBleInfo.slot (info : DiscBleInfo) (pos : Nat) : BleSlot :=
  ⟨info.freq pos, info.isSameAccount pos, info.isWakeRemote pos⟩

namespace BleOption

variable (option : BleOption)

def has (pos : Nat) : Bool := option.optionCapBitMap.getLsbD pos

def slot : BleSlot := ⟨option.freq, option.isSameAccount, option.isWakeRemote⟩

/-- What is written when a registration goes. -/
def goneSlot : BleSlot := ⟨-1, option.isSameAccount, option.isWakeRemote⟩

/-- The custom data does not fit. -/
def tooLong : Bool := option.custData.isSome && maxCapabilityDataLen < option.custDataLen

end BleOption

/-- The slot suits the live registrations of the capability. -/
def Serves (live : List DiscBleOption) (pos : Nat) (slot : BleSlot) : Prop :=
  ∀ r ∈ live, (getBleOption r).has pos = true →
    (getBleOption r).freq ≤ slot.freq ∧
      (∃ r' ∈ live, (getBleOption r').has pos = true ∧ (getBleOption r').isSameAccount = slot.isSameAccount) ∧
      ∃ r' ∈ live, (getBleOption r').has pos = true ∧ (getBleOption r').isWakeRemote = slot.isWakeRemote

namespace BleRegister

/-- Every slot suits its live registrations, and those with ranging are counted. -/
structure Keeps (s : BleRegister) : Prop where
  slots : ∀ pos < capabilityMaxBitnum, Serves s.live pos (s.info.slot pos)
  ranging : s.info.rangingRefCnt = (s.live.countP fun r => (getBleOption r).ranging : Nat)

/-- A call that writes to the slot of a capability what does not suit its live registrations. -/
def Breaks (s : BleRegister) : RegisterEvent → Prop
  | .register option =>
    ∃ pos < capabilityMaxBitnum, (getBleOption option).has pos = true ∧
      if (getBleOption option).tooLong then
        -- the slot of the first capability is written, and the call fails
        (∀ pos' < pos, (getBleOption option).has pos' = false) ∧ ¬ Serves s.live pos (getBleOption option).slot
      else ∃ r ∈ s.live, (getBleOption r).has pos = true ∧ (getBleOption option).freq < (getBleOption r).freq
  | .unregister n =>
    ∃ option, s.live[n]? = some option ∧ ∃ pos < capabilityMaxBitnum, (getBleOption option).has pos = true ∧
      ¬ Serves (s.live.eraseIdx n) pos
        (if s.info.capBitMap.getLsbD pos then (getBleOption option).goneSlot else s.info.slot pos)

end BleRegister

/-! ## What a call writes -/

namespace DiscBleInfo

variable {info : DiscBleInfo} {option : BleOption} {pos pos' : Nat}

theorem slot_registerPos (info : DiscBleInfo) (option : BleOption) (pos' pos : Nat) :
    (info.registerPos option pos').slot pos = if pos = pos' then option.slot else info.slot pos := by
  unfold registerPos slot
  by_cases hpos : pos = pos'
  · subst hpos
    simp [BleOption.slot]
  · dsimp only
    split <;> simp [hpos]

theorem rangingRefCnt_registerPos (info : DiscBleInfo) (option : BleOption) (pos : Nat) :
    (info.registerPos option pos).rangingRefCnt = info.rangingRefCnt := by
  unfold registerPos
  dsimp only
  split <;> rfl

theorem registerLoop_of_tooLong (hlong : option.tooLong = true) : ∀ (poss : List Nat) (info : DiscBleInfo),
    (poss.find? option.has = none ∧ registerLoop option poss info = (.ok, info)) ∨
      ∃ first info', poss.find? option.has = some first ∧ registerLoop option poss info = (.memErr, info') ∧
        info'.rangingRefCnt = info.rangingRefCnt ∧
        ∀ pos, info'.slot pos = if pos = first then option.slot else info.slot pos
  | [], info => .inl ⟨rfl, rfl⟩
  | pos :: poss, info => by
    obtain ⟨hdata, hlen⟩ : option.custData.isSome = true ∧ maxCapabilityDataLen < option.custDataLen := by
      simpa [BleOption.tooLong] using hlong
    obtain ⟨custData, hcust⟩ := Option.isSome_iff_exists.mp hdata
    rw [List.find?_cons, registerLoop]
    cases hhas : option.has pos with
    | false =>
      rw [if_pos (by simpa [BleOption.has] using hhas)]
      exact registerLoop_of_tooLong hlong poss info
    | true =>
      rw [if_neg (by simpa [BleOption.has] using hhas), hcust]
      dsimp only
      rw [if_pos hlen]
      exact .inr ⟨pos, _, rfl, rfl, rangingRefCnt_registerPos info option pos, slot_registerPos info option pos⟩

theorem registerLoop_of_fits (hfits : option.tooLong = false) : ∀ (poss : List Nat) (info : DiscBleInfo),
    ∃ info', registerLoop option poss info = (.ok, info') ∧ info'.rangingRefCnt = info.rangingRefCnt ∧
      ∀ pos, info'.slot pos = if pos ∈ poss ∧ option.has pos then option.slot else info.slot pos
  | [], info => ⟨info, rfl, rfl, fun pos => by simp⟩
  | pos :: poss, info => by
    rw [registerLoop]
    cases hhas : option.has pos with
    | false =>
      rw [if_pos (by simpa [BleOption.has] using hhas)]
      obtain ⟨info', hloop, hranging, hslot⟩ := registerLoop_of_fits hfits poss info
      refine ⟨info', hloop, hranging, fun pos' => ?_⟩
      rw [hslot]
      by_cases hpos : pos' = pos
      · simp [hpos, hhas]
      · simp [hpos]
    | true =>
      rw [if_neg (by simpa [BleOption.has] using hhas)]
      -- the data does not change the slots
      have hnext : ∀ info' : DiscBleInfo, info'.rangingRefCnt = (info.registerPos option pos).rangingRefCnt →
          (∀ pos', info'.slot pos' = (info.registerPos option pos).slot pos') →
          ∃ info'', registerLoop option poss info' = (.ok, info'') ∧ info''.rangingRefCnt = info.rangingRefCnt ∧
            ∀ pos', info''.slot pos' =
              if pos' ∈ pos :: poss ∧ option.has pos' then option.slot else info.slot pos' := by
        intro info' hsame hslots
        obtain ⟨info'', hloop, hranging, hslot⟩ := registerLoop_of_fits hfits poss info'
        refine ⟨info'', hloop, by rw [hranging, hsame, rangingRefCnt_registerPos], fun pos' => ?_⟩
        rw [hslot, hslots, slot_registerPos]
        by_cases hpos : pos' = pos
        · simp [hpos, hhas]
        · simp [hpos]
      dsimp only
      split
      · exact hnext _ rfl fun _ => rfl
      case h_2 custData hcust =>
        have hlen : ¬ maxCapabilityDataLen < option.custDataLen := by
          simpa [BleOption.tooLong, hcust] using hfits
        rw [if_neg hlen]
        exact hnext _ rfl fun _ => rfl

theorem unregisterPos_eq (info : DiscBleInfo) (option : BleOption) (pos' : Nat) :
    (unregisterPos option info pos').rangingRefCnt = info.rangingRefCnt ∧
      (∀ pos, (unregisterPos option info pos').slot pos =
        if pos = pos' ∧ option.has pos ∧ info.capBitMap.getLsbD pos then option.goneSlot else info.slot pos) ∧
      ∀ pos, ¬ (pos = pos' ∧ option.has pos ∧ info.capBitMap.getLsbD pos) →
        (unregisterPos option info pos').capBitMap.getLsbD pos = info.capBitMap.getLsbD pos := by
  unfold unregisterPos
  split
  case isTrue hskip =>
    refine ⟨rfl, fun pos => ?_, fun _ _ => rfl⟩
    rw [if_neg]
    rintro ⟨rfl, hhas, hbit⟩
    rw [BleOption.has] at hhas
    simp [hhas, hbit] at hskip
  case isFalse hwrite =>
    have hwritten : option.has pos' = true ∧ info.capBitMap.getLsbD pos' = true := by
      simpa [BleOption.has] using hwrite
    refine ⟨?_, fun pos => ?_, fun pos hnot => ?_⟩
    · dsimp only
      split <;> rfl
    · by_cases hpos : pos = pos'
      · subst hpos
        rw [if_pos ⟨rfl, hwritten⟩]
        simp [slot, BleOption.goneSlot]
      · rw [if_neg fun h => hpos h.1]
        dsimp only [slot]
        split <;> simp [hpos]
    · have hne : pos' ≠ pos := fun heq => hnot (heq ▸ ⟨rfl, hwritten⟩)
      dsimp only
      split
      · simp only [BitVec.getLsbD_and, BitVec.getLsbD_not, BitVec.getLsbD_twoPow, hne, decide_false, Bool.and_false,
          Bool.not_false, Bool.and_true]
        cases hbit : info.capBitMap.getLsbD pos with
        | false => rfl
        | true => simpa using BitVec.lt_of_getLsbD hbit
      · rfl

theorem unregisterLoop_eq (option : BleOption) : ∀ (poss : List Nat) (info : DiscBleInfo),
    (poss.foldl (unregisterPos option) info).rangingRefCnt = info.rangingRefCnt ∧
      ∀ pos, (poss.foldl (unregisterPos option) info).slot pos =
        if pos ∈ poss ∧ option.has pos ∧ info.capBitMap.getLsbD pos then option.goneSlot else info.slot pos
  | [], info => ⟨rfl, fun pos => by simp⟩
  | pos' :: poss, info => by
    obtain ⟨hranging, hslot, hbit⟩ := unregisterPos_eq info option pos'
    obtain ⟨hranging', hslot'⟩ := unregisterLoop_eq option poss (unregisterPos option info pos')
    refine ⟨hranging'.trans hranging, fun pos => ?_⟩
    rw [List.foldl_cons, hslot', hslot]
    by_cases hwritten : pos = pos' ∧ option.has pos = true ∧ info.capBitMap.getLsbD pos = true
    · rw [if_pos hwritten, ite_self, if_pos ⟨hwritten.1 ▸ List.mem_cons_self, hwritten.2⟩]
    · rw [hbit pos hwritten, if_neg hwritten]
      refine if_congr ?_ rfl rfl
      rw [List.mem_cons]
      exact ⟨fun h => ⟨.inr h.1, h.2⟩, fun h => ⟨h.1.resolve_left fun heq => hwritten ⟨heq, h.2⟩, h.2⟩⟩

theorem slot_unregisterCapability (info : DiscBleInfo) (option : DiscBleOption) (hpos : pos < capabilityMaxBitnum) :
    (info.unregisterCapability option).slot pos =
      if (getBleOption option).has pos ∧ info.capBitMap.getLsbD pos then (getBleOption option).goneSlot
      else info.slot pos := by
  have hloop := (unregisterLoop_eq (getBleOption option) (List.range capabilityMaxBitnum) info).2 pos
  simp only [List.mem_range, hpos, true_and] at hloop
  rw [← hloop, unregisterCapability]
  split <;> rfl

theorem rangingRefCnt_unregisterCapability (info : DiscBleInfo) (option : DiscBleOption) :
    (info.unregisterCapability option).rangingRefCnt =
      if (getBleOption option).ranging ∧ 0 < info.rangingRefCnt then info.rangingRefCnt - 1
      else info.rangingRefCnt := by
  have hloop := (unregisterLoop_eq (getBleOption option) (List.range capabilityMaxBitnum) info).1
  rw [unregisterCapability, ← hloop]
  split <;> rfl

theorem registerCapability_cases (info : DiscBleInfo) (option : DiscBleOption) :
    ((getBleOption option).tooLong = true ∧ ∃ first info',
        (List.range capabilityMaxBitnum).find? (getBleOption option).has = some first ∧
        info.registerCapability option = (.memErr, info') ∧ info'.rangingRefCnt = info.rangingRefCnt ∧
        ∀ pos, info'.slot pos = if pos = first then (getBleOption option).slot else info.slot pos) ∨
      (((getBleOption option).tooLong = true → ∀ pos < capabilityMaxBitnum, (getBleOption option).has pos = false) ∧
        ∃ info', info.registerCapability option = (.ok, info') ∧
          info'.rangingRefCnt = info.rangingRefCnt + (if (getBleOption option).ranging then 1 else 0 : Nat) ∧
          ∀ pos < capabilityMaxBitnum, info'.slot pos =
            if (getBleOption option).has pos then (getBleOption option).slot else info.slot pos) := by
  generalize hopt : getBleOption option = bleOption
  have haccept : ∀ info', registerLoop bleOption (List.range capabilityMaxBitnum) info = (.ok, info') →
      info'.rangingRefCnt = info.rangingRefCnt →
      ∃ info'', info.registerCapability option = (.ok, info'') ∧
        info''.rangingRefCnt = info.rangingRefCnt + (if bleOption.ranging then 1 else 0 : Nat) ∧
        ∀ pos, info''.slot pos = info'.slot pos := by
    intro info' hloop hranging
    rw [registerCapability, hopt, hloop]
    dsimp only
    split
    · exact ⟨_, rfl, by simp [hranging], fun _ => rfl⟩
    · exact ⟨_, rfl, by simpa using hranging, fun _ => rfl⟩
  cases hlong : bleOption.tooLong with
  | true =>
    rcases registerLoop_of_tooLong hlong (List.range capabilityMaxBitnum) info with
      ⟨hfind, hloop⟩ | ⟨first, info', hfind, hloop, hranging, hslot⟩
    · have hnone : ∀ pos < capabilityMaxBitnum, bleOption.has pos = false := fun pos hpos => by
        simpa using List.find?_eq_none.mp hfind pos (List.mem_range.mpr hpos)
      obtain ⟨info', hrun, hranging, hslot⟩ := haccept info hloop rfl
      exact .inr ⟨fun _ => hnone, info', hrun, hranging, fun pos hpos => by simp [hslot, hnone pos hpos]⟩
    · exact .inl ⟨rfl, first, info', hfind, by rw [registerCapability, hopt, hloop], hranging, hslot⟩
  | false =>
    obtain ⟨info', hloop, hranging, hslot⟩ := registerLoop_of_fits hlong (List.range capabilityMaxBitnum) info
    obtain ⟨info'', hrun, hranging', hslot'⟩ := haccept info' hloop hranging
    refine .inr ⟨nofun, info'', hrun, hranging', fun pos hpos => ?_⟩
    rw [hslot', hslot]
    simp [hpos]

end DiscBleInfo

/-! ## Runs of a register -/

section
variable {live live' : List DiscBleOption} {pos : Nat} {slot : BleSlot}

theorem Serves.congr (h : ∀ r, (getBleOption r).has pos = true → (r ∈ live ↔ r ∈ live')) :
    Serves live pos slot ↔ Serves live' pos slot := by
  have hboth : ∀ P : DiscBleOption → Prop,
      (∃ r ∈ live, (getBleOption r).has pos = true ∧ P r) ↔ ∃ r ∈ live', (getBleOption r).has pos = true ∧ P r := by
    intro P
    constructor
    · rintro ⟨r, hr, hhas, hP⟩
      exact ⟨r, (h r hhas).mp hr, hhas, hP⟩
    · rintro ⟨r, hr, hhas, hP⟩
      exact ⟨r, (h r hhas).mpr hr, hhas, hP⟩
  simp only [Serves, hboth]
  exact ⟨fun hall r hr hhas => hall r ((h r hhas).mpr hr) hhas, fun hall r hr hhas => hall r ((h r hhas).mp hr) hhas⟩

/-- The newest registration asks for what its own call wrote. -/
theorem serves_cons_self {option : DiscBleOption} (hhas : (getBleOption option).has pos = true) :
    Serves (option :: live) pos (getBleOption option).slot ↔
      ∀ r ∈ live, (getBleOption r).has pos = true → (getBleOption r).freq ≤ (getBleOption option).freq := by
  constructor
  · exact fun h r hr hpos => (h r (List.mem_cons_of_mem _ hr) hpos).1
  · intro h r hr hpos
    refine ⟨?_, ⟨option, List.mem_cons_self, hhas, rfl⟩, option, List.mem_cons_self, hhas, rfl⟩
    rcases List.mem_cons.mp hr with rfl | hr
    · exact Int32.le_refl _
    · exact h r hr hpos

theorem serves_cons_of_not_has {option : DiscBleOption} (hhas : (getBleOption option).has pos = false) :
    Serves (option :: live) pos slot ↔ Serves live pos slot := by
  refine Serves.congr fun r hr => List.mem_cons.trans (or_iff_right ?_)
  rintro rfl
  simp [hhas] at hr

theorem perm_eraseIdx {n : Nat} {option : DiscBleOption} (hn : live[n]? = some option) :
    live.Perm (option :: live.eraseIdx n) := by
  obtain ⟨hlt, rfl⟩ := List.getElem?_eq_some_iff.mp hn
  exact (List.getElem_cons_eraseIdx_perm hlt).symm

end

namespace BleRegister

variable {s : BleRegister}

theorem keeps_init : Keeps {} := ⟨fun _ _ => nofun, rfl⟩

theorem keeps_register_iff (h : Keeps s) (option : DiscBleOption) :
    Keeps (s.step (.register option)) ↔ ¬ Breaks s (.register option) := by
  rcases s.info.registerCapability_cases option with
    ⟨hlong, first, info', hfind, hrun, hranging, hslot⟩ | ⟨hempty, info', hrun, hranging, hslot⟩
  · obtain ⟨hhas, hfirst, hleast⟩ := List.find?_range_eq_some.mp hfind
    have hfirst := List.mem_range.mp hfirst
    have hkeeps : Keeps (s.step (.register option)) ↔ Serves s.live first (getBleOption option).slot := by
      rw [step, hrun]
      constructor
      · intro hk
        simpa [hslot] using hk.slots first hfirst
      · refine fun hserves => ⟨fun pos hpos => ?_, hranging.trans h.ranging⟩
        dsimp only
        rw [hslot]
        by_cases hpos' : pos = first
        · rwa [if_pos hpos', hpos']
        · rw [if_neg hpos']
          exact h.slots pos hpos
    rw [hkeeps, ← not_iff_not, not_not, Breaks]
    constructor
    · exact fun hnot => ⟨first, hfirst, hhas, by
        rw [if_pos hlong]
        exact ⟨fun pos hpos => by simpa using hleast pos hpos, hnot⟩⟩
    · rintro ⟨pos, -, hpos, hwhy⟩
      rw [if_pos hlong] at hwhy
      obtain rfl : pos = first := by
        rcases Nat.lt_trichotomy pos first with hlt | heq | hgt
        · exact absurd hpos (by simpa using hleast pos hlt)
        · exact heq
        · exact absurd hhas (by simp [hwhy.1 first hgt])
      exact hwhy.2
  · have hkeeps : Keeps (s.step (.register option)) ↔ ∀ pos < capabilityMaxBitnum,
        (getBleOption option).has pos = true → ∀ r ∈ s.live, (getBleOption r).has pos = true →
          (getBleOption r).freq ≤ (getBleOption option).freq := by
      rw [step, hrun]
      constructor
      · intro hk pos hpos hhas
        refine (serves_cons_self hhas).mp ?_
        simpa [hslot pos hpos, hhas] using hk.slots pos hpos
      · refine fun hle => ⟨fun pos hpos => ?_, ?_⟩
        · dsimp only
          rw [hslot pos hpos]
          cases hhas : (getBleOption option).has pos with
          | true => simpa using (serves_cons_self hhas).mpr (hle pos hpos hhas)
          | false => exact (serves_cons_of_not_has hhas).mpr (h.slots pos hpos)
        · rw [List.countP_cons, hranging, h.ranging]
          rfl
    rw [hkeeps, ← not_iff_not, not_not, Breaks]
    have hfits : ∀ pos < capabilityMaxBitnum, (getBleOption option).has pos = true →
        (getBleOption option).tooLong = false := fun pos hpos hhas => by
      by_contra hlong
      simp [hempty (by simpa using hlong) pos hpos] at hhas
    simp only [not_forall, exists_prop]
    constructor
    · rintro ⟨pos, hpos, hhas, r, hr, hrpos, hlt⟩
      exact ⟨pos, hpos, hhas, by
        rw [if_neg (by simp [hfits pos hpos hhas])]
        exact ⟨r, hr, hrpos, Int32.not_le.mp hlt⟩⟩
    · rintro ⟨pos, hpos, hhas, hwhy⟩
      rw [if_neg (by simp [hfits pos hpos hhas])] at hwhy
      obtain ⟨r, hr, hrpos, hlt⟩ := hwhy
      exact ⟨pos, hpos, hhas, r, hr, hrpos, Int32.not_le.mpr hlt⟩

theorem keeps_unregister_iff (h : Keeps s) (n : Nat) :
    Keeps (s.step (.unregister n)) ↔ ¬ Breaks s (.unregister n) := by
  cases hn : s.live[n]? with
  | none => simp [step, Breaks, hn, h]
  | some option =>
    have hperm := perm_eraseIdx hn
    have href : (s.info.unregisterCapability option).rangingRefCnt =
        ((s.live.eraseIdx n).countP fun r => (getBleOption r).ranging : Nat) := by
      rw [DiscBleInfo.rangingRefCnt_unregisterCapability, h.ranging, hperm.countP_eq, List.countP_cons]
      cases (getBleOption option).ranging with
      | true => simp
      | false => rfl
    have hother : ∀ pos < capabilityMaxBitnum, (getBleOption option).has pos = false →
        Serves (s.live.eraseIdx n) pos (s.info.slot pos) := fun pos hpos hhas =>
      (serves_cons_of_not_has hhas).mp ((Serves.congr fun _ _ => hperm.mem_iff).mp (h.slots pos hpos))
    have hstep : s.step (.unregister n) = ⟨s.info.unregisterCapability option, s.live.eraseIdx n⟩ := by rw [step, hn]
    rw [hstep, Breaks]
    constructor
    · rintro hk ⟨option', hn', pos, hpos, hhas, hnot⟩
      obtain rfl := Option.some.inj (hn.symm.trans hn')
      refine hnot ?_
      simpa [DiscBleInfo.slot_unregisterCapability _ _ hpos, hhas] using hk.slots pos hpos
    · refine fun hnot => ⟨fun pos hpos => ?_, href⟩
      dsimp only
      rw [DiscBleInfo.slot_unregisterCapability _ _ hpos]
      cases hhas : (getBleOption option).has pos with
      | false => simpa using hother pos hpos hhas
      | true =>
        by_contra hbad
        exact hnot ⟨option, hn, pos, hpos, hhas, by simpa using hbad⟩

/-- The slots suit the live registrations throughout a run exactly if no call writes over the slot of a capability
that a live registration asks more of. -/
theorem ble_requests_keep_parameters_iff (events : List RegisterEvent) :
    Run.Always step (fun s event => Keeps (s.step event)) {} events ↔
      Run.Always step (fun s event => ¬ Breaks s event) {} events := by
  refine Run.always_iff_of_inv (I := Keeps) (fun s event h => ?_) (fun _ _ _ hk => hk) keeps_init events
  cases event with
  | register option => exact keeps_register_iff h option
  | unregister n => exact keeps_unregister_iff h n

/-- `castPlus` is looked for at a frequency. -/
def castPlusOption (freq : Int32) : DiscBleOption :=
  .subscribeOption { freq, isSameAccount := true, isWakeRemote := false, capabilityBitmap := 1#32 <<< 3 }

/-- A second request comes and goes, and the first is left without its frequency. -/
theorem remaining_request_loses_frequency :
    (Run.final step {} [.register (castPlusOption 3), .register (castPlusOption 0), .unregister 0]).live =
        [castPlusOption 3] ∧
      (Run.final step {} [.register (castPlusOption 3), .register (castPlusOption 0), .unregister 0]).info.freq 1 = -1 ∧
      getMaxExchangeFreq
        [(Run.final step {} [.register (castPlusOption 3), .register (castPlusOption 0), .unregister 0]).info] = 0 := by
  decide +kernel

end BleRegister

end SoftBus
