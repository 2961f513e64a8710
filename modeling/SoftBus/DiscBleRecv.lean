import SoftBus.DiscBleBroadcast
import SoftBus.DiscBleRegister

/-!
# Received discovery requests

`disc_ble.c` stores the requests that match what is published passively, answers them with its non-connectable broadcast
and forgets each when its time is up.

The message of a time-out holds the address of the key that is stored with the request; a request that is freed leaves
the address behind. Addresses are not used twice, and fewer requests are stored than the counters can count.

Three threads are interleaved at the lock of the requests and at the queue of the looper: the scan callback, which stores
a request and gives it its time, one at a time; the looper; and `BleUpdateLocalDeviceInfo`.
-/

namespace SoftBus

structure RecvMessage where
  addr : Nat
  key : List UInt8
  capBitMap : BitVec 32
  needBrMac : Bool
deriving DecidableEq

/-- Where the scan callback is in `AddRecvMessage`, and the address of the request: before the look-up of `RemoveTimeout`
and before its `RemoveMessageCustom`, before the look-up of `StartTimeout` and before its message is made. -/
inductive ScanPc where
  | out
  | removeTimeout (addr : Nat)
  | removeMessageCustom (addr : Nat)
  | startTimeout (addr : Nat)
  | postMessageDelay (addr : Nat)

def ScanPc.addr : ScanPc → Option Nat
  | out => none
  | removeTimeout addr | removeMessageCustom addr | startTimeout addr | postMessageDelay addr => some addr

/-- Where a thread is in `StartAdvertiser`, `UpdateAdvertiser` or `StopAdvertiser`: before `MatchRecvMessage` and after it,
before the check of `isAdvertising` and before `ClearRecvMessage`. -/
inductive AdvPc where
  | out
  | matchRecvMessage
  | matched (passiveCapBitMap : BitVec 32)
  | stopAdvertiser
  | clearRecvMessage

/-- `active` and `passive` are the registers of what is published, and `timeouts` the addresses in the pending messages
`PROCESS_TIME_OUT`; `taken` is the one that the looper has in its hands. The advertiser is the non-connectable one, at which
the looper works (`false`) and `BleUpdateLocalDeviceInfo` (`true`). -/
structure DiscBleRecv where
  messages : List RecvMessage := []
  numNeedBrMac : Int := 0
  numNeedResp : Int := 0
  timeouts : List Nat := []
  active : DiscBleInfo := {}
  passive : DiscBleInfo := {}
  isAdvertising : Bool := false
  next : Nat := 0
  scan : ScanPc := .out
  taken : Option Nat := none
  adv : Bool → AdvPc := fun _ => .out

namespace DiscBleRecv

variable (s : DiscBleRecv)

/-! ## The answer -/

/-- Each message overwrites what was collected before. -/
def matchRecvMessage (publishInfoMap : BitVec 32) : BitVec 32 :=
  s.messages.foldl (fun _ msg => msg.capBitMap &&& publishInfoMap) 0

def recvMsgAggregateCap : BitVec 32 := s.messages.foldl (fun revMessageCap msg => msg.capBitMap ||| revMessageCap) 0

def getNonDeviceInfo (ld : LocalDevice) : Except SoftbusRet AdvDeviceInfo :=
  ld.getNonDeviceInfo ⟨s.active.capBitMap⟩ ⟨s.matchRecvMessage s.passive.capBitMap⟩ s.active.rangingRefCnt
    s.passive.rangingRefCnt

/-- The capabilities that the broadcast is made with, if it is made. -/
def sentCapabilities (ld : LocalDevice) : BitVec 32 :=
  match s.getNonDeviceInfo ld with
  | .error _ => 0
  | .ok info => info.capabilityBitmap.toBitVec

theorem sentCapabilities_eq (ld : LocalDevice) :
    s.sentCapabilities ld = s.active.capBitMap ||| s.matchRecvMessage s.passive.capBitMap := by
  rw [sentCapabilities, getNonDeviceInfo, LocalDevice.getNonDeviceInfo]
  split
  case h_1 ret hret =>
    split at hret
    case isTrue hzero => exact (congrArg UInt32.toBitVec hzero).symm
    case isFalse => nomatch hret
  case h_2 info hinfo =>
    split at hinfo
    case isTrue => nomatch hinfo
    case isFalse => obtain rfl := Except.ok.inj hinfo; rfl

theorem matchRecvMessage_eq (publishInfoMap : BitVec 32) :
    s.matchRecvMessage publishInfoMap = (s.messages.getLast?.map (·.capBitMap &&& publishInfoMap)).getD 0 := by
  rw [matchRecvMessage]
  rcases List.eq_nil_or_concat s.messages with hnil | ⟨l, msg, hconcat⟩
  · rw [hnil]; rfl
  · simp [hconcat]

/-- The broadcast answers every stored request exactly if a capability that is published only passively, and that some
request asks for, is asked for by the last one. -/
theorem answers_every_seeker_iff (ld : LocalDevice) :
    (∀ p, (s.sentCapabilities ld).getLsbD p = true ↔
        s.active.capBitMap.getLsbD p = true ∨
          s.passive.capBitMap.getLsbD p = true ∧ ∃ msg ∈ s.messages, msg.capBitMap.getLsbD p = true) ↔
      ∀ p, s.passive.capBitMap.getLsbD p = true → s.active.capBitMap.getLsbD p = false →
        (∃ msg ∈ s.messages, msg.capBitMap.getLsbD p = true) →
        ∃ last ∈ s.messages.getLast?, last.capBitMap.getLsbD p = true := by
  have hbit : ∀ p, (s.sentCapabilities ld).getLsbD p = true ↔ s.active.capBitMap.getLsbD p = true ∨
      s.passive.capBitMap.getLsbD p = true ∧ ∃ last ∈ s.messages.getLast?, last.capBitMap.getLsbD p = true := by
    intro p
    rw [sentCapabilities_eq, matchRecvMessage_eq]
    cases s.messages.getLast? with
    | none => simp
    | some last => simp [and_comm]
  simp only [hbit]
  refine forall_congr' fun p => ?_
  have hlast : (∃ last ∈ s.messages.getLast?, last.capBitMap.getLsbD p = true) →
      ∃ msg ∈ s.messages, msg.capBitMap.getLsbD p = true :=
    fun ⟨last, hmem, hp⟩ => ⟨last, List.mem_of_getLast? hmem, hp⟩
  generalize (∃ last ∈ s.messages.getLast?, last.capBitMap.getLsbD p = true) = answered at hlast ⊢
  generalize (∃ msg ∈ s.messages, msg.capBitMap.getLsbD p = true) = asked at hlast ⊢
  cases s.active.capBitMap.getLsbD p with
  | true => simp
  | false => simp only [Bool.false_eq_true, false_or, forall_const]; tauto

/-- Two requests ask for what is published passively. -/
def twoSeekers : DiscBleRecv :=
  { messages := [⟨0, [1], 2, true⟩, ⟨1, [2], 4, true⟩], passive := { capBitMap := 6 }, timeouts := [0, 1] }

theorem earlier_seeker_not_answered :
    twoSeekers.active.capBitMap ||| (twoSeekers.passive.capBitMap &&& twoSeekers.recvMsgAggregateCap) = 6 ∧
      twoSeekers.sentCapabilities
        ⟨.replicate 8 0, .replicate 2 0, true, 0, ⟨[], by decide, by decide⟩, none, none⟩ = 4 := by
  rw [sentCapabilities_eq]
  decide

/-! ## Requests come and go -/

def getRecvMessage (key : List UInt8) : Option RecvMessage := s.messages.find? (·.key = key)

def updateInfoManager (needUpdate : Bool) : DiscBleRecv :=
  { s with active := { s.active with needUpdate }, passive := { s.passive with needUpdate } }

/-- `AddRecvMessage` up to its first unlock. A request that is stored already is only given more time; `mem` says whether
there is memory for a new one. -/
def addRecvMessage (key : List UInt8) (capBitMap : BitVec 32) (needBrMac mem : Bool) : DiscBleRecv :=
  match s.getRecvMessage key with
  | none =>
    if mem then
      let recvMsg : RecvMessage := ⟨s.next, key, capBitMap, needBrMac⟩
      let s' : DiscBleRecv :=
        { s with
          numNeedBrMac := s.numNeedBrMac + 1
          numNeedResp := s.numNeedResp + 1
          messages := s.messages ++ [recvMsg]
          next := s.next + 1
          scan := .startTimeout s.next }
      if s.recvMsgAggregateCap ≠ s'.recvMsgAggregateCap then s'.updateInfoManager true else s'
    else s
  | some recvMsg => { s with scan := .removeTimeout recvMsg.addr }

/-- `freed` is what is read at an address whose request is gone. -/
def keyAt (addr : Nat) (freed : List UInt8) : List UInt8 :=
  match s.messages.find? (·.addr = addr) with
  | some msg => msg.key
  | none => freed

/-- The rest of `AddRecvMessage`, from one look-up or call of the looper to the next; `mem` is for the message. -/
def scanOn (freed : List UInt8) (mem : Bool) : DiscBleRecv :=
  match s.scan with
  | .out => s
  | .removeTimeout addr =>
    if (s.getRecvMessage (s.keyAt addr freed)).isSome then { s with scan := .removeMessageCustom addr }
    else { s with scan := .startTimeout addr }
  | .removeMessageCustom addr => { s with timeouts := s.timeouts.filter (· ≠ addr), scan := .startTimeout addr }
  | .startTimeout addr =>
    if (s.getRecvMessage (s.keyAt addr freed)).isSome then { s with scan := .postMessageDelay addr }
    else { s with scan := .out }
  | .postMessageDelay addr => { s with timeouts := if mem then s.timeouts ++ [addr] else s.timeouts, scan := .out }

def removeRecvMessage (addr : Nat) (freed : List UInt8) : DiscBleRecv :=
  match s.getRecvMessage (s.keyAt addr freed) with
  | none => s
  | some msg =>
    { s with
      timeouts := s.timeouts.filter (· ≠ addr)
      numNeedBrMac := if msg.needBrMac then s.numNeedBrMac - 1 else s.numNeedBrMac
      numNeedResp := s.numNeedResp - 1
      messages := s.messages.eraseP (·.addr = msg.addr) }

/-- The counters and the messages of the time-outs stay. -/
def clearRecvMessage : DiscBleRecv := { s with messages := [] }

def goTo (updater : Bool) (pc : AdvPc) : DiscBleRecv := { s with adv := Function.update s.adv updater pc }

/-- `ProcessTimeout` up to `UpdateAdvertiser`. -/
def processTimeout (freed : List UInt8) : DiscBleRecv :=
  match s.taken with
  | none => s
  | some addr => ({ s.removeRecvMessage addr freed with taken := none } : DiscBleRecv).goTo false .matchRecvMessage

/-- A thread goes on in its function of the advertiser. `sent` says whether the adapter takes the broadcast. -/
def advertise (updater sent : Bool) : DiscBleRecv :=
  match s.adv updater with
  | .out => s
  | .matchRecvMessage => s.goTo updater (.matched (s.matchRecvMessage s.passive.capBitMap))
  | .matched passiveCapBitMap =>
    if s.active.capBitMap ||| passiveCapBitMap = 0 then s.goTo updater .stopAdvertiser
    else (if sent then s.updateInfoManager false else s).goTo updater .out
  | .stopAdvertiser => s.goTo updater (if s.isAdvertising then .clearRecvMessage else .out)
  | .clearRecvMessage => s.clearRecvMessage.goTo updater .out

/-- The thread has no handler to finish. -/
def idle (updater : Bool) : Bool := (s.adv updater matches .out) && (updater || s.taken.isNone)

end DiscBleRecv

/-- `recv` is the scan callback, which `scan` continues. The looper takes the pending message with an index, which
`timeout` handles, or one of the other messages: `start` is for `REPLY_PASSIVE_NON_BROADCAST`,
`PUBLISH_ACTIVE_SERVICE` and `RECOVERY`, `update false` for `PUBLISH_PASSIVE_SERVICE` and `UNPUBLISH_SERVICE`, and
`turnOff` for `TURN_OFF`. `update true` is `BleUpdateLocalDeviceInfo`. The adapter tells when the broadcast has been
started or stopped. -/
inductive DiscRecvEvent where
  | recv (key : List UInt8) (capBitMap : BitVec 32) (needBrMac mem : Bool)
  | scan (freed : List UInt8) (mem : Bool)
  | take (n : Nat)
  | timeout (freed : List UInt8)
  | start
  | update (updater : Bool)
  | turnOff
  | advertise (updater sent : Bool)
  | advertising (isAdvertising : Bool)
  | publish (active passive : DiscBleInfo)

namespace DiscBleRecv

def step (s : DiscBleRecv) : DiscRecvEvent → DiscBleRecv
  | .recv key capBitMap needBrMac mem =>
    if s.scan matches .out then s.addRecvMessage key capBitMap needBrMac mem else s
  | .scan freed mem => s.scanOn freed mem
  | .take n =>
    if s.idle false then { s with timeouts := s.timeouts.eraseIdx n, taken := s.timeouts[n]? } else s
  | .timeout freed => s.processTimeout freed
  | .start =>
    if s.idle false && !(s.isAdvertising && !(s.active.needUpdate || s.passive.needUpdate)) then
      s.goTo false .matchRecvMessage
    else s
  | .update updater => if s.idle updater && s.isAdvertising then s.goTo updater .matchRecvMessage else s
  | .turnOff => if s.idle false then s.goTo false .stopAdvertiser else s
  | .advertise updater sent => s.advertise updater sent
  | .advertising isAdvertising => { s with isAdvertising }
  | .publish active passive => { s with active, passive }

/-! ## The books are kept -/

/-- The scan callback is at the request, or the looper has its time-out. -/
def Busy (s : DiscBleRecv) (addr : Nat) : Prop := s.scan.addr = some addr ∨ s.taken = some addr

def Stored (s : DiscBleRecv) (addr : Nat) : Prop := ∃ msg ∈ s.messages, msg.addr = addr

/-- The counters are right, no key is stored twice, and each request has one pending time-out and each time-out a request.
A request that a handler is at has its time-out when the handler is through. -/
structure Booked (s : DiscBleRecv) : Prop where
  resp : s.numNeedResp = s.messages.length
  brMac : s.numNeedBrMac = (s.messages.countP (·.needBrMac) : Nat)
  keys : (s.messages.map (·.key)).Nodup
  armed : ∀ msg ∈ s.messages, ¬ s.Busy msg.addr → s.timeouts.count msg.addr = 1
  owned : ∀ addr ∈ s.timeouts, s.Stored addr

/-- A new request without `needBrMac`; a time-out that `StartTimeout` cannot make, or makes when the request has gone
meanwhile; or requests that are cleared. -/
def Breaks (s : DiscBleRecv) : DiscRecvEvent → Prop
  | .recv key _ needBrMac mem =>
    s.scan = .out ∧ s.getRecvMessage key = none ∧ needBrMac = false ∧ mem = true
  | .scan _ mem => ∃ addr, s.scan = .postMessageDelay addr ∧
    (mem = false ∧ s.Stored addr ∧ s.taken ≠ some addr ∨ mem = true ∧ ¬ s.Stored addr)
  | .advertise updater _ => s.adv updater = .clearRecvMessage ∧ s.messages ≠ []
  | _ => False

structure Live (s : DiscBleRecv) : Prop extends Booked s where
  addrs : (s.messages.map (·.addr)).Nodup
  fresh : ∀ msg ∈ s.messages, msg.addr < s.next
  unarmed : ∀ addr, s.scan = .startTimeout addr ∨ s.scan = .postMessageDelay addr → addr ∉ s.timeouts
  taken : ∀ addr, s.taken = some addr → s.Stored addr

theorem Live.init : Live {} :=
  ⟨⟨rfl, rfl, List.nodup_nil, nofun, nofun⟩, List.nodup_nil, nofun, by simp, by simp⟩

section
variable {s : DiscBleRecv}

/-- A request is found by the key at its address. -/
theorem Live.getRecvMessage_keyAt (h : Live s) {msg : RecvMessage} (hmsg : msg ∈ s.messages) (freed : List UInt8) :
    s.getRecvMessage (s.keyAt msg.addr freed) = some msg := by
  have hfind : s.messages.find? (·.addr = msg.addr) = some msg := FirstMatch.find?_key h.addrs hmsg
  rw [keyAt, hfind]
  exact FirstMatch.find?_key h.keys hmsg

/-! ## The scan callback -/

theorem addRecvMessage_new {key : List UInt8} (hnew : s.getRecvMessage key = none) (capBitMap : BitVec 32)
    (needBrMac : Bool) : ∃ active passive, s.addRecvMessage key capBitMap needBrMac true =
      { s with
        numNeedBrMac := s.numNeedBrMac + 1
        numNeedResp := s.numNeedResp + 1
        messages := s.messages ++ [⟨s.next, key, capBitMap, needBrMac⟩]
        active, passive, next := s.next + 1, scan := .startTimeout s.next } := by
  rw [addRecvMessage, hnew]
  dsimp only
  rw [if_pos rfl]
  split
  · exact ⟨{ s.active with needUpdate := true }, { s.passive with needUpdate := true }, rfl⟩
  · exact ⟨s.active, s.passive, rfl⟩

theorem Live.recv_new (h : Live s) (hout : s.scan = .out) {key : List UInt8} (hnew : s.getRecvMessage key = none)
    (capBitMap : BitVec 32) : Live (s.addRecvMessage key capBitMap true true) := by
  obtain ⟨active, passive, heq⟩ := addRecvMessage_new hnew capBitMap true
  rw [heq]
  have hkey : key ∉ s.messages.map (·.key) := by
    intro hmem
    obtain ⟨msg, hmsg, hmsgkey⟩ := List.mem_map.mp hmem
    exact absurd hmsgkey (by simpa using List.find?_eq_none.mp hnew msg hmsg)
  have haddr : ¬ s.Stored s.next := fun ⟨msg, hmsg, hnext⟩ => absurd hnext (Nat.ne_of_lt (h.fresh msg hmsg))
  have hstored : ∀ addr, s.Stored addr → ∃ msg ∈ s.messages ++ [⟨s.next, key, capBitMap, true⟩], msg.addr = addr :=
    fun addr ⟨msg, hmsg, hmsgaddr⟩ => ⟨msg, List.mem_append_left _ hmsg, hmsgaddr⟩
  constructor
  · constructor
    · simp [h.resp]
    · simp [h.brMac, List.countP_append]
    · rw [List.map_append]
      exact List.nodup_append.mpr ⟨h.keys, List.nodup_singleton _, by simpa using hkey⟩
    · intro msg hmsg hbusy
      rcases List.mem_append.mp hmsg with hmsg | hmsg
      · refine h.armed msg hmsg fun hold => hbusy (.inr (hold.resolve_left ?_))
        simp [hout, ScanPc.addr]
      · rw [List.mem_singleton.mp hmsg] at hbusy
        exact absurd (.inl rfl) hbusy
    · exact fun addr hmem => hstored addr (h.owned addr hmem)
  · rw [List.map_append]
    refine List.nodup_append.mpr ⟨h.addrs, List.nodup_singleton _, ?_⟩
    simpa [Stored] using haddr
  · intro msg hmsg
    rcases List.mem_append.mp hmsg with hmsg | hmsg
    · exact Nat.lt_succ_of_lt (h.fresh msg hmsg)
    · rw [List.mem_singleton.mp hmsg]
      exact Nat.lt_succ_self _
  · intro addr haddr' hmem
    obtain rfl : s.next = addr := by simpa using haddr'
    exact haddr (h.owned _ hmem)
  · exact fun addr htaken => hstored addr (h.taken addr htaken)

/-- The callback goes on at its request, or is through with it; only the time-outs of the request change. -/
theorem Live.moved (h : Live s) {pc : ScanPc} {addr : Nat} {timeouts : List Nat} (hscan : s.scan.addr = some addr)
    (hother : ∀ other, other ≠ addr → timeouts.count other = s.timeouts.count other)
    (hstored : addr ∈ timeouts → s.Stored addr)
    (hunarmed : pc.addr = some addr → pc ≠ .removeMessageCustom addr → addr ∉ timeouts)
    (hpc : pc.addr = some addr ∨ pc = .out ∧ (s.Stored addr → s.taken = some addr ∨ timeouts.count addr = 1)) :
    Live { s with scan := pc, timeouts } := by
  have hmem : ∀ other, other ≠ addr → other ∈ timeouts → other ∈ s.timeouts := fun other hne hin => by
    rw [← List.count_pos_iff, hother other hne, List.count_pos_iff] at hin
    exact hin
  refine ⟨⟨h.resp, h.brMac, h.keys, fun msg hmsg hbusy => ?_, fun other hin => ?_⟩, h.addrs, h.fresh, ?_, h.taken⟩
  · by_cases hne : msg.addr = addr
    · rcases hpc with hpc | ⟨-, hpc⟩
      · exact absurd (.inl (hne ▸ hpc)) hbusy
      · rw [hne]
        exact (hpc ⟨msg, hmsg, hne⟩).resolve_left fun htaken => hbusy (.inr (hne ▸ htaken))
    · refine (hother _ hne).trans (h.armed msg hmsg fun hold => hbusy (.inr (hold.resolve_left ?_)))
      rw [hscan, Option.some.injEq]
      exact Ne.symm hne
  · by_cases hne : other = addr
    · exact hne ▸ hstored (hne ▸ hin)
    · exact h.owned other (hmem other hne hin)
  · intro other hat
    have hother : pc.addr = some other ∧ pc ≠ .removeMessageCustom addr := by
      rcases hat with rfl | rfl <;> exact ⟨rfl, nofun⟩
    obtain rfl : other = addr := by
      rcases hpc with hpc | ⟨rfl, -⟩
      · exact Option.some.inj (hother.1.symm.trans hpc)
      · cases hother.1
    exact hunarmed hother.1 hother.2

theorem Live.not_stored (h : Live s) {addr : Nat} {freed : List UInt8}
    (hnone : ¬ (s.getRecvMessage (s.keyAt addr freed)).isSome = true) : ¬ s.Stored addr := by
  rintro ⟨msg, hmsg, rfl⟩
  exact hnone (by rw [h.getRecvMessage_keyAt hmsg]; rfl)

theorem Live.scanOn (h : Live s) {freed : List UInt8} {mem : Bool} (hok : ¬ Breaks s (.scan freed mem)) :
    Live (s.scanOn freed mem) := by
  rw [DiscBleRecv.scanOn]
  cases hscan : s.scan with
  | out => exact h
  | removeTimeout addr =>
    have hat : s.scan.addr = some addr := by rw [hscan]; rfl
    dsimp only
    split
    case isTrue => exact h.moved hat (fun _ _ => rfl) (h.owned addr) (fun _ hne => absurd rfl hne) (.inl rfl)
    case isFalse hnone =>
      exact h.moved hat (fun _ _ => rfl) (h.owned addr) (fun _ _ hin => h.not_stored hnone (h.owned addr hin)) (.inl rfl)
  | removeMessageCustom addr =>
    have hgone : addr ∉ s.timeouts.filter (· ≠ addr) := by simp
    exact h.moved (by rw [hscan]; rfl) (fun other hne => List.count_filter (by simpa using hne))
      (fun hin => absurd hin hgone) (fun _ _ => hgone) (.inl rfl)
  | startTimeout addr =>
    have hat : s.scan.addr = some addr := by rw [hscan]; rfl
    dsimp only
    split
    case isTrue =>
      exact h.moved hat (fun _ _ => rfl) (h.owned addr) (fun _ _ => h.unarmed addr (.inl hscan)) (.inl rfl)
    case isFalse hnone =>
      exact h.moved hat (fun _ _ => rfl) (h.owned addr) nofun (.inr ⟨rfl, fun hin => absurd hin (h.not_stored hnone)⟩)
  | postMessageDelay addr =>
    have hat : s.scan.addr = some addr := by rw [hscan]; rfl
    have hgone := h.unarmed addr (.inr hscan)
    have hbreaks := not_or.mp fun hor => hok ⟨addr, hscan, hor⟩
    cases mem with
    | true =>
      have hstored : s.Stored addr := by
        by_contra hnot
        exact hbreaks.2 ⟨rfl, hnot⟩
      refine h.moved hat (fun other hne => ?_) (fun _ => hstored) nofun (.inr ⟨rfl, fun _ => .inr ?_⟩)
      · have hnot : [addr].count other = 0 := List.count_eq_zero.mpr (by simpa using hne)
        rw [if_pos rfl, List.count_append, hnot, Nat.add_zero]
      · rw [if_pos rfl, List.count_append, List.count_eq_zero.mpr hgone, List.count_singleton_self]
    | false =>
      refine h.moved hat (fun _ _ => rfl) (h.owned addr) nofun (.inr ⟨rfl, fun hstored => .inl ?_⟩)
      by_contra hnot
      exact hbreaks.1 ⟨rfl, hstored, hnot⟩

theorem Live.not_booked_scanOn (h : Live s) {freed : List UInt8} {mem : Bool} (hbreaks : Breaks s (.scan freed mem)) :
    ¬ Booked (s.scanOn freed mem) := by
  obtain ⟨addr, hscan, hpost⟩ := hbreaks
  rw [DiscBleRecv.scanOn, hscan]
  dsimp only
  intro hbooked
  rcases hpost with ⟨rfl, ⟨msg, hmsg, rfl⟩, htaken⟩ | ⟨rfl, hnot⟩
  · have hcount := hbooked.armed msg hmsg fun hbusy => hbusy.elim nofun htaken
    rw [if_neg Bool.false_ne_true, List.count_eq_zero.mpr (h.unarmed msg.addr (.inr hscan))] at hcount
    cases hcount
  · exact hnot (hbooked.owned addr (by simp))

/-! ## The looper and the advertiser -/

theorem Live.goTo (h : Live s) (updater : Bool) (pc : AdvPc) : Live (s.goTo updater pc) := { h with }

theorem Live.updateInfoManager (h : Live s) (needUpdate : Bool) : Live (s.updateInfoManager needUpdate) := { h with }

theorem Live.take (h : Live s) (hnone : s.taken = none) (n : Nat) :
    Live { s with timeouts := s.timeouts.eraseIdx n, taken := s.timeouts[n]? } := by
  have hsub : ∀ addr ∈ s.timeouts.eraseIdx n, addr ∈ s.timeouts := fun addr => List.mem_of_mem_eraseIdx
  refine ⟨⟨h.resp, h.brMac, h.keys, fun msg hmsg hbusy => ?_, fun addr haddr => h.owned addr (hsub addr haddr)⟩,
    h.addrs, h.fresh, fun addr hat hin => h.unarmed addr hat (hsub addr hin),
    fun addr htaken => h.owned addr (List.mem_of_getElem? htaken)⟩
  obtain ⟨hscan, hother⟩ := not_or.mp hbusy
  have harmed := h.armed msg hmsg (not_or.mpr ⟨hscan, by simp [hnone]⟩)
  by_cases hn : n < s.timeouts.length
  · rw [List.getElem?_eq_getElem hn, Option.some.injEq] at hother
    have hcount := (List.getElem_cons_eraseIdx_perm hn).count_eq msg.addr
    rwa [List.count_cons_of_ne hother, harmed] at hcount
  · rwa [List.eraseIdx_of_length_le (Nat.not_lt.mp hn)]

/-- The request whose time is up goes, with the messages for it. -/
theorem Live.processTimeout (h : Live s) (freed : List UInt8) : Live (s.processTimeout freed) := by
  rw [DiscBleRecv.processTimeout]
  cases htaken : s.taken with
  | none => exact h
  | some addr =>
    refine Live.goTo ?_ false _
    obtain ⟨msg, hmsg, rfl⟩ := h.taken addr htaken
    have hfind : s.messages.find? (·.addr = msg.addr) = some msg := FirstMatch.find?_key h.addrs hmsg
    have hmessages := FirstMatch.eraseP_perm hfind
    have haddrs := List.nodup_cons.mp ((hmessages.map (·.addr)).nodup_iff.mp h.addrs)
    have hne : ∀ msg' ∈ s.messages.eraseP (·.addr = msg.addr), msg'.addr ≠ msg.addr := fun msg' hmsg' hsame =>
      haddrs.1 (List.mem_map.mpr ⟨msg', hmsg', hsame⟩)
    have heq := h.getRecvMessage_keyAt hmsg freed
    rw [removeRecvMessage, heq]
    constructor
    · constructor
      · have hlen := hmessages.length_eq
        dsimp only
        rw [h.resp, hlen, List.length_cons]
        omega
      · have hcount := hmessages.countP_eq (·.needBrMac)
        rw [List.countP_cons] at hcount
        dsimp only
        rw [h.brMac, hcount]
        cases msg.needBrMac <;> simp
      · exact (List.nodup_cons.mp ((hmessages.map (·.key)).nodup_iff.mp h.keys)).2
      · intro msg' hmsg' hbusy
        have hcount := h.armed msg' (List.mem_of_mem_eraseP hmsg') fun hold =>
          hbusy (.inl (hold.resolve_right fun hsame => hne msg' hmsg' (Option.some.inj (hsame.symm.trans htaken))))
        exact (List.count_filter (by simpa using hne msg' hmsg')).trans hcount
      · intro addr haddr
        obtain ⟨hin, hnot⟩ := List.mem_filter.mp haddr
        obtain ⟨msg', hmsg', rfl⟩ := h.owned addr hin
        rcases List.mem_cons.mp (hmessages.mem_iff.mp hmsg') with rfl | hmsg'
        · simp at hnot
        · exact ⟨msg', hmsg', rfl⟩
    · exact haddrs.2
    · exact fun msg' hmsg' => h.fresh msg' (List.mem_of_mem_eraseP hmsg')
    · exact fun addr hat hin => h.unarmed addr hat (List.mem_of_mem_filter hin)
    · exact nofun

theorem Live.advertise (h : Live s) {updater sent : Bool} (hok : ¬ Breaks s (.advertise updater sent)) :
    Live (s.advertise updater sent) := by
  rw [DiscBleRecv.advertise]
  cases hadv : s.adv updater with
  | out => exact h
  | matchRecvMessage => exact h.goTo updater _
  | matched passiveCapBitMap =>
    dsimp only
    split
    · exact h.goTo updater _
    · split
      · exact (h.updateInfoManager false).goTo updater _
      · exact h.goTo updater _
  | stopAdvertiser => exact h.goTo updater _
  | clearRecvMessage =>
    have hnil : s.messages = [] := by
      by_contra hne
      exact hok ⟨hadv, hne⟩
    have hsame : s.clearRecvMessage = s := by rw [clearRecvMessage, ← hnil]
    dsimp only
    rw [hsame]
    exact h.goTo updater _

theorem Live.step (h : Live s) {event : DiscRecvEvent} (hok : ¬ Breaks s event) : Live (s.step event) := by
  have hmoved : ∀ (updater : Bool) (pc : AdvPc) (c : Bool), Live (if c then s.goTo updater pc else s) := by
    intro updater pc c
    split
    · exact h.goTo updater pc
    · exact h
  cases event with
  | recv key capBitMap needBrMac mem =>
    rw [DiscBleRecv.step]
    cases hscan : s.scan with
    | out =>
      cases hfind : s.getRecvMessage key with
      | some msg =>
        rw [if_pos rfl, addRecvMessage, hfind]
        have hbusy : ∀ addr, ¬ Busy { s with scan := .removeTimeout msg.addr } addr → ¬ s.Busy addr :=
          fun addr hnot hold => hnot (.inr (hold.resolve_left (by simp [hscan, ScanPc.addr])))
        exact { h with armed := fun msg' hmsg' hnot => h.armed msg' hmsg' (hbusy _ hnot), unarmed := nofun }
      | none =>
        cases mem with
        | false => simpa [addRecvMessage, hfind] using h
        | true =>
          obtain rfl : needBrMac = true := by
            by_contra hno
            exact hok ⟨hscan, hfind, by simpa using hno, rfl⟩
          exact h.recv_new hscan hfind capBitMap
    | _ => exact h
  | scan freed mem => exact h.scanOn hok
  | take n =>
    rw [DiscBleRecv.step]
    split
    case isTrue hidle => exact h.take (by simpa [idle] using (Bool.and_eq_true_iff.mp hidle).2) n
    case isFalse => exact h
  | timeout freed => exact h.processTimeout freed
  | start => exact hmoved false _ _
  | update updater => exact hmoved updater _ _
  | turnOff => exact hmoved false _ _
  | advertise updater sent => exact h.advertise hok
  | advertising isAdvertising => exact { h with }
  | publish active passive => exact { h with }

theorem Live.not_booked_step (h : Live s) {event : DiscRecvEvent} (hbreaks : Breaks s event) : ¬ Booked (s.step event) := by
  cases event with
  | recv key capBitMap needBrMac mem =>
    obtain ⟨hscan, hnew, rfl, rfl⟩ := hbreaks
    obtain ⟨active, passive, heq⟩ := addRecvMessage_new hnew capBitMap false
    rw [DiscBleRecv.step, hscan, if_pos rfl, heq]
    intro hbooked
    have hcount := hbooked.brMac
    simp [h.brMac, List.countP_append] at hcount
  | scan freed mem => exact h.not_booked_scanOn hbreaks
  | advertise updater sent =>
    rw [DiscBleRecv.step, DiscBleRecv.advertise, hbreaks.1]
    intro hbooked
    have hzero : s.numNeedResp = 0 := hbooked.resp
    rw [h.resp] at hzero
    exact hbreaks.2 (List.length_eq_zero_iff.mp (by exact_mod_cast hzero))
  | _ => exact hbreaks.elim

end

/-- The books are kept throughout a run exactly if every new request needs the BR mac, the time-out of a request that is
stored is made and posted while it is, and the requests are never cleared. -/
theorem received_requests_booked_iff (events : List DiscRecvEvent) :
    Run.Always step (fun s event => Booked (s.step event)) {} events ↔
      Run.Always step (fun s event => ¬ Breaks s event) {} events := by
  have hiff : ∀ s event, Live s → (Booked (s.step event) ↔ ¬ Breaks s event) := fun s event h =>
    ⟨fun hbooked hbreaks => h.not_booked_step hbreaks hbooked, fun hok => (h.step hok).toBooked⟩
  exact Run.always_iff_of_inv hiff (fun s event h hbooked => h.step ((hiff s event h).mp hbooked)) .init events

/-- Bluetooth is turned off while a request is stored: the counters and the message of its time-out stay. -/
theorem request_cleared_with_books_open :
    ¬ Run.Always step (fun s event => Booked (s.step event)) {}
      [.publish {} { capBitMap := 2 }, .recv [1] 2 true true, .scan [] true, .scan [] true, .start, .advertise false true,
        .advertise false true, .advertising true, .turnOff, .advertise false true, .advertise false true] := by
  intro h
  have hresp := h.2.2.2.2.2.2.2.2.2.2.1.resp
  revert hresp
  decide

end DiscBleRecv

end SoftBus
