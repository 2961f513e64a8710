import SoftBus.BrManager

/-!
# Every connect request is answered once

Each accepted request is once in a device, in the hands of a handler or among the answers.
A handler takes a device in hand, and puts it back or answers and frees it.
-/

namespace SoftBus

def BrDevice.key (device : BrDevice) : List UInt8 := device.addr.map toUpperCase

/-- The devices among `connecting` and `waitings`. -/
def BrManager.devices (m : BrManager) : List BrDevice := m.connecting.toList ++ m.waitings

def numbersOf (devices : List BrDevice) : List Nat := devices.flatMap BrDevice.numbers

/-- The manager while a handler has the requests `hand` in hand. -/
structure BrManager.Sound (m : BrManager) (hand : List Nat) : Prop where
  once : ∀ number, hand.count number + (numbersOf m.devices).count number + m.answered.count number =
    if number < m.accepted then 1 else 0
  unique : (m.devices.map BrDevice.key).Nodup
  lost : m.lost = []
  connecting : m.connecting.isSome = true ↔ m.state = .connecting

section
variable {m m' : BrManager} {device : BrDevice} {hand : List Nat} {number : Nat}

@[simp] theorem numbersOf_nil : numbersOf [] = [] := rfl

@[simp] theorem numbersOf_cons (device : BrDevice) (l : List BrDevice) :
    numbersOf (device :: l) = device.numbers ++ numbersOf l := rfl

theorem numbersOf_append (l₁ l₂ : List BrDevice) : numbersOf (l₁ ++ l₂) = numbersOf l₁ ++ numbersOf l₂ :=
  List.flatMap_append

theorem BrDevice.key_eq {device device' : BrDevice} :
    strCmpIgnoreCase device.addr device'.addr = true ↔ device.key = device'.key := strCmpIgnoreCase_iff

theorem BrManager.count_devices (m : BrManager) (number : Nat) : (numbersOf m.devices).count number =
    (numbersOf m.connecting.toList).count number + (numbersOf m.waitings).count number := by
  unfold BrManager.devices
  rw [numbersOf_append, List.count_append]

/-! ## Answers -/

theorem BrManager.answer_answered (m : BrManager) (device : BrDevice) (result : BrConnectResult) :
    (m.answer device result).answered = m.answered ++ device.numbers := by
  unfold BrManager.answered BrManager.answer
  rw [List.map_append, List.map_map]
  exact congrArg _ (List.map_id _)

theorem BrManager.Sound.answered_freed (hm : m.Sound (device.numbers ++ hand)) (result : BrConnectResult) :
    ((m.answer device result).freeDevice device).Sound hand := by
  refine ⟨fun number => ?_, hm.unique, ?_, hm.connecting⟩
  · have h := hm.once number
    change hand.count number + (numbersOf m.devices).count number + (m.answer device result).answered.count number = _
    rw [m.answer_answered, List.count_append]
    rw [List.count_append] at h
    change _ = if number < m.accepted then 1 else 0
    omega
  · change m.lost ++ List.filter _ device.numbers = []
    rw [hm.lost, List.nil_append, List.filter_eq_nil_iff]
    intro number hn
    rw [decide_eq_true_eq, not_not, m.answer_answered]
    exact List.mem_append_right _ hn

theorem BrManager.Sound.connections (hm : m.Sound hand) (connections : List BrManaged) :
    { m with connections := connections }.Sound hand := ⟨hm.once, hm.unique, hm.lost, hm.connecting⟩

theorem BrManager.Sound.pendings (hm : m.Sound hand) (pendings : List (List UInt8)) :
    { m with pendings := pendings }.Sound hand := ⟨hm.once, hm.unique, hm.lost, hm.connecting⟩

theorem BrManager.reuseConnection_eq {connectionId : Nat} (h : m.reuseConnection device connectionId = some m') :
    ∃ connections, m' = { m with connections := connections }.answer device (.onConnectSuccessed connectionId) := by
  unfold BrManager.reuseConnection at h
  split at h
  next => cases h
  next =>
    split at h
    next => cases h
    next =>
      cases h
      exact ⟨_, rfl⟩

theorem BrManager.Sound.reused (hm : m.Sound (device.numbers ++ hand)) {connectionId : Nat}
    (h : m.reuseConnection device connectionId = some m') : (m'.freeDevice device).Sound hand := by
  obtain ⟨connections, rfl⟩ := BrManager.reuseConnection_eq h
  exact (hm.connections connections).answered_freed _

/-! ## Waiting devices -/

theorem BrDevice.merge_count (target device : BrDevice) (number : Nat) :
    (target.merge device).numbers.count number = device.numbers.count number + target.numbers.count number := by
  unfold BrDevice.merge BrDevice.numbers
  rw [List.map_append, List.count_append, List.map_reverse, List.count_reverse]

theorem addWaiting_count (device : BrDevice) (number : Nat) : ∀ l,
    (numbersOf (addWaiting device l)).count number = device.numbers.count number + (numbersOf l).count number
  | [] => by simp [addWaiting]
  | it :: l => by
    unfold addWaiting
    split
    · rw [numbersOf_cons, numbersOf_cons, List.count_append, List.count_append, it.merge_count]
      omega
    · rw [numbersOf_cons, numbersOf_cons, List.count_append, List.count_append, addWaiting_count device number l]
      omega

theorem addWaiting_keys (device : BrDevice) : ∀ l,
    (addWaiting device l).map BrDevice.key = l.map BrDevice.key ∨
    (addWaiting device l).map BrDevice.key = l.map BrDevice.key ++ [device.key] ∧ device.key ∉ l.map BrDevice.key
  | [] => .inr ⟨rfl, nofun⟩
  | it :: l => by
    unfold addWaiting
    split
    next => exact .inl rfl
    next hne =>
      rw [List.map_cons, List.map_cons]
      rcases addWaiting_keys device l with h | ⟨h, hn⟩
      · exact .inl (congrArg _ h)
      · refine .inr ⟨congrArg _ h, fun hmem => ?_⟩
        rcases List.mem_cons.mp hmem with h | h
        · exact hne (BrDevice.key_eq.mpr h.symm)
        · exact hn h

theorem BrManager.Sound.addWaiting (hm : m.Sound (device.numbers ++ hand))
    (hkey : device.key ∉ m.connecting.toList.map BrDevice.key) :
    { m with waitings := SoftBus.addWaiting device m.waitings }.Sound hand := by
  refine ⟨fun number => ?_, ?_, hm.lost, hm.connecting⟩
  · have h := hm.once number
    rw [List.count_append, m.count_devices] at h
    rw [BrManager.count_devices, addWaiting_count]
    change _ = if number < m.accepted then 1 else 0
    change _ + ((numbersOf m.connecting.toList).count number + _) + m.answered.count number = _
    omega
  · have hu := hm.unique
    unfold BrManager.devices at hu
    change ((m.connecting.toList ++ SoftBus.addWaiting device m.waitings).map BrDevice.key).Nodup
    rw [List.map_append] at hu ⊢
    rcases addWaiting_keys device m.waitings with h | ⟨h, hn⟩
    · rwa [h]
    · rw [h, ← List.append_assoc, List.nodup_append]
      refine ⟨hu, List.nodup_singleton _, ?_⟩
      intro a ha b hb
      rw [List.mem_singleton.mp hb]
      rintro rfl
      exact (List.mem_append.mp ha).elim hkey hn

theorem BrManager.Sound.pendingDevice (hm : m.Sound (device.numbers ++ hand)) :
    (m.pendingDevice device).Sound hand := by
  unfold BrManager.pendingDevice
  split
  next hc =>
    refine hm.addWaiting ?_
    rw [hc]
    nofun
  next connecting hc =>
    split
    next =>
      have hu := hm.unique
      unfold BrManager.devices at hu
      rw [hc] at hu
      refine ⟨fun number => ?_, hu, hm.lost, ?_⟩
      · have h := hm.once number
        rw [List.count_append, m.count_devices, hc, Option.toList_some, numbersOf_cons, List.count_append] at h
        rw [BrManager.count_devices]
        change _ + ((numbersOf [connecting.merge device]).count number + (numbersOf m.waitings).count number) +
          m.answered.count number = if number < m.accepted then 1 else 0
        rw [numbersOf_cons, List.count_append, connecting.merge_count]
        omega
      · rw [← hm.connecting, hc]
        rfl
    next hne =>
      refine hm.addWaiting ?_
      rw [hc]
      intro h
      exact hne (BrDevice.key_eq.mpr (List.mem_singleton.mp h).symm)

theorem scheduleWaiting_spec (addr : List UInt8) : ∀ l,
    (scheduleWaiting addr l).map BrDevice.key = l.map BrDevice.key ∧
    numbersOf (scheduleWaiting addr l) = numbersOf l
  | [] => ⟨rfl, rfl⟩
  | it :: l => by
    unfold scheduleWaiting
    split
    · exact ⟨rfl, rfl⟩
    · obtain ⟨h₁, h₂⟩ := scheduleWaiting_spec addr l
      rw [List.map_cons, List.map_cons, numbersOf_cons, numbersOf_cons, h₁, h₂]
      exact ⟨rfl, rfl⟩

theorem BrManager.Sound.scheduleWaiting (hm : m.Sound hand) (addr : List UInt8) :
    { m with waitings := SoftBus.scheduleWaiting addr m.waitings }.Sound hand := by
  obtain ⟨hkeys, hnumbers⟩ := scheduleWaiting_spec addr m.waitings
  refine ⟨fun number => ?_, ?_, hm.lost, hm.connecting⟩
  · have h := hm.once number
    rw [m.count_devices] at h
    rw [BrManager.count_devices, hnumbers]
    exact h
  · have hu := hm.unique
    unfold BrManager.devices at hu
    change ((m.connecting.toList ++ SoftBus.scheduleWaiting addr m.waitings).map BrDevice.key).Nodup
    rwa [List.map_append, hkeys, ← List.map_append]

theorem BrManager.Sound.pendConnection (hm : m.Sound hand) (addr : List UInt8) :
    (m.pendConnection addr).Sound hand := by
  unfold BrManager.pendConnection
  split
  · exact hm
  · exact hm.pendings _

theorem BrManager.Sound.unpendConnection (hm : m.Sound hand) (addr : List UInt8) :
    (m.unpendConnection addr).Sound hand := by
  unfold BrManager.unpendConnection
  split
  · exact (hm.scheduleWaiting addr).pendings _
  · exact hm

/-! ## Reuse -/

theorem BrManager.Sound.attempReuseConnect (hm : m.Sound (device.numbers ++ hand)) (env : BrEnv)
    {action : BrManager → BrDevice → BrManager × Option Int}
    (hact : ∀ pendings, (∃ m', action { m with pendings := pendings } { device with state := .waitSchedule } =
        (m', none) ∧ m'.Sound hand) ∨
      ∃ m' status, action { m with pendings := pendings } { device with state := .waitSchedule } = (m', some status) ∧
        m'.Sound (device.numbers ++ hand)) :
    (m.attempReuseConnect env device action).Sound hand := by
  have hpended : ∃ pendings, BrManager.attempReuseConnect.pended env m device = { m with pendings := pendings } := by
    unfold BrManager.attempReuseConnect.pended BrManager.pendConnection
    split
    · split
      · exact ⟨m.pendings, rfl⟩
      · exact ⟨_, rfl⟩
    · exact ⟨m.pendings, rfl⟩
  obtain ⟨pendings, hpended⟩ := hpended
  unfold BrManager.attempReuseConnect
  split
  next =>
    rw [hpended]
    split
    next =>
      have hm' : BrManager.Sound _ (BrDevice.numbers { device with state := .pending } ++ hand) := hm.pendings pendings
      exact hm'.pendingDevice
    next =>
      rcases hact pendings with ⟨m', h, hm'⟩ | ⟨m', status, h, hm'⟩
      · rw [h]
        exact hm'
      · rw [h]
        exact hm'.answered_freed _
  next =>
    split
    next m' h =>
      obtain ⟨it, _, h⟩ := Option.bind_eq_some_iff.mp h
      exact hm.reused h
    next =>
      split
      next m' h =>
        obtain ⟨it, _, h⟩ := Option.bind_eq_some_iff.mp h
        exact hm.reused h
      next =>
        have hm' : m.Sound (BrDevice.numbers { device with state := .waitEvent } ++ hand) := hm
        exact hm'.pendingDevice

theorem BrManager.Sound.connectDeviceDirectly (hm : m.Sound (device.numbers ++ hand)) (hc : m.connecting = none)
    (hkey : device.key ∉ m.waitings.map BrDevice.key) (connections : List BrManaged) :
    { m with connections := connections, connecting := some device, state := .connecting }.Sound hand := by
  refine ⟨fun number => ?_, ?_, hm.lost, iff_of_true rfl rfl⟩
  · have h := hm.once number
    rw [List.count_append, m.count_devices, hc] at h
    rw [BrManager.count_devices]
    change _ + ((numbersOf [device]).count number + (numbersOf m.waitings).count number) + m.answered.count number =
      if number < m.accepted then 1 else 0
    rw [numbersOf_cons, numbersOf_nil, List.append_nil]
    rw [Option.toList_none, numbersOf_nil, List.count_nil] at h
    omega
  · have hu := hm.unique
    unfold BrManager.devices at hu
    rw [hc] at hu
    exact List.nodup_cons.mpr ⟨hkey, hu⟩

theorem BrManager.Sound.takeWaiting {front l : List BrDevice}
    (hm : { m with waitings := front ++ device :: l }.Sound hand) :
    { m with waitings := front ++ l }.Sound (device.numbers ++ hand) ∧
      device.key ∉ (front ++ l).map BrDevice.key := by
  have hu := hm.unique
  change ((m.connecting.toList ++ (front ++ device :: l)).map BrDevice.key).Nodup at hu
  have hperm : ((m.connecting.toList ++ (front ++ device :: l)).map BrDevice.key).Perm
      (device.key :: (m.connecting.toList ++ (front ++ l)).map BrDevice.key) := by
    rw [← List.append_assoc, ← List.append_assoc, ← List.map_cons]
    exact List.perm_middle.map _
  rw [hperm.nodup_iff, List.nodup_cons, List.map_append, List.mem_append, not_or, ← List.map_append] at hu
  refine ⟨⟨fun number => ?_, hu.2, hm.lost, hm.connecting⟩, hu.1.2⟩
  have h := hm.once number
  rw [BrManager.count_devices] at h ⊢
  rw [List.count_append]
  change _ + ((numbersOf m.connecting.toList).count number + (numbersOf (front ++ device :: l)).count number) +
    m.answered.count number = (if number < m.accepted then 1 else 0) at h
  change _ + ((numbersOf m.connecting.toList).count number + (numbersOf (front ++ l)).count number) +
    m.answered.count number = (if number < m.accepted then 1 else 0)
  rw [numbersOf_append, numbersOf_cons, List.count_append, List.count_append] at h
  rw [numbersOf_append, List.count_append]
  omega

theorem BrManager.Sound.reuseWaitings (connectionId : Nat) (addr : List UInt8) :
    ∀ (l : List BrDevice) {m : BrManager} {front : List BrDevice}, { m with waitings := front ++ l }.Sound hand →
      { (SoftBus.reuseWaitings connectionId addr l m).1 with
        waitings := front ++ (SoftBus.reuseWaitings connectionId addr l m).2 }.Sound hand
  | [], _, _, hm => hm
  | it :: l, m, front, hm => by
    unfold SoftBus.reuseWaitings
    split
    next m' h =>
      have hre : m.reuseConnection it connectionId = some m' := by
        split at h
        next => exact h
        next => cases h
      obtain ⟨cs, rfl⟩ := BrManager.reuseConnection_eq hre
      exact reuseWaitings connectionId addr l ((hm.takeWaiting.1.connections cs).answered_freed _)
    next =>
      have hm' : { m with waitings := (front ++ [it]) ++ l }.Sound hand := by simpa using hm
      simpa using reuseWaitings connectionId addr l hm'

theorem BrManager.Sound.reuseAll (hm : m.Sound hand) (connectionId : Nat) (addr : List UInt8) :
    (m.reuseAll connectionId addr).Sound hand := by
  have hm' : { m with waitings := [] ++ m.waitings }.Sound hand := hm
  exact BrManager.Sound.reuseWaitings connectionId addr m.waitings hm'

/-! ## Handlers -/

theorem BrManager.Sound.accept (hm : m.Sound []) (requestId : Nat) (addr : List UInt8) (state : BrDeviceState) :
    { m with accepted := m.accepted + 1 }.Sound (BrDevice.numbers ⟨addr, state, [⟨requestId, m.accepted⟩]⟩ ++ []) := by
  refine ⟨fun number => ?_, hm.unique, hm.lost, hm.connecting⟩
  have h := hm.once number
  change List.count number [m.accepted] + (numbersOf m.devices).count number + m.answered.count number =
    if number < m.accepted + 1 then 1 else 0
  rw [List.count_nil] at h
  by_cases he : m.accepted = number
  · subst he
    rw [List.count_singleton_self, if_pos (Nat.lt_succ_self _)]
    rw [if_neg (Nat.lt_irrefl _)] at h
    omega
  · rw [List.count_singleton, if_neg (by simpa using he)]
    split at h
    · rw [if_pos (by omega)]
      omega
    · rw [if_neg (by omega)]
      omega

theorem BrManager.Sound.connectRequest (hm : m.Sound []) (requestId : Nat) (addr : List UInt8) (env : BrEnv) :
    (m.connectRequest requestId addr env).Sound [] := by
  unfold BrManager.connectRequest
  split
  next => exact (hm.accept requestId addr .waitSchedule).pendingDevice
  next =>
    refine (hm.accept requestId addr .init).attempReuseConnect env fun pendings => .inl ⟨_, rfl, ?_⟩
    exact BrManager.Sound.pendingDevice ((hm.accept requestId addr .waitSchedule).pendings pendings)

theorem BrManager.Sound.handlePendingRequest (hm : m.Sound []) (env : BrEnv) :
    (m.handlePendingRequest env).Sound [] := by
  unfold BrManager.handlePendingRequest
  split
  next => exact hm
  next hstate =>
    split
    next => exact hm
    next target ht =>
      have hc : m.connecting = none := by
        cases h : m.connecting with
        | none => rfl
        | some d =>
          have := hm.connecting.mp (by rw [h]; rfl)
          rw [hstate] at this
          cases this
      obtain ⟨front, l, _, hw, he⟩ := List.exists_erase_eq (List.mem_of_find?_eq_some ht)
      rw [he]
      have hm' : { m with waitings := front ++ target :: l }.Sound [] := by
        rw [← hw]
        exact hm
      obtain ⟨hin, hkey⟩ := hm'.takeWaiting
      refine hin.attempReuseConnect env fun pendings => ?_
      unfold BrManager.connectDeviceDirectly
      split
      next => exact .inr ⟨_, _, rfl, hin.pendings pendings⟩
      next =>
        have hin' : BrManager.Sound { m with waitings := front ++ l, pendings := pendings }
          (BrDevice.numbers { target with state := .waitSchedule } ++ []) := hin.pendings pendings
        exact .inl ⟨_, rfl, hin'.connectDeviceDirectly hc hkey _⟩

theorem BrManager.Sound.takeConnecting (hm : m.Sound hand) (hc : m.connecting = some device) :
    m.finish.Sound (device.numbers ++ hand) ∧ device.key ∉ m.waitings.map BrDevice.key := by
  have hu := hm.unique
  unfold BrManager.devices at hu
  rw [hc] at hu
  obtain ⟨hkey, hu⟩ := List.nodup_cons.mp hu
  refine ⟨⟨fun number => ?_, hu, hm.lost, iff_of_false nofun nofun⟩, hkey⟩
  have h := hm.once number
  rw [m.count_devices, hc, Option.toList_some, numbersOf_cons, numbersOf_nil, List.append_nil] at h
  rw [BrManager.count_devices, List.count_append]
  change _ + (0 + (numbersOf m.waitings).count number) + m.answered.count number =
    if number < m.accepted then 1 else 0
  omega

theorem BrManager.Sound.clientConnected (hm : m.Sound []) (connectionId : Nat) :
    (m.clientConnected connectionId).Sound [] := by
  unfold BrManager.clientConnected
  split
  next => exact hm
  next => exact hm.connections _
  next connection device _ hc =>
    split
    next =>
      have hin : m.finish.Sound (device.numbers ++ []) := (hm.takeConnecting hc).1
      exact (hin.connections _).answered_freed _
    next => exact hm.connections _

theorem BrManager.Sound.connectFailed (hm : m.Sound []) (hc : m.connecting = some device) (connection : BrManaged)
    (error : Int) : (m.connectFailed connection device error).finish.Sound [] := by
  obtain ⟨hin, hkey⟩ := hm.takeConnecting hc
  unfold BrManager.connectFailed
  split
  next m' h =>
    obtain ⟨it, _, h⟩ := Option.bind_eq_some_iff.mp h
    obtain ⟨cs, rfl⟩ := BrManager.reuseConnection_eq h
    exact (hin.connections _).answered_freed _
  next =>
    split
    next =>
      have hin' : m.finish.Sound (BrDevice.numbers { device with state := .pending } ++ []) := hin
      unfold BrManager.processAclCollisionException BrManager.pendConnection
      split
      next => exact (hin'.addWaiting nofun).connections _
      next => exact ((hin'.addWaiting nofun).pendings _).connections _
    next => exact (hin.connections _).answered_freed _

theorem BrManager.Sound.clientConnectFailed (hm : m.Sound []) (connectionId : Nat) (error : Int) :
    (m.clientConnectFailed connectionId error).Sound [] := by
  unfold BrManager.clientConnectFailed
  split
  next => exact hm
  next connection _ =>
    split
    next => exact hm.connections _
    next device hc =>
      split
      next =>
        have hm' : (m.modifyConnection connectionId connBrDisconnectNow).Sound [] := hm.connections _
        exact hm'.connectFailed hc connection error
      next => exact hm.connections _

theorem BrManager.Sound.clientConnectTimeout (hm : m.Sound []) (connectionId : Nat) (address : List UInt8) :
    (m.clientConnectTimeout connectionId address).Sound [] := by
  unfold BrManager.clientConnectTimeout
  split
  next => exact hm
  next =>
    split
    next => exact hm.connections _
    next device hc =>
      split
      next => exact ((hm.takeConnecting hc).1.connections _).answered_freed _
      next => exact hm.connections _

theorem BrManager.Sound.serverAccepted (hm : m.Sound []) (connectionId : Nat) :
    (m.serverAccepted connectionId).Sound [] := by
  unfold BrManager.serverAccepted
  split
  next => exact hm
  next connection _ =>
    split
    next => exact hm.unpendConnection _
    next => exact (hm.unpendConnection _).reuseAll _ _

theorem BrManager.Sound.resetDevices : ∀ (l : List BrDevice) {m : BrManager},
    { m with connecting := none, waitings := [], state := .available }.Sound (numbersOf l ++ hand) →
      { BrManager.resetDevices l m with connecting := none, waitings := [], state := .available }.Sound hand
  | [], _, hm => hm
  | device :: l, m, hm => by
    rw [numbersOf_cons, List.append_assoc] at hm
    exact resetDevices l (hm.answered_freed _)

theorem BrManager.Sound.reset (hm : m.Sound []) : m.reset.Sound [] := by
  have hin : { m with connecting := none, waitings := [], state := .available }.Sound (numbersOf m.devices ++ []) := by
    refine ⟨fun number => ?_, List.nodup_nil, hm.lost, iff_of_false nofun nofun⟩
    have h := hm.once number
    rw [List.count_nil, Nat.zero_add] at h
    rw [List.append_nil, ← h]
    rfl
  exact ((BrManager.Sound.resetDevices _ hin).connections _).pendings _

theorem BrManager.Sound.next (hm : m.Sound []) (event : BrManagerEvent) : (m.next event).Sound [] := by
  cases event with
  | connectRequest requestId addr env => exact hm.connectRequest requestId addr env
  | nextCmd env => exact hm.handlePendingRequest env
  | serverAccepted connectionId => exact hm.serverAccepted connectionId
  | clientConnected connectionId => exact hm.clientConnected connectionId
  | clientConnectFailed connectionId error => exact hm.clientConnectFailed connectionId error
  | clientConnectTimeout connectionId address => exact hm.clientConnectTimeout connectionId address
  | connectionException connectionId =>
    rw [BrManager.next, BrManager.connectionException]
    split
    next => exact hm
    next => exact (hm.scheduleWaiting _).connections _
  | connectionResume connectionId =>
    rw [BrManager.next, BrManager.connectionResume]
    split
    next => exact hm
    next => exact hm.reuseAll _ _
  | disconnectRequest connectionId => exact hm.connections _
  | unpend addr => exact hm.unpendConnection addr
  | reset => exact hm.reset
  | pend addr => exact hm.pendConnection addr
  | connections connections => exact hm.connections connections

end

/-- After every run each accepted request is in exactly one device and not answered, or
in none and answered once; no request was freed before its answer; no two devices have the
same address; and a device is being connected exactly in the connecting state. -/
theorem br_requests_answered_once (events : List BrManagerEvent) :
    (∀ number < (Run.final BrManager.next .init events).accepted,
      ((numbersOf (Run.final BrManager.next .init events).devices).count number = 1 ∧
        (Run.final BrManager.next .init events).answered.count number = 0) ∨
      ((numbersOf (Run.final BrManager.next .init events).devices).count number = 0 ∧
        (Run.final BrManager.next .init events).answered.count number = 1)) ∧
    (Run.final BrManager.next .init events).lost = [] ∧
    (Run.final BrManager.next .init events).devices.Pairwise
      (fun device device' => strCmpIgnoreCase device.addr device'.addr = false) ∧
    ((Run.final BrManager.next .init events).connecting.isSome = true ↔
      (Run.final BrManager.next .init events).state = .connecting) := by
  have hinit : BrManager.init.Sound [] := ⟨fun _ => rfl, List.nodup_nil, rfl, iff_of_false nofun nofun⟩
  have hm : (Run.final BrManager.next .init events).Sound [] :=
    Run.inv_final_of_step (I := fun m : BrManager => m.Sound []) (fun _ event hm => hm.next event) events hinit
  refine ⟨fun number hlt => ?_, hm.lost, ?_, hm.connecting⟩
  · have h := hm.once number
    rw [if_pos hlt, List.count_nil] at h
    omega
  · refine (List.pairwise_map.mp hm.unique).imp fun hne => ?_
    exact Bool.eq_false_iff.mpr fun h => hne (BrDevice.key_eq.mp h)

/-- Two requests for one address, in upper and lower case, and a third for another one. -/
theorem br_requests_answered_once_merged :
    ((numbersOf (Run.final BrManager.next .init
        [.connectRequest 7 [97] ⟨false, 0, 1⟩, .connectRequest 8 [65] ⟨false, 0, 1⟩, .nextCmd ⟨false, 0, 1⟩,
          .connectRequest 9 [98] ⟨false, 0, 2⟩, .clientConnected 1]).devices).count 1 = 1 ∧
      (Run.final BrManager.next .init
        [.connectRequest 7 [97] ⟨false, 0, 1⟩, .connectRequest 8 [65] ⟨false, 0, 1⟩, .nextCmd ⟨false, 0, 1⟩,
          .connectRequest 9 [98] ⟨false, 0, 2⟩, .clientConnected 1]).answered.count 1 = 0) ∨
    ((numbersOf (Run.final BrManager.next .init
        [.connectRequest 7 [97] ⟨false, 0, 1⟩, .connectRequest 8 [65] ⟨false, 0, 1⟩, .nextCmd ⟨false, 0, 1⟩,
          .connectRequest 9 [98] ⟨false, 0, 2⟩, .clientConnected 1]).devices).count 1 = 0 ∧
      (Run.final BrManager.next .init
        [.connectRequest 7 [97] ⟨false, 0, 1⟩, .connectRequest 8 [65] ⟨false, 0, 1⟩, .nextCmd ⟨false, 0, 1⟩,
          .connectRequest 9 [98] ⟨false, 0, 2⟩, .clientConnected 1]).answered.count 1 = 1) :=
  (br_requests_answered_once _).1 1 (by decide)

end SoftBus
