import SoftBus.Lib.FirstMatch
import SoftBus.Lib.Run

/-!
# Sync channels

The list of `lnn_sync_info_manager.c`: an entry has the channels that were opened to a peer and by it, and
the messages that wait for the first one. A sender opens its channel without the lock, so that other events
may come before it goes on. A failed allocation is a channel that is not opened.
-/

namespace SoftBus

def invalidChannelId : Int := -1

def unusedChannelClosedDelay : Int := 60 * 1000

structure SoftBusSysTime where
  sec : Int
  usec : Int
deriving DecidableEq, Repr

structure SyncChannelInfo (ν μ : Type) where
  networkId : ν
  accessTime : SoftBusSysTime
  clientChannelId : Int := invalidChannelId
  serverChannelId : Int := invalidChannelId
  isClientOpened : Bool := false
  syncMsgList : List μ := []
deriving DecidableEq, Repr

/-- `opening` has the senders that are in `SendSyncInfoByNewChannel`. -/
structure SyncInfoManager (ν μ : Type) where
  channelInfoList : List (SyncChannelInfo ν μ) := []
  opening : List (ν × μ) := []
deriving DecidableEq, Repr

section
variable {ν μ : Type}

namespace SyncChannelInfo

variable (info : SyncChannelInfo ν μ) (now : SoftBusSysTime) (channelId : Int)

def resetOpenChannelInfo (isServer : Bool) : SyncChannelInfo ν μ :=
  if isServer then { info with accessTime := now, serverChannelId := channelId }
  else { info with accessTime := now, isClientOpened := true, clientChannelId := channelId, syncMsgList := [] }

def onChannelCloseCommon : Option (SyncChannelInfo ν μ) :=
  if info.serverChannelId = channelId then some { info with serverChannelId := invalidChannelId }
  else if info.serverChannelId = invalidChannelId then none
  else some { info with syncMsgList := [], clientChannelId := invalidChannelId, isClientOpened := false }

/-- `diff` in `CloseUnusedChannel` -/
def unusedTime : Int := (now.sec - info.accessTime.sec) * 1000 + (now.usec - info.accessTime.usec).tdiv 1000

def closeUnused : Option (SyncChannelInfo ν μ) :=
  if !info.syncMsgList.isEmpty then some info
  else if info.clientChannelId = invalidChannelId then some info
  else if info.unusedTime now ≤ unusedChannelClosedDelay then some info
  else if info.serverChannelId = invalidChannelId then none
  else some { info with clientChannelId := invalidChannelId, isClientOpened := false }

/-- The message is put into the list before, and taken out again where it is sent. -/
def resetSendSyncInfo (msg : μ) : SyncChannelInfo ν μ :=
  if info.clientChannelId = invalidChannelId then
    { info with clientChannelId := channelId, accessTime := now, syncMsgList := info.syncMsgList ++ [msg] }
  else
    let info := if info.clientChannelId ≠ channelId then
      { info with isClientOpened := false, clientChannelId := channelId } else info
    if info.isClientOpened then { info with accessTime := now }
    else { info with syncMsgList := info.syncMsgList ++ [msg] }

/-- The rest of `TrySendSyncInfoMsg`, with a client channel. -/
def trySend (msg : μ) : SyncChannelInfo ν μ :=
  if info.isClientOpened then { info with accessTime := now }
  else { info with syncMsgList := info.syncMsgList ++ [msg] }

def hasChannelId : Bool := info.clientChannelId = channelId || info.serverChannelId = channelId

end SyncChannelInfo

variable [DecidableEq ν]

namespace SyncInfoManager

variable (mgr : SyncInfoManager ν μ) (now : SoftBusSysTime)

def findSyncChannelInfoByNetworkId (networkId : ν) : Option (SyncChannelInfo ν μ) :=
  mgr.channelInfoList.find? (·.networkId = networkId)

def findSyncChannelInfoByChannelId (channelId : Int) : Option (SyncChannelInfo ν μ) :=
  mgr.channelInfoList.find? (·.hasChannelId channelId)

def insert (info : SyncChannelInfo ν μ) : SyncInfoManager ν μ :=
  { mgr with channelInfoList := info :: mgr.channelInfoList }

def put (p : SyncChannelInfo ν μ → Bool) (info : Option (SyncChannelInfo ν μ)) : SyncInfoManager ν μ :=
  { mgr with channelInfoList := FirstMatch.put p info mgr.channelInfoList }

def onChannelOpened (channelId : Int) (networkId : Option ν) (isServer mem : Bool) : SyncInfoManager ν μ :=
  match networkId with
  | none => mgr
  | some networkId =>
    match mgr.findSyncChannelInfoByNetworkId networkId with
    | none =>
      if isServer && mem then mgr.insert { networkId, accessTime := now, serverChannelId := channelId } else mgr
    | some info => mgr.put (·.networkId = networkId) (info.resetOpenChannelInfo now channelId isServer)

def onChannelOpenFailed (channelId : Int) (networkId : Option ν) : SyncInfoManager ν μ :=
  match networkId with
  | none => mgr
  | some networkId =>
    match mgr.findSyncChannelInfoByNetworkId networkId with
    | none => mgr
    | some info =>
      if info.hasChannelId channelId then mgr.put (·.networkId = networkId) (info.onChannelCloseCommon channelId) else mgr

def onChannelClosed (channelId : Int) : SyncInfoManager ν μ :=
  match mgr.findSyncChannelInfoByChannelId channelId with
  | none => mgr
  | some info => mgr.put (·.hasChannelId channelId) (info.onChannelCloseCommon channelId)

/-- `handled` tells whether the message is well formed and has a handler. -/
def onMessageReceived (channelId : Int) (handled : Bool) : SyncInfoManager ν μ :=
  match mgr.findSyncChannelInfoByChannelId channelId with
  | none => mgr
  | some info => if handled then mgr.put (·.hasChannelId channelId) (some { info with accessTime := now }) else mgr

def lnnSyncManagerHandleOffline (networkId : ν) : SyncInfoManager ν μ := mgr.put (·.networkId = networkId) none

def closeUnusedChannel : SyncInfoManager ν μ :=
  { mgr with channelInfoList := mgr.channelInfoList.filterMap (·.closeUnused now) }

def trySendSyncInfoMsg (networkId : ν) (msg : μ) : SyncInfoManager ν μ :=
  let open' := { mgr with opening := mgr.opening ++ [(networkId, msg)] }
  match mgr.findSyncChannelInfoByNetworkId networkId with
  | none => open'
  | some info =>
    if info.clientChannelId = invalidChannelId then open' else mgr.put (·.networkId = networkId) (some (info.trySend now msg))

/-- What the `i`th of the senders does after `TransOpenNetWorkingChannel` has returned. -/
def sendSyncInfoByNewChannel (i : Nat) (channelId : Int) : SyncInfoManager ν μ :=
  match mgr.opening[i]? with
  | none => mgr
  | some (networkId, msg) =>
    let mgr := { mgr with opening := mgr.opening.eraseIdx i }
    if channelId = invalidChannelId then mgr
    else match mgr.findSyncChannelInfoByNetworkId networkId with
      | none => mgr.insert { networkId, accessTime := now, clientChannelId := channelId, syncMsgList := [msg] }
      | some info => mgr.put (·.networkId = networkId) (some (info.resetSendSyncInfo now channelId msg))

end SyncInfoManager

/-- The peer's network id is missing where it is not online. -/
inductive SyncEvent (ν μ : Type)
  | opened (channelId : Int) (networkId : Option ν) (isServer mem : Bool)
  | openFailed (channelId : Int) (networkId : Option ν)
  | closed (channelId : Int)
  | received (channelId : Int) (handled : Bool)
  | offline (networkId : ν)
  | unusedTimeout
  | send (networkId : ν) (msg : μ)
  | openReturned (i : Nat) (channelId : Int)

def SyncInfoManager.step (mgr : SyncInfoManager ν μ) : SoftBusSysTime × SyncEvent ν μ → SyncInfoManager ν μ
  | (now, .opened channelId networkId isServer mem) => mgr.onChannelOpened now channelId networkId isServer mem
  | (_, .openFailed channelId networkId) => mgr.onChannelOpenFailed channelId networkId
  | (_, .closed channelId) => mgr.onChannelClosed channelId
  | (now, .received channelId handled) => mgr.onMessageReceived now channelId handled
  | (_, .offline networkId) => mgr.lnnSyncManagerHandleOffline networkId
  | (now, .unusedTimeout) => mgr.closeUnusedChannel now
  | (now, .send networkId msg) => mgr.trySendSyncInfoMsg now networkId msg
  | (now, .openReturned i channelId) => mgr.sendSyncInfoByNewChannel now i channelId

end

/-! ## The invariant -/

section
variable {ν μ : Type}

namespace SyncChannelInfo

variable (info : SyncChannelInfo ν μ)

/-- A channel id that is in use by the entry. -/
def Uses (channelId : Int) : Prop :=
  channelId ≠ invalidChannelId ∧ (info.clientChannelId = channelId ∨ info.serverChannelId = channelId)

structure Ok : Prop where
  channel : info.clientChannelId ≠ invalidChannelId ∨ info.serverChannelId ≠ invalidChannelId
  client : info.syncMsgList ≠ [] → info.clientChannelId ≠ invalidChannelId

def Apart (info info' : SyncChannelInfo ν μ) : Prop :=
  info.networkId ≠ info'.networkId ∧ ∀ channelId, info.Uses channelId → ¬ info'.Uses channelId

end SyncChannelInfo

namespace SyncInfoManager

structure Inv (mgr : SyncInfoManager ν μ) : Prop where
  ok : ∀ info ∈ mgr.channelInfoList, info.Ok
  apart : mgr.channelInfoList.Pairwise SyncChannelInfo.Apart

/-- The channel id is in use by the entry of another peer. -/
def Taken (mgr : SyncInfoManager ν μ) (networkId : ν) (channelId : Int) : Prop :=
  ∃ info ∈ mgr.channelInfoList, info.networkId ≠ networkId ∧ info.Uses channelId

end SyncInfoManager

variable {mgr : SyncInfoManager ν μ} {info : SyncChannelInfo ν μ} {p : SyncChannelInfo ν μ → Bool}

theorem SyncChannelInfo.Apart.symm {info info' : SyncChannelInfo ν μ} (h : info.Apart info') : info'.Apart info :=
  ⟨h.1.symm, fun channelId h' hinfo => h.2 channelId hinfo h'⟩

theorem SyncChannelInfo.resetSendSyncInfo_eq (info : SyncChannelInfo ν μ) (now : SoftBusSysTime) (channelId : Int) (msg : μ) :
    (info.resetSendSyncInfo now channelId msg).networkId = info.networkId ∧
      (info.resetSendSyncInfo now channelId msg).clientChannelId = channelId ∧
      (info.resetSendSyncInfo now channelId msg).serverChannelId = info.serverChannelId := by
  unfold SyncChannelInfo.resetSendSyncInfo
  split
  · exact ⟨rfl, rfl, rfl⟩
  by_cases hsame : info.clientChannelId = channelId
  · rw [if_neg (not_not.mpr hsame)]
    dsimp only
    split <;> exact ⟨rfl, hsame, rfl⟩
  · rw [if_pos hsame]
    exact ⟨rfl, rfl, rfl⟩

namespace SyncInfoManager

theorem Inv.taken_iff (h : mgr.Inv) {others : List (SyncChannelInfo ν μ)} (hperm : mgr.channelInfoList.Perm (info :: others))
    {channelId : Int} : mgr.Taken info.networkId channelId ↔ ∃ other ∈ others, other.Uses channelId := by
  have hapart := (List.pairwise_cons.mp ((hperm.pairwise_iff fun h => h.symm).mp h.apart)).1
  constructor
  · rintro ⟨other, hmem, hne, huses⟩
    rcases List.mem_cons.mp (hperm.mem_iff.mp hmem) with rfl | hmem
    · exact absurd rfl hne
    · exact ⟨other, hmem, huses⟩
  · rintro ⟨other, hmem, huses⟩
    exact ⟨other, hperm.mem_iff.mpr (.tail _ hmem), (hapart other hmem).1.symm, huses⟩

theorem Inv.not_taken (h : mgr.Inv) (hmem : info ∈ mgr.channelInfoList) {channelId : Int} (huses : info.Uses channelId) :
    ¬ mgr.Taken info.networkId channelId := by
  obtain ⟨before, after, hsplit⟩ := List.append_of_mem hmem
  have hperm : mgr.channelInfoList.Perm (info :: (before ++ after)) := hsplit ▸ List.perm_middle
  rw [h.taken_iff hperm]
  rintro ⟨other, hother, huses'⟩
  have hapart := (List.pairwise_cons.mp ((hperm.pairwise_iff fun h => h.symm).mp h.apart)).1
  exact (hapart other hother).2 channelId huses huses'

theorem inv_insert_iff (h : mgr.Inv) (hne : ∀ other ∈ mgr.channelInfoList, other.networkId ≠ info.networkId) :
    (mgr.insert info).Inv ↔ info.Ok ∧ ∀ channelId, info.Uses channelId → ¬ mgr.Taken info.networkId channelId := by
  constructor
  · rintro ⟨hok, hapart⟩
    refine ⟨hok info (.head _), ?_⟩
    rintro channelId huses ⟨other, hother, -, huses'⟩
    exact ((List.pairwise_cons.mp hapart).1 other hother).2 channelId huses huses'
  · rintro ⟨hok, htaken⟩
    refine ⟨List.forall_mem_cons.mpr ⟨hok, h.ok⟩, List.pairwise_cons.mpr ⟨fun other hother => ?_, h.apart⟩⟩
    refine ⟨(hne other hother).symm, fun channelId huses huses' => htaken channelId huses ?_⟩
    exact ⟨other, hother, hne other hother, huses'⟩

theorem inv_put_iff (h : mgr.Inv) (hfind : mgr.channelInfoList.find? p = some info) {new : Option (SyncChannelInfo ν μ)}
    (hnew : ∀ info', new = some info' → info'.networkId = info.networkId) :
    (mgr.put p new).Inv ↔ ∀ info', new = some info' →
      info'.Ok ∧ ∀ channelId, info'.Uses channelId → ¬ mgr.Taken info.networkId channelId := by
  obtain ⟨before, after, hsplit, hput⟩ := FirstMatch.put_split new hfind
  have hperm : mgr.channelInfoList.Perm (info :: (before ++ after)) := hsplit ▸ List.perm_middle
  have hothers := List.pairwise_cons.mp ((hperm.pairwise_iff fun h => h.symm).mp h.apart)
  have hok : ∀ other ∈ before ++ after, other.Ok := fun other hother => h.ok other (hperm.mem_iff.mpr (.tail _ hother))
  cases new with
  | none =>
    rw [Option.toList_none, List.append_nil] at hput
    refine iff_of_true ⟨?_, ?_⟩ fun _ h => nomatch h
    · exact fun other hother => hok other (hput ▸ hother)
    · exact (congrArg (List.Pairwise SyncChannelInfo.Apart) hput).mpr hothers.2
  | some info' =>
    have hid := hnew info' rfl
    have hperm' : (mgr.put p (some info')).channelInfoList.Perm (info' :: (before ++ after)) := by
      refine (List.Perm.of_eq hput).trans ?_
      rw [Option.toList_some, List.append_assoc]
      exact List.perm_middle
    constructor
    · rintro hinv _ ⟨⟩
      refine ⟨hinv.ok info' (hperm'.mem_iff.mpr (.head _)), fun channelId huses => ?_⟩
      rw [h.taken_iff hperm]
      rintro ⟨other, hother, huses'⟩
      have hapart := (List.pairwise_cons.mp ((hperm'.pairwise_iff fun h => h.symm).mp hinv.apart)).1
      exact (hapart other hother).2 channelId huses huses'
    · intro hnew'
      obtain ⟨hok', htaken⟩ := hnew' info' rfl
      refine ⟨fun other hother => ?_, (hperm'.pairwise_iff fun h => h.symm).mpr (List.pairwise_cons.mpr ⟨?_, hothers.2⟩)⟩
      · rcases List.mem_cons.mp (hperm'.mem_iff.mp hother) with rfl | hother
        · exact hok'
        · exact hok other hother
      · intro other hother
        refine ⟨hid ▸ (hothers.1 other hother).1, fun channelId huses huses' => htaken channelId huses ?_⟩
        exact (h.taken_iff hperm).mpr ⟨other, hother, huses'⟩

theorem inv_put_iff_of_uses (h : mgr.Inv) (hfind : mgr.channelInfoList.find? p = some info)
    {new : Option (SyncChannelInfo ν μ)} (hnew : ∀ info', new = some info' → info'.networkId = info.networkId ∧
      ∀ channelId, info'.Uses channelId → info.Uses channelId) :
    (mgr.put p new).Inv ↔ ∀ info', new = some info' → info'.Ok := by
  rw [inv_put_iff h hfind fun info' h' => (hnew info' h').1]
  refine forall₂_congr fun info' h' => and_iff_left fun channelId huses => ?_
  exact h.not_taken (List.mem_of_find?_eq_some hfind) ((hnew info' h').2 channelId huses)

theorem not_taken_invalid {networkId : ν} : ¬ mgr.Taken networkId invalidChannelId := by
  rintro ⟨info, -, -, huses⟩
  exact huses.1 rfl

theorem forall_not_taken_iff {networkId : ν} {channelId : Int}
    (hnew : ∀ id, info.Uses id → id = channelId ∨ ¬ mgr.Taken networkId id)
    (huses : channelId ≠ invalidChannelId → info.Uses channelId) :
    (∀ id, info.Uses id → ¬ mgr.Taken networkId id) ↔ ¬ mgr.Taken networkId channelId := by
  constructor
  · intro hall
    by_cases hvalid : channelId = invalidChannelId
    · rw [hvalid]
      exact not_taken_invalid
    · exact hall channelId (huses hvalid)
  · intro htaken id hid
    rcases hnew id hid with rfl | hother
    · exact htaken
    · exact hother

theorem inv_put_some_iff (h : mgr.Inv) (hfind : mgr.channelInfoList.find? p = some info) (channelId : Int)
    {info' : SyncChannelInfo ν μ} (hid : info'.networkId = info.networkId)
    (hnew : ∀ id, info'.Uses id → id = channelId ∨ info.Uses id)
    (huses : channelId ≠ invalidChannelId → info'.Uses channelId) :
    (mgr.put p (some info')).Inv ↔ info'.Ok ∧ ¬ mgr.Taken info.networkId channelId := by
  have hnew' : ∀ id, info'.Uses id → id = channelId ∨ ¬ mgr.Taken info.networkId id :=
    fun id hid => (hnew id hid).imp_right (h.not_taken (List.mem_of_find?_eq_some hfind))
  rw [inv_put_iff h hfind (by rintro _ ⟨⟩; exact hid), ← forall_not_taken_iff hnew' huses]
  exact ⟨fun h => h info' rfl, by rintro h _ ⟨⟩; exact h⟩

theorem inv_close_iff (h : mgr.Inv) (hfind : mgr.channelInfoList.find? p = some info) (channelId : Int) :
    (mgr.put p (info.onChannelCloseCommon channelId)).Inv ↔
      ¬ (info.serverChannelId = channelId ∧ info.clientChannelId = invalidChannelId) := by
  have hok := h.ok info (List.mem_of_find?_eq_some hfind)
  unfold SyncChannelInfo.onChannelCloseCommon
  split
  · rename_i hserver
    rw [inv_put_iff_of_uses h hfind (by
      rintro info' ⟨⟩
      exact ⟨rfl, fun id huses => ⟨huses.1, huses.2.imp_right fun h => absurd h.symm huses.1⟩⟩)]
    constructor
    · rintro hnew ⟨-, hclient⟩
      rcases (hnew _ rfl).channel with h | h
      · exact h hclient
      · exact h rfl
    · rintro hclient info' ⟨⟩
      have hclient : info.clientChannelId ≠ invalidChannelId := fun h => hclient ⟨hserver, h⟩
      exact ⟨.inl hclient, fun _ => hclient⟩
  · rename_i hserver
    refine iff_of_true ?_ fun h => hserver h.1
    split
    · refine (inv_put_iff_of_uses h hfind ?_).mpr ?_
      · rintro info' ⟨⟩
      · rintro info' ⟨⟩
    · rename_i hvalid
      refine (inv_put_iff_of_uses h hfind ?_).mpr ?_
      · rintro info' ⟨⟩
        exact ⟨rfl, fun id huses => ⟨huses.1, huses.2.imp_left fun h => absurd h.symm huses.1⟩⟩
      · rintro info' ⟨⟩
        exact ⟨.inr hvalid, fun h => absurd rfl h⟩

theorem inv_closeUnusedChannel (h : mgr.Inv) (now : SoftBusSysTime) : (mgr.closeUnusedChannel now).Inv := by
  have hclose : ∀ info info' : SyncChannelInfo ν μ, info.closeUnused now = some info' → info.Ok →
      info'.Ok ∧ info'.networkId = info.networkId ∧ ∀ channelId, info'.Uses channelId → info.Uses channelId := by
    intro info info' hsome hok
    unfold SyncChannelInfo.closeUnused at hsome
    split at hsome
    · cases hsome
      exact ⟨hok, rfl, fun _ => id⟩
    rename_i hempty
    split at hsome
    · cases hsome
      exact ⟨hok, rfl, fun _ => id⟩
    split at hsome
    · cases hsome
      exact ⟨hok, rfl, fun _ => id⟩
    split at hsome
    · cases hsome
    rename_i hserver
    cases hsome
    refine ⟨⟨.inr hserver, fun hmsg => absurd hmsg (by simpa using hempty)⟩, rfl, fun id huses => ⟨huses.1, .inr ?_⟩⟩
    exact huses.2.resolve_left fun h => huses.1 h.symm
  refine ⟨fun info' hmem => ?_, List.pairwise_filterMap.mpr ?_⟩
  · obtain ⟨info, hmem, hsome⟩ := List.mem_filterMap.mp hmem
    exact (hclose info info' hsome (h.ok info hmem)).1
  · refine h.apart.imp_of_mem fun {a b} ha hb hapart a' ha' b' hb' => ?_
    obtain ⟨-, haid, hause⟩ := hclose a a' ha' (h.ok a ha)
    obtain ⟨-, hbid, hbuse⟩ := hclose b b' hb' (h.ok b hb)
    exact ⟨haid ▸ hbid ▸ hapart.1, fun channelId hu hu' => hapart.2 channelId (hause _ hu) (hbuse _ hu')⟩

end SyncInfoManager

end

/-! ## Events -/

section
variable {ν μ : Type} [DecidableEq ν]

/-- The events that break the invariant: the channel of the peer is closed in an entry without another one,
a channel is reported under an id that is in use, or as opened without a valid id. -/
def SyncEvent.Breaks (mgr : SyncInfoManager ν μ) : SyncEvent ν μ → Prop
  | opened _ none _ _ => False
  | opened channelId (some networkId) isServer mem =>
    match mgr.findSyncChannelInfoByNetworkId networkId with
    | none => isServer = true ∧ mem = true ∧ (channelId = invalidChannelId ∨ mgr.Taken networkId channelId)
    | some info => mgr.Taken networkId channelId ∨ channelId = invalidChannelId ∧
        (if isServer then info.clientChannelId else info.serverChannelId) = invalidChannelId
  | openFailed _ none => False
  | openFailed channelId (some networkId) => ∃ info, mgr.findSyncChannelInfoByNetworkId networkId = some info ∧
      info.serverChannelId = channelId ∧ info.clientChannelId = invalidChannelId
  | closed channelId => ∃ info, mgr.findSyncChannelInfoByChannelId channelId = some info ∧
      info.serverChannelId = channelId ∧ info.clientChannelId = invalidChannelId
  | openReturned i channelId => ∃ sender, mgr.opening[i]? = some sender ∧ mgr.Taken sender.1 channelId
  | _ => False

namespace SyncInfoManager

variable {mgr : SyncInfoManager ν μ} {info : SyncChannelInfo ν μ} {networkId : ν} {channelId : Int}

theorem networkId_of_find (hfind : mgr.findSyncChannelInfoByNetworkId networkId = some info) : info.networkId = networkId := by
  simpa using List.find?_some hfind

theorem forall_ne_of_find (hfind : mgr.findSyncChannelInfoByNetworkId networkId = none) :
    ∀ other ∈ mgr.channelInfoList, other.networkId ≠ networkId := by
  simpa [findSyncChannelInfoByNetworkId] using hfind

theorem inv_opened_iff (h : mgr.Inv) (now : SoftBusSysTime) (channelId : Int) (networkId : Option ν) (isServer mem : Bool) :
    (mgr.onChannelOpened now channelId networkId isServer mem).Inv ↔
      ¬ (SyncEvent.opened channelId networkId isServer mem).Breaks mgr := by
  cases networkId with
  | none => exact iff_of_true h id
  | some networkId =>
  unfold onChannelOpened SyncEvent.Breaks
  dsimp only
  cases hfind : mgr.findSyncChannelInfoByNetworkId networkId with
  | none =>
    dsimp only
    by_cases hcreate : isServer = true ∧ mem = true
    · have hne := forall_ne_of_find hfind
      rw [if_pos (by simpa using hcreate), and_iff_right hcreate.1, and_iff_right hcreate.2, inv_insert_iff h hne,
        forall_not_taken_iff, not_or]
      · refine and_congr_left fun _ => ⟨fun hok => ?_, fun hvalid => ⟨.inr hvalid, fun hmsg => absurd rfl hmsg⟩⟩
        exact hok.channel.resolve_left fun h => h rfl
      · exact fun id hid => .inl (hid.2.resolve_left fun h => hid.1 h.symm).symm
      · exact fun hvalid => ⟨hvalid, .inr rfl⟩
    · rw [if_neg (by simpa using hcreate)]
      exact iff_of_true h fun hbreaks => hcreate ⟨hbreaks.1, hbreaks.2.1⟩
  | some info =>
    obtain rfl := networkId_of_find hfind
    have hok := h.ok info (List.mem_of_find?_eq_some hfind)
    dsimp only
    rw [not_or, and_comm]
    cases isServer with
    | true =>
      refine (inv_put_some_iff h hfind channelId ?_ ?_ ?_).trans (and_congr_left fun _ => ⟨?_, fun hvalid => ?_⟩)
      · exact rfl
      · exact fun id hid => hid.2.symm.imp Eq.symm fun h => ⟨hid.1, .inl h⟩
      · exact fun hvalid => ⟨hvalid, .inr rfl⟩
      · rintro ⟨hchannel, -⟩ ⟨rfl, hclient⟩
        exact hchannel.elim (· hclient) (· rfl)
      · exact ⟨not_and_or.mp fun h => hvalid h.symm, hok.client⟩
    | false =>
      refine (inv_put_some_iff h hfind channelId ?_ ?_ ?_).trans (and_congr_left fun _ => ⟨?_, fun hvalid => ?_⟩)
      · exact rfl
      · exact fun id hid => hid.2.imp Eq.symm fun h => ⟨hid.1, .inr h⟩
      · exact fun hvalid => ⟨hvalid, .inl rfl⟩
      · rintro ⟨hchannel, -⟩ ⟨rfl, hserver⟩
        exact hchannel.elim (· rfl) (· hserver)
      · exact ⟨not_and_or.mp hvalid, fun hmsg => absurd rfl hmsg⟩

theorem inv_openReturned_iff (h : mgr.Inv) (now : SoftBusSysTime) (i : Nat) (channelId : Int) :
    (mgr.sendSyncInfoByNewChannel now i channelId).Inv ↔ ¬ (SyncEvent.openReturned i channelId).Breaks mgr := by
  unfold sendSyncInfoByNewChannel
  change _ ↔ ¬ ∃ sender, mgr.opening[i]? = some sender ∧ mgr.Taken sender.1 channelId
  cases mgr.opening[i]? with
  | none => simpa using h
  | some sender =>
    obtain ⟨networkId, msg⟩ := sender
    have hbreaks : (∃ sender : ν × μ, some (networkId, msg) = some sender ∧ mgr.Taken sender.1 channelId) ↔
        mgr.Taken networkId channelId := by simp
    rw [hbreaks]
    dsimp only
    have h' : ({ mgr with opening := mgr.opening.eraseIdx i } : SyncInfoManager ν μ).Inv := ⟨h.ok, h.apart⟩
    change _ ↔ ¬ ({ mgr with opening := mgr.opening.eraseIdx i } : SyncInfoManager ν μ).Taken networkId channelId
    generalize ({ mgr with opening := mgr.opening.eraseIdx i } : SyncInfoManager ν μ) = mgr at *
    split
    · rename_i hinvalid
      rw [hinvalid]
      exact iff_of_true h' not_taken_invalid
    rename_i hvalid
    cases hfind : mgr.findSyncChannelInfoByNetworkId networkId with
    | none =>
      rw [inv_insert_iff h' (forall_ne_of_find hfind), forall_not_taken_iff]
      · exact and_iff_right ⟨.inl hvalid, fun _ => hvalid⟩
      · exact fun id hid => .inl (hid.2.resolve_right fun h => hid.1 h.symm).symm
      · exact fun _ => ⟨hvalid, .inl rfl⟩
    | some info =>
      obtain rfl := networkId_of_find hfind
      obtain ⟨hid, hclient, hserver⟩ := info.resetSendSyncInfo_eq now channelId msg
      have huses : ∀ id, (info.resetSendSyncInfo now channelId msg).Uses id ↔
          id ≠ invalidChannelId ∧ (channelId = id ∨ info.serverChannelId = id) := by
        intro id
        rw [SyncChannelInfo.Uses, hclient, hserver]
      refine (inv_put_some_iff h' hfind channelId hid ?_ ?_).trans (and_iff_right ?_)
      · exact fun id h => ((huses id).mp h).2.imp Eq.symm fun hs => ⟨((huses id).mp h).1, .inr hs⟩
      · exact fun _ => (huses channelId).mpr ⟨hvalid, .inl rfl⟩
      · exact ⟨.inl (hclient.symm ▸ hvalid), fun _ => hclient.symm ▸ hvalid⟩

theorem inv_step_iff (event : SoftBusSysTime × SyncEvent ν μ) (h : mgr.Inv) :
    (mgr.step event).Inv ↔ ¬ event.2.Breaks mgr := by
  obtain ⟨now, event⟩ := event
  cases event with
  | opened channelId networkId isServer mem => exact inv_opened_iff h now channelId networkId isServer mem
  | openFailed channelId networkId =>
    cases networkId with
    | none => exact iff_of_true h id
    | some networkId =>
      simp only [step, onChannelOpenFailed, SyncEvent.Breaks]
      cases hfind : mgr.findSyncChannelInfoByNetworkId networkId with
      | none => simpa using h
      | some info =>
        dsimp only
        split
        · simpa using inv_close_iff h hfind channelId
        · rename_i hother
          refine iff_of_true h ?_
          rintro ⟨_, ⟨⟩, hserver, -⟩
          exact hother (by simp [SyncChannelInfo.hasChannelId, hserver])
  | closed channelId =>
    simp only [step, onChannelClosed, SyncEvent.Breaks]
    cases hfind : mgr.findSyncChannelInfoByChannelId channelId with
    | none => simpa using h
    | some info => simpa using inv_close_iff h hfind channelId
  | received channelId handled =>
    refine iff_of_true ?_ id
    simp only [step, onMessageReceived]
    cases hfind : mgr.findSyncChannelInfoByChannelId channelId with
    | none => exact h
    | some info =>
      have hok := h.ok info (List.mem_of_find?_eq_some hfind)
      dsimp only
      split
      · refine (inv_put_iff_of_uses h hfind ?_).mpr ?_
        · rintro info' ⟨⟩
          exact ⟨rfl, fun _ => id⟩
        · rintro info' ⟨⟩
          exact ⟨hok.channel, hok.client⟩
      · exact h
  | offline networkId =>
    refine iff_of_true ?_ id
    cases hfind : mgr.findSyncChannelInfoByNetworkId networkId with
    | none =>
      have hsame : mgr.channelInfoList.eraseP (·.networkId = networkId) = mgr.channelInfoList :=
        List.eraseP_of_forall_not (by simpa using forall_ne_of_find hfind)
      have hstep : mgr.step (now, .offline networkId) = mgr :=
        congrArg (fun list => { mgr with channelInfoList := list }) hsame
      exact hstep.symm ▸ h
    | some info =>
      refine (inv_put_iff_of_uses h hfind ?_).mpr ?_
      · rintro info' ⟨⟩
      · rintro info' ⟨⟩
  | unusedTimeout => exact iff_of_true (inv_closeUnusedChannel h now) id
  | send networkId msg =>
    refine iff_of_true ?_ id
    have hopen : ({ mgr with opening := mgr.opening ++ [(networkId, msg)] } : SyncInfoManager ν μ).Inv := ⟨h.ok, h.apart⟩
    simp only [step, trySendSyncInfoMsg]
    cases hfind : mgr.findSyncChannelInfoByNetworkId networkId with
    | none => exact hopen
    | some info =>
      dsimp only
      split
      · exact hopen
      · rename_i hclient
        have htry : (info.trySend now msg).networkId = info.networkId ∧
            (info.trySend now msg).clientChannelId = info.clientChannelId ∧
            (info.trySend now msg).serverChannelId = info.serverChannelId := by
          unfold SyncChannelInfo.trySend
          split <;> exact ⟨rfl, rfl, rfl⟩
        obtain ⟨hid, hclient', hserver'⟩ := htry
        refine (inv_put_iff_of_uses h hfind ?_).mpr ?_
        · rintro info' ⟨⟩
          refine ⟨hid, fun id huses => ?_⟩
          rwa [SyncChannelInfo.Uses, hclient', hserver'] at huses
        · rintro info' ⟨⟩
          exact ⟨.inl (hclient' ▸ hclient), fun _ => hclient' ▸ hclient⟩
  | openReturned i channelId => exact inv_openReturned_iff h now i channelId

end SyncInfoManager

/-- The invariant holds after each of the events if and only if none of them breaks it. -/
theorem sync_channel_invariant_iff (events : List (SoftBusSysTime × SyncEvent ν μ)) :
    Run.Always SyncInfoManager.step (fun mgr event => (SyncInfoManager.step mgr event).Inv) {} events ↔
      Run.Always SyncInfoManager.step (fun mgr event => ¬ event.2.Breaks mgr) {} events :=
  Run.always_iff_of_inv (I := SyncInfoManager.Inv) (fun _ event h => SyncInfoManager.inv_step_iff event h)
    (fun _ _ _ h => h) ⟨by simp, .nil⟩ events

end

/-- The channel that the peer has opened is closed, and its entry stays. -/
theorem closed_server_channel_stays :
    let mgr := Run.final SyncInfoManager.step ({} : SyncInfoManager Nat Unit)
      [(⟨0, 0⟩, .opened 5 (some 1) true true), (⟨0, 0⟩, .closed 5)]
    mgr.channelInfoList = [{ networkId := 1, accessTime := ⟨0, 0⟩ }] ∧ ¬ mgr.Inv := by
  refine ⟨by decide, fun h => ?_⟩
  rcases (h.ok { networkId := 1, accessTime := ⟨0, 0⟩ } (by decide)).channel with h | h <;> exact h rfl

end SoftBus
