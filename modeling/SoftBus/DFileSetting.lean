import SoftBus.DFileBlockSound

/-!
# The block size of a DFile transfer

A server negotiates a frame size with each of its clients, and keeps the smallest
one for all of them. The block size of a task is taken from it when the task is
made.
-/

namespace SoftBus

/-! ## Settings -/

def nstackxMinMtuSize : Nat := 64

def nstackxDefaultFrameSize : Nat := 1472

def maxPeerInfoSize : Nat := 10

def maxNegotiateTimeoutCount : Nat := 3

inductive ConnType where
  | p2p
  | wlan
deriving DecidableEq, Repr

structure DFileClient where
  mtu : Nat
  connType : ConnType
deriving DecidableEq, Repr

/-- `NSTACKX_P2P_FRAME_SIZE_TIMES` and `NSTACKX_WLAN_FRAME_SIZE_TIMES` -/
def frameSizeTimes : ConnType → Nat
  | .p2p => 1
  | .wlan => 1

def getDFileConfig (mtu : Nat) (connType : ConnType) : Option Nat :=
  if mtu = 0 then none else some (frameSizeTimes connType * mtu % 65536)

/-- `FileManagerSetMaxFrameLength`, for a file manager with the length `old`. -/
def fileManagerSetMaxFrameLength (key : Bool) (old maxFrameLength : Nat) : Nat :=
  if maxFrameLength ≤ fileDataFrameLen ∨ nstackxMaxFrameSize < maxFrameLength then old
  else if key ∧ maxFrameLength - fileDataFrameLen ≤ gcmAddedLen then old
  else if old = 0 ∨ maxFrameLength < old then maxFrameLength
  else old

/-- `SetDFileSessionConfig` with what `GetDFileConfig` gives for the mtu in use. -/
def setDFileSessionConfig (key : Bool) (old mtuInuse : Nat) (connType : ConnType) : Nat :=
  match getDFileConfig mtuInuse connType with
  | none => old
  | some dataFrameSize => fileManagerSetMaxFrameLength key old dataFrameSize

/-- `DFileSessionSetPeerInfo`: the smaller of the local mtu and the peer's. -/
def mtuInuse (localMtu mtu : Nat) : Nat := if localMtu < mtu then localMtu else mtu

structure PeerInfo where
  settingTimeoutCnt : Nat
  -- `SETTING_NEGOTIATED`: its timer is off
  negotiated : Bool
deriving DecidableEq, Repr

/-- A receive task, and the clients whose settings the server had taken in when it was made. -/
structure ServerTask where
  owner : Nat
  transId : Nat
  standardBlockSize : Nat
  settings : List Nat
deriving DecidableEq, Repr

structure ClientTask where
  owner : Nat
  transId : Nat
  standardBlockSize : Nat
deriving DecidableEq, Repr

/-- A server session and its clients, which go by numbers. -/
structure DFileSessions where
  peerInfo : Nat → Option PeerInfo := fun _ => none
  peerInfoCnt : Nat := 0
  -- of the server's file manager
  maxFrameLength : Nat := 0
  recvTasks : List ServerTask := []
  -- the clients whose settings the server has taken in, the last one first
  settings : List Nat := []
  -- the clients to which the server has sent its setting
  replied : List Nat := []
  -- of the client's file manager
  clientMaxFrameLength : Nat → Nat := fun _ => 0
  sendTasks : List ClientTask := []

inductive SettingEvent where
  -- a setting frame of the client reaches the server
  | handleServerSetting (client : Nat)
  -- `ServerSettingTimeoutHandle`
  | serverSettingTimeout (client : Nat)
  -- a setting frame of the server reaches the client
  | handleClientSetting (client : Nat)
  -- the client starts to send the files of a transfer
  | fileManagerSendFileTask (client transId : Nat)
  -- the server has the header of a transfer of this client
  | fileManagerRecvFileTask (client transId : Nat)
deriving DecidableEq, Repr

namespace DFileSessions

variable (key : Bool) (client : Nat → DFileClient) (s : DFileSessions)

def serverConfig (c : Nat) (peer : PeerInfo) : DFileSessions :=
  { s with
    peerInfo := Function.update s.peerInfo c (some { peer with settingTimeoutCnt := peer.settingTimeoutCnt + 1 })
    maxFrameLength := setDFileSessionConfig key s.maxFrameLength (mtuInuse nstackxDefaultFrameSize (client c).mtu)
        (client c).connType
    settings := c :: s.settings
    replied := c :: s.replied }

def dFileSessionHandleServerSetting (c : Nat) : DFileSessions :=
  if (client c).mtu < nstackxMinMtuSize then s
  else
    match s.peerInfo c with
    | some peer =>
      if maxNegotiateTimeoutCount ≤ peer.settingTimeoutCnt then s
      else serverConfig key client s c { peer with negotiated := false }
    | none =>
      if maxPeerInfoSize ≤ s.peerInfoCnt then s
      else serverConfig key client { s with peerInfoCnt := s.peerInfoCnt + 1 } c ⟨0, false⟩

def serverSettingTimeoutHandle (c : Nat) : DFileSessions :=
  match s.peerInfo c with
  | none => s
  | some peer =>
    if peer.negotiated then s
    else { s with peerInfo := Function.update s.peerInfo c none, peerInfoCnt := s.peerInfoCnt - 1 }

/-- The server's frame says `NSTACKX_DEFAULT_FRAME_SIZE`; the local mtu is the client's. -/
def dFileSessionHandleClientSetting (c : Nat) : DFileSessions :=
  if c ∉ s.replied then s
  else
    { s with
      clientMaxFrameLength := Function.update s.clientMaxFrameLength c
        (setDFileSessionConfig key (s.clientMaxFrameLength c) (mtuInuse (client c).mtu nstackxDefaultFrameSize)
            (client c).connType) }

def fileManagerSendFileTask (c transId : Nat) : DFileSessions :=
  if getStandardBlockSize (s.clientMaxFrameLength c) key = 0 then s
  else { s with sendTasks := ⟨c, transId, getStandardBlockSize (s.clientMaxFrameLength c) key⟩ :: s.sendTasks }

/-- The header of a peer that is not known is answered with a reset; the first frame of one that is settles
its state. -/
def fileManagerRecvFileTask (c transId : Nat) : DFileSessions :=
  match s.peerInfo c with
  | none => s
  | some peer =>
    if getStandardBlockSize s.maxFrameLength key = 0 then s
    else
      { s with
        peerInfo := Function.update s.peerInfo c (some { peer with negotiated := true })
        recvTasks := ⟨c, transId, getStandardBlockSize s.maxFrameLength key, s.settings⟩ :: s.recvTasks }

def next : SettingEvent → DFileSessions
  | .handleServerSetting c => s.dFileSessionHandleServerSetting key client c
  | .serverSettingTimeout c => s.serverSettingTimeoutHandle c
  | .handleClientSetting c => s.dFileSessionHandleClientSetting key client c
  | .fileManagerSendFileTask c transId => s.fileManagerSendFileTask key c transId
  | .fileManagerRecvFileTask c transId => s.fileManagerRecvFileTask key c transId

end DFileSessions

/-! ## Agreement -/

def DFileClient.frameSize (c : DFileClient) : Nat := min nstackxDefaultFrameSize c.mtu

section
variable {key : Bool} {c : DFileClient}

theorem DFileClient.frameSize_bounds (hc : nstackxMinMtuSize ≤ c.mtu) : 64 ≤ c.frameSize ∧ c.frameSize ≤ 1472 := by
  unfold DFileClient.frameSize nstackxDefaultFrameSize
  unfold nstackxMinMtuSize at hc
  omega

theorem fileManagerSetMaxFrameLength_eq {old m : Nat} (hm : 64 ≤ m ∧ m ≤ 1472) :
    fileManagerSetMaxFrameLength key old m = if old = 0 then m else min old m := by
  unfold fileManagerSetMaxFrameLength
  have hlegal : ¬ (m ≤ fileDataFrameLen ∨ nstackxMaxFrameSize < m) := by
    unfold fileDataFrameLen nstackxMaxFrameSize
    omega
  have hkey : ¬ (key = true ∧ m - fileDataFrameLen ≤ gcmAddedLen) := by
    unfold fileDataFrameLen gcmAddedLen
    omega
  rw [if_neg hlegal, if_neg hkey]
  by_cases hold : old = 0
  · rw [if_pos (.inl hold), if_pos hold]
  · rw [if_neg hold]
    split <;> omega

theorem setDFileSessionConfig_eq {old mtu : Nat} (hc : nstackxMinMtuSize ≤ c.mtu) (hmtu : mtu = c.frameSize) :
    setDFileSessionConfig key old mtu c.connType = if old = 0 then c.frameSize else min old c.frameSize := by
  have hbounds := c.frameSize_bounds hc
  have htimes : frameSizeTimes c.connType = 1 := by cases c.connType <;> rfl
  unfold setDFileSessionConfig getDFileConfig
  rw [hmtu, if_neg (by omega), htimes, Nat.one_mul, Nat.mod_eq_of_lt (by omega)]
  exact fileManagerSetMaxFrameLength_eq hbounds

theorem mtuInuse_server (c : DFileClient) : mtuInuse nstackxDefaultFrameSize c.mtu = c.frameSize := by
  unfold mtuInuse DFileClient.frameSize
  split <;> omega

theorem mtuInuse_client (c : DFileClient) : mtuInuse c.mtu nstackxDefaultFrameSize = c.frameSize := by
  unfold mtuInuse DFileClient.frameSize
  split <;> omega

theorem getStandardBlockSize_inj {m m' : Nat} (hm : 64 ≤ m ∧ m ≤ 1472) (hm' : 64 ≤ m' ∧ m' ≤ 1472)
    (h : getStandardBlockSize m key = getStandardBlockSize m' key) : m = m' := by
  have heq : ∀ n, 64 ≤ n → n ≤ 1472 → getStandardBlockSize n key = n - (if key then 42 else 14) := by
    intro n hlow hhigh
    unfold getStandardBlockSize
    rw [if_neg (by unfold fileDataFrameLen; omega)]
    cases key with
    | false =>
      simp only [Bool.false_eq_true, ↓reduceIte]
      exact Nat.mod_eq_of_lt (by omega)
    | true =>
      simp only [↓reduceIte]
      rw [if_neg (by unfold fileDataFrameLen gcmAddedLen; omega)]
      unfold fileDataFrameLen gcmAddedLen
      omega
  rw [heq m hm.1 hm.2, heq m' hm'.1 hm'.2] at h
  cases key with
  | false =>
    simp only [Bool.false_eq_true, ↓reduceIte] at h
    omega
  | true =>
    simp only [↓reduceIte] at h
    omega

end

namespace DFileSessions

def IsLeast (client : Nat → DFileClient) (settings : List Nat) (m : Nat) : Prop :=
  (∀ c ∈ settings, m ≤ (client c).frameSize) ∧ ∃ c ∈ settings, m = (client c).frameSize

structure Inv (key : Bool) (client : Nat → DFileClient) (s : DFileSessions) : Prop where
  server : (s.settings = [] ∧ s.maxFrameLength = 0) ∨ IsLeast client s.settings s.maxFrameLength
  known : ∀ c peer, s.peerInfo c = some peer → c ∈ s.settings
  clients : ∀ c, s.clientMaxFrameLength c = 0 ∨ s.clientMaxFrameLength c = (client c).frameSize
  recvTasks : ∀ task ∈ s.recvTasks, task.owner ∈ task.settings ∧
    ∃ m, IsLeast client task.settings m ∧ task.standardBlockSize = getStandardBlockSize m key
  sendTasks : ∀ task ∈ s.sendTasks, task.standardBlockSize = getStandardBlockSize (client task.owner).frameSize key

variable {key : Bool} {client : Nat → DFileClient} {s : DFileSessions}

theorem IsLeast.cons (hclient : ∀ c, nstackxMinMtuSize ≤ (client c).mtu) {settings : List Nat} {m : Nat}
    (h : (settings = [] ∧ m = 0) ∨ IsLeast client settings m) (c : Nat) :
    IsLeast client (c :: settings) (if m = 0 then (client c).frameSize else min m (client c).frameSize) := by
  rcases h with ⟨rfl, rfl⟩ | ⟨hle, d, hd, hm⟩
  · simp [IsLeast]
  · have := (client d).frameSize_bounds (hclient d)
    rw [if_neg (by omega)]
    refine ⟨fun e he => ?_, ?_⟩
    · rcases List.mem_cons.mp he with rfl | he
      · exact Nat.min_le_right _ _
      · exact Nat.le_trans (Nat.min_le_left _ _) (hle e he)
    · rcases Nat.le_total m (client c).frameSize with hmin | hmin
      · exact ⟨d, List.mem_cons_of_mem _ hd, by rw [Nat.min_eq_left hmin, hm]⟩
      · exact ⟨c, by simp, Nat.min_eq_right hmin⟩

section
variable (hclient : ∀ c, nstackxMinMtuSize ≤ (client c).mtu)
include hclient

theorem Inv.serverConfig (h : Inv key client s) (c : Nat) (peer : PeerInfo) :
    Inv key client (s.serverConfig key client c peer) := by
  refine ⟨.inr ?_, fun d peer' hd => ?_, h.clients, h.recvTasks, h.sendTasks⟩
  · have := IsLeast.cons hclient h.server c
    unfold DFileSessions.serverConfig
    dsimp only
    rw [mtuInuse_server, setDFileSessionConfig_eq (hclient c) rfl]
    exact this
  · by_cases heq : d = c
    · rw [heq]
      exact List.mem_cons_self
    · refine List.mem_cons_of_mem _ (h.known d peer' ?_)
      rw [← hd]
      exact (Function.update_of_ne heq _ _).symm

theorem Inv.step (h : Inv key client s) (e : SettingEvent) : Inv key client (s.next key client e) := by
  cases e with
  | handleServerSetting c =>
    rw [next]
    unfold dFileSessionHandleServerSetting
    split
    · exact h
    split
    · split
      · exact h
      · exact h.serverConfig hclient c _
    · split
      · exact h
      · refine Inv.serverConfig hclient ?_ c _
        exact ⟨h.server, h.known, h.clients, h.recvTasks, h.sendTasks⟩
  | serverSettingTimeout c =>
    rw [next]
    unfold serverSettingTimeoutHandle
    split
    · exact h
    split
    · exact h
    · refine ⟨h.server, fun d peer hd => ?_, h.clients, h.recvTasks, h.sendTasks⟩
      by_cases heq : d = c
      · rw [heq] at hd
        exact absurd ((Function.update_self c none s.peerInfo).symm.trans hd) (by simp)
      · exact h.known d peer ((Function.update_of_ne heq none s.peerInfo).symm.trans hd)
  | handleClientSetting c =>
    rw [next]
    unfold dFileSessionHandleClientSetting
    split
    · exact h
    · refine ⟨h.server, h.known, fun d => ?_, h.recvTasks, h.sendTasks⟩
      dsimp only
      by_cases heq : d = c
      · rw [heq, Function.update_self, mtuInuse_client, setDFileSessionConfig_eq (hclient c) rfl]
        rcases h.clients c with hzero | hset
        · rw [if_pos hzero]
          exact .inr rfl
        · rw [hset, Nat.min_self, ite_self]
          exact .inr rfl
      · rw [Function.update_of_ne heq]
        exact h.clients d
  | fileManagerSendFileTask c transId =>
    rw [next]
    unfold fileManagerSendFileTask
    split
    · exact h
    · rename_i hblock
      refine ⟨h.server, h.known, h.clients, h.recvTasks, List.forall_mem_cons.mpr ⟨?_, h.sendTasks⟩⟩
      rcases h.clients c with hzero | hset
      · rw [hzero] at hblock
        exact absurd rfl hblock
      · dsimp only
        rw [hset]
  | fileManagerRecvFileTask c transId =>
    rw [next]
    unfold fileManagerRecvFileTask
    split
    · exact h
    rename_i peer hpeer
    split
    · exact h
    · rename_i hblock
      refine ⟨h.server, fun d peer' hd => ?_, h.clients,
          List.forall_mem_cons.mpr ⟨⟨h.known c peer hpeer, ?_⟩, h.recvTasks⟩, h.sendTasks⟩
      · by_cases heq : d = c
        · rw [heq]
          exact h.known c peer hpeer
        · exact h.known d peer' ((Function.update_of_ne heq _ s.peerInfo).symm.trans hd)
      · rcases h.server with ⟨_, hzero⟩ | hleast
        · rw [hzero] at hblock
          exact absurd rfl hblock
        · exact ⟨s.maxFrameLength, hleast, rfl⟩

end

theorem inv_init : Inv key client {} :=
  ⟨.inl ⟨rfl, rfl⟩, by simp, fun _ => .inl rfl, by simp, by simp⟩

end DFileSessions

/-- The two tasks of a transfer have the same block size just when no client whose settings the server had
taken in by then has a smaller frame size than the owner. -/
theorem dfile_block_size_agrees_iff {key : Bool} {client : Nat → DFileClient}
    (hclient : ∀ c, nstackxMinMtuSize ≤ (client c).mtu)
    (events : List SettingEvent) {recv : ServerTask} {send : ClientTask}
    (hrecv : recv ∈ (Run.final (DFileSessions.next key client) {} events).recvTasks)
    (hsend : send ∈ (Run.final (DFileSessions.next key client) {} events).sendTasks) (howner : send.owner = recv.owner) :
    recv.standardBlockSize = send.standardBlockSize ↔
      ∀ c ∈ recv.settings, (client recv.owner).frameSize ≤ (client c).frameSize := by
  have hinv : DFileSessions.Inv key client (Run.final (DFileSessions.next key client) {} events) :=
    Run.inv_final_of_step (fun _ e h => h.step hclient e) events DFileSessions.inv_init
  obtain ⟨hknown, m, hleast, hsize⟩ := hinv.recvTasks recv hrecv
  rw [hsize, hinv.sendTasks send hsend, howner]
  obtain ⟨d, hd, hm⟩ := hleast.2
  constructor
  · intro heq
    have hsame : m = (client recv.owner).frameSize := by
      refine getStandardBlockSize_inj ?_ ((client recv.owner).frameSize_bounds (hclient _)) heq
      rw [hm]
      exact (client d).frameSize_bounds (hclient d)
    intro c hc
    rw [← hsame]
    exact hleast.1 c hc
  · intro hmin
    rw [Nat.le_antisymm (hleast.1 recv.owner hknown) (hm ▸ hmin d hd)]

/-- One client after another, with the same mtu. -/
theorem dfile_block_size_agrees_equal_mtu :
    (⟨0, 7, 1458, [1, 0]⟩ : ServerTask).standardBlockSize = (⟨0, 7, 1458⟩ : ClientTask).standardBlockSize :=
  (@dfile_block_size_agrees_iff false (fun _ => ⟨1472, .wlan⟩) (fun _ => (by decide : 64 ≤ 1472))
    [.handleServerSetting 0, .handleServerSetting 1, .handleClientSetting 0, .fileManagerSendFileTask 0 7,
      .fileManagerRecvFileTask 0 7] ⟨0, 7, 1458, [1, 0]⟩ ⟨0, 7, 1458⟩ (by decide +kernel) (by decide +kernel) rfl).mpr
    fun _ _ => Nat.le_refl _

/-- A second client with a smaller mtu settles before the first one's transfer starts. -/
theorem dfile_block_size_differs :
    (Run.final (DFileSessions.next false fun c => ⟨if c = 0 then 1472 else 1000, .wlan⟩) {}
      [.handleServerSetting 0, .handleClientSetting 0, .handleServerSetting 1, .fileManagerSendFileTask 0 7,
        .fileManagerRecvFileTask 0 7]).recvTasks = [⟨0, 7, 986, [1, 0]⟩] ∧
    (Run.final (DFileSessions.next false fun c => ⟨if c = 0 then 1472 else 1000, .wlan⟩) {}
      [.handleServerSetting 0, .handleClientSetting 0, .handleServerSetting 1, .fileManagerSendFileTask 0 7,
        .fileManagerRecvFileTask 0 7]).sendTasks = [⟨0, 7, 1458⟩] := by
  decide +kernel

end SoftBus
