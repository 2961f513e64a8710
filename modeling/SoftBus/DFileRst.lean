import SoftBus.DFileSetting
import SoftBus.DFileTrans

/-!
# A reset by the peer of a DFile client

A client that is told `NSTACKX_DFILE_WITHOUT_SETTING_ERROR` sets the mtu of its transfers to 0, which is to make them wait
for the next setting frame.
-/

namespace SoftBus

structure SessionTrans where
  mtu : Nat := 0
  trans : DFileTrans
deriving DecidableEq, Repr

structure DFileClientSession where
  mtuInuse : Nat := 0
  -- `SETTING_NEGOTIATED`
  negotiated : Bool := false
  dFileTransChain : List SessionTrans := []
  -- the places of the transfers whose frames were handled
  handled : List Nat := []
  -- the places of the transfers of which the send threads sent data
  sent : List Nat := []
deriving DecidableEq, Repr

inductive DFileClientSessionEvent where
  -- a setting frame of the peer with this mtu
  | setting (mtu : Nat)
  | rst
  -- `DFileStartTrans`
  | start (num : Nat) (tarFlag : Bool)
  | trans (i : Nat) (e : DFileTransEvent)
  -- a send thread takes a block of the transfer's task
  | sendData (i : Nat)
deriving DecidableEq, Repr

/-- `DecodeSettingFrame` takes the frame. -/
def DFileClientSessionEvent.accepted : DFileClientSessionEvent → Bool
  | .setting mtu => nstackxMinMtuSize ≤ mtu
  | _ => false

def SessionTrans.dFileTransSetMtu (st : SessionTrans) (mtu : Nat) : SessionTrans :=
  if mtu ≤ fileDataFrameLen ∨ nstackxMaxFrameSize < mtu then st else { st with mtu }

def SessionTrans.Running (st : SessionTrans) : Prop :=
  st.trans.alive = true ∧ st.trans.dFileTransStateFinished = false

theorem mtuInuse_valid {mtu : Nat} (hmin : ¬mtu < nstackxMinMtuSize) :
    fileDataFrameLen < mtuInuse nstackxDefaultFrameSize mtu ∧
      mtuInuse nstackxDefaultFrameSize mtu ≤ nstackxMaxFrameSize := by
  unfold nstackxMinMtuSize at hmin
  unfold mtuInuse nstackxDefaultFrameSize fileDataFrameLen nstackxMaxFrameSize
  split <;> omega

namespace DFileClientSession

def blocked (s : DFileClientSession) : Bool := s.dFileTransChain.any fun st => st.trans.stuck

def handleClientSetting (s : DFileClientSession) (mtu : Nat) : DFileClientSession :=
  if mtu < nstackxMinMtuSize then s
  else
    let mtuInuse := SoftBus.mtuInuse nstackxDefaultFrameSize mtu
    { s with
      mtuInuse, negotiated := true
      dFileTransChain := s.dFileTransChain.map fun st => st.dFileTransSetMtu mtuInuse }

def handleWithoutSettingError (s : DFileClientSession) : DFileClientSession :=
  { s with negotiated := false, dFileTransChain := s.dFileTransChain.map fun st => st.dFileTransSetMtu 0 }

def startTrans (s : DFileClientSession) (num : Nat) (tarFlag : Bool) : DFileClientSession :=
  { s with
    dFileTransChain := s.dFileTransChain ++
      [SessionTrans.dFileTransSetMtu { trans := { isSender := true, num, tarFlag } } s.mtuInuse] }

section
variable (cfg : DFileTransConfig) (s : DFileClientSession)

def transEvent (i : Nat) (e : DFileTransEvent) : DFileClientSession :=
  match s.dFileTransChain[i]? with
  | none => s
  | some st =>
    let next := { s with dFileTransChain := s.dFileTransChain.set i { st with trans := st.trans.next cfg e } }
    match e with
    | .frame _ _ =>
      if !st.trans.alive || st.mtu = 0 || st.trans.dFileTransStateFinished then s else { next with handled := i :: s.handled }
    | .process _ => if st.mtu = 0 then s else next
    -- the messages of the file manager come without a test of the mtu
    | .fileManager _ _ => next

def sendData (i : Nat) : DFileClientSession :=
  match s.dFileTransChain[i]? with
  | none => s
  | some st => if st.trans.alive && st.trans.fileManagerTaskStarted then { s with sent := i :: s.sent } else s

def mainLoop : DFileClientSessionEvent → DFileClientSession
  | .setting mtu => s.handleClientSetting mtu
  | .rst => s.handleWithoutSettingError
  | .start num tarFlag => s.startTrans num tarFlag
  | .trans i e => s.transEvent cfg i e
  | .sendData i => s.sendData i

def step (e : DFileClientSessionEvent) : DFileClientSession :=
  if s.blocked then s else s.mainLoop cfg e

def Paused (i : Nat) : Prop :=
  ∀ es : List DFileClientSessionEvent, (∀ e ∈ es, e.accepted = false) →
    (Run.final (step cfg) s es).dFileTransChain[i]?.map (·.trans) = s.dFileTransChain[i]?.map (·.trans) ∧
      (Run.final (step cfg) s es).handled.count i = s.handled.count i ∧
      (Run.final (step cfg) s es).sent.count i = s.sent.count i

def AllPaused : Prop :=
  ∀ es : List DFileClientSessionEvent, (∀ e ∈ es, e.accepted = false) →
    (Run.final (step cfg) s es).handled = s.handled ∧ (Run.final (step cfg) s es).sent = s.sent ∧
      ∃ started, (Run.final (step cfg) s es).dFileTransChain = s.dFileTransChain ++ started ∧
        ∀ st ∈ started, ∃ num tarFlag, st.trans = { isSender := true, num, tarFlag }

/-! ## The mtu of the transfers -/

structure MtuInv (s : DFileClientSession) : Prop where
  mtu : ∀ st ∈ s.dFileTransChain, st.mtu = s.mtuInuse
  fresh : s.mtuInuse = 0 → ∀ st ∈ s.dFileTransChain, ∃ num tarFlag, st.trans = { isSender := true, num, tarFlag }
  valid : s.mtuInuse ≠ 0 → fileDataFrameLen < s.mtuInuse ∧ s.mtuInuse ≤ nstackxMaxFrameSize

variable {s : DFileClientSession}

theorem setMtu_zero (st : SessionTrans) : st.dFileTransSetMtu 0 = st := by
  unfold SessionTrans.dFileTransSetMtu
  rw [if_pos (Or.inl (Nat.zero_le _))]

theorem handleWithoutSettingError_eq (s : DFileClientSession) :
    s.handleWithoutSettingError = { s with negotiated := false } := by
  unfold handleWithoutSettingError
  simp [setMtu_zero]

theorem mtuInv_setting (h : MtuInv s) (mtu : Nat) : MtuInv (s.handleClientSetting mtu) := by
  unfold handleClientSetting
  split
  · exact h
  · rename_i hmin
    have hvalid := mtuInuse_valid hmin
    refine ⟨fun st hst => ?_, fun hzero => ?_, fun _ => hvalid⟩
    · obtain ⟨st, -, rfl⟩ := List.mem_map.mp hst
      unfold SessionTrans.dFileTransSetMtu
      rw [if_neg (by omega)]
    · dsimp only at hzero
      omega

theorem mtuInv_start (h : MtuInv s) (num : Nat) (tarFlag : Bool) : MtuInv (s.startTrans num tarFlag) := by
  have hnew : (SessionTrans.dFileTransSetMtu { trans := { isSender := true, num, tarFlag } } s.mtuInuse) =
      ⟨s.mtuInuse, { isSender := true, num, tarFlag }⟩ := by
    by_cases hzero : s.mtuInuse = 0
    · rw [hzero, setMtu_zero]
    · have hvalid := h.valid hzero
      unfold SessionTrans.dFileTransSetMtu
      rw [if_neg (by omega)]
  unfold startTrans
  rw [hnew]
  refine ⟨fun st hst => ?_, fun hzero st hst => ?_, h.valid⟩
  all_goals rcases List.mem_append.mp hst with hst | hst
  · exact h.mtu st hst
  · rw [List.mem_singleton.mp hst]
  · exact h.fresh hzero st hst
  · exact ⟨num, tarFlag, by rw [List.mem_singleton.mp hst]⟩

theorem transEvent_frame (s : DFileClientSession) (i : Nat) (e : DFileTransEvent) :
    (s.transEvent cfg i e).mtuInuse = s.mtuInuse ∧
      ∀ st ∈ (s.transEvent cfg i e).dFileTransChain, ∃ st₀ ∈ s.dFileTransChain, st.mtu = st₀.mtu := by
  have hself : s.mtuInuse = s.mtuInuse ∧ ∀ st ∈ s.dFileTransChain, ∃ st₀ ∈ s.dFileTransChain, st.mtu = st₀.mtu :=
    ⟨rfl, fun st hst => ⟨st, hst, rfl⟩⟩
  unfold transEvent
  cases hget : s.dFileTransChain[i]? with
  | none => exact hself
  | some st =>
    have hset : ∀ t, ∀ st' ∈ s.dFileTransChain.set i { st with trans := t }, ∃ st₀ ∈ s.dFileTransChain, st'.mtu = st₀.mtu := by
      intro t st' hst'
      rcases List.mem_or_eq_of_mem_set hst' with hold | rfl
      · exact ⟨st', hold, rfl⟩
      · exact ⟨st, List.mem_of_getElem? hget, rfl⟩
    cases e with
    | frame f obs =>
      dsimp only
      split
      · exact hself
      · exact ⟨rfl, hset _⟩
    | process obs =>
      dsimp only
      split
      · exact hself
      · exact ⟨rfl, hset _⟩
    | fileManager m obs => exact ⟨rfl, hset _⟩

theorem transEvent_eq_of_zero (h : MtuInv s) (hzero : s.mtuInuse = 0) (i : Nat) (e : DFileTransEvent) :
    s.transEvent cfg i e = s := by
  unfold transEvent
  cases hget : s.dFileTransChain[i]? with
  | none => rfl
  | some st =>
    have hmem := List.mem_of_getElem? hget
    have hmtu : st.mtu = 0 := (h.mtu st hmem).trans hzero
    cases e with
    | frame f obs => simp [hmtu]
    | process obs => simp [hmtu]
    | fileManager m obs =>
      -- it has no task yet
      obtain ⟨num, tarFlag, htrans⟩ := h.fresh hzero st hmem
      have hnext : st.trans.next cfg (.fileManager m obs) = st.trans := by
        rw [htrans]
        rfl
      obtain ⟨hi, hst⟩ := List.getElem?_eq_some_iff.mp hget
      dsimp only
      rw [hnext, ← hst]
      show { s with dFileTransChain := s.dFileTransChain.set i s.dFileTransChain[i] } = s
      rw [List.set_getElem_self]

theorem sendData_eq_of_zero (h : MtuInv s) (hzero : s.mtuInuse = 0) (i : Nat) : s.sendData i = s := by
  unfold sendData
  cases hget : s.dFileTransChain[i]? with
  | none => rfl
  | some st =>
    obtain ⟨num, tarFlag, htrans⟩ := h.fresh hzero st (List.mem_of_getElem? hget)
    simp [htrans]

theorem mtuInv_step (h : MtuInv s) (e : DFileClientSessionEvent) : MtuInv (s.step cfg e) := by
  unfold step
  split
  · exact h
  cases e with
  | setting mtu => exact mtuInv_setting h mtu
  | rst =>
    rw [mainLoop, handleWithoutSettingError_eq]
    exact ⟨h.mtu, h.fresh, h.valid⟩
  | start num tarFlag => exact mtuInv_start h num tarFlag
  | trans i e =>
    rw [mainLoop]
    by_cases hzero : s.mtuInuse = 0
    · rw [transEvent_eq_of_zero cfg h hzero]
      exact h
    · obtain ⟨hmtu, hchain⟩ := transEvent_frame cfg s i e
      refine ⟨fun st hst => ?_, fun hzero' => absurd (hmtu ▸ hzero') hzero, ?_⟩
      · obtain ⟨st₀, hst₀, heq⟩ := hchain st hst
        rw [heq, hmtu, h.mtu st₀ hst₀]
      · rw [hmtu]
        exact h.valid
  | sendData i =>
    rw [mainLoop]
    unfold sendData
    split
    · exact h
    · split
      · exact ⟨h.mtu, h.fresh, h.valid⟩
      · exact h

theorem mtuInv_run (es : List DFileClientSessionEvent) : MtuInv (Run.final (step cfg) {} es) := by
  refine Run.inv_final_of_step (I := MtuInv) (fun s e h => mtuInv_step cfg h e) es ⟨?_, ?_, ?_⟩ <;> simp

/-! ## The reset -/

def Waits (s s' : DFileClientSession) : Prop :=
  s'.mtuInuse = s.mtuInuse ∧ s'.handled = s.handled ∧ s'.sent = s.sent ∧
    ∃ started, s'.dFileTransChain = s.dFileTransChain ++ started ∧
      ∀ st ∈ started, ∃ num tarFlag, st.trans = { isSender := true, num, tarFlag }

theorem waits_step (h : MtuInv s) (hzero : s.mtuInuse = 0) {e : DFileClientSessionEvent} (he : e.accepted = false) :
    Waits s (s.step cfg e) := by
  have hself : Waits s s := ⟨rfl, rfl, rfl, [], by simp, by simp⟩
  unfold step
  split
  · exact hself
  cases e with
  | setting mtu =>
    have hmin : mtu < nstackxMinMtuSize := by simpa [DFileClientSessionEvent.accepted] using he
    rw [mainLoop, handleClientSetting, if_pos hmin]
    exact hself
  | rst =>
    rw [mainLoop, handleWithoutSettingError_eq]
    exact hself
  | start num tarFlag =>
    refine ⟨rfl, rfl, rfl, _, rfl, fun st hst => ⟨num, tarFlag, ?_⟩⟩
    rw [List.mem_singleton.mp hst, hzero, setMtu_zero]
  | trans i e =>
    rw [mainLoop, transEvent_eq_of_zero cfg h hzero]
    exact hself
  | sendData i =>
    rw [mainLoop, sendData_eq_of_zero h hzero]
    exact hself

theorem waits_run : ∀ (es : List DFileClientSessionEvent) {s : DFileClientSession}, MtuInv s → s.mtuInuse = 0 →
    (∀ e ∈ es, e.accepted = false) → Waits s (Run.final (step cfg) s es)
  | [], _, _, _, _ => ⟨rfl, rfl, rfl, [], by simp, by simp⟩
  | e :: es, s, h, hzero, hes => by
    obtain ⟨hmtu, hhandled, hsent, started, hchain, hfresh⟩ := waits_step cfg h hzero (hes e List.mem_cons_self)
    obtain ⟨hmtu', hhandled', hsent', started', hchain', hfresh'⟩ := waits_run es (mtuInv_step cfg h e)
      (hmtu.trans hzero) fun e' he' => hes e' (List.mem_cons_of_mem e he')
    refine ⟨hmtu'.trans hmtu, hhandled'.trans hhandled, hsent'.trans hsent, started ++ started', ?_, fun st hst => ?_⟩
    · rw [Run.final_cons, hchain', hchain, List.append_assoc]
    · rcases List.mem_append.mp hst with hst | hst
      · exact hfresh st hst
      · exact hfresh' st hst

theorem allPaused_of_zero (h : MtuInv s) (hzero : s.mtuInuse = 0) : AllPaused cfg s := fun es hes =>
  have hw := waits_run cfg es h hzero hes
  ⟨hw.2.1, hw.2.2.1, hw.2.2.2⟩

theorem AllPaused.paused (h : AllPaused cfg s) {i : Nat} (hi : i < s.dFileTransChain.length) : Paused cfg s i := by
  intro es hes
  obtain ⟨hhandled, hsent, started, hchain, -⟩ := h es hes
  rw [hhandled, hsent, hchain, List.getElem?_append_left hi]
  exact ⟨rfl, rfl, rfl⟩

theorem not_paused {i : Nat} {st : SessionTrans} (hblocked : s.blocked = false) (hget : s.dFileTransChain[i]? = some st)
    (hrun : st.Running) (hmtu : st.mtu ≠ 0) : ¬Paused cfg s i := by
  intro hpaused
  obtain ⟨-, hhandled, -⟩ := hpaused [.trans i (.frame .other [])] (by simp [DFileClientSessionEvent.accepted])
  have hstep : (s.step cfg (.trans i (.frame .other []))).handled = i :: s.handled := by
    rw [step, hblocked, if_neg Bool.false_ne_true, mainLoop, transEvent, hget]
    simp [hrun.1, hrun.2, hmtu]
  rw [Run.final_cons, Run.final_nil, hstep, List.count_cons_self] at hhandled
  omega

/-- **Reset.** In every run of a client session, once a reset of the peer was handled, a running transfer waits for the next
setting frame exactly when none was taken before; then all transfers wait, also those started meanwhile. -/
theorem rst_pauses_iff (cfg : DFileTransConfig) (es : List DFileClientSessionEvent) :
    let s := Run.final (step cfg) {} es
    (s.mtuInuse = 0 → AllPaused cfg (s.step cfg .rst)) ∧
      ∀ i st, s.blocked = false → s.dFileTransChain[i]? = some st → st.Running →
        (Paused cfg (s.step cfg .rst) i ↔ s.mtuInuse = 0) := by
  intro s
  have h : MtuInv s := mtuInv_run cfg es
  have h' : MtuInv (s.step cfg .rst) := mtuInv_step cfg h .rst
  have hall : s.mtuInuse = 0 → AllPaused cfg (s.step cfg .rst) := by
    intro hzero
    exact allPaused_of_zero cfg h' ((waits_step cfg h hzero rfl).1.trans hzero)
  refine ⟨hall, fun i st hblocked hget hrun => ?_⟩
  have hstep : s.step cfg .rst = { s with negotiated := false } := by
    unfold step
    rw [hblocked, if_neg Bool.false_ne_true, mainLoop, handleWithoutSettingError_eq]
  constructor
  · intro hpaused
    by_contra hne
    rw [hstep] at hpaused
    refine not_paused cfg (s := { s with negotiated := false }) hblocked hget hrun ?_ hpaused
    rw [h.mtu st (List.mem_of_getElem? hget)]
    exact hne
  · intro hzero
    refine (hall hzero).paused cfg ?_
    rw [hstep]
    exact (List.getElem?_eq_some_iff.mp hget).1

/-- A transfer that waits for its header to be confirmed goes on to its data after the reset. -/
theorem rst_does_not_pause :
    let cfg : DFileTransConfig := ⟨1, 1, 1, 1, 1, 1, 1, 1, 1, true⟩
    let s := Run.final (step cfg) {} [.setting 1472, .start 1 false, .trans 0 (.process [{}, {}, {}]), .rst]
    let s' := s.step cfg (.trans 0 (.frame .fileHeaderConfirm [{ allFileNameAcked := true }, {}]))
    s.negotiated = false ∧ s.dFileTransChain.map (·.trans.sendState) = [.waitForFileHeaderConfirm] ∧
      s'.dFileTransChain.map (·.trans.sendState) = [.sendFileDataOngoing] := by
  decide

end

end DFileClientSession

end SoftBus
