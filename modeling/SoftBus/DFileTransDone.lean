import SoftBus.DFileTrans
import SoftBus.Lib.Run

/-!
# The outcome of a sender

The `TRANSFER_DONE` frame names the files the receiver has. Once it was taken in, a
sender that sees it in time ends with just these files: no state the machine can go
into from there fails.
-/

namespace SoftBus

/-- What the sender has to report when the receiver has the files `ids`. -/
def outcome (num : Nat) (tarFlag : Bool) (ids : List Nat) : TransMsg :=
  if filesByFlag num tarFlag ids = [] then .fileSendFail else .fileSent (filesByFlag num tarFlag ids)

theorem outcome_nil (num : Nat) (tarFlag : Bool) : outcome num tarFlag [] = .fileSendFail := by
  have : filesByFlag.flagged num [] = [] := by simp [filesByFlag.flagged]
  simp [outcome, filesByFlag, this]

namespace DFileTrans

/-! ## The loop of the sender -/

section
variable {cfg : DFileTransConfig} {P : DFileTrans → Prop}

theorem senderFsm_induct (hturn : ∀ o t, P t → P (senderTurn cfg o t).1)
    (henter : ∀ o t, P t → P (senderFsm.entered cfg o t))
    (hstuck : ∀ t, P t → P { t with stuck := true }) : ∀ (obs : List FsmObs) {t : DFileTrans}, P t → P (t.senderFsm cfg obs)
  | [], t, h => hstuck t h
  | o :: obs, t, h => by
    unfold senderFsm
    split
    · exact hturn o t h
    split
    · exact henter o t h
    · exact senderFsm_induct hturn henter hstuck obs (henter o t h)

end

section
variable (cfg : DFileTransConfig) (o : FsmObs) (t : DFileTrans)

theorem senderTurn_eq : ∃ retries lost started had, (senderTurn cfg o t).1 =
    { t with headerRetryCnt := retries, lostAckCnt := lost, fileManagerTaskStarted := started, hadTask := had } := by
  unfold senderTurn
  split
  · exact ⟨_, _, _, _, rfl⟩
  · unfold sendFileHeader
    split <;> exact ⟨_, _, _, _, rfl⟩
  · unfold DFileTrans.waitForFileHeaderConfirm
    repeat' split
    all_goals exact ⟨_, _, _, _, rfl⟩
  · unfold DFileTrans.sendFileDataOngoing
    repeat' split
    all_goals exact ⟨_, _, _, _, rfl⟩
  · unfold DFileTrans.waitForFileTransferDoneFrame
    repeat' split
    all_goals exact ⟨_, _, _, _, rfl⟩
  · unfold sendFileTransferDoneAckFrame
    repeat' split
    all_goals exact ⟨_, _, _, _, rfl⟩
  · exact ⟨_, _, _, _, rfl⟩
  · exact ⟨_, _, _, _, rfl⟩

end

structure Turns (t t' : DFileTrans) : Prop where
  sender : t'.isSender = t.isSender
  num : t'.num = t.num
  tarFlag : t'.tarFlag = t.tarFlag
  flag : t'.fileTransferDoneReceived = t.fileTransferDoneReceived
  success : t'.sendSuccess = t.sendSuccess
  alive : t'.alive = t.alive
  log : ∃ l, t'.log = t.log ++ l ∧ ∀ x ∈ l, x = .msg .fileSendData ∨ ∃ s, x = .sendState s

section
variable {cfg : DFileTransConfig} {t t' t'' : DFileTrans} {o : FsmObs}

theorem Turns.trans (h : Turns t t') (h' : Turns t' t'') : Turns t t'' := by
  obtain ⟨l, hl, hx⟩ := h.log
  obtain ⟨l', hl', hx'⟩ := h'.log
  refine ⟨h'.sender.trans h.sender, h'.num.trans h.num, h'.tarFlag.trans h.tarFlag, h'.flag.trans h.flag,
    h'.success.trans h.success, h'.alive.trans h.alive, l ++ l', by rw [hl', hl, List.append_assoc], fun x hm => ?_⟩
  rcases List.mem_append.mp hm with hm | hm
  · exact hx x hm
  · exact hx' x hm

theorem turns_senderTurn (cfg : DFileTransConfig) (o : FsmObs) (t : DFileTrans) : Turns t (senderTurn cfg o t).1 := by
  obtain ⟨retries, lost, started, had, heq⟩ := senderTurn_eq cfg o t
  rw [heq]
  exact ⟨rfl, rfl, rfl, rfl, rfl, rfl, [], by simp, by simp⟩

theorem turns_setSendState (cfg : DFileTransConfig) (t : DFileTrans) (s : DFileSendState) :
    Turns t (t.setSendState cfg s) := by
  have henter : ∀ (t' : DFileTrans) s', Turns t' (t'.enterSend s') :=
    fun t' s' => ⟨rfl, rfl, rfl, rfl, rfl, rfl, [.sendState s'], rfl, by simp⟩
  unfold setSendState
  split
  · exact ⟨rfl, rfl, rfl, rfl, rfl, rfl, [], by simp, by simp⟩
  · refine Turns.trans ?_ (henter _ _)
    cases s with
    | sendFileDataOngoing =>
      exact ⟨rfl, rfl, rfl, rfl, rfl, by simp [prepareSend, report, TransMsg.terminal], [.msg .fileSendData], rfl, by simp⟩
    | _ => exact ⟨rfl, rfl, rfl, rfl, rfl, rfl, [], by simp [prepareSend], by simp⟩

theorem turns_senderFsm (cfg : DFileTransConfig) (obs : List FsmObs) (t : DFileTrans) : Turns t (t.senderFsm cfg obs) :=
  senderFsm_induct (P := Turns t) (fun o t' h => h.trans (turns_senderTurn cfg o t'))
    (fun o t' h => (h.trans (turns_senderTurn cfg o t')).trans (turns_setSendState cfg _ _))
    (fun _ h => ⟨h.sender, h.num, h.tarFlag, h.flag, h.success, h.alive, h.log⟩) obs
    ⟨rfl, rfl, rfl, rfl, rfl, rfl, [], by simp, by simp⟩

structure Finishing (t : DFileTrans) : Prop where
  flag : t.fileTransferDoneReceived = true
  state : t.sendState = .sendFileDataOngoing ∨ t.sendState = .sendFileTransferDoneAck ∨ t.sendState = .sendFileDone ∨
    t.sendState = .sendFileFail ∧ t.sendSuccess = []

theorem Finishing.senderTurn (h : Finishing t) (o : FsmObs) : (DFileTrans.senderTurn cfg o t).1 = t := by
  unfold DFileTrans.senderTurn
  rcases h.state with hs | hs | hs | ⟨hs, _⟩
  · rw [hs]
    simp only [sendFileDataOngoing, h.flag, if_true]
  · rw [hs]
    dsimp only
    unfold sendFileTransferDoneAckFrame
    repeat' split
    all_goals rfl
  · rw [hs]
  · rw [hs]

theorem setSendState_sendState :
    (t.setSendState cfg s).sendState = if t.sendState = s then s else reviseSend t.sendState s := by
  unfold setSendState
  split
  · assumption
  · rfl

theorem Finishing.entered (h : Finishing t) (o : FsmObs) : Finishing (senderFsm.entered cfg o t) := by
  refine ⟨(turns_setSendState cfg _ _).flag.trans ((turns_senderTurn cfg o t).flag.trans h.flag), ?_⟩
  unfold senderFsm.entered
  rw [setSendState_sendState, h.senderTurn o]
  unfold DFileTrans.senderTurn
  rcases h.state with hs | hs | hs | ⟨hs, hempty⟩
  · simp [hs, sendFileDataOngoing, h.flag, reviseSend]
  · rw [hs]
    dsimp only
    have hnext : (sendFileTransferDoneAckFrame o t).2 = .sendFileTransferDoneAck ∨
        (sendFileTransferDoneAckFrame o t).2 = .sendFileDone ∨ (sendFileTransferDoneAckFrame o t).2 = .sendFileFail := by
      unfold sendFileTransferDoneAckFrame
      repeat' split
      · exact .inr (.inr rfl)
      · exact .inl hs
      · exact .inr (.inl rfl)
    rcases hnext with hnext | hnext | hnext
    · simp [hnext]
    · simp [hnext, reviseSend]
    · simp [hnext, reviseSend]
  · simp [hs]
  · simp [hs, (turns_setSendState cfg t _).success, hempty]

theorem Finishing.senderFsm (h : Finishing t) (obs : List FsmObs) : Finishing (t.senderFsm cfg obs) :=
  senderFsm_induct (fun o t h => by rw [h.senderTurn o]; exact h) (fun o _ h => h.entered o)
      (fun _ h => ⟨h.flag, h.state⟩) obs h

theorem finishing_of_wait (hflag : t.fileTransferDoneReceived = true)
    (hstate : t.sendState = .waitForFileTransferDoneFrame)
    {obs : List FsmObs} (htime : ∀ o ∈ obs.head?, o.elapsed < t.timeout ∨ cfg.tcp = true) :
    Finishing (t.senderFsm cfg obs) ∨ (t.senderFsm cfg obs).stuck = true := by
  cases obs with
  | nil => exact .inr rfl
  | cons o obs =>
    left
    have hturn : (senderTurn cfg o t).1 = t ∧
        ((senderTurn cfg o t).2 = .sendFileDataOngoing ∨ (senderTurn cfg o t).2 = .sendFileTransferDoneAck) := by
      unfold senderTurn
      rw [hstate]
      dsimp only
      unfold waitForFileTransferDoneFrame
      split
      · rename_i hlate
        rcases htime o rfl with hin | htcp
        · omega
        · simp [htcp]
      split
      · exact ⟨rfl, .inl rfl⟩
      · exact ⟨rfl, .inr rfl⟩
    have hentered : Finishing (senderFsm.entered cfg o t) := by
      unfold senderFsm.entered
      refine ⟨(turns_setSendState cfg _ _).flag.trans (by rw [hturn.1]; exact hflag), ?_⟩
      rw [setSendState_sendState, hturn.1, hstate]
      rcases hturn.2 with hnext | hnext
      · simp [hnext, reviseSend]
      · simp [hnext, reviseSend]
    unfold senderFsm
    rw [if_neg ?_]
    · split
      · exact hentered
      · exact hentered.senderFsm obs
    · rw [hturn.1, hstate]
      rcases hturn.2 with hnext | hnext
      · simp [hnext]
      · simp [hnext]

theorem senderFsm_late (t : DFileTrans) (hstate : t.sendState = .waitForFileTransferDoneFrame) {obs : List FsmObs}
    (hlate : t.timeout ≤ o.elapsed) (htcp : cfg.tcp = false) : t.senderFsm cfg (o :: obs) = t.enterSend .sendFileFail := by
  have hturn : senderTurn cfg o t = (t, .sendFileFail) := by
    simp [senderTurn, hstate, waitForFileTransferDoneFrame, hlate, htcp]
  have hentered : senderFsm.entered cfg o t = t.enterSend .sendFileFail := by
    simp [senderFsm.entered, hturn, setSendState, hstate, prepareSend, reviseSend]
  rw [senderFsm, if_neg (by simp [hturn, hstate]), hentered, if_pos (.inl rfl)]

end

/-! ## Steps -/

def TakesDone (t : DFileTrans) : Prop :=
  t.sendState = .waitForFileTransferDoneFrame ∨ t.sendState = .sendFileTransferDoneAck ∨ t.sendState = .sendFileDataOngoing

/-- The first `TRANSFER_DONE` frame comes in time if it is well formed and too late otherwise, later
ones name the same files, and the file manager does not fail after it. -/
def Orderly (cfg : DFileTransConfig) (t : DFileTrans) (e : DFileTransEvent) : Prop :=
  t.alive = true → t.stuck = false →
    match e with
    | .frame (.fileTransferDone length ids) obs =>
      TakesDone t →
        if t.fileTransferDoneReceived then
          filesByFlag t.num t.tarFlag (ids.take (length / 2)) = filesByFlag t.num t.tarFlag t.sendSuccess
        else if wellFormed length then
          t.sendState = .waitForFileTransferDoneFrame → ∀ o ∈ obs.head?, o.elapsed < t.timeout ∨ cfg.tcp = true
        else t.sendState = .waitForFileTransferDoneFrame ∧ ∀ o ∈ obs.head?, t.timeout ≤ o.elapsed ∧ cfg.tcp = false
    | .fileManager .sendFail _ => t.fileTransferDoneReceived = false
    | _ => True

structure LogInv (num : Nat) (tarFlag : Bool) (t : DFileTrans) : Prop where
  sender : t.isSender = true
  numEq : t.num = num
  tarFlagEq : t.tarFlag = tarFlag
  unset : t.fileTransferDoneReceived = false → t.sendSuccess = [] ∧ ∀ ids, .accepted ids ∉ t.log
  same : ∀ ids, .accepted ids ∈ t.log → filesByFlag num tarFlag ids = filesByFlag num tarFlag t.sendSuccess
  running : t.alive = true → ∀ m, .msg m ∈ t.log → m.terminal = false
  ended : t.fileTransferDoneReceived = true → ∀ m, .msg m ∈ t.log → m.terminal = true → m = outcome num tarFlag t.sendSuccess

structure DoneInv (num : Nat) (tarFlag : Bool) (t : DFileTrans) : Prop extends LogInv num tarFlag t where
  finishing : t.fileTransferDoneReceived = true → t.stuck = false → Finishing t

section
variable {cfg : DFileTransConfig} {num : Nat} {tarFlag : Bool} {t t' : DFileTrans}

theorem LogInv.report (h : LogInv num tarFlag t) (m : TransMsg)
    (hm : t.fileTransferDoneReceived = true → m.terminal = true → m = outcome num tarFlag t.sendSuccess) :
    LogInv num tarFlag (t.report m) := by
  refine ⟨h.sender, h.numEq, h.tarFlagEq, fun hflag => ⟨(h.unset hflag).1, fun ids hids => ?_⟩, fun ids hids => h.same ids ?_,
    fun halive m' hm' => ?_, fun hflag m' hm' hterm => ?_⟩
  · exact (h.unset hflag).2 ids (by simpa [DFileTrans.report] using hids)
  · simpa [DFileTrans.report] using hids
  · simp only [DFileTrans.report, Bool.and_eq_true, Bool.not_eq_true'] at halive
    rcases List.mem_append.mp hm' with hm' | hm'
    · exact h.running halive.1 m' hm'
    · cases List.mem_singleton.mp hm'
      exact halive.2
  · rcases List.mem_append.mp hm' with hm' | hm'
    · exact h.ended hflag m' hm' hterm
    · cases List.mem_singleton.mp hm'
      exact hm hflag hterm

theorem DoneInv.report (h : DoneInv num tarFlag t) (m : TransMsg)
    (hm : t.fileTransferDoneReceived = true → m.terminal = true → m = outcome num tarFlag t.sendSuccess) :
    DoneInv num tarFlag (t.report m) :=
  ⟨h.toLogInv.report m hm, fun hflag hstuck => ⟨hflag, (h.finishing hflag hstuck).state⟩⟩

theorem LogInv.turns (h : LogInv num tarFlag t) (ht : Turns t t') : LogInv num tarFlag t' := by
  obtain ⟨l, hl, hx⟩ := ht.log
  have hmsg : ∀ m, .msg m ∈ t'.log → .msg m ∈ t.log ∨ m = .fileSendData := by
    intro m hm
    rw [hl] at hm
    rcases List.mem_append.mp hm with hm | hm
    · exact .inl hm
    · rcases hx _ hm with heq | ⟨s, heq⟩
      · cases heq
        exact .inr rfl
      · cases heq
  have haccepted : ∀ ids, .accepted ids ∈ t'.log → .accepted ids ∈ t.log := by
    intro ids hids
    rw [hl] at hids
    rcases List.mem_append.mp hids with hids | hids
    · exact hids
    · rcases hx _ hids with heq | ⟨s, heq⟩ <;> cases heq
  refine ⟨ht.sender.trans h.sender, ht.num.trans h.numEq, ht.tarFlag.trans h.tarFlagEq, fun hflag => ?_,
    fun ids hids => ?_, fun halive m hm => ?_, fun hflag m hm hterm => ?_⟩
  · obtain ⟨hempty, hnone⟩ := h.unset (ht.flag.symm.trans hflag)
    exact ⟨ht.success.trans hempty, fun ids hids => hnone ids (haccepted ids hids)⟩
  · rw [ht.success]
    exact h.same ids (haccepted ids hids)
  · rcases hmsg m hm with hm | rfl
    · exact h.running (ht.alive.symm.trans halive) m hm
    · rfl
  · rw [ht.success]
    rcases hmsg m hm with hm | rfl
    · exact h.ended (ht.flag.symm.trans hflag) m hm hterm
    · cases hterm

theorem DoneInv.notifyEnd (h : DoneInv num tarFlag t) (hstuck : t.stuck = false) :
    DoneInv num tarFlag t.dFileTransNotifyEndMsg := by
  unfold dFileTransNotifyEndMsg
  rw [if_pos h.sender]
  split
  · rename_i hfail
    refine h.report _ fun hflag _ => ?_
    have hempty := (h.finishing hflag hstuck).state
    simp only [hfail, reduceCtorEq, false_or, true_and] at hempty
    rw [hempty, outcome_nil]
  split
  · unfold notifyFileSent
    rw [h.numEq, h.tarFlagEq]
    split
    · rename_i hempty
      exact h.report _ fun _ _ => by simp [outcome, hempty]
    · rename_i hfiles
      exact h.report _ fun _ _ => by simp [outcome, hfiles]
  · exact h

theorem DoneInv.senderFsm (cfg : DFileTransConfig) (h : DoneInv num tarFlag t) (hstuck : t.stuck = false)
    (obs : List FsmObs) :
    DoneInv num tarFlag (t.senderFsm cfg obs) := by
  refine ⟨h.toLogInv.turns (turns_senderFsm cfg obs t), fun hflag _ => ?_⟩
  have := h.finishing ((turns_senderFsm cfg obs t).flag.symm.trans hflag) hstuck
  exact this.senderFsm obs

theorem LogInv.again (h : LogInv num tarFlag t) {ids : List Nat} (hflag : t.fileTransferDoneReceived = true)
    (hids : filesByFlag num tarFlag ids = filesByFlag num tarFlag t.sendSuccess) :
    LogInv num tarFlag { t with log := t.log ++ [.accepted ids] } := by
  refine ⟨h.sender, h.numEq, h.tarFlagEq, fun hunset => ?_, fun ids' hids' => ?_,
    fun halive m hm => h.running halive m (by simpa using hm), fun hflag m hm => h.ended hflag m (by simpa using hm)⟩
  · exact absurd (hflag.symm.trans hunset) (by simp)
  · rcases List.mem_append.mp hids' with hids' | hids'
    · exact h.same ids' hids'
    · cases List.mem_singleton.mp hids'
      exact hids

theorem LogInv.first (h : LogInv num tarFlag t) (halive : t.alive = true) (hflag : t.fileTransferDoneReceived = false)
    (ids : List Nat) :
    LogInv num tarFlag
      { t with fileTransferDoneReceived := true, sendSuccess := t.sendSuccess ++ ids, log := t.log ++ [.accepted ids] } := by
  obtain ⟨hempty, hnone⟩ := h.unset hflag
  refine ⟨h.sender, h.numEq, h.tarFlagEq, fun hunset => ?_, fun ids' hids' => ?_,
    fun halive m hm => h.running halive m (by simpa using hm), fun _ m hm hterm => ?_⟩
  · cases hunset
  · rcases List.mem_append.mp hids' with hids' | hids'
    · exact absurd hids' (hnone ids')
    · cases List.mem_singleton.mp hids'
      rw [hempty, List.nil_append]
  · have := h.running halive m (by simpa using hm)
    exact absurd (hterm.symm.trans this) (by simp)

theorem DoneInv.refused (h : DoneInv num tarFlag t) (halive : t.alive = true)
    (hflag : t.fileTransferDoneReceived = false)
    (hstate : t.sendState = .waitForFileTransferDoneFrame) {obs : List FsmObs}
    (hlate : ∀ o ∈ obs.head?, t.timeout ≤ o.elapsed ∧ cfg.tcp = false) :
    DoneInv num tarFlag ({ t with fileTransferDoneReceived := true }.senderFsm cfg obs) := by
  obtain ⟨hempty, hnone⟩ := h.unset hflag
  have hlog : LogInv num tarFlag { t with fileTransferDoneReceived := true } := by
    refine ⟨h.sender, h.numEq, h.tarFlagEq, fun hunset => ?_, h.same, h.running, fun _ m hm hterm => ?_⟩
    · cases hunset
    · exact absurd (hterm.symm.trans (h.running halive m hm)) (by simp)
  refine ⟨hlog.turns (turns_senderFsm cfg obs _), fun _ hrest => ?_⟩
  cases obs with
  | nil => cases hrest
  | cons o obs =>
    rw [senderFsm_late { t with fileTransferDoneReceived := true } hstate (hlate o rfl).1 (hlate o rfl).2]
    exact ⟨rfl, .inr (.inr (.inr ⟨rfl, hempty⟩))⟩

theorem DoneInv.handleTransferDoneFrame (h : DoneInv num tarFlag t) (halive : t.alive = true) (hstuck : t.stuck = false)
    {length : Nat} {ids : List Nat} {obs : List FsmObs} (he : Orderly cfg t (.frame (.fileTransferDone length ids) obs)) :
    DoneInv num tarFlag ((t.handleTransferDoneFrame length ids).senderFsm cfg obs) := by
  unfold DFileTrans.handleTransferDoneFrame
  rw [if_neg (by simp [h.sender])]
  split
  · exact h.senderFsm cfg hstuck obs
  rename_i htakes
  have htakes : TakesDone t := by
    unfold TakesDone
    tauto
  have he := he halive hstuck htakes
  by_cases hflag : t.fileTransferDoneReceived = true
  · rw [if_pos hflag]
    rw [if_pos hflag, h.numEq, h.tarFlagEq] at he
    exact DoneInv.senderFsm cfg ⟨h.toLogInv.again hflag he, fun _ _ => ⟨hflag, (h.finishing hflag hstuck).state⟩⟩ hstuck obs
  · rw [if_neg hflag]
    rw [if_neg hflag] at he
    by_cases hwell : wellFormed length = true
    swap
    · rw [if_neg hwell] at he ⊢
      exact h.refused halive (by simpa using hflag) he.1 he.2
    rw [if_pos hwell] at he ⊢
    have hlog := h.toLogInv.first halive (by simpa using hflag) (ids.take (length / 2))
    rcases htakes with hwait | hack | hdata
    · -- only here the clock decides
      refine ⟨hlog.turns (turns_senderFsm cfg obs _), fun _ hrest => ?_⟩
      rcases finishing_of_wait (t := { t with fileTransferDoneReceived := true, sendSuccess := _, log := _ }) rfl hwait
        (he hwait) with hfin | hstuck'
      · exact hfin
      · exact absurd (hstuck'.symm.trans hrest) (by simp)
    · exact DoneInv.senderFsm cfg ⟨hlog, fun _ _ => ⟨rfl, .inr (.inl hack)⟩⟩ hstuck obs
    · exact DoneInv.senderFsm cfg ⟨hlog, fun _ _ => ⟨rfl, .inl hdata⟩⟩ hstuck obs

theorem DoneInv.congr (h : DoneInv num tarFlag t) (h₁ : t'.isSender = t.isSender) (h₂ : t'.num = t.num)
    (h₃ : t'.tarFlag = t.tarFlag)
    (h₄ : t'.fileTransferDoneReceived = t.fileTransferDoneReceived) (h₅ : t'.sendSuccess = t.sendSuccess)
        (h₆ : t'.alive = t.alive)
    (h₇ : t'.stuck = t.stuck) (h₈ : t'.sendState = t.sendState) (h₉ : t'.log = t.log) : DoneInv num tarFlag t' := by
  refine ⟨h.toLogInv.turns ⟨h₁, h₂, h₃, h₄, h₅, h₆, [], by simp [h₉], by simp⟩, fun hflag hstuck => ?_⟩
  have := h.finishing (h₄.symm.trans hflag) (h₇.symm.trans hstuck)
  exact ⟨hflag, by rw [h₈, h₅]; exact this.state⟩

theorem DoneInv.handleDFileFrame (h : DoneInv num tarFlag t) (halive : t.alive = true) (hstuck : t.stuck = false)
    {f : DFileTransFrame} {obs : List FsmObs} (he : Orderly cfg t (.frame f obs)) :
    DoneInv num tarFlag (t.handleDFileFrame cfg f obs) := by
  have hfsm : DoneInv num tarFlag ((t.handleFrame cfg f).transferFsm cfg obs) := by
    have hkept : ∀ t' : DFileTrans, t'.isSender = true → DoneInv num tarFlag (t'.senderFsm cfg obs) →
        DoneInv num tarFlag (t'.transferFsm cfg obs) := by
      intro t' hsender h'
      unfold transferFsm
      rw [if_pos hsender]
      exact h'
    cases f with
    | fileHeader allReceived renamed =>
      rw [DFileTrans.handleFrame, handleFileNameTableFrame, if_pos h.sender]
      exact hkept t h.sender (h.senderFsm cfg hstuck obs)
    | fileHeaderConfirm =>
      rw [DFileTrans.handleFrame, handleFileTableAckFrame, if_pos h.sender]
      have h' : DoneInv num tarFlag { t with lostAckCnt := 0 } := h.congr rfl rfl rfl rfl rfl rfl rfl rfl rfl
      exact hkept _ h.sender (h'.senderFsm cfg hstuck obs)
    | fileData d =>
      rw [DFileTrans.handleFrame, handleFileDataFrame, if_pos (by simp [h.sender])]
      exact hkept t h.sender (h.senderFsm cfg hstuck obs)
    | fileTransferDone length ids =>
      refine hkept _ ?_ (h.handleTransferDoneFrame halive hstuck he)
      rw [DFileTrans.handleFrame]
      unfold DFileTrans.handleTransferDoneFrame
      repeat' split
      all_goals exact h.sender
    | fileTransferDoneAck =>
      rw [DFileTrans.handleFrame, if_pos h.sender]
      exact hkept t h.sender (h.senderFsm cfg hstuck obs)
    | other => exact hkept t h.sender (h.senderFsm cfg hstuck obs)
  unfold DFileTrans.handleDFileFrame finishFrame
  split
  · exact h
  split
  · exact hfsm
  rename_i hrest
  have hrest := Bool.not_eq_true _ ▸ hrest
  split
  · have hack := hfsm.report .fileSendAck (fun _ hterm => by cases hterm)
    exact DoneInv.notifyEnd (hack.congr rfl rfl rfl rfl rfl rfl rfl rfl rfl) hrest
  · exact hfsm.notifyEnd hrest

theorem DoneInv.step (h : DoneInv num tarFlag t) {e : DFileTransEvent} (he : Orderly cfg t e) :
    DoneInv num tarFlag (t.next cfg e) := by
  unfold next
  split
  · exact h
  rename_i hrun
  simp only [Bool.or_eq_true, Bool.not_eq_true', not_or, Bool.not_eq_false, Bool.not_eq_true] at hrun
  obtain ⟨halive, hstuck⟩ := hrun
  cases e with
  | frame f obs => exact h.handleDFileFrame halive hstuck he
  | process obs =>
    dsimp only
    unfold dFileTransProcess finishProcess transferFsm
    rw [if_pos h.sender]
    have hfsm := h.senderFsm cfg hstuck obs
    split
    · exact h
    split
    · exact hfsm
    · rename_i hrest
      exact DoneInv.notifyEnd (hfsm.congr rfl rfl rfl rfl rfl rfl rfl rfl rfl) (Bool.not_eq_true _ ▸ hrest)
  | fileManager m obs =>
    dsimp only
    split
    · exact h
    rw [if_pos h.sender]
    cases m with
    | transInProgress => exact h.report .inProgress (fun _ hterm => by cases hterm)
    | sendFail =>
      have hunset : t.fileTransferDoneReceived = false := he halive hstuck
      have hflag := (turns_setSendState cfg t .sendFileFail).flag.trans hunset
      refine DoneInv.report ⟨h.toLogInv.turns (turns_setSendState cfg t _), fun h' => ?_⟩ _ fun h' => ?_
      · exact absurd (hflag.symm.trans h') (by simp)
      · exact absurd (hflag.symm.trans h') (by simp)
    | _ => exact h

theorem doneInv_init (num : Nat) (tarFlag : Bool) :
    DoneInv num tarFlag { isSender := true, num := num, tarFlag := tarFlag } :=
  ⟨⟨rfl, rfl, rfl, by simp, by simp, by simp, by simp⟩, by simp⟩

end

/-! ## Runs -/

def OutcomeFollows (num : Nat) (tarFlag : Bool) (log : List TransLog) : Prop :=
  ∀ l₁ ids l₂ m, log = l₁ ++ .accepted ids :: l₂ → .msg m ∈ l₂ → m.terminal = true → m = outcome num tarFlag ids

def RefusedKeeps (cfg : DFileTransConfig) (t : DFileTrans) (e : DFileTransEvent) : Prop :=
  ∀ length ids obs, e = .frame (.fileTransferDone length ids) obs → wellFormed length = false →
    t.alive = true → t.stuck = false → t.fileTransferDoneReceived = false →
    t.sendState = .sendFileDataOngoing ∨ t.sendState = .waitForFileTransferDoneFrame →
    (t.next cfg e).sendState = (t.next cfg (.process obs)).sendState

section
variable {cfg : DFileTransConfig} {num : Nat} {tarFlag : Bool} {t : DFileTrans}

theorem notifyEnd_sendState (t : DFileTrans) : t.dFileTransNotifyEndMsg.sendState = t.sendState := by
  unfold dFileTransNotifyEndMsg notifyFileSent
  repeat' split
  all_goals rfl

theorem finishFrame_sendState (t : DFileTrans) : t.finishFrame.sendState = t.sendState := by
  unfold finishFrame
  repeat' split
  · rfl
  · exact notifyEnd_sendState _
  · exact notifyEnd_sendState t

theorem finishProcess_sendState (t : DFileTrans) : t.finishProcess.sendState = t.sendState := by
  unfold finishProcess
  split
  · rfl
  · exact notifyEnd_sendState _

theorem DoneInv.refusedKeeps (h : DoneInv num tarFlag t) {e : DFileTransEvent} (he : Orderly cfg t e) :
    RefusedKeeps cfg t e := by
  rintro length ids obs rfl hbad halive hstuck hflag hdata
  have htakes : TakesDone t := by
    unfold TakesDone
    tauto
  have he := he halive hstuck htakes
  simp only [hflag, hbad, Bool.false_eq_true, if_false] at he
  obtain ⟨hstate, hlate⟩ := he
  have hframe : t.handleFrame cfg (.fileTransferDone length ids) = { t with fileTransferDoneReceived := true } := by
    simp [DFileTrans.handleFrame, DFileTrans.handleTransferDoneFrame, h.sender, hstate, hflag, hbad]
  have hfinished : t.dFileTransStateFinished = false := by simp [dFileTransStateFinished, h.sender, hstate]
  have hrun : ¬ (!t.alive || t.stuck) = true := by simp [halive, hstuck]
  have hleft : (t.next cfg (.frame (.fileTransferDone length ids) obs)).sendState =
      ({ t with fileTransferDoneReceived := true }.senderFsm cfg obs).sendState := by
    unfold next
    rw [if_neg hrun]
    dsimp only
    rw [DFileTrans.handleDFileFrame, if_neg (by simp [hfinished]), finishFrame_sendState, hframe, transferFsm, if_pos h.sender]
  have hright : (t.next cfg (.process obs)).sendState = (t.senderFsm cfg obs).sendState := by
    unfold next
    rw [if_neg hrun]
    dsimp only
    rw [dFileTransProcess, if_neg (by simp [hfinished]), finishProcess_sendState, transferFsm, if_pos h.sender]
  rw [hleft, hright]
  cases obs with
  | nil => rfl
  | cons o obs =>
    obtain ⟨hold, htcp⟩ := hlate o rfl
    rw [senderFsm_late { t with fileTransferDoneReceived := true } hstate hold htcp, senderFsm_late t hstate hold htcp]
    rfl

end

/-- A sender whose `TRANSFER_DONE` frame comes in order ends with the files the frame names, and a
frame that is refused does not move it. -/
theorem dfile_sender_outcome (cfg : DFileTransConfig) (num : Nat) (tarFlag : Bool) (events : List DFileTransEvent)
    (h : Run.Always (next cfg) (Orderly cfg) { isSender := true, num := num, tarFlag := tarFlag } events) :
    OutcomeFollows num tarFlag (Run.final (next cfg) { isSender := true, num := num, tarFlag := tarFlag } events).log ∧
      Run.Always (next cfg) (RefusedKeeps cfg) { isSender := true, num := num, tarFlag := tarFlag } events := by
  have hdone := Run.inv_final (I := DoneInv num tarFlag) (fun _ _ h he => h.step he) events (doneInv_init num tarFlag) h
  have hkeeps := Run.always_of_inv (I := DoneInv num tarFlag) (fun _ _ h he => ⟨h.step he, h.refusedKeeps he⟩) events
    (doneInv_init num tarFlag) h
  refine ⟨fun l₁ ids l₂ m hlog hm hterm => ?_, hkeeps⟩
  have hids : .accepted ids ∈ (Run.final (next cfg) { isSender := true, num := num, tarFlag := tarFlag } events).log := by
    simp [hlog]
  have hflag : (Run.final (next cfg) { isSender := true, num := num, tarFlag := tarFlag }
      events).fileTransferDoneReceived = true := by
    by_contra hunset
    exact (hdone.unset (by simpa using hunset)).2 ids hids
  rw [hdone.ended hflag m (by simp [hlog, hm]) hterm, outcome, outcome, hdone.same ids hids]

def sendOneFile (length : Nat) (elapsed : Nat) : List DFileTransEvent :=
  [.process [{}, {}, { allFileNameAcked := true }, { lastBlockRead := true }, { lastBlockRead := true }],
    .frame (.fileTransferDone length [1]) [{ elapsed := elapsed, lastBlockRead := true }, {}]]

theorem dfile_sender_outcome_one_file :
    OutcomeFollows 1 false
        (Run.final (next ⟨5, 5, 5, 5, 5, 5, 5, 5, 5, false⟩) { isSender := true, num := 1 } (sendOneFile 2 0)).log ∧
      Run.Always (next ⟨5, 5, 5, 5, 5, 5, 5, 5, 5, false⟩) (RefusedKeeps ⟨5, 5, 5, 5, 5, 5, 5, 5, 5, false⟩)
        { isSender := true, num := 1 } (sendOneFile 2 0) := by
  refine dfile_sender_outcome ⟨5, 5, 5, 5, 5, 5, 5, 5, 5, false⟩ 1 false (sendOneFile 2 0)
    ⟨fun _ _ => trivial, fun _ _ _ => ?_, trivial⟩
  rw [if_neg (by decide +kernel), if_pos (by decide +kernel)]
  rintro _ o ⟨⟩
  exact .inl (by decide +kernel)

/-- The frame with the file comes in the waiting state when the time is over: the sender reports a
failure. And a frame of an odd length ends the waiting. -/
theorem dfile_sender_outcome_late_or_malformed :
    ¬ OutcomeFollows 1 false
        (Run.final (next ⟨5, 5, 5, 5, 5, 5, 5, 5, 5, false⟩) { isSender := true, num := 1 } (sendOneFile 2 5)).log ∧
      ¬ Run.Always (next ⟨5, 5, 5, 5, 5, 5, 5, 5, 5, false⟩) (RefusedKeeps ⟨5, 5, 5, 5, 5, 5, 5, 5, 5, false⟩)
        { isSender := true, num := 1 } (sendOneFile 3 0) := by
  constructor
  · intro h
    have hlog : (Run.final (next ⟨5, 5, 5, 5, 5, 5, 5, 5, 5, false⟩) { isSender := true, num := 1 } (sendOneFile 2 5)).log =
        [.sendState .sendFileHeaderOngoing, .sendState .waitForFileHeaderConfirm, .msg .fileSendData,
          .sendState .sendFileDataOngoing, .sendState .waitForFileTransferDoneFrame] ++
          .accepted [1] :: [.sendState .sendFileFail, .msg .fileSendFail] := by decide +kernel
    have := h _ _ _ .fileSendFail hlog (by simp) rfl
    exact absurd this (by decide +kernel)
  · rintro ⟨_, h, _⟩
    have := h 3 [1] _ rfl (by decide +kernel) (by decide +kernel) (by decide +kernel) (by decide +kernel)
      (.inr (by decide +kernel))
    exact absurd this (by decide +kernel)

end DFileTrans

end SoftBus
