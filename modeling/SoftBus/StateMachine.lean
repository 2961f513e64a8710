import SoftBus.Looper

/-!
# Messages of a state machine

`lnn_state_machine.c`. State machines share a looper, each has a handler of its own. What is
posted to a state machine is a control message or a data message, whose type is in `arg1`.
-/

namespace SoftBus

def fsmCtrlMsgData : BitVec 32 := 1

/-- `RemoveMessageFunc`, where it returns 0. The type comes as a pointer, so that 0 is `NULL`. -/
def removeMessageFunc (para : BitVec 64) (msg : SoftBusMessage) : Bool :=
  if para = 0 then false
  else msg.what = fsmCtrlMsgData && msg.arg1.truncate 32 = para.truncate 32

/-- `LnnFsmRemoveMessage`: the call of `RemoveMessageCustom`, from the time it gets the lock. -/
def lnnFsmRemoveMessage (looper : SoftBusLooper) (fsm : SoftBusHandler) (msgType : BitVec 32) : SoftBusLooper :=
  (looper.remove fsm (removeMessageFunc (msgType.signExtend 64))).removeLocked looper.removing.length

/-- A data message of a type for the state machine. -/
def isDataMessage (fsm : SoftBusHandler) (msgType : BitVec 32) (node : SoftBusMessageNode) : Bool :=
  node.msg.handler = some fsm && (node.msg.what = fsmCtrlMsgData && node.msg.arg1.truncate 32 = msgType)

section
variable (looper : SoftBusLooper) (fsm : SoftBusHandler) (msgType : BitVec 32)

theorem removeMessageFunc_signExtend (msg : SoftBusMessage) :
    removeMessageFunc (msgType.signExtend 64) msg =
      (msgType ≠ 0 && (msg.what = fsmCtrlMsgData && msg.arg1.truncate 32 = msgType)) := by
  have htrunc : (msgType.signExtend 64).truncate 32 = msgType := by
    ext i hi
    simp [BitVec.getLsbD_signExtend, hi]
    omega
  have hzero : msgType.signExtend 64 = 0 ↔ msgType = 0 := by
    refine ⟨fun h => ?_, fun h => by rw [h]; rfl⟩
    rw [← htrunc, h]
    rfl
  rw [removeMessageFunc, htrunc]
  by_cases h : msgType = 0
  · rw [if_pos (hzero.mpr h), decide_eq_false (not_not_intro h), Bool.false_and]
  · rw [if_neg (mt hzero.mp h), decide_eq_true h, Bool.true_and]

theorem msgHead_lnnFsmRemoveMessage :
    (lnnFsmRemoveMessage looper fsm msgType).msgHead =
      if looper.running = true ∧ looper.stop = false ∧ msgType ≠ 0 then
        looper.msgHead.filter fun node => !isDataMessage fsm msgType node
      else looper.msgHead := by
  have hmatch : ∀ meant node, SoftBusLooper.LoopRemoval.matches
      ⟨fsm, removeMessageFunc (msgType.signExtend 64), meant⟩ node = (msgType ≠ 0 && isDataMessage fsm msgType node) := by
    intro meant node
    simp only [SoftBusLooper.LoopRemoval.matches, removeMessageFunc_signExtend, isDataMessage, Bool.and_left_comm]
  unfold lnnFsmRemoveMessage SoftBusLooper.removeLocked SoftBusLooper.remove
  simp only [List.getElem?_concat_length, hmatch]
  by_cases hrun : looper.running = true ∧ looper.stop = false
  · have hbusy : ¬(!looper.running || looper.stop) = true := by simp [hrun]
    rw [if_neg hbusy]
    by_cases hzero : msgType = 0
    · rw [if_neg fun h => h.2.2 hzero]
      simp [hzero]
    · rw [if_pos ⟨hrun.1, hrun.2, hzero⟩]
      simp only [decide_eq_true hzero, Bool.true_and]
  · have hidle : (!looper.running || looper.stop) = true := by
      cases hr : looper.running <;> simp_all
    rw [if_pos hidle, if_neg fun h => hrun ⟨h.1, h.2.1⟩]

theorem lnn_fsm_remove_message_iff :
    (lnnFsmRemoveMessage looper fsm msgType).msgHead =
        looper.msgHead.filter (fun node => !isDataMessage fsm msgType node) ↔
      (looper.running = true ∧ looper.stop = false ∧ msgType ≠ 0) ∨
        ∀ node ∈ looper.msgHead, isDataMessage fsm msgType node = false := by
  rw [msgHead_lnnFsmRemoveMessage]
  split
  · rename_i h
    exact iff_of_true rfl (.inl h)
  · rename_i h
    rw [or_iff_right h, eq_comm, List.filter_eq_self]
    simp

end

/-- A data message of type 0, which is not removed. -/
theorem fsm_message_type_zero_stays :
    let fsm : SoftBusHandler := ⟨0, true⟩
    let looper : SoftBusLooper := { running := true, msgHead := [⟨⟨0, fsmCtrlMsgData, 0, 0, 0, some fsm⟩, 0⟩] }
    (lnnFsmRemoveMessage looper fsm 0).msgHead = looper.msgHead ∧
      looper.msgHead.filter (isDataMessage fsm 0) = looper.msgHead := by
  decide

end SoftBus
