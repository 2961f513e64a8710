import SoftBus.DFileTcpSend

/-!
# Frames stay whole on a TCP connection

Between calls one frame at most is partly written. It is finished before another one is
begun, unless the sending rate is zero when the rest of a data frame is to go out while
control frames wait.
-/

namespace SoftBus

open Framing (Wire Whole rest)

namespace SendNode

def left (wrap : TcpFrame → WireFrame) : Option SendNode → List UInt8
  | some n => rest WireFrame.bytes (wrap n.frame) n.sendLen
  | none => []

def fresh (wrap : TcpFrame → WireFrame) : Option SendNode → List WireFrame
  | some n => if n.sendLen = 0 then [wrap n.frame] else []
  | none => []

end SendNode

open SendNode (left fresh)

namespace DFileSender

section
variable {wrap : TcpFrame → WireFrame} {w : Wire WireFrame UInt8} {n : SendNode}

theorem tcpSend_cases (hwrap : ∀ f, (wrap f).bytes = f.1) (h : Whole WireFrame.bytes w (left wrap (some n)))
    (r : SocketResult) :
    (∃ w', tcpSend wrap w n r = (w', none, .positive) ∧ Whole WireFrame.bytes w' [] ∧
      w'.begun = w.begun ++ fresh wrap (some n)) ∨
    (∃ w' n', tcpSend wrap w n r = (w', some n', .eagain) ∧ Whole WireFrame.bytes w' (left wrap (some n')) ∧
      w'.begun ++ fresh wrap (some n') = w.begun ++ fresh wrap (some n)) ∨
    tcpSend wrap w n r = (w, some n, .efailed) := by
  have hbegun : ∀ k, (w.write WireFrame.bytes (wrap n.frame) n.sendLen k).begun = w.begun ++ fresh wrap (some n) := by
    intro k
    by_cases hn : n.sendLen = 0
    · simp [Wire.write, fresh, hn]
    · simp [Wire.write, fresh, hn]
  cases r with
  | accepts room =>
    rw [tcpSend]
    split
    · rename_i hlt
      have hnone : fresh wrap (some ⟨n.frame, n.sendLen + (room + 1), hlt⟩) = [] := by
        simp [fresh]
      refine .inr (.inl ⟨_, _, rfl, h.write_part (Nat.succ_pos room), ?_⟩)
      rw [hnone, List.append_nil, hbegun]
    · refine .inl ⟨_, rfl, h.write_all ?_, hbegun _⟩
      rw [hwrap]
      omega
  | wouldBlock => exact .inr (.inl ⟨w, n, rfl, h, rfl⟩)
  | error => exact .inr (.inr rfl)

end

/-! ## Phases of a call -/

def dataFrames (l : List WireFrame) : List TcpFrame := l.filterMap WireFrame.data?

def controlFrames (l : List WireFrame) : List TcpFrame := l.filterMap WireFrame.control?

theorem dataFrames_append (l l' : List WireFrame) : dataFrames (l ++ l') = dataFrames l ++ dataFrames l' :=
  List.filterMap_append

theorem controlFrames_append (l l' : List WireFrame) : controlFrames (l ++ l') = controlFrames l ++ controlFrames l' :=
  List.filterMap_append

theorem dataFrames_fresh (n : Option SendNode) : dataFrames (fresh .control n) = [] := by
  cases n with
  | none => rfl
  | some n =>
    rw [fresh]
    split <;> rfl

theorem controlFrames_fresh (n : Option SendNode) : controlFrames (fresh .data n) = [] := by
  cases n with
  | none => rfl
  | some n =>
    rw [fresh]
    split <;> rfl

def Framed (s : DFileSender) : Prop :=
  s.wire.written <+: s.wire.begun.flatMap WireFrame.bytes ∧ dataFrames s.wire.begun <+: s.taken ∧
    controlFrames s.wire.begun <+: s.posted

structure Sound (s : DFileSender) : Prop where
  one : s.unsent = [] ∨ (∃ n, s.unsent = [n]) ∧ s.preQueueNode = none
  whole : Whole WireFrame.bytes s.wire (left .control s.preQueueNode ++ left .data s.unsent.head?)
  data : dataFrames (s.wire.begun ++ fresh .data s.unsent.head?) = s.taken
  control : controlFrames (s.wire.begun ++ fresh .control s.preQueueNode) ++ s.outboundQueue = s.posted

structure DataReady (s : DFileSender) (head : Option SendNode) : Prop where
  pre : s.preQueueNode = none
  unsent : s.unsent = []
  whole : Whole WireFrame.bytes s.wire (left .data head)
  data : dataFrames (s.wire.begun ++ fresh .data head) = s.taken
  control : controlFrames s.wire.begun ++ s.outboundQueue = s.posted

structure ControlReady (s : DFileSender) (queueNode : Option SendNode) : Prop where
  unsent : s.unsent = []
  whole : Whole WireFrame.bytes s.wire (left .control queueNode)
  data : dataFrames s.wire.begun = s.taken
  control : controlFrames (s.wire.begun ++ fresh .control queueNode) ++ s.outboundQueue = s.posted

structure Left (s : DFileSender) (ret : SendRet) : Prop where
  framed : Framed s
  sound : ret ≠ .efailed → Sound s

section
variable {s s' : DFileSender} {head queueNode : Option SendNode}

theorem Sound.framed (h : Sound s) : Framed s := by
  refine ⟨h.whole.isPrefix, ?_, ?_⟩
  · rw [← h.data, dataFrames_append]
    exact List.prefix_append _ _
  · rw [← h.control, controlFrames_append, List.append_assoc]
    exact List.prefix_append _ _

theorem Sound.leaves {ret : SendRet} (h : Sound s) : Left s ret := ⟨h.framed, fun _ => h⟩

theorem DataReady.framed (h : DataReady s head) : Framed s := by
  refine ⟨h.whole.isPrefix, ?_, ?_⟩
  · rw [← h.data, dataFrames_append]
    exact List.prefix_append _ _
  · rw [← h.control]
    exact List.prefix_append _ _

theorem DataReady.sound (h : DataReady s head) (ended : Bool) :
    Sound { s with unsent := head.toList, ended := ended } := by
  have hhead : head.toList.head? = head := by cases head <;> rfl
  refine ⟨?_, ?_, ?_, ?_⟩
  · cases head with
    | none => exact .inl rfl
    | some n => exact .inr ⟨⟨n, rfl⟩, h.pre⟩
  · dsimp only
    rw [h.pre, hhead]
    exact h.whole
  · dsimp only
    rw [hhead]
    exact h.data
  · dsimp only
    rw [h.pre, fresh, List.append_nil]
    exact h.control

theorem DataReady.idle (h : DataReady s none) : Sound s := by
  have := h.sound s.ended
  rwa [Option.toList_none, ← h.unsent] at this

theorem DataReady.takeBlock (h : DataReady s head) (block : Option TcpFrame) :
    DataReady (s.takeBlock head block).1 (s.takeBlock head block).2 := by
  unfold DFileSender.takeBlock
  split
  · exact h
  · refine ⟨h.pre, h.unsent, h.whole, ?_, h.control⟩
    dsimp only
    rw [← h.data]
    simp [fresh, SendNode.start, dataFrames, WireFrame.data?]
  · exact h

structure DataDone (s : DFileSender) (ret : SendRet) : Prop extends Left s ret where
  pre : s.preQueueNode = none
  finished : ret = .eok ∨ ret = .positive → s.unsent = []

theorem doSendDataFrame_done (sendRemain : Bool) : ∀ (turns : List DataTurn) {head : Option SendNode} {s : DFileSender},
    DataReady s head → DataDone (doSendDataFrame sendRemain turns head s).1 (doSendDataFrame sendRemain turns head s).2
  | [], head, s, h => ⟨(h.sound true).leaves, h.pre, by simp [doSendDataFrame]⟩
  | o :: turns, head, s, h => by
    have hblock := h.takeBlock o.block
    unfold doSendDataFrame
    generalize s.takeBlock head o.block = taken at hblock
    obtain ⟨s, head⟩ := taken
    dsimp only at hblock ⊢
    cases head with
    | none => exact ⟨hblock.idle.leaves, hblock.pre, fun _ => hblock.unsent⟩
    | some n =>
      dsimp only
      unfold tcpSendFileDataFrame
      rcases tcpSend_cases (fun _ => rfl) hblock.whole o.socket with
        ⟨w, heq, hwhole, hbegun⟩ | ⟨w, n', heq, hwhole, hbegun⟩ | heq
      · have hready : DataReady { s with wire := w } none :=
          ⟨hblock.pre, hblock.unsent, hwhole, by rw [fresh, List.append_nil, hbegun]; exact hblock.data,
            by rw [hbegun, controlFrames_append, controlFrames_fresh, List.append_nil]; exact hblock.control⟩
        rw [heq]
        dsimp only
        split
        · exact ⟨hready.idle.leaves, hready.pre, fun _ => hready.unsent⟩
        · exact doSendDataFrame_done sendRemain turns hready
      · have hready : DataReady { s with wire := w } (some n') := by
          refine ⟨hblock.pre, hblock.unsent, hwhole, by rw [hbegun]; exact hblock.data, ?_⟩
          have := congrArg controlFrames hbegun
          rw [controlFrames_append, controlFrames_append, controlFrames_fresh, controlFrames_fresh, List.append_nil,
            List.append_nil] at this
          rw [this]
          exact hblock.control
        rw [heq]
        exact ⟨(hready.sound s.ended).leaves, hready.pre, by simp⟩
      · rw [heq]
        exact ⟨⟨hblock.framed, by simp⟩, hblock.pre, by simp⟩

theorem ControlReady.framed (h : ControlReady s queueNode) : Framed s := by
  refine ⟨h.whole.isPrefix, h.data ▸ List.prefix_refl _, ?_⟩
  rw [← h.control, controlFrames_append, List.append_assoc]
  exact List.prefix_append _ _

theorem ControlReady.sound (h : ControlReady s queueNode) (ended : Bool) :
    Sound { s with preQueueNode := queueNode, ended := ended } := by
  refine ⟨.inl h.unsent, ?_, ?_, h.control⟩
  · dsimp only
    rw [h.unsent, List.head?_nil, left, List.append_nil]
    exact h.whole
  · dsimp only
    rw [h.unsent, List.head?_nil, fresh, List.append_nil]
    exact h.data

theorem ControlReady.takeNode (h : ControlReady s queueNode) :
    ControlReady (s.takeNode queueNode).1 (s.takeNode queueNode).2 := by
  unfold DFileSender.takeNode
  split
  · exact h
  · rename_i hqueue
    refine ⟨h.unsent, h.whole, h.data, ?_⟩
    dsimp only
    rw [← h.control, hqueue]
    simp [fresh, SendNode.start, controlFrames, WireFrame.control?]
  · exact h

structure ControlDone (s : DFileSender) (ret : SendRet) : Prop extends Left s ret where
  unsent : s.unsent = []
  finished : ret = .eok → s.preQueueNode = none

theorem ControlReady.done (h : ControlReady s queueNode) {ret : SendRet} (hret : ret = .eok → queueNode = none) :
    ControlDone { s with preQueueNode := queueNode } ret :=
  ⟨(h.sound s.ended).leaves, h.unsent, hret⟩

theorem sendOutboundFrame_done : ∀ (turns : List ControlTurn) {queueNode : Option SendNode} {s : DFileSender},
    ControlReady s queueNode →
      ControlDone (sendOutboundFrame turns queueNode s).1 (sendOutboundFrame turns queueNode s).2
  | [], queueNode, s, h => by
    have hnode := h.takeNode
    unfold sendOutboundFrame
    generalize s.takeNode queueNode = taken at hnode
    obtain ⟨s, node⟩ := taken
    cases node with
    | none => exact hnode.done fun _ => rfl
    | some n => exact ⟨(hnode.sound true).leaves, hnode.unsent, by simp⟩
  | o :: turns, queueNode, s, h => by
    have hnode := h.takeNode
    unfold sendOutboundFrame
    generalize s.takeNode queueNode = taken at hnode
    obtain ⟨s, node⟩ := taken
    dsimp only at hnode ⊢
    cases node with
    | none => exact hnode.done fun _ => rfl
    | some n =>
      dsimp only
      unfold sendControlFrame
      rcases tcpSend_cases (fun _ => rfl) hnode.whole o.socket with
        ⟨w, heq, hwhole, hbegun⟩ | ⟨w, n', heq, hwhole, hbegun⟩ | heq
      · have hready : ControlReady { s with wire := w } none :=
          ⟨hnode.unsent, hwhole, by rw [hbegun, dataFrames_append, dataFrames_fresh, List.append_nil]; exact hnode.data,
            by rw [fresh, List.append_nil, hbegun]; exact hnode.control⟩
        rw [heq]
        dsimp only
        split
        · exact hready.done fun _ => rfl
        · exact sendOutboundFrame_done turns hready
      · have hready : ControlReady { s with wire := w } (some n') := by
          refine ⟨hnode.unsent, hwhole, ?_, by rw [hbegun]; exact hnode.control⟩
          have := congrArg dataFrames hbegun
          rw [dataFrames_append, dataFrames_append, dataFrames_fresh, dataFrames_fresh, List.append_nil,
              List.append_nil] at this
          exact this.trans hnode.data
        rw [heq]
        exact hready.done (by simp)
      · rw [heq]
        exact ⟨⟨hnode.framed, by simp⟩, hnode.unsent, by simp⟩

/-! ## Calls -/

theorem Sound.dataReady (h : Sound s) (hpre : s.preQueueNode = none) :
    DataReady { s with unsent := s.unsent.tail } s.unsent.head? := by
  refine ⟨hpre, ?_, ?_, h.data, ?_⟩
  · rcases h.one with hnil | ⟨⟨n, hn⟩, _⟩
    · simp [hnil]
    · simp [hn]
  · have := h.whole
    rw [hpre] at this
    exact this
  · have := h.control
    rwa [hpre, fresh, List.append_nil] at this

theorem Sound.controlReady (h : Sound s) (hunsent : s.unsent = []) : ControlReady s s.preQueueNode := by
  refine ⟨hunsent, ?_, ?_, h.control⟩
  · have := h.whole
    rwa [hunsent, List.head?_nil, show left .data none = [] from rfl, List.append_nil] at this
  · have := h.data
    rwa [hunsent, List.head?_nil, fresh, List.append_nil] at this

theorem Sound.sendDataFrame (h : Sound s) (hpre : s.preQueueNode = none) (sendRemain : Bool) (p : DataPhase) :
    Left (s.sendDataFrame sendRemain p).1 (s.sendDataFrame sendRemain p).2 := by
  unfold DFileSender.sendDataFrame
  split
  · exact ⟨h.framed, by simp⟩
  split
  · exact h.leaves
  · exact (doSendDataFrame_done sendRemain p.turns (h.dataReady hpre)).toLeft

def Clear (s : DFileSender) : Prop := s.unsent = [] ∨ s.preQueueNode = none ∧ s.outboundQueue = []

def NotHeldUp (s : DFileSender) (c : SendCall) : Prop := c.remain.amendSendRate = 0 → Clear s

theorem Sound.sendRemainFrame (h : Sound s) {c : SendCall} (hc : NotHeldUp s c) :
    match s.sendRemainFrame c with
    | (s', some ret) => Left s' ret
    | (s', none) => Sound s' ∧ Clear s' := by
  unfold DFileSender.sendRemainFrame
  by_cases hunsent : s.unsent = []
  · rw [if_pos hunsent]
    exact ⟨h, .inl hunsent⟩
  rw [if_neg hunsent]
  have hpre : s.preQueueNode = none := by
    rcases h.one with hnil | ⟨_, hpre⟩
    · exact absurd hnil hunsent
    · exact hpre
  have hclear : ∀ s' ret, s.sendDataFrame true c.remain = (s', ret) → ret = .eok ∨ ret = .positive → Sound s' ∧ Clear s' := by
    intro s' ret heq hret
    unfold DFileSender.sendDataFrame at heq
    split at heq
    · cases heq
      simp at hret
    split at heq
    · rename_i hzero
      cases heq
      exact ⟨h, hc hzero⟩
    · have hdone := doSendDataFrame_done true c.remain.turns (h.dataReady hpre)
      rw [heq] at hdone
      refine ⟨hdone.sound ?_, .inl (hdone.finished hret)⟩
      rcases hret with rfl | rfl <;> simp
  have hleft := h.sendDataFrame hpre true c.remain
  generalize s.sendDataFrame true c.remain = done at hleft hclear
  obtain ⟨s', ret⟩ := done
  cases ret with
  | efailed => exact hleft
  | eagain => exact hleft
  | eok =>
    dsimp only
    by_cases hclose : c.closeAfterRemain = true
    · rw [if_pos hclose]
      exact hleft
    · rw [if_neg hclose]
      exact hclear s' _ rfl (.inl rfl)
  | positive =>
    dsimp only
    by_cases hclose : c.closeAfterRemain = true
    · rw [if_pos hclose]
      exact hleft
    · rw [if_neg hclose]
      exact hclear s' _ rfl (.inr rfl)

theorem Sound.sendNewFrames (h : Sound s) (hclear : Clear s) (c : SendCall) :
    Left (s.sendNewFrames c).1 (s.sendNewFrames c).2 := by
  have hcontrol : ∃ s' ret, sendOutboundFrame c.control s.preQueueNode s = (s', ret) ∧ Left s' ret ∧
      (ret = .eok → s'.preQueueNode = none) := by
    rcases hclear with hunsent | ⟨hpre, hqueue⟩
    · have := sendOutboundFrame_done c.control (h.controlReady hunsent)
      exact ⟨_, _, rfl, this.toLeft, this.finished⟩
    · have hsame : { s with preQueueNode := none } = s := by rw [← hpre]
      have hnothing : sendOutboundFrame c.control s.preQueueNode s = (s, .eok) := by
        have htake : s.takeNode s.preQueueNode = (s, none) := by simp [DFileSender.takeNode, hpre, hqueue]
        cases hturns : c.control with
        | nil =>
          rw [sendOutboundFrame, htake]
          exact congrArg (·, SendRet.eok) hsame
        | cons o turns =>
          rw [sendOutboundFrame, htake]
          exact congrArg (·, SendRet.eok) hsame
      exact ⟨s, .eok, hnothing, h.leaves, fun _ => hpre⟩
  obtain ⟨s', ret, heq, hleft, hpre⟩ := hcontrol
  unfold DFileSender.sendNewFrames
  rw [heq]
  dsimp only
  split
  · exact hleft
  split
  · exact ⟨hleft.framed, by simp⟩
  split
  · exact hleft
  split
  · rename_i hret
    exact (hleft.sound (by simp [hret])).sendDataFrame (hpre hret) false c.data
  · exact hleft

theorem Sound.dFileSessionSendFrame (h : Sound s) {c : SendCall} (hc : NotHeldUp s c) :
    Left (s.dFileSessionSendFrame c).1 (s.dFileSessionSendFrame c).2 := by
  have hremain := h.sendRemainFrame hc
  unfold DFileSender.dFileSessionSendFrame
  generalize s.sendRemainFrame c = done at hremain
  obtain ⟨s', ret⟩ := done
  cases ret with
  | some ret => exact hremain
  | none => exact hremain.1.sendNewFrames hremain.2 c

/-! ## Runs -/

structure SenderInv (s : DFileSender) : Prop where
  framed : Framed s
  sound : s.ended = false → Sound s

def Steady (s : DFileSender) : DFileSenderEvent → Prop
  | .post _ => True
  | .send c => s.ended = false → NotHeldUp s c

theorem SenderInv.step (h : SenderInv s) {e : DFileSenderEvent} (he : Steady s e) : SenderInv (s.next e) := by
  cases e with
  | post f =>
    obtain ⟨hwritten, hdata, hcontrol⟩ := h.framed
    refine ⟨⟨hwritten, hdata, hcontrol.trans (List.prefix_append _ _)⟩, fun hend => ?_⟩
    have hs := h.sound hend
    refine ⟨hs.one, hs.whole, hs.data, ?_⟩
    rw [next, ← List.append_assoc, hs.control]
  | send c =>
    rw [next]
    split
    · exact h
    · rename_i hend
      have hend : s.ended = false := by simpa using hend
      have hleft := (h.sound hend).dFileSessionSendFrame (he hend)
      generalize s.dFileSessionSendFrame c = done at hleft
      obtain ⟨s', ret⟩ := done
      rw [afterCall]
      refine ⟨hleft.framed, fun hnot => ?_⟩
      have hret : ret ≠ .efailed := by
        rintro rfl
        simp at hnot
      have := hleft.sound hret
      exact ⟨this.one, this.whole, this.data, this.control⟩

end

/-- On every run on which the rest of a data frame is not held up while control frames wait, the
bytes on the connection are whole frames up to the last one. -/
theorem dfile_tcp_frames_whole (client : Bool) (events : List DFileSenderEvent)
    (h : Run.Always next Steady { client := client } events) : Framed (Run.final next { client := client } events) := by
  have hinit : SenderInv { client := client } :=
    ⟨⟨List.prefix_refl _, List.prefix_refl _, List.prefix_refl _⟩, fun _ => ⟨.inl rfl, rfl, rfl, rfl⟩⟩
  have := Run.inv_final (I := SenderInv) (fun _ _ h he => h.step he) events hinit h
  exact this.framed

def interrupted (rate : Int) : List DFileSenderEvent :=
  [.send ⟨⟨true, 5, []⟩, false, [], true, 1500, ⟨true, 5, [⟨some ⟨[1, 2, 3], by decide⟩, .accepts 1, false⟩]⟩, false⟩,
    .post ⟨[4, 5], by decide⟩,
    .send ⟨⟨true, rate, [⟨none, .accepts 9, false⟩]⟩, false, [⟨.accepts 9, false⟩], true, 1500,
      ⟨true, rate, [⟨none, .wouldBlock, false⟩]⟩, false⟩]

theorem dfile_tcp_frames_whole_interrupted : Framed (Run.final next { client := true } (interrupted 5)) :=
  dfile_tcp_frames_whole true (interrupted 5) ⟨fun _ _ => .inl rfl, trivial, fun _ h => absurd h (by decide), trivial⟩

/-- With the rate zero the control frame goes out in the middle of the data frame. -/
theorem dfile_tcp_frames_mixed : ¬ Framed (Run.final next { client := true } (interrupted 0)) := by
  have hwritten : (Run.final next { client := true } (interrupted 0)).wire.written = [1, 2, 4, 5] := by decide +kernel
  have hbegun : (Run.final next { client := true } (interrupted 0)).wire.begun.flatMap WireFrame.bytes = [1, 2, 3, 4, 5] := by
    decide +kernel
  rintro ⟨hpre, _⟩
  rw [hwritten, hbegun] at hpre
  exact absurd hpre (by decide)

end DFileSender

end SoftBus
