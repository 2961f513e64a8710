import SoftBus.Common
import SoftBus.Lib.FirstMatch
import SoftBus.Lib.Run

/-!
# Waiting for a lane

`trans_lane_pending_ctl.c`: `TransGetLaneInfoByOption` puts an entry for its lane id in the pending list, asks the lane
manager for the lane and waits until a callback of the manager has finished the entry.

A step is one critical section under the lock of the list, or the request to the lane manager. Calls are numbered. An
entry keeps the number of its call, and a call what the lane manager answered for its lane id while it ran; no function
looks at either. Memory is always there and a wait does not fail, but it may end at any time.
-/

namespace SoftBus

variable {Conn : Type}

/-- `OnLaneRequestSuccess` or `OnLaneRequestFail`. -/
inductive LaneAnswer (Conn : Type) where
  | success (connInfo : Conn)
  | fail (reason : Int)

/-- What the caller gets; `connInfo` is `none` where the memory is zero. -/
structure LaneResult (Conn : Type) where
  ret : Int
  connInfo : Option Conn

def LaneAnswer.Gives : LaneAnswer Conn → LaneResult Conn → Prop
  | .success connInfo, result => result.ret = SoftbusRet.ok.toInt ∧ result.connInfo = some connInfo
  | .fail reason, result => result.ret = reason

structure TransReqLaneItem (Conn : Type) where
  owner : Nat
  laneId : Nat
  errCode : Int := SoftbusRet.err.toInt
  bSucc : Bool := false
  isFinished : Bool := false
  connInfo : Option Conn := none

namespace TransReqLaneItem

/-- `TransUpdateLaneConnInfoByLaneId` on the entry. -/
def finish (item : TransReqLaneItem Conn) : LaneAnswer Conn → TransReqLaneItem Conn
  | .success connInfo =>
    { item with bSucc := true, errCode := SoftbusRet.ok.toInt, connInfo := some connInfo, isFinished := true }
  | .fail reason => { item with bSucc := false, errCode := reason, isFinished := true }

def result (item : TransReqLaneItem Conn) : LaneResult Conn :=
  ⟨if item.bSucc then SoftbusRet.ok.toInt else item.errCode, item.connInfo⟩

variable (item : TransReqLaneItem Conn) (answer : LaneAnswer Conn)

@[simp] theorem finish_owner : (item.finish answer).owner = item.owner := by cases answer <;> rfl

@[simp] theorem finish_laneId : (item.finish answer).laneId = item.laneId := by cases answer <;> rfl

@[simp] theorem finish_isFinished : (item.finish answer).isFinished = true := by cases answer <;> rfl

theorem gives_finish : answer.Gives (item.finish answer).result := by
  cases answer with
  | success connInfo => exact ⟨rfl, rfl⟩
  | fail reason => rfl

end TransReqLaneItem

/-- A call that leaves has its result and has still to remove its entry; it is `early` if it did not find a finished
entry. -/
inductive LaneStage (Conn : Type) where
  | idle | added | requested | waiting | woken
  | leaving (result : LaneResult Conn) (early : Bool)
  | returned (result : LaneResult Conn)

def LaneStage.running : LaneStage Conn → Bool
  | .idle | .returned _ => false
  | _ => true

structure LaneCall (Conn : Type) where
  laneId : Nat := 0
  stage : LaneStage Conn := .idle
  -- the lane manager has taken the request
  accepted : Bool := false
  -- and has not answered it
  asked : Bool := false
  answers : List (LaneAnswer Conn) := []
  -- how often its entry was removed
  removed : Nat := 0

namespace LaneCall

/-- The lane manager has answered for the lane id. -/
def note (laneId : Nat) (answer : LaneAnswer Conn) (call : LaneCall Conn) : LaneCall Conn :=
  if call.stage.running ∧ call.laneId = laneId then { call with answers := call.answers ++ [answer] } else call

variable (call : LaneCall Conn) (laneId : Nat) (answer : LaneAnswer Conn)

@[simp] theorem note_laneId : (call.note laneId answer).laneId = call.laneId := by rw [note]; split <;> rfl

@[simp] theorem note_stage : (call.note laneId answer).stage = call.stage := by rw [note]; split <;> rfl

@[simp] theorem note_accepted : (call.note laneId answer).accepted = call.accepted := by rw [note]; split <;> rfl

@[simp] theorem note_removed : (call.note laneId answer).removed = call.removed := by rw [note]; split <;> rfl

theorem answers_subset_note : call.answers ⊆ (call.note laneId answer).answers := by
  rw [note]
  split
  · exact List.subset_append_left _ _
  · exact List.Subset.refl _

theorem mem_answers_note (hrun : call.stage.running) : answer ∈ (call.note call.laneId answer).answers := by
  rw [note, if_pos ⟨hrun, rfl⟩]
  exact List.mem_append_right _ (List.mem_singleton_self _)

end LaneCall

structure LanePending (Conn : Type) where
  pendingList : List (TransReqLaneItem Conn) := []
  calls : Nat → LaneCall Conn := fun _ => {}

namespace LanePending

variable (s : LanePending Conn)

def setCall (c : Nat) (call : LaneCall Conn) : LanePending Conn := { s with calls := Function.update s.calls c call }

def find (laneId : Nat) : Option (TransReqLaneItem Conn) := s.pendingList.find? (·.laneId = laneId)

def transAddLaneReqFromPendingList (c laneId : Nat) : LanePending Conn :=
  { s.setCall c { laneId, stage := .added } with pendingList := { owner := c, laneId } :: s.pendingList }

def transUpdateLaneConnInfoByLaneId (laneId : Nat) (answer : LaneAnswer Conn) : LanePending Conn :=
  { s with pendingList := FirstMatch.modify (·.laneId = laneId) (·.finish answer) s.pendingList }

def transDelLaneReqFromPendingList (laneId : Nat) : LanePending Conn :=
  match s.find laneId with
  | none => s
  | some item =>
    { s.setCall item.owner { s.calls item.owner with removed := (s.calls item.owner).removed + 1 } with
      pendingList := s.pendingList.eraseP (·.laneId = laneId) }

/-- Every way out without a result of the lane manager. -/
def failed : LaneStage Conn := .leaving ⟨SoftbusRet.err.toInt, none⟩ true

/-- `TransWaitingRequestCallback` up to the wait. -/
def transWaitingRequestCallback (laneId : Nat) : LaneStage Conn :=
  match s.find laneId with
  | none => failed
  | some item => if item.isFinished then .woken else .waiting

def transGetLaneReqItemByLaneId (laneId : Nat) : LaneStage Conn :=
  match s.find laneId with
  | none => failed
  | some item => .leaving item.result !item.isFinished

end LanePending

/-- A wait ends with `wake`, whether the condition was signalled or not. -/
inductive LaneWaitEvent (Conn : Type) where
  | call (c laneId : Nat)
  | request (c : Nat) (accepted : Bool)
  | answer (c : Nat) (answer : LaneAnswer Conn)
  | enter (c : Nat)
  | wake (c : Nat)
  | read (c : Nat)
  | delete (c : Nat)

namespace LanePending

/-- The lane manager hands out an id that is free, and 0 if it has none left; it answers a request that it has taken
once. -/
def step (s : LanePending Conn) : LaneWaitEvent Conn → LanePending Conn
  | .call c laneId =>
    match (s.calls c).stage with
    | .idle => if laneId = 0 ∨ (s.find laneId).isNone then s.transAddLaneReqFromPendingList c laneId else s
    | _ => s
  | .request c accepted =>
    match (s.calls c).stage with
    | .added =>
      s.setCall c { s.calls c with stage := if accepted then .requested else failed, accepted, asked := accepted }
    | _ => s
  | .answer c answer =>
    if (s.calls c).asked then
      let laneId := (s.calls c).laneId
      let s' := s.setCall c { s.calls c with asked := false }
      ({ s' with calls := fun d => (s'.calls d).note laneId answer } : LanePending Conn).transUpdateLaneConnInfoByLaneId
        laneId answer
    else s
  | .enter c =>
    match (s.calls c).stage with
    | .requested => s.setCall c { s.calls c with stage := s.transWaitingRequestCallback (s.calls c).laneId }
    | _ => s
  | .wake c =>
    match (s.calls c).stage with
    | .waiting => s.setCall c { s.calls c with stage := .woken }
    | _ => s
  | .read c =>
    match (s.calls c).stage with
    | .woken => s.setCall c { s.calls c with stage := s.transGetLaneReqItemByLaneId (s.calls c).laneId }
    | _ => s
  | .delete c =>
    match (s.calls c).stage with
    | .leaving result _ =>
      let s' := s.transDelLaneReqFromPendingList (s.calls c).laneId
      s'.setCall c { s'.calls c with stage := .returned result }
    | _ => s

/-- A call that has returned has removed its entry once and, if its request was taken, hands on what the lane manager
answered for its lane id while it ran. -/
def Sound (s : LanePending Conn) : Prop :=
  ∀ c result, (s.calls c).stage = .returned result → (s.calls c).removed = 1 ∧
    ((s.calls c).accepted → ∃ answer ∈ (s.calls c).answers, answer.Gives result)

/-- The call removes the entry of another one that has its lane id, or it has not found a finished entry and the lane
manager has not, in the meantime, failed with just the code that it returns. -/
def Breaks (s : LanePending Conn) : LaneWaitEvent Conn → Prop
  | .delete c => ∃ result early, (s.calls c).stage = .leaving result early ∧
      ((s.find (s.calls c).laneId).map (·.owner) ≠ some c ∨
        (s.calls c).accepted ∧ early ∧ LaneAnswer.fail SoftbusRet.err.toInt ∉ (s.calls c).answers)
  | _ => False

end LanePending

/-! ## Calls and entries -/

/-- What holds of a call by itself, until one of them breaks the rule. -/
def LaneCall.Ok (call : LaneCall Conn) : Prop :=
  match call.stage with
  | .leaving result early => call.removed = 0 ∧
      (call.accepted → if early then result.ret = SoftbusRet.err.toInt else ∃ answer ∈ call.answers, answer.Gives result)
  | .returned result => call.removed = 1 ∧ (call.accepted → ∃ answer ∈ call.answers, answer.Gives result)
  | _ => call.removed = 0

theorem LaneCall.Ok.removed {call : LaneCall Conn} (h : call.Ok) (hrun : call.stage.running) : call.removed = 0 := by
  rw [Ok] at h
  split at h
  · exact h.1
  case h_2 heq => rw [heq] at hrun; cases hrun
  · exact h

theorem LaneCall.Ok.note {call : LaneCall Conn} (h : call.Ok) (laneId : Nat) (answer : LaneAnswer Conn) :
    (call.note laneId answer).Ok := by
  have hsubset := call.answers_subset_note laneId answer
  rw [Ok] at h ⊢
  rw [note_stage, note_removed, note_accepted]
  split at h
  case h_1 result early _ =>
    refine ⟨h.1, fun haccepted => ?_⟩
    cases early with
    | true => exact h.2 haccepted
    | false =>
      obtain ⟨a, ha, hgives⟩ := h.2 haccepted
      exact ⟨a, hsubset ha, hgives⟩
  case h_2 =>
    refine ⟨h.1, fun haccepted => ?_⟩
    obtain ⟨a, ha, hgives⟩ := h.2 haccepted
    exact ⟨a, hsubset ha, hgives⟩
  case h_3 => exact h

namespace LanePending

/-- What a finished entry holds was answered while the call of the other entry ran. -/
def Held (calls : Nat → LaneCall Conn) (item item' : TransReqLaneItem Conn) : Prop :=
  item.isFinished → item'.laneId = item.laneId → ∃ answer ∈ (calls item'.owner).answers, answer.Gives item.result

/-- The entries are those of the calls that run. New ones come to the head of the list: where two calls share a lane id,
both find the entry of the later one. -/
structure Listed (pendingList : List (TransReqLaneItem Conn)) (calls : Nat → LaneCall Conn) : Prop where
  owners : (pendingList.map (·.owner)).Nodup
  calling : ∀ item ∈ pendingList, (calls item.owner).stage.running ∧ item.laneId = (calls item.owner).laneId
  entry : ∀ c, (calls c).stage.running → ∃ item ∈ pendingList, item.owner = c
  unfinished : ∀ item ∈ pendingList, item.isFinished = false → item.result.ret = SoftbusRet.err.toInt
  held : ∀ item ∈ pendingList, Held calls item item
  heldBehind : pendingList.Pairwise (Held calls)

structure Live (s : LanePending Conn) : Prop where
  ok : ∀ c, (s.calls c).Ok
  listed : Listed s.pendingList s.calls

theorem Live.sound {s : LanePending Conn} (h : Live s) : Sound s := by
  intro c result hstage
  have hok := h.ok c
  rwa [LaneCall.Ok, hstage] at hok

theorem Live.init : Live ({} : LanePending Conn) :=
  ⟨fun _ => rfl, List.nodup_nil, nofun, nofun, nofun, nofun, .nil⟩

section
variable {s : LanePending Conn} {c : Nat} {pendingList : List (TransReqLaneItem Conn)}
  {calls calls' : Nat → LaneCall Conn}

theorem Held.mono (hanswers : ∀ d, (calls d).answers ⊆ (calls' d).answers) {item item' : TransReqLaneItem Conn}
    (h : Held calls item item') : Held calls' item item' := fun hfinished hid =>
  let ⟨answer, hanswer, hgives⟩ := h hfinished hid
  ⟨answer, hanswers _ hanswer, hgives⟩

theorem Held.update {item item' : TransReqLaneItem Conn} (h : Held calls item item') (hne : item'.owner ≠ c)
    (call : LaneCall Conn) : Held (Function.update calls c call) item item' := by
  rw [Held, Function.update_of_ne hne]
  exact h

/-- The list only knows which calls run, their lane ids and their answers. -/
theorem Listed.mono (h : Listed pendingList calls) (hrun : ∀ d, (calls' d).stage.running = (calls d).stage.running)
    (hid : ∀ d, (calls' d).laneId = (calls d).laneId) (hanswers : ∀ d, (calls d).answers ⊆ (calls' d).answers) :
    Listed pendingList calls' where
  owners := h.owners
  calling item hitem := by rw [hrun, hid]; exact h.calling item hitem
  entry d hd := h.entry d (hrun d ▸ hd)
  unfinished := h.unfinished
  held item hitem := (h.held item hitem).mono hanswers
  heldBehind := h.heldBehind.imp (Held.mono hanswers)

/-! ## The steps -/

theorem Live.ok_update (h : Live s) {call : LaneCall Conn} (hok : call.Ok) :
    ∀ d, (Function.update s.calls c call d).Ok :=
  (Function.forall_update_iff s.calls fun _ call => call.Ok).mpr ⟨hok, fun d _ => h.ok d⟩

/-- A call goes on and leaves the list alone. -/
theorem Live.move (h : Live s) {call : LaneCall Conn} (hrun : call.stage.running = (s.calls c).stage.running)
    (hid : call.laneId = (s.calls c).laneId) (hanswers : call.answers = (s.calls c).answers) (hok : call.Ok) :
    Live (s.setCall c call) := by
  refine ⟨h.ok_update hok, h.listed.mono ?_ ?_ ?_⟩
  · exact (Function.forall_update_iff s.calls fun d call => call.stage.running = (s.calls d).stage.running).mpr
      ⟨hrun, fun _ _ => rfl⟩
  · exact (Function.forall_update_iff s.calls fun d call => call.laneId = (s.calls d).laneId).mpr
      ⟨hid, fun _ _ => rfl⟩
  · exact (Function.forall_update_iff s.calls fun d call => (s.calls d).answers ⊆ call.answers).mpr
      ⟨hanswers ▸ List.Subset.refl _, fun _ _ => List.Subset.refl _⟩

theorem Live.call (h : Live s) (hidle : (s.calls c).stage = .idle) (laneId : Nat) :
    Live (s.transAddLaneReqFromPendingList c laneId) := by
  have hnone : ∀ item ∈ s.pendingList, item.owner ≠ c := by
    intro item hitem heq
    have hrun := (h.listed.calling item hitem).1
    rw [heq, hidle] at hrun
    cases hrun
  refine ⟨h.ok_update rfl, ?_, ?_, ?_, ?_, ?_, ?_⟩
  · exact List.nodup_cons.mpr ⟨fun hmem => by
      obtain ⟨item, hitem, heq⟩ := List.mem_map.mp hmem
      exact hnone item hitem heq, h.listed.owners⟩
  · refine List.forall_mem_cons.mpr ⟨?_, fun item hitem => ?_⟩
    · simp [transAddLaneReqFromPendingList, setCall, LaneStage.running]
    · dsimp only [setCall, transAddLaneReqFromPendingList]
      rw [Function.update_of_ne (hnone item hitem)]
      exact h.listed.calling item hitem
  · refine (Function.forall_update_iff s.calls fun d call => call.stage.running → _).mpr
      ⟨fun _ => ?_, fun d _ hrun => ?_⟩
    · exact ⟨_, List.mem_cons_self, rfl⟩
    · obtain ⟨item, hitem, heq⟩ := h.listed.entry d hrun
      exact ⟨item, List.mem_cons_of_mem _ hitem, heq⟩
  · exact List.forall_mem_cons.mpr ⟨fun _ => rfl, h.listed.unfinished⟩
  · exact List.forall_mem_cons.mpr ⟨nofun, fun item hitem => (h.listed.held item hitem).update (hnone item hitem) _⟩
  · exact List.pairwise_cons.mpr
      ⟨fun _ _ => nofun, h.listed.heldBehind.imp_of_mem fun _ hitem' hheld => hheld.update (hnone _ hitem') _⟩

/-- The calls with the lane id have the answer already. -/
theorem Listed.finish (h : Listed pendingList calls) {laneId : Nat} {answer : LaneAnswer Conn}
    (hanswer : ∀ d, (calls d).stage.running → (calls d).laneId = laneId → answer ∈ (calls d).answers) :
    Listed (FirstMatch.modify (·.laneId = laneId) (·.finish answer) pendingList) calls := by
  have howners : (FirstMatch.modify (·.laneId = laneId) (·.finish answer) pendingList).map (·.owner) =
      pendingList.map (·.owner) := FirstMatch.map_modify _ fun item _ _ => item.finish_owner answer
  have hfinish : ∀ item ∈ pendingList, item.laneId = laneId → ∀ item' ∈ pendingList,
      Held calls (item.finish answer) item' := by
    intro item _ hid item' hitem' _ hsame
    obtain ⟨hrun, hid'⟩ := h.calling item' hitem'
    rw [TransReqLaneItem.finish_laneId] at hsame
    exact ⟨answer, hanswer _ hrun (by rw [← hid', hsame, hid]), item.gives_finish answer⟩
  have hbehind : ∀ item item' : TransReqLaneItem Conn, Held calls item item' →
      Held calls item (item'.finish answer) := by
    intro item item' hheld
    rw [Held, TransReqLaneItem.finish_owner, TransReqLaneItem.finish_laneId]
    exact hheld
  constructor
  case owners =>
    rw [howners]
    exact h.owners
  case calling =>
    intro item hitem
    rcases FirstMatch.mem_modify hitem with hold | ⟨item, hold, -, rfl⟩
    · exact h.calling item hold
    · rw [TransReqLaneItem.finish_owner, TransReqLaneItem.finish_laneId]
      exact h.calling item hold
  case entry =>
    intro d hrun
    obtain ⟨item, hitem, heq⟩ := h.entry d hrun
    rw [← List.mem_map, howners]
    exact List.mem_map.mpr ⟨item, hitem, heq⟩
  case unfinished =>
    intro item hitem hno
    rcases FirstMatch.mem_modify hitem with hold | ⟨item, -, -, rfl⟩
    · exact h.unfinished item hold hno
    · rw [TransReqLaneItem.finish_isFinished] at hno
      cases hno
  case held =>
    intro item hitem
    rcases FirstMatch.mem_modify hitem with hold | ⟨item, hold, hid, rfl⟩
    · exact h.held item hold
    · exact hbehind _ _ (hfinish item hold (by simpa using hid) item hold)
  case heldBehind =>
    exact FirstMatch.pairwise_modify (fun item item' hheld _ => hbehind item item' hheld)
      (fun item hitem hid => hfinish item hitem (by simpa using hid)) h.heldBehind

theorem Live.answer (h : Live s) (laneId : Nat) (answer : LaneAnswer Conn) :
    Live (transUpdateLaneConnInfoByLaneId { s with calls := fun d => (s.calls d).note laneId answer } laneId answer) := by
  rw [transUpdateLaneConnInfoByLaneId]
  refine ⟨fun d => (h.ok d).note laneId answer, Listed.finish (h.listed.mono ?_ ?_ ?_) ?_⟩
  · exact fun d => by rw [LaneCall.note_stage]
  · exact fun d => by rw [LaneCall.note_laneId]
  · exact fun d => (s.calls d).answers_subset_note laneId answer
  · intro d hrun hid
    rw [LaneCall.note_stage] at hrun
    rw [LaneCall.note_laneId] at hid
    rw [← hid]
    exact (s.calls d).mem_answers_note answer hrun

/-- The call has its own entry in the list, at or behind the one that it finds. -/
theorem Live.held_find (h : Live s) (hrun : (s.calls c).stage.running) {item : TransReqLaneItem Conn}
    (hfind : s.find (s.calls c).laneId = some item) (hfinished : item.isFinished) :
    ∃ answer ∈ (s.calls c).answers, answer.Gives item.result := by
  obtain ⟨own, hown, rfl⟩ := h.listed.entry c hrun
  have hid := (h.listed.calling own hown).2
  have hheld := FirstMatch.rel_of_find? h.listed.held h.listed.heldBehind hfind hown (by simpa using hid)
  have hfound : item.laneId = (s.calls own.owner).laneId := by simpa using List.find?_some hfind
  exact hheld hfinished (hid.trans hfound.symm)

theorem Live.read (h : Live s) (hstage : (s.calls c).stage = .woken) :
    Live (s.setCall c { s.calls c with stage := s.transGetLaneReqItemByLaneId (s.calls c).laneId }) := by
  have hrun : (s.calls c).stage.running := by rw [hstage]; rfl
  have hremoved := (h.ok c).removed hrun
  rw [transGetLaneReqItemByLaneId]
  split
  case h_1 => exact h.move hrun.symm rfl rfl ⟨hremoved, fun _ => rfl⟩
  case h_2 item hfind =>
    refine h.move hrun.symm rfl rfl ⟨hremoved, fun _ => ?_⟩
    cases hfinished : item.isFinished with
    | true => exact h.held_find hrun hfind hfinished
    | false => exact h.listed.unfinished item (List.mem_of_find?_eq_some hfind) hfinished

/-- The call removes its own entry and returns. -/
theorem Live.delete (h : Live s) {result : LaneResult Conn} {early : Bool}
    (hstage : (s.calls c).stage = .leaving result early)
    (hfirst : (s.find (s.calls c).laneId).map (·.owner) = some c)
    (hcode : (s.calls c).accepted → early → LaneAnswer.fail SoftbusRet.err.toInt ∈ (s.calls c).answers) :
    Live (s.step (.delete c)) := by
  obtain ⟨item, hfind, hitem⟩ := Option.map_eq_some_iff.mp hfirst
  have hperm := FirstMatch.eraseP_perm hfind
  obtain ⟨hgone, howners⟩ := List.nodup_cons.mp ((hperm.map (·.owner)).nodup_iff.mp h.listed.owners)
  have hstep : s.step (.delete c) =
      { pendingList := s.pendingList.eraseP (·.laneId = (s.calls c).laneId)
        calls := Function.update s.calls c
          { s.calls c with stage := .returned result, removed := (s.calls c).removed + 1 } } := by
    simp [step, hstage, transDelLaneReqFromPendingList, hfind, hitem, setCall]
  rw [hstep]
  have hother : ∀ item' ∈ s.pendingList.eraseP (·.laneId = (s.calls c).laneId), item'.owner ≠ c := by
    intro item' hitem' heq
    exact hgone (List.mem_map.mpr ⟨item', hitem', heq.trans hitem.symm⟩)
  refine ⟨h.ok_update ?_, howners, ?_, ?_, ?_, ?_, ?_⟩
  · have hok := h.ok c
    rw [LaneCall.Ok, hstage] at hok
    refine ⟨congrArg (· + 1) hok.1, fun haccepted => ?_⟩
    cases early with
    | true => exact ⟨_, hcode haccepted rfl, hok.2 haccepted⟩
    | false => exact hok.2 haccepted
  · intro item' hitem'
    dsimp only
    rw [Function.update_of_ne (hother item' hitem')]
    exact h.listed.calling item' (List.mem_of_mem_eraseP hitem')
  · refine (Function.forall_update_iff s.calls fun d call => call.stage.running → _).mpr ⟨nofun, fun d hd hrun => ?_⟩
    obtain ⟨item', hitem', heq⟩ := h.listed.entry d hrun
    rcases List.mem_cons.mp (hperm.mem_iff.mp hitem') with rfl | hitem'
    · exact absurd (heq.symm.trans hitem) hd
    · exact ⟨item', hitem', heq⟩
  · exact fun item' hitem' => h.listed.unfinished item' (List.mem_of_mem_eraseP hitem')
  · exact fun item' hitem' => (h.listed.held item' (List.mem_of_mem_eraseP hitem')).update (hother item' hitem') _
  · exact (h.listed.heldBehind.sublist List.eraseP_sublist).imp_of_mem
      fun _ hitem' hheld => hheld.update (hother _ hitem') _

theorem calls_delete {result : LaneResult Conn} {early : Bool} (hstage : (s.calls c).stage = .leaving result early) :
    (s.step (.delete c)).calls c =
      { s.calls c with
        stage := .returned result
        removed := (s.calls c).removed + if (s.find (s.calls c).laneId).map (·.owner) = some c then 1 else 0 } := by
  cases hfind : s.find (s.calls c).laneId with
  | none => simp [step, hstage, transDelLaneReqFromPendingList, hfind, setCall]
  | some item =>
    by_cases heq : item.owner = c
    · simp [step, hstage, transDelLaneReqFromPendingList, hfind, setCall, heq]
    · simp [step, hstage, transDelLaneReqFromPendingList, hfind, setCall, heq, Function.update_of_ne (Ne.symm heq)]

theorem Live.not_sound_delete (h : Live s) (hbreaks : Breaks s (.delete c)) : ¬ Sound (s.step (.delete c)) := by
  obtain ⟨result, early, hstage, hbreaks⟩ := hbreaks
  intro hsound
  have hreturned := hsound c result (by rw [calls_delete hstage])
  rw [calls_delete hstage] at hreturned
  have hok := h.ok c
  rw [LaneCall.Ok, hstage] at hok
  rcases hbreaks with hother | ⟨haccepted, rfl, hcode⟩
  · -- the entry of the call is still there
    rw [hok.1, if_neg hother] at hreturned
    cases hreturned.1
  · -- the code comes from the unfinished entry
    have hret : result.ret = SoftbusRet.err.toInt := hok.2 haccepted
    obtain ⟨answer, hanswer, hgives⟩ := hreturned.2 haccepted
    cases answer with
    | success connInfo => exact absurd (hret.symm.trans hgives.1) (by decide)
    | fail reason =>
      obtain rfl : reason = SoftbusRet.err.toInt := hgives.symm.trans hret
      exact hcode hanswer

theorem Live.step (h : Live s) {event : LaneWaitEvent Conn} (hok : ¬ Breaks s event) : Live (s.step event) := by
  cases event with
  | call c laneId =>
    rw [LanePending.step]
    split
    case h_1 hidle =>
      split
      · exact h.call hidle laneId
      · exact h
    case h_2 => exact h
  | request c accepted =>
    rw [LanePending.step]
    split
    case h_1 hstage =>
      have hrun : (s.calls c).stage.running := by rw [hstage]; rfl
      have hremoved := (h.ok c).removed hrun
      cases accepted with
      | true => exact h.move hrun.symm rfl rfl hremoved
      | false => exact h.move hrun.symm rfl rfl ⟨hremoved, nofun⟩
    case h_2 => exact h
  | answer c answer =>
    rw [LanePending.step]
    split
    · have hmove : Live (s.setCall c { s.calls c with asked := false }) := h.move rfl rfl rfl (h.ok c)
      exact hmove.answer (s.calls c).laneId answer
    · exact h
  | enter c =>
    rw [LanePending.step]
    split
    case h_1 hstage =>
      have hrun : (s.calls c).stage.running := by rw [hstage]; rfl
      have hremoved := (h.ok c).removed hrun
      rw [transWaitingRequestCallback]
      split
      · exact h.move hrun.symm rfl rfl ⟨hremoved, fun _ => rfl⟩
      · split
        · exact h.move hrun.symm rfl rfl hremoved
        · exact h.move hrun.symm rfl rfl hremoved
    case h_2 => exact h
  | wake c =>
    rw [LanePending.step]
    split
    case h_1 hstage =>
      have hrun : (s.calls c).stage.running := by rw [hstage]; rfl
      exact h.move hrun.symm rfl rfl ((h.ok c).removed hrun)
    case h_2 => exact h
  | read c =>
    rw [LanePending.step]
    split
    case h_1 hstage => exact h.read hstage
    case h_2 => exact h
  | delete c =>
    cases hstage : (s.calls c).stage with
    | leaving result early =>
      refine h.delete hstage ?_ fun haccepted hearly => ?_
      · by_contra hother
        exact hok ⟨result, early, hstage, .inl hother⟩
      · by_contra hcode
        exact hok ⟨result, early, hstage, .inr ⟨haccepted, hearly, hcode⟩⟩
    | _ => simpa only [LanePending.step, hstage] using h

end

/-- In every interleaving, each call returns what the lane manager answered for its lane id, after the answer, and has
removed its entry once, exactly if no call leaves with an unfinished entry, and none removes the entry of another call
that has its lane id. -/
theorem waiting_for_lane_iff (events : List (LaneWaitEvent Conn)) :
    Run.Always step (fun s event => Sound (s.step event)) ({} : LanePending Conn) events ↔
      Run.Always step (fun s event => ¬ Breaks s event) {} events := by
  have hiff : ∀ (s : LanePending Conn) event, Live s → (Sound (s.step event) ↔ ¬ Breaks s event) := by
    intro s event h
    refine ⟨fun hsound hbreaks => ?_, fun hok => (h.step hok).sound⟩
    cases event with
    | delete c => exact h.not_sound_delete hbreaks hsound
    | _ => exact hbreaks
  exact Run.always_iff_of_inv hiff (fun s event h hsound => h.step ((hiff s event h).mp hsound)) .init events

/-- The wait ends before the lane manager has answered. -/
theorem early_wakeup_returns_error :
    ¬ Run.Always step (fun s event => Sound (s.step event)) ({} : LanePending Unit)
      [.call 0 1, .request 0 true, .enter 0, .wake 0, .read 0, .delete 0, .answer 0 (.success ())] := by
  intro h
  obtain ⟨answer, hanswer, -⟩ := (h.2.2.2.2.2.1 0 ⟨SoftbusRet.err.toInt, none⟩ rfl).2 rfl
  cases hanswer

end LanePending

end SoftBus
