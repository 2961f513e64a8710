import Mathlib.Data.List.Dedup
import SoftBus.Lib.FirstMatch
import SoftBus.Lib.Run

/-!
# The ended transfers of a DFile server

A server session keeps the ids of transfers that ended, so that a late header does not start one of them again.
-/

namespace SoftBus

def maxTranStateListSize : Nat := 100

inductive TransIdState where
  | init
  | done
deriving DecidableEq, Repr

structure TransStateNode where
  transId : BitVec 16
  transIdState : TransIdState
deriving DecidableEq, Repr

structure DFileServer where
  tranIdStateList : List TransStateNode := []
  dFileTransChain : List (BitVec 16) := []
  -- the transfers that ended, the last one first
  ended : List (BitVec 16) := []
deriving DecidableEq, Repr

inductive DFileServerEvent where
  -- a frame: its sender is known, it is a header, and there is memory for a transfer
  | frame (known header created : Bool) (transId : BitVec 16)
  -- a terminal message of a transfer, and whether there is memory for a node
  | transDone (mem : Bool) (transId : BitVec 16)
deriving DecidableEq, Repr

namespace DFileServer

section
variable (s : DFileServer)

def getTransIdState (transId : BitVec 16) : Option TransStateNode :=
  s.tranIdStateList.find? fun node => node.transId = transId

def setTransIdState (mem : Bool) (transId : BitVec 16) (state : TransIdState) : DFileServer :=
  match s.getTransIdState transId with
  | some _ =>
    { s with
      tranIdStateList := FirstMatch.modify (fun node => node.transId = transId)
        (fun node => { node with transIdState := state }) s.tranIdStateList }
  | none =>
    if !mem then s
    -- `MutexListAddNode` refuses a full list
    else if s.tranIdStateList.length = maxTranStateListSize then s
    else if (added s).length = maxTranStateListSize then { s with tranIdStateList := (added s).tail }
    else { s with tranIdStateList := added s }
where
  added (s : DFileServer) : List TransStateNode := s.tranIdStateList ++ [⟨transId, state⟩]

def isTransIdDone (transId : BitVec 16) : Bool :=
  (s.getTransIdState transId).any fun node => node.transIdState = .done

/-- `DFileSessionHandleFrame`, up to the call of `HandleDFileFrame`. -/
def handleFrame (known header created : Bool) (transId : BitVec 16) : DFileServer :=
  if !known || transId = 0 then s
  else if transId ∈ s.dFileTransChain then s
  else if !header then s
  else if s.isTransIdDone transId then s
  else if !created then s
  else { s with dFileTransChain := s.dFileTransChain ++ [transId] }

/-- A failed `SetTransIdState` is only logged. -/
def checkTransDone (mem : Bool) (transId : BitVec 16) : DFileServer :=
  if transId ∈ s.dFileTransChain then
    { s.setTransIdState mem transId .done with
      dFileTransChain := s.dFileTransChain.erase transId
      ended := transId :: s.ended }
  else s

def step : DFileServerEvent → DFileServer
  | .frame known header created transId => s.handleFrame known header created transId
  | .transDone mem transId => s.checkTransDone mem transId

/-- There is memory for the node of a transfer that ends. -/
def Stored : DFileServerEvent → Prop
  | .frame _ _ _ _ => True
  | .transDone mem transId => transId ∈ s.dFileTransChain → mem = true

end

instance (s : DFileServer) : ∀ e, Decidable (s.Stored e)
  | .frame _ _ _ _ => .isTrue trivial
  | .transDone _ _ => inferInstanceAs (Decidable (_ → _))

/-! ## What the list holds -/

structure Remembers (s : DFileServer) : Prop where
  list : s.tranIdStateList = ((s.ended.take (maxTranStateListSize - 1)).map fun transId => ⟨transId, .done⟩).reverse
  distinct : (s.ended.take (maxTranStateListSize - 1)).Nodup
  chain : s.dFileTransChain.Nodup
  running : ∀ transId ∈ s.dFileTransChain, transId ∉ s.ended.take (maxTranStateListSize - 1)

section
variable {s : DFileServer}

theorem remembers_init : Remembers {} := by
  constructor <;> simp

theorem Remembers.mem_list (h : Remembers s) {node : TransStateNode} :
    node ∈ s.tranIdStateList ↔
      node.transId ∈ s.ended.take (maxTranStateListSize - 1) ∧ node.transIdState = .done := by
  rw [h.list, List.mem_reverse, List.mem_map]
  constructor
  · rintro ⟨transId, hmem, rfl⟩
    exact ⟨hmem, rfl⟩
  · intro hnode
    exact ⟨node.transId, hnode.1, by rw [← hnode.2]⟩

theorem Remembers.getTransIdState_eq_none (h : Remembers s) {transId : BitVec 16}
    (hnot : transId ∉ s.ended.take (maxTranStateListSize - 1)) : s.getTransIdState transId = none := by
  unfold getTransIdState
  rw [List.find?_eq_none]
  intro node hnode heq
  exact hnot (of_decide_eq_true heq ▸ (h.mem_list.mp hnode).1)

theorem Remembers.isTransIdDone_iff (h : Remembers s) (transId : BitVec 16) :
    s.isTransIdDone transId = true ↔ transId ∈ s.ended.take (maxTranStateListSize - 1) := by
  unfold isTransIdDone
  cases hfind : s.getTransIdState transId with
  | none =>
    unfold getTransIdState at hfind
    have hnot : transId ∉ s.ended.take (maxTranStateListSize - 1) := fun hmem =>
      List.find?_eq_none.mp hfind ⟨transId, .done⟩ (h.mem_list.mpr ⟨hmem, rfl⟩) (decide_eq_true rfl)
    simp [hnot]
  | some node =>
    unfold getTransIdState at hfind
    have hnode := h.mem_list.mp (List.mem_of_find?_eq_some hfind)
    have hid : node.transId = transId := by simpa using List.find?_some hfind
    rw [← hid]
    simp [hnode.1, hnode.2]

theorem Remembers.length_le (h : Remembers s) : s.tranIdStateList.length ≤ maxTranStateListSize - 1 := by
  rw [h.list, List.length_reverse, List.length_map, List.length_take]
  omega

theorem Remembers.setTransIdState (h : Remembers s) {transId : BitVec 16}
    (hnot : transId ∉ s.ended.take (maxTranStateListSize - 1)) :
    (s.setTransIdState true transId .done).tranIdStateList =
      (((transId :: s.ended).take (maxTranStateListSize - 1)).map fun transId => ⟨transId, .done⟩).reverse := by
  have hlen := h.length_le
  have hlist := h.list
  unfold DFileServer.setTransIdState setTransIdState.added
  rw [h.getTransIdState_eq_none hnot]
  simp only [maxTranStateListSize, Nat.add_one_sub_one, List.take_succ_cons, List.map_cons, List.reverse_cons,
    List.length_append, List.length_singleton] at hlen hlist ⊢
  rw [if_neg (by decide), if_neg (by omega)]
  by_cases hfull : s.ended.length ≤ 98
  · have htake : s.ended.take 99 = s.ended.take 98 := by
      rw [List.take_of_length_le hfull, List.take_of_length_le (by omega)]
    rw [hlist, htake, List.length_reverse, List.length_map, List.length_take, if_neg (by omega)]
  · have htake : s.ended.take 99 = s.ended.take 98 ++ [s.ended.get ⟨98, by omega⟩] := by
      rw [List.take_add_one, List.getElem?_eq_getElem (by omega)]
      rfl
    rw [hlist, htake]
    rw [List.length_reverse, List.length_map, List.length_append, List.length_take, List.length_singleton,
      if_pos (by omega), List.map_append, List.reverse_append]
    rfl

theorem remembers_handleFrame (h : Remembers s) (known header created : Bool) (transId : BitVec 16) :
    Remembers (s.handleFrame known header created transId) := by
  unfold handleFrame
  split
  · exact h
  split
  · exact h
  · rename_i hchain
    split
    · exact h
    split
    · exact h
    · rename_i hdone
      split
      · exact h
      · refine ⟨h.list, h.distinct, ?_, ?_⟩
        · refine List.nodup_append.mpr ⟨h.chain, List.nodup_singleton _, fun x hx y hy hxy => hchain ?_⟩
          rwa [← List.mem_singleton.mp hy, ← hxy]
        · intro x hx
          rcases List.mem_append.mp hx with hx | hx
          · exact h.running x hx
          · rw [List.mem_singleton.mp hx, ← h.isTransIdDone_iff]
            exact hdone

theorem remembers_checkTransDone (h : Remembers s) {mem : Bool} {transId : BitVec 16}
    (hstored : s.Stored (.transDone mem transId)) : Remembers (s.checkTransDone mem transId) := by
  unfold checkTransDone
  split
  · rename_i hmem
    obtain rfl := hstored hmem
    have hnot := h.running transId hmem
    have htake : (transId :: s.ended).take (maxTranStateListSize - 1) =
        transId :: s.ended.take (maxTranStateListSize - 2) := rfl
    have hsub : s.ended.take (maxTranStateListSize - 2) <+: s.ended.take (maxTranStateListSize - 1) :=
      List.take_prefix_take_left (by decide)
    refine ⟨h.setTransIdState hnot, ?_, h.chain.erase _, ?_⟩
    · rw [htake]
      exact List.nodup_cons.mpr ⟨fun hx => hnot (hsub.subset hx), h.distinct.sublist hsub.sublist⟩
    · intro x hx
      rw [htake, List.mem_cons, not_or]
      have hx' := (List.Nodup.mem_erase_iff h.chain).mp hx
      exact ⟨hx'.1, fun hended => h.running x hx'.2 (hsub.subset hended)⟩
  · exact h

theorem remembers_run {es : List DFileServerEvent} (hstored : Run.Always step Stored {} es) :
    Remembers (Run.final step {} es) := by
  refine Run.inv_final (fun s e h he => ?_) es remembers_init hstored
  cases e with
  | frame known header created transId => exact remembers_handleFrame h known header created transId
  | transDone mem transId => exact remembers_checkTransDone h he

theorem mem_take_of_dedup_takeWhile {l : List (BitVec 16)} {n : Nat} {x : BitVec 16} (hx : x ∈ l)
    (hnodup : (l.take n).Nodup) (hlt : (l.takeWhile (· ≠ x)).dedup.length < n) : x ∈ l.take n := by
  obtain ⟨after, before, rfl, hnot⟩ := List.eq_append_cons_of_mem hx
  have hwhile : (after ++ x :: before).takeWhile (· ≠ x) = after := by
    rw [List.takeWhile_append_of_pos]
    · simp
    · intro y hy
      exact decide_eq_true fun heq : y = x => hnot (heq ▸ hy)
  rw [hwhile] at hlt
  by_cases hle : n ≤ after.length
  · -- then the last `n` are different ids that came after it
    rw [List.take_append_of_le_length hle] at hnodup
    have hsub : after.take n ⊆ after.dedup := fun y hy => List.mem_dedup.mpr (List.mem_of_mem_take hy)
    have hcard := (List.subperm_of_subset hnodup hsub).length_le
    rw [List.length_take] at hcard
    omega
  · obtain ⟨k, hk⟩ : ∃ k, n - after.length = k + 1 := ⟨n - after.length - 1, by omega⟩
    rw [List.take_append, hk, List.take_succ_cons]
    exact List.mem_append_right _ List.mem_cons_self

end

/-- **Ended transfers.** After every sequence of frames and ends of transfers in which the end of each was stored, a
header of a transfer that ended starts none while fewer than 99 other transfers have ended since; one of a transfer that
is not among the last 100 starts it; the list has at most 99 entries, no id twice. -/
theorem ended_transfers_remembered (es : List DFileServerEvent) (hstored : Run.Always step Stored {} es) :
    let s := Run.final step {} es
    (∀ known created transId, transId ∈ s.ended →
      (s.ended.takeWhile (· ≠ transId)).dedup.length < maxTranStateListSize - 1 →
        (s.handleFrame known true created transId).dFileTransChain = s.dFileTransChain) ∧
    (∀ transId, transId ≠ 0 → transId ∉ s.ended.take maxTranStateListSize →
      transId ∈ (s.handleFrame true true true transId).dFileTransChain) ∧
    s.tranIdStateList.length ≤ maxTranStateListSize - 1 ∧ (s.tranIdStateList.map (·.transId)).Nodup := by
  intro s
  have h : Remembers s := remembers_run hstored
  refine ⟨fun known created transId hended hlt => ?_, fun transId hne hnot => ?_, h.length_le, ?_⟩
  · have hdone := (h.isTransIdDone_iff transId).mpr (mem_take_of_dedup_takeWhile hended h.distinct hlt)
    unfold handleFrame
    rw [if_pos hdone]
    repeat' split
    all_goals rfl
  · have hdone : ¬s.isTransIdDone transId = true := fun hdone => hnot
      ((List.take_prefix_take_left (by decide)).subset ((h.isTransIdDone_iff transId).mp hdone))
    unfold handleFrame
    rw [if_neg (by simpa using hne), if_neg hdone]
    split
    · assumption
    · simp
  · rw [h.list, List.map_reverse, List.map_map, List.nodup_reverse]
    exact (List.map_id _).symm ▸ h.distinct

/-- Two transfers; the header of the first one comes again after its end. -/
theorem ended_transfer_not_restarted :
    let es : List DFileServerEvent := [.frame true true true 7, .frame true true true 8, .transDone true 7]
    Run.Always step Stored {} es ∧ (Run.final step {} (es ++ [.frame true true true 7])).dFileTransChain = [8] := by
  intro es
  have hstored : Run.Always step Stored {} es := by decide
  exact ⟨hstored, (ended_transfers_remembered es hstored).1 true true 7 (by decide) (by decide)⟩

/-- The same without memory for the node of the first one. -/
theorem ended_transfer_restarted :
    let es : List DFileServerEvent := [.frame true true true 7, .frame true true true 8, .transDone false 7]
    7 ∈ (Run.final step {} es).ended ∧ (Run.final step {} (es ++ [.frame true true true 7])).dFileTransChain = [8, 7] := by
  decide

end DFileServer

end SoftBus
