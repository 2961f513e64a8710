import SoftBus.Lib.FirstMatch
import SoftBus.Looper

/-!
# What the looper keeps to

In every run the queue is sorted, a message is taken up when it is due and no other
comes before it, and every message is freed once and handled at most once before that.
A removal and the end of the looper have their effect only if the thread of the looper
has been running.
-/

namespace SoftBus

/-- The message that has been taken from the queue and not been handled. -/
def LoopThread.waiting : LoopThread → List Nat
  | taken msg => [msg.id]
  | _ => []

def LoopThread.active : LoopThread → List Nat
  | handling msg => [msg.id]
  | _ => []

namespace SoftBusLooper

/-! ## What a step can do -/

theorem step_cases (s : SoftBusLooper) (e : LooperEvent) :
    s.step e = s ∨ (e = .loopTask ∧ s.step e = s.loopTask) ∨
      (∃ now : BitVec 64, s.clock.toInt ≤ now.toInt ∧ s.step e = { s with clock := now }) ∨
      s.step e = { s with isThreadStarted := true } ∨ (s.destroyed = false ∧ s.step e = s.clientStep e) := by
  have hclient : ∀ e, (if s.destroyed then s else s.clientStep e) = s ∨
      (s.destroyed = false ∧ (if s.destroyed then s else s.clientStep e) = s.clientStep e) := by
    intro e
    cases hd : s.destroyed with
    | true => exact .inl rfl
    | false => exact .inr ⟨rfl, rfl⟩
  cases e with
  | loopTask => exact .inr (.inl ⟨rfl, rfl⟩)
  | advance now =>
    unfold step
    by_cases hle : s.clock.toInt ≤ now.toInt
    · exact .inr (.inr (.inl ⟨now, hle, if_pos hle⟩))
    · exact .inl (if_neg hle)
  | otherStarted => exact .inr (.inr (.inr (.inl rfl)))
  | _ => exact (hclient _).imp id fun h => .inr (.inr (.inr h))

theorem turn_cases (s : SoftBusLooper) :
    s.turn = s ∨ ((s.stop || s.isNeedDestroy) = true ∧ s.turn = { s with thread := .leaving }) ∨
      ((s.stop || s.isNeedDestroy) = false ∧ ∃ node rest, s.msgHead = node :: rest ∧ node.due ≤ s.clock.toInt ∧
        s.turn = { s with msgHead := rest, thread := .taken node.msg }) := by
  unfold turn
  cases hleave : s.stop || s.isNeedDestroy with
  | true => exact .inr (.inl ⟨rfl, rfl⟩)
  | false =>
    cases hq : s.msgHead with
    | nil => exact .inl rfl
    | cons node rest =>
      dsimp only
      by_cases hdue : node.due ≤ s.clock.toInt
      · exact .inr (.inr ⟨rfl, node, rest, rfl, hdue, if_pos hdue⟩)
      · exact .inl (if_neg hdue)

/-! ## Every message is in one place -/

/-- The messages that are neither in use nor freed. -/
def waiting (s : SoftBusLooper) : List Nat :=
  s.posting.map (·.id) ++ (s.msgHead.map (·.msg.id) ++ s.thread.waiting)

def Owned (s : SoftBusLooper) : Prop := Custody.Held s.posted s.waiting s.thread.active s.log

section
variable {s : SoftBusLooper}

theorem Owned.post (h : s.Owned) (a : PostArgs) : (s.post a).Owned := by
  have hissue := Custody.Held.issue h
  unfold SoftBusLooper.post
  by_cases hfail : (a.handler.isNone || !a.mem) = true
  · rw [if_pos hfail]
    exact hissue.free [s.posted] (.refl _)
  · rw [if_neg hfail]
    exact hissue

theorem Owned.insert (h : s.Owned) (id : Nat) : (s.insert id).Owned := by
  unfold SoftBusLooper.insert
  cases hfind : s.posting.find? (·.id = id) with
  | none => exact h
  | some msg =>
    have hposting := ((FirstMatch.eraseP_perm hfind).map (·.id)).append_right
      (s.msgHead.map (·.msg.id) ++ s.thread.waiting)
    dsimp only
    by_cases hstop : s.stop = true
    · rw [if_pos hstop]
      exact Custody.Held.free [msg.id] h hposting
    · rw [if_neg hstop]
      refine Custody.Held.perm h (.trans ?_ hposting.symm)
      have hins := (DueQueue.insert_perm SoftBusMessageNode.due ⟨msg, s.inserted⟩ s.msgHead).map
        (·.msg.id)
      exact ((hins.append_right s.thread.waiting).append_left _).trans List.perm_middle

theorem Owned.removeLocked (h : s.Owned) (i : Nat) : (s.removeLocked i).Owned := by
  unfold SoftBusLooper.removeLocked
  cases s.removing[i]? with
  | none => exact h
  | some r =>
    dsimp only
    by_cases hidle : (!s.running || s.stop) = true
    · rw [if_pos hidle]
      exact h
    · rw [if_neg hidle]
      refine Custody.Held.free _ h ?_
      have hsplit := (List.filter_append_perm (LoopRemoval.matches r) s.msgHead).symm.map (·.msg.id)
      rw [List.map_append] at hsplit
      refine (((hsplit.append_right s.thread.waiting).append_left _).trans ?_)
      rw [List.append_assoc]
      exact List.perm_append_comm_assoc ..

theorem Owned.destroyLooperWake (h : s.Owned) : s.destroyLooperWake.Owned := by
  unfold SoftBusLooper.destroyLooperWake
  by_cases hwait : (s.destroying = 0 || s.running) = true
  · rw [if_pos hwait]
    exact h
  · rw [if_neg hwait]
    exact Custody.Held.free _ h (List.perm_append_comm_assoc ..)

theorem Owned.loopTask (h : s.Owned) : s.loopTask.Owned := by
  unfold SoftBusLooper.loopTask
  unfold Owned waiting at h
  cases ht : s.thread with
  | notStarted =>
    rw [ht] at h
    unfold start
    by_cases hd : s.destroyed = true
    · rw [if_pos hd]
      exact h
    · rw [if_neg hd]
      exact h
  | top =>
    rw [ht] at h
    dsimp only
    rcases s.turn_cases with hturn | ⟨-, hturn⟩ | ⟨-, node, rest, hq, -, hturn⟩
    · rw [hturn]
      unfold Owned waiting
      rw [ht]
      exact h
    · rw [hturn]
      exact h
    · rw [hturn]
      rw [hq] at h
      refine Custody.Held.perm h (.append_left _ ((List.perm_append_singleton _ _).trans ?_))
      rw [LoopThread.waiting, List.append_nil]
      · exact .refl _
      · exact nofun
  | taken msg =>
    rw [ht] at h
    have hlast : (s.posting.map (·.id) ++ (s.msgHead.map (·.msg.id) ++ [msg.id])).Perm
        (msg.id :: (s.posting.map (·.id) ++ (s.msgHead.map (·.msg.id) ++ []))) := by
      rw [List.append_nil, ← List.append_assoc]
      exact List.perm_append_singleton _ _
    dsimp only
    unfold handle
    by_cases hcall : (msg.handler.any (·.handleMessage)) = true
    · rw [if_pos hcall]
      exact (Custody.Held.perm h hlast.symm).use
    · rw [if_neg hcall]
      exact Custody.Held.free [msg.id] h hlast
  | handling msg =>
    rw [ht] at h
    exact Custody.Held.finish h
  | leaving => rw [ht] at h; exact h
  | exited => unfold Owned waiting; rw [ht] at h ⊢; exact h
  | stray => rw [ht] at h; exact h
  | strayHandling => rw [ht] at h; exact h

theorem Owned.step (h : s.Owned) (e : LooperEvent) : (s.step e).Owned := by
  rcases s.step_cases e with hs | ⟨-, hs⟩ | ⟨now, -, hs⟩ | hs | ⟨-, hs⟩
  all_goals rw [hs]
  · exact h
  · exact h.loopTask
  · exact h
  · exact h
  · cases e with
    | post a => exact h.post a
    | insert id => exact h.insert id
    | removeLocked i => exact h.removeLocked i
    | destroyLooperWake => exact h.destroyLooperWake
    | looperDeinit =>
      unfold clientStep looperDeinit
      cases s.isThreadStarted <;> exact h
    | _ => exact h

theorem init_owned : init.Owned := Custody.Held.nil

end

/-! ## Due times -/

structure Ordered (s : SoftBusLooper) : Prop where
  sorted : DueQueue.Sorted SoftBusMessageNode.due SoftBusMessageNode.order s.msgHead
  numbered : ∀ node ∈ s.msgHead, node.order < s.inserted
  due : ∀ msg, s.thread = .taken msg ∨ s.thread = .handling msg → msg.time.toInt ≤ s.clock.toInt

section
variable {s : SoftBusLooper}

theorem Ordered.of_sublist {s' : SoftBusLooper} (h : s.Ordered) (hq : s'.msgHead.Sublist s.msgHead)
    (hins : s'.inserted = s.inserted)
    (hdue : ∀ msg, s'.thread = .taken msg ∨ s'.thread = .handling msg → msg.time.toInt ≤ s'.clock.toInt) :
    s'.Ordered :=
  ⟨h.sorted.sublist hq, fun node hnode => hins ▸ h.numbered node (hq.subset hnode), hdue⟩

theorem Ordered.insert (h : s.Ordered) (id : Nat) : (s.insert id).Ordered := by
  unfold SoftBusLooper.insert
  cases s.posting.find? (·.id = id) with
  | none => exact h
  | some msg =>
    dsimp only
    by_cases hstop : s.stop = true
    · rw [if_pos hstop]
      exact h.of_sublist (.refl _) rfl h.due
    · rw [if_neg hstop]
      refine ⟨h.sorted.insert h.numbered, fun node hnode => ?_, h.due⟩
      rcases List.mem_cons.mp ((DueQueue.insert_perm _ _ _).mem_iff.mp hnode) with rfl | hnode
      · exact Nat.lt_succ_self _
      · exact Nat.lt_succ_of_lt (h.numbered node hnode)

theorem Ordered.loopTask (h : s.Ordered) : s.loopTask.Ordered := by
  unfold SoftBusLooper.loopTask
  cases ht : s.thread with
  | notStarted =>
    unfold start
    cases s.destroyed <;> exact h.of_sublist (.refl _) rfl (by simp)
  | top =>
    dsimp only
    rcases s.turn_cases with hturn | ⟨-, hturn⟩ | ⟨-, node, rest, hq, hdue, hturn⟩
    · rw [hturn]
      exact h
    · rw [hturn]
      exact h.of_sublist (.refl _) rfl (by simp)
    · rw [hturn]
      refine h.of_sublist (hq ▸ List.sublist_cons_self _ _) rfl ?_
      rintro msg (hmsg | hmsg)
      · cases hmsg
        exact hdue
      · cases hmsg
  | taken msg =>
    have hdue := h.due msg (.inl ht)
    unfold handle
    dsimp only
    split
    · refine h.of_sublist (.refl _) rfl ?_
      rintro m (hm | hm)
      · cases hm
      · cases hm
        exact hdue
    · exact h.of_sublist (.refl _) rfl (by simp)
  | handling msg => exact h.of_sublist (.refl _) rfl (by simp [finish])
  | exited => exact h
  | _ => exact h.of_sublist (.refl _) rfl (by simp)

theorem Ordered.clientStep (h : s.Ordered) (e : LooperEvent) : (s.clientStep e).Ordered := by
  cases e with
  | post a =>
    change (s.post a).Ordered
    unfold SoftBusLooper.post
    dsimp only
    split <;> exact h.of_sublist (.refl _) rfl h.due
  | insert id => exact h.insert id
  | remove handler customFunc => exact h.of_sublist (.refl _) rfl h.due
  | removeLocked i =>
    change (s.removeLocked i).Ordered
    unfold SoftBusLooper.removeLocked
    split
    · exact h
    · dsimp only
      split
      · exact h.of_sublist (.refl _) rfl h.due
      · exact h.of_sublist List.filter_sublist rfl h.due
  | destroyLooperWake =>
    change s.destroyLooperWake.Ordered
    unfold SoftBusLooper.destroyLooperWake
    split
    · exact h
    · exact h.of_sublist (List.nil_sublist _) rfl h.due
  | looperDeinit =>
    change s.looperDeinit.Ordered
    unfold looperDeinit
    split <;> exact h.of_sublist (.refl _) rfl h.due
  | destroyLooper => exact h.of_sublist (.refl _) rfl h.due
  | _ => exact h

theorem Ordered.step (h : s.Ordered) (e : LooperEvent) : (s.step e).Ordered := by
  rcases s.step_cases e with hs | ⟨-, hs⟩ | ⟨now, hle, hs⟩ | hs | ⟨-, hs⟩
  all_goals rw [hs]
  · exact h
  · exact h.loopTask
  · exact h.of_sublist (.refl _) rfl fun msg hmsg => Int.le_trans (h.due msg hmsg) hle
  · exact h.of_sublist (.refl _) rfl h.due
  · exact h.clientStep e

theorem init_ordered : init.Ordered := ⟨List.Pairwise.nil, by simp [init], by simp [init]⟩

end

/-- In every state of every run the queue is sorted by due time, in the order of posting
where the times are equal. The message that the thread takes is due and before all others,
and its handler runs not before the due time. Every message that was posted waits and has
not been touched, or is handled for the first time, or has been freed once, after at most
one call of its handler. -/
theorem looper_order_and_ownership (l : List LooperEvent) :
    let s := Run.final step init l
    DueQueue.Sorted SoftBusMessageNode.due SoftBusMessageNode.order s.msgHead ∧
      (∀ msg, s.thread = .top → (s.step .loopTask).thread = .taken msg →
        ∃ node ∈ s.msgHead, node.msg = msg ∧ node.due ≤ s.clock.toInt ∧
          ∀ other ∈ s.msgHead, other = node ∨
            DueQueue.Before SoftBusMessageNode.due SoftBusMessageNode.order node other) ∧
      (∀ msg, s.thread = .taken msg ∨ s.thread = .handling msg → msg.time.toInt ≤ s.clock.toInt) ∧
      (s.waiting ++ s.thread.active).Nodup ∧
      ∀ id < s.posted, id ∈ s.waiting ∧ Custody.fate s.log id = [] ∨
        id ∈ s.thread.active ∧ Custody.fate s.log id = [.used id] ∨
        id ∉ s.waiting ++ s.thread.active ∧ Custody.Settled s.log id := by
  intro s
  have hord : s.Ordered := Run.inv_final_of_step (fun _ e h => h.step e) l init_ordered
  have hown : s.Owned := Run.inv_final_of_step (fun _ e h => h.step e) l init_owned
  refine ⟨hord.sorted, fun msg htop htaken => ?_, hord.due, hown.nodup, fun id hid => ?_⟩
  · have hstep : s.step .loopTask = s.turn := by simp only [step, loopTask, htop]
    rw [hstep] at htaken
    rcases s.turn_cases with hturn | ⟨-, hturn⟩ | ⟨-, node, rest, hq, hdue, hturn⟩
    · rw [hturn, htop] at htaken
      cases htaken
    · rw [hturn] at htaken
      cases htaken
    · rw [hturn] at htaken
      cases htaken
      have hsorted := hord.sorted
      rw [hq] at hsorted ⊢
      refine ⟨node, .head _, rfl, hdue, fun other hother => ?_⟩
      rcases List.mem_cons.mp hother with rfl | hother
      · exact .inl rfl
      · exact .inr ((List.pairwise_cons.mp hsorted).1 other hother)
  · by_cases hwait : id ∈ s.waiting
    · exact .inl ⟨hwait, hown.idle id hwait⟩
    by_cases hact : id ∈ s.thread.active
    · exact .inr (.inl ⟨hact, hown.busy id hact⟩)
    · have hnot : id ∉ s.waiting ++ s.thread.active := by simp [hwait, hact]
      exact .inr (.inr ⟨hnot, hown.gone id hid hnot⟩)

/-! ## Removal and shutdown -/

def closed (s : SoftBusLooper) : Bool :=
  s.stop || s.isNeedDestroy || s.thread = .leaving || s.thread = .exited

/-- A removal gets the lock when the thread runs, or has nothing to do: no message it is meant
for is in the queue, or the thread takes none. The thread does not take a message
while a removal that is meant for it waits for the lock. The looper is freed after its thread
has run. -/
def Timely (s : SoftBusLooper) : LooperEvent → Prop
  | .removeLocked i => ∀ r ∈ s.removing[i]?, s.running = true ∨ s.closed = true ∨
      ∀ node ∈ s.msgHead, node.msg.id ∉ r.meant
  | .loopTask => s.thread = .top → ∀ node ∈ s.msgHead.head?, ∀ r ∈ s.removing, node.msg.id ∉ r.meant
  | .destroyLooperWake => s.destroying ≠ 0 → s.running = false → s.thread ≠ .notStarted
  | _ => True

def handlerRuns : LoopThread → Bool
  | .handling _ | .strayHandling => true
  | _ => false

/-- A handler that a step starts is not for a message whose removal has returned, and none runs
once the looper is destroyed. -/
structure Effective (s : SoftBusLooper) (e : LooperEvent) : Prop where
  removed : ∀ msg, (s.step e).thread = .handling msg → s.thread = .handling msg ∨ msg.id ∉ s.removed
  destroyed : (s.step e).destroyed = true → handlerRuns (s.step e).thread = false

def meant (s : SoftBusLooper) : List Nat := s.removed ++ s.removing.flatMap (·.meant)

structure Kept (s : SoftBusLooper) : Prop where
  owned : s.Owned
  flag : s.running = true ↔ s.thread ≠ .notStarted ∧ s.thread ≠ .exited
  sane : s.thread ≠ .stray ∧ s.thread ≠ .strayHandling
  old : ∀ id ∈ s.meant, id < s.posted ∧ id ∉ s.posting.map (·.id) ∧ id ∉ s.thread.waiting
  fit : ∀ r ∈ s.removing, ∀ node ∈ s.msgHead, node.msg.id ∈ r.meant → LoopRemoval.matches r node = true
  gone : s.closed = true ∨ ∀ node ∈ s.msgHead, node.msg.id ∉ s.removed
  last : s.destroyed = true → s.thread = .exited

theorem init_kept : init.Kept :=
  ⟨init_owned, by simp [init], by simp [init], by simp [init, meant], by simp [init], by simp [init], by simp [init]⟩

section
variable {s s' : SoftBusLooper}

theorem mem_meant {id : Nat} : id ∈ s.meant ↔ id ∈ s.removed ∨ ∃ r ∈ s.removing, id ∈ r.meant := by
  rw [meant, List.mem_append, List.mem_flatMap]

theorem Owned.of_queue (h : s.Owned) {node : SoftBusMessageNode} (hnode : node ∈ s.msgHead) :
    node.msg.id < s.posted ∧ node.msg.id ∉ s.posting.map (·.id) ∧ node.msg.id ∉ s.thread.waiting := by
  have hmem : node.msg.id ∈ s.msgHead.map (·.msg.id) := List.mem_map_of_mem hnode
  have hnodup : s.waiting.Nodup := (List.nodup_append'.mp h.nodup).1
  obtain ⟨-, hrest, hposting⟩ := List.nodup_append'.mp hnodup
  refine ⟨h.known _ ?_, fun hp => hposting hp (List.mem_append_left _ hmem), fun ht => ?_⟩
  · exact List.mem_append_left _ (List.mem_append_right _ (List.mem_append_left _ hmem))
  · exact (List.nodup_append'.mp hrest).2.2 hmem ht

theorem Owned.node_eq (h : s.Owned) {node node' : SoftBusMessageNode} (hnode : node ∈ s.msgHead)
    (hnode' : node' ∈ s.msgHead) (heq : node.msg.id = node'.msg.id) : node = node' := by
  have hnodup : s.waiting.Nodup := (List.nodup_append'.mp h.nodup).1
  have hqueue := (List.nodup_append'.mp (List.nodup_append'.mp hnodup).2.1).1
  exact List.inj_on_of_nodup_map hqueue hnode hnode' heq

theorem Kept.of_client (h : s.Kept) (howned : s'.Owned) (hrun : s'.running = s.running)
    (hthread : s'.thread = s.thread) (hdest : s'.destroyed = s.destroyed) (hposted : s.posted ≤ s'.posted)
    (hposting : ∀ id ∈ s'.posting.map (·.id), id ∈ s.posting.map (·.id) ∨ s.posted ≤ id)
    (hmeant : ∀ id ∈ s'.meant, id ∈ s.meant ∨ id ∈ s.msgHead.map (·.msg.id))
    (hfit : ∀ r ∈ s'.removing, ∀ node ∈ s'.msgHead, node.msg.id ∈ r.meant → LoopRemoval.matches r node = true)
    (hgone : s'.closed = true ∨ ∀ node ∈ s'.msgHead, node.msg.id ∉ s'.removed) : s'.Kept := by
  refine ⟨howned, ?_, ?_, fun id hid => ?_, hfit, hgone, ?_⟩
  · rw [hrun, hthread]
    exact h.flag
  · rw [hthread]
    exact h.sane
  · have hold : id < s.posted ∧ id ∉ s.posting.map (·.id) ∧ id ∉ s.thread.waiting := by
      rcases hmeant id hid with hid | hid
      · exact h.old id hid
      · obtain ⟨node, hnode, rfl⟩ := List.mem_map.mp hid
        exact h.owned.of_queue hnode
    refine ⟨Nat.lt_of_lt_of_le hold.1 hposted, fun hp => ?_, hthread ▸ hold.2.2⟩
    exact (hposting id hp).elim hold.2.1 (Nat.not_le_of_lt hold.1)
  · rw [hdest, hthread]
    exact h.last

theorem Kept.post (h : s.Kept) (a : PostArgs) : (s.post a).Kept := by
  have howned := h.owned.post a
  unfold SoftBusLooper.post at howned ⊢
  dsimp only at howned ⊢
  split at howned
  · rw [if_pos ‹_›]
    exact h.of_client howned rfl rfl rfl (Nat.le_succ _) (fun _ => .inl) (fun _ => .inl) h.fit h.gone
  · rw [if_neg ‹_›]
    refine h.of_client howned rfl rfl rfl (Nat.le_succ _) (fun id hid => ?_) (fun _ => .inl) h.fit h.gone
    rw [List.map_cons] at hid
    rcases List.mem_cons.mp hid with rfl | hid
    · exact .inr (Nat.le_refl _)
    · exact .inl hid

theorem Kept.insert (h : s.Kept) (id : Nat) : (s.insert id).Kept := by
  have howned := h.owned.insert id
  unfold SoftBusLooper.insert at howned ⊢
  cases hfind : s.posting.find? (·.id = id) with
  | none => exact h
  | some msg =>
    rw [hfind] at howned
    dsimp only at howned ⊢
    have hposting : ∀ x ∈ (s.posting.eraseP (·.id = id)).map (·.id), x ∈ s.posting.map (·.id) ∨ s.posted ≤ x :=
      fun x hx => .inl ((List.eraseP_sublist.map _).subset hx)
    by_cases hstop : s.stop = true
    · rw [if_pos hstop] at howned ⊢
      exact h.of_client howned rfl rfl rfl (Nat.le_refl _) hposting (fun _ => .inl) h.fit h.gone
    · rw [if_neg hstop] at howned ⊢
      have hmsg : msg.id ∈ s.posting.map (·.id) := List.mem_map_of_mem (List.mem_of_find?_eq_some hfind)
      have hnew : msg.id ∉ s.meant := fun hm => (h.old _ hm).2.1 hmsg
      refine h.of_client howned rfl rfl rfl (Nat.le_refl _) hposting (fun _ => .inl) ?_ ?_
      · intro r hr node hnode hid
        rcases List.mem_cons.mp ((DueQueue.insert_perm _ _ _).mem_iff.mp hnode) with rfl | hnode
        · exact absurd (mem_meant.mpr (.inr ⟨r, hr, hid⟩)) hnew
        · exact h.fit r hr node hnode hid
      · refine h.gone.imp_right fun hgone node hnode => ?_
        rcases List.mem_cons.mp ((DueQueue.insert_perm _ _ _).mem_iff.mp hnode) with rfl | hnode
        · exact fun hid => hnew (mem_meant.mpr (.inl hid))
        · exact hgone node hnode

theorem Kept.remove (h : s.Kept) (handler : SoftBusHandler) (customFunc : SoftBusMessage → Bool) :
    (s.remove handler customFunc).Kept := by
  refine h.of_client h.owned rfl rfl rfl (Nat.le_refl _) (fun _ => .inl) ?_ ?_ h.gone
  · intro id hid
    rcases mem_meant.mp hid with hid | ⟨r, hr, hid⟩
    · exact .inl (mem_meant.mpr (.inl hid))
    rcases List.mem_append.mp hr with hr | hr
    · exact .inl (mem_meant.mpr (.inr ⟨r, hr, hid⟩))
    · cases List.mem_singleton.mp hr
      exact .inr ((List.filter_sublist.map _).subset hid)
  · intro r hr node hnode hid
    rcases List.mem_append.mp hr with hr | hr
    · exact h.fit r hr node hnode hid
    · cases List.mem_singleton.mp hr
      obtain ⟨node', hnode', heq⟩ := List.mem_map.mp hid
      obtain ⟨hmem, hmatch⟩ := List.mem_filter.mp hnode'
      rw [h.owned.node_eq hnode hmem heq.symm]
      exact hmatch

theorem Kept.removeLocked (h : s.Kept) (i : Nat) (ht : s.Timely (.removeLocked i)) : (s.removeLocked i).Kept := by
  have howned := h.owned.removeLocked i
  unfold SoftBusLooper.removeLocked at howned ⊢
  cases hr : s.removing[i]? with
  | none => exact h
  | some r =>
    rw [hr] at howned
    dsimp only at howned ⊢
    have hmem : r ∈ s.removing := List.mem_of_getElem? hr
    have hsub : ∀ r' ∈ s.removing.eraseIdx i, r' ∈ s.removing := fun r' => List.mem_of_mem_eraseIdx
    have hmeant : ∀ id, id ∈ s.removed ++ r.meant ∨ (∃ r' ∈ s.removing.eraseIdx i, id ∈ r'.meant) → id ∈ s.meant := by
      rintro id (hid | ⟨r', hr', hid⟩)
      · rcases List.mem_append.mp hid with hid | hid
        · exact mem_meant.mpr (.inl hid)
        · exact mem_meant.mpr (.inr ⟨r, hmem, hid⟩)
      · exact mem_meant.mpr (.inr ⟨r', hsub r' hr', hid⟩)
    have hfit : ∀ r' ∈ s.removing.eraseIdx i, ∀ node ∈ s.msgHead, node.msg.id ∈ r'.meant →
        LoopRemoval.matches r' node = true := fun r' hr' => h.fit r' (hsub r' hr')
    by_cases hidle : (!s.running || s.stop) = true
    · rw [if_pos hidle] at howned ⊢
      refine h.of_client howned rfl rfl rfl (Nat.le_refl _) (fun _ => .inl)
        (fun id hid => .inl (hmeant id (mem_meant.mp hid))) hfit ?_
      -- nothing is taken out: the thread takes none of them
      by_cases hclosed : s.closed = true
      · exact .inl hclosed
      have hstop : s.stop = false := by
        simp only [closed, Bool.or_eq_true, not_or, Bool.not_eq_true] at hclosed
        exact hclosed.1.1.1
      have hrun : s.running ≠ true := by
        intro hrun
        rw [hrun, hstop] at hidle
        cases hidle
      refine .inr fun node hnode hid => ?_
      rcases List.mem_append.mp hid with hid | hid
      · exact (h.gone.resolve_left hclosed) node hnode hid
      · exact (((ht r hr).resolve_left hrun).resolve_left hclosed) node hnode hid
    · rw [if_neg hidle] at howned ⊢
      refine h.of_client howned rfl rfl rfl (Nat.le_refl _) (fun _ => .inl)
        (fun id hid => .inl (hmeant id (mem_meant.mp hid))) ?_ ?_
      · intro r' hr' node hnode
        exact hfit r' hr' node (List.mem_of_mem_filter hnode)
      · refine h.gone.imp_right fun hgone node hnode hid => ?_
        obtain ⟨hnode, hmatch⟩ := List.mem_filter.mp hnode
        rcases List.mem_append.mp hid with hid | hid
        · exact hgone node hnode hid
        · rw [h.fit r hmem node hnode hid] at hmatch
          cases hmatch

theorem Kept.destroyLooperWake (h : s.Kept) (ht : s.Timely .destroyLooperWake) : s.destroyLooperWake.Kept := by
  have howned := h.owned.destroyLooperWake
  unfold SoftBusLooper.destroyLooperWake at howned ⊢
  by_cases hwait : (s.destroying = 0 || s.running) = true
  · rw [if_pos hwait]
    exact h
  · rw [if_neg hwait] at howned ⊢
    simp only [Bool.or_eq_true, decide_eq_true_eq, not_or, Bool.not_eq_true] at hwait
    have hstarted := ht hwait.1 hwait.2
    have hexited : s.thread = .exited := by
      by_contra hne
      rw [h.flag.mpr ⟨hstarted, hne⟩] at hwait
      cases hwait.2
    exact ⟨howned, h.flag, h.sane, h.old, fun _ _ _ hnode => absurd hnode List.not_mem_nil,
      .inr fun _ hnode => absurd hnode List.not_mem_nil, fun _ => hexited⟩

theorem Kept.clientStep (h : s.Kept) (e : LooperEvent) (ht : s.Timely e) : (s.clientStep e).Kept := by
  have hstop : s.destroyLooper.Kept :=
    h.of_client h.owned rfl rfl rfl (Nat.le_refl _) (fun _ => .inl) (fun _ => .inl) h.fit (.inl rfl)
  cases e with
  | post a => exact h.post a
  | insert id => exact h.insert id
  | remove handler customFunc => exact h.remove handler customFunc
  | removeLocked i => exact h.removeLocked i ht
  | destroyLooper => exact hstop
  | destroyLooperWake => exact h.destroyLooperWake ht
  | looperDeinit =>
    change s.looperDeinit.Kept
    unfold looperDeinit
    cases s.isThreadStarted with
    | true => exact hstop
    | false =>
      exact h.of_client h.owned rfl rfl rfl (Nat.le_refl _) (fun _ => .inl) (fun _ => .inl) h.fit
        (.inl (by simp [closed]))
  | _ => exact h

theorem Kept.of_thread (h : s.Kept) {t : LoopThread} {b c : Bool} {log : List Custody.Mark}
    (howned : Owned { s with thread := t, running := b, isThreadStarted := c, log := log })
    (hflag : b = true ↔ t ≠ .notStarted ∧ t ≠ .exited) (hsane : t ≠ .stray ∧ t ≠ .strayHandling)
    (hwait : t.waiting = []) (hclosed : s.closed = true → s.stop = true ∨ s.isNeedDestroy = true ∨ t = .exited)
    (hlive : s.destroyed = false) :
    Kept { s with thread := t, running := b, isThreadStarted := c, log := log } := by
  refine ⟨howned, hflag, hsane, fun id hid => ?_, h.fit, h.gone.imp (fun hc => ?_) id, fun hd => ?_⟩
  · have hold := h.old id hid
    exact ⟨hold.1, hold.2.1, by rw [hwait]; exact List.not_mem_nil⟩
  · rcases hclosed hc with h | h | h <;> simp [closed, h]
  · rw [hlive] at hd
    cases hd

theorem Kept.turn (h : s.Kept) (htop : s.thread = .top) (ht : s.Timely .loopTask) : s.turn.Kept := by
  have howned := h.owned.loopTask
  have hrun : s.running = true := h.flag.mpr (by rw [htop]; exact ⟨nofun, nofun⟩)
  have hlive : s.destroyed ≠ true := fun hd => by cases htop.symm.trans (h.last hd)
  rw [SoftBusLooper.loopTask, htop] at howned
  dsimp only at howned
  rcases s.turn_cases with hturn | ⟨hleave, hturn⟩ | ⟨hstay, node, rest, hq, -, hturn⟩
  · rw [hturn]
    exact h
  · rw [hturn] at howned ⊢
    refine h.of_thread (t := .leaving) (b := s.running) howned (by simp [hrun]) (by simp) rfl ?_ (by simpa using hlive)
    intro _
    rcases Bool.or_eq_true_iff.mp hleave with h | h
    · exact .inl h
    · exact .inr (.inl h)
  · have hopen : s.closed ≠ true := by simp [closed, hstay, htop]
    have hgone := h.gone.resolve_left hopen
    have hsub : ∀ other ∈ rest, other ∈ s.msgHead := fun other hother => hq ▸ .tail _ hother
    rw [hturn] at howned ⊢
    refine ⟨howned, ?_, ?_, fun id hid => ?_, fun r hr other hother => h.fit r hr other (hsub other hother), .inr ?_, ?_⟩
    · simp [hrun]
    · simp
    · have hold := h.old id hid
      refine ⟨hold.1, hold.2.1, fun hmem => ?_⟩
      cases List.mem_singleton.mp hmem
      -- neither a removal that has returned nor one that waits is meant for the message
      rcases mem_meant.mp hid with hid | ⟨r, hr, hid⟩
      · exact hgone node (hq ▸ .head _) hid
      · exact ht htop node (by rw [hq]; rfl) r hr hid
    · exact fun other hother => hgone other (hsub other hother)
    · exact fun hd => absurd hd hlive

theorem Kept.loopTask (h : s.Kept) (ht : s.Timely .loopTask) : s.loopTask.Kept := by
  have howned := h.owned.loopTask
  have hlive : s.thread ≠ .exited → s.destroyed = false := by
    intro hne
    cases hd : s.destroyed with
    | false => rfl
    | true => exact absurd (h.last hd) hne
  have hrun := h.flag
  unfold SoftBusLooper.loopTask at howned ⊢
  cases hthread : s.thread with
  | notStarted =>
    rw [hthread] at howned hlive
    have hlive := hlive nofun
    dsimp only [start] at howned ⊢
    rw [if_neg (by simp [hlive])] at howned ⊢
    refine h.of_thread (t := .top) howned (by simp) (by simp) rfl (fun hc => ?_) hlive
    simpa [closed, hthread] using hc
  | top => exact h.turn hthread ht
  | taken msg =>
    rw [hthread] at howned hlive hrun
    have hclosed : s.closed = true → s.stop = true ∨ s.isNeedDestroy = true := by simp [closed, hthread]
    dsimp only [handle] at howned ⊢
    split at howned
    · rw [if_pos ‹_›]
      exact h.of_thread (t := .handling msg) howned (by simpa using hrun) (by simp) rfl
        (fun hc => (hclosed hc).imp_right .inl) (hlive nofun)
    · rw [if_neg ‹_›]
      exact h.of_thread (t := .top) howned (by simpa using hrun) (by simp) rfl
        (fun hc => (hclosed hc).imp_right .inl) (hlive nofun)
  | handling msg =>
    rw [hthread] at howned hlive hrun
    refine h.of_thread (t := .top) howned (by simpa using hrun) (by simp) rfl (fun hc => ?_) (hlive nofun)
    simpa [closed, hthread] using hc
  | leaving =>
    rw [hthread] at howned hlive
    exact h.of_thread (t := .exited) howned (by simp) (by simp) rfl (fun _ => .inr (.inr rfl)) (hlive nofun)
  | exited => exact h
  | stray => exact absurd hthread h.sane.1
  | strayHandling => exact absurd hthread h.sane.2

theorem Kept.step (h : s.Kept) (e : LooperEvent) (ht : s.Timely e) : (s.step e).Kept := by
  rcases s.step_cases e with hs | ⟨rfl, hs⟩ | ⟨now, -, hs⟩ | hs | ⟨-, hs⟩
  all_goals rw [hs]
  · exact h
  · exact h.loopTask ht
  · exact h.of_client h.owned rfl rfl rfl (Nat.le_refl _) (fun _ => .inl) (fun _ => .inl) h.fit h.gone
  · exact h.of_client h.owned rfl rfl rfl (Nat.le_refl _) (fun _ => .inl) (fun _ => .inl) h.fit h.gone
  · exact h.clientStep e ht

theorem clientStep_thread (s : SoftBusLooper) (e : LooperEvent) : (s.clientStep e).thread = s.thread := by
  cases e with
  | post a =>
    simp only [SoftBusLooper.clientStep, SoftBusLooper.post]
    split <;> rfl
  | insert id =>
    simp only [SoftBusLooper.clientStep, SoftBusLooper.insert]
    split
    · rfl
    · split <;> rfl
  | removeLocked i =>
    simp only [SoftBusLooper.clientStep, SoftBusLooper.removeLocked]
    split
    · rfl
    · split <;> rfl
  | destroyLooperWake =>
    simp only [SoftBusLooper.clientStep, SoftBusLooper.destroyLooperWake]
    split <;> rfl
  | looperDeinit =>
    simp only [SoftBusLooper.clientStep, looperDeinit]
    split <;> rfl
  | _ => rfl

theorem starts_taken {e : LooperEvent} {msg : SoftBusMessage} (h : (s.step e).thread = .handling msg) :
    s.thread = .handling msg ∨ s.thread = .taken msg := by
  rcases s.step_cases e with hs | ⟨-, hs⟩ | ⟨now, -, hs⟩ | hs | ⟨-, hs⟩
  all_goals rw [hs] at h
  · exact .inl h
  · unfold SoftBusLooper.loopTask at h
    cases ht : s.thread with
    | notStarted =>
      simp only [ht, start] at h
      split at h <;> cases h
    | top =>
      simp only [ht] at h
      rcases s.turn_cases with hturn | ⟨-, hturn⟩ | ⟨-, node, rest, -, -, hturn⟩
      · rw [hturn, ht] at h
        cases h
      · rw [hturn] at h
        cases h
      · rw [hturn] at h
        cases h
    | taken m =>
      simp only [ht, handle] at h
      split at h
      · cases h
        exact .inr rfl
      · cases h
    | handling m => simp only [ht, finish, reduceCtorEq] at h
    | exited =>
      simp only [ht] at h
      cases h
    | _ => simp only [ht, reduceCtorEq] at h
  · exact .inl h
  · exact .inl h
  · rw [clientStep_thread] at h
    exact .inl h

theorem Kept.effective (h : s.Kept) (e : LooperEvent) (ht : s.Timely e) : s.Effective e := by
  have h' := h.step e ht
  refine ⟨fun msg hmsg => ?_, fun hd => ?_⟩
  · refine (starts_taken hmsg).imp_right fun htaken hid => ?_
    refine (h.old msg.id (mem_meant.mpr (.inl hid))).2.2 ?_
    rw [htaken]
    exact .head _
  · rw [h'.last hd]
    rfl

end

/-- In a run whose steps are all timely no handler starts for a message after its removal has
returned, and none runs after the looper has been destroyed. -/
theorem removal_and_shutdown_effective (l : List LooperEvent) (h : Run.Always step Timely init l) :
    Run.Always step Effective init l :=
  Run.always_of_inv (I := Kept) (fun _ e hk ht => ⟨hk.step e ht, hk.effective e ht⟩) l init_kept h

instance (s : SoftBusLooper) (e : LooperEvent) : Decidable (s.Timely e) :=
  match e with
  | .removeLocked i => inferInstanceAs (Decidable (∀ r ∈ s.removing[i]?, s.running = true ∨ s.closed = true ∨
      ∀ node ∈ s.msgHead, node.msg.id ∉ r.meant))
  | .loopTask => inferInstanceAs (Decidable (s.thread = .top → ∀ node ∈ s.msgHead.head?, ∀ r ∈ s.removing,
      node.msg.id ∉ r.meant))
  | .destroyLooperWake => inferInstanceAs (Decidable (s.destroying ≠ 0 → s.running = false → s.thread ≠ .notStarted))
  | .post _ | .insert _ | .remove _ _ | .advance _ | .destroyLooper | .looperDeinit | .otherStarted => .isTrue trivial

def plainHandler : SoftBusHandler := ⟨0, true⟩

def postPlain (what : BitVec 32) : LooperEvent := .post ⟨some plainHandler, what, 0, 0, none, true⟩

def removePlain (what : BitVec 32) : LooperEvent := .remove plainHandler (whatRemoveFunc what)

def threeMessagesRun : List LooperEvent :=
  [.loopTask, postPlain 7, .insert 0, postPlain 8, .insert 1, removePlain 7, .removeLocked 0, .loopTask, .loopTask,
    postPlain 9, .insert 2, .destroyLooper, .destroyLooperWake, .loopTask, .loopTask, .loopTask, .destroyLooperWake]

theorem removal_and_shutdown_effective_three_messages :
    Run.Always step Effective init threeMessagesRun ∧
      (Run.final step init threeMessagesRun).log = [.freed 0, .used 1, .freed 1, .freed 2] :=
  ⟨removal_and_shutdown_effective _ (by decide +kernel), by decide +kernel⟩

/-- A message that is removed before the thread runs is handled afterwards. So is one that the
thread takes before the removal gets the lock, after the removal has returned. A looper that is destroyed before
its thread runs leaves a thread that works on freed memory. -/
theorem removed_handled_and_destroyed_running :
    let s₁ := Run.final step init [postPlain 7, .insert 0, removePlain 7, .removeLocked 0, .loopTask, .loopTask]
    let s₂ := Run.final step init [.loopTask, postPlain 7, .insert 0, removePlain 7, .loopTask, .removeLocked 0]
    let s₃ := Run.final step init [.otherStarted, .looperDeinit, .destroyLooperWake, .loopTask, .loopTask]
    (s₁.removed = [0] ∧ (s₁.step .loopTask).thread.active = [0]) ∧
      (s₂.removed = [0] ∧ (s₂.step .loopTask).thread.active = [0]) ∧
      (s₃.destroyed = true ∧ handlerRuns s₃.thread = true) := by
  decide +kernel

end SoftBusLooper

end SoftBus
