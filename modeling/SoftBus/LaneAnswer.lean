import SoftBus.LaneHub

/-!
# Every lane request is answered once

A request has one token on its way, a message of the looper or a link that is being
built, until it is answered. This holds as long as a lane id is not used again while
something is left under it.
-/

namespace SoftBus

def LaneLog.answers (r : Nat) : LaneLog → Bool
  | .success holder _ _ => holder = r
  | .fail holder _ => holder = r
  | _ => false

def LaneMsgBody.isTrigger : LaneMsgBody → Bool
  | .triggerLink _ => true
  | _ => false

namespace LaneHub

def answers (s : LaneHub) (r : Nat) : Nat := s.log.countP (LaneLog.answers r)

def reqTags (s : LaneHub) : List (Nat × Nat) := s.requestList.map fun q => (q.laneId, q.owner)

def nodeTags (s : LaneHub) : List (Nat × Nat) := s.multiLinkList.map fun n => (n.laneId, n.owner)

def tokTags (s : LaneHub) : List (Nat × Nat) :=
  (s.queue.map fun m => (m.laneId, m.owner)) ++ s.pending.map fun p => (p.laneId, p.owner)

def Unused (s : LaneHub) (laneId : Nat) : Prop :=
  (∀ q ∈ s.requestList, q.laneId ≠ laneId) ∧ (∀ n ∈ s.multiLinkList, n.laneId ≠ laneId) ∧
  (∀ m ∈ s.queue, m.laneId ≠ laneId) ∧ (∀ p ∈ s.pending, p.laneId ≠ laneId) ∧ ∀ m ∈ s.delayed, m.laneId ≠ laneId

instance (s : LaneHub) (laneId : Nat) : Decidable (s.Unused laneId) := inferInstanceAs (Decidable (_ ∧ _))

/-- A request is only accepted under an id that nothing is left of. -/
def FreshId (s : LaneHub) : LaneEvent → Prop
  | .alloc laneId _ linkList => linkList ≠ [] → s.Unused laneId
  | _ => True

instance (s : LaneHub) : (e : LaneEvent) → Decidable (s.FreshId e)
  | .alloc laneId _ linkList => inferInstanceAs (Decidable (linkList ≠ [] → s.Unused laneId))
  | .applyLaneId => .isTrue trivial
  | .free _ => .isTrue trivial
  | .callback _ _ => .isTrue trivial
  | .loop _ => .isTrue trivial
  | .delayDestroy => .isTrue trivial

structure LaneInv (s : LaneHub) : Prop where
  ledger : Answer.Ledger s.reqTags s.nodeTags s.tokTags s.asked.length s.freed s.answers
  trigger : ∀ m ∈ s.queue, m.body.isTrigger →
    ∃ n ∈ s.multiLinkList, n.laneId = m.laneId ∧ n.linkRetryIdx < n.linkList.length
  linked : ∀ m ∈ s.queue, ∀ info, m.body = .linkSuccess info → convertible info.key.type
  delayed : ∀ m ∈ s.delayed, ∀ q ∈ s.requestList, q.laneId = m.laneId → q.owner = m.owner ∧ q.owner ∈ s.freed

theorem forall_mem_postMsg {s : LaneHub} {m : LaneMsg} {P : LaneMsg → Prop} (h : ∀ x ∈ s.queue, P x) (hm : P m) :
    ∀ x ∈ (s.postMsg m).queue, P x :=
  List.forall_mem_append.mpr ⟨h, List.forall_mem_singleton.mpr hm⟩

/-! ## What is found under an id -/

section
variable {s : LaneHub} {laneId : Nat}

theorem getLaneReqInfo_spec {q : TransReqInfo} (h : s.getLaneReqInfo laneId = some q) :
    q ∈ s.requestList ∧ q.laneId = laneId :=
  ⟨List.mem_of_find?_eq_some h, by simpa using List.find?_some h⟩

theorem getLaneReqInfo_none (h : s.getLaneReqInfo laneId = none) : ∀ q ∈ s.requestList, q.laneId ≠ laneId := by
  simpa [getLaneReqInfo] using h

theorem getLaneLinkNode_spec {n : LaneLinkNodeInfo} (h : s.getLaneLinkNode laneId = some n) :
    n ∈ s.multiLinkList ∧ n.laneId = laneId :=
  ⟨List.mem_of_find?_eq_some h, by simpa using List.find?_some h⟩

theorem mem_reqTags {q : TransReqInfo} (h : q ∈ s.requestList) : (q.laneId, q.owner) ∈ s.reqTags :=
  List.mem_map_of_mem h

theorem mem_nodeTags {n : LaneLinkNodeInfo} (h : n ∈ s.multiLinkList) : (n.laneId, n.owner) ∈ s.nodeTags :=
  List.mem_map_of_mem h

namespace LaneInv

theorem owner_eq (h : s.LaneInv) {q q' : TransReqInfo} (hq : q ∈ s.requestList) (hq' : q' ∈ s.requestList)
    (heq : q.laneId = q'.laneId) : q.owner = q'.owner :=
  (h.ledger.matched (q.laneId, q.owner) (by simp [mem_reqTags hq]) (q'.laneId, q'.owner) (by simp [mem_reqTags hq'])).mp heq

theorem node_owner_eq (h : s.LaneInv) {n : LaneLinkNodeInfo} {t : Nat × Nat} (hn : n ∈ s.multiLinkList)
    (ht : t ∈ s.tokTags) (heq : n.laneId = t.1) : n.owner = t.2 :=
  (h.ledger.matched (n.laneId, n.owner) (by simp [mem_nodeTags hn]) t (by simp [ht])).mp heq

theorem req_owner_eq (h : s.LaneInv) {q : TransReqInfo} {t : Nat × Nat} (hq : q ∈ s.requestList)
    (ht : t ∈ s.tokTags) (heq : q.laneId = t.1) : q.owner = t.2 :=
  (h.ledger.matched (q.laneId, q.owner) (by simp [mem_reqTags hq]) t (by simp [ht])).mp heq

theorem node_req_owner_eq (h : s.LaneInv) {n : LaneLinkNodeInfo} {q : TransReqInfo} (hn : n ∈ s.multiLinkList)
    (hq : q ∈ s.requestList) (heq : q.laneId = n.laneId) : q.owner = n.owner :=
  (h.ledger.matched (q.laneId, q.owner) (by simp [mem_reqTags hq]) (n.laneId, n.owner) (by simp [mem_nodeTags hn])).mp heq

theorem node_eq (h : s.LaneInv) {n n' : LaneLinkNodeInfo} (hn : n ∈ s.multiLinkList) (hn' : n' ∈ s.multiLinkList)
    (heq : n.laneId = n'.laneId) : n = n' := by
  have hnodup := h.ledger.notes_nodup
  rw [nodeTags, List.map_map] at hnodup
  exact List.inj_on_of_nodup_map hnodup hn hn' heq

theorem other_lane (h : s.LaneInv) {m : LaneMsg} {queue : List LaneMsg} (hq : s.queue = m :: queue) :
    ∀ m' ∈ queue, m'.laneId ≠ m.laneId := by
  intro m' hm' heq
  have hnodup := h.ledger.toks_nodup
  simp only [tokTags, hq, List.map_cons, List.cons_append, List.nodup_cons] at hnodup
  refine hnodup.1 ?_
  rw [List.map_append, List.map_map, List.mem_append, List.mem_map]
  exact .inl ⟨m', hm', heq⟩

end LaneInv

end

/-! ## What does not touch the requests -/

def Beside (s s' : LaneHub) : Prop :=
  ∃ laneIdBitmap linkInfoList laneResourceList lanes, s' = { s with laneIdBitmap, linkInfoList, laneResourceList, lanes }

section
variable {s s' : LaneHub}

theorem LaneInv.beside (h : s.LaneInv) (hb : Beside s s') : s'.LaneInv := by
  obtain ⟨bitmap, infos, resources, lanes, rfl⟩ := hb
  exact ⟨h.ledger, h.trigger, h.linked, h.delayed⟩

theorem beside_allocLaneId (s : LaneHub) : Beside s s.allocLaneId.1 := by
  unfold allocLaneId
  split
  · exact ⟨_, _, _, _, rfl⟩
  · exact ⟨_, _, _, _, rfl⟩

theorem beside_destroyLaneId (s : LaneHub) (laneId : Nat) : Beside s (s.destroyLaneId laneId) := by
  unfold destroyLaneId
  split
  · exact ⟨_, _, _, _, rfl⟩
  · exact ⟨_, _, _, _, rfl⟩

theorem beside_addLaneResourceItem (s : LaneHub) (key : LaneKey) : Beside s (s.addLaneResourceItem key) := by
  unfold addLaneResourceItem
  split
  · exact ⟨_, _, _, _, rfl⟩
  · exact ⟨_, _, _, _, rfl⟩

theorem beside_linkSuccess (s : LaneHub) (p : PendingLink) {key : LaneKey} (hconv : convertible key.type = true) :
    Beside (s.postMsg ⟨p.laneId, p.owner, .linkSuccess (linkSuccess.info p key)⟩) (s.linkSuccess p key) := by
  obtain ⟨bitmap, infos, resources, _, heq⟩ :=
    beside_addLaneResourceItem { s with linkInfoList := linkSuccess.info p key :: s.linkInfoList } key
  refine ⟨bitmap, infos, resources, if p.owner ∈ s.freed then s.lanes else linkSuccess.info p key :: s.lanes, ?_⟩
  rw [linkSuccess, if_neg (by simp [hconv]), heq]
  rfl

theorem beside_delLaneResourceItem (s : LaneHub) (key : LaneKey) : Beside s (s.delLaneResourceItem key) := by
  unfold delLaneResourceItem
  split
  · split
    · exact ⟨_, _, _, _, rfl⟩
    · exact ⟨_, _, _, _, rfl⟩
  · exact ⟨_, _, _, _, rfl⟩

theorem beside_freeLaneLink (s : LaneHub) (laneId : Nat) :
    Beside (s.deleteRequestNode laneId) (s.freeLaneLink laneId) := by
  obtain ⟨bitmap, infos, resources, _, hb⟩ := beside_destroyLaneId ((s.deleteRequestNode laneId).delLinkInfoItem laneId) laneId
  refine ⟨bitmap, infos, resources, s.lanes.filter (·.laneId ≠ laneId), ?_⟩
  rw [freeLaneLink, hb]
  rfl

end

/-! ## The parts of a step -/

namespace LaneInv

section
variable {s : LaneHub}

theorem init : LaneInv {} := by
  refine ⟨.nil, fun m hm => absurd hm List.not_mem_nil, fun m hm => absurd hm List.not_mem_nil,
    fun m hm => absurd hm List.not_mem_nil⟩

theorem note (h : s.LaneInv) {e : LaneLog} (he : ∀ r, e.answers r = false) : (s.note e).LaneInv := by
  have hsame : (s.note e).answers = s.answers := by
    funext r
    simp [answers, LaneHub.note, he r]
  exact ⟨by rw [hsame]; exact h.ledger, h.trigger, h.linked, h.delayed⟩

theorem deleteRequestNode (h : s.LaneInv) {laneId : Nat}
    (hfreed : ∀ q, s.getLaneReqInfo laneId = some q → q.owner ∈ s.freed) : (s.deleteRequestNode laneId).LaneInv := by
  refine ⟨?_, h.trigger, h.linked, fun m hm q hq => h.delayed m hm q (List.mem_of_mem_eraseP hq)⟩
  refine h.ledger.withdraw (List.eraseP_sublist.map _) (fun _ hr => hr) fun t ht => ?_
  obtain ⟨q, hq, rfl⟩ := List.mem_map.mp ht
  by_cases hid : q.laneId = laneId
  · right
    obtain ⟨q', hq'⟩ : ∃ q', s.getLaneReqInfo laneId = some q' := by
      by_contra hnone
      exact getLaneReqInfo_none (Option.eq_none_iff_forall_ne_some.mpr fun q' hq' => hnone ⟨q', hq'⟩) q hq hid
    obtain ⟨hmem, hid'⟩ := getLaneReqInfo_spec hq'
    rw [h.owner_eq hq hmem (hid.trans hid'.symm)]
    exact hfreed q' hq'
  · left
    refine List.mem_map_of_mem ?_
    exact (List.mem_eraseP_of_neg (by simpa using hid)).mpr hq

theorem markFreed (h : s.LaneInv) (laneId : Nat) : (s.markFreed laneId).LaneInv := by
  unfold LaneHub.markFreed
  split
  · refine ⟨h.ledger.withdraw (.refl _) (fun r hr => List.mem_cons_of_mem _ hr) fun q hq => .inl hq, h.trigger, h.linked,
      fun m hm q hq hid => ?_⟩
    obtain ⟨hown, hfreed⟩ := h.delayed m hm q hq hid
    exact ⟨hown, List.mem_cons_of_mem _ hfreed⟩
  · exact h

end

end LaneInv

section
variable (s : LaneHub) (laneId : Nat)

theorem getLaneReqInfo_markFreed (laneId' : Nat) :
    (s.markFreed laneId).getLaneReqInfo laneId' = s.getLaneReqInfo laneId' := by
  unfold markFreed
  split
  · rfl
  · rfl

theorem freed_markFreed {q : TransReqInfo} (h : (s.markFreed laneId).getLaneReqInfo laneId = some q) :
    q.owner ∈ (s.markFreed laneId).freed := by
  rw [getLaneReqInfo_markFreed] at h
  simp [markFreed, h]

end

namespace LaneInv

section
variable {s : LaneHub}

theorem freeLaneLink (h : s.LaneInv) {laneId : Nat}
    (hfreed : ∀ q, s.getLaneReqInfo laneId = some q → q.owner ∈ s.freed) : (s.freeLaneLink laneId).LaneInv :=
  (h.deleteRequestNode hfreed).beside (beside_freeLaneLink s laneId)

theorem startDelayDestroyLink (h : s.LaneInv) {info : LaneLinkInfo}
    (hfreed : ∀ q, s.getLaneReqInfo info.laneId = some q → q.owner ∈ s.freed) : (s.startDelayDestroyLink info).LaneInv := by
  refine ⟨h.ledger, h.trigger, h.linked, fun m hm q hq hid => ?_⟩
  rcases List.mem_append.mp hm with hm | hm
  · exact h.delayed m hm q hq hid
  cases List.mem_singleton.mp hm
  cases hfind : s.getLaneReqInfo info.laneId with
  | none => exact absurd hid (getLaneReqInfo_none hfind q hq)
  | some q' =>
    obtain ⟨hmem, hid'⟩ := getLaneReqInfo_spec hfind
    have hown := h.owner_eq hq hmem (hid.trans hid'.symm)
    refine ⟨hown, ?_⟩
    rw [hown]
    exact hfreed q' hfind

theorem free (h : s.LaneInv) (laneId : Nat) : (s.free laneId).LaneInv := by
  have hmark := h.markFreed laneId
  have hfree : ((s.markFreed laneId).freeLaneLink laneId).LaneInv := hmark.freeLaneLink fun q hq => freed_markFreed s laneId hq
  unfold LaneHub.free
  split
  · exact h
  split
  · exact hfree
  rename_i info hinfo
  have hid : info.laneId = laneId := by simpa using List.find?_some hinfo
  split
  · exact hfree
  split
  · refine hmark.startDelayDestroyLink fun q hq => ?_
    rw [hid] at hq
    exact freed_markFreed s laneId hq
  · have hbeside := beside_delLaneResourceItem (s.markFreed laneId) info.key
    refine (hmark.beside hbeside).freeLaneLink fun q hq => ?_
    obtain ⟨_, _, _, _, heq⟩ := hbeside
    rw [heq] at hq ⊢
    exact freed_markFreed s laneId hq

theorem ne_of_unused {laneId : Nat} (hunused : s.Unused laneId) : ∀ t ∈ s.reqTags ++ s.nodeTags ++ s.tokTags, t.1 ≠ laneId := by
  obtain ⟨hreq, hnode, hqueue, hpending, -⟩ := hunused
  intro t ht
  simp only [reqTags, nodeTags, tokTags, List.mem_append, List.mem_map] at ht
  rcases ht with (⟨q, hq, rfl⟩ | ⟨n, hn, rfl⟩) | (⟨m, hm, rfl⟩ | ⟨p, hp, rfl⟩)
  · exact hreq q hq
  · exact hnode n hn
  · exact hqueue m hm
  · exact hpending p hp

theorem ledger_added (h : s.LaneInv) {laneId : Nat} (hunused : s.Unused laneId) (option : TransOption)
    (linkList : List LaneLinkType) (body : LaneMsgBody) :
    Answer.Ledger (alloc.added s laneId option linkList).reqTags (alloc.added s laneId option linkList).nodeTags
      ((alloc.added s laneId option linkList).postMsg ⟨laneId, s.asked.length, body⟩).tokTags
      (alloc.added s laneId option linkList).asked.length s.freed s.answers := by
  have hreqs : (alloc.added s laneId option linkList).reqTags = s.reqTags ++ [(laneId, s.asked.length)] := by
    simp [reqTags, alloc.added]
  have hnodes : (alloc.added s laneId option linkList).nodeTags = s.nodeTags ++ [(laneId, s.asked.length)] := by
    simp [nodeTags, alloc.added, alloc.node]
  have hlen : (alloc.added s laneId option linkList).asked.length = s.asked.length + 1 := by simp [alloc.added]
  rw [hreqs, hnodes, hlen]
  refine (h.ledger.issue (ne_of_unused hunused)).perm ?_
  simp only [tokTags, postMsg, alloc.added, List.map_append, List.append_assoc]
  exact (List.perm_append_comm).append_left _

theorem alloc (h : s.LaneInv) {laneId : Nat} (option : TransOption) {linkList : List LaneLinkType}
    (hunused : linkList ≠ [] → s.Unused laneId) : (s.alloc laneId option linkList).LaneInv := by
  unfold LaneHub.alloc
  split
  · exact h
  rename_i hlinks
  refine ⟨h.ledger_added (hunused hlinks) option linkList _, forall_mem_postMsg (fun m hm htrig => ?_) fun _ => ?_,
    forall_mem_postMsg h.linked fun info hbody => absurd hbody (by simp), fun m hm q hq hid => ?_⟩
  · obtain ⟨n, hn, hrest⟩ := h.trigger m hm htrig
    exact ⟨n, List.mem_append_left _ hn, hrest⟩
  · exact ⟨_, List.mem_append_right _ List.mem_cons_self, rfl, List.length_pos_iff.mpr hlinks⟩
  · rcases List.mem_append.mp hq with hq | hq
    · exact h.delayed m hm q hq hid
    · cases List.mem_singleton.mp hq
      exact absurd hid.symm ((hunused hlinks).2.2.2.2 m hm)

theorem other_token (h : s.LaneInv) {n : Nat} {p : PendingLink} (hp : s.pending[n]? = some p) :
    (∀ m ∈ s.queue, m.laneId ≠ p.laneId) ∧ ∀ p' ∈ s.pending.eraseIdx n, p'.laneId ≠ p.laneId := by
  obtain ⟨hn, rfl⟩ := List.getElem?_eq_some_iff.mp hp
  have hperm : s.tokTags.Perm ((s.pending[n].laneId, s.pending[n].owner) ::
      { s with pending := s.pending.eraseIdx n }.tokTags) := by
    refine List.Perm.trans ?_ List.perm_middle
    exact ((List.getElem_cons_eraseIdx_perm hn).symm.map fun p => (p.laneId, p.owner)).append_left _
  have hnot := (List.nodup_cons.mp ((hperm.map Prod.fst).nodup_iff.mp h.ledger.toks_nodup)).1
  rw [tokTags, List.map_append, List.mem_append, not_or, List.map_map, List.map_map] at hnot
  exact ⟨fun m hm hid => hnot.1 (List.mem_map.mpr ⟨m, hm, hid⟩), fun p' hp' hid => hnot.2 (List.mem_map.mpr ⟨p', hp', hid⟩)⟩

theorem called (h : s.LaneInv) {n : Nat} {p : PendingLink} (hp : s.pending[n]? = some p) (body : LaneMsgBody)
    (htrig : body.isTrigger = false) (hlinked : ∀ info, body = .linkSuccess info → convertible info.key.type) :
    ({ s with pending := s.pending.eraseIdx n }.postMsg ⟨p.laneId, p.owner, body⟩).LaneInv := by
  obtain ⟨hn, rfl⟩ := List.getElem?_eq_some_iff.mp hp
  refine ⟨?_, forall_mem_postMsg h.trigger fun htrig' => ?_, forall_mem_postMsg h.linked hlinked, h.delayed⟩
  · refine h.ledger.perm ?_
    simp only [tokTags, postMsg, List.map_append, List.append_assoc]
    refine List.Perm.append_left _ ?_
    exact (List.getElem_cons_eraseIdx_perm hn).map fun p => (p.laneId, p.owner)
  · exact absurd (htrig'.symm.trans htrig) (by simp)

theorem callback (h : s.LaneInv) (n : Nat) (result : LinkResult) : (s.callback n result).LaneInv := by
  unfold LaneHub.callback
  split
  · exact h
  rename_i p hp
  cases result with
  | fail reason => exact h.called hp (.linkFail _) rfl fun info hbody => absurd hbody (by simp)
  | success key =>
    dsimp only
    by_cases hconv : convertible key.type = true
    · refine (h.called hp (.linkSuccess (linkSuccess.info p key)) rfl fun info hbody => ?_).beside
        (beside_linkSuccess _ p hconv)
      cases hbody
      exact hconv
    · rw [LaneHub.linkSuccess, if_pos (by simpa using hconv)]
      exact h.called hp (.linkFail _) rfl fun info hbody => absurd hbody (by simp)

/-! ## The looper -/

theorem deleteLaneLinkNode (h : s.LaneInv) {laneId : Nat}
    (htrig : ∀ m ∈ s.queue, m.body.isTrigger → m.laneId ≠ laneId) :
    (s.deleteLaneLinkNode laneId).LaneInv := by
  refine ⟨h.ledger.dropNotes (List.eraseP_sublist.map _), fun m hm hbody => ?_, h.linked, h.delayed⟩
  obtain ⟨n, hn, hid, hlt⟩ := h.trigger m hm hbody
  have hne : n.laneId ≠ laneId := hid ▸ htrig m hm hbody
  exact ⟨n, (List.mem_eraseP_of_neg (by simpa using hne)).mpr hn, hid, hlt⟩

end

/-! The head of the queue is taken. -/

section
variable {s : LaneHub} {m : LaneMsg} {queue : List LaneMsg}

theorem mem_queue (hq : s.queue = m :: queue) (m' : LaneMsg) (hm' : m' ∈ queue) : m' ∈ s.queue := by
  rw [hq]
  exact List.mem_cons_of_mem m hm'

theorem tokTags_perm (hq : s.queue = m :: queue) :
    s.tokTags.Perm ((m.laneId, m.owner) :: { s with queue }.tokTags) := by
  simp only [tokTags, hq]
  exact .refl _

theorem mem_tokTags_head (hq : s.queue = m :: queue) : (m.laneId, m.owner) ∈ s.tokTags :=
  (tokTags_perm hq).mem_iff.mpr List.mem_cons_self

variable (h : s.LaneInv) (hq : s.queue = m :: queue)
include h hq

theorem no_token : m.laneId ∉ { s with queue }.tokTags.map Prod.fst := by
  have hnodup := ((tokTags_perm hq).map Prod.fst).nodup_iff.mp h.ledger.toks_nodup
  exact (List.nodup_cons.mp hnodup).1

theorem unheard (hnone : { s with queue }.getLaneReqInfo m.laneId = none) : LaneInv { s with queue } := by
  refine ⟨h.ledger.waste (tokTags_perm hq) fun t ht => ?_, fun m' hm' => h.trigger m' (mem_queue hq m' hm'),
    fun m' hm' => h.linked m' (mem_queue hq m' hm'), h.delayed⟩
  obtain ⟨q, hreq, rfl⟩ := List.mem_map.mp ht
  exact getLaneReqInfo_none hnone q hreq

theorem answered {e : LaneLog} {q : TransReqInfo} (hfind : { s with queue }.getLaneReqInfo m.laneId = some q)
    (he : ∀ r, e.answers r = decide (q.owner = r)) : (LaneHub.note { s with queue } e).LaneInv := by
  obtain ⟨hreq, hid⟩ := getLaneReqInfo_spec hfind
  refine ⟨?_, fun m' hm' => h.trigger m' (mem_queue hq m' hm'), fun m' hm' => h.linked m' (mem_queue hq m' hm'), h.delayed⟩
  have hans : (LaneHub.note { s with queue } e).answers = Answer.bump s.answers q.owner := by
    funext r
    by_cases hr : r = q.owner
    · simp [answers, LaneHub.note, Answer.bump, he, hr]
    · simp [answers, LaneHub.note, Answer.bump, he, hr, Ne.symm hr]
  rw [hans]
  exact h.ledger.answer (tokTags_perm hq) (mem_reqTags hreq) hid

theorem notifyLaneAllocSuccess {info : LaneLinkInfo} (hconv : convertible info.key.type) :
    ({ s with queue }.notifyLaneAllocSuccess m.laneId m.owner info).LaneInv := by
  unfold LaneHub.notifyLaneAllocSuccess
  split
  · rename_i hnone
    exact h.unheard hq hnone
  · rename_i q hfind
    rw [if_pos hconv]
    exact h.answered hq hfind fun r => rfl

theorem notifyLaneAllocFail : ({ s with queue }.notifyLaneAllocFail m.laneId m.owner).LaneInv := by
  unfold LaneHub.notifyLaneAllocFail
  split
  · rename_i hnone
    exact h.unheard hq hnone
  · rename_i q hfind
    have hans := h.answered hq (e := .fail q.owner m.owner) hfind fun r => rfl
    refine ⟨hans.ledger.close (List.eraseP_sublist.map _) fun t ht => ?_, hans.trigger, hans.linked,
      fun d hd q' hq' => hans.delayed d hd q' (List.mem_of_mem_eraseP hq')⟩
    obtain ⟨q', hq', rfl⟩ := List.mem_map.mp ht
    by_cases hid : q'.laneId = m.laneId
    · right
      rw [hid]
      exact h.no_token hq
    · left
      refine List.mem_map_of_mem ?_
      exact (List.mem_eraseP_of_neg (by simpa using hid)).mpr hq'

theorem requeue {owner : Nat} (body : LaneMsgBody) (hown : owner = m.owner)
    (htrig : body.isTrigger → ∃ n ∈ s.multiLinkList, n.laneId = m.laneId ∧ n.linkRetryIdx < n.linkList.length)
    (hlinked : ∀ info, body ≠ .linkSuccess info) : ({ s with queue }.postMsg ⟨m.laneId, owner, body⟩).LaneInv := by
  refine ⟨h.ledger.perm ?_, forall_mem_postMsg (fun x hx => h.trigger x (mem_queue hq x hx)) htrig,
    forall_mem_postMsg (fun x hx => h.linked x (mem_queue hq x hx)) fun info hbody => absurd hbody (hlinked info),
    h.delayed⟩
  refine List.Perm.trans ?_ (tokTags_perm hq).symm
  simp only [tokTags, postMsg, List.map_append, List.append_assoc, List.map_cons, List.map_nil, hown]
  exact List.perm_middle

theorem startLink {owner : Nat} {request : LinkRequest} (hown : owner = m.owner) :
    LaneInv { s with queue, pending := s.pending ++ [⟨m.laneId, owner, request⟩] } := by
  refine ⟨h.ledger.perm ?_, fun x hx => h.trigger x (mem_queue hq x hx), fun x hx => h.linked x (mem_queue hq x hx), h.delayed⟩
  refine List.Perm.trans ?_ (tokTags_perm hq).symm
  simp only [tokTags, List.map_append, List.map_cons, List.map_nil, hown]
  rw [← List.append_assoc]
  exact List.perm_append_singleton _ _

theorem trigger_node (htrig : m.body.isTrigger) : ∃ n linkType, { s with queue }.getLaneLinkNode m.laneId = some n ∧
    n.linkList[n.linkRetryIdx]? = some linkType ∧ n ∈ s.multiLinkList ∧ n.laneId = m.laneId ∧ n.owner = m.owner := by
  obtain ⟨n, hn, hid, hlt⟩ := h.trigger m (by rw [hq]; exact List.mem_cons_self) htrig
  cases hfind : s.getLaneLinkNode m.laneId with
  | none => exact absurd hid (by simpa using List.find?_eq_none.mp hfind n hn)
  | some n' =>
    obtain ⟨hn', hid'⟩ := getLaneLinkNode_spec hfind
    cases h.node_eq hn hn' (hid.trans hid'.symm)
    exact ⟨n, n.linkList[n.linkRetryIdx], hfind, List.getElem?_eq_getElem hlt, hn, hid,
      h.node_owner_eq hn (mem_tokTags_head hq) hid⟩

end

section
variable {s : LaneHub}

theorem advance (h : s.LaneInv) {laneId : Nat} (htrig : ∀ m ∈ s.queue, m.body.isTrigger → m.laneId ≠ laneId) :
    (s.advance laneId).LaneInv := by
  have hnodes : (s.advance laneId).nodeTags = s.nodeTags := FirstMatch.map_modify _ fun n _ _ => rfl
  refine ⟨by rw [hnodes]; exact h.ledger, fun m hm hbody => ?_, h.linked, h.delayed⟩
  obtain ⟨n, hn, hid, hlt⟩ := h.trigger m hm hbody
  have hne : n.laneId ≠ laneId := hid ▸ htrig m hm hbody
  exact ⟨n, FirstMatch.mem_modify_of_not hn (by simpa using hne), hid, hlt⟩

theorem laneTriggerLink (h : s.LaneInv) {m : LaneMsg} {queue : List LaneMsg} (hq : s.queue = m :: queue)
    (htrig : m.body.isTrigger) (arg2 : BitVec 64) (built : Bool) :
    ({ s with queue }.laneTriggerLink m.laneId arg2 built).LaneInv := by
  obtain ⟨n, linkType, hfind, hlink, hn, hid, hown⟩ := h.trigger_node hq htrig
  have hother := h.other_lane hq
  simp only [LaneHub.laneTriggerLink, hfind, hlink]
  unfold buildLink
  split
  · refine LaneInv.note (s := LaneHub.advance { s with queue, pending := s.pending ++ [_] } m.laneId) ?_ fun r => rfl
    exact (h.startLink hq hown).advance fun x hx _ => hother x hx
  · refine LaneInv.note (s := LaneHub.advance (LaneHub.postMsg { s with queue } ⟨m.laneId, n.owner, _⟩) m.laneId)
      ?_ fun r => rfl
    refine (h.requeue hq (.linkFail _) hown (fun hbody => absurd hbody (by simp [LaneMsgBody.isTrigger]))
      fun info => by simp).advance fun x hx hbody => ?_
    rcases List.mem_append.mp hx with hx | hx
    · exact hother x hx
    · cases List.mem_singleton.mp hx
      exact absurd hbody (by simp [LaneMsgBody.isTrigger])

theorem deleteHead (h : s.LaneInv) {m : LaneMsg} {queue : List LaneMsg} (hq : s.queue = m :: queue)
    (htrig : m.body.isTrigger = false) : (s.deleteLaneLinkNode m.laneId).LaneInv := by
  refine h.deleteLaneLinkNode fun x hx hbody => ?_
  rw [hq] at hx
  rcases List.mem_cons.mp hx with rfl | hx
  · exact absurd (hbody.symm.trans htrig) (by simp)
  · exact h.other_lane hq x hx

theorem laneLinkFail (h : s.LaneInv) {m : LaneMsg} {queue : List LaneMsg} (hq : s.queue = m :: queue)
    (htrig : m.body.isTrigger = false) (arg2 : BitVec 64) : ({ s with queue }.laneLinkFail m.laneId m.owner arg2).LaneInv := by
  unfold LaneHub.laneLinkFail
  split
  · exact h.notifyLaneAllocFail hq
  rename_i n hfind
  obtain ⟨hn, hid⟩ := getLaneLinkNode_spec hfind
  split
  · exact (h.deleteHead hq htrig).notifyLaneAllocFail hq
  · rename_i hlt
    exact h.requeue hq (.triggerLink _) (h.node_owner_eq hn (mem_tokTags_head hq) hid) (fun _ => ⟨n, hn, hid, by omega⟩)
      fun info => by simp

theorem loop (h : s.LaneInv) (built : Bool) : (s.loop built).LaneInv := by
  unfold LaneHub.loop
  split
  · exact h
  rename_i m queue hq
  unfold LaneHub.handle
  split
  · rename_i arg2 hbody
    exact h.laneTriggerLink hq (by simp [hbody, LaneMsgBody.isTrigger]) arg2 built
  · rename_i info hbody
    have hconv := h.linked m (by rw [hq]; exact List.mem_cons_self) info hbody
    exact (h.deleteHead hq (by simp [hbody, LaneMsgBody.isTrigger])).notifyLaneAllocSuccess hq hconv
  · rename_i arg2 hbody
    exact h.laneLinkFail hq (by simp [hbody, LaneMsgBody.isTrigger]) arg2

theorem handleDelayDestroyLink (h : s.LaneInv) : s.handleDelayDestroyLink.LaneInv := by
  unfold LaneHub.handleDelayDestroyLink
  split
  · exact h
  rename_i m delayed hd
  have htail : LaneInv { s with delayed } :=
    ⟨h.ledger, h.trigger, h.linked, fun x hx => h.delayed x (by rw [hd]; exact List.mem_cons_of_mem m hx)⟩
  have hfreed : ∀ q, s.getLaneReqInfo m.laneId = some q → q.owner ∈ s.freed := by
    intro q hfind
    obtain ⟨hreq, hid⟩ := getLaneReqInfo_spec hfind
    exact (h.delayed m (by rw [hd]; exact List.mem_cons_self) q hreq hid).2
  have hnoted : (handleDelayDestroyLink.noteDestroyed { s with delayed } m).LaneInv ∧
      ∀ q, (handleDelayDestroyLink.noteDestroyed { s with delayed } m).getLaneReqInfo m.laneId = some q →
        q.owner ∈ (handleDelayDestroyLink.noteDestroyed { s with delayed } m).freed := by
    unfold handleDelayDestroyLink.noteDestroyed
    split
    · exact ⟨htail.note fun r => rfl, hfreed⟩
    · exact ⟨htail, hfreed⟩
  have hbeside := beside_delLaneResourceItem (handleDelayDestroyLink.noteDestroyed { s with delayed } m) m.key
  refine (hnoted.1.beside hbeside).freeLaneLink fun q hq => ?_
  obtain ⟨_, _, _, _, heq⟩ := hbeside
  rw [heq] at hq ⊢
  exact hnoted.2 q hq

theorem next (h : s.LaneInv) {e : LaneEvent} (hfresh : s.FreshId e) : (s.next e).LaneInv := by
  cases e with
  | applyLaneId => exact h.beside (beside_allocLaneId s)
  | alloc laneId option linkList => exact h.alloc option hfresh
  | free laneId => exact h.free laneId
  | callback n result => exact h.callback n result
  | loop built => exact h.loop built
  | delayDestroy => exact h.handleDelayDestroyLink

end

end LaneInv

/-- In a run that never asks for a lane under an id that something is left of, once the looper has
nothing to do and no link is being built every request that was accepted and not freed has one answer. -/
theorem lane_answered_once {events : List LaneEvent} (hfresh : Run.Always next FreshId {} events)
    (hqueue : (Run.final next {} events).queue = []) (hpending : (Run.final next {} events).pending = [])
    {r : Nat} (hr : r < (Run.final next {} events).asked.length) (hfreed : r ∉ (Run.final next {} events).freed) :
    (Run.final next {} events).answers r = 1 := by
  have hinv := Run.inv_final (I := LaneInv) (fun s e hs he => hs.next he) events .init hfresh
  have hledger := hinv.ledger
  have htoks : (Run.final next {} events).tokTags = [] := by simp [tokTags, hqueue, hpending]
  rw [htoks] at hledger
  exact hledger.all_answered hr hfreed

def laneOption (networkId : List UInt8) : TransOption :=
  { networkId, transType := 2, networkDelegate := false, p2pOnly := false, acceptableProtocols := lnnProtocolAll
    pid := 0, peerBleMac := [], psm := 0 }

def wlanKey (addr : List UInt8) : LaneKey := ⟨.wlan5g, addr, by simp⟩

def twoLanesRun : List LaneEvent :=
  [.applyLaneId, .alloc 0x10000001 (laneOption [1]) [.p2p, .wlan5g], .applyLaneId, .alloc 0x10000002 (laneOption [2]) [.br],
    .loop false, .loop true, .loop false, .callback 0 (.fail 5), .loop true, .loop true, .callback 0 (.success (wlanKey [1])),
    .loop true]

theorem lane_answered_once_two_lanes :
    (Run.final next {} twoLanesRun).answers 0 = 1 ∧ (Run.final next {} twoLanesRun).answers 1 = 1 := by
  have hfresh : Run.Always next FreshId {} twoLanesRun := by decide +kernel
  have hqueue : (Run.final next {} twoLanesRun).queue = [] := by decide +kernel
  have hpending : (Run.final next {} twoLanesRun).pending = [] := by decide +kernel
  exact ⟨lane_answered_once hfresh hqueue hpending (by decide +kernel) (by decide +kernel),
    lane_answered_once hfresh hqueue hpending (by decide +kernel) (by decide +kernel)⟩

def freedEarlyRun : List LaneEvent :=
  [.applyLaneId, .alloc 0x10000001 (laneOption [1]) [.p2p, .wlan5g], .loop true, .free 0x10000001]

def reusedIdRun : List LaneEvent :=
  freedEarlyRun ++ [.applyLaneId, .alloc 0x10000001 (laneOption [2]) [.br], .loop true,
    .callback 0 (.success (wlanKey [1])), .callback 0 (.success (wlanKey [1])), .loop true, .loop true]

def sameIdRun : List LaneEvent :=
  [.applyLaneId, .alloc 0x10000001 (laneOption [1]) [.wlan5g], .alloc 0x10000001 (laneOption [2]) [.br], .loop true, .loop true,
    .callback 0 (.success (wlanKey [1])), .loop true]

theorem lane_answered_twice_or_never :
    ((Run.final next {} freedEarlyRun).allocLaneId.2 = some 0x10000001 ∧
      (Run.final next {} reusedIdRun).queue = [] ∧ (Run.final next {} reusedIdRun).pending = [] ∧
      (Run.final next {} reusedIdRun).asked.length = 2 ∧ 1 ∉ (Run.final next {} reusedIdRun).freed ∧
      (Run.final next {} reusedIdRun).answers 1 = 2) ∧
    ((Run.final next {} sameIdRun).queue = [] ∧ (Run.final next {} sameIdRun).pending = [] ∧
      (Run.final next {} sameIdRun).asked.length = 2 ∧ 1 ∉ (Run.final next {} sameIdRun).freed ∧
      (Run.final next {} sameIdRun).answers 1 = 0) := by
  decide +kernel

end LaneHub

end SoftBus
