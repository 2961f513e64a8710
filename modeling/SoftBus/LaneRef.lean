import SoftBus.LaneIsolation
import SoftBus.Lib.UseCount

/-!
# References to lane resources

An entry of the resource list counts the lanes that were linked over it and are not
destroyed. A link takes its reference when it calls back, `Free` or the delayed message
gives it back. This holds as long as no link succeeds after its lane was freed and no
lane is freed again while its destruction is delayed.
-/

namespace SoftBus

namespace LaneHub

/-- Every entry counts the lanes over it, and is there as long as there is one. -/
def Counted (s : LaneHub) : Prop :=
  (∀ r ∈ s.laneResourceList, r.laneRef = s.lanes.countP (·.key = r.key)) ∧
  ∀ key, (∃ r ∈ s.laneResourceList, r.key = key) ↔ ∃ lane ∈ s.lanes, lane.key = key

/-- A link succeeds for a lane that its caller has not freed, and a lane is not freed while its
destruction is delayed. -/
def HeldLane (s : LaneHub) : LaneEvent → Prop
  | .callback n (.success key) => convertible key.type → ∀ p ∈ s.pending[n]?, p.owner ∉ s.freed
  | .free laneId => ∀ m ∈ s.delayed, m.laneId ≠ laneId
  | _ => True

instance (s : LaneHub) : (e : LaneEvent) → Decidable (s.HeldLane e)
  | .callback n (.success key) => inferInstanceAs (Decidable (convertible key.type → ∀ p ∈ s.pending[n]?, p.owner ∉ s.freed))
  | .callback _ (.fail _) => .isTrue trivial
  | .free laneId => inferInstanceAs (Decidable (∀ m ∈ s.delayed, m.laneId ≠ laneId))
  | .applyLaneId => .isTrue trivial
  | .alloc _ _ _ => .isTrue trivial
  | .loop _ => .isTrue trivial
  | .delayDestroy => .isTrue trivial

structure RefInv (s : LaneHub) : Prop where
  lanes_eq : s.lanes = s.linkInfoList
  ids : (s.linkInfoList.map (·.laneId)).Nodup
  counts : UseCount.Counts LaneResource.key LaneResource.laneRef s.laneResourceList (s.linkInfoList.map (·.key))
  delayed : ∀ m ∈ s.delayed, ∃ info ∈ s.linkInfoList, info.laneId = m.laneId ∧ info.key = m.key
  delayed_ids : (s.delayed.map (·.laneId)).Nodup
  held : ∀ info ∈ s.linkInfoList, ∃ q ∈ s.requestList, q.laneId = info.laneId
  pending : ∀ info ∈ s.linkInfoList, ∀ p ∈ s.pending, p.laneId ≠ info.laneId
  queue : ∀ info ∈ s.linkInfoList, ∀ m ∈ s.queue, m.laneId = info.laneId → ∃ info', m.body = .linkSuccess info'

theorem RefInv.counted {s : LaneHub} (h : s.RefInv) : s.Counted := by
  constructor
  · intro r hr
    rw [h.counts.ref_eq r hr, h.lanes_eq, List.count_eq_countP, List.countP_map]
    refine List.countP_congr fun info _ => ?_
    simp
  · intro key
    have hmem := h.counts.mem key
    simp only [List.mem_map] at hmem
    rw [h.lanes_eq]
    exact hmem

/-! ## What is done under one id -/

structure Under (laneId : Nat) (s s' : LaneHub) : Prop where
  infos : s'.linkInfoList = s.linkInfoList
  resources : s'.laneResourceList = s.laneResourceList
  delayed : s'.delayed = s.delayed
  lanes : s'.lanes = s.lanes
  req : ∀ q ∈ s.requestList, q.laneId ≠ laneId → q ∈ s'.requestList
  queue : ∀ m ∈ s'.queue, m ∈ s.queue ∨ m.laneId = laneId
  pending : ∀ p ∈ s'.pending, p ∈ s.pending ∨ p.laneId = laneId

section
variable {s s' : LaneHub} {laneId : Nat}

theorem RefInv.under (h : s.RefInv) (hu : Under laneId s s') (hnone : ∀ info ∈ s.linkInfoList, info.laneId ≠ laneId) :
    s'.RefInv := by
  refine ⟨?_, ?_, ?_, ?_, ?_, ?_, ?_, ?_⟩
  · rw [hu.lanes, hu.infos]
    exact h.lanes_eq
  · rw [hu.infos]
    exact h.ids
  · rw [hu.resources, hu.infos]
    exact h.counts
  · rw [hu.delayed, hu.infos]
    exact h.delayed
  · rw [hu.delayed]
    exact h.delayed_ids
  · rw [hu.infos]
    intro info hinfo
    obtain ⟨q, hq, hid⟩ := h.held info hinfo
    exact ⟨q, hu.req q hq (hid ▸ hnone info hinfo), hid⟩
  · rw [hu.infos]
    intro info hinfo p hp
    rcases hu.pending p hp with hp | hid
    · exact h.pending info hinfo p hp
    · exact hid ▸ (hnone info hinfo).symm
  · rw [hu.infos]
    intro info hinfo m hm hid
    rcases hu.queue m hm with hm | hid'
    · exact h.queue info hinfo m hm hid
    · exact absurd (hid.symm.trans hid') (hnone info hinfo)

namespace Under

theorem refl (laneId : Nat) (s : LaneHub) : Under laneId s s :=
  ⟨rfl, rfl, rfl, rfl, fun _ hq _ => hq, fun _ hm => .inl hm, fun _ hp => .inl hp⟩

theorem trans {s'' : LaneHub} (h : Under laneId s s') (h' : Under laneId s' s'') : Under laneId s s'' :=
  ⟨h'.infos.trans h.infos, h'.resources.trans h.resources, h'.delayed.trans h.delayed, h'.lanes.trans h.lanes,
    fun q hq hne => h'.req q (h.req q hq hne) hne, fun m hm => (h'.queue m hm).elim (h.queue m) .inr,
    fun p hp => (h'.pending p hp).elim (h.pending p) .inr⟩

theorem postMsg (s : LaneHub) (m : LaneMsg) : Under m.laneId s (s.postMsg m) := by
  refine ⟨rfl, rfl, rfl, rfl, fun _ hq _ => hq, fun x hx => ?_, fun _ hp => .inl hp⟩
  rcases List.mem_append.mp hx with hx | hx
  · exact .inl hx
  · cases List.mem_singleton.mp hx
    exact .inr rfl

theorem note (laneId : Nat) (s : LaneHub) (e : LaneLog) : Under laneId s (s.note e) :=
  ⟨rfl, rfl, rfl, rfl, fun _ hq _ => hq, fun _ hm => .inl hm, fun _ hp => .inl hp⟩

theorem advance (laneId : Nat) (s : LaneHub) : Under laneId s (s.advance laneId) :=
  ⟨rfl, rfl, rfl, rfl, fun _ hq _ => hq, fun _ hm => .inl hm, fun _ hp => .inl hp⟩

theorem deleteLaneLinkNode (laneId : Nat) (s : LaneHub) : Under laneId s (s.deleteLaneLinkNode laneId) :=
  ⟨rfl, rfl, rfl, rfl, fun _ hq _ => hq, fun _ hm => .inl hm, fun _ hp => .inl hp⟩

theorem deleteRequestNode (laneId : Nat) (s : LaneHub) : Under laneId s (s.deleteRequestNode laneId) :=
  ⟨rfl, rfl, rfl, rfl, fun _ hq hne => (List.mem_eraseP_of_neg (by simpa using hne)).mpr hq, fun _ hm => .inl hm,
    fun _ hp => .inl hp⟩

theorem markFreed (laneId : Nat) (s : LaneHub) : Under laneId s (s.markFreed laneId) := by
  unfold LaneHub.markFreed
  split
  · exact ⟨rfl, rfl, rfl, rfl, fun _ hq _ => hq, fun _ hm => .inl hm, fun _ hp => .inl hp⟩
  · exact refl laneId s

theorem notifyLaneAllocFail (laneId owner : Nat) (s : LaneHub) :
    Under laneId s (s.notifyLaneAllocFail laneId owner) := by
  unfold LaneHub.notifyLaneAllocFail
  split
  · exact refl laneId s
  · exact (note laneId s _).trans (deleteRequestNode laneId _)

theorem buildLink (s : LaneHub) (p : PendingLink) (built : Bool) : Under p.laneId s (s.buildLink p built) := by
  unfold LaneHub.buildLink
  split
  · refine ⟨rfl, rfl, rfl, rfl, fun _ hq _ => hq, fun _ hm => .inl hm, fun x hx => ?_⟩
    rcases List.mem_append.mp hx with hx | hx
    · exact .inl hx
    · cases List.mem_singleton.mp hx
      exact .inr rfl
  · exact postMsg s ⟨p.laneId, p.owner, _⟩

theorem laneTriggerLink (laneId : Nat) (s : LaneHub) (arg2 : BitVec 64) (built : Bool) :
    Under laneId s (s.laneTriggerLink laneId arg2 built) := by
  unfold LaneHub.laneTriggerLink
  split
  · exact refl laneId s
  split
  · exact refl laneId s
  · refine trans ?_ (buildLink _ ⟨laneId, _, _⟩ built)
    exact (advance laneId s).trans (note laneId _ _)

theorem laneLinkFail (laneId owner : Nat) (s : LaneHub) (arg2 : BitVec 64) :
    Under laneId s (s.laneLinkFail laneId owner arg2) := by
  unfold LaneHub.laneLinkFail
  split
  · exact notifyLaneAllocFail laneId owner s
  split
  · exact (deleteLaneLinkNode laneId s).trans (notifyLaneAllocFail laneId owner _)
  · exact postMsg s ⟨laneId, _, _⟩

theorem alloc (s : LaneHub) (laneId : Nat) (option : TransOption) (linkList : List LaneLinkType) :
    Under laneId s (s.alloc laneId option linkList) := by
  unfold LaneHub.alloc
  split
  · exact refl laneId s
  · have hadded : Under laneId s (alloc.added s laneId option linkList) :=
      ⟨rfl, rfl, rfl, rfl, fun _ hq _ => List.mem_append_left _ hq, fun _ hm => .inl hm, fun _ hp => .inl hp⟩
    exact hadded.trans (postMsg _ ⟨laneId, _, _⟩)

end Under

end

/-! ## The resource list -/

section
variable {s : LaneHub} {users : List LaneKey}

theorem counts_add (key : LaneKey)
    (h : UseCount.Counts LaneResource.key LaneResource.laneRef s.laneResourceList users) :
    UseCount.Counts LaneResource.key LaneResource.laneRef (s.addLaneResourceItem key).laneResourceList (key :: users) := by
  unfold addLaneResourceItem
  split
  · rename_i r hr
    exact h.raise hr (fun _ => rfl) fun _ => rfl
  · rename_i hnone
    exact h.insert (x := ⟨key, 1⟩) hnone rfl

theorem counts_del {key : LaneKey}
    (h : UseCount.Counts LaneResource.key LaneResource.laneRef s.laneResourceList (key :: users)) :
    UseCount.Counts LaneResource.key LaneResource.laneRef (s.delLaneResourceItem key).laneResourceList users := by
  unfold delLaneResourceItem
  split
  · rename_i r hr
    split
    · rename_i hlast
      exact h.remove hr hlast
    · rename_i hmore
      exact h.lower hr hmore (fun _ => rfl) fun _ => rfl
  · rename_i hnone
    obtain ⟨r, hr, hkey⟩ := List.mem_map.mp ((h.mem key).mpr List.mem_cons_self)
    exact absurd hkey (by simpa using List.find?_eq_none.mp hnone r hr)

end

namespace RefInv

section
variable {s : LaneHub}

theorem init : RefInv {} := by
  refine ⟨rfl, List.nodup_nil, .nil, ?_, List.nodup_nil, ?_, ?_, ?_⟩
  all_goals simp

/-! ## The caller -/

theorem freeLaneLink_eq (s : LaneHub) (laneId : Nat) : ∃ laneIdBitmap, s.freeLaneLink laneId =
    { s.deleteRequestNode laneId with
      laneIdBitmap, linkInfoList := s.linkInfoList.filter (·.laneId ≠ laneId),
          lanes := s.lanes.filter (·.laneId ≠ laneId) } := by
  unfold freeLaneLink destroyLaneId
  split
  · exact ⟨_, rfl⟩
  · exact ⟨_, rfl⟩

theorem delLaneResourceItem_eq (s : LaneHub) (key : LaneKey) :
    s.delLaneResourceItem key = { s with laneResourceList := (s.delLaneResourceItem key).laneResourceList } := by
  unfold delLaneResourceItem
  split
  · split
    · rfl
    · rfl
  · rfl

theorem addLaneResourceItem_eq (s : LaneHub) (key : LaneKey) :
    s.addLaneResourceItem key = { s with laneResourceList := (s.addLaneResourceItem key).laneResourceList } := by
  unfold addLaneResourceItem
  split
  · rfl
  · rfl

theorem freeLaneLink (h : s.RefInv) {laneId : Nat} (hnone : ∀ info ∈ s.linkInfoList, info.laneId ≠ laneId) :
    (s.freeLaneLink laneId).RefInv := by
  obtain ⟨bitmap, heq⟩ := freeLaneLink_eq s laneId
  have hall : s.linkInfoList.filter (·.laneId ≠ laneId) = s.linkInfoList :=
    List.filter_eq_self.mpr fun info hinfo => by simpa using hnone info hinfo
  rw [heq, h.lanes_eq, hall]
  have hdel := h.under (Under.deleteRequestNode laneId s) hnone
  exact ⟨rfl, hdel.ids, hdel.counts, hdel.delayed, hdel.delayed_ids, hdel.held, hdel.pending, hdel.queue⟩

theorem destroy (h : s.RefInv) {info : LaneLinkInfo} (hinfo : info ∈ s.linkInfoList)
    (hdelayed : ∀ m ∈ s.delayed, m.laneId ≠ info.laneId) :
    ((s.delLaneResourceItem info.key).freeLaneLink info.laneId).RefInv := by
  have hperm := UseCount.perm_filter_ne h.ids hinfo
  have hcounts := counts_del (h.counts.perm (hperm.map _).symm)
  have hmem : ∀ x, x ∈ s.linkInfoList.filter (·.laneId ≠ info.laneId) ↔ x ∈ s.linkInfoList ∧ x.laneId ≠ info.laneId := by
    intro x
    simp
  obtain ⟨bitmap, heq⟩ := freeLaneLink_eq (s.delLaneResourceItem info.key) info.laneId
  rw [heq, delLaneResourceItem_eq]
  refine ⟨?_, ?_, hcounts, fun m hm => ?_, h.delayed_ids, fun x hx => ?_, fun x hx => ?_, fun x hx => ?_⟩
  · exact congrArg _ h.lanes_eq
  · exact (List.filter_sublist.map _).nodup h.ids
  · obtain ⟨x, hx, hid, hkey⟩ := h.delayed m hm
    exact ⟨x, (hmem x).mpr ⟨hx, hid ▸ hdelayed m hm⟩, hid, hkey⟩
  · obtain ⟨hx, hne⟩ := (hmem x).mp hx
    obtain ⟨q, hq, hid⟩ := h.held x hx
    exact ⟨q, (List.mem_eraseP_of_neg (by simpa [hid] using hne)).mpr hq, hid⟩
  · exact h.pending x ((hmem x).mp hx).1
  · exact h.queue x ((hmem x).mp hx).1

theorem markFreed (h : s.RefInv) (laneId : Nat) : (s.markFreed laneId).RefInv := by
  unfold LaneHub.markFreed
  split
  · exact ⟨h.lanes_eq, h.ids, h.counts, h.delayed, h.delayed_ids, h.held, h.pending, h.queue⟩
  · exact h

theorem startDelayDestroyLink (h : s.RefInv) {info : LaneLinkInfo} (hinfo : info ∈ s.linkInfoList)
    (hdelayed : ∀ m ∈ s.delayed, m.laneId ≠ info.laneId) : (s.startDelayDestroyLink info).RefInv := by
  refine ⟨h.lanes_eq, h.ids, h.counts, fun m hm => ?_, ?_, h.held, h.pending, h.queue⟩
  · rcases List.mem_append.mp hm with hm | hm
    · exact h.delayed m hm
    · cases List.mem_singleton.mp hm
      exact ⟨info, hinfo, rfl, rfl⟩
  · unfold LaneHub.startDelayDestroyLink
    rw [List.map_append, List.map_singleton]
    refine h.delayed_ids.append (List.nodup_singleton _) (List.disjoint_singleton.mpr fun hmem => ?_)
    obtain ⟨m, hm, hid⟩ := List.mem_map.mp hmem
    exact hdelayed m hm hid

theorem free (h : s.RefInv) {laneId : Nat} (hheld : s.HeldLane (.free laneId)) : (s.free laneId).RefInv := by
  have hmark := h.markFreed laneId
  have hu := Under.markFreed laneId s
  unfold LaneHub.free
  split
  · exact h
  split
  · rename_i hnone
    refine hmark.freeLaneLink ?_
    rw [hu.infos]
    exact fun info hinfo => by simpa using List.find?_eq_none.mp hnone info hinfo
  rename_i info hfind
  obtain ⟨hinfo, rfl⟩ := UseCount.find?_mem hfind
  have hinfo' : info ∈ (s.markFreed info.laneId).linkInfoList := hu.infos ▸ hinfo
  have hdelayed : ∀ m ∈ (s.markFreed info.laneId).delayed, m.laneId ≠ info.laneId := by
    rw [hu.delayed]
    exact hheld
  split
  · -- a linked lane has an entry
    rename_i hnone
    obtain ⟨r, hr, hkey⟩ := List.mem_map.mp ((h.counts.mem info.key).mpr (List.mem_map_of_mem hinfo))
    exact absurd hkey (by simpa using List.find?_eq_none.mp hnone r hr)
  split
  · exact hmark.startDelayDestroyLink hinfo' hdelayed
  · exact hmark.destroy hinfo' hdelayed

theorem allocLaneId (h : s.RefInv) : s.allocLaneId.1.RefInv := by
  unfold LaneHub.allocLaneId
  split
  · exact h
  · exact ⟨h.lanes_eq, h.ids, h.counts, h.delayed, h.delayed_ids, h.held, h.pending, h.queue⟩

theorem alloc (h : s.RefInv) {laneId : Nat} (option : TransOption) {linkList : List LaneLinkType}
    (hunused : linkList ≠ [] → s.Unused laneId) : (s.alloc laneId option linkList).RefInv := by
  by_cases hlinks : linkList = []
  · rw [LaneHub.alloc, if_pos hlinks]
    exact h
  · refine h.under (Under.alloc s laneId option linkList) fun info hinfo => ?_
    obtain ⟨q, hq, hid⟩ := h.held info hinfo
    exact hid ▸ (hunused hlinks).1 q hq

/-! ## The link -/

theorem callFail (h : s.RefInv) {n : Nat} {p : PendingLink} (hp : s.pending[n]? = some p) (body : LaneMsgBody) :
    ({ s with pending := s.pending.eraseIdx n }.postMsg ⟨p.laneId, p.owner, body⟩).RefInv := by
  have htaken : Under p.laneId s { s with pending := s.pending.eraseIdx n } :=
    ⟨rfl, rfl, rfl, rfl, fun _ hq _ => hq, fun _ hm => .inl hm, fun _ hx => .inl (List.mem_of_mem_eraseIdx hx)⟩
  exact h.under (htaken.trans (Under.postMsg _ ⟨p.laneId, p.owner, body⟩))
    fun info hinfo => (h.pending info hinfo p (List.mem_of_getElem? hp)).symm

theorem callSuccess (h : s.RefInv) (hinv : s.LaneInv) {n : Nat} {p : PendingLink} (hp : s.pending[n]? = some p)
    {key : LaneKey} (hconv : convertible key.type = true) (hfreed : p.owner ∉ s.freed) :
    ({ s with pending := s.pending.eraseIdx n }.linkSuccess p key).RefInv := by
  have hmem := List.mem_of_getElem? hp
  have htok : (p.laneId, p.owner) ∈ s.tokTags := List.mem_append_right _ (List.mem_map_of_mem hmem)
  obtain ⟨q, hq, htag⟩ := List.mem_map.mp ((hinv.ledger.held _ htok).resolve_right hfreed)
  have hid : q.laneId = p.laneId := congrArg Prod.fst htag
  obtain ⟨hqueue, hpending⟩ := hinv.other_token hp
  have hcounts := counts_add key
    (s := { s with pending := s.pending.eraseIdx n, linkInfoList := linkSuccess.info p key :: s.linkInfoList }) h.counts
  have hlinked : ∀ info ∈ s.linkInfoList, info.laneId ≠ p.laneId := fun info hinfo => (h.pending info hinfo p hmem).symm
  rw [linkSuccess, if_neg (by simp [hconv]), addLaneResourceItem_eq]
  refine ⟨?_, ?_, hcounts, fun m hm => ?_, h.delayed_ids, fun info hinfo => ?_, fun info hinfo x hx => ?_,
    fun info hinfo x hx hid' => ?_⟩
  · simp only [postMsg, if_neg hfreed, h.lanes_eq]
  · refine List.nodup_cons.mpr ⟨fun hmap => ?_, h.ids⟩
    obtain ⟨info, hinfo, heq⟩ := List.mem_map.mp hmap
    exact hlinked info hinfo heq
  · obtain ⟨info, hinfo, hrest⟩ := h.delayed m hm
    exact ⟨info, List.mem_cons_of_mem _ hinfo, hrest⟩
  · rcases List.mem_cons.mp hinfo with rfl | hinfo
    · exact ⟨q, hq, hid⟩
    · exact h.held info hinfo
  · rcases List.mem_cons.mp hinfo with rfl | hinfo
    · exact hpending x hx
    · exact h.pending info hinfo x (List.mem_of_mem_eraseIdx hx)
  · rcases List.mem_append.mp hx with hx | hx
    · rcases List.mem_cons.mp hinfo with rfl | hinfo
      · exact absurd hid' (hqueue x hx)
      · exact h.queue info hinfo x hx hid'
    · cases List.mem_singleton.mp hx
      exact ⟨_, rfl⟩

theorem callback (h : s.RefInv) (hinv : s.LaneInv) {n : Nat} {result : LinkResult}
    (hheld : s.HeldLane (.callback n result)) :
    (s.callback n result).RefInv := by
  unfold LaneHub.callback
  split
  · exact h
  rename_i p hp
  cases result with
  | fail reason => exact h.callFail hp (.linkFail _)
  | success key =>
    dsimp only
    by_cases hconv : convertible key.type = true
    · exact h.callSuccess hinv hp hconv (hheld hconv p hp)
    · rw [LaneHub.linkSuccess, if_pos (by simpa using hconv)]
      exact h.callFail hp (.linkFail _)

/-! ## The looper -/

theorem laneLinkSuccess (h : s.RefInv) {m : LaneMsg} {queue : List LaneMsg} (hq : s.queue = m :: queue)
    (info : LaneLinkInfo) :
    ({ s with queue }.laneLinkSuccess m.laneId m.owner info).RefInv := by
  have htaken : RefInv { s with queue } :=
    ⟨h.lanes_eq, h.ids, h.counts, h.delayed, h.delayed_ids, h.held, h.pending,
      fun i hi x hx => h.queue i hi x (LaneInv.mem_queue hq x hx)⟩
  unfold LaneHub.laneLinkSuccess LaneHub.notifyLaneAllocSuccess
  repeat' split
  all_goals
    exact ⟨htaken.lanes_eq, htaken.ids, htaken.counts, htaken.delayed, htaken.delayed_ids, htaken.held, htaken.pending,
      htaken.queue⟩

theorem loop (h : s.RefInv) (built : Bool) : (s.loop built).RefInv := by
  unfold LaneHub.loop
  split
  · exact h
  rename_i m queue hq
  have hhead : m ∈ s.queue := by
    rw [hq]
    exact List.mem_cons_self
  have htaken : Under m.laneId s { s with queue } :=
    ⟨rfl, rfl, rfl, rfl, fun _ hr _ => hr, fun x hx => .inl (LaneInv.mem_queue hq x hx), fun _ hp => .inl hp⟩
  unfold LaneHub.handle
  split
  · rename_i arg2 hbody
    refine h.under (htaken.trans (Under.laneTriggerLink m.laneId _ arg2 built)) fun info hinfo hid => ?_
    obtain ⟨info', hbody'⟩ := h.queue info hinfo m hhead hid.symm
    exact absurd (hbody.symm.trans hbody') (by simp)
  · exact h.laneLinkSuccess hq _
  · rename_i arg2 hbody
    refine h.under (htaken.trans (Under.laneLinkFail m.laneId m.owner _ arg2)) fun info hinfo hid => ?_
    obtain ⟨info', hbody'⟩ := h.queue info hinfo m hhead hid.symm
    exact absurd (hbody.symm.trans hbody') (by simp)

theorem handleDelayDestroyLink (h : s.RefInv) : s.handleDelayDestroyLink.RefInv := by
  unfold LaneHub.handleDelayDestroyLink
  split
  · exact h
  rename_i m delayed hd
  have hids := h.delayed_ids
  rw [hd, List.map_cons, List.nodup_cons] at hids
  have htail : RefInv { s with delayed } :=
    ⟨h.lanes_eq, h.ids, h.counts, fun x hx => h.delayed x (by rw [hd]; exact List.mem_cons_of_mem m hx), hids.2, h.held,
      h.pending, h.queue⟩
  have hnoted : (handleDelayDestroyLink.noteDestroyed { s with delayed } m).RefInv ∧
      (handleDelayDestroyLink.noteDestroyed { s with delayed } m).linkInfoList = s.linkInfoList ∧
      (handleDelayDestroyLink.noteDestroyed { s with delayed } m).delayed = delayed := by
    unfold handleDelayDestroyLink.noteDestroyed
    split
    · exact ⟨⟨htail.lanes_eq, htail.ids, htail.counts, htail.delayed, htail.delayed_ids, htail.held, htail.pending,
        htail.queue⟩, rfl, rfl⟩
    · exact ⟨htail, rfl, rfl⟩
  obtain ⟨hnoted, hinfos, hdelayed⟩ := hnoted
  obtain ⟨info, hinfo, hid, hkey⟩ := h.delayed m (by rw [hd]; exact List.mem_cons_self)
  rw [← hid, ← hkey]
  refine hnoted.destroy (by rw [hinfos]; exact hinfo) fun x hx heq => hids.1 ?_
  rw [hdelayed] at hx
  rw [← hid, ← heq]
  exact List.mem_map_of_mem hx

theorem next (h : s.RefInv) (hinv : s.LaneInv) {e : LaneEvent} (hfresh : s.FreshId e) (hheld : s.HeldLane e) :
    (s.next e).RefInv := by
  cases e with
  | applyLaneId => exact h.allocLaneId
  | alloc laneId option linkList => exact h.alloc option hfresh
  | free laneId => exact h.free hheld
  | callback n result => exact h.callback hinv hheld
  | loop built => exact h.loop built
  | delayDestroy => exact h.handleDelayDestroyLink

end

end RefInv

/-- In a run that never asks for a lane under an id that something is left of, where no link succeeds after
its lane was freed and no lane is freed while its destruction is delayed, the references are counted. -/
theorem lane_refs_counted {events : List LaneEvent}
    (hrun : Run.Always next (fun s e => s.FreshId e ∧ s.HeldLane e) {} events) : (Run.final next {} events).Counted := by
  have hinv := Run.inv_final (I := fun s => s.LaneInv ∧ s.RefInv)
    (fun s e hs he => ⟨hs.1.next he.1, hs.2.next hs.1 he.1 he.2⟩) events ⟨.init, .init⟩ hrun
  exact hinv.2.counted

def sharedLinkRun : List LaneEvent :=
  [.applyLaneId, .alloc 0x10000001 (laneOption [1]) [.hml], .applyLaneId, .alloc 0x10000002 (laneOption [1]) [.hml],
    .loop true, .loop true, .callback 0 (.success (hmlKey [1])), .callback 0 (.success (hmlKey [1])), .loop true, .loop true,
    .free 0x10000001, .free 0x10000002]

theorem lane_refs_counted_shared_link :
    (Run.final next {} sharedLinkRun).laneResourceList = [⟨hmlKey [1], 1⟩] ∧ (Run.final next {} sharedLinkRun).Counted :=
  ⟨by decide +kernel, lane_refs_counted (by decide +kernel)⟩

def linkedLateRun : List LaneEvent :=
  [.applyLaneId, .alloc 0x10000001 (laneOption [1]) [.wlan5g], .loop true, .free 0x10000001,
    .callback 0 (.success (wlanKey [1])), .loop true]

def releasedTwiceRun : List LaneEvent :=
  hmlFreedRun ++ [.applyLaneId, .alloc 0x10000002 (laneOption [1]) [.hml], .loop true, .callback 0 (.success (hmlKey [1])),
    .loop true, .free 0x10000001, .delayDestroy]

theorem lane_refs_not_counted :
    ((Run.final next {} linkedLateRun).laneResourceList = [⟨wlanKey [1], 1⟩] ∧ (Run.final next {} linkedLateRun).lanes = [] ∧
      ¬ (Run.final next {} linkedLateRun).Counted) ∧
    ((Run.final next {} releasedTwiceRun).laneResourceList = [] ∧
      (Run.final next {} releasedTwiceRun).lanes.map (·.key) = [hmlKey [1]] ∧
          ¬ (Run.final next {} releasedTwiceRun).Counted) := by
  have hlate : (Run.final next {} linkedLateRun).laneResourceList = [⟨wlanKey [1], 1⟩] := by decide +kernel
  have hnone : (Run.final next {} linkedLateRun).lanes = [] := by decide +kernel
  have htwice : (Run.final next {} releasedTwiceRun).laneResourceList = [] := by decide +kernel
  have hone : (Run.final next {} releasedTwiceRun).lanes.map (·.key) = [hmlKey [1]] := by decide +kernel
  refine ⟨⟨hlate, hnone, fun hc => ?_⟩, htwice, hone, fun hc => ?_⟩
  · have hentry := (hc.2 (wlanKey [1])).mp ⟨_, by rw [hlate]; exact List.mem_cons_self, rfl⟩
    rw [hnone] at hentry
    simp at hentry
  · have hlane : hmlKey [1] ∈ (Run.final next {} releasedTwiceRun).lanes.map (·.key) := by
      rw [hone]
      exact List.mem_cons_self
    have hentry := (hc.2 (hmlKey [1])).mpr (List.mem_map.mp hlane)
    rw [htwice] at hentry
    simp at hentry

end LaneHub

end SoftBus
