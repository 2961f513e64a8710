import SoftBus.LaneAnswer

/-!
# Lanes under ids that are used again

What is done under a lane id is done for the request that is found there: its answer
comes from a link that was built for it, the links that are tried are its own, and no
late message of another lane frees it.
-/

namespace SoftBus

def TransOption.linkRequest (option : TransOption) (linkType : LaneLinkType) : LinkRequest :=
  { peerNetworkId := option.networkId, networkDelegate := option.networkDelegate, p2pOnly := option.p2pOnly, linkType
    acceptableProtocols := option.acceptableProtocols, pid := option.pid, transType := option.transType
    peerBleMac := option.peerBleMac, psm := option.psm }

def MadeFor (asked : List (TransOption × List LaneLinkType)) (r : Nat) (request : LinkRequest) : Prop :=
  ∃ a ∈ asked[r]?, request.linkType ∈ a.2 ∧ request = a.1.linkRequest request.linkType

instance (asked : List (TransOption × List LaneLinkType)) (r : Nat) (request : LinkRequest) :
    Decidable (MadeFor asked r request) := inferInstanceAs (Decidable (∃ a ∈ asked[r]?, _))

def LaneLog.Own (asked : List (TransOption × List LaneLinkType)) : LaneLog → Prop
  | .built holder _ request => ∀ r ∈ holder, MadeFor asked r request
  | .success holder _ origin => MadeFor asked holder origin
  | .fail holder owner => holder = owner
  | .destroyed holder owner => holder = owner

instance (asked : List (TransOption × List LaneLinkType)) : (e : LaneLog) → Decidable (e.Own asked)
  | .built holder _ request => inferInstanceAs (Decidable (∀ r ∈ holder, MadeFor asked r request))
  | .success holder _ origin => inferInstanceAs (Decidable (MadeFor asked holder origin))
  | .fail holder owner => inferInstanceAs (Decidable (holder = owner))
  | .destroyed holder owner => inferInstanceAs (Decidable (holder = owner))

def LaneMsgBody.Retries (protocols : BitVec 32) : LaneMsgBody → Prop
  | .linkFail arg2 => LaneHub.retryProtocols arg2 = protocols
  | _ => True

instance (protocols : BitVec 32) : (body : LaneMsgBody) → Decidable (body.Retries protocols)
  | .linkFail arg2 => inferInstanceAs (Decidable (LaneHub.retryProtocols arg2 = protocols))
  | .triggerLink _ => .isTrue trivial
  | .linkSuccess _ => .isTrue trivial

namespace LaneHub

/-- The next try after a failed link has the protocols of the request. -/
def OwnProtocols (s : LaneHub) : LaneEvent → Prop
  | .loop _ => ∀ m ∈ s.queue.head?, ∀ n ∈ s.getLaneLinkNode m.laneId, n.linkRetryIdx < n.linkList.length →
      ∀ q ∈ s.getLaneReqInfo m.laneId, m.body.Retries q.info.acceptableProtocols
  | _ => True

instance (s : LaneHub) : (e : LaneEvent) → Decidable (s.OwnProtocols e)
  | .loop _ => inferInstanceAs (Decidable (∀ m ∈ s.queue.head?, _))
  | .applyLaneId => .isTrue trivial
  | .alloc _ _ _ => .isTrue trivial
  | .free _ => .isTrue trivial
  | .callback _ _ => .isTrue trivial
  | .delayDestroy => .isTrue trivial

structure Isolated (s : LaneHub) : Prop where
  log : ∀ e ∈ s.log, e.Own s.asked
  req : ∀ q ∈ s.requestList, ∃ a ∈ s.asked[q.owner]?, a.1 = q.info
  node : ∀ n ∈ s.multiLinkList, ∃ a ∈ s.asked[n.owner]?, a.2 = n.linkList ∧
    ∀ linkType, linkRequest n linkType a.1.acceptableProtocols = a.1.linkRequest linkType
  trigger : ∀ m ∈ s.queue, ∀ arg2, m.body = .triggerLink arg2 → ∀ q ∈ s.requestList, q.laneId = m.laneId →
    arg2.setWidth 32 = q.info.acceptableProtocols
  linked : ∀ m ∈ s.queue, ∀ info, m.body = .linkSuccess info → ∀ q ∈ s.requestList, q.laneId = m.laneId →
    MadeFor s.asked q.owner info.origin
  pending : ∀ p ∈ s.pending, ∀ q ∈ s.requestList, q.laneId = p.laneId → MadeFor s.asked q.owner p.request

namespace Isolated

section
variable {s s' : LaneHub} {asked more : List (TransOption × List LaneLinkType)}

theorem init : Isolated {} := by
  constructor <;> simp

theorem beside (h : s.Isolated) (hb : Beside s s') : s'.Isolated := by
  obtain ⟨bitmap, infos, resources, lanes, rfl⟩ := hb
  exact ⟨h.log, h.req, h.node, h.trigger, h.linked, h.pending⟩

theorem mono (h : s.Isolated) (hreq : ∀ q ∈ s'.requestList, q ∈ s.requestList)
    (hnode : ∀ n ∈ s'.multiLinkList, n ∈ s.multiLinkList) (hqueue : ∀ m ∈ s'.queue, m ∈ s.queue)
    (hpending : ∀ p ∈ s'.pending, p ∈ s.pending) (hasked : s'.asked = s.asked) (hlog : s'.log = s.log) : s'.Isolated := by
  refine ⟨?_, ?_, ?_, ?_, ?_, ?_⟩
  · rw [hlog, hasked]
    exact h.log
  · rw [hasked]
    exact fun q hq => h.req q (hreq q hq)
  · rw [hasked]
    exact fun n hn => h.node n (hnode n hn)
  · exact fun m hm arg2 hbody q hq => h.trigger m (hqueue m hm) arg2 hbody q (hreq q hq)
  · rw [hasked]
    exact fun m hm info hbody q hq => h.linked m (hqueue m hm) info hbody q (hreq q hq)
  · rw [hasked]
    exact fun p hp q hq => h.pending p (hpending p hp) q (hreq q hq)

theorem note (h : s.Isolated) {e : LaneLog} (he : e.Own s.asked) : (s.note e).Isolated := by
  refine ⟨fun x hx => ?_, h.req, h.node, h.trigger, h.linked, h.pending⟩
  rcases List.mem_append.mp hx with hx | hx
  · exact h.log x hx
  · cases List.mem_singleton.mp hx
    exact he

theorem postMsg (h : s.Isolated) {m : LaneMsg}
    (htrigger : ∀ arg2, m.body = .triggerLink arg2 → ∀ q ∈ s.requestList, q.laneId = m.laneId →
      arg2.setWidth 32 = q.info.acceptableProtocols)
    (hlinked : ∀ info, m.body = .linkSuccess info → ∀ q ∈ s.requestList, q.laneId = m.laneId →
      MadeFor s.asked q.owner info.origin) : (s.postMsg m).Isolated :=
  ⟨h.log, h.req, h.node, forall_mem_postMsg h.trigger htrigger, forall_mem_postMsg h.linked hlinked, h.pending⟩

theorem advance (h : s.Isolated) (laneId : Nat) : (s.advance laneId).Isolated := by
  refine ⟨h.log, h.req, fun n hn => ?_, h.trigger, h.linked, h.pending⟩
  rcases FirstMatch.mem_modify hn with hn | ⟨n', hn', _, rfl⟩
  · exact h.node n hn
  · exact h.node n' hn'

theorem deleteRequestNode (h : s.Isolated) (laneId : Nat) : (s.deleteRequestNode laneId).Isolated :=
  h.mono (fun _ hq => List.mem_of_mem_eraseP hq) (fun _ hn => hn) (fun _ hm => hm) (fun _ hp => hp) rfl rfl

theorem deleteLaneLinkNode (h : s.Isolated) (laneId : Nat) : (s.deleteLaneLinkNode laneId).Isolated :=
  h.mono (fun _ hq => hq) (fun _ hn => List.mem_of_mem_eraseP hn) (fun _ hm => hm) (fun _ hp => hp) rfl rfl

theorem freeLaneLink (h : s.Isolated) (laneId : Nat) : (s.freeLaneLink laneId).Isolated :=
  (h.deleteRequestNode laneId).beside (beside_freeLaneLink s laneId)

theorem markFreed (h : s.Isolated) (laneId : Nat) : (s.markFreed laneId).Isolated := by
  unfold LaneHub.markFreed
  split
  · exact ⟨h.log, h.req, h.node, h.trigger, h.linked, h.pending⟩
  · exact h

theorem free (h : s.Isolated) (laneId : Nat) : (s.free laneId).Isolated := by
  have hfree := (h.markFreed laneId).freeLaneLink laneId
  unfold LaneHub.free
  split
  · exact h
  split
  · exact hfree
  split
  · exact hfree
  split
  · have hmark := h.markFreed laneId
    exact ⟨hmark.log, hmark.req, hmark.node, hmark.trigger, hmark.linked, hmark.pending⟩
  · exact ((h.markFreed laneId).beside (beside_delLaneResourceItem _ _)).freeLaneLink laneId

/-! ## A new request -/

theorem mem_append_asked {r : Nat} {a : TransOption × List LaneLinkType} (h : a ∈ asked[r]?) :
    a ∈ (asked ++ more)[r]? := by
  obtain ⟨hlt, _⟩ := List.getElem?_eq_some_iff.mp h
  rw [List.getElem?_append_left hlt]
  exact h

theorem madeFor_append {r : Nat} {request : LinkRequest} (h : MadeFor asked r request) :
    MadeFor (asked ++ more) r request := by
  obtain ⟨a, ha, hrest⟩ := h
  exact ⟨a, mem_append_asked ha, hrest⟩

theorem own_append {e : LaneLog} (h : e.Own asked) : e.Own (asked ++ more) := by
  cases e with
  | built holder owner request => exact fun r hr => madeFor_append (h r hr)
  | success holder owner origin => exact madeFor_append h
  | fail holder owner => exact h
  | destroyed holder owner => exact h

theorem alloc (h : s.Isolated) {laneId : Nat} (option : TransOption) {linkList : List LaneLinkType}
    (hunused : linkList ≠ [] → s.Unused laneId) : (s.alloc laneId option linkList).Isolated := by
  unfold LaneHub.alloc
  split
  · exact h
  rename_i hlinks
  obtain ⟨hreq, hnode, hqueue, hpending, -⟩ := hunused hlinks
  have hself : (option, linkList) ∈ (s.asked ++ [(option, linkList)])[s.asked.length]? := by simp
  -- nothing on its way is for the new request
  have hold : ∀ q ∈ (alloc.added s laneId option linkList).requestList, q.laneId ≠ laneId → q ∈ s.requestList := by
    intro q hq hne
    rcases List.mem_append.mp hq with hq | hq
    · exact hq
    · cases List.mem_singleton.mp hq
      exact absurd rfl hne
  have hadded : (alloc.added s laneId option linkList).Isolated := by
    refine ⟨fun e he => own_append (h.log e he), fun q hq => ?_, fun n hn => ?_, fun m hm arg2 hbody q hq hid => ?_,
      fun m hm info hbody q hq hid => ?_, fun p hp q hq hid => ?_⟩
    · rcases List.mem_append.mp hq with hq | hq
      · obtain ⟨a, ha, heq⟩ := h.req q hq
        exact ⟨a, mem_append_asked ha, heq⟩
      · cases List.mem_singleton.mp hq
        exact ⟨_, hself, rfl⟩
    · rcases List.mem_append.mp hn with hn | hn
      · obtain ⟨a, ha, hrest⟩ := h.node n hn
        exact ⟨a, mem_append_asked ha, hrest⟩
      · cases List.mem_singleton.mp hn
        exact ⟨_, hself, rfl, fun _ => rfl⟩
    · exact h.trigger m hm arg2 hbody q (hold q hq (hid ▸ hqueue m hm)) hid
    · exact madeFor_append (h.linked m hm info hbody q (hold q hq (hid ▸ hqueue m hm)) hid)
    · exact madeFor_append (h.pending p hp q (hold q hq (hid ▸ hpending p hp)) hid)
  refine hadded.postMsg (fun arg2 hbody q hq hid => ?_) fun info hbody => absurd hbody (by simp)
  cases hbody
  rcases List.mem_append.mp hq with hq | hq
  · exact absurd hid (hreq q hq)
  · cases List.mem_singleton.mp hq
    simp

/-! ## The link and the looper -/

theorem callback (h : s.Isolated) (n : Nat) (result : LinkResult) : (s.callback n result).Isolated := by
  unfold LaneHub.callback
  split
  · exact h
  rename_i p hp
  have hleft : Isolated { s with pending := s.pending.eraseIdx n } :=
    h.mono (fun _ hq => hq) (fun _ hn => hn) (fun _ hm => hm) (fun _ hp' => List.mem_of_mem_eraseIdx hp') rfl rfl
  cases result with
  | fail reason => exact hleft.postMsg (fun arg2 hbody => absurd hbody (by simp)) fun info hbody => absurd hbody (by simp)
  | success key =>
    dsimp only
    by_cases hconv : convertible key.type = true
    · refine Isolated.beside ?_ (beside_linkSuccess _ p hconv)
      refine hleft.postMsg (fun arg2 hbody => absurd hbody (by simp)) fun info hbody q hq hid => ?_
      cases hbody
      exact h.pending p (List.mem_of_getElem? hp) q hq hid
    · rw [LaneHub.linkSuccess, if_pos (by simpa using hconv)]
      exact hleft.postMsg (fun arg2 hbody => absurd hbody (by simp)) fun info hbody => absurd hbody (by simp)

theorem madeFor_node (h : s.Isolated) (hinv : s.LaneInv) {n : LaneLinkNodeInfo} {q : TransReqInfo}
    (hn : n ∈ s.multiLinkList)
    (hq : q ∈ s.requestList) (hid : q.laneId = n.laneId) {linkType : LaneLinkType} (hlink : linkType ∈ n.linkList) :
    MadeFor s.asked q.owner (linkRequest n linkType q.info.acceptableProtocols) := by
  obtain ⟨a, ha, hinfo⟩ := h.req q hq
  obtain ⟨b, hb, hlist, hmade⟩ := h.node n hn
  rw [← hinv.node_req_owner_eq hn hq hid] at hb
  cases Option.mem_unique ha hb
  refine ⟨a, ha, ?_, ?_⟩
  · rw [hlist]
    exact hlink
  · rw [← hinfo]
    exact hmade linkType

end

section
variable {s : LaneHub} (h : s.Isolated) (hinv : s.LaneInv) {m : LaneMsg} {queue : List LaneMsg}
  (hq : s.queue = m :: queue)
include h hinv hq

omit hinv in
theorem taken : Isolated { s with queue } :=
  h.mono (fun _ hr => hr) (fun _ hn => hn) (LaneInv.mem_queue hq) (fun _ hp => hp) rfl rfl

theorem laneTriggerLink {arg2 : BitVec 64} (hbody : m.body = .triggerLink arg2) (built : Bool) :
    ({ s with queue }.laneTriggerLink m.laneId arg2 built).Isolated := by
  obtain ⟨n, linkType, hfind, hlink, hn, hid, hown⟩ := hinv.trigger_node hq (by simp [hbody, LaneMsgBody.isTrigger])
  have htaken := h.taken hq
  have hmade : ∀ q ∈ s.requestList, q.laneId = m.laneId →
      MadeFor s.asked q.owner (linkRequest n linkType (arg2.setWidth 32)) := by
    intro q hreq hid'
    rw [h.trigger m (by rw [hq]; exact List.mem_cons_self) arg2 hbody q hreq hid']
    exact h.madeFor_node hinv hn hreq (hid'.trans hid.symm) (List.mem_of_getElem? hlink)
  simp only [LaneHub.laneTriggerLink, hfind, hlink]
  have hnoted : ((LaneHub.advance { s with queue } m.laneId).note (.built
      ((s.getLaneReqInfo m.laneId).map fun q => q.owner) n.owner (linkRequest n linkType (arg2.setWidth 32)))).Isolated := by
    refine (htaken.advance m.laneId).note fun r hr => ?_
    obtain ⟨q, hfind', rfl⟩ := Option.map_eq_some_iff.mp hr
    obtain ⟨hreq, hid'⟩ := getLaneReqInfo_spec hfind'
    exact hmade q hreq hid'
  unfold buildLink
  split
  · refine ⟨hnoted.log, hnoted.req, hnoted.node, hnoted.trigger, hnoted.linked, fun p hp q hreq hid' => ?_⟩
    rcases List.mem_append.mp hp with hp | hp
    · exact hnoted.pending p hp q hreq hid'
    · cases List.mem_singleton.mp hp
      exact hmade q hreq hid'
  · exact hnoted.postMsg (fun _ hbody => absurd hbody (by simp)) fun _ hbody => absurd hbody (by simp)

omit hinv in
theorem laneLinkSuccess {info : LaneLinkInfo} (hbody : m.body = .linkSuccess info) :
    ({ s with queue }.laneLinkSuccess m.laneId m.owner info).Isolated := by
  have hdel := (h.taken hq).deleteLaneLinkNode m.laneId
  unfold LaneHub.laneLinkSuccess LaneHub.notifyLaneAllocSuccess
  split
  · exact hdel
  rename_i q hfind
  obtain ⟨hreq, hid⟩ := getLaneReqInfo_spec hfind
  split
  · exact hdel.note (h.linked m (by rw [hq]; exact List.mem_cons_self) info hbody q hreq hid)
  · exact hdel

omit h in
theorem notifyLaneAllocFail {s' : LaneHub} (h' : s'.Isolated) (hsame : s'.requestList = s.requestList) :
    (s'.notifyLaneAllocFail m.laneId m.owner).Isolated := by
  unfold LaneHub.notifyLaneAllocFail
  split
  · exact h'
  rename_i q hfind
  obtain ⟨hreq, hid⟩ := getLaneReqInfo_spec hfind
  refine (h'.note ?_).deleteRequestNode m.laneId
  exact hinv.req_owner_eq (hsame ▸ hreq) (LaneInv.mem_tokTags_head hq) hid

theorem laneLinkFail {arg2 : BitVec 64} (hbody : m.body = .linkFail arg2) {built : Bool}
    (hown : s.OwnProtocols (.loop built)) :
    ({ s with queue }.laneLinkFail m.laneId m.owner arg2).Isolated := by
  have htaken := h.taken hq
  unfold LaneHub.laneLinkFail
  split
  · exact htaken.notifyLaneAllocFail hinv hq rfl
  rename_i n hfind
  split
  · exact (htaken.deleteLaneLinkNode m.laneId).notifyLaneAllocFail hinv hq rfl
  rename_i hlt
  refine htaken.postMsg (fun arg2' hbody' q hreq hid => ?_) fun info hbody' => absurd hbody' (by simp)
  cases hbody'
  cases hfind' : s.getLaneReqInfo m.laneId with
  | none => exact absurd hid (getLaneReqInfo_none hfind' q hreq)
  | some q' =>
    have hprot := hown m (by simp [hq]) n hfind (by omega) q' hfind'
    rw [hbody] at hprot
    obtain ⟨hreq', hid'⟩ := getLaneReqInfo_spec hfind'
    have howner := hinv.owner_eq hreq hreq' (hid.trans hid'.symm)
    obtain ⟨a, ha, hinfo⟩ := h.req q hreq
    obtain ⟨b, hb, hinfo'⟩ := h.req q' hreq'
    rw [howner] at ha
    cases Option.mem_unique ha hb
    rw [← hinfo, hinfo', ← show retryProtocols arg2 = q'.info.acceptableProtocols from hprot]
    simp

end

section
variable {s : LaneHub}

theorem loop (h : s.Isolated) (hinv : s.LaneInv) {built : Bool} (hown : s.OwnProtocols (.loop built)) :
    (s.loop built).Isolated := by
  unfold LaneHub.loop
  split
  · exact h
  rename_i m queue hq
  unfold LaneHub.handle
  split
  · rename_i arg2 hbody
    exact h.laneTriggerLink hinv hq hbody built
  · rename_i info hbody
    exact h.laneLinkSuccess hq hbody
  · rename_i arg2 hbody
    exact h.laneLinkFail hinv hq hbody hown

theorem handleDelayDestroyLink (h : s.Isolated) (hinv : s.LaneInv) : s.handleDelayDestroyLink.Isolated := by
  unfold LaneHub.handleDelayDestroyLink
  split
  · exact h
  rename_i m delayed hd
  have htail : Isolated { s with delayed } := ⟨h.log, h.req, h.node, h.trigger, h.linked, h.pending⟩
  have hnoted : (handleDelayDestroyLink.noteDestroyed { s with delayed } m).Isolated := by
    unfold handleDelayDestroyLink.noteDestroyed
    split
    · rename_i q hfind
      obtain ⟨hreq, hid⟩ := getLaneReqInfo_spec hfind
      exact htail.note (hinv.delayed m (by rw [hd]; exact List.mem_cons_self) q hreq hid).1
    · exact htail
  exact (hnoted.beside (beside_delLaneResourceItem _ m.key)).freeLaneLink m.laneId

theorem next (h : s.Isolated) (hinv : s.LaneInv) {e : LaneEvent} (hfresh : s.FreshId e) (hown : s.OwnProtocols e) :
    (s.next e).Isolated := by
  cases e with
  | applyLaneId => exact h.beside (beside_allocLaneId s)
  | alloc laneId option linkList => exact h.alloc option hfresh
  | free laneId => exact h.free laneId
  | callback n result => exact h.callback n result
  | loop built => exact h.loop hinv hown
  | delayDestroy => exact h.handleDelayDestroyLink hinv

end

end Isolated

/-- In a run that never asks for a lane under an id that something is left of, and where the tries after
a failed link have the protocols of the request, all that is done under an id is done for the request there. -/
theorem lane_isolated {events : List LaneEvent}
    (hrun : Run.Always next (fun s e => s.FreshId e ∧ s.OwnProtocols e) {} events) :
    ∀ e ∈ (Run.final next {} events).log, e.Own (Run.final next {} events).asked := by
  have hinv := Run.inv_final (I := fun s => s.LaneInv ∧ s.Isolated)
    (fun s e hs he => ⟨hs.1.next he.1, hs.2.next hs.1 he.1 he.2⟩) events ⟨.init, .init⟩ hrun
  exact hinv.2.log

def hmlKey (addr : List UInt8) : LaneKey := ⟨.hml, addr, by simp⟩

def hmlFreedRun : List LaneEvent :=
  [.applyLaneId, .alloc 0x10000001 (laneOption [1]) [.hml], .loop true, .callback 0 (.success (hmlKey [1])), .loop true,
    .free 0x10000001]

def destroyedFirstRun : List LaneEvent :=
  hmlFreedRun ++ [.delayDestroy, .applyLaneId, .alloc 0x10000001 (laneOption [2]) [.p2p, .wlan5g], .loop false, .loop true,
    .loop true, .callback 0 (.success (wlanKey [2])), .loop true]

theorem lane_isolated_destroyed_first :
    (Run.final next {} destroyedFirstRun).log.length = 6 ∧
    ∀ e ∈ (Run.final next {} destroyedFirstRun).log, e.Own (Run.final next {} destroyedFirstRun).asked :=
  ⟨by decide +kernel, lane_isolated (by decide +kernel)⟩

def Strays (events : List LaneEvent) (e : LaneLog) : Prop :=
  e ∈ (Run.final next {} events).log ∧ ¬ e.Own (Run.final next {} events).asked

instance (events : List LaneEvent) (e : LaneLog) : Decidable (Strays events e) := inferInstanceAs (Decidable (_ ∧ _))

def freedTwiceRun : List LaneEvent :=
  hmlFreedRun ++ [.free 0x10000001, .delayDestroy, .applyLaneId, .alloc 0x10000001 (laneOption [2]) [.br], .delayDestroy]

def reasonRun : List LaneEvent :=
  [.applyLaneId, .alloc 0x10000001 (laneOption [1]) [.p2p, .wlan5g], .loop true, .callback 0 (.fail 5), .loop true, .loop true]

/-- The answer of a link to the first peer, a link to it from the first list, a late message, and the
reason of a failure. -/
theorem lane_strays :
    Strays reusedIdRun (.success 1 0 ((laneOption [1]).linkRequest .p2p)) ∧
    Strays reusedIdRun (.built (some 1) 0 ((laneOption [1]).linkRequest .wlan5g)) ∧
    Strays freedTwiceRun (.destroyed 1 0) ∧
    Strays reasonRun (.built (some 0) 0 { (laneOption [1]).linkRequest .wlan5g with acceptableProtocols := 5 }) := by
  decide +kernel

end LaneHub

end SoftBus
