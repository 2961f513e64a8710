import SoftBus.LaneAnswer

/-!
# The links of a lane request

One request of `lnn_trans_lane.c` that nobody frees: `LaneTriggerLink` tries a link, and the message of its failure
leads to the next one. `arg2` of the messages has the protocols, or the reason of a failure. The hub does the same with
the request, and does not keep the reasons.
-/

namespace SoftBus

inductive LinkOutcome where
  | success
  -- `BuildLink` returns an error
  | refused (ret : BitVec 32)
  -- `LinkFail` is called later
  | failed (reason : BitVec 32)
deriving DecidableEq, Repr

def LinkOutcome.reason : LinkOutcome → Option (BitVec 32)
  | .success => none
  | .refused ret => some ret
  | .failed reason => some reason

inductive RetryMsg where
  | triggerLink (arg2 : BitVec 64)
  | linkSuccess
  | linkFail (arg2 : BitVec 64)
deriving DecidableEq, Repr

inductive RetryResult where
  | success
  | fail (reason : BitVec 32)
deriving DecidableEq, Repr

structure LaneRetry where
  linkList : List LaneLinkType
  linkRetryIdx : Nat := 0
  p2pErrCode : BitVec 32 := 0
  msg : Option RetryMsg
  -- the calls of `BuildLink`, and the call of the listener
  tried : List (LaneLinkType × BitVec 32) := []
  result : Option RetryResult := none
deriving DecidableEq

namespace LaneRetry

/-- `SOFTBUS_ERR` -/
def err : BitVec 32 := -426442708

def isDirectReason (reason : BitVec 32) : Bool :=
  (-206999 ≤ reason.toInt && reason.toInt ≤ -204000) || (-401030 ≤ reason.toInt && reason.toInt ≤ -401000)

def triggerLink (acceptableProtocols : BitVec 32) (linkList : List LaneLinkType) : LaneRetry :=
  { linkList, msg := some (.triggerLink (acceptableProtocols.setWidth 64)) }

def laneTriggerLink (outcome : Nat → LinkOutcome) (s : LaneRetry) (arg2 : BitVec 64) : LaneRetry :=
  match s.linkList[s.linkRetryIdx]? with
  | none => { s with msg := none }
  | some linkType =>
    let s' := { s with linkRetryIdx := s.linkRetryIdx + 1, tried := s.tried ++ [(linkType, arg2.setWidth 32)] }
    match outcome s.linkRetryIdx with
    | .success => { s' with msg := some .linkSuccess }
    | .refused _ => { s' with msg := some (.linkFail ((arg2.setWidth 32).setWidth 64)) }
    | .failed reason => { s' with msg := some (.linkFail (reason.signExtend 64)) }

/-- `reason` is never taken from the message. -/
def laneLinkFail (s : LaneRetry) (arg2 : BitVec 64) : LaneRetry :=
  let reason := err
  let s := if isDirectReason reason then { s with p2pErrCode := reason } else s
  if s.linkList.length ≤ s.linkRetryIdx then
    { s with msg := none, result := some (.fail (if s.p2pErrCode ≠ 0 then s.p2pErrCode else reason)) }
  else { s with msg := some (.triggerLink ((LaneHub.retryProtocols arg2).setWidth 64)) }

def turn (outcome : Nat → LinkOutcome) (s : LaneRetry) : LaneRetry :=
  match s.msg with
  | none => s
  | some (.triggerLink arg2) => laneTriggerLink outcome s arg2
  | some .linkSuccess => { s with msg := none, result := some .success }
  | some (.linkFail arg2) => laneLinkFail s arg2

def turns (outcome : Nat → LinkOutcome) : Nat → LaneRetry → LaneRetry
  | 0, s => s
  | n + 1, s => turns outcome n (turn outcome s)

/-! ## The request in the hub -/

def builtOf : LaneLog → Option (LaneLinkType × BitVec 32)
  | .built _ _ request => some (request.linkType, request.acceptableProtocols)
  | _ => none

def answerOf : LaneLog → Option Bool
  | .success .. => some true
  | .fail .. => some false
  | _ => none

def retryMsg : LaneMsgBody → RetryMsg
  | .triggerLink arg2 => .triggerLink arg2
  | .linkSuccess _ => .linkSuccess
  | .linkFail arg2 => .linkFail arg2

/-- The hub has no other request, and has done for this one what `r` says. -/
structure Follows (laneId : Nat) (s : LaneHub) (r : LaneRetry) : Prop where
  queue : s.queue.map (fun m => (m.laneId, retryMsg m.body)) = r.msg.toList.map (laneId, ·)
  usable : ∀ m ∈ s.queue, ∀ info, m.body = .linkSuccess info → LaneHub.convertible info.key.type = true
  pending : s.pending = []
  node : r.msg ≠ none → ∃ n, s.getLaneLinkNode laneId = some n ∧ n.linkList = r.linkList ∧ n.linkRetryIdx = r.linkRetryIdx
  request : r.msg ≠ none → r.result = none ∧ ∃ q, s.getLaneReqInfo laneId = some q
  tried : s.log.filterMap builtOf = r.tried
  result : s.log.filterMap answerOf = r.result.toList.map fun result => decide (result = .success)

section
variable {laneId : Nat} {s : LaneHub} {r : LaneRetry}

theorem follows_triggerLink {option : TransOption} {linkList : List LaneLinkType} (hne : linkList ≠ []) :
    Follows laneId (({} : LaneHub).alloc laneId option linkList) (triggerLink option.acceptableProtocols linkList) := by
  rw [LaneHub.alloc, if_neg hne]
  refine ⟨rfl, fun m hm info hbody => ?_, rfl,
    fun _ => ⟨_, List.find?_cons_of_pos (by simp [LaneHub.alloc.node]), rfl, rfl⟩,
    fun _ => ⟨rfl, _, List.find?_cons_of_pos (by simp)⟩, rfl, rfl⟩
  obtain rfl := List.mem_singleton.mp hm
  cases hbody

/-- A link has been asked for, and what becomes of it is on its way. -/
theorem Follows.built (h : Follows laneId s r) (hmsg : r.msg ≠ none) (body : LaneMsgBody) {s' : LaneHub}
    {holder : Option Nat} {owner : Nat} {n : LaneLinkNodeInfo} {linkType : LaneLinkType} {protocols : BitVec 32}
    (hlog : s'.log = s.log ++ [.built holder n.owner (LaneHub.linkRequest n linkType protocols)])
    (hlinks : s'.multiLinkList = (s.advance laneId).multiLinkList) (hrequests : s'.requestList = s.requestList)
    (hpending : s'.pending = []) (hqueue : s'.queue = [⟨laneId, owner, body⟩])
    (husable : ∀ info, body = .linkSuccess info → LaneHub.convertible info.key.type = true) :
    Follows laneId s' { r with
      linkRetryIdx := r.linkRetryIdx + 1, tried := r.tried ++ [(linkType, protocols)], msg := some (retryMsg body) } := by
  obtain ⟨n, hn, hlist, hidx⟩ := h.node hmsg
  refine ⟨by rw [hqueue]; rfl, fun m hm => ?_, hpending,
    fun _ => ⟨{ n with linkRetryIdx := n.linkRetryIdx + 1 }, ?_, hlist, ?_⟩, fun _ => ?_, ?_, ?_⟩
  · rw [hqueue] at hm
    obtain rfl := List.mem_singleton.mp hm
    exact husable
  · unfold LaneHub.getLaneLinkNode at hn ⊢
    rw [hlinks, LaneHub.advance]
    dsimp only
    rw [FirstMatch.find?_modify (by exact fun _ hx => hx), hn]
    rfl
  · exact congrArg (· + 1) hidx
  · rw [LaneHub.getLaneReqInfo, hrequests]
    exact h.request hmsg
  · rw [hlog, List.filterMap_append, h.tried]
    rfl
  · rw [hlog, List.filterMap_append, h.result]
    simp [answerOf]

theorem Follows.message (h : Follows laneId s r) {m : RetryMsg} (hmsg : r.msg = some m) :
    ∃ owner body n q, m = retryMsg body ∧ s.queue = [⟨laneId, owner, body⟩] ∧ s.getLaneLinkNode laneId = some n ∧
      n.linkList = r.linkList ∧ n.linkRetryIdx = r.linkRetryIdx ∧ r.result = none ∧
      s.getLaneReqInfo laneId = some q := by
  have hsome : r.msg ≠ none := by simp [hmsg]
  have hqueue := h.queue
  rw [hmsg, Option.toList_some, List.map_singleton, List.map_eq_singleton_iff] at hqueue
  obtain ⟨⟨laneId', owner, body⟩, hqueue, heq⟩ := hqueue
  obtain ⟨rfl, rfl⟩ := Prod.mk.inj heq
  obtain ⟨n, hn, hlist, hidx⟩ := h.node hsome
  obtain ⟨hnone, q, hq⟩ := h.request hsome
  exact ⟨owner, body, n, q, rfl, hqueue, hn, hlist, hidx, hnone, hq⟩

variable (outcome : Nat → LinkOutcome) {key : LaneKey} (hkey : LaneHub.convertible key.type = true)

include hkey in
theorem Follows.loop_trigger (h : Follows laneId s r) {arg2 : BitVec 64} (hmsg : r.msg = some (.triggerLink arg2)) :
    ∃ events, Follows laneId (Run.final LaneHub.next s events) (laneTriggerLink outcome r arg2) := by
  have hsome : r.msg ≠ none := by simp [hmsg]
  have hpending := h.pending
  obtain ⟨owner, body, n, q, hbody, hqueue, hn, hlist, hidx, -, -⟩ := h.message hmsg
  cases body <;> cases hbody
  have htry : ∀ built, s.loop built = { s with queue := [] }.laneTriggerLink laneId arg2 built := by
    intro built
    rw [LaneHub.loop, hqueue]
    rfl
  have hn' : LaneHub.getLaneLinkNode { s with queue := [] } laneId = some n := hn
  unfold LaneHub.laneTriggerLink at htry
  simp only [hn', hlist, hidx] at htry
  unfold laneTriggerLink
  cases htype : r.linkList[r.linkRetryIdx]? with
  | none =>
    simp only [htype] at htry
    refine ⟨[.loop true], ?_⟩
    rw [Run.final_cons, Run.final_nil, LaneHub.next, htry]
    exact { h with queue := rfl, usable := nofun, node := fun hne => absurd rfl hne, request := fun hne => absurd rfl hne }
  | some linkType =>
    simp only [htype] at htry
    cases outcome r.linkRetryIdx with
    | success =>
      refine ⟨[.loop true, .callback 0 (.success key)], ?_⟩
      simp only [Run.final_cons, Run.final_nil, LaneHub.next, htry, LaneHub.buildLink, if_true, LaneHub.callback,
        LaneHub.note, LaneHub.advance, hpending, List.nil_append, List.getElem?_cons_zero]
      obtain ⟨_, _, _, _, heq⟩ := LaneHub.beside_linkSuccess _ _ hkey
      rw [heq]
      exact h.built hsome (.linkSuccess _) rfl rfl rfl rfl rfl fun info hinfo => LaneMsgBody.linkSuccess.inj hinfo ▸ hkey
    | refused ret =>
      refine ⟨[.loop false], ?_⟩
      rw [Run.final_cons, Run.final_nil, LaneHub.next, htry]
      exact h.built hsome (.linkFail _) rfl rfl rfl hpending rfl fun _ hinfo => by cases hinfo
    | failed reason =>
      refine ⟨[.loop true, .callback 0 (.fail reason)], ?_⟩
      simp only [Run.final_cons, Run.final_nil, LaneHub.next, htry, LaneHub.buildLink, if_true, LaneHub.callback,
        LaneHub.note, LaneHub.advance, hpending, List.nil_append, List.getElem?_cons_zero]
      exact h.built hsome (.linkFail _) rfl rfl rfl rfl rfl fun _ hinfo => by cases hinfo

/-- The listener is called. -/
theorem Follows.answered (h : Follows laneId s r) (hnone : r.result = none) {s' : LaneHub} {e : LaneLog} {result : RetryResult}
    (hlog : s'.log = s.log ++ [e]) (hbuilt : builtOf e = none) (hanswer : answerOf e = some (decide (result = .success)))
    (hpending : s'.pending = []) (hqueue : s'.queue = []) :
    Follows laneId s' { r with msg := none, result := some result } := by
  refine ⟨by rw [hqueue]; rfl, by simp [hqueue], hpending, fun hne => absurd rfl hne, fun hne => absurd rfl hne, ?_, ?_⟩
  · rw [hlog, List.filterMap_append, h.tried]
    simp [hbuilt]
  · rw [hlog, List.filterMap_append, h.result, hnone]
    simp [hanswer]

include hkey in
/-- One turn is what the looper does with the message, and the callback of the link that it has built. -/
theorem Follows.turn (h : Follows laneId s r) :
    ∃ events, Follows laneId (Run.final LaneHub.next s events) (turn outcome r) := by
  unfold LaneRetry.turn
  cases hmsg : r.msg with
  | none => exact ⟨[], h⟩
  | some m =>
    have hpending := h.pending
    obtain ⟨owner, body, n, q, rfl, hqueue, hn, hlist, hidx, hnone, hq⟩ := h.message hmsg
    have hloop : s.loop true = { s with queue := [] }.handle ⟨laneId, owner, body⟩ true := by rw [LaneHub.loop, hqueue]
    have hn' : LaneHub.getLaneLinkNode { s with queue := [] } laneId = some n := hn
    have hq' : LaneHub.getLaneReqInfo ({ s with queue := [] } |>.deleteLaneLinkNode laneId) laneId = some q := hq
    cases body with
    | triggerLink arg2 => exact h.loop_trigger outcome hkey hmsg
    | linkSuccess info =>
      have hconv := h.usable _ (by rw [hqueue]; exact List.mem_cons_self) info rfl
      refine ⟨[.loop true], ?_⟩
      simp only [Run.final_cons, Run.final_nil, LaneHub.next, hloop, LaneHub.handle, LaneHub.laneLinkSuccess,
        LaneHub.notifyLaneAllocSuccess, hq', hconv, if_true]
      exact h.answered hnone rfl rfl rfl hpending rfl
    | linkFail arg2 =>
      have herr : isDirectReason err = false := by decide
      refine ⟨[.loop true], ?_⟩
      simp only [Run.final_cons, Run.final_nil, LaneHub.next, hloop, LaneHub.handle, LaneHub.laneLinkFail, hn', hlist, hidx,
        retryMsg, laneLinkFail, herr, Bool.false_eq_true, if_false]
      split
      · simp only [LaneHub.notifyLaneAllocFail, hq']
        exact h.answered hnone rfl rfl rfl hpending rfl
      · exact { h with
          queue := rfl
          usable := fun m hm info hinfo => by rw [List.mem_singleton.mp hm] at hinfo; cases hinfo
          node := fun _ => ⟨n, hn, hlist, hidx⟩
          request := fun _ => ⟨hnone, q, hq⟩ }

include hkey in
theorem Follows.turns : ∀ (k : Nat) {s : LaneHub} {r : LaneRetry}, Follows laneId s r →
    ∃ events, Follows laneId (Run.final LaneHub.next s events) (turns outcome k r)
  | 0, _, _, h => ⟨[], h⟩
  | k + 1, s, r, h => by
    obtain ⟨events, hturn⟩ := h.turn outcome hkey
    obtain ⟨events', hturns⟩ := Follows.turns k hturn
    exact ⟨events ++ events', by rwa [Run.final, List.foldl_append]⟩

/-- A request that is alone in the hub is tried and answered there as `turns` says. -/
theorem hub_follows_retry {option : TransOption} {linkList : List LaneLinkType} (hne : linkList ≠ []) (k : Nat) :
    ∃ events, Follows laneId
      (Run.final LaneHub.next (({} : LaneHub).alloc laneId option linkList) events)
      (turns outcome k (triggerLink option.acceptableProtocols linkList)) :=
  Follows.turns outcome (show LaneHub.convertible (LaneHub.wlanKey []).type = true from rfl) k (follows_triggerLink hne)

end

/-! ## What the request should do -/

def tries (outcome : Nat → LinkOutcome) : (idx : Nat) → List LaneLinkType → Nat
  | _, [] => 0
  | idx, _ :: l => if outcome idx = .success then 1 else tries outcome (idx + 1) l + 1

def lastDirectReason (outcome : Nat → LinkOutcome) : (idx : Nat) → List LaneLinkType → Option (BitVec 32)
  | _, [] => none
  | idx, linkType :: l =>
    (lastDirectReason outcome (idx + 1) l).or
      (if linkType = .p2p ∨ linkType = .hml then (outcome idx).reason else none)

structure Right (outcome : Nat → LinkOutcome) (acceptableProtocols : BitVec 32) (linkList : List LaneLinkType)
    (s : LaneRetry) : Prop where
  order : s.tried.map Prod.fst = linkList.take (tries outcome 0 linkList)
  protocols : ∀ attempt ∈ s.tried, attempt.2 = acceptableProtocols
  succeeds : (∃ i < linkList.length, outcome i = .success) → s.result = some .success
  reports : linkList ≠ [] → (∀ i < linkList.length, outcome i ≠ .success) → ∃ reason, s.result = some (.fail reason) ∧
    ∀ direct, lastDirectReason outcome 0 linkList = some direct → reason = direct

/-- Failures that lead to a further attempt have the protocols as their reason, or the reason stands for them; and a request
without success had no P2P or HML failure but `SOFTBUS_ERR` as the last one. -/
def Harmless (outcome : Nat → LinkOutcome) (acceptableProtocols : BitVec 32) (linkList : List LaneLinkType) : Prop :=
  (∀ i, i + 1 < tries outcome 0 linkList → ∀ reason, outcome i = .failed reason →
    LaneHub.retryProtocols (reason.signExtend 64) = acceptableProtocols) ∧
  ((∀ i < linkList.length, outcome i ≠ .success) →
    ∀ direct, lastDirectReason outcome 0 linkList = some direct → direct = err)

/-! ## What it does -/

def next (protocols : BitVec 32) : LinkOutcome → BitVec 32
  | .failed reason => LaneHub.retryProtocols (reason.signExtend 64)
  | _ => protocols

def attempts (outcome : Nat → LinkOutcome) : (idx : Nat) → BitVec 32 → List LaneLinkType → List (LaneLinkType × BitVec 32)
  | _, _, [] => []
  | idx, protocols, linkType :: l =>
    (linkType, protocols) ::
      if outcome idx = .success then [] else attempts outcome (idx + 1) (next protocols (outcome idx)) l

def answer (outcome : Nat → LinkOutcome) : (idx : Nat) → List LaneLinkType → RetryResult
  | _, [] => .fail err
  | idx, _ :: l => if outcome idx = .success then .success else answer outcome (idx + 1) l

theorem retryProtocols_setWidth (protocols : BitVec 32) : LaneHub.retryProtocols (protocols.setWidth 64) = protocols := by
  have hne : protocols.setWidth 64 ≠ softbusErr := by
    intro heq
    have hlt := protocols.isLt
    have hnat := congrArg BitVec.toNat heq
    rw [BitVec.toNat_setWidth, Nat.mod_eq_of_lt (by omega)] at hnat
    have herr : 4294967296 ≤ softbusErr.toNat := by decide
    omega
  rw [LaneHub.retryProtocols, if_neg hne, BitVec.setWidth_setWidth_of_le _ (by omega), BitVec.setWidth_eq]

theorem turns_done (outcome : Nat → LinkOutcome) : ∀ (n : Nat) {s : LaneRetry}, s.msg = none → turns outcome n s = s
  | 0, _, _ => rfl
  | n + 1, s, h => by
    have hturn : turn outcome s = s := by
      unfold turn
      rw [h]
    rw [turns, hturn, turns_done outcome n h]

theorem laneLinkFail_eq (s : LaneRetry) (arg2 : BitVec 64) (h : s.p2pErrCode = 0) :
    laneLinkFail s arg2 =
      if s.linkList.length ≤ s.linkRetryIdx then { s with msg := none, result := some (.fail err) }
      else { s with msg := some (.triggerLink ((LaneHub.retryProtocols arg2).setWidth 64)) } := by
  have hreason : isDirectReason err = false := by decide
  unfold laneLinkFail
  simp [hreason, h]

def reply (protocols : BitVec 32) : LinkOutcome → RetryMsg
  | .success => .linkSuccess
  | .refused _ => .linkFail (protocols.setWidth 64)
  | .failed reason => .linkFail (reason.signExtend 64)

theorem reply_of_failure {o : LinkOutcome} (h : o ≠ .success) (protocols : BitVec 32) :
    ∃ arg2, reply protocols o = .linkFail arg2 ∧ LaneHub.retryProtocols arg2 = next protocols o := by
  cases o with
  | success => exact absurd rfl h
  | refused ret => exact ⟨_, rfl, retryProtocols_setWidth protocols⟩
  | failed reason => exact ⟨_, rfl, rfl⟩

theorem turn_trigger (outcome : Nat → LinkOutcome) (linkType : LaneLinkType) (todo done : List LaneLinkType)
    (protocols : BitVec 32) (tried : List (LaneLinkType × BitVec 32)) :
    turn outcome ⟨done ++ linkType :: todo, done.length, 0, some (.triggerLink (protocols.setWidth 64)), tried, none⟩ =
      ⟨done ++ linkType :: todo, done.length + 1, 0, some (reply protocols (outcome done.length)),
        tried ++ [(linkType, protocols)], none⟩ := by
  have hget : (done ++ linkType :: todo)[done.length]? = some linkType := by simp
  have hwidth : (protocols.setWidth 64).setWidth 32 = protocols := by
    rw [BitVec.setWidth_setWidth_of_le _ (by omega), BitVec.setWidth_eq]
  unfold turn laneTriggerLink
  simp only [hget, hwidth]
  cases outcome done.length <;> rfl

theorem turns_eq (outcome : Nat → LinkOutcome) : ∀ (todo done : List LaneLinkType) (protocols : BitVec 32)
    (tried : List (LaneLinkType × BitVec 32)), todo ≠ [] →
    turns outcome (2 * todo.length)
      ⟨done ++ todo, done.length, 0, some (.triggerLink (protocols.setWidth 64)), tried, none⟩ =
      ⟨done ++ todo, done.length + tries outcome done.length todo, 0, none,
        tried ++ attempts outcome done.length protocols todo, some (answer outcome done.length todo)⟩
  | linkType :: todo, done, protocols, tried, _ => by
    have hlen : 2 * (linkType :: todo).length = 2 * todo.length + 1 + 1 := by
      rw [List.length_cons]
      omega
    rw [hlen, turns, turns, turn_trigger, tries, attempts, answer]
    by_cases hout : outcome done.length = .success
    · rw [hout, if_pos rfl, if_pos rfl, if_pos rfl]
      exact turns_done outcome _ rfl
    · obtain ⟨arg2, hreply, hnext⟩ := reply_of_failure hout protocols
      rw [if_neg hout, if_neg hout, if_neg hout, hreply]
      unfold turn
      dsimp only
      rw [laneLinkFail_eq _ _ rfl]
      dsimp only
      cases todo with
      | nil =>
        rw [if_pos (by simp)]
        exact turns_done outcome _ rfl
      | cons linkType' todo =>
        have ih := turns_eq outcome (linkType' :: todo) (done ++ [linkType]) (next protocols (outcome done.length))
          (tried ++ [(linkType, protocols)]) (List.cons_ne_nil _ _)
        rw [List.length_append, List.length_singleton, List.append_assoc, List.append_assoc] at ih
        rw [if_neg (by simp), hnext]
        refine ih.trans ?_
        rw [Nat.add_assoc, Nat.add_comm 1]
        rfl

section
variable {outcome : Nat → LinkOutcome}

theorem map_fst_attempts : ∀ (l : List LaneLinkType) (idx : Nat) (protocols : BitVec 32),
    (attempts outcome idx protocols l).map Prod.fst = l.take (tries outcome idx l)
  | [], _, _ => rfl
  | linkType :: l, idx, protocols => by
    rw [attempts, tries]
    by_cases hout : outcome idx = .success
    · rw [if_pos hout, if_pos hout]
      simp
    · rw [if_neg hout, if_neg hout, List.map_cons, map_fst_attempts l, List.take_succ_cons]

theorem tries_pos {idx : Nat} : ∀ {l : List LaneLinkType}, l ≠ [] → 0 < tries outcome idx l
  | _ :: l, _ => by
    rw [tries]
    split <;> omega

theorem attempts_protocols_iff (p : BitVec 32) : ∀ (l : List LaneLinkType) (idx : Nat),
    (∀ attempt ∈ attempts outcome idx p l, attempt.2 = p) ↔
      ∀ i, i + 1 < tries outcome idx l → ∀ reason, outcome (idx + i) = .failed reason →
        LaneHub.retryProtocols (reason.signExtend 64) = p
  | [], _ => by simp [attempts, tries]
  | linkType :: l, idx => by
    rw [attempts, tries]
    by_cases hout : outcome idx = .success
    · rw [if_pos hout, if_pos hout]
      simp
    rw [if_neg hout, if_neg hout, List.forall_mem_cons, and_iff_right rfl]
    by_cases hl : l = []
    · subst hl
      simp [attempts, tries]
    -- the attempt after this one decides whether the protocols are kept
    have hhead : ∀ q, (∀ attempt ∈ attempts outcome (idx + 1) q l, attempt.2 = p) → q = p := by
      intro q hall
      cases l with
      | nil => exact absurd rfl hl
      | cons linkType' l => exact hall (linkType', q) (by rw [attempts]; exact List.mem_cons_self)
    have hpos : 0 < tries outcome (idx + 1) l := tries_pos hl
    constructor
    · intro hall i hi reason hreason
      have hnext := hhead _ hall
      cases i with
      | zero =>
        rw [Nat.add_zero] at hreason
        rw [hreason] at hnext
        exact hnext
      | succ i =>
        rw [hnext] at hall
        refine (attempts_protocols_iff p l (idx + 1)).mp hall i (by omega) reason ?_
        rw [Nat.add_assoc, Nat.add_comm 1]
        exact hreason
    · intro hkeep
      have hnext : next p (outcome idx) = p := by
        cases ho : outcome idx with
        | success => exact absurd ho hout
        | refused ret => rfl
        | failed reason => exact hkeep 0 (by omega) reason ho
      rw [hnext, attempts_protocols_iff p l (idx + 1)]
      intro i hi reason hreason
      refine hkeep (i + 1) (by omega) reason ?_
      rw [← hreason, Nat.add_assoc, Nat.add_comm 1]

theorem answer_success : ∀ {l : List LaneLinkType} {idx : Nat},
    (∃ i < l.length, outcome (idx + i) = .success) → answer outcome idx l = .success
  | [], _, h => by simp at h
  | _ :: l, idx, ⟨i, hi, hout⟩ => by
    rw [answer]
    split
    · rfl
    · rename_i hne
      cases i with
      | zero => exact absurd hout hne
      | succ i =>
        refine answer_success ⟨i, Nat.lt_of_succ_lt_succ hi, ?_⟩
        rw [← hout, Nat.add_assoc, Nat.add_comm 1]

theorem answer_fail : ∀ {l : List LaneLinkType} {idx : Nat},
    (∀ i < l.length, outcome (idx + i) ≠ .success) → answer outcome idx l = .fail err
  | [], _, _ => rfl
  | _ :: l, idx, h => by
    have hne : outcome idx ≠ .success := h 0 (Nat.zero_lt_succ _)
    rw [answer, if_neg hne]
    refine answer_fail fun i hi => ?_
    rw [Nat.add_assoc, Nat.add_comm 1]
    exact h (i + 1) (Nat.succ_lt_succ hi)

end

/-- **Retry.** For every list of links and every pattern of outcomes the request tries the links in order and stops at
the first success; it is right, in the protocols and in the reason it reports, exactly when its failures are harmless. -/
theorem lane_retry_iff (outcome : Nat → LinkOutcome) (acceptableProtocols : BitVec 32) (linkList : List LaneLinkType) :
    let s := turns outcome (2 * linkList.length) (triggerLink acceptableProtocols linkList)
    s.tried.map Prod.fst = linkList.take (tries outcome 0 linkList) ∧
      ((∃ i < linkList.length, outcome i = .success) → s.result = some .success) ∧
      (Right outcome acceptableProtocols linkList s ↔ Harmless outcome acceptableProtocols linkList) := by
  dsimp only
  by_cases hl : linkList = []
  · subst hl
    refine ⟨rfl, by simp, fun _ => ⟨by simp [tries], by simp [lastDirectReason]⟩, fun _ => ?_⟩
    exact ⟨rfl, by simp [turns, triggerLink], by simp, fun hne => absurd rfl hne⟩
  have hs : turns outcome (2 * linkList.length) (triggerLink acceptableProtocols linkList) =
      ⟨linkList, tries outcome 0 linkList, 0, none, attempts outcome 0 acceptableProtocols linkList,
        some (answer outcome 0 linkList)⟩ := by
    have h := turns_eq outcome linkList [] acceptableProtocols [] hl
    simp only [List.nil_append, List.length_nil, Nat.zero_add] at h
    exact h
  rw [hs]
  have hsuccess : (∃ i < linkList.length, outcome i = .success) →
      some (answer outcome 0 linkList) = some .success := by
    intro h
    rw [answer_success (by simpa using h)]
  refine ⟨map_fst_attempts linkList 0 _, hsuccess, ?_⟩
  have hfail : (∀ i < linkList.length, outcome i ≠ .success) → answer outcome 0 linkList = .fail err :=
    fun h => answer_fail (by simpa using h)
  have hproto := @attempts_protocols_iff outcome acceptableProtocols linkList 0
  simp only [Nat.zero_add] at hproto
  constructor
  · intro h
    refine ⟨hproto.mp h.protocols, fun hno direct hdirect => ?_⟩
    obtain ⟨reason, hresult, hreason⟩ := h.reports hl hno
    dsimp only at hresult
    rw [hfail hno] at hresult
    rw [← hreason direct hdirect]
    cases hresult
    rfl
  · rintro ⟨hkeep, hdirect⟩
    refine ⟨map_fst_attempts linkList 0 _, hproto.mpr hkeep, hsuccess, fun _ hno => ⟨err, ?_, ?_⟩⟩
    · dsimp only
      rw [hfail hno]
    · exact fun direct h => (hdirect hno direct h).symm

/-- A P2P link fails with `V1_ERROR_BUSY`: the BR link is tried with the reason as its protocols, and the request reports
`SOFTBUS_ERR`. -/
theorem lane_retry_mixes_arg2 :
    let s := turns (fun _ => .failed (-401015)) 4 (triggerLink 6 [.p2p, .br])
    s.tried = [(.p2p, 6), (.br, -401015)] ∧ s.result = some (.fail err) ∧ err ≠ -401015 := by
  decide

end LaneRetry

end SoftBus
