import Mathlib.Algebra.Ring.Int.Defs
import SoftBus.LaneHub

/-!
# Selection of lanes by quality of service

The links that meet the latency come first, then those the retry budget has room for; a pass of
swaps then moves the direct links before the WLAN ones where the channel is poor. The pass takes
along the first WLAN entry only.
-/

namespace SoftBus

/-! ## Tables -/

inductive LaneTransType where
  | ctrl | mix | byte | msg | file | rawStream | commonVideo | commonVoice
deriving DecidableEq

inductive BandWidthType where
  | high | middleHigh | middleLow | low
deriving DecidableEq

structure QosInfo where
  minBW : BitVec 32
  maxLaneLatency : BitVec 32
  minLaneLatency : BitVec 32

structure LaneSelectParam where
  transType : LaneTransType
  qosRequire : QosInfo

/-- What the selection reads of the device and the peer. -/
structure LaneCapability where
  isEnable : LaneLinkType → Bool
  isSupportBrReuse : Bool
  -- `GetWlanLinkedFrequency`, `SoftBusFrequencyToChannel` of it, `LnnGetCurrChannelScore` of that
  frequency : Int
  channel : Int
  currChannelScore : Int

def unacceptScore : Int := 20

def lnnLinkDefaultScore : Int := 60

def laneBandWidth : BandWidthType → List LaneLinkType
  | .high => [.hml, .p2p]
  | .middleHigh => [.hml, .wlan5g, .wlan2p4g]
  | .middleLow => [.wlan5g, .wlan2p4g, .hml]
  | .low => [.wlan5g, .wlan2p4g, .hml, .cocDirect]

/-- `g_retryLaneList` -/
def retryLaneList : BandWidthType → List LaneLinkType
  | .high => [.hml, .p2p, .wlan5g, .wlan2p4g]
  | .middleHigh => [.hml, .wlan5g, .wlan2p4g, .p2p]
  | .middleLow => [.wlan5g, .wlan2p4g, .hml, .p2p]
  | .low => [.wlan5g, .wlan2p4g, .hml, .p2p, .cocDirect, .br, .ble]

def laneDefaultLink : LaneTransType → List LaneLinkType
  | .msg | .byte => [.wlan5g, .wlan2p4g, .ble, .br]
  | .file => [.wlan5g, .p2p, .wlan2p4g, .br]
  | .rawStream | .commonVideo | .commonVoice => [.wlan5g, .p2p, .wlan2p4g]
  | .ctrl | .mix => []

def getBwType (bandWidth : BitVec 32) : BandWidthType :=
  if 160 * 1024 * 1024 ≤ bandWidth.toNat then .high
  else if 30 * 1024 * 1024 < bandWidth.toNat then .middleHigh
  else if 384 * 1024 < bandWidth.toNat then .middleLow
  else .low

def LaneTransType.isStream (t : LaneTransType) : Bool := t matches .rawStream | .commonVideo | .commonVoice

namespace LaneLinkType

def isBt (l : LaneLinkType) : Bool := l matches .br | .ble | .bleDirect | .bleReuse | .coc | .cocDirect

def isWlan (l : LaneLinkType) : Bool := l matches .wlan2p4g | .wlan5g

def isDirect (l : LaneLinkType) : Bool := l matches .hml | .p2p

def available (l : LaneLinkType) : Bool := !(l matches .eth | .bleReuse)

end LaneLinkType

namespace LaneCapability

/-! ## The decision -/

section
variable (c : LaneCapability) (request : LaneSelectParam)

/-- `g_laneLatency` after `UpdataLaneLatency` -/
def laneLatency : LaneLinkType → Int
  | .br => if c.isSupportBrReuse then 1000 else 2500
  | .p2p => 1600
  | .hml => 1500
  | .wlan2p4g => 800
  | .wlan5g => 800
  | .cocDirect => 1200
  | .ble => 1500
  | _ => 0

def isValidLane (l : LaneLinkType) : Bool := l.available && c.isEnable l

def isValidLaneFor (t : LaneTransType) (l : LaneLinkType) : Bool := c.isValidLane l && !(t.isStream && l.isBt)

def decideOptimalLinks : List LaneLinkType :=
  if request.qosRequire.minLaneLatency = 0 then []
  else
    (laneBandWidth (getBwType request.qosRequire.minBW)).filter fun l =>
      c.isValidLaneFor request.transType l && c.laneLatency l ≤ request.qosRequire.minLaneLatency.toNat

def getAllLinksWithBw (t : LaneTransType) : List LaneLinkType → List LaneLinkType → List LaneLinkType
  | [], linkList => linkList
  | l :: rest, linkList =>
    if c.isValidLaneFor t l ∧ l ∉ linkList then getAllLinksWithBw t rest (linkList ++ [l])
    else getAllLinksWithBw t rest linkList

/-- The loop of `DecideRetryLinks`; `none` where the signed difference overflows. -/
def retryLoop (t : LaneTransType) : List LaneLinkType → Int → List LaneLinkType → Option (List LaneLinkType)
  | [], _, linkList => some linkList
  | l :: rest, retryTime, linkList =>
    if retryTime - c.laneLatency l < -2147483648 then none
    else if 0 ≤ retryTime - c.laneLatency l ∧ c.isValidLaneFor t l ∧ l ∉ linkList then
      retryLoop t rest (retryTime - c.laneLatency l) (linkList ++ [l])
    else retryLoop t rest retryTime linkList

def retryTime (linkList : List LaneLinkType) : Int :=
  if linkList = [] then request.qosRequire.maxLaneLatency.toInt
  else (request.qosRequire.maxLaneLatency - request.qosRequire.minLaneLatency).toInt

def addBr (linkList : List LaneLinkType) : List LaneLinkType :=
  if getBwType request.qosRequire.minBW = .low ∧ c.isValidLaneFor request.transType .br ∧ .br ∉ linkList then
    linkList ++ [.br]
  else linkList

def decideRetryLinks (linkList : List LaneLinkType) : Option (List LaneLinkType) :=
  if request.qosRequire.maxLaneLatency = 0 then
    some (c.getAllLinksWithBw request.transType (retryLaneList (getBwType request.qosRequire.minBW)) linkList)
  else
    (c.retryLoop request.transType (retryLaneList (getBwType request.qosRequire.minBW)) (retryTime request linkList)
      linkList).map (c.addBr request)

def decideAvailableLane : Option (List LaneLinkType) := c.decideRetryLinks request (c.decideOptimalLinks request)

def selectByDefaultLink : List LaneLinkType := (laneDefaultLink request.transType).filter c.isValidLane

def laneLinkList : Option (List LaneLinkType) :=
  if request.qosRequire.minBW = 0 ∧ request.qosRequire.maxLaneLatency = 0 ∧ request.qosRequire.minLaneLatency = 0 then
    some (c.selectByDefaultLink request)
  else c.decideAvailableLane request

def getLinkedChannelScore : Int :=
  if c.frequency ≤ 0 then lnnLinkDefaultScore
  else if c.channel < 0 then lnnLinkDefaultScore
  else if c.currChannelScore ≤ 0 then lnnLinkDefaultScore
  else c.currChannelScore

def resListScore (resList : List LaneLinkType) (l : LaneLinkType) : Int :=
  if l ∈ resList then if l.isWlan then c.getLinkedChannelScore else lnnLinkDefaultScore else -1

end

def swapListNode (resList : List LaneLinkType) (left right : Nat) : List LaneLinkType :=
  match resList[left]?, resList[right]? with
  | some l, some r => (resList.set left r).set right l
  | _, _ => resList

def adjustLoop : (left j idxWlan : Nat) → List LaneLinkType → List LaneLinkType
  | 0, _, _, resList => resList
  | left + 1, j, idxWlan, resList =>
    if (resList[j]?.map LaneLinkType.isDirect).getD false then adjustLoop left (j + 1) j (swapListNode resList idxWlan j)
    else adjustLoop left (j + 1) idxWlan resList

def adjustLanePriority (c : LaneCapability) (resList : List LaneLinkType) : List LaneLinkType :=
  if (c.resListScore resList .wlan2p4g = -1 ∧ c.resListScore resList .wlan5g = -1) ∨
      (c.resListScore resList .p2p = -1 ∧ c.resListScore resList .hml = -1) then resList
  else
    match resList[resList.findIdx LaneLinkType.isWlan]? with
    | none => resList
    | some l =>
      if unacceptScore ≤ c.resListScore resList l then resList
      else
        adjustLoop (resList.length - resList.findIdx LaneLinkType.isWlan) (resList.findIdx LaneLinkType.isWlan)
          (resList.findIdx LaneLinkType.isWlan) resList

/-- `SelectExpectLanesByQos` for a peer that is online. -/
def selectExpectLanesByQos (c : LaneCapability) (request : LaneSelectParam) : Option (List LaneLinkType) :=
  (c.laneLinkList request).map c.adjustLanePriority

/-! ## The passes that fill the list -/

section
variable {c : LaneCapability} {t : LaneTransType}

theorem laneLatency_bounds (c : LaneCapability) (l : LaneLinkType) : 0 ≤ c.laneLatency l ∧ c.laneLatency l ≤ 2500 := by
  cases l <;> simp only [laneLatency] <;> omega

structure Appended (c : LaneCapability) (t : LaneTransType) (links more out : List LaneLinkType) : Prop where
  eq : out = links ++ more
  valid : ∀ l ∈ more, c.isValidLaneFor t l = true
  nodup : links.Nodup → out.Nodup

theorem Appended.nil (links : List LaneLinkType) : Appended c t links [] links :=
  ⟨(List.append_nil _).symm, by simp, id⟩

theorem Appended.cons {links more out : List LaneLinkType} {l : LaneLinkType} (hvalid : c.isValidLaneFor t l = true)
    (hnew : l ∉ links) (h : Appended c t (links ++ [l]) more out) : Appended c t links (l :: more) out where
  eq := by rw [h.eq, List.append_assoc]; rfl
  valid := List.forall_mem_cons.mpr ⟨hvalid, h.valid⟩
  nodup := fun hnodup => h.nodup (List.nodup_append.mpr ⟨hnodup, List.nodup_singleton l, by
    intro a ha b hb
    rw [List.mem_singleton.mp hb]
    exact fun heq => hnew (heq ▸ ha)⟩)

theorem getAllLinksWithBw_appended : ∀ lanes links : List LaneLinkType,
    ∃ more, Appended c t links more (c.getAllLinksWithBw t lanes links)
  | [], links => ⟨[], .nil links⟩
  | l :: rest, links => by
    rw [getAllLinksWithBw]
    split
    · rename_i h
      obtain ⟨more, hmore⟩ := getAllLinksWithBw_appended rest (links ++ [l])
      exact ⟨l :: more, .cons h.1 h.2 hmore⟩
    · exact getAllLinksWithBw_appended rest links

theorem retryLoop_appended : ∀ (lanes : List LaneLinkType) (retryTime : Int) (links : List LaneLinkType)
    {out : List LaneLinkType}, c.retryLoop t lanes retryTime links = some out →
    ∃ more, Appended c t links more out ∧ (more.map c.laneLatency).sum ≤ max 0 retryTime
  | [], retryTime, links, out, h => by
    cases h
    exact ⟨[], .nil links, Int.le_max_left _ _⟩
  | l :: rest, retryTime, links, out, h => by
    rw [retryLoop] at h
    split at h
    · cases h
    split at h
    · rename_i hl
      obtain ⟨more, hmore, hsum⟩ := retryLoop_appended rest _ _ h
      refine ⟨l :: more, .cons hl.2.1 hl.2.2 hmore, ?_⟩
      rw [List.map_cons, List.sum_cons]
      omega
    · exact retryLoop_appended rest retryTime links h

theorem retryLoop_isSome : ∀ (lanes : List LaneLinkType) (retryTime : Int) (links : List LaneLinkType),
    (c.retryLoop t lanes retryTime links).isSome ↔ ∀ l ∈ lanes, -2147483648 ≤ retryTime - c.laneLatency l
  | [], retryTime, links => by simp [retryLoop]
  | l :: rest, retryTime, links => by
    have hnonneg : ∀ time : Int, 0 ≤ time → ∀ l' ∈ rest, -2147483648 ≤ time - c.laneLatency l' := by
      intro time htime l' _
      have := c.laneLatency_bounds l'
      omega
    rw [retryLoop, List.forall_mem_cons]
    split
    · rename_i h
      exact iff_of_false (by simp) fun hall => absurd hall.1 (by omega)
    split
    · rename_i h
      have := c.laneLatency_bounds l
      exact iff_of_true ((retryLoop_isSome rest _ _).mpr (hnonneg _ h.1)) ⟨by omega, hnonneg _ (by omega)⟩
    · rw [retryLoop_isSome rest retryTime links]
      exact ⟨fun h => ⟨by omega, h⟩, fun h => h.2⟩

end

/-! ## The swaps -/

open LaneLinkType (isWlan isDirect)

def Ordered (links : List LaneLinkType) : Prop := links.Pairwise fun a b => isWlan a = true → isDirect b = false

def kinds (links : List LaneLinkType) : List Bool := (links.filter fun l => isWlan l || isDirect l).map isWlan

def carry (wlan : LaneLinkType) (mid : List LaneLinkType) : List LaneLinkType → List LaneLinkType
  | [] => wlan :: mid
  | l :: rest => if isDirect l then l :: (mid ++ carry wlan [] rest) else carry wlan (mid ++ [l]) rest

section
variable {wlan l : LaneLinkType}

theorem isDirect_of_isWlan (h : isWlan l = true) : isDirect l = false := by
  cases l <;> first | rfl | cases h

theorem isWlan_of_isDirect (h : isDirect l = true) : isWlan l = false := by
  cases l <;> first | rfl | cases h

theorem getElem?_after (pre mid rest : List LaneLinkType) (l : LaneLinkType) :
    (pre ++ wlan :: (mid ++ l :: rest))[pre.length + 1 + mid.length]? = some l := by
  rw [Nat.add_assoc, List.getElem?_append_right (Nat.le_add_right _ _), Nat.add_sub_cancel_left, Nat.add_comm 1,
    List.getElem?_cons_succ, List.getElem?_append_right (Nat.le_refl _), Nat.sub_self]
  rfl

theorem swapListNode_eq (pre mid rest : List LaneLinkType) (l : LaneLinkType) :
    swapListNode (pre ++ wlan :: (mid ++ l :: rest)) pre.length (pre.length + 1 + mid.length) =
      pre ++ l :: (mid ++ wlan :: rest) := by
  have hleft : (pre ++ wlan :: (mid ++ l :: rest))[pre.length]? = some wlan := by simp
  rw [swapListNode, hleft, getElem?_after]
  simp [Nat.add_assoc, Nat.add_comm 1]

theorem adjustLoop_eq : ∀ (rest pre mid : List LaneLinkType),
    adjustLoop rest.length (pre.length + 1 + mid.length) pre.length (pre ++ wlan :: (mid ++ rest)) =
      pre ++ carry wlan mid rest
  | [], pre, mid => by simp [adjustLoop, carry]
  | l :: rest, pre, mid => by
    rw [List.length_cons, adjustLoop, getElem?_after, Option.map_some, Option.getD_some, carry]
    by_cases hl : isDirect l = true
    · rw [if_pos hl, if_pos hl, swapListNode_eq]
      have ih := adjustLoop_eq rest (pre ++ l :: mid) []
      simp only [List.length_append, List.length_cons, List.length_nil, List.append_assoc, List.cons_append,
        List.nil_append, Nat.add_zero] at ih
      rw [show pre.length + 1 + mid.length = pre.length + (mid.length + 1) by omega, ih]
    · rw [if_neg hl, if_neg hl]
      have ih := adjustLoop_eq rest pre (mid ++ [l])
      rw [List.length_append, List.length_singleton, List.append_assoc, List.singleton_append] at ih
      exact ih

theorem forall_mem_concat {mid : List LaneLinkType} {l : LaneLinkType} (hmid : ∀ l ∈ mid, isDirect l = false)
    (hl : ¬isDirect l = true) : ∀ l' ∈ mid ++ [l], isDirect l' = false := by
  intro l' hl'
  rcases List.mem_append.mp hl' with h | h
  · exact hmid l' h
  · rw [List.mem_singleton.mp h]
    simpa using hl

theorem carry_perm : ∀ rest mid : List LaneLinkType, (carry wlan mid rest).Perm (wlan :: (mid ++ rest))
  | [], mid => by rw [carry, List.append_nil]
  | l :: rest, mid => by
    rw [carry]
    split
    · calc l :: (mid ++ carry wlan [] rest)
          |>.Perm (l :: (mid ++ wlan :: rest)) := ((carry_perm rest []).append_left mid).cons l
        _ |>.Perm (l :: wlan :: (mid ++ rest)) := List.perm_middle.cons l
        _ |>.Perm (wlan :: l :: (mid ++ rest)) := .swap wlan l _
        _ |>.Perm (wlan :: (mid ++ l :: rest)) := List.perm_middle.symm.cons wlan
    · refine (carry_perm rest (mid ++ [l])).trans ?_
      rw [List.append_assoc]
      exact .refl _

theorem filter_carry (hwlan : isWlan wlan = true) : ∀ rest mid : List LaneLinkType, (∀ l ∈ mid, isDirect l = false) →
    (carry wlan mid rest).filter isDirect = rest.filter isDirect
  | [], mid, hmid => by
    rw [carry, List.filter_cons_of_neg (by simp [isDirect_of_isWlan hwlan]), List.filter_eq_nil_iff.mpr (by simpa using hmid)]
    rfl
  | l :: rest, mid, hmid => by
    rw [carry]
    split
    · rename_i hl
      rw [List.filter_cons_of_pos hl, List.filter_cons_of_pos hl, List.filter_append, filter_carry hwlan rest [] (by simp),
        List.filter_eq_nil_iff.mpr (by simpa using hmid)]
      rfl
    · rename_i hl
      rw [List.filter_cons_of_neg hl]
      exact filter_carry hwlan rest _ (forall_mem_concat hmid hl)

theorem ordered_of_forall {links : List LaneLinkType} (h : ∀ l ∈ links, isDirect l = false) : Ordered links :=
  List.pairwise_iff_forall_sublist.mpr fun hsub _ => h _ (hsub.subset (by simp))

theorem mem_kinds_false {links : List LaneLinkType} : false ∈ kinds links ↔ ∃ l ∈ links, isDirect l = true := by
  unfold kinds
  simp only [List.mem_map, List.mem_filter, Bool.or_eq_true]
  constructor
  · rintro ⟨l, ⟨hl, hkind⟩, hw⟩
    exact ⟨l, hl, hkind.resolve_left (by simp [hw])⟩
  · rintro ⟨l, hl, hd⟩
    exact ⟨l, ⟨hl, .inr hd⟩, isWlan_of_isDirect hd⟩

theorem kinds_append (l l' : List LaneLinkType) : kinds (l ++ l') = kinds l ++ kinds l' := by
  simp [kinds]

theorem kinds_cons_isDirect (hl : isDirect l = true) (links : List LaneLinkType) :
    kinds (l :: links) = false :: kinds links := by
  rw [kinds, List.filter_cons_of_pos (by simp [hl]), List.map_cons, isWlan_of_isDirect hl]
  rfl

theorem kinds_cons_isWlan (hl : isWlan l = true) (links : List LaneLinkType) :
    kinds (l :: links) = true :: kinds links := by
  rw [kinds, List.filter_cons_of_pos (by simp [hl]), List.map_cons, hl]
  rfl

theorem kinds_eq_replicate (mid : List LaneLinkType) (hmid : ∀ l ∈ mid, isDirect l = false) :
    kinds mid = List.replicate (kinds mid).length true := by
  refine List.eq_replicate_of_mem fun b hb => ?_
  cases b with
  | true => rfl
  | false =>
    obtain ⟨l, hl, hd⟩ := mem_kinds_false.mp hb
    exact absurd (hmid l hl) (by simp [hd])

theorem sublist_replicate_append {k : List Bool} : ∀ n : Nat,
    [true, false, false].Sublist (List.replicate n true ++ false :: k) ↔
      n ≠ 0 ∧ false ∈ k ∨ [true, false, false].Sublist k
  | 0 => by simp [List.cons_sublist_cons']
  | n + 1 => by
    have hskip : ∀ n, [false, false].Sublist (List.replicate n true ++ false :: k) ↔ false ∈ k := by
      intro n
      induction n with
      | zero => simp
      | succ n ih => simpa [List.replicate_succ, List.cons_sublist_cons'] using ih
    have hmem : [true, false, false].Sublist k → false ∈ k := fun h => h.subset (by simp)
    rw [List.replicate_succ, List.cons_append, List.cons_sublist_cons, hskip]
    exact ⟨fun h => .inl ⟨Nat.succ_ne_zero n, h⟩, fun h => h.elim And.right hmem⟩

theorem ordered_carry_iff (hwlan : isWlan wlan = true) : ∀ rest mid : List LaneLinkType,
    (∀ l ∈ mid, isDirect l = false) →
    (Ordered (carry wlan mid rest) ↔ ¬[true, false, false].Sublist (kinds (mid ++ rest)))
  | [], mid, hmid => by
    have hnone : ∀ l ∈ wlan :: mid, isDirect l = false := List.forall_mem_cons.mpr ⟨isDirect_of_isWlan hwlan, hmid⟩
    refine iff_of_true (ordered_of_forall hnone) fun h => ?_
    obtain ⟨l, hl, hd⟩ := mem_kinds_false.mp (h.subset (by simp : false ∈ [true, false, false]))
    rw [List.append_nil] at hl
    exact absurd (hmid l hl) (by simp [hd])
  | l :: rest, mid, hmid => by
    rw [carry]
    by_cases hl : isDirect l = true
    · have hmem : ∀ b, b ∈ carry wlan [] rest ↔ b = wlan ∨ b ∈ rest := fun b => by
        rw [(carry_perm rest []).mem_iff, List.mem_cons]
        rfl
      have hcross : (∀ a ∈ mid, ∀ b ∈ carry wlan [] rest, isWlan a = true → isDirect b = false) ↔
          ¬((kinds mid).length ≠ 0 ∧ false ∈ kinds rest) := by
        rw [not_and, mem_kinds_false, ne_eq, List.length_eq_zero_iff]
        constructor
        · rintro hall hne ⟨b, hb, hd⟩
          obtain ⟨k, hk⟩ := List.exists_mem_of_ne_nil _ hne
          obtain ⟨a, ha, rfl⟩ := List.mem_map.mp hk
          obtain ⟨ha, hkind⟩ := List.mem_filter.mp ha
          have hw : isWlan a = true := by simpa [hmid a ha] using hkind
          exact absurd (hall a ha b ((hmem b).mpr (.inr hb)) hw) (by simp [hd])
        · intro hnone a ha b hb hw
          rcases (hmem b).mp hb with rfl | hb
          · exact isDirect_of_isWlan hwlan
          · have hne : kinds mid ≠ [] := List.ne_nil_of_mem (List.mem_map.mpr ⟨a, List.mem_filter.mpr ⟨ha, by simp [hw]⟩, rfl⟩)
            by_contra hd
            exact hnone hne ⟨b, hb, by simpa using hd⟩
      have ih : Ordered (carry wlan [] rest) ↔ ¬[true, false, false].Sublist (kinds rest) :=
        ordered_carry_iff hwlan rest [] (by simp)
      have hhead : ∀ b ∈ mid ++ carry wlan [] rest, isWlan l = true → isDirect b = false :=
        fun b _ hw => absurd (isWlan_of_isDirect hl) (by simp [hw])
      rw [if_pos hl, kinds_append, kinds_cons_isDirect hl, kinds_eq_replicate mid hmid, sublist_replicate_append, not_or,
        ← hcross, ← ih]
      unfold Ordered
      rw [List.pairwise_cons, List.pairwise_append]
      exact ⟨fun h => ⟨h.2.2.2, h.2.2.1⟩, fun h => ⟨hhead, ordered_of_forall hmid, h.2, h.1⟩⟩
    · rw [if_neg hl, ordered_carry_iff hwlan rest _ (forall_mem_concat hmid hl), List.append_assoc]
      rfl

end

/-! ## The adjusted list -/

section
variable (c : LaneCapability) (links : List LaneLinkType)

theorem getLinkedChannelScore_pos : 0 < c.getLinkedChannelScore := by
  unfold getLinkedChannelScore lnnLinkDefaultScore
  split
  · decide
  split
  · decide
  split
  · decide
  · omega

theorem resListScore_eq_neg_one_iff (l : LaneLinkType) : c.resListScore links l = -1 ↔ l ∉ links := by
  have hpos := c.getLinkedChannelScore_pos
  unfold resListScore lnnLinkDefaultScore
  split
  · rename_i hl
    refine iff_of_false ?_ (not_not_intro hl)
    split <;> omega
  · exact iff_of_true rfl ‹_›

theorem findIdx_eq {p : LaneLinkType → Bool} {w : LaneLinkType} {rest : List LaneLinkType} (hw : p w = true) :
    ∀ pre : List LaneLinkType, (∀ l ∈ pre, p l = false) → (pre ++ w :: rest).findIdx p = pre.length
  | [], _ => by simp [List.findIdx_cons, hw]
  | l :: pre, h => by
    rw [List.cons_append, List.findIdx_cons, h l (by simp), findIdx_eq hw pre fun l' hl' => h l' (by simp [hl'])]
    rfl

theorem adjustLanePriority_cases :
    (c.adjustLanePriority links = links ∧ ((∀ l ∈ links, isWlan l = false) ∨ (∀ l ∈ links, isDirect l = false) ∨
      unacceptScore ≤ c.getLinkedChannelScore)) ∨
    ∃ pre w rest, links = pre ++ w :: rest ∧ (∀ l ∈ pre, isWlan l = false) ∧ isWlan w = true ∧
      c.adjustLanePriority links = pre ++ carry w [] rest := by
  unfold adjustLanePriority
  split
  · rename_i h
    simp only [resListScore_eq_neg_one_iff] at h
    refine .inl ⟨rfl, h.imp (fun h l hl => ?_) fun h => .inl fun l hl => ?_⟩
    · cases l <;> first | rfl | exact absurd hl h.1 | exact absurd hl h.2
    · cases l <;> first | rfl | exact absurd hl h.1 | exact absurd hl h.2
  rename_i h
  simp only [resListScore_eq_neg_one_iff, not_or, not_and_or, not_not] at h
  obtain ⟨w, hw⟩ : ∃ w, links.find? isWlan = some w := by
    rw [← Option.isSome_iff_exists, List.find?_isSome]
    rcases h.1 with h | h
    · exact ⟨_, h, rfl⟩
    · exact ⟨_, h, rfl⟩
  obtain ⟨hwlan, pre, rest, rfl, hpre⟩ := List.find?_eq_some_iff_append.mp hw
  have hpre' : ∀ l ∈ pre, isWlan l = false := fun l hl => by simpa using hpre l hl
  have hget : (pre ++ w :: rest)[pre.length]? = some w := by simp
  rw [findIdx_eq hwlan pre hpre', hget]
  dsimp only
  have hscore : c.resListScore (pre ++ w :: rest) w = c.getLinkedChannelScore := by
    rw [resListScore, if_pos (by simp), if_pos hwlan]
  rw [hscore]
  split
  · exact .inl ⟨rfl, .inr (.inr ‹_›)⟩
  · refine .inr ⟨pre, w, rest, rfl, hpre', hwlan, ?_⟩
    rw [show (pre ++ w :: rest).length - pre.length = rest.length + 1 by simp, adjustLoop, hget, Option.map_some,
      Option.getD_some, if_neg (by simp [isDirect_of_isWlan hwlan])]
    exact adjustLoop_eq rest pre []

theorem adjustLanePriority_perm : (c.adjustLanePriority links).Perm links := by
  obtain ⟨h, -⟩ | ⟨pre, w, rest, rfl, -, -, h⟩ := c.adjustLanePriority_cases links
  · rw [h]
  · rw [h]
    exact (carry_perm rest []).append_left pre

theorem filter_adjustLanePriority : (c.adjustLanePriority links).filter isDirect = links.filter isDirect := by
  obtain ⟨h, -⟩ | ⟨pre, w, rest, rfl, -, hw, h⟩ := c.adjustLanePriority_cases links
  · rw [h]
  · rw [h, List.filter_append, List.filter_append, filter_carry hw rest [] (by simp),
      List.filter_cons_of_neg (by simp [isDirect_of_isWlan hw])]

theorem mem_kinds_true {links : List LaneLinkType} (h : true ∈ kinds links) : ∃ l ∈ links, isWlan l = true := by
  obtain ⟨l, hl, hw⟩ := List.mem_map.mp h
  exact ⟨l, (List.mem_filter.mp hl).1, hw⟩

theorem ordered_of_forall_isWlan {links : List LaneLinkType} (h : ∀ l ∈ links, isWlan l = false) : Ordered links :=
  List.pairwise_iff_forall_sublist.mpr fun {a _} hsub hw => absurd (h a (hsub.subset (by simp))) (by simp [hw])

theorem sublist_kinds_iff {rest : List LaneLinkType} {w : LaneLinkType} (hw : isWlan w = true) :
    ∀ pre : List LaneLinkType, (∀ l ∈ pre, isWlan l = false) →
      ([true, true, false, false].Sublist (kinds (pre ++ w :: rest)) ↔ [true, false, false].Sublist (kinds rest))
  | [], _ => by rw [List.nil_append, kinds_cons_isWlan hw, List.cons_sublist_cons]
  | l :: pre, h => by
    have ih := @sublist_kinds_iff rest w hw pre fun l' hl' => h l' (by simp [hl'])
    by_cases hl : isDirect l = true
    · rw [List.cons_append, kinds_cons_isDirect hl, ← ih]
      simp [List.cons_sublist_cons']
    · rw [← ih, List.cons_append, kinds, List.filter_cons_of_neg (by simp [h l, hl])]
      rfl

theorem ordered_adjustLanePriority_iff (hscore : c.getLinkedChannelScore < unacceptScore) :
    Ordered (c.adjustLanePriority links) ↔ ¬[true, true, false, false].Sublist (kinds links) := by
  obtain ⟨h, hnone | hnone | hnone⟩ | ⟨pre, w, rest, rfl, hpre, hw, h⟩ := c.adjustLanePriority_cases links
  · refine iff_of_true (h.symm ▸ ordered_of_forall_isWlan hnone) fun hsub => ?_
    obtain ⟨l, hl, hw⟩ := mem_kinds_true (hsub.subset (by simp : true ∈ [true, true, false, false]))
    exact absurd (hnone l hl) (by simp [hw])
  · refine iff_of_true (h.symm ▸ ordered_of_forall hnone) fun hsub => ?_
    obtain ⟨l, hl, hd⟩ := mem_kinds_false.mp (hsub.subset (by simp : false ∈ [true, true, false, false]))
    exact absurd (hnone l hl) (by simp [hd])
  · omega
  · have hcarry : Ordered (carry w [] rest) ↔ ¬[true, false, false].Sublist (kinds rest) :=
      ordered_carry_iff hw rest [] (by simp)
    rw [h, sublist_kinds_iff hw pre hpre, ← hcarry]
    unfold Ordered
    rw [List.pairwise_append]
    exact ⟨fun h => h.2.1, fun h => ⟨ordered_of_forall_isWlan hpre, h, fun a ha _ _ hwa => by simp [hpre a ha] at hwa⟩⟩

end

/-! ## The selection -/

section
variable (c : LaneCapability) (request : LaneSelectParam)

/-- What a selected list is to be, against the list `links` before it was adjusted. -/
structure Selected (links res : List LaneLinkType) : Prop where
  nodup : res.Nodup
  enabled : ∀ l ∈ res, c.isValidLane l = true ∧ (request.transType.isStream = true → l.isBt = false)
  optimal : ∀ l ∈ c.decideOptimalLinks request, c.laneLatency l ≤ request.qosRequire.minLaneLatency.toNat
  -- a latency of 0 sets no budget
  retry : ∃ retry br, res.Perm (c.decideOptimalLinks request ++ (retry ++ br)) ∧ (br = [] ∨ br = [.br]) ∧
    (request.qosRequire.maxLaneLatency ≠ 0 →
      (retry.map c.laneLatency).sum ≤ max 0 (retryTime request (c.decideOptimalLinks request)))
  relative : res.filter isDirect = links.filter isDirect
  ordered : c.getLinkedChannelScore < unacceptScore → Ordered res

/-- The budget is not so near to the least integer that a latency taken from it overflows. -/
def NoOverflow : Prop :=
  request.qosRequire.maxLaneLatency ≠ 0 → ∀ l ∈ retryLaneList (getBwType request.qosRequire.minBW),
    -2147483648 ≤ retryTime request (c.decideOptimalLinks request) - c.laneLatency l

/-- Two WLAN entries stand before two direct ones. -/
def WlanFirst (links : List LaneLinkType) : Prop := [true, true, false, false].Sublist (kinds links)

variable {c request} {links : List LaneLinkType}

theorem mem_decideOptimalLinks {l : LaneLinkType} (h : l ∈ c.decideOptimalLinks request) :
    c.isValidLaneFor request.transType l = true ∧ c.laneLatency l ≤ request.qosRequire.minLaneLatency.toNat := by
  unfold decideOptimalLinks at h
  split at h
  · cases h
  · simpa using (List.mem_filter.mp h).2

theorem nodup_decideOptimalLinks : (c.decideOptimalLinks request).Nodup := by
  unfold decideOptimalLinks
  split
  · exact List.nodup_nil
  · refine List.Nodup.filter _ ?_
    cases getBwType request.qosRequire.minBW <;> decide

theorem isValidLaneFor_iff {t : LaneTransType} {l : LaneLinkType} :
    c.isValidLaneFor t l = true ↔ c.isValidLane l = true ∧ (t.isStream = true → l.isBt = false) := by
  unfold isValidLaneFor
  cases c.isValidLane l <;> cases t.isStream <;> simp

theorem addBr_appended (links : List LaneLinkType) :
    ∃ br, Appended c request.transType links br (c.addBr request links) ∧ (br = [] ∨ br = [.br]) := by
  unfold addBr
  split
  · rename_i h
    exact ⟨_, .cons h.2.1 h.2.2 (.nil _), .inr rfl⟩
  · exact ⟨_, .nil _, .inl rfl⟩

structure Listed (c : LaneCapability) (request : LaneSelectParam) (links : List LaneLinkType) : Prop where
  nodup : links.Nodup
  enabled : ∀ l ∈ links, c.isValidLane l = true ∧ (request.transType.isStream = true → l.isBt = false)
  retry : ∃ retry br, links = c.decideOptimalLinks request ++ (retry ++ br) ∧ (br = [] ∨ br = [.br]) ∧
    (request.qosRequire.maxLaneLatency ≠ 0 →
      (retry.map c.laneLatency).sum ≤ max 0 (retryTime request (c.decideOptimalLinks request)))

theorem decideAvailableLane_listed (h : c.decideAvailableLane request = some links) : Listed c request links := by
  have hvalid : ∀ {more : List LaneLinkType}, (∀ l ∈ more, c.isValidLaneFor request.transType l = true) →
      ∀ l ∈ c.decideOptimalLinks request ++ more,
        c.isValidLane l = true ∧ (request.transType.isStream = true → l.isBt = false) := by
    intro more hmore l hl
    rcases List.mem_append.mp hl with hl | hl
    · exact isValidLaneFor_iff.mp (mem_decideOptimalLinks hl).1
    · exact isValidLaneFor_iff.mp (hmore l hl)
  unfold decideAvailableLane decideRetryLinks at h
  split at h
  · rename_i hmax
    cases h
    obtain ⟨more, hmore⟩ := getAllLinksWithBw_appended (c := c) (t := request.transType)
      (retryLaneList (getBwType request.qosRequire.minBW)) (c.decideOptimalLinks request)
    exact ⟨hmore.nodup nodup_decideOptimalLinks, hmore.eq ▸ hvalid hmore.valid, more, [], by rw [hmore.eq, List.append_nil],
      .inl rfl, fun hne => absurd hmax hne⟩
  · obtain ⟨mid, hmid, rfl⟩ := Option.map_eq_some_iff.mp h
    obtain ⟨more, hmore, hsum⟩ := retryLoop_appended _ _ _ hmid
    obtain ⟨br, hbr, hkind⟩ := @addBr_appended c request mid
    have heq : c.addBr request mid = c.decideOptimalLinks request ++ (more ++ br) := by
      rw [hbr.eq, hmore.eq, List.append_assoc]
    refine ⟨hbr.nodup (hmore.nodup nodup_decideOptimalLinks), heq ▸ hvalid fun l hl => ?_, more, br, heq, hkind, fun _ => hsum⟩
    exact (List.mem_append.mp hl).elim (hmore.valid l) (hbr.valid l)

theorem selectByDefaultLink_listed (hmax : request.qosRequire.maxLaneLatency = 0)
    (hmin : request.qosRequire.minLaneLatency = 0) : Listed c request (c.selectByDefaultLink request) := by
  refine ⟨List.Nodup.filter _ ?_, fun l hl => ?_, c.selectByDefaultLink request, [], ?_, .inl rfl, fun h => absurd hmax h⟩
  · cases request.transType <;> decide
  · obtain ⟨hmem, hvalid⟩ := List.mem_filter.mp hl
    refine ⟨hvalid, fun hstream => ?_⟩
    have hbt : ∀ t : LaneTransType, t.isStream = true → ∀ l ∈ laneDefaultLink t, l.isBt = false := by
      intro t ht
      cases t <;> first | decide | cases ht
    exact hbt _ hstream l hmem
  · rw [decideOptimalLinks, if_pos hmin, List.append_nil]
    rfl

theorem laneLinkList_listed (h : c.laneLinkList request = some links) : Listed c request links := by
  unfold laneLinkList at h
  split at h
  · rename_i hzero
    cases h
    exact selectByDefaultLink_listed hzero.2.1 hzero.2.2
  · exact decideAvailableLane_listed h

theorem laneLinkList_isSome_iff : (c.laneLinkList request).isSome ↔ NoOverflow c request := by
  unfold laneLinkList NoOverflow
  split
  · rename_i hzero
    exact iff_of_true rfl fun h => absurd hzero.2.1 h
  · unfold decideAvailableLane decideRetryLinks
    split
    · rename_i hmax
      exact iff_of_true rfl fun h => absurd hmax h
    · rename_i hmax
      rw [Option.isSome_map, retryLoop_isSome]
      exact ⟨fun h _ => h, fun h => h hmax⟩

theorem Listed.selected (h : Listed c request links) :
    Selected c request links (c.adjustLanePriority links) ↔
      (c.getLinkedChannelScore < unacceptScore → ¬WlanFirst links) := by
  have hperm := c.adjustLanePriority_perm links
  constructor
  · exact fun hsel hscore => (c.ordered_adjustLanePriority_iff links hscore).mp (hsel.ordered hscore)
  · intro hcond
    obtain ⟨retry, br, heq, hkind, hsum⟩ := h.retry
    exact {
      nodup := hperm.nodup_iff.mpr h.nodup
      enabled := fun l hl => h.enabled l (hperm.mem_iff.mp hl)
      optimal := fun l hl => (mem_decideOptimalLinks hl).2
      retry := ⟨retry, br, heq ▸ hperm, hkind, hsum⟩
      relative := c.filter_adjustLanePriority links
      ordered := fun hscore => (c.ordered_adjustLanePriority_iff links hscore).mpr (hcond hscore) }

end

/-- The selection is what it is to be if and only if the budget does not overflow and, where the WLAN score is poor, the
list before the swaps does not have both WLAN links before HML and P2P. -/
theorem lane_select_iff (c : LaneCapability) (request : LaneSelectParam) :
    (∃ links res, c.laneLinkList request = some links ∧ c.selectExpectLanesByQos request = some res ∧
      Selected c request links res) ↔
    NoOverflow c request ∧
      ∀ links ∈ c.laneLinkList request, c.getLinkedChannelScore < unacceptScore → ¬WlanFirst links := by
  constructor
  · rintro ⟨links, res, hlinks, hres, hsel⟩
    rw [selectExpectLanesByQos, hlinks] at hres
    cases hres
    refine ⟨laneLinkList_isSome_iff.mp (by rw [hlinks]; rfl), fun links' hlinks' => ?_⟩
    cases hlinks.symm.trans hlinks'
    exact (laneLinkList_listed hlinks).selected.mp hsel
  · rintro ⟨hover, hcond⟩
    obtain ⟨links, hlinks⟩ := Option.isSome_iff_exists.mp (laneLinkList_isSome_iff.mpr hover)
    refine ⟨links, c.adjustLanePriority links, hlinks, by rw [selectExpectLanesByQos, hlinks]; rfl, ?_⟩
    exact (laneLinkList_listed hlinks).selected.mpr (hcond links hlinks)

def poorChannel : LaneCapability := ⟨fun _ => true, false, 2412, 1, 10⟩

def lowRequest : LaneSelectParam := ⟨.file, ⟨1, 0, 0⟩⟩

theorem wlan_stays_before_p2p :
    poorChannel.laneLinkList lowRequest = some [.wlan5g, .wlan2p4g, .hml, .p2p, .cocDirect, .br, .ble] ∧
      poorChannel.selectExpectLanesByQos lowRequest = some [.hml, .wlan2p4g, .p2p, .wlan5g, .cocDirect, .br, .ble] ∧
      poorChannel.getLinkedChannelScore < unacceptScore := by
  decide

end LaneCapability

end SoftBus
