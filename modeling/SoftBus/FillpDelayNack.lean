import SoftBus.Fillp
import SoftBus.Lib.Gaps
import SoftBus.Lib.Run

/-!
# The delayed NACK list

With `enableNackDelay` the receiver keeps the gaps in the packet numbers in
`recv.nackList` until a timer asks for them: `fillp_common.c` adds a node when a
packet jumps ahead, and takes a number out of the nodes when its packet comes late.

Whether there is memory for a new node comes with the packet. The timer is left out.
-/

namespace SoftBus

structure FillpNackNode where
  startPktNum : BitVec 32
  endPktNum : BitVec 32
  timestamp : Int
deriving DecidableEq, Repr

/-- `recv.pktNum` and `recv.nackList`. -/
structure FillpNackPcb where
  pktNum : BitVec 32
  nackList : List FillpNackNode
deriving DecidableEq, Repr

def fillpPacketInter : BitVec 32 := 2

/-- The loop of `FillpCheckAndUpdateDelayNackList`; `full` tells that there are
as many nodes as `mpRecvSize` allows. -/
def updateNackNodes (full mem : Bool) (curRecvPktNum : BitVec 32) : List FillpNackNode → List FillpNackNode
  | [] => []
  | node :: l =>
    if fillpNumIsbigger curRecvPktNum node.endPktNum then node :: updateNackNodes full mem curRecvPktNum l
    else if !fillpNumIsbigger curRecvPktNum node.startPktNum then node :: l
    else if curRecvPktNum = node.endPktNum then node :: l
    else if node.startPktNum = curRecvPktNum - 1 then
      if node.startPktNum = node.endPktNum - fillpPacketInter then l
      else { node with startPktNum := curRecvPktNum } :: l
    else if curRecvPktNum = node.endPktNum - 1 then { node with endPktNum := curRecvPktNum } :: l
    else if full then node :: l
    else if !mem then node :: l
    else { node with endPktNum := curRecvPktNum } :: { node with startPktNum := curRecvPktNum } :: l

namespace FillpNackPcb

def checkAndUpdateDelayNackList (mpRecvSize : Nat) (pcb : FillpNackPcb) (curRecvPktNum : BitVec 32)
    (mem : Bool) : FillpNackPcb :=
  { pcb with nackList := updateNackNodes (decide (mpRecvSize ≤ pcb.nackList.length)) mem curRecvPktNum pcb.nackList }

def addNodeAtDelayNackListTail (pcb : FillpNackPcb) (startPktNum endPktNum : BitVec 32) (curTime : Int) (mem : Bool) :
    FillpNackPcb :=
  if !mem then pcb else { pcb with nackList := pcb.nackList ++ [⟨startPktNum, endPktNum, curTime⟩] }

/-- `FillBiggerItem` with `enableNackDelay`, for the packet number of the item. -/
def fillBiggerItem (mpRecvSize : Nat) (pcb : FillpNackPcb) (pktNum : BitVec 32) (curTime : Int) (mem : Bool) :
    FillpNackPcb :=
  { if pcb.pktNum + 1 ≠ pktNum ∧ pcb.nackList.length < mpRecvSize then
      pcb.addNodeAtDelayNackListTail pcb.pktNum pktNum curTime mem
    else pcb with pktNum := pktNum }

end FillpNackPcb

inductive FillpNackEvent where
  | bigger (pktNum : BitVec 32) (curTime : Int) (mem : Bool)
  | late (curRecvPktNum : BitVec 32) (mem : Bool)
deriving DecidableEq, Repr

def FillpNackEvent.number : FillpNackEvent → BitVec 32
  | .bigger pktNum _ _ => pktNum
  | .late curRecvPktNum _ => curRecvPktNum

/-- `FillpDataToStack` calls `FillBiggerItem` for a number bigger than `recv.pktNum`. -/
def FillpNackPcb.next (mpRecvSize : Nat) (pcb : FillpNackPcb) : FillpNackEvent → FillpNackPcb
  | .bigger pktNum curTime mem =>
    if fillpNumIsbigger pktNum pcb.pktNum then pcb.fillBiggerItem mpRecvSize pktNum curTime mem else pcb
  | .late curRecvPktNum mem => pcb.checkAndUpdateDelayNackList mpRecvSize curRecvPktNum mem

/-! ## Nodes as sets of numbers -/

def numbersBetween (startPktNum endPktNum : BitVec 32) : Set (BitVec 32) :=
  {p | 0 < seqPos startPktNum p ∧ seqPos startPktNum p < seqPos startPktNum endPktNum}

def FillpNackNode.gap (node : FillpNackNode) : Set (BitVec 32) := numbersBetween node.startPktNum node.endPktNum

def FillpNackPcb.gaps (pcb : FillpNackPcb) : Set (BitVec 32) := {p | ∃ node ∈ pcb.nackList, p ∈ node.gap}

structure FillpNackPcb.GapsInOrder (pcb : FillpNackPcb) : Prop where
  nonempty : ∀ node ∈ pcb.nackList, node.gap.Nonempty
  disjoint : pcb.nackList.Pairwise fun a b => Disjoint a.gap b.gap
  increasing : pcb.nackList.Pairwise fun a b => ∀ p ∈ a.gap, ∀ q ∈ b.gap, fillpNumIsbigger q p = true

/-- A packet that jumps ahead adds the numbers it jumps over; a late one takes its own number away. Without memory for
a node there is nothing to add, and a node that has to be split stays whole. -/
def FillpNackPcb.TracksGaps (mpRecvSize : Nat) (pcb : FillpNackPcb) (event : FillpNackEvent) : Prop :=
  match event with
  | .bigger pktNum _ mem =>
    (pcb.next mpRecvSize event).gaps =
      if fillpNumIsbigger pktNum pcb.pktNum ∧ mem then pcb.gaps ∪ numbersBetween pcb.pktNum pktNum else pcb.gaps
  | .late curRecvPktNum mem =>
    (pcb.next mpRecvSize event).gaps = pcb.gaps \ {curRecvPktNum} ∨
      mem = false ∧ (pcb.next mpRecvSize event).nackList = pcb.nackList

section
variable {base : BitVec 32}

def FillpNackNode.span (base : BitVec 32) (node : FillpNackNode) : Nat × Nat :=
  (seqPos base node.startPktNum, seqPos base node.endPktNum)

def FillpNackNode.Fits (base : BitVec 32) (node : FillpNackNode) : Prop :=
  InWindow base node.startPktNum ∧ InWindow base node.endPktNum

theorem mem_numbersBetween {startPktNum endPktNum : BitVec 32}
    (h : seqPos base startPktNum ≤ seqPos base endPktNum) (p : BitVec 32) :
    p ∈ numbersBetween startPktNum endPktNum ↔
      seqPos base startPktNum < seqPos base p ∧ seqPos base p < seqPos base endPktNum := by
  have hend : seqPos startPktNum endPktNum = seqPos base endPktNum - seqPos base startPktNum := toNat_sub_eq_seqPos h
  unfold numbersBetween
  rw [Set.mem_ofPred_eq, hend]
  rcases Nat.lt_or_ge (seqPos base p) (seqPos base startPktNum) with hp | hp
  · -- a number before the start is further from it than the end
    have hsub : p - startPktNum = (p - base) - (startPktNum - base) := (sub_sub_sub_cancel_right p startPktNum base).symm
    have hpos : seqPos startPktNum p = 4294967296 - seqPos base startPktNum + seqPos base p := by
      have hs := seqPos_lt base startPktNum
      unfold seqPos at hp hs ⊢
      rw [hsub, BitVec.toNat_sub, Nat.mod_eq_of_lt (by omega)]
    have hlt := seqPos_lt base endPktNum
    omega
  · have hpos : seqPos startPktNum p = seqPos base p - seqPos base startPktNum := toNat_sub_eq_seqPos hp
    omega

theorem mem_gaps {pcb : FillpNackPcb} (htidy : Gaps.Tidy (pcb.nackList.map (FillpNackNode.span base)))
    (p : BitVec 32) : p ∈ pcb.gaps ↔ seqPos base p ∈ Gaps.covered (pcb.nackList.map (FillpNackNode.span base)) := by
  have hmem : ∀ node ∈ pcb.nackList, p ∈ node.gap ↔ seqPos base p ∈ Set.Ioo (node.span base).1 (node.span base).2 := by
    intro node hn
    have hwide := htidy.wide _ (List.mem_map_of_mem hn)
    exact mem_numbersBetween (show (node.span base).1 ≤ (node.span base).2 by omega) p
  unfold FillpNackPcb.gaps Gaps.covered
  simp only [Set.mem_ofPred_eq, List.mem_map, exists_exists_and_eq_and]
  exact exists_congr fun node => and_congr_right fun hn => hmem node hn

theorem seqPos_sub_of_le {x : BitVec 32} {k : Nat} (h : k ≤ seqPos base x) :
    seqPos base (x - BitVec.ofNat 32 k) = seqPos base x - k := by
  have hsub : x - BitVec.ofNat 32 k - base = x - base - BitVec.ofNat 32 k := sub_right_comm _ _ _
  have hlt := seqPos_lt base x
  unfold seqPos at h hlt ⊢
  have hk : (BitVec.ofNat 32 k).toNat = k := by
    rw [BitVec.toNat_ofNat, Nat.mod_eq_of_lt (by omega)]
  rw [hsub, BitVec.toNat_sub_of_le (BitVec.le_def.mpr (by omega)), hk]

theorem eq_sub_iff_seqPos (x : BitVec 32) {y : BitVec 32} {k : Nat} (h : k ≤ seqPos base y) :
    x = y - BitVec.ofNat 32 k ↔ seqPos base x + k = seqPos base y := by
  have hsub := seqPos_sub_of_le h
  constructor
  · rintro rfl
    omega
  · intro heq
    have hpos : seqPos base x = seqPos base (y - BitVec.ofNat 32 k) := by omega
    exact seqPos_inj hpos

theorem updateNackNodes_or (full mem : Bool) (p : BitVec 32) : ∀ l : List FillpNackNode,
    updateNackNodes full mem p l = updateNackNodes false true p l ∨
      (full || !mem) = true ∧ updateNackNodes full mem p l = l
  | [] => .inl rfl
  | node :: l => by
    unfold updateNackNodes
    split
    · rcases updateNackNodes_or full mem p l with ih | ⟨hrefused, ih⟩
      · exact .inl (by rw [ih])
      · exact .inr ⟨hrefused, by rw [ih]⟩
    · repeat' split
      all_goals simp_all

theorem updateNackNodes_span {p : BitVec 32} (hp : InWindow base p) : ∀ {l : List FillpNackNode},
    (∀ node ∈ l, node.Fits base) → Gaps.Tidy (l.map (FillpNackNode.span base)) →
    (updateNackNodes false true p l).map (FillpNackNode.span base) =
      Gaps.remove (seqPos base p) (l.map (FillpNackNode.span base))
  | [], _, _ => rfl
  | node :: l, hfits, htidy => by
    obtain ⟨hstart, hend⟩ := hfits node List.mem_cons_self
    obtain ⟨hwide, -, hl⟩ := htidy.of_cons
    have ih := updateNackNodes_span hp (fun n hn => hfits n (List.mem_cons_of_mem _ hn)) hl
    have hafter := hp.isbigger_iff hend
    have hbefore := hp.isbigger_eq_false_iff hstart
    have hlast : p = node.endPktNum ↔ seqPos base p = seqPos base node.endPktNum :=
      ⟨fun h => by rw [h], seqPos_inj⟩
    unfold FillpNackNode.span at hwide
    dsimp only at hwide
    have hsingle := eq_sub_iff_seqPos node.startPktNum (show 2 ≤ seqPos base node.endPktNum by omega)
    have hpre := eq_sub_iff_seqPos p (show 1 ≤ seqPos base node.endPktNum by omega)
    rw [List.map_cons]
    unfold updateNackNodes Gaps.remove
    simp only [Bool.not_eq_true', Bool.not_true, Bool.false_eq_true, if_false]
    by_cases h₁ : fillpNumIsbigger p node.endPktNum = true
    · rw [if_pos h₁, if_pos (show (node.span base).2 < _ from hafter.mp h₁), List.map_cons, ih]
    rw [if_neg h₁, if_neg (show ¬(node.span base).2 < _ from fun h => h₁ (hafter.mpr h))]
    by_cases h₂ : fillpNumIsbigger p node.startPktNum = false
    · rw [if_pos h₂, if_pos (show _ ≤ (node.span base).1 from hbefore.mp h₂), List.map_cons]
    rw [if_neg h₂, if_neg (show ¬_ ≤ (node.span base).1 from fun h => h₂ (hbefore.mpr h))]
    have hlt : seqPos base node.startPktNum < seqPos base p := Nat.not_le.mp fun h => h₂ (hbefore.mpr h)
    have hfirst := eq_sub_iff_seqPos node.startPktNum (show 1 ≤ seqPos base p by omega)
    by_cases h₃ : p = node.endPktNum
    · rw [if_pos h₃, if_pos (show _ = (node.span base).2 from hlast.mp h₃), List.map_cons]
    rw [if_neg h₃, if_neg (show ¬_ = (node.span base).2 from fun h => h₃ (hlast.mpr h))]
    by_cases h₄ : node.startPktNum = p - 1
    · rw [if_pos h₄, if_pos (show (node.span base).1 + 1 = _ from hfirst.mp h₄)]
      by_cases h₅ : node.startPktNum = node.endPktNum - fillpPacketInter
      · rw [if_pos h₅, if_pos (show (node.span base).1 + 2 = (node.span base).2 from hsingle.mp h₅)]
      · rw [if_neg h₅, if_neg (show ¬(node.span base).1 + 2 = (node.span base).2 from fun h => h₅ (hsingle.mpr h))]
        rfl
    rw [if_neg h₄, if_neg (show ¬(node.span base).1 + 1 = _ from fun h => h₄ (hfirst.mpr h))]
    by_cases h₆ : p = node.endPktNum - 1
    · rw [if_pos h₆, if_pos (show _ + 1 = (node.span base).2 from hpre.mp h₆)]
      rfl
    · rw [if_neg h₆, if_neg (show ¬_ + 1 = (node.span base).2 from fun h => h₆ (hpre.mpr h))]
      rfl

theorem updateNackNodes_fits {p : BitVec 32} (hp : InWindow base p) : ∀ {l : List FillpNackNode},
    (∀ node ∈ l, node.Fits base) → ∀ node ∈ updateNackNodes false true p l, node.Fits base
  | [], _, _, hn => nomatch hn
  | node :: l, hfits, other, hn => by
    have hnode := hfits node List.mem_cons_self
    have hl : ∀ n ∈ l, n.Fits base := fun n hm => hfits n (List.mem_cons_of_mem _ hm)
    have ih := fun hm => updateNackNodes_fits hp hl other hm
    unfold updateNackNodes at hn
    simp only [Bool.not_true, Bool.false_eq_true, if_false] at hn
    split_ifs at hn
    · rcases List.mem_cons.mp hn with rfl | hn
      · exact hnode
      · exact ih hn
    · exact hfits other hn
    · exact hfits other hn
    · exact hl other hn
    · rcases List.mem_cons.mp hn with rfl | hn
      · exact ⟨hp, hnode.2⟩
      · exact hl other hn
    · rcases List.mem_cons.mp hn with rfl | hn
      · exact ⟨hnode.1, hp⟩
      · exact hl other hn
    · rcases List.mem_cons.mp hn with rfl | hn
      · exact ⟨hnode.1, hp⟩
      rcases List.mem_cons.mp hn with rfl | hn
      · exact ⟨hp, hnode.2⟩
      · exact hl other hn

/-! ## Runs -/

structure FillpNackPcb.Tracked (base : BitVec 32) (pcb : FillpNackPcb) : Prop where
  pktNum : InWindow base pcb.pktNum
  fits : ∀ node ∈ pcb.nackList, node.Fits base
  tidy : Gaps.Tidy (pcb.nackList.map (FillpNackNode.span base))
  last : ∀ node ∈ pcb.nackList, seqPos base node.endPktNum ≤ seqPos base pcb.pktNum

theorem FillpNackPcb.Tracked.init {pktNum : BitVec 32} (h : InWindow base pktNum) :
    FillpNackPcb.Tracked base ⟨pktNum, []⟩ := ⟨h, nofun, .nil, nofun⟩

variable {pcb : FillpNackPcb} {mpRecvSize : Nat}

theorem FillpNackPcb.Tracked.gapsInOrder (h : pcb.Tracked base) : pcb.GapsInOrder := by
  have hmem : ∀ node ∈ pcb.nackList, ∀ p, p ∈ node.gap ↔
      seqPos base node.startPktNum < seqPos base p ∧ seqPos base p < seqPos base node.endPktNum := by
    intro node hn
    have hwide := h.tidy.wide _ (List.mem_map_of_mem hn)
    exact mem_numbersBetween (show (node.span base).1 ≤ (node.span base).2 by omega)
  -- the numbers of a node come before those of a later one
  have hbefore : pcb.nackList.Pairwise fun a b => ∀ p ∈ a.gap, ∀ q ∈ b.gap,
      seqPos base p < seqPos base q ∧ seqPos base q < 2147483648 := by
    refine (List.pairwise_map.mp h.tidy.sorted).imp_of_mem ?_
    intro a b ha hb hle p hp q hq
    have hfits := (h.fits b hb).2
    rw [hmem a ha] at hp
    rw [hmem b hb] at hq
    unfold FillpNackNode.span at hle
    unfold InWindow at hfits
    dsimp only at hle
    omega
  refine ⟨fun node hn => ?_, hbefore.imp fun hlt => ?_, hbefore.imp fun hlt p hp q hq => ?_⟩
  · have hwide : seqPos base node.startPktNum + 2 ≤ seqPos base node.endPktNum :=
      h.tidy.wide _ (List.mem_map_of_mem hn)
    have hfits := (h.fits node hn).2
    unfold InWindow at hfits
    have hpos := seqPos_seqAt base (n := seqPos base node.startPktNum + 1) (by omega)
    refine ⟨seqAt base (seqPos base node.startPktNum + 1), (hmem node hn _).mpr ?_⟩
    omega
  · refine Set.disjoint_left.mpr fun p hp hq => ?_
    exact absurd (hlt p hp p hq).1 (Nat.lt_irrefl _)
  · obtain ⟨hpq, hq⟩ := hlt p hp q hq
    have hwindow : InWindow base q := hq
    exact (hwindow.isbigger_iff (Nat.lt_trans hpq hq)).mpr hpq

theorem FillpNackPcb.Tracked.late (h : pcb.Tracked base) (hroom : pcb.nackList.length < mpRecvSize) {p : BitVec 32}
    (hp : InWindow base p) (mem : Bool) : (pcb.checkAndUpdateDelayNackList mpRecvSize p mem).Tracked base ∧
      ((pcb.checkAndUpdateDelayNackList mpRecvSize p mem).gaps = pcb.gaps \ {p} ∨
        mem = false ∧ (pcb.checkAndUpdateDelayNackList mpRecvSize p mem).nackList = pcb.nackList) := by
  unfold FillpNackPcb.checkAndUpdateDelayNackList
  rw [decide_eq_false (Nat.not_le.mpr hroom)]
  rcases updateNackNodes_or false mem p pcb.nackList with hupdate | ⟨hmem, hsame⟩
  rotate_left
  · rw [hsame]
    exact ⟨h, .inr ⟨by simpa using hmem, rfl⟩⟩
  have hspan := updateNackNodes_span hp h.fits h.tidy
  have htidy : Gaps.Tidy ((updateNackNodes false true p pcb.nackList).map (FillpNackNode.span base)) := by
    rw [hspan]
    exact h.tidy.remove
  rw [hupdate]
  refine ⟨⟨h.pktNum, updateNackNodes_fits hp h.fits, htidy, fun node hn => ?_⟩, .inl ?_⟩
  · have hmem := List.mem_map_of_mem (f := FillpNackNode.span base) hn
    rw [hspan] at hmem
    obtain ⟨_, hold, -, hle⟩ := Gaps.within_of_mem_remove _ hmem
    obtain ⟨old, hm, rfl⟩ := List.mem_map.mp hold
    exact Nat.le_trans hle (h.last old hm)
  · ext q
    have hq : q = p ↔ seqPos base q = seqPos base p := ⟨fun he => by rw [he], seqPos_inj⟩
    rw [mem_gaps htidy, hspan, Gaps.covered_remove h.tidy, Set.mem_sdiff, Set.mem_sdiff, mem_gaps h.tidy,
      Set.mem_singleton_iff, Set.mem_singleton_iff, hq]

theorem FillpNackPcb.Tracked.bigger (h : pcb.Tracked base) (hroom : pcb.nackList.length < mpRecvSize)
    {pktNum : BitVec 32} (hp : InWindow base pktNum) (hbig : fillpNumIsbigger pktNum pcb.pktNum = true) (curTime : Int)
    (mem : Bool) : (pcb.fillBiggerItem mpRecvSize pktNum curTime mem).Tracked base ∧
      (pcb.fillBiggerItem mpRecvSize pktNum curTime mem).gaps =
        if mem then pcb.gaps ∪ numbersBetween pcb.pktNum pktNum else pcb.gaps := by
  have hlt := (hp.isbigger_iff h.pktNum).mp hbig
  have hnext := eq_sub_iff_seqPos pcb.pktNum (show 1 ≤ seqPos base pktNum by omega)
  have hbetween := mem_numbersBetween (Nat.le_of_lt hlt)
  unfold FillpNackPcb.fillBiggerItem
  by_cases hsucc : pcb.pktNum + 1 = pktNum
  · -- no number lies between
    have hpos := hnext.mp (eq_sub_of_add_eq hsucc)
    rw [if_neg fun hc => hc.1 hsucc]
    refine ⟨⟨hp, h.fits, h.tidy, fun node hn => Nat.le_trans (h.last node hn) (Nat.le_of_lt hlt)⟩, ?_⟩
    have hempty : numbersBetween pcb.pktNum pktNum = ∅ := by
      ext q
      rw [hbetween, Set.mem_empty_iff_false, iff_false]
      omega
    rw [hempty, Set.union_empty, ite_self]
    rfl
  · have hwide : seqPos base pcb.pktNum + 2 ≤ seqPos base pktNum := by
      have hne : seqPos base pcb.pktNum + 1 ≠ seqPos base pktNum :=
        fun he => hsucc (add_eq_of_eq_sub (hnext.mpr he))
      omega
    rw [if_pos ⟨hsucc, hroom⟩]
    cases mem with
    | false => exact ⟨⟨hp, h.fits, h.tidy, fun node hn => Nat.le_trans (h.last node hn) (Nat.le_of_lt hlt)⟩, rfl⟩
    | true =>
    rw [if_pos rfl]
    have htidy : Gaps.Tidy
        ((pcb.addNodeAtDelayNackListTail pcb.pktNum pktNum curTime true).nackList.map (FillpNackNode.span base)) := by
      unfold FillpNackPcb.addNodeAtDelayNackListTail
      rw [if_neg (by decide), List.map_append]
      refine h.tidy.concat hwide fun other ho => ?_
      obtain ⟨node, hn, rfl⟩ := List.mem_map.mp ho
      exact h.last node hn
    refine ⟨⟨hp, fun node hn => ?_, htidy, fun node hn => ?_⟩, ?_⟩
    · rcases List.mem_append.mp hn with hn | hn
      · exact h.fits node hn
      · rw [List.mem_singleton.mp hn]
        exact ⟨h.pktNum, hp⟩
    · rcases List.mem_append.mp hn with hn | hn
      · exact Nat.le_trans (h.last node hn) (Nat.le_of_lt hlt)
      · rw [List.mem_singleton.mp hn]
    · ext q
      show q ∈ (pcb.addNodeAtDelayNackListTail pcb.pktNum pktNum curTime true).gaps ↔ _
      rw [mem_gaps htidy, Set.mem_union, mem_gaps h.tidy, hbetween]
      unfold FillpNackPcb.addNodeAtDelayNackListTail
      rw [if_neg (by decide), List.map_append]
      exact Set.ext_iff.mp (Gaps.covered_concat _ _) _

theorem FillpNackPcb.Tracked.next (h : pcb.Tracked base) (hroom : pcb.nackList.length < mpRecvSize)
    {event : FillpNackEvent} (hevent : InWindow base event.number) :
    (pcb.next mpRecvSize event).Tracked base ∧ pcb.TracksGaps mpRecvSize event := by
  cases event with
  | bigger pktNum curTime mem =>
    unfold FillpNackPcb.TracksGaps FillpNackPcb.next
    dsimp only
    by_cases hbig : fillpNumIsbigger pktNum pcb.pktNum = true
    · simp only [hbig, true_and]
      exact h.bigger hroom hevent hbig curTime mem
    · rw [if_neg hbig, if_neg fun hand => hbig hand.1]
      exact ⟨h, rfl⟩
  | late curRecvPktNum mem => exact h.late hroom hevent mem

end

def lateRun : List FillpNackEvent :=
  [.bigger 3 10 true, .bigger 7 20 true, .late 1 true, .late 4294967295 true, .late 5 false, .late 5 true]

end SoftBus
