import Mathlib.Data.List.DropRight
import SoftBus.Lib.FirstMatch
import SoftBus.Lib.Run

/-!
# The gear mode of the heartbeat

`LnnSetGearModeBySpecificType` and `LnnGetGearModeBySpecificType` of `lnn_heartbeat_strategy.c`, for the
manager of one heartbeat type. Times are in milliseconds. What is in the caller's buffer before a query
is arbitrary.
-/

namespace SoftBus

def hbGearmodeMaxSetCnt : Nat := 100
def hbGearmodeLifetimePermanent : Int := -1
def hbDefaultCallerId : String := "HEARTBEAT_DEFAULT_CALLER_ID"
def hbTimeFactor : Int := 1000

structure GearMode where
  cycle : Int
  duration : Int
  wakeupFlag : Bool
deriving DecidableEq, Repr

structure GearModeStorageInfo where
  callerId : String
  mode : GearMode
  lifeTimestamp : Int
deriving DecidableEq, Repr

structure LnnHeartbeatParamManager where
  gearModeCnt : Nat := 0
  gearModeList : List GearModeStorageInfo := []
deriving DecidableEq, Repr

inductive GearRet
  | ok
  | emptyList
  | err
deriving DecidableEq, Repr

def GearModeStorageInfo.isExpired (now : Int) (info : GearModeStorageInfo) : Bool :=
  info.lifeTimestamp < now && info.lifeTimestamp ≠ hbGearmodeLifetimePermanent

namespace GearMode

/-- `memset_s` gets the length `sizeof(GearMode) != EOK`: only the first byte, the low one of `cycle`, is cleared. -/
def clear (buffer : GearMode) : GearMode := { buffer with cycle := buffer.cycle - buffer.cycle % 256 }

def pick (mode info : GearMode) : GearMode :=
  if mode.cycle ≠ 0 ∧ mode.cycle < info.cycle then mode
  else if mode.cycle = info.cycle ∧ info.wakeupFlag = false then mode
  else info

end GearMode

def getGearModeFromSettingList (now : Int) :
    GearMode → Nat → List GearModeStorageInfo → GearRet × GearMode × LnnHeartbeatParamManager
  | mode, cnt, [] => (.ok, mode, ⟨cnt, []⟩)
  | mode, cnt, info :: list =>
    if cnt = 0 then (.emptyList, mode, ⟨cnt, info :: list⟩)
    else if info.isExpired now then getGearModeFromSettingList now mode (cnt - 1) list
    else
      let (ret, mode, mgr) := getGearModeFromSettingList now (mode.pick info.mode) cnt list
      (ret, mode, { mgr with gearModeList := info :: mgr.gearModeList })

def lnnGetGearModeBySpecificType (buffer : GearMode) (now : Int) (mgr : LnnHeartbeatParamManager) :
    GearRet × GearMode × LnnHeartbeatParamManager :=
  if mgr.gearModeList.isEmpty then (.emptyList, buffer.clear, mgr)
  else getGearModeFromSettingList now buffer.clear mgr.gearModeCnt mgr.gearModeList

def firstSetGearModeByCallerId (callerId : String) (now : Int) (mode : GearMode) : GearModeStorageInfo where
  callerId := callerId
  mode := mode
  lifeTimestamp :=
    if callerId = hbDefaultCallerId then hbGearmodeLifetimePermanent else now + mode.duration * hbTimeFactor

/-- `mem` tells whether there is memory for a new setting. -/
def lnnSetGearModeBySpecificType (callerId : String) (mode : GearMode) (now : Int) (mem : Bool)
    (mgr : LnnHeartbeatParamManager) : GearRet × LnnHeartbeatParamManager :=
  if hbGearmodeMaxSetCnt < mgr.gearModeCnt then (.err, mgr)
  else if mgr.gearModeList.any (·.callerId = callerId) then
    let reset (info : GearModeStorageInfo) : GearModeStorageInfo :=
      { info with mode := mode, lifeTimestamp := now + mode.duration * hbTimeFactor }
    (.ok, { mgr with gearModeList := FirstMatch.modify (·.callerId = callerId) reset mgr.gearModeList })
  else if mem then
    (.ok, ⟨mgr.gearModeCnt + 1, firstSetGearModeByCallerId callerId now mode :: mgr.gearModeList⟩)
  else (.err, mgr)

inductive GearCall
  | set (callerId : String) (mode : GearMode) (now : Int) (mem : Bool)
  | get (buffer : GearMode) (now : Int)

def GearCall.apply (mgr : LnnHeartbeatParamManager) : GearCall → LnnHeartbeatParamManager
  | .set callerId mode now mem => (lnnSetGearModeBySpecificType callerId mode now mem mgr).2
  | .get buffer now => (lnnGetGearModeBySpecificType buffer now mgr).2.2

namespace LnnHeartbeatParamManager

def live (mgr : LnnHeartbeatParamManager) (now : Int) : List GearModeStorageInfo :=
  mgr.gearModeList.filter (!·.isExpired now)

/-- `gearModeCnt` is the length of the list. -/
def Counted (mgr : LnnHeartbeatParamManager) : Prop := mgr.gearModeCnt = mgr.gearModeList.length

end LnnHeartbeatParamManager

/-! ## The loop -/

theorem getGearModeFromSettingList_eq (now : Int) : ∀ (list : List GearModeStorageInfo) (mode : GearMode) (kept : Nat),
    getGearModeFromSettingList now mode (kept + list.length) list =
      (.ok, ((list.filter (!·.isExpired now)).map (·.mode)).foldl .pick mode,
        ⟨kept + (list.filter (!·.isExpired now)).length, list.filter (!·.isExpired now)⟩)
  | [], _, _ => rfl
  | info :: list, mode, kept => by
    rw [getGearModeFromSettingList, if_neg (by simp)]
    cases hexp : info.isExpired now with
    | true =>
      rw [if_pos rfl, List.filter_cons_of_neg (by simp [hexp])]
      exact getGearModeFromSettingList_eq now list mode kept
    | false =>
      have hcnt : kept + (info :: list).length = kept + 1 + list.length := by
        rw [List.length_cons, Nat.add_assoc, Nat.add_comm 1]
      rw [if_neg (by simp), List.filter_cons_of_pos (by simp [hexp]), hcnt,
        getGearModeFromSettingList_eq now list _ (kept + 1)]
      simp [Nat.add_assoc, Nat.add_comm 1]

theorem lnnGetGearModeBySpecificType_eq {mgr : LnnHeartbeatParamManager} (h : mgr.Counted) (buffer : GearMode) (now : Int) :
    lnnGetGearModeBySpecificType buffer now mgr =
      (if mgr.gearModeList = [] then .emptyList else .ok, ((mgr.live now).map (·.mode)).foldl .pick buffer.clear,
        ⟨(mgr.live now).length, mgr.live now⟩) := by
  obtain ⟨cnt, list⟩ := mgr
  obtain rfl : cnt = list.length := h
  cases list with
  | nil => rfl
  | cons info list =>
    have hloop := getGearModeFromSettingList_eq now (info :: list) buffer.clear 0
    rw [Nat.zero_add, Nat.zero_add] at hloop
    exact hloop

theorem GearCall.counted_apply (mgr : LnnHeartbeatParamManager) (call : GearCall) (h : mgr.Counted) :
    (call.apply mgr).Counted := by
  cases call with
  | get buffer now =>
    rw [GearCall.apply, lnnGetGearModeBySpecificType_eq h]
    exact rfl
  | set callerId mode now mem =>
    rw [GearCall.apply, lnnSetGearModeBySpecificType]
    split
    · exact h
    split
    · exact h.trans (FirstMatch.length_modify _).symm
    split
    · exact congrArg (· + 1) h
    · exact h

/-! ## What the loop finds -/

namespace GearMode

/-- A mode of the list with the smallest cycle, which wakes the peer up if a mode of that cycle does. -/
def Best (modes : List GearMode) (mode : GearMode) : Prop :=
  mode ∈ modes ∧ (∀ info ∈ modes, mode.cycle ≤ info.cycle) ∧
    ∀ info ∈ modes, info.cycle = mode.cycle → info.wakeupFlag = true → mode.wakeupFlag = true

def HasWakeup (cycle : Int) (modes : List GearMode) : Prop :=
  ∃ info ∈ modes, info.cycle = cycle ∧ info.wakeupFlag = true

/-- The mode at the start gives way to one with the smallest cycle, or is as good as one. -/
def GivesWay (cycle : Int) (modes : List GearMode) (start : GearMode) : Prop :=
  cycle < start.cycle ∨ (start.cycle = 0 ∧ cycle ≠ 0) ∨
    (start.cycle = cycle ∧ (start ∈ modes ∨ HasWakeup cycle modes))

/-- The cycle 0 of a mode that was found counts as none found. -/
def Finds (modes : List GearMode) (start : GearMode) : Prop :=
  ∃ cycle, (∃ info ∈ modes, info.cycle = cycle) ∧ (∀ info ∈ modes, cycle ≤ info.cycle) ∧
    if cycle = 0 then
      0 ≤ start.cycle ∧
        let zeros := modes.rtakeWhile (·.cycle = 0)
        zeros ≠ [] ∧ (HasWakeup 0 modes → HasWakeup 0 zeros) ∧ (zeros = modes → GivesWay 0 modes start)
    else GivesWay cycle modes start

section
variable {cycle : Int} {modes : List GearMode} {start : GearMode}

theorem foldl_pick_of_eq : ∀ {modes : List GearMode} {start : GearMode}, (∀ info ∈ modes, cycle ≤ info.cycle) →
    (cycle ≠ 0 ∨ ∀ info ∈ modes, info.cycle = cycle) → start.cycle = cycle →
    (modes.foldl pick start).cycle = cycle ∧
      (HasWakeup cycle modes → modes.foldl pick start ∈ modes ∧ (modes.foldl pick start).wakeupFlag = true) ∧
      (¬ HasWakeup cycle modes → modes.foldl pick start = start)
  | [], _, _, _, hstart => ⟨hstart, by simp [HasWakeup], fun _ => rfl⟩
  | info :: modes, start, hle, hzero, hstart => by
    have hle' : ∀ info' ∈ modes, cycle ≤ info'.cycle := fun info' h => hle info' (.tail _ h)
    have hzero' : cycle ≠ 0 ∨ ∀ info' ∈ modes, info'.cycle = cycle := hzero.imp_right fun h info' hm => h info' (.tail _ hm)
    have hwake : HasWakeup cycle (info :: modes) ↔
        (info.cycle = cycle ∧ info.wakeupFlag = true) ∨ HasWakeup cycle modes := by
      simp [HasWakeup]
    rw [List.foldl_cons]
    by_cases htake : info.cycle = cycle ∧ info.wakeupFlag = true
    · have hpick : start.pick info = info := by
        rw [pick, if_neg (by omega), if_neg (by simp [htake.2])]
      obtain ⟨h1, h2, h3⟩ := foldl_pick_of_eq hle' hzero' htake.1
      rw [hpick]
      refine ⟨h1, fun _ => ?_, fun h => absurd (hwake.mpr (.inl htake)) h⟩
      by_cases hw : HasWakeup cycle modes
      · exact (h2 hw).imp_left (.tail _)
      · rw [h3 hw]
        exact ⟨.head _, htake.2⟩
    · have hpick : start.pick info = start := by
        have := hle info (.head _)
        rw [pick]
        split
        · rfl
        · rename_i hlt
          have heq : info.cycle = cycle := hzero.elim (by omega) fun hall => hall info (.head _)
          exact if_pos ⟨by omega, by simpa [heq] using htake⟩
      obtain ⟨h1, h2, h3⟩ := foldl_pick_of_eq hle' hzero' hstart
      rw [hpick, hwake, or_iff_right htake]
      exact ⟨h1, fun hw => (h2 hw).imp_left (.tail _), h3⟩

theorem best_foldl_pick : ∀ {modes : List GearMode} {start : GearMode}, (∀ info ∈ modes, cycle ≤ info.cycle) →
    (cycle ≠ 0 ∨ ∀ info ∈ modes, info.cycle = cycle) → (∃ info ∈ modes, info.cycle = cycle) →
    cycle < start.cycle ∨ (start.cycle = 0 ∧ cycle ≠ 0) → Best modes (modes.foldl pick start)
  | [], _, _, _, hex, _ => by simp at hex
  | info :: modes, start, hle, hzero, hex, hstart => by
    have hle' : ∀ info' ∈ modes, cycle ≤ info'.cycle := fun info' h => hle info' (.tail _ h)
    have hzero' : cycle ≠ 0 ∨ ∀ info' ∈ modes, info'.cycle = cycle := hzero.imp_right fun h info' hm => h info' (.tail _ hm)
    have hinfo := hle info (.head _)
    rw [List.foldl_cons]
    by_cases heq : info.cycle = cycle
    · have hpick : start.pick info = info := by
        rw [pick, if_neg (by omega), if_neg (by omega)]
      rw [hpick]
      obtain ⟨h1, h2, h3⟩ := foldl_pick_of_eq hle' hzero' heq
      by_cases hw : HasWakeup cycle modes
      · exact ⟨.tail _ (h2 hw).1, fun info' hm => h1.symm ▸ hle info' hm, fun _ _ _ _ => (h2 hw).2⟩
      · rw [h3 hw]
        refine ⟨.head _, fun info' hm => heq.symm ▸ hle info' hm, fun info' hm hcycle hwake => ?_⟩
        rcases List.mem_cons.mp hm with rfl | hm
        · exact hwake
        · exact absurd ⟨info', hm, hcycle.trans heq, hwake⟩ hw
    · have hex' : ∃ info' ∈ modes, info'.cycle = cycle := by
        obtain ⟨info', hm, hcycle⟩ := hex
        rcases List.mem_cons.mp hm with rfl | hm
        · exact absurd hcycle heq
        · exact ⟨info', hm, hcycle⟩
      have hne : cycle ≠ 0 := hzero.resolve_right fun h => heq (h info (.head _))
      have hpick : cycle < (start.pick info).cycle ∨ ((start.pick info).cycle = 0 ∧ cycle ≠ 0) := by
        unfold pick
        split
        · exact hstart
        split
        · exact hstart
        · exact .inl (by omega)
      obtain ⟨h1, h2, h3⟩ := best_foldl_pick hle' hzero' hex' hpick
      obtain ⟨info', hm, hcycle⟩ := hex'
      have hbest := h2 info' hm
      have hbest' := hle' _ h1
      refine ⟨.tail _ h1, fun info'' hm' => by have := hle info'' hm'; omega, fun info'' hm' hcycle' hw => ?_⟩
      rcases List.mem_cons.mp hm' with rfl | hm'
      · omega
      · exact h3 info'' hm' hcycle' hw

theorem foldl_pick_of_lt (hne : start.cycle ≠ 0) (h : ∀ info ∈ modes, start.cycle < info.cycle) :
    modes.foldl pick start = start := by
  refine (foldl_pick_of_eq (fun info hm => Int.le_of_lt (h info hm)) (.inl hne) rfl).2.2 ?_
  rintro ⟨info, hm, hcycle, -⟩
  have := h info hm
  omega

theorem best_iff_givesWay (hex : ∃ info ∈ modes, info.cycle = cycle) (hle : ∀ info ∈ modes, cycle ≤ info.cycle)
    (hzero : cycle ≠ 0 ∨ ∀ info ∈ modes, info.cycle = cycle) :
    Best modes (modes.foldl pick start) ↔ GivesWay cycle modes start := by
  by_cases hother : cycle < start.cycle ∨ (start.cycle = 0 ∧ cycle ≠ 0)
  · exact iff_of_true (best_foldl_pick hle hzero hex hother) (hother.imp_right .inl)
  by_cases hsame : start.cycle = cycle
  · obtain ⟨h1, h2, h3⟩ := foldl_pick_of_eq hle hzero hsame
    by_cases hw : HasWakeup cycle modes
    · refine iff_of_true ⟨(h2 hw).1, fun info hm => h1.symm ▸ hle info hm, fun _ _ _ _ => (h2 hw).2⟩ ?_
      exact .inr (.inr ⟨hsame, .inr hw⟩)
    · rw [h3 hw]
      constructor
      · exact fun hbest => .inr (.inr ⟨hsame, .inl hbest.1⟩)
      · rintro (h | h | ⟨-, h⟩)
        · exact absurd (.inl h) hother
        · exact absurd (.inr h) hother
        · refine ⟨h.resolve_right hw, fun info hm => hsame.symm ▸ hle info hm, fun info hm hcycle hwake => ?_⟩
          exact absurd ⟨info, hm, hcycle.trans hsame, hwake⟩ hw
  · refine iff_of_false (fun hbest => ?_) fun h => ?_
    · have hlt : ∀ info ∈ modes, start.cycle < info.cycle := fun info hm => by
        have := hle info hm
        omega
      obtain ⟨info, hm, hcycle⟩ := hex
      rw [foldl_pick_of_lt (by omega) hlt] at hbest
      exact absurd (hlt _ hbest.1) (Int.lt_irrefl _)
    · rcases h with h | h | h <;> omega

theorem pick_nonneg {info : GearMode} (hstart : 0 ≤ start.cycle) (hinfo : 0 ≤ info.cycle) : 0 ≤ (start.pick info).cycle := by
  unfold pick
  split
  · exact hstart
  split
  · exact hstart
  · exact hinfo

theorem foldl_pick_nonneg : ∀ {modes : List GearMode} {start : GearMode}, (∀ info ∈ modes, 0 ≤ info.cycle) →
    0 ≤ start.cycle → 0 ≤ (modes.foldl pick start).cycle
  | [], _, _, hstart => hstart
  | info :: modes, start, hle, hstart =>
    @foldl_pick_nonneg modes (start.pick info) (fun info' hm => hle info' (.tail _ hm))
      (pick_nonneg hstart (hle info (.head _)))

theorem foldl_pick_pos (hle : ∀ info ∈ modes, 0 ≤ info.cycle) (hstart : 0 ≤ start.cycle) (hne : modes ≠ [])
    (hlast : (modes.getLast hne).cycle ≠ 0) : 0 < (modes.foldl pick start).cycle := by
  have hinit : 0 ≤ (modes.dropLast.foldl pick start).cycle :=
    foldl_pick_nonneg (fun info hm => hle info (List.dropLast_subset modes hm)) hstart
  have hpos := hle _ (List.getLast_mem hne)
  rw [← List.dropLast_append_getLast hne, List.foldl_append, List.foldl_cons, List.foldl_nil, pick]
  split
  · omega
  split <;> omega

theorem best_iff_of_zero (hex : ∃ info ∈ modes, info.cycle = 0) (hle : ∀ info ∈ modes, 0 ≤ info.cycle) :
    Best modes (modes.foldl pick start) ↔ 0 ≤ start.cycle ∧
      let zeros := modes.rtakeWhile (·.cycle = 0)
      zeros ≠ [] ∧ (HasWakeup 0 modes → HasWakeup 0 zeros) ∧ (zeros = modes → GivesWay 0 modes start) := by
  by_cases hstart : 0 ≤ start.cycle
  case neg =>
    refine iff_of_false (fun hbest => ?_) fun h => hstart h.1
    rw [foldl_pick_of_lt (by omega) fun info hm => by have := hle info hm; omega] at hbest
    exact hstart (hle _ hbest.1)
  rw [and_iff_right hstart]
  dsimp only
  have hsplit : modes.rdropWhile (·.cycle = 0) ++ modes.rtakeWhile (·.cycle = 0) = modes :=
    List.rdropWhile_append_rtakeWhile
  have hdrop := @List.rdropWhile_last_not _ (fun info : GearMode => decide (info.cycle = 0)) modes
  have hzeros : ∀ info ∈ modes.rtakeWhile (·.cycle = 0), info.cycle = 0 :=
    fun info hm => by simpa using List.mem_rtakeWhile_imp hm
  generalize modes.rtakeWhile (·.cycle = 0) = zeros at *
  generalize modes.rdropWhile (·.cycle = 0) = before at *
  by_cases hnil : before = []
  · -- all cycles are 0
    subst hnil
    rw [List.nil_append] at hsplit
    subst hsplit
    rw [best_iff_givesWay hex hle (.inr hzeros)]
    obtain ⟨info, hm, -⟩ := hex
    exact ⟨fun h => ⟨List.ne_nil_of_mem hm, id, fun _ => h⟩, fun h => h.2.2 rfl⟩
  subst hsplit
  have hbefore : 0 < (before.foldl pick start).cycle :=
    foldl_pick_pos (fun info hm => hle info (List.mem_append_left _ hm)) hstart hnil (by simpa using hdrop hnil)
  have hother : zeros ≠ before ++ zeros := fun h => hnil (List.self_eq_append_left.mp h)
  rw [List.foldl_append, and_iff_left fun h => absurd h hother]
  cases zeros with
  | nil =>
    refine iff_of_false (fun hbest => ?_) fun h => h.1 rfl
    obtain ⟨info, hm, hcycle⟩ := hex
    have : (before.foldl pick start).cycle ≤ info.cycle := hbest.2.1 info hm
    omega
  | cons info zeros =>
    have hbest := best_foldl_pick (fun info' hm => Int.le_of_eq (hzeros info' hm).symm) (.inr hzeros)
      ⟨info, .head _, hzeros info (.head _)⟩ (.inl hbefore)
    have hcycle := hzeros _ hbest.1
    rw [and_iff_right (List.cons_ne_nil _ _)]
    constructor
    · rintro h ⟨info', hm, hcycle', hw⟩
      exact ⟨_, hbest.1, hcycle, h.2.2 info' hm (hcycle'.trans hcycle.symm) hw⟩
    · intro h
      refine ⟨List.mem_append_right _ hbest.1, fun info' hm => hcycle.symm ▸ hle info' hm, fun info' hm hcycle' hw => ?_⟩
      obtain ⟨info'', hm', hcycle'', hw'⟩ := h ⟨info', hm, hcycle'.trans hcycle, hw⟩
      exact hbest.2.2 info'' hm' (hcycle''.trans hcycle.symm) hw'

theorem best_iff_finds : Best modes (modes.foldl pick start) ↔ Finds modes start := by
  have hiff {cycle : Int} (hex : ∃ info ∈ modes, info.cycle = cycle) (hle : ∀ info ∈ modes, cycle ≤ info.cycle) :
      Best modes (modes.foldl pick start) ↔
        if cycle = 0 then
          0 ≤ start.cycle ∧
            let zeros := modes.rtakeWhile (·.cycle = 0)
            zeros ≠ [] ∧ (HasWakeup 0 modes → HasWakeup 0 zeros) ∧ (zeros = modes → GivesWay 0 modes start)
        else GivesWay cycle modes start := by
    split
    · rename_i hzero
      subst hzero
      exact best_iff_of_zero hex hle
    · rename_i hne
      exact best_iff_givesWay hex hle (.inl hne)
  constructor
  · intro hbest
    have hex : ∃ info ∈ modes, info.cycle = (modes.foldl pick start).cycle := ⟨_, hbest.1, rfl⟩
    exact ⟨_, hex, hbest.2.1, (hiff hex hbest.2.1).mp hbest⟩
  · rintro ⟨cycle, hex, hle, h⟩
    exact (hiff hex hle).mpr h

end

end GearMode

/-! ## Queries after any calls -/

/-- The answer to a query, given the unexpired settings: the empty-list code if there is none, and else the best mode. -/
def SelectsGear (modes : List GearMode) (ret : GearRet) (mode : GearMode) : Prop :=
  if modes = [] then ret = .emptyList else ret = .ok ∧ mode.Best modes

/-- The query is right if some setting has not expired or none is stored, and what is left in the buffer
gives way to the settings. It counts the settings and drops the expired ones in any case. -/
theorem gear_mode_selection_iff (calls : List GearCall) (buffer : GearMode) (now : Int) :
    let mgr := Run.final GearCall.apply {} calls
    let (ret, mode, mgr') := lnnGetGearModeBySpecificType buffer now mgr
    mgr.Counted ∧ mgr'.Counted ∧ mgr'.gearModeList = mgr.live now ∧
      (SelectsGear ((mgr.live now).map (·.mode)) ret mode ↔
        if mgr.live now = [] then mgr.gearModeList = []
        else GearMode.Finds ((mgr.live now).map (·.mode)) buffer.clear) := by
  have hcounted : (Run.final GearCall.apply {} calls).Counted :=
    Run.inv_final_of_step GearCall.counted_apply calls rfl
  generalize Run.final GearCall.apply {} calls = mgr at *
  dsimp only
  rw [lnnGetGearModeBySpecificType_eq hcounted]
  refine ⟨hcounted, rfl, rfl, ?_⟩
  by_cases hlive : mgr.live now = []
  · simp [SelectsGear, hlive]
  · have hne : mgr.gearModeList ≠ [] := fun h => hlive (by simp [LnnHeartbeatParamManager.live, h])
    rw [SelectsGear, if_neg (by simpa using hlive), if_neg hlive, if_neg hne, and_iff_right rfl,
      GearMode.best_iff_finds]

/-- The only setting has expired, and still the query succeeds, with a cycle that nobody has set. -/
theorem expired_gear_mode_found :
    let mgr := Run.final GearCall.apply {} [.set "caller" ⟨30, 60, false⟩ 0 true]
    let (ret, mode, mgr') := lnnGetGearModeBySpecificType ⟨0, 0, false⟩ 60001 mgr
    ret = .ok ∧ mode.cycle = 0 ∧ mgr'.gearModeList = [] ∧
      ¬ SelectsGear ((mgr.live 60001).map (·.mode)) ret mode := by
  refine ⟨by decide, by decide, by decide, fun h => ?_⟩
  have hret : GearRet.ok = .emptyList := h
  cases hret

end SoftBus
