import Mathlib.Data.List.Nodup
import Mathlib.Data.List.Perm.Basic
import SoftBus.Lib.Run

/-!
# Detecting whether a lane is reliable

`LaneDetectReliability` of `lnn_lane_reliability.c` with the socket events and timeouts that end a detection. Calls,
event handlers and timeouts run on threads of their own; a step is what one of them does between two of its locks or
posts. Each call has a number, which stands for its `lnnReqId` and callbacks, and `κ` is an address with its port.
-/

namespace SoftBus

def reqIdMax : Nat := 1000000

structure LaneDetectInfo (κ : Type) where
  request : Nat
  addr : κ
  wlanFd : Int
  laneDetectId : Nat
deriving DecidableEq, Repr

inductive SetupStage where
  | inserted
  | posted
  | triggered
  | failing
deriving DecidableEq, Repr

structure DetectSetup where
  request : Nat
  laneDetectId : Nat
  stage : SetupStage
deriving DecidableEq, Repr

def DetectSetup.isPending (setup : DetectSetup) : Bool := setup.stage = .inserted || setup.stage = .failing

/-- A handler that has found its detect id and will notify all requests that have it. That of a socket event
removes the timeout before. -/
structure DetectHandler where
  laneDetectId : Nat
  isSendSuc : Bool
  removesTimeout : Bool
deriving DecidableEq, Repr

/-- `timeouts` has the detect ids of the posted messages; `accepted` and `refused` are the calls that have returned
`SOFTBUS_OK` and an error, `callbacks` those that were made. -/
structure LaneDetect (κ : Type) where
  list : List (LaneDetectInfo κ) := []
  reqId : Nat := 0
  timeouts : List Nat := []
  connecting : List (Nat × κ) := []
  setups : List DetectSetup := []
  handlers : List DetectHandler := []
  requests : Nat := 0
  accepted : List Nat := []
  refused : List Nat := []
  callbacks : List (Nat × Bool) := []
deriving DecidableEq, Repr

inductive DetectEvent (κ : Type) where
  -- no address where the link is not WLAN; `mem`: there is memory for the entry
  | detect (addr : Option κ) (isReliable mem : Bool)
  | connected (i : Nat) (fd : Option Int)
  | advance (i : Nat) (ok : Bool)
  | writable (fd : Int) (isSendSuc : Bool)
  | exception (fd : Int)
  | timeout (i : Nat)
  | notify (i : Nat)
deriving DecidableEq, Repr

namespace LaneDetect

variable {κ : Type} (s : LaneDetect κ)

def getLaneDetectIdWithoutLock : Nat := s.reqId % reqIdMax + 1

def delLaneDetectInfo (detectId : Nat) : LaneDetect κ :=
  { s with list := s.list.filter (·.laneDetectId ≠ detectId) }

def removeDetectTimeoutMessage (detectId : Nat) : LaneDetect κ :=
  { s with timeouts := s.timeouts.filter (· ≠ detectId) }

def accept (request : Nat) : LaneDetect κ := { s with accepted := s.accepted ++ [request] }

def refuse (request : Nat) : LaneDetect κ := { s with refused := s.refused ++ [request] }

/-- `LaneDetectReliability`, up to `ClientConnectTcp`. -/
def laneDetectReliability [DecidableEq κ] (addr : Option κ) (isReliable mem : Bool) : LaneDetect κ :=
  let request := s.requests
  let s' := { s with requests := request + 1 }
  if isReliable then { s' with callbacks := s.callbacks ++ [(request, true)] }.accept request
  else match addr with
    | none => s'.refuse request
    | some addr =>
      if !mem then s'.refuse request
      else match s.list.find? (·.addr = addr) with
        | some item =>
          let info : LaneDetectInfo κ := ⟨request, addr, item.wlanFd, item.laneDetectId⟩
          { s' with list := s.list ++ [info] }.accept request
        | none => { s' with connecting := s.connecting ++ [(request, addr)] }

def clientConnected (request : Nat) (addr : κ) : Option Int → LaneDetect κ
  | none => s.refuse request
  | some fd =>
    let detectId := s.getLaneDetectIdWithoutLock
    { s with
      reqId := detectId
      list := s.list ++ [⟨request, addr, fd, detectId⟩]
      setups := s.setups ++ [⟨request, detectId, .inserted⟩] }

/-- The rest of `WlanDetectReliability`: `PostDetectTimeoutMessage`, `AddTrigger`, and the return. -/
def advanceSetup (setup : DetectSetup) (ok : Bool) : LaneDetect κ :=
  match setup.stage with
  | .inserted =>
    if ok then
      { s with
        timeouts := s.timeouts ++ [setup.laneDetectId]
        setups := s.setups ++ [{ setup with stage := .posted }] }
    else { s with setups := s.setups ++ [{ setup with stage := .failing }] }
  | .posted =>
    if ok then { s with setups := s.setups ++ [{ setup with stage := .triggered }] }
    else { s with setups := s.setups ++ [{ setup with stage := .failing }] }.removeDetectTimeoutMessage setup.laneDetectId
  | .triggered => s.accept setup.request
  | .failing => (s.delLaneDetectInfo setup.laneDetectId).refuse setup.request

/-- `GetAllDetectInfoWithDetectId` and the callbacks of `NotifyWlanDetectResult` and `NotifyDetectTimeout`. -/
def notifyDetectResult (handler : DetectHandler) : LaneDetect κ :=
  let items := s.list.filter (·.laneDetectId = handler.laneDetectId)
  { s.delLaneDetectInfo handler.laneDetectId with
    callbacks := s.callbacks ++ items.map fun item => (item.request, handler.isSendSuc) }

def step [DecidableEq κ] (s : LaneDetect κ) : DetectEvent κ → LaneDetect κ
  | .detect addr isReliable mem => s.laneDetectReliability addr isReliable mem
  | .connected i fd =>
    match s.connecting[i]? with
    | none => s
    | some (request, addr) => { s with connecting := s.connecting.eraseIdx i }.clientConnected request addr fd
  | .advance i ok =>
    match s.setups[i]? with
    | none => s
    | some setup => { s with setups := s.setups.eraseIdx i }.advanceSetup setup ok
  | .writable fd isSendSuc =>
    match s.list.find? (·.wlanFd = fd) with
    | none => s
    | some item => { s with handlers := s.handlers ++ [⟨item.laneDetectId, isSendSuc, true⟩] }
  -- the socket is shut down, the requests wait for the timeout
  | .exception _ => s
  | .timeout i =>
    match s.timeouts[i]? with
    | none => s
    | some detectId =>
      { s with timeouts := s.timeouts.eraseIdx i, handlers := s.handlers ++ [⟨detectId, false, false⟩] }
  | .notify i =>
    match s.handlers[i]? with
    | none => s
    | some handler =>
      let s' := { s with handlers := s.handlers.eraseIdx i }
      if handler.removesTimeout then
        { s' with handlers := s'.handlers ++ [{ handler with removesTimeout := false }] }.removeDetectTimeoutMessage
          handler.laneDetectId
      else s'.notifyDetectResult handler

/-! ## Who gets a callback -/

/-- The requests with a callback, and those that wait in the list. -/
def held : List Nat := s.callbacks.map (·.1) ++ s.list.map (·.request)

/-- The detect id will be looked at. -/
def Covers (detectId : Nat) : Prop :=
  detectId ∈ s.timeouts ∨ detectId ∈ s.handlers.map (·.laneDetectId) ∨
    ∃ setup ∈ s.setups, setup.isPending = true ∧ setup.laneDetectId = detectId

/-- Accepted requests have one callback or wait for it, refused ones have none and wait for none. -/
structure Answered : Prop where
  once : s.held.Nodup
  accepted : ∀ r ∈ s.accepted, r ∈ s.held
  refused : ∀ r ∈ s.refused, r ∉ s.held
  covered : ∀ item ∈ s.list, s.Covers item.laneDetectId

/-- A call fails while an accepted request waits under its detect id, or after its own callback, or it returns
`SOFTBUS_OK` after such a failure has freed its entry. -/
def Breaks : DetectEvent κ → Prop
  | .advance i _ => ∃ setup, s.setups[i]? = some setup ∧
      match setup.stage with
      | .triggered => setup.request ∉ s.held
      | .failing => (∃ item ∈ s.list, item.laneDetectId = setup.laneDetectId ∧ item.request ∈ s.accepted) ∨
          setup.request ∈ s.callbacks.map (·.1)
      | _ => False
  | _ => False

/-! ## The calls -/

/-- All calls, by what has become of them. -/
def calls : List Nat := s.accepted ++ s.refused ++ s.connecting.map (·.1) ++ s.setups.map (·.request)

structure Live : Prop extends Answered s where
  calls_nodup : s.calls.Nodup
  known : ∀ r ∈ s.calls, r < s.requests
  held_sub : ∀ r ∈ s.held, r ∈ s.accepted ∨ r ∈ s.setups.map (·.request)
  own : ∀ setup ∈ s.setups, ∀ item ∈ s.list, item.request = setup.request → item.laneDetectId = setup.laneDetectId

section
variable {s} {s' : LaneDetect κ}

theorem Covers.mono {detectId : Nat} (h : s.Covers detectId) (htimeouts : detectId ∈ s.timeouts → s'.Covers detectId)
    (hhandlers : s.handlers ⊆ s'.handlers) (hsetups : s.setups ⊆ s'.setups) : s'.Covers detectId := by
  rcases h with hc | hc | ⟨setup, hsetup, hc⟩
  · exact htimeouts hc
  · exact .inr (.inl (List.map_subset _ hhandlers hc))
  · exact .inr (.inr ⟨setup, hsetups hsetup, hc⟩)

theorem Live.issue (h : s.Live) (s' : LaneDetect κ) (hcalls : s'.calls.Perm (s.requests :: s.calls))
    (hrequests : s'.requests = s.requests + 1) : s'.calls.Nodup ∧ ∀ r ∈ s'.calls, r < s'.requests := by
  refine ⟨hcalls.nodup_iff.mpr (List.nodup_cons.mpr ⟨fun hmem => Nat.lt_irrefl _ (h.known _ hmem), h.calls_nodup⟩), ?_⟩
  intro r hr
  rw [hrequests]
  rcases List.mem_cons.mp (hcalls.mem_iff.mp hr) with rfl | hr
  · exact Nat.lt_succ_self _
  · exact Nat.lt_succ_of_lt (h.known r hr)

theorem Live.move (h : s.Live) (s' : LaneDetect κ) (hcalls : s'.calls.Perm s.calls) (hrequests : s'.requests = s.requests) :
    s'.calls.Nodup ∧ ∀ r ∈ s'.calls, r < s'.requests :=
  ⟨hcalls.nodup_iff.mpr h.calls_nodup, fun r hr => hrequests ▸ h.known r (hcalls.mem_iff.mp hr)⟩

theorem Live.mem_calls (h : s.Live) {r : Nat} (hr : r ∈ s.held) : r ∈ s.calls := by
  rcases h.held_sub r hr with hr | hr
  · simp [calls, hr]
  · exact List.mem_append_right _ hr

theorem Live.not_held (h : s.Live) : s.requests ∉ s.held := fun hmem => Nat.lt_irrefl _ (h.known _ (h.mem_calls hmem))

theorem Live.not_refused (h : s.Live) : s.requests ∉ s.refused := fun hmem =>
  Nat.lt_irrefl _ (h.known _ (by simp [calls, hmem]))

theorem Live.not_setup (h : s.Live) : s.requests ∉ s.setups.map (·.request) := fun hmem =>
  Nat.lt_irrefl _ (h.known _ (List.mem_append_right _ hmem))

theorem forall_mem_snoc {P : Nat → Prop} {l : List Nat} {r : Nat} (hl : ∀ x ∈ l, P x) (hr : P r) : ∀ x ∈ l ++ [r], P x := by
  intro x hx
  rcases List.mem_append.mp hx with hx | hx
  · exact hl x hx
  · exact List.mem_singleton.mp hx ▸ hr

theorem Live.issue_accept (h : s.Live) (hrequests : s'.requests = s.requests + 1)
    (haccepted : s'.accepted = s.accepted ++ [s.requests]) (hrefused : s'.refused = s.refused)
    (hconnecting : s'.connecting = s.connecting) (hsetups : s'.setups = s.setups)
    (hheld : s'.held.Perm (s.requests :: s.held)) (hcovered : ∀ item ∈ s'.list, s'.Covers item.laneDetectId)
    (hown : ∀ item ∈ s'.list, item ∈ s.list ∨ item.request = s.requests) : s'.Live := by
  obtain ⟨hcalls, hknown⟩ := h.issue s' (List.perm_iff_count.mpr fun x => by
    simp [calls, haccepted, hrefused, hconnecting, hsetups, List.count_append, List.count_cons]
    omega) hrequests
  have hmem : ∀ r, r ∈ s'.held ↔ r = s.requests ∨ r ∈ s.held := fun r => hheld.mem_iff.trans List.mem_cons
  refine ⟨⟨?_, ?_, ?_, hcovered⟩, hcalls, hknown, ?_, ?_⟩
  · exact hheld.nodup_iff.mpr (List.nodup_cons.mpr ⟨h.not_held, h.once⟩)
  · rw [haccepted]
    exact forall_mem_snoc (fun r hr => (hmem r).mpr (.inr (h.accepted r hr))) ((hmem _).mpr (.inl rfl))
  · intro r hr hheld'
    rw [hrefused] at hr
    rcases (hmem r).mp hheld' with rfl | hheld'
    · exact h.not_refused hr
    · exact h.refused r hr hheld'
  · intro r hr
    rw [haccepted, hsetups]
    rcases (hmem r).mp hr with rfl | hr
    · exact .inl (List.mem_append_right _ (.head _))
    · exact (h.held_sub r hr).imp_left (List.mem_append_left _)
  · intro setup hsetup item hitem hsame
    rw [hsetups] at hsetup
    rcases hown item hitem with hitem | hnew
    · exact h.own setup hsetup item hitem hsame
    · exact absurd (List.mem_map.mpr ⟨setup, hsetup, hsame.symm.trans hnew⟩) h.not_setup

theorem Live.detect [DecidableEq κ] (h : s.Live) (addr : Option κ) (isReliable mem : Bool) :
    (s.laneDetectReliability addr isReliable mem).Live := by
  have hrefuse : (({ s with requests := s.requests + 1 } : LaneDetect κ).refuse s.requests).Live := by
    obtain ⟨hcalls, hknown⟩ := h.issue (({ s with requests := s.requests + 1 } : LaneDetect κ).refuse s.requests)
      (List.perm_iff_count.mpr fun x => by simp [calls, refuse, List.count_append, List.count_cons]; omega) rfl
    exact ⟨⟨h.once, h.accepted, forall_mem_snoc h.refused h.not_held, h.covered⟩, hcalls, hknown, h.held_sub, h.own⟩
  unfold laneDetectReliability
  dsimp only
  split
  · refine h.issue_accept rfl rfl rfl rfl rfl ?_ h.covered fun item hitem => .inl hitem
    exact List.perm_iff_count.mpr fun x => by simp [held, accept, List.count_append, List.count_cons]; omega
  split
  · exact hrefuse
  split
  · exact hrefuse
  split
  · rename_i item hfind
    refine h.issue_accept rfl rfl rfl rfl rfl ?_ ?_ ?_
    · exact List.perm_iff_count.mpr fun x => by simp [held, accept, List.count_append, List.count_cons]; omega
    · intro item' hitem'
      rcases List.mem_append.mp hitem' with hitem' | hitem'
      · exact h.covered item' hitem'
      · rw [List.mem_singleton.mp hitem']
        exact h.covered item (List.mem_of_find?_eq_some hfind)
    · intro item' hitem'
      exact (List.mem_append.mp hitem').imp_right fun hnew => congrArg LaneDetectInfo.request (List.mem_singleton.mp hnew)
  · rename_i addr _ _ _
    obtain ⟨hcalls, hknown⟩ := h.issue
      { s with requests := s.requests + 1, connecting := s.connecting ++ [(s.requests, addr)] }
      (List.perm_iff_count.mpr fun x => by simp [calls, List.count_append, List.count_cons]; omega) rfl
    exact ⟨⟨h.once, h.accepted, h.refused, h.covered⟩, hcalls, hknown, h.held_sub, h.own⟩

theorem perm_cons_eraseIdx {α : Type} {l : List α} {i : Nat} {x : α} (h : l[i]? = some x) : l.Perm (x :: l.eraseIdx i) := by
  obtain ⟨hi, rfl⟩ := List.getElem?_eq_some_iff.mp h
  exact (List.getElem_cons_eraseIdx_perm hi).symm

theorem Live.connected [DecidableEq κ] (h : s.Live) (i : Nat) (fd : Option Int) : (s.step (.connected i fd)).Live := by
  unfold step
  dsimp only
  cases hget : s.connecting[i]? with
  | none => exact h
  | some call =>
    obtain ⟨r, addr⟩ := call
    have hcount : ∀ x, (s.connecting.map (·.1)).count x = [r].count x + ((s.connecting.eraseIdx i).map (·.1)).count x := by
      intro x
      rw [((perm_cons_eraseIdx hget).map (·.1)).count_eq x, ← List.count_append]
      rfl
    have hcalls : s.calls.Perm (r :: (s.accepted ++ s.refused ++ (s.connecting.eraseIdx i).map (·.1) ++
        s.setups.map (·.request))) := by
      refine List.perm_iff_count.mpr fun x => ?_
      have := hcount x
      simp [calls, List.count_append, List.count_cons] at this ⊢
      omega
    have hother := (List.nodup_cons.mp (hcalls.nodup_iff.mp h.calls_nodup)).1
    simp only [List.mem_append, not_or] at hother
    obtain ⟨⟨⟨haccepted, hrefused⟩, -⟩, hsetups⟩ := hother
    have hheld : r ∉ s.held := fun hmem => (h.held_sub r hmem).elim haccepted hsetups
    cases fd with
    | none =>
      obtain ⟨hnodup, hknown⟩ := h.move (({ s with connecting := s.connecting.eraseIdx i } : LaneDetect κ).refuse r)
        (List.perm_iff_count.mpr fun x => by
          rw [hcalls.count_eq]
          simp [calls, refuse, List.count_append, List.count_cons]
          omega) rfl
      exact ⟨⟨h.once, h.accepted, forall_mem_snoc h.refused hheld, h.covered⟩, hnodup, hknown, h.held_sub, h.own⟩
    | some fd =>
      have hheld' : (({ s with connecting := s.connecting.eraseIdx i } : LaneDetect κ).clientConnected r addr (some fd)).held =
          s.held ++ [r] := by
        simp [held, clientConnected]
      obtain ⟨hnodup, hknown⟩ := h.move (({ s with connecting := s.connecting.eraseIdx i } : LaneDetect κ).clientConnected
          r addr (some fd))
        (List.perm_iff_count.mpr fun x => by
          rw [hcalls.count_eq]
          simp [calls, clientConnected, List.count_append, List.count_cons]
          omega) rfl
      refine ⟨⟨?_, fun x hx => ?_, fun x hx hx' => ?_, ?_⟩, hnodup, hknown, fun x hx => ?_, ?_⟩
      · rw [hheld']
        exact (List.perm_append_singleton ..).nodup_iff.mpr (List.nodup_cons.mpr ⟨hheld, h.once⟩)
      · rw [hheld']
        exact List.mem_append_left _ (h.accepted x hx)
      · rw [hheld'] at hx'
        rcases List.mem_append.mp hx' with hx' | hx'
        · exact h.refused x hx hx'
        · exact hrefused (List.mem_singleton.mp hx' ▸ hx)
      · intro item hitem
        rcases List.mem_append.mp hitem with hitem | hitem
        · exact (h.covered item hitem).mono .inl (List.Subset.refl _) (List.subset_append_left ..)
        · rw [List.mem_singleton.mp hitem]
          exact .inr (.inr ⟨_, List.mem_append_right _ (.head _), rfl, rfl⟩)
      · rw [hheld'] at hx
        change x ∈ s.accepted ∨ x ∈ (s.setups ++ [(⟨r, s.getLaneDetectIdWithoutLock, .inserted⟩ : DetectSetup)]).map (·.request)
        rw [List.map_append]
        rcases List.mem_append.mp hx with hx | hx
        · exact (h.held_sub x hx).imp_right (List.mem_append_left _)
        · exact .inr (List.mem_append_right _ hx)
      · intro setup hsetup item hitem hsame
        rcases List.mem_append.mp hsetup with hsetup | hsetup <;> rcases List.mem_append.mp hitem with hitem | hitem
        · exact h.own setup hsetup item hitem hsame
        · rw [List.mem_singleton.mp hitem] at hsame
          exact absurd (List.mem_map.mpr ⟨setup, hsetup, hsame.symm⟩) hsetups
        · rw [List.mem_singleton.mp hsetup] at hsame
          exact absurd (List.mem_append_right _ (List.mem_map.mpr ⟨item, hitem, hsame⟩)) hheld
        · rw [List.mem_singleton.mp hitem, List.mem_singleton.mp hsetup]

/-! ## The end of a call -/

section
variable {i : Nat} {setup : DetectSetup} (hget : s.setups[i]? = some setup)
include hget

theorem covers_iff (detectId : Nat) : s.Covers detectId ↔ (setup.isPending = true ∧ setup.laneDetectId = detectId) ∨
    ({ s with setups := s.setups.eraseIdx i } : LaneDetect κ).Covers detectId := by
  have hmem : ∀ x, x ∈ s.setups ↔ x = setup ∨ x ∈ s.setups.eraseIdx i :=
    fun x => (perm_cons_eraseIdx hget).mem_iff.trans List.mem_cons
  simp only [Covers, hmem]
  constructor
  · rintro (hc | hc | ⟨x, rfl | hx, hc⟩)
    · exact .inr (.inl hc)
    · exact .inr (.inr (.inl hc))
    · exact .inl hc
    · exact .inr (.inr (.inr ⟨x, hx, hc⟩))
  · rintro (hc | hc | hc | ⟨x, hx, hc⟩)
    · exact .inr (.inr ⟨setup, .inl rfl, hc⟩)
    · exact .inl hc
    · exact .inr (.inl hc)
    · exact .inr (.inr ⟨x, .inr hx, hc⟩)

theorem calls_perm : s.calls.Perm (setup.request :: (s.accepted ++ s.refused ++ s.connecting.map (·.1) ++
    (s.setups.eraseIdx i).map (·.request))) :=
  (((perm_cons_eraseIdx hget).map (·.request)).append_left _).trans List.perm_middle

theorem Live.setStage (h : s.Live) (stage : SetupStage) (timeouts : List Nat)
    (hcovered : ∀ item ∈ s.list, ({ s with
      setups := s.setups.eraseIdx i ++ [{ setup with stage }], timeouts } : LaneDetect κ).Covers item.laneDetectId) :
    ({ s with setups := s.setups.eraseIdx i ++ [{ setup with stage }], timeouts } : LaneDetect κ).Live := by
  have hperm : ((s.setups.eraseIdx i ++ [({ setup with stage } : DetectSetup)]).map (·.request)).Perm
      (s.setups.map (·.request)) := by
    rw [List.map_append]
    exact (List.perm_append_singleton ..).trans ((perm_cons_eraseIdx hget).map DetectSetup.request).symm
  obtain ⟨hnodup, hknown⟩ := h.move
    { s with setups := s.setups.eraseIdx i ++ [{ setup with stage }], timeouts } (hperm.append_left _) rfl
  refine ⟨⟨h.once, h.accepted, h.refused, hcovered⟩, hnodup, hknown, fun r hr => ?_, ?_⟩
  · exact (h.held_sub r hr).imp_right hperm.mem_iff.mpr
  · intro x hx item hitem hsame
    rcases List.mem_append.mp hx with hx | hx
    · exact h.own x (List.mem_of_mem_eraseIdx hx) item hitem hsame
    · rw [List.mem_singleton.mp hx] at hsame ⊢
      exact h.own setup (List.mem_of_getElem? hget) item hitem hsame

theorem Live.accept_setup (h : s.Live) (hstage : setup.stage = .triggered) (hheld : setup.request ∈ s.held) :
    (({ s with setups := s.setups.eraseIdx i } : LaneDetect κ).accept setup.request).Live := by
  obtain ⟨hnodup, hknown⟩ := h.move (({ s with setups := s.setups.eraseIdx i } : LaneDetect κ).accept setup.request)
    (List.perm_iff_count.mpr fun x => by
      rw [(calls_perm hget).count_eq]
      simp [calls, accept, List.count_append, List.count_cons]
      omega) rfl
  refine ⟨⟨h.once, forall_mem_snoc h.accepted hheld, h.refused, fun item hitem => ?_⟩, hnodup, hknown, fun r hr => ?_, ?_⟩
  · refine ((covers_iff hget _).mp (h.covered item hitem)).resolve_left fun hc => ?_
    simp [DetectSetup.isPending, hstage] at hc
  · rcases h.held_sub r hr with hr | hr
    · exact .inl (List.mem_append_left _ hr)
    · rcases List.mem_cons.mp (((perm_cons_eraseIdx hget).map (·.request)).mem_iff.mp hr) with rfl | hr
      · exact .inl (List.mem_append_right _ (.head _))
      · exact .inr hr
  · exact fun x hx item hitem => h.own x (List.mem_of_mem_eraseIdx hx) item hitem

theorem Live.refuse_setup (h : s.Live) (hwaits : ∀ item ∈ s.list, item.laneDetectId = setup.laneDetectId →
      item.request ∉ s.accepted) (hcallback : setup.request ∉ s.callbacks.map (·.1)) :
    ((({ s with setups := s.setups.eraseIdx i } : LaneDetect κ).delLaneDetectInfo setup.laneDetectId).refuse
      setup.request).Live := by
  obtain ⟨hnodup, hknown⟩ := h.move
    ((({ s with setups := s.setups.eraseIdx i } : LaneDetect κ).delLaneDetectInfo setup.laneDetectId).refuse setup.request)
    (List.perm_iff_count.mpr fun x => by
      rw [(calls_perm hget).count_eq]
      simp [calls, refuse, delLaneDetectInfo, List.count_append, List.count_cons]
      omega) rfl
  have hsub : (s.callbacks.map (·.1) ++ (s.list.filter (·.laneDetectId ≠ setup.laneDetectId)).map (·.request)).Sublist
      s.held := (List.Sublist.refl _).append ((List.filter_sublist ..).map _)
  have hitem : ∀ item ∈ s.list.filter (·.laneDetectId ≠ setup.laneDetectId), item ∈ s.list ∧
      item.laneDetectId ≠ setup.laneDetectId := fun item hmem => by simpa using hmem
  have hself : setup.request ∉ s.callbacks.map (·.1) ++
      (s.list.filter (·.laneDetectId ≠ setup.laneDetectId)).map (·.request) := by
    intro hmem
    rcases List.mem_append.mp hmem with hmem | hmem
    · exact hcallback hmem
    · obtain ⟨item, hmem, hsame⟩ := List.mem_map.mp hmem
      obtain ⟨hmem, hne⟩ := hitem item hmem
      exact hne (h.own setup (List.mem_of_getElem? hget) item hmem hsame)
  refine ⟨⟨hsub.nodup h.once, fun r hr => ?_, forall_mem_snoc (fun r hr hmem => h.refused r hr (hsub.subset hmem)) hself,
    fun item hmem => ?_⟩, hnodup, hknown, fun r hr => ?_, ?_⟩
  · rcases List.mem_append.mp (h.accepted r hr) with hmem | hmem
    · exact List.mem_append_left _ hmem
    · obtain ⟨item, hlist, rfl⟩ := List.mem_map.mp hmem
      refine List.mem_append_right _ (List.mem_map.mpr ⟨item, List.mem_filter.mpr ⟨hlist, ?_⟩, rfl⟩)
      simpa using fun heq => hwaits item hlist heq hr
  · obtain ⟨hmem, hne⟩ := hitem item hmem
    exact ((covers_iff hget _).mp (h.covered item hmem)).resolve_left fun hc => hne hc.2.symm
  · refine (h.held_sub r (hsub.subset hr)).imp_right fun hmem => ?_
    refine (List.mem_cons.mp (((perm_cons_eraseIdx hget).map (·.request)).mem_iff.mp hmem)).resolve_left ?_
    rintro rfl
    exact hself hr
  · exact fun x hx item hmem => h.own x (List.mem_of_mem_eraseIdx hx) item (hitem item hmem).1

end

theorem Live.advance [DecidableEq κ] (h : s.Live) (i : Nat) (ok : Bool) (hbreaks : ¬ s.Breaks (.advance i ok)) :
    (s.step (.advance i ok)).Live := by
  unfold LaneDetect.step
  dsimp only
  cases hget : s.setups[i]? with
  | none => exact h
  | some setup =>
    have hcovers := fun item hitem => (covers_iff hget _).mp (h.covered item hitem)
    unfold advanceSetup
    dsimp only
    cases hstage : setup.stage with
    | inserted =>
      cases ok with
      | true =>
        refine h.setStage hget .posted _ fun item hitem => ?_
        rcases hcovers item hitem with ⟨-, hc⟩ | hc
        · exact .inl (List.mem_append_right _ (List.mem_singleton.mpr hc.symm))
        · exact hc.mono (fun hc => .inl (List.mem_append_left _ hc)) (List.Subset.refl _) (List.subset_append_left ..)
      | false =>
        refine h.setStage hget .failing _ fun item hitem => ?_
        rcases hcovers item hitem with ⟨-, hc⟩ | hc
        · exact .inr (.inr ⟨_, List.mem_append_right _ (.head _), rfl, hc⟩)
        · exact hc.mono .inl (List.Subset.refl _) (List.subset_append_left ..)
    | posted =>
      cases ok with
      | true =>
        refine h.setStage hget .triggered _ fun item hitem => ?_
        rcases hcovers item hitem with ⟨hp, -⟩ | hc
        · simp [DetectSetup.isPending, hstage] at hp
        · exact hc.mono .inl (List.Subset.refl _) (List.subset_append_left ..)
      | false =>
        refine h.setStage hget .failing _ fun item hitem => ?_
        by_cases heq : setup.laneDetectId = item.laneDetectId
        · exact .inr (.inr ⟨_, List.mem_append_right _ (.head _), rfl, heq⟩)
        refine ((hcovers item hitem).resolve_left fun hc => heq hc.2).mono (fun hc => ?_) (List.Subset.refl _)
          (List.subset_append_left ..)
        exact .inl (List.mem_filter.mpr ⟨hc, by simpa using Ne.symm heq⟩)
    | triggered =>
      refine h.accept_setup hget hstage ?_
      by_contra hnot
      exact hbreaks ⟨setup, hget, by rw [hstage]; exact hnot⟩
    | failing =>
      have hnot : ¬ ((∃ item ∈ s.list, item.laneDetectId = setup.laneDetectId ∧ item.request ∈ s.accepted) ∨
          setup.request ∈ s.callbacks.map (·.1)) := fun hc => hbreaks ⟨setup, hget, by rw [hstage]; exact hc⟩
      rw [not_or] at hnot
      exact h.refuse_setup hget (fun item hitem heq hacc => hnot.1 ⟨item, hitem, heq, hacc⟩) hnot.2

/-! ## Handlers -/

theorem Live.notify [DecidableEq κ] (h : s.Live) (i : Nat) : (s.step (.notify i)).Live := by
  unfold LaneDetect.step
  dsimp only
  cases hget : s.handlers[i]? with
  | none => exact h
  | some handler =>
    have hhandlers : ∀ x, x ∈ s.handlers.map (·.laneDetectId) ↔
        x = handler.laneDetectId ∨ x ∈ (s.handlers.eraseIdx i).map (·.laneDetectId) :=
      fun x => ((perm_cons_eraseIdx hget).map (·.laneDetectId)).mem_iff.trans List.mem_cons
    dsimp only
    split
    · refine ⟨⟨h.once, h.accepted, h.refused, fun item hitem => ?_⟩, h.calls_nodup, h.known, h.held_sub, h.own⟩
      by_cases heq : item.laneDetectId = handler.laneDetectId
      · exact .inr (.inl (List.mem_map.mpr ⟨_, List.mem_append_right _ (.head _), heq.symm⟩))
      rcases h.covered item hitem with hc | hc | hc
      · exact .inl (List.mem_filter.mpr ⟨hc, by simpa using heq⟩)
      · obtain ⟨x, hx, hc⟩ := List.mem_map.mp (((hhandlers _).mp hc).resolve_left heq)
        exact .inr (.inl (List.mem_map.mpr ⟨x, List.mem_append_left _ hx, hc⟩))
      · exact .inr (.inr hc)
    · have hperm : (({ s with handlers := s.handlers.eraseIdx i } : LaneDetect κ).notifyDetectResult handler).held.Perm
          s.held := by
        have hlist := (List.filter_append_perm (·.laneDetectId = handler.laneDetectId) s.list).map (·.request)
        simp only [held, notifyDetectResult, delLaneDetectInfo, List.map_append, List.map_map, List.append_assoc]
        rw [List.map_append] at hlist
        simpa [Function.comp_def] using hlist.append_left (s.callbacks.map (·.1))
      have hitem : ∀ item ∈ s.list.filter (·.laneDetectId ≠ handler.laneDetectId), item ∈ s.list ∧
          item.laneDetectId ≠ handler.laneDetectId := fun item hmem => by simpa using hmem
      refine ⟨⟨hperm.nodup_iff.mpr h.once, fun r hr => hperm.mem_iff.mpr (h.accepted r hr),
        fun r hr hmem => h.refused r hr (hperm.mem_iff.mp hmem), fun item hmem => ?_⟩, h.calls_nodup, h.known,
        fun r hr => h.held_sub r (hperm.mem_iff.mp hr), fun x hx item hmem => h.own x hx item (hitem item hmem).1⟩
      obtain ⟨hmem, hne⟩ := hitem item hmem
      rcases h.covered item hmem with hc | hc | hc
      · exact .inl hc
      · exact .inr (.inl (((hhandlers _).mp hc).resolve_left hne))
      · exact .inr (.inr hc)

theorem Live.step [DecidableEq κ] (h : s.Live) (event : DetectEvent κ) (hbreaks : ¬ s.Breaks event) : (s.step event).Live := by
  cases event with
  | detect addr isReliable mem => exact h.detect addr isReliable mem
  | connected i fd => exact h.connected i fd
  | advance i ok => exact h.advance i ok hbreaks
  | writable fd isSendSuc =>
    unfold LaneDetect.step
    dsimp only
    split
    · exact h
    · refine ⟨⟨h.once, h.accepted, h.refused, fun item hitem => ?_⟩, h.calls_nodup, h.known, h.held_sub, h.own⟩
      exact (h.covered item hitem).mono .inl (List.subset_append_left ..) (List.Subset.refl _)
  | exception fd => exact h
  | timeout i =>
    unfold LaneDetect.step
    dsimp only
    split
    · exact h
    · rename_i detectId hget
      refine ⟨⟨h.once, h.accepted, h.refused, fun item hitem => ?_⟩, h.calls_nodup, h.known, h.held_sub, h.own⟩
      refine (h.covered item hitem).mono (fun hc => ?_) (List.subset_append_left ..) (List.Subset.refl _)
      rcases List.mem_cons.mp ((perm_cons_eraseIdx hget).mem_iff.mp hc) with heq | hc
      · exact .inr (.inl (List.mem_map.mpr ⟨_, List.mem_append_right _ (.head _), heq.symm⟩))
      · exact .inl hc
  | notify i => exact h.notify i

theorem answered_step_iff [DecidableEq κ] (event : DetectEvent κ) (h : s.Live) :
    (s.step event).Answered ↔ ¬ s.Breaks event := by
  refine ⟨fun hanswered hbreaks => ?_, fun hbreaks => (h.step event hbreaks).toAnswered⟩
  cases event with
  | advance i ok =>
    obtain ⟨setup, hget, hbreaks⟩ := hbreaks
    simp only [LaneDetect.step, hget, advanceSetup] at hanswered
    cases hstage : setup.stage with
    | inserted => simp only [hstage] at hbreaks
    | posted => simp only [hstage] at hbreaks
    | triggered =>
      simp only [hstage] at hbreaks hanswered
      exact hbreaks (hanswered.accepted setup.request (List.mem_append_right _ (.head _)))
    | failing =>
      simp only [hstage] at hbreaks hanswered
      rcases hbreaks with ⟨item, hitem, heq, hacc⟩ | hcallback
      · -- the entry is gone, and the request has no callback
        obtain ⟨-, hnodup, hdisjoint⟩ := List.nodup_append'.mp h.once
        rcases List.mem_append.mp (hanswered.accepted item.request hacc) with hmem | hmem
        · exact hdisjoint hmem (List.mem_map_of_mem hitem)
        · obtain ⟨item', hmem, hsame⟩ := List.mem_map.mp hmem
          obtain ⟨hmem, hne⟩ := List.mem_filter.mp hmem
          rw [List.inj_on_of_nodup_map hnodup hmem hitem hsame] at hne
          simp [heq] at hne
      · exact hanswered.refused setup.request (List.mem_append_right _ (.head _)) (List.mem_append_left _ hcallback)
  | _ => exact hbreaks

end

end LaneDetect

/-- Every call is answered as it should, after each step, if and only if no step breaks it. -/
theorem lane_detect_answer_iff {κ : Type} [DecidableEq κ] (events : List (DetectEvent κ)) :
    Run.Always LaneDetect.step (fun (s : LaneDetect κ) event => (s.step event).Answered) {} events ↔
      Run.Always LaneDetect.step (fun (s : LaneDetect κ) event => ¬ s.Breaks event) {} events :=
  Run.always_iff_of_inv (I := LaneDetect.Live) (s := {}) (fun _ event h => LaneDetect.answered_step_iff event h)
    (fun _ event h hanswered => h.step event ((LaneDetect.answered_step_iff event h).mp hanswered))
    ⟨⟨.nil, by simp, by simp, by simp⟩, .nil, by simp [LaneDetect.calls], by simp [LaneDetect.held], by simp⟩ events

/-- The second call waits under the detect id of the first one, which then fails. -/
theorem merged_request_lost :
    let s := Run.final LaneDetect.step ({} : LaneDetect Nat)
      [.detect (some 7) false true, .connected 0 (some 3), .detect (some 7) false true, .advance 0 false, .advance 0 false]
    s.accepted = [1] ∧ s.refused = [0] ∧ s.callbacks = [] ∧ s.list = [] ∧ s.timeouts = [] ∧ s.handlers = [] := by
  decide

end SoftBus
