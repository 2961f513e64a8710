import SoftBus.Lib.FirstMatch
import SoftBus.Lib.Run

/-!
# How long a lane resource is reliable

`AddLaneResourceItem`, `DelLaneResourceItem` and `HandleLaneReliabilityTime` of `lnn_lane_link.c`. What
`FindLaneResource` compares is a key. An item has the number of ticks since it was confirmed last; no
function looks at it.
-/

namespace SoftBus

def laneReliabilityTime : Nat := 4

structure ReliableItem (κ : Type) where
  key : κ
  laneRef : Nat := 1
  isReliable : Bool := true
  laneTimeliness : Nat := 0
  age : Nat := 0
deriving DecidableEq, Repr

def ReliableItem.confirm {κ : Type} (item : ReliableItem κ) : ReliableItem κ :=
  { item with laneRef := item.laneRef + 1, isReliable := true, age := 0 }

def ReliableItem.tick {κ : Type} (item : ReliableItem κ) : ReliableItem κ :=
  if laneReliabilityTime ≤ item.laneTimeliness + 1 then
    { item with laneTimeliness := 0, isReliable := false, age := item.age + 1 }
  else { item with laneTimeliness := item.laneTimeliness + 1, age := item.age + 1 }

namespace LaneReliability

variable {κ : Type} [DecidableEq κ]

def addLaneResourceItem (key : κ) (l : List (ReliableItem κ)) : List (ReliableItem κ) :=
  if l.any (·.key = key) then FirstMatch.modify (·.key = key) ReliableItem.confirm l else { key } :: l

def delLaneResourceItem (key : κ) (l : List (ReliableItem κ)) : List (ReliableItem κ) :=
  match l.find? (·.key = key) with
  | none => l
  | some item =>
    if item.laneRef - 1 = 0 then l.eraseP (·.key = key)
    else FirstMatch.modify (·.key = key) (fun item => { item with laneRef := item.laneRef - 1 }) l

def handleLaneReliabilityTime (l : List (ReliableItem κ)) : List (ReliableItem κ) := l.map ReliableItem.tick

inductive Event (κ : Type) where
  | add (key : κ)
  | del (key : κ)
  | tick
deriving DecidableEq, Repr

def step (l : List (ReliableItem κ)) : Event κ → List (ReliableItem κ)
  | .add key => addLaneResourceItem key l
  | .del key => delLaneResourceItem key l
  | .tick => handleLaneReliabilityTime l

/-! ## One item -/

/-- The counter is never behind the age of an item that is reliable. -/
def Item.Sound (item : ReliableItem κ) : Prop :=
  item.laneTimeliness < laneReliabilityTime ∧ (item.isReliable = true → item.age ≤ item.laneTimeliness)

def Item.Exact (item : ReliableItem κ) : Prop :=
  item.laneTimeliness < laneReliabilityTime ∧ (item.isReliable = true → item.age = item.laneTimeliness) ∧
    (item.isReliable = false → laneReliabilityTime ≤ item.age)

section
variable {item : ReliableItem κ}

omit [DecidableEq κ]

theorem Item.Sound.tick (h : Sound item) : Sound item.tick := by
  have htime : laneReliabilityTime = 4 := rfl
  obtain ⟨hlt, hage⟩ := h
  unfold Item.Sound ReliableItem.tick
  split
  · simp [htime]
  · simp only
    exact ⟨by omega, fun hr => Nat.succ_le_succ (hage hr)⟩

theorem Item.Exact.tick (h : Exact item) : Exact item.tick := by
  have htime : laneReliabilityTime = 4 := rfl
  obtain ⟨hlt, hage, hold⟩ := h
  unfold Item.Exact ReliableItem.tick
  split
  · refine ⟨show 0 < laneReliabilityTime by decide, by simp, fun _ => ?_⟩
    simp only
    cases hr : item.isReliable with
    | true => have := hage hr; omega
    | false => have := hold hr; omega
  · simp only
    refine ⟨by omega, fun hr => ?_, fun hr => ?_⟩
    · have := hage hr
      omega
    · have := hold hr
      omega

theorem Item.Sound.confirm (h : Sound item) : Sound item.confirm := ⟨h.1, fun _ => Nat.zero_le _⟩

theorem Item.Exact.confirm (h : Exact item) (hzero : item.laneTimeliness = 0) : Exact item.confirm :=
  ⟨h.1, fun _ => hzero.symm, nofun⟩

end

def ticks : (n : Nat) → ReliableItem κ → ReliableItem κ
  | 0, item => item
  | n + 1, item => ticks n item.tick

omit [DecidableEq κ] in
theorem tick_of_lt {item : ReliableItem κ} (hlt : item.laneTimeliness + 1 < laneReliabilityTime) :
    item.tick = { item with laneTimeliness := item.laneTimeliness + 1, age := item.age + 1 } :=
  if_neg (Nat.not_le.mpr hlt)

omit [DecidableEq κ] in
theorem ticks_reliable : ∀ {n : Nat} {item : ReliableItem κ}, item.isReliable = true →
    item.laneTimeliness + n < laneReliabilityTime → (ticks n item).isReliable = true
  | 0, _, hr, _ => hr
  | n + 1, item, hr, hlt => by
    rw [ticks, tick_of_lt (by omega)]
    refine ticks_reliable ?_ ?_
    · exact hr
    · dsimp only
      omega

omit [DecidableEq κ] in
theorem ticks_unreliable : ∀ {n : Nat} {item : ReliableItem κ},
    item.laneTimeliness + (n + 1) = laneReliabilityTime → (ticks (n + 1) item).isReliable = false
  | 0, item, heq => by
    have hle : laneReliabilityTime ≤ item.laneTimeliness + 1 := by omega
    have htick : item.tick = { item with laneTimeliness := 0, isReliable := false, age := item.age + 1 } := if_pos hle
    rw [ticks, ticks, htick]
  | n + 1, item, heq => by
    rw [ticks, tick_of_lt (by omega)]
    apply ticks_unreliable
    dsimp only
    omega

omit [DecidableEq κ] in
theorem confirm_lasts_iff {item : ReliableItem κ} (h : Item.Sound item) :
    (∀ n < laneReliabilityTime, (ticks n item.confirm).isReliable = true) ↔ item.laneTimeliness = 0 := by
  have hlt := h.1
  constructor
  · intro hall
    by_contra hne
    obtain ⟨n, hn⟩ : ∃ n, item.laneTimeliness + (n + 1) = laneReliabilityTime :=
      ⟨laneReliabilityTime - item.laneTimeliness - 1, by omega⟩
    have hun : (ticks (n + 1) item.confirm).isReliable = false := ticks_unreliable hn
    rw [hall (n + 1) (by omega)] at hun
    cases hun
  · intro hzero n hn
    apply ticks_reliable rfl
    show item.laneTimeliness + n < laneReliabilityTime
    omega

/-! ## Runs -/

section
variable {l : List (ReliableItem κ)}

theorem step_forall {P : ReliableItem κ → Prop} (hnew : ∀ key, P { key }) (hticks : ∀ item, P item → P item.tick)
    (href : ∀ item n, P item → P { item with laneRef := n }) (h : ∀ item ∈ l, P item) (e : Event κ)
    (hadd : ∀ key, e = .add key → ∀ item ∈ l, item.key = key → P item.confirm) : ∀ item ∈ step l e, P item := by
  intro item hitem
  cases e with
  | tick =>
    obtain ⟨item, hmem, rfl⟩ := List.mem_map.mp hitem
    exact hticks item (h item hmem)
  | add key =>
    change item ∈ addLaneResourceItem key l at hitem
    unfold addLaneResourceItem at hitem
    split at hitem
    · obtain hmem | ⟨item, hmem, hkey, rfl⟩ := FirstMatch.mem_modify hitem
      · exact h item hmem
      · exact hadd key rfl item hmem (of_decide_eq_true hkey)
    · obtain rfl | hmem := List.mem_cons.mp hitem
      · exact hnew key
      · exact h item hmem
  | del key =>
    change item ∈ delLaneResourceItem key l at hitem
    unfold delLaneResourceItem at hitem
    split at hitem
    · exact h item hitem
    · split at hitem
      · exact h item (List.mem_of_mem_eraseP hitem)
      · obtain hmem | ⟨item, hmem, -, rfl⟩ := FirstMatch.mem_modify hitem
        · exact h item hmem
        · exact href item _ (h item hmem)

def Fresh (l : List (ReliableItem κ)) (e : Event κ) : Prop :=
  ∀ key, e = .add key → ∀ item ∈ l, item.key = key → item.laneTimeliness = 0

theorem final_sound (events : List (Event κ)) : ∀ item ∈ Run.final step [] events, Item.Sound item :=
  Run.inv_final_of_step (I := fun l => ∀ item ∈ l, Item.Sound item)
    (fun _ e h => step_forall (fun _ => ⟨show 0 < laneReliabilityTime by decide, fun _ => Nat.le_refl 0⟩)
      (fun _ h => h.tick) (fun _ _ h => h) h e fun _ _ item hitem _ => (h item hitem).confirm)
    events (by simp)

theorem final_exact {events : List (Event κ)} (hfresh : Run.Always step Fresh [] events) :
    ∀ item ∈ Run.final step [] events, Item.Exact item :=
  Run.inv_final (I := fun l => ∀ item ∈ l, Item.Exact item)
    (fun _ e h hf => step_forall (fun _ => ⟨show 0 < laneReliabilityTime by decide, fun _ => rfl, nofun⟩)
      (fun _ h => h.tick) (fun _ _ h => h) h e
      fun key he item hitem hkey => (h item hitem).confirm (hf key he item hitem hkey))
    events (by simp) hfresh

theorem find?_ticks (key : κ) : ∀ (n : Nat) (l : List (ReliableItem κ)),
    (Run.final step l (List.replicate n .tick)).find? (·.key = key) = (l.find? (·.key = key)).map (ticks n)
  | 0, l => by cases h : l.find? (·.key = key) <;> simp [h, ticks]
  | n + 1, l => by
    have hkey : ∀ item : ReliableItem κ, item.tick.key = item.key := by
      intro item
      unfold ReliableItem.tick
      split <;> rfl
    have hmap : (l.map ReliableItem.tick).find? (·.key = key) = (l.find? (·.key = key)).map ReliableItem.tick := by
      rw [List.find?_map]
      congr 2
      funext item
      exact congrArg (fun k => decide (k = key)) (hkey item)
    rw [List.replicate_succ, Run.final_cons, find?_ticks key n]
    show ((l.map ReliableItem.tick).find? (·.key = key)).map (ticks n) = _
    rw [hmap, Option.map_map]
    rfl

end

/-- **Reliability.** In every run a resource that was not confirmed for the whole window is unreliable. A
resource that is confirmed stays reliable for the window exactly when its counter is at its begin, and where every
confirmation comes at such a time, all resources are reliable within their windows. -/
theorem lane_reliability_iff (events : List (Event κ)) (key : κ) :
    let l := Run.final step [] events
    (∀ item ∈ l, laneReliabilityTime ≤ item.age → item.isReliable = false) ∧
    (∀ item, l.find? (·.key = key) = some item →
      ((∀ n < laneReliabilityTime, ∀ item',
        (Run.final step l (.add key :: List.replicate n .tick)).find? (·.key = key) = some item' →
          item'.isReliable = true) ↔ item.laneTimeliness = 0)) ∧
    (Run.Always step Fresh [] events → ∀ item ∈ l, item.age < laneReliabilityTime → item.isReliable = true) := by
  refine ⟨fun item hitem hage => ?_, fun item hfind => ?_, fun hfresh item hitem hage => ?_⟩
  · obtain ⟨hlt, hrel⟩ := final_sound events item hitem
    by_contra hr
    have := hrel (by simpa using hr)
    omega
  · have hmem := List.mem_of_find?_eq_some hfind
    have hkey : item.key = key := by simpa using List.find?_some hfind
    have hadd : (step (Run.final step [] events) (.add key)).find? (·.key = key) = some item.confirm := by
      show (addLaneResourceItem key (Run.final step [] events)).find? (·.key = key) = some item.confirm
      unfold addLaneResourceItem
      have hkeep : ∀ x : ReliableItem κ, decide (x.key = key) = true → decide (x.confirm.key = key) = true := fun _ h => h
      rw [if_pos (List.any_eq_true.mpr ⟨item, hmem, by simp [hkey]⟩), FirstMatch.find?_modify hkeep, hfind,
        Option.map_some]
    rw [← confirm_lasts_iff (final_sound events item hmem)]
    simp only [Run.final_cons, find?_ticks, hadd, Option.map_some, Option.some.injEq, forall_eq']
  · obtain ⟨-, -, hold⟩ := final_exact hfresh item hitem
    by_contra hr
    have := hold (by simpa using hr)
    omega

/-- A resource is confirmed after three ticks, and unreliable with the next one. -/
theorem confirmed_lane_unreliable :
    Run.final step [] [.add 7, .tick, .tick, .tick, .add 7, .tick] = [⟨7, 2, false, 0, 1⟩] := by
  decide

end LaneReliability

end SoftBus
