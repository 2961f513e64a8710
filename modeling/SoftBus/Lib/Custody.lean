import Mathlib.Data.List.Nodup
import Mathlib.Data.List.Perm.Basic

/-!
# Who holds what

Numbered items are handed in one after the other. An item waits, is perhaps used, and is
given back. `Held` says, for a log of the uses and returns, that every item is held in
one place and that its part of the log is one of the orders in which this can happen.
-/

namespace Custody

inductive Mark where
  | used (id : Nat)
  | freed (id : Nat)
deriving DecidableEq

def Mark.id : Mark → Nat
  | used id => id
  | freed id => id

def fate (log : List Mark) (id : Nat) : List Mark := log.filter fun m => m.id = id

def Settled (log : List Mark) (id : Nat) : Prop :=
  fate log id = [.freed id] ∨ fate log id = [.used id, .freed id]

structure Held (next : Nat) (waiting active : List Nat) (log : List Mark) : Prop where
  nodup : (waiting ++ active).Nodup
  known : ∀ id ∈ waiting ++ active, id < next
  idle : ∀ id ∈ waiting, fate log id = []
  busy : ∀ id ∈ active, fate log id = [.used id]
  gone : ∀ id < next, id ∉ waiting ++ active → Settled log id
  fresh : ∀ id, next ≤ id → fate log id = []

theorem fate_append (log log' : List Mark) (id : Nat) : fate (log ++ log') id = fate log id ++ fate log' id :=
  List.filter_append ..

theorem fate_used (id x : Nat) : fate [.used x] id = if x = id then [.used x] else [] := by
  by_cases h : x = id <;> simp [fate, Mark.id, h]

theorem fate_freed (id : Nat) : ∀ ids : List Nat, ids.Nodup →
    fate (ids.map Mark.freed) id = if id ∈ ids then [.freed id] else []
  | [], _ => rfl
  | x :: ids, h => by
    obtain ⟨hx, hids⟩ := List.nodup_cons.mp h
    have ih := fate_freed id ids hids
    unfold fate at ih ⊢
    rw [List.map_cons, List.filter_cons, ih]
    by_cases hid : x = id
    · subst hid
      simp [Mark.id, hx]
    · simp [Mark.id, hid, Ne.symm hid]

namespace Held

section
variable {next : Nat} {waiting waiting' active active' : List Nat} {log : List Mark} {id : Nat}

theorem nil : Held 0 [] [] [] :=
  ⟨List.nodup_nil, by simp, by simp, by simp, fun _ h => absurd h (Nat.not_lt_zero _), fun _ _ => rfl⟩

theorem perm (h : Held next waiting active log) (hp : waiting'.Perm waiting) : Held next waiting' active log where
  nodup := (hp.append_right active).nodup_iff.mpr h.nodup
  known id hid := h.known id ((hp.append_right active).mem_iff.mp hid)
  idle id hid := h.idle id (hp.mem_iff.mp hid)
  busy := h.busy
  gone id hlt hid := h.gone id hlt fun hid' => hid ((hp.append_right active).mem_iff.mpr hid')
  fresh := h.fresh

theorem issue (h : Held next waiting active log) : Held (next + 1) (next :: waiting) active log where
  nodup := List.nodup_cons.mpr ⟨fun hmem => Nat.lt_irrefl _ (h.known next hmem), h.nodup⟩
  known id hid := by
    rcases List.mem_cons.mp hid with rfl | hid
    · exact Nat.lt_succ_self _
    · exact Nat.lt_succ_of_lt (h.known id hid)
  idle id hid := by
    rcases List.mem_cons.mp hid with rfl | hid
    · exact h.fresh _ (Nat.le_refl _)
    · exact h.idle id hid
  busy := h.busy
  gone id hlt hid := by
    obtain ⟨hne, hid⟩ := not_or.mp (mt List.mem_cons.mpr hid)
    exact h.gone id (by omega) hid
  fresh id hle := h.fresh id (by omega)

theorem free (ids : List Nat) (h : Held next waiting active log) (hp : waiting.Perm (ids ++ waiting')) :
    Held next waiting' active (log ++ ids.map .freed) := by
  have h := h.perm hp.symm
  have hnodup := h.nodup
  rw [List.append_assoc] at hnodup
  have hids := (List.nodup_append'.mp hnodup).1
  have hdisj := (List.nodup_append'.mp hnodup).2.2
  have hfate : ∀ id ∉ ids, fate (log ++ ids.map .freed) id = fate log id := by
    intro id hid
    rw [fate_append, fate_freed id ids hids, if_neg hid, List.append_nil]
  refine ⟨(List.nodup_append'.mp hnodup).2.1, ?_, ?_, ?_, ?_, ?_⟩
  · intro id hid
    exact h.known id (by rw [List.append_assoc]; exact List.mem_append_right _ hid)
  · intro id hid
    rw [hfate id fun hid' => hdisj hid' (List.mem_append_left _ hid)]
    exact h.idle id (List.mem_append_right _ hid)
  · intro id hid
    rw [hfate id fun hid' => hdisj hid' (List.mem_append_right _ hid)]
    exact h.busy id hid
  · intro id hlt hid
    by_cases hmem : id ∈ ids
    · left
      rw [fate_append, fate_freed id ids hids, if_pos hmem, h.idle id (List.mem_append_left _ hmem), List.nil_append]
    · unfold Settled
      rw [hfate id hmem]
      refine h.gone id hlt fun hid' => ?_
      rw [List.append_assoc] at hid'
      exact (List.mem_append.mp hid').elim hmem hid
  · intro id hle
    rw [hfate id fun hid' => Nat.not_lt.mpr hle (h.known id (List.mem_append_left _ (List.mem_append_left _ hid')))]
    exact h.fresh id hle

theorem use (h : Held next (id :: waiting) active log) : Held next waiting (id :: active) (log ++ [.used id]) := by
  have hp : (waiting ++ id :: active).Perm (id :: waiting ++ active) := List.perm_middle
  have hid : id ∉ waiting ++ active := (List.nodup_cons.mp h.nodup).1
  have hfate : ∀ x, x ≠ id → fate (log ++ [.used id]) x = fate log x := by
    intro x hx
    rw [fate_append, fate_used, if_neg (Ne.symm hx), List.append_nil]
  refine ⟨hp.nodup_iff.mpr h.nodup, fun x hx => h.known x (hp.mem_iff.mp hx), ?_, ?_, ?_, ?_⟩
  · intro x hx
    rw [hfate x fun hx' => hid (hx' ▸ List.mem_append_left _ hx)]
    exact h.idle x (.tail _ hx)
  · intro x hx
    rcases List.mem_cons.mp hx with rfl | hx
    · rw [fate_append, h.idle x (.head _), fate_used, if_pos rfl, List.nil_append]
    · rw [hfate x fun hx' => hid (hx' ▸ List.mem_append_right _ hx)]
      exact h.busy x hx
  · intro x hlt hx
    have hx' : x ∉ id :: waiting ++ active := mt hp.mem_iff.mpr hx
    unfold Settled
    rw [hfate x fun hxid => hx' (hxid ▸ .head _)]
    exact h.gone x hlt hx'
  · intro x hle
    have hlt : id < next := h.known id (.head _)
    rw [hfate x (by omega)]
    exact h.fresh x hle

theorem finish (h : Held next waiting (id :: active) log) : Held next waiting active (log ++ [.freed id]) := by
  have hp : (waiting ++ id :: active).Perm (id :: (waiting ++ active)) := List.perm_middle
  obtain ⟨hid, hnodup⟩ := List.nodup_cons.mp (hp.nodup_iff.mp h.nodup)
  have hfate : ∀ x, x ≠ id → fate (log ++ [.freed id]) x = fate log x := by
    intro x hx
    rw [fate_append, ← List.map_singleton (f := Mark.freed), fate_freed x _ (List.nodup_singleton _),
      if_neg (mt List.mem_singleton.mp hx), List.append_nil]
  refine ⟨hnodup, fun x hx => h.known x (hp.mem_iff.mpr (.tail _ hx)), ?_, ?_, ?_, ?_⟩
  · intro x hx
    rw [hfate x fun hx' => hid (hx' ▸ List.mem_append_left _ hx)]
    exact h.idle x hx
  · intro x hx
    rw [hfate x fun hx' => hid (hx' ▸ List.mem_append_right _ hx)]
    exact h.busy x (.tail _ hx)
  · intro x hlt hx
    by_cases hxid : x = id
    · subst hxid
      right
      rw [fate_append, h.busy x (.head _)]
      simp [fate, Mark.id]
    · unfold Settled
      rw [hfate x hxid]
      refine h.gone x hlt fun hx' => ?_
      rcases List.mem_cons.mp (hp.mem_iff.mp hx') with hx' | hx'
      · exact hxid hx'
      · exact hx hx'
  · intro x hle
    have hlt : id < next := h.known id (hp.mem_iff.mpr (.head _))
    rw [hfate x (by omega)]
    exact h.fresh x hle

end

end Held

end Custody
