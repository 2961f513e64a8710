import Mathlib.Algebra.Ring.Int.Defs
import Mathlib.Data.List.Basic
import Mathlib.Logic.Function.Basic

/-!
# A count kept by two parties

Two parties are joined by two wires. Each party adds to its count what it does
itself and what it is told, and a message on the wire tells the other what was
added. Messages of high priority may overtake those of low priority; only a
message of low priority takes something off a count.
-/

namespace PeerCount

/-! ## Wires -/

section
variable {μ : Type}

def takeHigh (high : μ → Bool) : List μ → Option (μ × List μ)
  | [] => none
  | m :: q => if high m then some (m, q) else (takeHigh high q).map fun p => (p.1, m :: p.2)

def take (high : μ → Bool) (overtake : Bool) (q : List μ) : Option (μ × List μ) :=
  if overtake then takeHigh high q
  else match q with
    | [] => none
    | m :: q => some (m, q)

structure Taken (high : μ → Bool) (q : List μ) (m : μ) (q' : List μ) : Prop where
  split : ∃ l r, q = l ++ m :: r ∧ q' = l ++ r ∧ (l = [] ∨ high m = true)

variable {high : μ → Bool} {q q' : List μ} {m : μ}

theorem takeHigh_split : ∀ {q q' : List μ} {m : μ}, takeHigh high q = some (m, q') →
    ∃ l r, q = l ++ m :: r ∧ q' = l ++ r ∧ high m = true
  | [], _, _, h => nomatch h
  | x :: q, q', m, h => by
    unfold takeHigh at h
    split at h
    next hx =>
      cases h
      exact ⟨[], _, rfl, rfl, hx⟩
    next =>
      obtain ⟨⟨m', r⟩, hr, he⟩ := Option.map_eq_some_iff.mp h
      cases he
      obtain ⟨l, r, rfl, rfl, hm⟩ := takeHigh_split hr
      exact ⟨x :: l, r, rfl, rfl, hm⟩

theorem take_taken {overtake : Bool} (h : take high overtake q = some (m, q')) : Taken high q m q' := by
  unfold take at h
  split at h
  next =>
    obtain ⟨l, r, hq, hq', hm⟩ := takeHigh_split h
    exact ⟨l, r, hq, hq', .inr hm⟩
  next =>
    split at h
    next => cases h
    next =>
      cases h
      exact ⟨[], _, rfl, rfl, .inl rfl⟩

theorem Taken.mem_iff (h : Taken high q m q') {x : μ} : x ∈ q ↔ x = m ∨ x ∈ q' := by
  obtain ⟨l, r, rfl, rfl, _⟩ := h.split
  simp only [List.mem_append, List.mem_cons]
  constructor
  · rintro (h | h | h)
    · exact .inr (.inl h)
    · exact .inl h
    · exact .inr (.inr h)
  · rintro (h | h | h)
    · exact .inr (.inl h)
    · exact .inl h
    · exact .inr (.inr h)

def Sent (p : μ → Bool) (wire : List μ) : Prop := ∃ m ∈ wire, p m = true

instance (p : μ → Bool) (wire : List μ) : Decidable (Sent p wire) := List.decidableBEx ..

variable {p : μ → Bool} {wire : List μ}

theorem Sent.append (h : Sent p wire) (ms : List μ) : Sent p (wire ++ ms) := by
  obtain ⟨m, hm, hp⟩ := h
  exact ⟨m, List.mem_append_left _ hm, hp⟩

theorem Sent.last (hm : p m = true) : Sent p (wire ++ [m]) :=
  ⟨m, List.mem_append_right _ (List.mem_singleton_self _), hm⟩

theorem Sent.of_append {ms : List μ} (hms : ∀ m ∈ ms, p m = false) (h : Sent p (wire ++ ms)) : Sent p wire := by
  obtain ⟨m, hm, hp⟩ := h
  rcases List.mem_append.mp hm with hm | hm
  · exact ⟨m, hm, hp⟩
  · rw [hms m hm] at hp
    cases hp

theorem Sent.of_taken (ht : Taken high wire m q') (h : Sent p q') : Sent p wire := by
  obtain ⟨x, hx, hp⟩ := h
  exact ⟨x, ht.mem_iff.mpr (.inr hx), hp⟩

theorem Sent.taken (ht : Taken high wire m q') (hm : p m = false) (h : Sent p wire) : Sent p q' := by
  obtain ⟨x, hx, hp⟩ := h
  rcases ht.mem_iff.mp hx with rfl | hx
  · rw [hm] at hp
    cases hp
  · exact ⟨x, hx, hp⟩

theorem not_sent_nil : ¬ Sent p [] := fun ⟨_, hm, _⟩ => nomatch hm

end

/-! ## What one party knows of the other -/

section
variable {μ : Type} (delta : μ → Int)

def total (q : List μ) : Int := (q.map delta).sum

structure Tracks (held known : Int) (q : List μ) : Prop where
  sum : known + total delta q = held
  nonneg : ∀ p, p <+: q → 0 ≤ known + total delta p

variable {delta} {high : μ → Bool} {held known : Int} {q q' : List μ} {m : μ}

@[simp] theorem total_nil : total delta [] = 0 := rfl

theorem total_append (q₁ q₂ : List μ) : total delta (q₁ ++ q₂) = total delta q₁ + total delta q₂ := by
  unfold total
  rw [List.map_append, List.sum_append]

theorem total_cons (m : μ) (q : List μ) : total delta (m :: q) = delta m + total delta q := rfl

theorem Tracks.nil (h : 0 ≤ held) : Tracks delta held held [] where
  sum := by simp
  nonneg p hp := by
    rw [List.prefix_nil.mp hp]
    simpa using h

theorem Tracks.known_nonneg (h : Tracks delta held known q) : 0 ≤ known := by
  simpa using h.nonneg [] (List.nil_prefix)

theorem Tracks.eq_of_nil (h : Tracks delta held known []) : known = held := by
  simpa using h.sum

theorem Tracks.send (h : Tracks delta held known q) (hm : 0 ≤ held + delta m) :
    Tracks delta (held + delta m) known (q ++ [m]) where
  sum := by
    rw [total_append, total_cons, total_nil, ← h.sum]
    omega
  nonneg p hp := by
    rcases List.prefix_concat_iff.mp hp with rfl | hp
    · rw [total_append, total_cons, total_nil]
      have := h.sum
      omega
    · exact h.nonneg p hp

theorem Tracks.receive (hhigh : ∀ m, high m = true → 0 ≤ delta m) (h : Tracks delta held known q)
    (ht : Taken high q m q') : Tracks delta held (known + delta m) q' := by
  obtain ⟨l, r, rfl, rfl, hl⟩ := ht.split
  have hsum := h.sum
  rw [total_append, total_cons] at hsum
  refine ⟨by rw [total_append]; omega, fun p hp => ?_⟩
  obtain ⟨s, hs⟩ := hp
  rcases List.append_eq_append_iff.mp hs with ⟨l', rfl, _⟩ | ⟨r', rfl, rfl⟩
  · have hp : p <+: p ++ l' := List.prefix_append ..
    rcases hl with hl | hm
    · obtain ⟨rfl, rfl⟩ := List.append_eq_nil_iff.mp hl
      have := h.nonneg [m] (by simp)
      rw [total_cons] at this
      omega
    · have := h.nonneg p (hp.trans (List.prefix_append ..))
      have := hhigh m hm
      omega
  · have := h.nonneg (l ++ m :: r') (by simp)
    rw [total_append, total_cons] at this
    rw [total_append]
    omega

end

/-! ## Two parties -/

inductive Side where
  | client
  | server
deriving DecidableEq, Repr

def Side.peer : Side → Side
  | .client => .server
  | .server => .client

@[simp] theorem Side.peer_peer (i : Side) : i.peer.peer = i := by cases i <;> rfl

theorem Side.peer_ne (i : Side) : i.peer ≠ i := by cases i <;> decide

theorem Side.eq_or_eq_peer (i k : Side) : k = i ∨ k = i.peer := by
  cases i <;> cases k <;> decide

theorem Side.add_peer (f : Side → Nat) (i : Side) : f .client + f .server = f i + f i.peer := by
  cases i with
  | client => rfl
  | server => exact Nat.add_comm ..

structure Link (κ μ : Type) where
  conn : Side → κ
  wire : Side → List μ

section
variable {κ μ : Type} (l : Link κ μ) (i : Side) (c : κ) (q ms : List μ)

def Link.turn : Link κ μ where
  conn := Function.update l.conn i c
  wire := Function.update (Function.update l.wire i.peer q) i (l.wire i ++ ms)

@[simp] theorem Link.turn_conn_self : (l.turn i c q ms).conn i = c := Function.update_self ..

@[simp] theorem Link.turn_conn_peer : (l.turn i c q ms).conn i.peer = l.conn i.peer :=
  Function.update_of_ne i.peer_ne ..

@[simp] theorem Link.turn_wire_self : (l.turn i c q ms).wire i = l.wire i ++ ms := Function.update_self ..

@[simp] theorem Link.turn_wire_peer : (l.turn i c q ms).wire i.peer = q := by
  unfold turn
  dsimp only
  rw [Function.update_of_ne i.peer_ne, Function.update_self]

variable {l i c q ms}

/-- What holds of each party, its own wire and that of the other is shown for the party of the turn and for its peer. -/
theorem Link.turn_forall {P : κ → List μ → List μ → Prop} (hself : P c (l.wire i ++ ms) q)
    (hpeer : P (l.conn i.peer) q (l.wire i ++ ms)) (k : Side) :
    P ((l.turn i c q ms).conn k) ((l.turn i c q ms).wire k) ((l.turn i c q ms).wire k.peer) := by
  rcases Side.eq_or_eq_peer i k with rfl | rfl
  · simpa using hself
  · simpa using hpeer

end

/-! ## Two counts -/

section
variable {κ μ : Type} (held rc : κ → Int) (delta : μ → Int)

def Balanced (l : Link κ μ) : Prop :=
  ∀ i, Tracks delta (held (l.conn i.peer)) (rc (l.conn i) - held (l.conn i)) (l.wire i.peer)

variable {held rc delta} {high : μ → Bool} {l : Link κ μ} {i : Side} {c : κ} {m : μ}

theorem Balanced.held_le (h : Balanced held rc delta l) (i : Side) : held (l.conn i) ≤ rc (l.conn i) := by
  have := (h i).known_nonneg
  omega

theorem Balanced.rc_eq (h : Balanced held rc delta l) (i : Side) (hw : l.wire i.peer = []) :
    rc (l.conn i) = held (l.conn i) + held (l.conn i.peer) := by
  have := h i
  rw [hw] at this
  have := this.eq_of_nil
  omega

theorem Balanced.act (h : Balanced held rc delta l) (hheld : held c = held (l.conn i) + delta m)
    (hrc : rc c = rc (l.conn i) + delta m) (hpos : 0 ≤ held c) :
    Balanced held rc delta (l.turn i c (l.wire i.peer) [m]) := by
  intro k
  rcases Side.eq_or_eq_peer i k with rfl | rfl
  · rw [Link.turn_conn_self, Link.turn_conn_peer, Link.turn_wire_peer,
      show rc c - held c = rc (l.conn k) - held (l.conn k) by omega]
    exact h k
  · have := h i.peer
    rw [Side.peer_peer] at this ⊢
    rw [Link.turn_conn_self, Link.turn_conn_peer, Link.turn_wire_self, hheld]
    exact this.send (by omega)

theorem Balanced.hear (hhigh : ∀ m, high m = true → 0 ≤ delta m) (h : Balanced held rc delta l) {q : List μ}
    (ht : Taken high (l.wire i.peer) m q) (hheld : held c = held (l.conn i)) (hrc : rc c = rc (l.conn i) + delta m)
    {ms : List μ} (hms : ms = [] ∨ ∃ r, ms = [r] ∧ delta r = 0) (hpos : 0 ≤ held c) :
    Balanced held rc delta (l.turn i c q ms) := by
  intro k
  rcases Side.eq_or_eq_peer i k with rfl | rfl
  · rw [Link.turn_conn_self, Link.turn_conn_peer, Link.turn_wire_peer,
      show rc c - held c = rc (l.conn k) - held (l.conn k) + delta m by omega]
    exact (h k).receive hhigh ht
  · have hp := h i.peer
    rw [Side.peer_peer] at hp ⊢
    rw [Link.turn_conn_self, Link.turn_conn_peer, Link.turn_wire_self, hheld]
    rcases hms with rfl | ⟨r, rfl, hr⟩
    · rwa [List.append_nil]
    · have := hp.send (m := r) (by omega)
      rwa [hr, Int.add_zero] at this

end

end PeerCount
