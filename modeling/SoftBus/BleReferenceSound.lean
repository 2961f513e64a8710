import SoftBus.BleReference

/-!
# A BLE connection that is not used is closed

A peer that waits for the closing gets an answer, so with nothing in flight nobody
waits. If no release of one peer brings the count of the other to zero while it was sent
with a positive count, an unused connection is closed.
-/

namespace SoftBus

open PeerCount

theorem BleReferenceRequest.delta_nonneg (m : BleReferenceRequest) (h : m.high = true) : 0 ≤ m.delta :=
  of_decide_eq_true h

/-- A peer, what it has sent and what it is sent. -/
structure BleConnection.Sound (c : BleConnection) (sent incoming : List BleReferenceRequest) : Prop where
  isOpen : c.state = .exchangedBasicInfo ∨ c.state = .negotiationClosing
  remoteDisconnect : c.remoteDisconnect = true
  -- A request for a new reference counts it.
  honest : ∀ m ∈ sent, 0 < m.delta → m.isZero = false
  closingRc : c.state = .negotiationClosing → c.connectionRc ≤ 0
  -- Who waits for the closing waits for an answer.
  closing : c.state = .negotiationClosing → Sent BleReferenceRequest.isZero sent ∨ Sent (fun m => !m.isZero) incoming

structure BlePair.Sound (s : BlePair) : Prop where
  balanced : Balanced (fun c : BleConnection => (c.held : Int)) BleConnection.connectionRc BleReferenceRequest.delta s
  conn : ∀ i, (s.conn i).Sound (s.wire i) (s.wire i.peer)

def BlePair.Noticed (s : BlePair) : Prop :=
  (∀ i, (s.conn i).connectionRc ≤ 0) → ∃ i, Sent BleReferenceRequest.isZero (s.wire i)

/-- A release that was sent with a positive count brings the count of the receiver to zero. -/
def BlePair.Crosses (s : BlePair) : BleEvent → Bool
  | .deliver side overtake =>
    match take BleReferenceRequest.high overtake (s.wire side.peer) with
    | none => false
    | some (m, _) =>
      decide (m.delta < 0 ∧ 0 < m.referenceNumber ∧ (s.conn side).connectionRc + m.delta ≤ 0)
  | _ => false

def BlePair.waiting (s : BlePair) (i : Side) : Bool :=
  decide ((s.conn i).state = .negotiationClosing ∧ 0 < (s.conn i).closingTimeouts)

def BlePair.Quiet (s : BlePair) : Prop := ∀ i, s.wire i = []

section
variable {s : BlePair} {i : Side}

theorem BlePair.references_eq (s : BlePair) (i : Side) :
    s.references = (s.conn i).held + (s.conn i.peer).held := Side.add_peer (fun i => (s.conn i).held) i

theorem BlePair.Sound.peer (hs : s.Sound) : (s.conn i.peer).Sound (s.wire i.peer) (s.wire i) := by
  simpa using hs.conn i.peer

theorem BlePair.Sound.disconnected_eq (hs : s.Sound) : s.disconnected = false := by
  refine decide_eq_false ?_
  rintro (h | h)
  · rcases (hs.conn .client).isOpen with h' | h' <;> rw [h] at h' <;> cases h'
  · rcases (hs.conn .server).isOpen with h' | h' <;> rw [h] at h' <;> cases h'

theorem BlePair.Sound.not_closing (hs : s.Sound) (hq : s.Quiet) (i : Side) :
    (s.conn i).state ≠ .negotiationClosing := by
  intro h
  rcases (hs.conn i).closing h with h | h
  · rw [hq i] at h
    exact not_sent_nil h
  · rw [hq i.peer] at h
    exact not_sent_nil h

theorem BlePair.Sound.references_pos (hs : s.Sound) (hn : s.Noticed) (hq : s.Quiet) : 0 < s.references := by
  refine Nat.pos_of_ne_zero fun h0 => ?_
  obtain ⟨i, hi⟩ := hn fun i => by
    have := hs.balanced.rc_eq i (hq i.peer)
    rw [s.references_eq i] at h0
    omega
  rw [hq i] at hi
  exact not_sent_nil hi

/-! ## A peer counts -/

theorem connBleUpdateConnectionRc_spec {c : BleConnection} (hr : c.remoteDisconnect = true) (delta : Int) :
    (connBleUpdateConnectionRc c delta).1.connectionRc = c.connectionRc + delta ∧
    (connBleUpdateConnectionRc c delta).1.held = c.held ∧
    (connBleUpdateConnectionRc c delta).1.remoteDisconnect = true ∧
    (connBleUpdateConnectionRc c delta).2 = [⟨delta, c.connectionRc + delta⟩] ∧
    ((connBleUpdateConnectionRc c delta).1.state = c.state ∨
      c.connectionRc + delta ≤ 0 ∧ (connBleUpdateConnectionRc c delta).1.state = .negotiationClosing) := by
  unfold connBleUpdateConnectionRc
  rw [hr]
  split
  next h => exact ⟨rfl, rfl, rfl, rfl, .inr ⟨h, rfl⟩⟩
  next => exact ⟨rfl, rfl, rfl, rfl, .inl rfl⟩

theorem BlePair.Sound.update (hs : s.Sound) {c : BleConnection} {delta : Int}
    (hrc : c.connectionRc = (s.conn i).connectionRc) (hstate : c.state = (s.conn i).state)
    (hremote : c.remoteDisconnect = (s.conn i).remoteDisconnect)
    (hheld : (c.held : Int) = (s.conn i).held + delta) (hneg : c.state = .negotiationClosing → delta ≤ 0) :
    (s.update i c delta).Sound ∧ (s.update i c delta).Noticed := by
  obtain ⟨hrc', hheld', hremote', hm, hstate'⟩ :=
    connBleUpdateConnectionRc_spec (hremote.trans (hs.conn i).remoteDisconnect) delta
  unfold BlePair.update
  rw [hm]
  have hbal : Balanced (fun c : BleConnection => (c.held : Int)) BleConnection.connectionRc
      BleReferenceRequest.delta
      (s.turn i (connBleUpdateConnectionRc c delta).1 (s.wire i.peer) [⟨delta, c.connectionRc + delta⟩]) := by
    refine hs.balanced.act ?_ ?_ ?_
    · rw [hheld', hheld]
    · rw [hrc', hrc]
    · exact Int.natCast_nonneg _
  have hle := hbal.held_le i
  rw [Link.turn_conn_self, hheld', hrc'] at hle
  -- the count is zero only if the peer says so
  have hzero : (connBleUpdateConnectionRc c delta).1.connectionRc ≤ 0 →
      Sent BleReferenceRequest.isZero (s.wire i ++ [⟨delta, c.connectionRc + delta⟩]) := by
    intro h
    rw [hrc'] at h
    exact Sent.last (decide_eq_true h)
  constructor
  · refine ⟨hbal, Link.turn_forall ⟨?_, hremote', ?_, fun h => ?_, fun h => ?_⟩
      { hs.peer with closing := fun h => (hs.peer.closing h).imp_right fun h => h.append _ }⟩
    · rcases hstate' with h | ⟨_, h⟩
      · rw [h, hstate]
        exact (hs.conn i).isOpen
      · exact .inr h
    · intro m hmem hpos
      rcases List.mem_append.mp hmem with hmem | hmem
      · exact (hs.conn i).honest m hmem hpos
      · cases List.mem_singleton.mp hmem
        refine decide_eq_false ?_
        change 0 < delta at hpos
        change ¬ c.connectionRc + delta ≤ 0
        omega
    · rw [hrc']
      rcases hstate' with h' | ⟨h', _⟩
      · rw [h'] at h
        have h₁ := (hs.conn i).closingRc (hstate ▸ h)
        have h₂ := hneg h
        omega
      · exact h'
    · rcases hstate' with h' | ⟨h', _⟩
      · rw [h', hstate] at h
        exact ((hs.conn i).closing h).imp_left fun h => h.append _
      · exact .inl (hzero (hrc' ▸ h'))
  · intro hall
    have := hall i
    rw [Link.turn_conn_self] at this
    refine ⟨i, ?_⟩
    rw [Link.turn_wire_self]
    exact hzero this

/-! ## A peer hears -/

theorem BlePair.Sound.hear (hs : s.Sound) {q ms : List BleReferenceRequest} {m : BleReferenceRequest}
    {c : BleConnection} (ht : Taken BleReferenceRequest.high (s.wire i.peer) m q)
    (hrc : c.connectionRc = (s.conn i).connectionRc + m.delta) (hheld : c.held = (s.conn i).held)
    (hremote : c.remoteDisconnect = (s.conn i).remoteDisconnect) (hstate : c.state = .exchangedBasicInfo)
    (hms : ms = [] ∧ m.isZero = false ∨ ∃ n > 0, ms = [⟨0, n⟩]) : BlePair.Sound (s.turn i c q ms) := by
  have hreply : ∀ x ∈ ms, x.delta = 0 := by
    rcases hms with ⟨rfl, _⟩ | ⟨n, _, rfl⟩
    · exact fun _ h => nomatch h
    · intro x hx
      rw [List.mem_singleton.mp hx]
  have hopen : c.state ≠ .negotiationClosing := by
    rw [hstate]
    nofun
  refine ⟨?_, Link.turn_forall
    ⟨.inl hstate, hremote.trans (hs.conn i).remoteDisconnect, ?_, fun h => absurd h hopen, fun h => absurd h hopen⟩
    { hs.peer with honest := fun x hx => hs.peer.honest x (ht.mem_iff.mpr (.inr hx)), closing := fun h => ?_ }⟩
  · refine hs.balanced.hear BleReferenceRequest.delta_nonneg ht (congrArg _ hheld) hrc ?_ (Int.natCast_nonneg _)
    exact hms.imp And.left fun ⟨n, _, h⟩ => ⟨_, h, rfl⟩
  · intro x hx hpos
    rcases List.mem_append.mp hx with hx | hx
    · exact (hs.conn i).honest x hx hpos
    · rw [hreply x hx] at hpos
      exact absurd hpos (Int.lt_irrefl 0)
  · rcases hs.peer.closing h with h | h
    · rcases hms with ⟨_, hm⟩ | ⟨n, hn, rfl⟩
      · exact .inl (h.taken ht hm)
      · exact .inr (Sent.last (by simpa [BleReferenceRequest.isZero] using hn))
    · exact .inr (h.append _)

structure BlePair.Ended (s : BlePair) : Prop where
  disconnected : s.disconnected = true
  -- Nobody waits for the closing while references are held.
  unused : ∀ i, (s.conn i).state = .negotiationClosing → s.references = 0

theorem BlePair.Sound.receive (hs : s.Sound) {q : List BleReferenceRequest} {m : BleReferenceRequest}
    (ht : Taken BleReferenceRequest.high (s.wire i.peer) m q) :
    (s.receive i q m).Ended ∨ (s.receive i q m).Sound ∧
      (s.Noticed → ¬ (m.delta < 0 ∧ 0 < m.referenceNumber ∧ (s.conn i).connectionRc + m.delta ≤ 0) →
        (s.receive i q m).Noticed) := by
  have hknown : 0 ≤ (s.conn i).connectionRc - (s.conn i).held + m.delta :=
    ((hs.balanced i).receive BleReferenceRequest.delta_nonneg ht).known_nonneg
  unfold BlePair.receive
  by_cases hn : m.referenceNumber > 0
  · right
    have hz : m.isZero = false := decide_eq_false (Int.not_le.mpr hn)
    have hreq : ∃ c : BleConnection, connBleOnReferenceRequest (s.conn i) m.delta m.referenceNumber = (c, []) ∧
        c.connectionRc = (s.conn i).connectionRc + m.delta ∧ c.held = (s.conn i).held ∧
        c.remoteDisconnect = (s.conn i).remoteDisconnect ∧ c.state = .exchangedBasicInfo := by
      unfold connBleOnReferenceRequest
      rw [if_pos hn]
      split
      next => exact ⟨_, rfl, rfl, rfl, rfl, rfl⟩
      next h => exact ⟨_, rfl, rfl, rfl, rfl, (hs.conn i).isOpen.resolve_right h⟩
    obtain ⟨c, hreq, hrc, hheld, hremote, hstate⟩ := hreq
    rw [hreq]
    refine ⟨hs.hear ht hrc hheld hremote hstate (.inl ⟨rfl, hz⟩), fun hnoticed hcross hall => ?_⟩
    have hi := hall i
    have hp := hall i.peer
    rw [Link.turn_conn_self, hrc] at hi
    rw [Link.turn_conn_peer] at hp
    -- the request does not lower the count, so nothing that matters changes
    have hold : (s.conn i).connectionRc ≤ 0 := by
      by_contra h
      exact hcross ⟨by omega, hn, hi⟩
    obtain ⟨k, hk⟩ := hnoticed fun k => by
      rcases Side.eq_or_eq_peer i k with rfl | rfl
      · exact hold
      · exact hp
    refine ⟨k, ?_⟩
    rcases Side.eq_or_eq_peer i k with rfl | rfl
    · rw [Link.turn_wire_self]
      exact hk.append _
    · rw [Link.turn_wire_peer]
      exact hk.taken ht hz
  by_cases hle : (s.conn i).connectionRc + m.delta ≤ 0
  · left
    rw [show connBleOnReferenceRequest (s.conn i) m.delta m.referenceNumber = _ from (if_neg hn).trans (if_pos hle)]
    have hself : (s.conn i).held = 0 := by omega
    refine ⟨decide_eq_true ?_, fun k hk => ?_⟩
    · cases i with
      | client => exact .inl rfl
      | server => exact .inr rfl
    · rcases Side.eq_or_eq_peer i k with rfl | rfl
      · rw [Link.turn_conn_self] at hk
        cases hk
      · -- the peer that waits counts nothing, so it holds nothing
        rw [Link.turn_conn_peer] at hk
        have h₁ := hs.peer.closingRc hk
        have h₂ := hs.balanced.held_le i.peer
        rw [BlePair.references_eq _ i, Link.turn_conn_self, Link.turn_conn_peer]
        change (s.conn i).held + _ = 0
        omega
  · right
    rw [show connBleOnReferenceRequest (s.conn i) m.delta m.referenceNumber = _ from (if_neg hn).trans (if_neg hle)]
    have hz : m.isZero = true := decide_eq_true (Int.not_lt.mp hn)
    have hstate : (s.conn i).state = .exchangedBasicInfo := by
      refine (hs.conn i).isOpen.resolve_right fun h => ?_
      have h₁ := (hs.conn i).closingRc h
      have h₂ := hs.peer.honest m (ht.mem_iff.mpr (.inl rfl)) (by omega)
      rw [hz] at h₂
      cases h₂
    refine ⟨hs.hear ht rfl rfl rfl hstate (.inr ⟨_, Int.not_le.mp hle, rfl⟩), fun _ _ hall => ?_⟩
    have := hall i
    rw [Link.turn_conn_self] at this
    exact absurd this hle

/-! ## Runs -/

theorem BlePair.Sound.congr {s' : BlePair} (hs : s.Sound) (hwire : ∀ k, s'.wire k = s.wire k)
    (hconn : ∀ k, ∃ n, s'.conn k = { s.conn k with closingTimeouts := n }) :
    s'.Sound ∧ (s.Noticed → s'.Noticed) := by
  obtain ⟨conn, wire⟩ := s
  obtain ⟨conn', wire'⟩ := s'
  obtain rfl : wire' = wire := funext hwire
  choose n hn using hconn
  obtain rfl : conn' = fun k => { conn k with closingTimeouts := n k } := funext hn
  refine ⟨⟨hs.balanced, fun k => ?_⟩, fun h => h⟩
  obtain ⟨h₁, h₂, h₃, h₄, h₅⟩ := hs.conn k
  exact ⟨h₁, h₂, h₃, h₄, h₅⟩

theorem BlePair.Sound.step (hs : s.Sound) (event : BleEvent) :
    (s.step event).Ended ∨ (s.step event).Sound ∧ (s.Noticed → s.Crosses event = false → (s.step event).Noticed) := by
  cases event with
  | acquire side =>
    right
    rw [BlePair.step]
    split
    next h =>
      have hheld : (((s.conn side).held + 1 : Nat) : Int) = (s.conn side).held + 1 := rfl
      have hneg : ¬ (s.conn side).state = .negotiationClosing := by
        rw [h]
        nofun
      obtain ⟨h₁, h₂⟩ := hs.update (c := { s.conn side with held := (s.conn side).held + 1 }) rfl rfl rfl hheld
        fun h => absurd h hneg
      exact ⟨h₁, fun _ _ => h₂⟩
    next => exact ⟨hs, fun h _ => h⟩
  | release side =>
    right
    rw [BlePair.step]
    split
    next h =>
      have hheld : (((s.conn side).held - 1 : Nat) : Int) = (s.conn side).held + -1 := by omega
      obtain ⟨h₁, h₂⟩ := hs.update (c := { s.conn side with held := (s.conn side).held - 1 }) rfl rfl rfl hheld
        fun _ => by decide
      exact ⟨h₁, fun _ _ => h₂⟩
    next => exact ⟨hs, fun h _ => h⟩
  | closingTimeout side =>
    right
    rw [BlePair.step]
    split
    next h =>
      have hq : s.Quiet := by
        intro k
        cases k with
        | client => exact h.2.1
        | server => exact h.2.2
      rw [bleWaitNegotiationClosingTimeout, if_neg (hs.not_closing hq side)]
      refine And.imp_right (fun h hn _ => h hn) (hs.congr (fun k => ?_) (fun k => ?_))
      · rcases Side.eq_or_eq_peer side k with rfl | rfl
        · rw [Link.turn_wire_self, List.append_nil]
        · rw [Link.turn_wire_peer]
      · rcases Side.eq_or_eq_peer side k with rfl | rfl
        · exact ⟨_, Link.turn_conn_self ..⟩
        · exact ⟨_, Link.turn_conn_peer ..⟩
    next => exact ⟨hs, fun h _ => h⟩
  | deliver side overtake =>
    rw [BlePair.step]
    split
    next => exact .inr ⟨hs, fun h _ => h⟩
    next m q h =>
      refine (hs.receive (take_taken h)).imp_right (And.imp_right fun hn hnoticed hcross => hn hnoticed ?_)
      rw [BlePair.Crosses, h] at hcross
      exact of_decide_eq_false hcross

theorem BlePair.Sound.next (hs : s.Ended ∨ s.Sound) (event : BleEvent) :
    (s.next event).Ended ∨ (s.next event).Sound := by
  unfold BlePair.next
  rcases hs with hs | hs
  · rw [hs.disconnected]
    exact .inl hs
  · rw [hs.disconnected_eq]
    exact (hs.step event).imp_right And.left

theorem BlePair.Noticed.next (hs : s.Ended ∨ s.Sound ∧ s.Noticed) {event : BleEvent} (hc : s.Crosses event = false) :
    (s.next event).Ended ∨ (s.next event).Sound ∧ (s.next event).Noticed := by
  unfold BlePair.next
  rcases hs with hs | hs
  · rw [hs.disconnected]
    exact .inl hs
  · rw [hs.1.disconnected_eq]
    exact (hs.1.step event).imp_right (And.imp_right fun h => h hs.2 hc)

theorem BlePair.init_sound {client server : Nat} (hpos : 0 < client + server) :
    (BlePair.init client server).Sound ∧ (BlePair.init client server).Noticed := by
  refine ⟨⟨fun i => ?_, fun i => ⟨?_, ?_, nofun, ?_, ?_⟩⟩, fun h => ?_⟩
  · cases i with
    | client =>
      have h : (client + server : Int) - client = server := by omega
      change Tracks _ (server : Int) ((client + server : Int) - client) []
      rw [h]
      exact Tracks.nil (Int.natCast_nonneg _)
    | server =>
      have h : (client + server : Int) - server = client := by omega
      change Tracks _ (client : Int) ((client + server : Int) - server) []
      rw [h]
      exact Tracks.nil (Int.natCast_nonneg _)
  · cases i <;> exact .inl rfl
  · cases i <;> rfl
  · cases i <;> nofun
  · cases i <;> nofun
  · have := h .client
    change (client + server : Int) ≤ 0 at this
    omega

end

/-- With nothing in flight, no peer waits for the closing while references are held; and if
no release crossed another, an unused connection is closed. -/
theorem ble_unused_is_closed {client server : Nat} (hpos : 0 < client + server) (events : List BleEvent)
    (hquiet : (Run.final BlePair.next (.init client server) events).Quiet) :
    (0 < (Run.final BlePair.next (.init client server) events).references →
      ∀ i, ((Run.final BlePair.next (.init client server) events).conn i).state ≠ .negotiationClosing) ∧
    (Run.Always BlePair.next (fun s event => s.Crosses event = false) (.init client server) events →
      (Run.final BlePair.next (.init client server) events).references = 0 →
      (Run.final BlePair.next (.init client server) events).disconnected = true ∨
      ∃ i, (Run.final BlePair.next (.init client server) events).waiting i = true) := by
  obtain ⟨hinit, hnoticed⟩ := BlePair.init_sound hpos
  constructor
  · intro hrefs i hi
    rcases Run.inv_final_of_step (I := fun s : BlePair => s.Ended ∨ s.Sound)
      (fun _ event hs => BlePair.Sound.next hs event) events (.inr hinit) with h | h
    · exact absurd (h.unused i hi) (Nat.pos_iff_ne_zero.mp hrefs)
    · exact h.not_closing hquiet i hi
  · intro hcross hrefs
    rcases Run.inv_final (I := fun s : BlePair => s.Ended ∨ s.Sound ∧ s.Noticed)
      (fun _ _ hs hc => BlePair.Noticed.next hs hc) events (.inr ⟨hinit, hnoticed⟩) hcross with h | h
    · exact .inl h.disconnected
    · exact absurd hrefs (Nat.pos_iff_ne_zero.mp (h.1.references_pos h.2 hquiet))

/-- The client gives back its reference after the server did. -/
theorem ble_unused_is_closed_in_turn :
    (Run.final BlePair.next (.init 1 1) [.release .server, .deliver .client false, .release .client,
      .deliver .server false]).disconnected = true ∨
    ∃ i, (Run.final BlePair.next (.init 1 1) [.release .server, .deliver .client false, .release .client,
      .deliver .server false]).waiting i = true :=
  (ble_unused_is_closed (by decide) _ fun i => by cases i <;> decide).2 (by decide) (by decide)

/-- Both peers give back their references at once, and nobody closes the connection. -/
theorem ble_unused_left_open :
    (∀ i, (Run.final BlePair.next (.init 1 1) [.release .client, .release .server, .deliver .client false,
      .deliver .server false]).wire i = []) ∧
    (Run.final BlePair.next (.init 1 1) [.release .client, .release .server, .deliver .client false,
      .deliver .server false]).references = 0 ∧
    (Run.final BlePair.next (.init 1 1) [.release .client, .release .server, .deliver .client false,
      .deliver .server false]).disconnected = false ∧
    ∀ i, (Run.final BlePair.next (.init 1 1) [.release .client, .release .server, .deliver .client false,
      .deliver .server false]).waiting i = false := by
  refine ⟨fun i => ?_, by decide, by decide, fun i => ?_⟩
  · cases i <;> decide
  · cases i <;> decide

end SoftBus
