import SoftBus.BrReference

/-!
# The peers of a BR connection agree

If a peer takes no new reference while a request of its own is in flight that says that
it counts none, a connection is closed exactly when no references are left, and both
counts are right once nothing is in flight.
-/

namespace SoftBus

open PeerCount

theorem BrCtlMessage.delta_nonneg (m : BrCtlMessage) (h : m.high = true) : 0 ≤ m.delta := by
  cases m with
  | notifyRequest delta referenceNumber => exact of_decide_eq_true h
  | notifyResponse referenceNumber => exact Int.le_refl 0

/-- A peer takes no reference while a request of its own is in flight that says that it
counts none. -/
def BrPair.Calm (s : BrPair) : BrEvent → Prop
  | .acquire side => ¬ Sent BrCtlMessage.isZero (s.wire side)
  | _ => True

instance (s : BrPair) : (event : BrEvent) → Decidable (s.Calm event)
  | .acquire side => inferInstanceAs (Decidable (¬ Sent BrCtlMessage.isZero (s.wire side)))
  | .release _ | .retryNotify _ | .closingTimeout _ | .deliver _ _ => .isTrue trivial

/-- A peer, what it has sent and what it is sent. -/
structure BrConnection.Sound (c : BrConnection) (sent incoming : List BrCtlMessage) : Prop where
  isOpen : c.state = .connected ∨ c.state = .negotiationClosing
  zeroSent : Sent BrCtlMessage.isZero sent → c.held = 0
  -- Who waits for the closing waits for an answer.
  closing : c.state = .negotiationClosing → Sent BrCtlMessage.isZero sent ∨ ∃ n > 0, .notifyResponse n ∈ incoming

structure BrPair.Sound (s : BrPair) : Prop where
  balanced : Balanced (fun c : BrConnection => (c.held : Int)) BrConnection.connectionRc BrCtlMessage.delta s
  conn : ∀ i, (s.conn i).Sound (s.wire i) (s.wire i.peer)
  -- If both count nothing, one of them is about to say so.
  idle : (∀ i, (s.conn i).connectionRc ≤ 0) → ∃ i, 0 < (s.conn i).retryNotifies ∨ Sent BrCtlMessage.isZero (s.wire i)

/-- Both counts are right and the connection is in use, or it is closed and not in use. -/
def BrPair.Agreed (s : BrPair) : Prop :=
  (0 < s.references ∧ ∀ i, (s.conn i).connectionRc = s.references ∧ (s.conn i).state = .connected) ∨
  (s.references = 0 ∧ s.disconnected = true)

def BrPair.Quiet (s : BrPair) : Prop := ∀ i, s.wire i = [] ∧ (s.conn i).retryNotifies = 0

section
variable {s : BrPair} {i : Side}

theorem BrPair.references_eq (s : BrPair) (i : Side) :
    s.references = (s.conn i).held + (s.conn i.peer).held := Side.add_peer (fun i => (s.conn i).held) i

theorem BrPair.Sound.peer (hs : s.Sound) : (s.conn i.peer).Sound (s.wire i.peer) (s.wire i) := by
  simpa using hs.conn i.peer

theorem BrPair.Sound.disconnected_eq (hs : s.Sound) : s.disconnected = false := by
  refine decide_eq_false ?_
  rintro (h | h)
  · rcases (hs.conn .client).isOpen with h' | h' <;> rw [h] at h' <;> cases h'
  · rcases (hs.conn .server).isOpen with h' | h' <;> rw [h] at h' <;> cases h'

theorem BrPair.Sound.agreed (hs : s.Sound) (hq : s.Quiet) : s.Agreed := by
  have hrc : ∀ i, (s.conn i).connectionRc = s.references := by
    intro i
    have := hs.balanced.rc_eq i (hq i.peer).1
    rw [s.references_eq i]
    omega
  have hzero : ∀ i, ¬ Sent BrCtlMessage.isZero (s.wire i) := by
    intro i
    rw [(hq i).1]
    exact not_sent_nil
  refine .inl ⟨Nat.pos_of_ne_zero fun h0 => ?_, fun i => ⟨hrc i, ?_⟩⟩
  · obtain ⟨i, hi | hi⟩ := hs.idle fun i => by rw [hrc i, h0]; exact Int.le_refl 0
    · rw [(hq i).2] at hi
      exact absurd hi (Nat.lt_irrefl 0)
    · exact hzero i hi
  · refine (hs.conn i).isOpen.resolve_right fun h => ?_
    rcases (hs.conn i).closing h with h | ⟨n, _, h⟩
    · exact hzero i h
    · rw [(hq i.peer).1] at h
      cases h

/-! ## A peer counts -/

theorem connBrUpdateConnectionRc_spec (c : BrConnection) (delta : Int) :
    (connBrUpdateConnectionRc c delta).1.connectionRc = c.connectionRc + delta ∧
    (connBrUpdateConnectionRc c delta).1.held = c.held ∧
    (connBrUpdateConnectionRc c delta).2 = .notifyRequest delta (c.connectionRc + delta) ∧
    ((connBrUpdateConnectionRc c delta).1.state = c.state ∨
      c.connectionRc + delta ≤ 0 ∧ (connBrUpdateConnectionRc c delta).1.state = .negotiationClosing) := by
  unfold connBrUpdateConnectionRc
  split
  next h => exact ⟨rfl, rfl, rfl, .inr ⟨h, rfl⟩⟩
  next => exact ⟨rfl, rfl, rfl, .inl rfl⟩

theorem BrPair.Sound.update (hs : s.Sound) {c : BrConnection} {delta : Int}
    (hrc : c.connectionRc = (s.conn i).connectionRc) (hstate : c.state = (s.conn i).state)
    (hheld : (c.held : Int) = (s.conn i).held + delta) (hcalm : Sent BrCtlMessage.isZero (s.wire i) → delta ≤ 0) :
    (s.update i c delta).Sound := by
  obtain ⟨hrc', hheld', hm, hstate'⟩ := connBrUpdateConnectionRc_spec c delta
  unfold BrPair.update
  rw [hm]
  have hbal : Balanced (fun c : BrConnection => (c.held : Int)) BrConnection.connectionRc BrCtlMessage.delta
      (s.turn i (connBrUpdateConnectionRc c delta).1 (s.wire i.peer)
        [.notifyRequest delta (c.connectionRc + delta)]) := by
    refine hs.balanced.act ?_ ?_ ?_
    · rw [hheld', hheld]
      rfl
    · rw [hrc', hrc]
      rfl
    · exact Int.natCast_nonneg _
  -- the count is zero only if the peer says so
  have hzero : (connBrUpdateConnectionRc c delta).1.connectionRc ≤ 0 →
      Sent BrCtlMessage.isZero (s.wire i ++ [.notifyRequest delta (c.connectionRc + delta)]) := by
    intro h
    rw [hrc'] at h
    exact Sent.last (decide_eq_true h)
  refine ⟨hbal, Link.turn_forall ⟨?_, ?_, fun h => ?_⟩ { hs.peer with closing := fun h => ?_ }, fun hall => ⟨i, .inr ?_⟩⟩
  · rcases hstate' with h | ⟨_, h⟩
    · rw [h, hstate]
      exact (hs.conn i).isOpen
    · exact .inr h
  · have hle := hbal.held_le i
    rw [Link.turn_conn_self] at hle
    rintro ⟨m, hmem, hz⟩
    rcases List.mem_append.mp hmem with hmem | hmem
    · have h0 := (hs.conn i).zeroSent ⟨m, hmem, hz⟩
      have := hcalm ⟨m, hmem, hz⟩
      omega
    · cases List.mem_singleton.mp hmem
      have := of_decide_eq_true hz
      omega
  · rcases hstate' with h' | ⟨h', _⟩
    · rw [h', hstate] at h
      exact ((hs.conn i).closing h).imp_left fun h => h.append _
    · exact .inl (hzero (hrc' ▸ h'))
  · exact (hs.peer.closing h).imp_right fun ⟨n, hn, h⟩ => ⟨n, hn, List.mem_append_left _ h⟩
  · have := hall i
    rw [Link.turn_conn_self] at this
    rw [Link.turn_wire_self]
    exact hzero this

/-! ## A peer hears -/

section
variable {q : List BrCtlMessage} {m : BrCtlMessage} {c : BrConnection} {ms : List BrCtlMessage}

/-- A peer takes a message in and stays connected. `hclosing` and `hanswer` say that it
answers who waits, `hidle` that a count of zero is noticed. -/
theorem BrPair.Sound.hear (hs : s.Sound) (ht : Taken BrCtlMessage.high (s.wire i.peer) m q)
    (hrc : c.connectionRc = (s.conn i).connectionRc + m.delta) (hheld : c.held = (s.conn i).held)
    (hms : ms = [] ∨ ∃ n > 0, ms = [.notifyResponse n])
    (hopen : c.state = .connected ∨ c.state = .negotiationClosing)
    (hclosing : c.state = .negotiationClosing →
      (s.conn i).state = .negotiationClosing ∧ ∀ n > 0, m ≠ .notifyResponse n)
    (hanswer : m.isZero = true → ms ≠ [])
    (hidle : c.connectionRc ≤ 0 → 0 < c.retryNotifies ∨
      m.isZero = false ∧ c.retryNotifies = (s.conn i).retryNotifies ∧ (s.conn i).connectionRc ≤ 0) :
    BrPair.Sound (s.turn i c q ms) := by
  have hzms : ∀ x ∈ ms, x.isZero = false := by
    rcases hms with rfl | ⟨n, _, rfl⟩
    · exact fun _ h => nomatch h
    · intro x hx
      rw [List.mem_singleton.mp hx]
      rfl
  refine ⟨?_, Link.turn_forall ⟨hopen, ?_, fun h => ?_⟩ ⟨hs.peer.isOpen, ?_, fun h => ?_⟩, fun hall => ?_⟩
  · refine hs.balanced.hear BrCtlMessage.delta_nonneg ht (congrArg _ hheld) hrc ?_ (Int.natCast_nonneg _)
    rcases hms with h | ⟨n, _, h⟩
    · exact .inl h
    · exact .inr ⟨_, h, rfl⟩
  · rw [hheld]
    exact fun h => (hs.conn i).zeroSent (h.of_append hzms)
  · obtain ⟨hst, hm⟩ := hclosing h
    rcases (hs.conn i).closing hst with h | ⟨n, hn, h⟩
    · exact .inl (h.append _)
    · rcases ht.mem_iff.mp h with h | h
      · exact absurd h.symm (hm n hn)
      · exact .inr ⟨n, hn, h⟩
  · exact fun h => hs.peer.zeroSent (h.of_taken ht)
  · rcases hs.peer.closing h with h | ⟨n, hn, h⟩
    · cases hz : m.isZero with
      | false => exact .inl (h.taken ht hz)
      | true =>
        rcases hms with rfl | ⟨n, hn, rfl⟩
        · exact absurd rfl (hanswer hz)
        · exact .inr ⟨n, hn, List.mem_append_right _ (List.mem_singleton_self _)⟩
    · exact .inr ⟨n, hn, List.mem_append_left _ h⟩
  · have hi := hall i
    have hp := hall i.peer
    rw [Link.turn_conn_self] at hi
    rw [Link.turn_conn_peer] at hp
    rcases hidle hi with h | ⟨hz, hretry, hold⟩
    · refine ⟨i, .inl ?_⟩
      rw [Link.turn_conn_self]
      exact h
    · -- nothing changed that matters
      obtain ⟨k, hk⟩ := hs.idle fun k => by
        rcases Side.eq_or_eq_peer i k with rfl | rfl
        · exact hold
        · exact hp
      refine ⟨k, ?_⟩
      rcases Side.eq_or_eq_peer i k with rfl | rfl
      · rw [Link.turn_conn_self, Link.turn_wire_self, hretry]
        exact hk.imp_right fun h => h.append _
      · rw [Link.turn_conn_peer, Link.turn_wire_peer]
        exact hk.imp_right fun h => h.taken ht hz

end

theorem brResume_spec (c : BrConnection) :
    (brResume c).connectionRc = c.connectionRc ∧ (brResume c).held = c.held ∧
    (brResume c).retryNotifies = c.retryNotifies ∧
    ((c.state = .connected ∨ c.state = .negotiationClosing) → (brResume c).state = .connected) := by
  unfold brResume
  split
  next => exact ⟨rfl, rfl, rfl, fun _ => rfl⟩
  next h => exact ⟨rfl, rfl, rfl, fun h' => h'.resolve_right h⟩

theorem BrPair.Sound.receiveRequest (hs : s.Sound) {q : List BrCtlMessage} {delta peerRc : Int}
    (ht : Taken BrCtlMessage.high (s.wire i.peer) (.notifyRequest delta peerRc) q) :
    (s.receive i q (.notifyRequest delta peerRc)).Sound ∨ s.references = 0 ∧
      (s.receive i q (.notifyRequest delta peerRc)).references = 0 ∧
      (s.receive i q (.notifyRequest delta peerRc)).disconnected = true := by
  have hknown : 0 ≤ (s.conn i).connectionRc - (s.conn i).held + delta :=
    ((hs.balanced i).receive BrCtlMessage.delta_nonneg ht).known_nonneg
  rw [BrPair.receive]
  by_cases hn : peerRc > 0
  · left
    have hz : ¬ (BrCtlMessage.notifyRequest delta peerRc).isZero = true := fun h => by
      have := of_decide_eq_true h
      omega
    by_cases h0 : (s.conn i).connectionRc + delta = 0
    · rw [show connBrOnReferenceRequest (s.conn i) delta peerRc = ({ s.conn i with
          connectionRc := (s.conn i).connectionRc + delta
          retryNotifies := (s.conn i).retryNotifies + 1 }, []) from (if_pos hn).trans (if_pos h0)]
      exact hs.hear ht rfl rfl (.inl rfl) (hs.conn i).isOpen (fun h => ⟨h, nofun⟩) (fun h => absurd h hz)
        fun _ => .inl (Nat.succ_pos _)
    · rw [show connBrOnReferenceRequest (s.conn i) delta peerRc =
        ({ s.conn i with connectionRc := (s.conn i).connectionRc + delta }, []) from (if_pos hn).trans (if_neg h0)]
      refine hs.hear ht rfl rfl (.inl rfl) (hs.conn i).isOpen (fun h => ⟨h, nofun⟩) (fun h => absurd h hz) fun h => ?_
      change _ + delta ≤ 0 at h
      omega
  obtain ⟨h₁, h₂, h₃, h₄⟩ := brResume_spec { s.conn i with connectionRc := (s.conn i).connectionRc + delta }
  by_cases hle : (s.conn i).connectionRc + delta ≤ 0
  · right
    rw [show connBrOnReferenceRequest (s.conn i) delta peerRc = _ from (if_neg hn).trans (if_pos hle)]
    -- the sender holds nothing since it sent the request, this peer holds no more than it counts
    have hpeer : (s.conn i.peer).held = 0 :=
      hs.peer.zeroSent ⟨_, ht.mem_iff.mpr (.inl rfl), decide_eq_true (Int.not_lt.mp hn)⟩
    have hself : (s.conn i).held = 0 := by omega
    refine ⟨by rw [s.references_eq i, hself, hpeer], ?_, ?_⟩
    · rw [BrPair.references_eq _ i, Link.turn_conn_self, Link.turn_conn_peer, hpeer]
      exact h₂.trans hself
    · refine decide_eq_true ?_
      cases i with
      | client => exact .inl rfl
      | server => exact .inr rfl
  · left
    rw [show connBrOnReferenceRequest (s.conn i) delta peerRc = _ from (if_neg hn).trans (if_neg hle)]
    have hc := h₄ (hs.conn i).isOpen
    refine hs.hear ht h₁ h₂ (.inr ⟨_, Int.not_le.mp hle, rfl⟩) (.inl hc) ?_ (fun _ => List.cons_ne_nil _ _) ?_
    · rw [hc]
      nofun
    · rw [h₁]
      exact fun h => absurd h hle

theorem BrPair.Sound.receiveResponse (hs : s.Sound) {q : List BrCtlMessage} {peerRc : Int}
    (ht : Taken BrCtlMessage.high (s.wire i.peer) (.notifyResponse peerRc) q) :
    (s.receive i q (.notifyResponse peerRc)).Sound := by
  rw [BrPair.receive, connBrOnReferenceResponse]
  split
  next hn =>
    obtain ⟨h₁, h₂, h₃, h₄⟩ := brResume_spec (s.conn i)
    have hc := h₄ (hs.conn i).isOpen
    refine hs.hear ht (by rw [h₁]; exact (Int.add_zero _).symm) h₂ (.inl rfl) (.inl hc) ?_ nofun ?_
    · rw [hc]
      nofun
    · rw [h₁]
      exact fun h => .inr ⟨rfl, h₃, h⟩
  next hn =>
    refine hs.hear ht (Int.add_zero _).symm rfl (.inl rfl) (hs.conn i).isOpen ?_ nofun fun h => .inr ⟨rfl, rfl, h⟩
    refine fun h => ⟨h, fun n hn' he => hn ?_⟩
    cases he
    exact hn'

theorem BrPair.Sound.congr {s' : BrPair} (hs : s.Sound) (hwire : ∀ k, s'.wire k = s.wire k)
    (hconn : ∀ k, ∃ n, s'.conn k = { s.conn k with closingTimeouts := n }) : s'.Sound := by
  obtain ⟨conn, wire⟩ := s
  obtain ⟨conn', wire'⟩ := s'
  obtain rfl : wire' = wire := funext hwire
  choose n hn using hconn
  obtain rfl : conn' = fun k => { conn k with closingTimeouts := n k } := funext hn
  exact ⟨hs.balanced, fun k => ⟨(hs.conn k).isOpen, (hs.conn k).zeroSent, (hs.conn k).closing⟩, hs.idle⟩

theorem BrPair.Sound.closingTimeout (hs : s.Sound) (hwire : ∀ k, s.wire k = []) {c : BrConnection}
    (hc : c = brWaitNegotiationClosingTimeout
      { s.conn i with closingTimeouts := (s.conn i).closingTimeouts - 1 }) :
    BrPair.Sound (s.turn i c (s.wire i.peer) []) := by
  have hnot : ¬ (s.conn i).state = .negotiationClosing := by
    intro h
    rcases (hs.conn i).closing h with ⟨m, hm, _⟩ | ⟨n, _, hm⟩ <;> rw [hwire] at hm <;> cases hm
  rw [brWaitNegotiationClosingTimeout, if_neg hnot] at hc
  refine hs.congr (fun k => ?_) (fun k => ?_)
  · rcases Side.eq_or_eq_peer i k with rfl | rfl
    · rw [Link.turn_wire_self, List.append_nil]
    · rw [Link.turn_wire_peer]
  · rcases Side.eq_or_eq_peer i k with rfl | rfl
    · exact ⟨_, (Link.turn_conn_self ..).trans hc⟩
    · exact ⟨_, Link.turn_conn_peer ..⟩

/-! ## Runs -/

theorem BrPair.Sound.step (hs : s.Sound) {event : BrEvent} (hcalm : s.Calm event) :
    (s.step event).Sound ∨ s.references = 0 ∧ (s.step event).references = 0 ∧
      (s.step event).disconnected = true := by
  cases event with
  | acquire side =>
    left
    rw [BrPair.step]
    split
    next => exact hs.update rfl rfl rfl fun h => absurd h hcalm
    next => exact hs
  | release side =>
    left
    rw [BrPair.step]
    split
    next h =>
      refine hs.update rfl rfl ?_ fun _ => by decide
      change (((s.conn side).held - 1 : Nat) : Int) = _
      omega
    next => exact hs
  | retryNotify side =>
    left
    rw [BrPair.step]
    split
    next => exact hs.update rfl rfl (Int.add_zero _).symm fun _ => Int.le_refl 0
    next => exact hs
  | closingTimeout side =>
    left
    rw [BrPair.step]
    split
    next h =>
      refine hs.closingTimeout (fun k => ?_) rfl
      cases k with
      | client => exact h.2.1
      | server => exact h.2.2
    next => exact hs
  | deliver side overtake =>
    rw [BrPair.step]
    split
    next => exact .inl hs
    next m q h =>
      cases m with
      | notifyRequest delta peerRc => exact hs.receiveRequest (take_taken h)
      | notifyResponse peerRc => exact .inl (hs.receiveResponse (take_taken h))

def BrPair.Inv (s : BrPair) : Prop := s.Sound ∨ s.references = 0 ∧ s.disconnected = true

theorem BrPair.Inv.next (hs : s.Inv) {event : BrEvent} (hcalm : s.Calm event) :
    (s.next event).Inv ∧ (s.disconnected = false → (s.next event).disconnected = true → s.references = 0) := by
  unfold BrPair.next
  rcases hs with hs | hs
  · rw [hs.disconnected_eq]
    rcases hs.step hcalm with h | h
    · refine ⟨.inl h, fun _ hd => ?_⟩
      rw [if_neg Bool.false_ne_true, h.disconnected_eq] at hd
      cases hd
    · exact ⟨.inr h.2, fun _ _ => h.1⟩
  · rw [hs.2]
    exact ⟨.inr hs, nofun⟩

theorem BrPair.init_inv : BrPair.Inv .init := by
  refine .inl ⟨fun i => ?_, fun i => ⟨?_, fun h => absurd h not_sent_nil, ?_⟩, fun h => ?_⟩
  · cases i
    · exact Tracks.nil (by decide)
    · exact Tracks.nil (by decide)
  · cases i <;> exact .inl rfl
  · cases i <;> nofun
  · exact absurd (h .client) (by decide)

end

/-- In a run in which no peer takes a reference while its own request with no reference
is in flight, the connection is closed only when no reference is left, and in a state
where nothing is pending the counts agree with the references or the connection is closed. -/
theorem br_references_agree (events : List BrEvent)
    (hcalm : Run.Always BrPair.next BrPair.Calm .init events) :
    ((Run.final BrPair.next .init events).Quiet → (Run.final BrPair.next .init events).Agreed) ∧
    ((Run.final BrPair.next .init events).disconnected = true →
      (Run.final BrPair.next .init events).references = 0) ∧
    Run.Always BrPair.next (fun s event => s.disconnected = false → (s.next event).disconnected = true →
      s.references = 0) .init events := by
  have hinv : (Run.final BrPair.next .init events).Inv :=
    Run.inv_final (I := fun s : BrPair => s.Inv) (fun _ _ hs hc => (hs.next hc).1) events BrPair.init_inv hcalm
  refine ⟨fun hq => ?_, fun hd => ?_, ?_⟩
  · rcases hinv with h | h
    · exact h.agreed hq
    · exact .inr h
  · rcases hinv with h | h
    · rw [h.disconnected_eq] at hd
      cases hd
    · exact h.1
  · exact Run.always_of_inv (I := fun s : BrPair => s.Inv) (fun _ _ hs hc => hs.next hc) events BrPair.init_inv hcalm

/-- The client gives its reference back while the server takes one. -/
theorem br_references_agree_crossed :
    (Run.final BrPair.next .init [.release .client, .acquire .server, .deliver .server false,
      .deliver .client false, .deliver .client false]).Agreed :=
  (br_references_agree [.release .client, .acquire .server, .deliver .server false,
    .deliver .client false, .deliver .client false] (by decide)).1 fun i => by cases i <;> decide

/-- The client counts no reference for a second time and says so while its release is
still in flight. The answer to that lets it take a reference, then the release arrives. -/
theorem br_closed_while_held :
    (Run.final BrPair.next .init [.release .client, .acquire .server, .deliver .client false, .release .server,
      .deliver .client false, .retryNotify .client, .deliver .server true, .deliver .client false,
      .acquire .client]).disconnected = false ∧
    (Run.final BrPair.next .init [.release .client, .acquire .server, .deliver .client false, .release .server,
      .deliver .client false, .retryNotify .client, .deliver .server true, .deliver .client false,
      .acquire .client, .deliver .server false]).disconnected = true ∧
    (Run.final BrPair.next .init [.release .client, .acquire .server, .deliver .client false, .release .server,
      .deliver .client false, .retryNotify .client, .deliver .server true, .deliver .client false,
      .acquire .client, .deliver .server false]).references = 1 ∧
    (Run.final BrPair.next .init [.release .client, .acquire .server, .deliver .client false, .release .server,
      .deliver .client false, .retryNotify .client, .deliver .server true, .deliver .client false,
      .acquire .client, .deliver .server false]).wire .client = [.notifyRequest 1 1] := by
  decide

end SoftBus
