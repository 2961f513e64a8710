import SoftBus.BrAckWindow

/-!
# Requests and waits alternate

While a request is awaited the window does not change, and the number of the last message is less than a window
past the request. The next multiple of the window comes after the message at which the loop waits.
-/

namespace SoftBus

open BrSender (packetsOf)

/-! ## Requests and waits -/

/-- The number that is awaited after some notes, 0 for none; no number where a packet is created before the
last one was waited for, or a wait is for another packet. -/
def awaited : Nat → List AckNote → Option Nat
  | n, [] => some n
  | 0, .created seq sent :: notes => awaited (if sent then seq else 0) notes
  | n + 1, .waited seq :: notes => if seq = n + 1 then awaited 0 notes else none
  | _, _ => none

theorem awaited_append : ∀ (n : Nat) (notes notes' : List AckNote),
    awaited n (notes ++ notes') = (awaited n notes).bind fun m => awaited m notes'
  | n, [], notes' => by rw [awaited.eq_def n []]; rfl
  | 0, .created seq sent :: notes, notes' => awaited_append _ notes notes'
  | n + 1, .waited seq :: notes, notes' => by
    rw [List.cons_append, awaited, awaited]
    split
    · exact awaited_append 0 notes notes'
    · rfl
  | 0, .waited seq :: notes, notes' => rfl
  | n + 1, .created seq sent :: notes, notes' => rfl

/-! ## One connection -/

structure AckSound (id : Nat) (connection : BrAckConnection) (pendingList : List BrPendingPacket) : Prop where
  window : minWindow ≤ connection.window ∧ connection.window ≤ maxWindow
  -- the request was made at a multiple of the window, and the wait is still to come
  awaits : connection.waitSequence ≠ 0 → connection.waitSequence % connection.window = 0 ∧
    connection.waitSequence ≤ connection.sequence ∧
    connection.sequence + 1 < connection.waitSequence + connection.window
  old : ∀ seq ∈ packetsOf id pendingList, seq ≤ connection.sequence
  pending : connection.waitSequence ≠ 0 → connection.waitSequence ∈ packetsOf id pendingList

def AckClean (id : Nat) (connection : BrAckConnection) (pendingList : List BrPendingPacket) : Prop :=
  ∀ seq ∈ packetsOf id pendingList, connection.waitSequence ≠ 0 ∧ seq = connection.waitSequence

structure TurnSound (id : Nat) (ack : SendAckEnv) (get : GetPendingEnv) (connection : BrAckConnection)
    (pendingList : List BrPendingPacket) (out : AckTurn) : Prop where
  distinct : Distinct out.pendingList
  sound : AckSound id out.connection out.pendingList
  clean : AckClean id connection pendingList → ack.delLocked = true ∧ get.locked = true →
    AckClean id out.connection out.pendingList
  others : ∀ id' ≠ id, ∀ seq, seq ∈ packetsOf id' out.pendingList ↔ seq ∈ packetsOf id' pendingList
  notes : awaited connection.waitSequence out.notes = some out.connection.waitSequence
  requests : ∀ seq sent, .created seq sent ∈ out.notes → connection.waitSequence = 0
  waits : ∀ seq, .waited seq ∈ out.notes → seq ∈ packetsOf id pendingList ∧
    (get.locked = true → seq ∉ packetsOf id out.pendingList)

theorem add_mod_of_multiple {m w d : Nat} (hm : m % w = 0) (hd : d < w) : (m + d) % w = d := by
  rw [Nat.add_mod, hm, Nat.zero_add, Nat.mod_mod, Nat.mod_eq_of_lt hd]

theorem BrAckConnection.answered_window {connection : BrAckConnection}
    (h : minWindow ≤ connection.window ∧ connection.window ≤ maxWindow) (ret : BrPendingRet) :
    minWindow ≤ (connection.answered ret).window ∧ (connection.answered ret).window ≤ maxWindow := by
  have hmin : minWindow = 10 := rfl
  have hmax : maxWindow = 80 := rfl
  have hdefault : defaultWindow = 20 := rfl
  cases ret with
  | alreadyTriggered =>
    simp only [BrAckConnection.answered]
    split <;> omega
  | timout =>
    simp only [BrAckConnection.answered]
    split <;> split <;> omega
  | _ => exact h

theorem BrAckConnection.answered_sequence (connection : BrAckConnection) (ret : BrPendingRet) :
    (connection.answered ret).sequence = connection.sequence := by
  cases ret <;> rfl

section
variable {id : Nat} {ack : SendAckEnv} {get : GetPendingEnv} {connection : BrAckConnection}
  {pendingList : List BrPendingPacket}

theorem AckSound.turn_cases (ack : SendAckEnv) (get : GetPendingEnv) (h : AckSound id connection pendingList) :
    let next := { connection with sequence := connection.sequence + 1 }
    let out := sendHandlerTurn ack get id connection pendingList
    (connection.waitSequence = 0 ∧ next.sequence % next.window = 0 ∧ out = sendAckUnsafe ack id next pendingList) ∨
    (connection.waitSequence ≠ 0 ∧ out = waitAck get id next pendingList) ∨
    ((connection.waitSequence ≠ 0 → next.sequence + 1 < connection.waitSequence + connection.window) ∧
      out = ⟨next, pendingList, []⟩) := by
  have hmin : minWindow = 10 := rfl
  have hwindow := h.window.1
  dsimp only
  -- how far the message is past the request
  have hpast : connection.waitSequence ≠ 0 → ∃ d, connection.sequence + 1 = connection.waitSequence + d ∧
      0 < d ∧ d < connection.window ∧ (connection.sequence + 1) % connection.window = d := by
    intro hne
    obtain ⟨hmul, hle, hlt⟩ := h.awaits hne
    refine ⟨connection.sequence + 1 - connection.waitSequence, by omega, by omega, by omega, ?_⟩
    have := add_mod_of_multiple hmul
      (show connection.sequence + 1 - connection.waitSequence < connection.window by omega)
    rwa [Nat.add_sub_of_le (by omega)] at this
  by_cases hmul : (connection.sequence + 1) % connection.window = 0
  · have hzero : connection.waitSequence = 0 := by
      by_contra hne
      obtain ⟨d, -, hpos, -, hmod⟩ := hpast hne
      omega
    have hkeep : ∀ (c : BrAckConnection) (l : List BrPendingPacket), (sendAckUnsafe ack id c l).connection.window =
        c.window ∧ (sendAckUnsafe ack id c l).connection.sequence = c.sequence := by
      intro c l
      unfold sendAckUnsafe
      split
      · exact ⟨rfl, rfl⟩
      split
      · exact ⟨rfl, rfl⟩
      split <;> exact ⟨rfl, rfl⟩
    refine .inl ⟨hzero, hmul, ?_⟩
    unfold sendHandlerTurn
    dsimp only
    rw [if_pos hmul, if_neg]
    rw [(hkeep _ _).1, (hkeep _ _).2]
    dsimp only
    omega
  · by_cases hne : connection.waitSequence = 0
    · refine .inr (.inr ⟨fun h' => absurd hne h', ?_⟩)
      unfold sendHandlerTurn
      dsimp only
      rw [if_neg hmul, if_neg (by simp [hne])]
    · obtain ⟨d, hd, hpos, hlt, hmod⟩ := hpast hne
      by_cases hlast : d = connection.window - 1
      · refine .inr (.inl ⟨hne, ?_⟩)
        unfold sendHandlerTurn
        dsimp only
        rw [if_neg hmul, if_pos ⟨by dsimp only; omega, by dsimp only; omega, hne⟩]
        rfl
      · refine .inr (.inr ⟨fun _ => by omega, ?_⟩)
        unfold sendHandlerTurn
        dsimp only
        rw [if_neg hmul, if_neg (by dsimp only; omega)]

theorem AckSound.count (h : AckSound id connection pendingList)
    (hnext : connection.waitSequence ≠ 0 →
      connection.sequence + 1 + 1 < connection.waitSequence + connection.window) :
    AckSound id { connection with sequence := connection.sequence + 1 } pendingList where
  window := h.window
  awaits hne := ⟨(h.awaits hne).1, Nat.le_succ_of_le (h.awaits hne).2.1, hnext hne⟩
  old seq hseq := Nat.le_succ_of_le (h.old seq hseq)
  pending := h.pending

theorem AckSound.sendAck (h : AckSound id connection pendingList) (hd : Distinct pendingList)
    (hzero : connection.waitSequence = 0) (hmul : (connection.sequence + 1) % connection.window = 0) :
    TurnSound id ack get connection pendingList
      (sendAckUnsafe ack id { connection with sequence := connection.sequence + 1 } pendingList) := by
  have hmin : minWindow = 10 := rfl
  have hwindow := h.window.1
  have hcount := h.count fun hne => absurd hzero hne
  have hnone : TurnSound id ack get connection pendingList
      ⟨{ connection with sequence := connection.sequence + 1 }, pendingList, []⟩ :=
    ⟨hd, hcount, fun hclean _ => hclean, fun _ _ _ => Iff.rfl, by rw [awaited.eq_def], by simp, by simp⟩
  have hnew : connection.sequence + 1 ∉ packetsOf id pendingList := fun hmem => by
    have := h.old _ hmem
    omega
  unfold sendAckUnsafe
  split
  · exact hnone
  split
  · exact hnone
  rename_i created hcreate
  obtain rfl : pendingList ++ [⟨id, connection.sequence + 1, false⟩] = created := by
    unfold connBrCreateBrPendingPacket at hcreate
    split at hcreate
    · cases hcreate
    · exact Option.some.inj hcreate
  have hdc := hd.create hnew
  have hold : ∀ seq ∈ packetsOf id (pendingList ++ [⟨id, connection.sequence + 1, false⟩]),
      seq ≤ connection.sequence + 1 := by
    intro seq hseq
    obtain hseq | ⟨-, rfl⟩ := mem_packetsOf_create.mp hseq
    · exact Nat.le_succ_of_le (h.old seq hseq)
    · exact Nat.le_refl _
  have hother : ∀ id' ≠ id, ∀ seq, seq ∈ packetsOf id' (pendingList ++ [⟨id, connection.sequence + 1, false⟩]) ↔
      seq ∈ packetsOf id' pendingList := by
    intro id' hid seq
    rw [mem_packetsOf_create, or_iff_left fun heq => hid heq.1]
  split
  · refine ⟨hdc, ⟨h.window, fun _ => ⟨hmul, Nat.le_refl _, by dsimp only; omega⟩, hold, fun _ =>
      mem_packetsOf_create.mpr (.inr ⟨rfl, rfl⟩)⟩, ?_, hother, ?_, fun _ _ _ => hzero, by simp⟩
    · intro hclean _ seq hseq
      refine ⟨Nat.succ_ne_zero _, ?_⟩
      obtain hseq | ⟨-, heq⟩ := mem_packetsOf_create.mp hseq
      · exact absurd hzero (hclean seq hseq).1
      · exact heq
    · rw [hzero]
      rfl
  · have hnotes : awaited connection.waitSequence [.created (connection.sequence + 1) false] =
        some connection.waitSequence := by
      rw [hzero]
      rfl
    unfold connBrDelBrPendingPacket
    dsimp only
    split
    · rename_i hlocked
      rw [hdc.eraseP]
      have hmem : ∀ {id' seq : Nat}, seq ∈ packetsOf id' (withoutPacket id (connection.sequence + 1)
          (pendingList ++ [⟨id, connection.sequence + 1, false⟩])) → seq ∈ packetsOf id' pendingList := by
        intro id' seq hseq
        obtain ⟨hseq, hne⟩ := mem_packetsOf_withoutPacket.mp hseq
        exact (mem_packetsOf_create.mp hseq).resolve_right hne
      refine ⟨hdc.withoutPacket, ⟨h.window, hcount.awaits, fun seq hseq => hcount.old seq (hmem hseq),
        fun hne => absurd hzero hne⟩, fun hclean _ seq hseq => hclean seq (hmem hseq), ?_, hnotes,
        fun _ _ _ => hzero, by simp⟩
      intro id' hid seq
      rw [mem_packetsOf_withoutPacket, and_iff_left fun heq => hid heq.1, hother id' hid]
    · rename_i hlocked
      exact ⟨hdc, ⟨h.window, hcount.awaits, hold, fun hne => absurd hzero hne⟩,
        fun _ hlocks => absurd hlocks.1 hlocked, hother, hnotes, fun _ _ _ => hzero, by simp⟩

theorem AckSound.waitAck (h : AckSound id connection pendingList) (hd : Distinct pendingList)
    (hne : connection.waitSequence ≠ 0) :
    TurnSound id ack get connection pendingList
      (waitAck get id { connection with sequence := connection.sequence + 1 } pendingList) := by
  have hlist := hd.get get id connection.waitSequence
  have hsub : ∀ {id' seq : Nat}, seq ∈ packetsOf id' (connBrGetBrPendingPacket get id connection.waitSequence
      pendingList).2 → seq ∈ packetsOf id' pendingList := by
    intro id' seq hseq
    rw [hlist] at hseq
    split at hseq
    · exact (mem_packetsOf_withoutPacket.mp hseq).1
    · exact hseq
  have hgone : get.locked = true → connection.waitSequence ∉ packetsOf id
      (connBrGetBrPendingPacket get id connection.waitSequence pendingList).2 := by
    intro hlocked hmem
    rw [hlist, if_pos hlocked] at hmem
    exact (mem_packetsOf_withoutPacket.mp hmem).2 ⟨rfl, rfl⟩
  unfold SoftBus.waitAck
  refine ⟨?_, ⟨?_, fun hz => absurd rfl hz, ?_, fun hz => absurd rfl hz⟩, ?_, ?_, ?_, by simp, ?_⟩
  · dsimp only
    rw [hlist]
    split
    · exact hd.withoutPacket
    · exact hd
  · have hcount : minWindow ≤ ({ connection with sequence := connection.sequence + 1 } : BrAckConnection).window ∧
        ({ connection with sequence := connection.sequence + 1 } : BrAckConnection).window ≤ maxWindow := h.window
    exact BrAckConnection.answered_window hcount _
  · intro seq hseq
    dsimp only
    rw [BrAckConnection.answered_sequence]
    exact Nat.le_succ_of_le (h.old seq (hsub hseq))
  · intro hclean hlocks seq hseq
    obtain ⟨-, rfl⟩ := hclean seq (hsub hseq)
    exact absurd hseq (hgone hlocks.2)
  · intro id' hid seq
    dsimp only
    rw [hlist]
    split
    · rw [mem_packetsOf_withoutPacket, and_iff_left fun heq => hid heq.1]
    · exact Iff.rfl
  · obtain ⟨n, hn⟩ := Nat.exists_eq_succ_of_ne_zero hne
    dsimp only
    rw [hn, awaited, if_pos rfl]
    rfl
  · intro seq hseq
    obtain rfl : seq = connection.waitSequence := by simpa using hseq
    exact ⟨h.pending hne, hgone⟩

theorem AckSound.turn (ack : SendAckEnv) (get : GetPendingEnv) (h : AckSound id connection pendingList)
    (hd : Distinct pendingList) :
    TurnSound id ack get connection pendingList (sendHandlerTurn ack get id connection pendingList) := by
  obtain ⟨hzero, hmul, hout⟩ | ⟨hne, hout⟩ | ⟨hnext, hout⟩ := h.turn_cases ack get
  · rw [hout]
    exact h.sendAck hd hzero hmul
  · rw [hout]
    exact h.waitAck hd hne
  · rw [hout]
    exact ⟨hd, h.count hnext, fun hclean _ => hclean, fun _ _ _ => Iff.rfl, by rw [awaited.eq_def], by simp, by simp⟩

end

/-! ## All connections -/

structure BrSender.Sound (s : BrSender) : Prop where
  distinct : Distinct s.pendingList
  connections : ∀ id, AckSound id (s.connections id) s.pendingList

def BrSendEvent.LocksTaken (id : Nat) : BrSendEvent → Prop
  | .message id' ack get => id' = id → ack.delLocked = true ∧ get.locked = true
  | .ackResponse _ _ => True

structure StepSound (id : Nat) (s : BrSender) (e : BrSendEvent) : Prop where
  window : minWindow ≤ ((s.step e).connections id).window ∧ ((s.step e).connections id).window ≤ maxWindow
  requests : ∀ seq sent, .created seq sent ∈ s.notes id e → (s.connections id).waitSequence = 0
  waits : ∀ seq, .waited seq ∈ s.notes id e → seq ∈ packetsOf id s.pendingList ∧
    (e.LocksTaken id → seq ∉ packetsOf id (s.step e).pendingList)

theorem AckSound.congr {id : Nat} {connection : BrAckConnection} {l l' : List BrPendingPacket}
    (h : AckSound id connection l) (hmem : ∀ seq, seq ∈ packetsOf id l' ↔ seq ∈ packetsOf id l) :
    AckSound id connection l' :=
  ⟨h.window, h.awaits, fun seq hseq => h.old seq ((hmem seq).mp hseq), fun hne => (hmem _).mpr (h.pending hne)⟩

namespace BrSender.Sound

variable {s : BrSender}

theorem step (h : s.Sound) : ∀ e : BrSendEvent, (s.step e).Sound
  | .message id ack get => by
    have hturn := (h.connections id).turn ack get h.distinct
    refine ⟨hturn.distinct, fun id' => ?_⟩
    unfold BrSender.step
    dsimp only
    by_cases hid : id' = id
    · subst hid
      rw [Function.update_self]
      exact hturn.sound
    · rw [Function.update_of_ne hid]
      exact (h.connections id').congr (hturn.others id' hid)
  | .ackResponse id seq => by
    refine ⟨?_, fun id' => (h.connections id').congr fun seq' => mem_packetsOf_set⟩
    unfold BrSender.step Distinct
    dsimp only
    rw [map_key_set]
    exact h.distinct

theorem seen (h : s.Sound) (id : Nat) : ∀ e : BrSendEvent,
    StepSound id s e ∧
      awaited (s.connections id).waitSequence (s.notes id e) = some ((s.step e).connections id).waitSequence ∧
      (AckClean id (s.connections id) s.pendingList → e.LocksTaken id →
        AckClean id ((s.step e).connections id) (s.step e).pendingList)
  | .message id' ack get => by
    have hturn := (h.connections id').turn ack get h.distinct
    by_cases hid : id' = id
    · subst hid
      have hconn : (s.step (.message id' ack get)).connections id' =
          (sendHandlerTurn ack get id' (s.connections id') s.pendingList).connection := Function.update_self ..
      have hnotes : s.notes id' (.message id' ack get) =
          (sendHandlerTurn ack get id' (s.connections id') s.pendingList).notes := if_pos rfl
      refine ⟨⟨?_, ?_, ?_⟩, ?_, ?_⟩
      · rw [hconn]
        exact hturn.sound.window
      · rw [hnotes]
        exact hturn.requests
      · rw [hnotes]
        exact fun seq hseq => ⟨(hturn.waits seq hseq).1, fun hlocks => (hturn.waits seq hseq).2 (hlocks rfl).2⟩
      · rw [hconn, hnotes]
        exact hturn.notes
      · rw [hconn]
        exact fun hclean hlocks => hturn.clean hclean (hlocks rfl)
    · have hconn : (s.step (.message id' ack get)).connections id = s.connections id :=
        Function.update_of_ne (Ne.symm hid) ..
      have hnotes : s.notes id (.message id' ack get) = [] := if_neg hid
      refine ⟨⟨?_, by simp [hnotes], by simp [hnotes]⟩, ?_, ?_⟩
      · rw [hconn]
        exact (h.connections id).window
      · rw [hconn, hnotes, awaited.eq_def]
      · rw [hconn]
        exact fun hclean _ seq hseq => hclean seq ((hturn.others id (Ne.symm hid) seq).mp hseq)
  | .ackResponse id' seq' =>
    ⟨⟨(h.connections id).window, by simp [notes], by simp [notes]⟩, by rw [notes, awaited.eq_def]; rfl,
      fun hclean _ seq hseq => hclean seq (mem_packetsOf_set.mp hseq)⟩

theorem run (id : Nat) : ∀ (events : List BrSendEvent) {s : BrSender}, s.Sound →
    awaited (s.connections id).waitSequence (Run.collect BrSender.step (notes id) s events) =
      some ((Run.final BrSender.step s events).connections id).waitSequence
  | [], s, _ => by rw [Run.collect_nil, awaited.eq_def]; rfl
  | e :: events, s, h => by
    rw [Run.collect_cons, awaited_append, (h.seen id e).2.1]
    exact run id events (h.step e)

end BrSender.Sound

/-- **Acknowledgement window.** For every connection and every run of the send loop: the window keeps its bounds; a
request is made only where none is awaited; the notes of the connection are requests, each followed by one wait
for it before the next packet is created, up to the number that is awaited now; and where the list can be locked,
the only packet of the connection in it is the one that is awaited. -/
theorem br_ack_window (id : Nat) (events : List BrSendEvent) :
    let final := Run.final BrSender.step {} events
    Run.Always BrSender.step (StepSound id) {} events ∧
      awaited 0 (Run.collect BrSender.step (BrSender.notes id) {} events) =
        some (final.connections id).waitSequence ∧
      (Run.Always BrSender.step (fun _ e => e.LocksTaken id) {} events →
        ∀ seq, seq ∈ packetsOf id final.pendingList ↔
          (final.connections id).waitSequence ≠ 0 ∧ seq = (final.connections id).waitSequence) := by
  have h₀ : BrSender.Sound {} := ⟨List.nodup_nil, fun id' =>
    ⟨⟨show minWindow ≤ defaultWindow by decide, show defaultWindow ≤ maxWindow by decide⟩,
      fun hne => absurd rfl hne, by simp [packetsOf], fun hne => absurd rfl hne⟩⟩
  refine ⟨?_, BrSender.Sound.run id events h₀, fun hlocks seq => ?_⟩
  · exact Run.always_of_inv (I := BrSender.Sound) (P := fun _ _ => True)
      (fun s e h _ => ⟨h.step e, (h.seen id e).1⟩) events h₀ (Run.always_of_forall fun _ _ _ => trivial)
  · have hfinal := Run.inv_final (I := fun s => s.Sound ∧ AckClean id (s.connections id) s.pendingList)
      (fun s e h hlock => ⟨h.1.step e, (h.1.seen id e).2.2 h.2 hlock⟩) events ⟨h₀, by simp [AckClean, packetsOf]⟩ hlocks
    refine ⟨hfinal.2 seq, ?_⟩
    rintro ⟨hne, rfl⟩
    exact (hfinal.1.connections id).pending hne

end SoftBus
