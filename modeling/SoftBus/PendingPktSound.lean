import SoftBus.PendingPkt

/-!
# An acknowledged message is sent

While a call waits its item says what was processed for it: finished after an acknowledgement, not pending
after a close. It does if the acknowledgement finds the item, and if the close finds no second item of its channel that is
pending.
-/

namespace SoftBus

def PendingSend.RightRet (call : PendingSend) (ret : PendingRet) : Prop :=
  (call.acked = true → call.closed = false → ret = .ok) ∧ (ret = .ok → call.acked = true)

def PendingSend.key (call : PendingSend) : Int × Int := (call.channelId, call.seq)

namespace PendingPkts

/-- A call that waits comes to the right result at its next look at the item. -/
structure Outcome (s : PendingPkts) : Prop where
  returned : ∀ x ∈ s.returned, x.1.RightRet x.2
  acked : ∀ item ∈ s.pendingList, item.ret = none → item.call.acked = true → item.call.closed = false →
    item.blocked = false ∧ ∀ timeUp, (checkItem timeUp item).ret = some .ok
  closed : ∀ item ∈ s.pendingList, item.ret = none → item.closedWaiting = true →
    item.blocked = false ∧ ∀ timeUp, (checkItem timeUp item).ret.isSome

/-- The calls that run have different numbers on a channel. -/
def DistinctSeq (s : PendingPkts) : PendingEvent → Prop
  | .post channelId seq => (channelId, seq) ∉ (s.sent ++ s.pendingList.map (·.call)).map PendingSend.key
  | _ => True

/-- An acknowledgement comes when its call has put the item in the list. At a close only the first item of
the channel is pending. -/
def GoodStep (s : PendingPkts) : PendingEvent → Prop
  | .ack channelId seq => ∀ call ∈ s.sent, ¬ isPacket channelId seq call
  | .close channelId =>
    ∀ item ∈ (s.pendingList.filter (isChannel channelId ·.call)).tail, item.ret.isSome ∨ item.status ≠ .pending
  | _ => True

instance (s : PendingPkts) : ∀ e, Decidable (DistinctSeq s e)
  | .post .. => inferInstanceAs (Decidable (_ ∉ _))
  | .add .. | .check .. | .remove _ | .ack .. | .close _ => .isTrue trivial

instance (s : PendingPkts) : ∀ e, Decidable (GoodStep s e)
  | .ack .. => inferInstanceAs (Decidable (∀ _ ∈ _, _))
  | .close _ => inferInstanceAs (Decidable (∀ _ ∈ _, _))
  | .post .. | .add .. | .check .. | .remove _ => .isTrue trivial

/-! ## The invariant -/

structure ItemOk (item : PendingPktInfo) : Prop where
  finished : item.ret = none → item.call.acked = true → item.call.closed = false → item.status = .finished
  acked : item.ret = none → item.status = .finished → item.call.acked = true
  awake : item.status ≠ .pending → item.blocked = false
  closed : item.ret = none → item.closedWaiting = true → item.status ≠ .pending
  ended : ∀ ret, item.ret = some ret → item.call.RightRet ret

structure Inv (s : PendingPkts) : Prop where
  sent : ∀ call ∈ s.sent, call.acked = false
  items : ∀ item ∈ s.pendingList, ItemOk item
  returned : ∀ x ∈ s.returned, x.1.RightRet x.2
  keys : ((s.sent ++ s.pendingList.map (·.call)).map PendingSend.key).Nodup

theorem Inv.init : Inv {} := ⟨nofun, nofun, nofun, List.nodup_nil⟩

section
variable {s : PendingPkts} {item : PendingPktInfo} {channelId seq : Int}

theorem ItemOk.of_ended (hret : item.ret.isSome) (hawake : item.status ≠ .pending → item.blocked = false)
    (hended : ∀ ret, item.ret = some ret → item.call.RightRet ret) : ItemOk item where
  finished hnone := absurd hret (by simp [hnone])
  acked hnone := absurd hret (by simp [hnone])
  awake := hawake
  closed hnone := absurd hret (by simp [hnone])
  ended := hended

theorem ItemOk.of_waiting (hret : ¬ item.ret.isSome)
    (hfinished : item.call.acked = true → item.call.closed = false → item.status = .finished)
    (hacked : item.status = .finished → item.call.acked = true)
    (hawake : item.status ≠ .pending → item.blocked = false)
    (hclosed : item.closedWaiting = true → item.status ≠ .pending) : ItemOk item where
  finished _ := hfinished
  acked _ := hacked
  awake := hawake
  closed _ := hclosed
  ended ret hsome := absurd hret (by simp [hsome])

theorem ItemOk.check (h : ItemOk item) (timeUp : Bool) : ItemOk (checkItem timeUp item) := by
  unfold checkItem
  split
  · exact h
  case isFalse hret =>
    have hnone : item.ret = none := by simpa using hret
    split
    case isTrue hwait => exact ⟨h.finished, h.acked, fun hne => absurd hwait.1 hne, h.closed, h.ended⟩
    case isFalse =>
      refine .of_ended rfl (fun _ => rfl) ?_
      rintro ret ⟨⟩
      constructor
      · intro hacked hclosed
        rw [if_pos (h.finished hnone hacked hclosed)]
      · intro hok
        refine h.acked hnone ?_
        by_contra hne
        rw [if_neg hne] at hok
        nomatch hok

theorem ItemOk.new (call : PendingSend) (hacked : call.acked = false) : ItemOk { call } := by
  refine .of_waiting nofun ?_ nofun (fun h => absurd rfl h) nofun
  intro h
  rw [hacked] at h
  nomatch h

theorem ItemOk.ack (h : ItemOk item) (hpacket : isPacket channelId seq item.call) :
    ItemOk (noteItemAck channelId seq (setStatus .finished item)) := by
  unfold noteItemAck
  split
  case isTrue hret => exact .of_ended hret (fun _ => rfl) h.ended
  case isFalse hret =>
    refine .of_waiting hret (fun _ _ => rfl) (fun _ => ?_) (fun _ => rfl) nofun
    change (noteAck channelId seq item.call).acked = true
    rw [noteAck, if_pos hpacket]

theorem noteItemAck_other (hpacket : ¬ isPacket channelId seq item.call) : noteItemAck channelId seq item = item := by
  unfold noteItemAck noteAck
  rw [if_neg hpacket, ite_self]

theorem noteItemClose_other (hchannel : ¬ isChannel channelId item.call) : noteItemClose channelId item = item := by
  have hfalse : isChannel channelId item.call = false := by simpa using hchannel
  unfold noteItemClose noteClose
  rw [if_neg hchannel, hfalse, Bool.or_false, ite_self]

theorem closed_noteClose {call : PendingSend} (h : isChannel channelId call) : (noteClose channelId call).closed = true := by
  rw [noteClose, if_pos h]

theorem acked_noteClose (channelId : Int) (call : PendingSend) : (noteClose channelId call).acked = call.acked := by
  unfold noteClose
  split <;> rfl

theorem ItemOk.close (h : ItemOk item) (hchannel : isChannel channelId item.call)
    (hstatus : item.ret.isSome ∨ item.status ≠ .pending) : ItemOk (noteItemClose channelId item) := by
  unfold noteItemClose
  split
  · exact h
  case isFalse hret =>
    refine .of_waiting hret ?_ ?_ h.awake fun _ => hstatus.resolve_left hret
    · intro _ hclosed
      exact absurd ((closed_noteClose hchannel).symm.trans hclosed) (by simp)
    · intro hfinished
      exact (acked_noteClose ..).trans (h.acked (by simpa using hret) hfinished)

theorem ItemOk.cancel (h : ItemOk item) (hchannel : isChannel channelId item.call) :
    ItemOk (noteItemClose channelId (setStatus .canceled item)) := by
  unfold noteItemClose
  split
  case isTrue hret => exact .of_ended hret (fun _ => rfl) h.ended
  case isFalse hret =>
    refine .of_waiting hret ?_ nofun (fun _ => rfl) nofun
    intro _ hclosed
    exact absurd ((closed_noteClose hchannel).symm.trans hclosed) (by simp)

/-! ## Steps -/

theorem key_noteAck (channelId seq : Int) (call : PendingSend) : (noteAck channelId seq call).key = call.key := by
  unfold noteAck
  split <;> rfl

theorem key_noteClose (channelId : Int) (call : PendingSend) : (noteClose channelId call).key = call.key := by
  unfold noteClose
  split <;> rfl

theorem key_noteItemAck (channelId seq : Int) (item : PendingPktInfo) :
    (noteItemAck channelId seq item).call.key = item.call.key := by
  unfold noteItemAck
  split
  · rfl
  · exact key_noteAck ..

theorem key_noteItemClose (channelId : Int) (item : PendingPktInfo) :
    (noteItemClose channelId item).call.key = item.call.key := by
  unfold noteItemClose
  split
  · rfl
  · exact key_noteClose ..

theorem isPacket_iff {call : PendingSend} : isPacket channelId seq call ↔ call.key = (channelId, seq) := by
  simp only [isPacket, PendingSend.key, Bool.and_eq_true, decide_eq_true_eq, Prod.mk.injEq]
  exact and_comm

theorem Inv.itemKeys (h : Inv s) : (s.pendingList.map (·.call.key)).Nodup := by
  have hkeys := h.keys
  rw [List.map_append, List.map_map] at hkeys
  exact (List.nodup_append'.mp hkeys).2.1

theorem Inv.post (h : Inv s) (hnew : DistinctSeq s (.post channelId seq)) : Inv (s.post channelId seq) := by
  refine ⟨?_, h.items, h.returned, ?_⟩
  · intro call hcall
    rcases List.mem_append.mp hcall with hcall | hcall
    · exact h.sent call hcall
    · cases List.mem_singleton.mp hcall
      rfl
  · let call : PendingSend := ⟨s.next, channelId, seq, false, false⟩
    have hperm : (s.sent ++ [call] ++ s.pendingList.map PendingPktInfo.call).Perm
        (call :: (s.sent ++ s.pendingList.map PendingPktInfo.call)) := by
      rw [List.append_assoc]
      exact List.perm_middle
    exact (hperm.map _).nodup_iff.mpr (List.nodup_cons.mpr ⟨hnew, h.keys⟩)

theorem Inv.addItem (h : Inv s) {call : PendingSend} (hcall : s.sent.find? (·.owner = call.owner) = some call)
    (mem : Bool) : Inv (s.addItem call mem) := by
  have hacked := h.sent call (List.mem_of_find?_eq_some hcall)
  have hperm := FirstMatch.eraseP_perm hcall
  have hsent : ∀ call' ∈ s.sent.eraseP (·.owner = call.owner), call'.acked = false :=
    fun call' hmem => h.sent call' (List.mem_of_mem_eraseP hmem)
  have hkeys : ((call :: s.sent.eraseP (·.owner = call.owner) ++ s.pendingList.map (·.call)).map PendingSend.key).Nodup :=
    ((hperm.append_right _).map _).nodup_iff.mp h.keys
  have hfail (ret : PendingRet) (hret : ret ≠ .ok) : Inv { s with
      sent := s.sent.eraseP (·.owner = call.owner), returned := s.returned ++ [(call, ret)] } := by
    refine ⟨hsent, h.items, ?_, (List.nodup_cons.mp hkeys).2⟩
    intro x hx
    rcases List.mem_append.mp hx with hx | hx
    · exact h.returned x hx
    · cases List.mem_singleton.mp hx
      refine ⟨fun h => ?_, fun h => absurd h hret⟩
      rw [hacked] at h
      nomatch h
  unfold PendingPkts.addItem
  dsimp only
  split
  · exact hfail _ nofun
  · split
    · exact hfail _ nofun
    · refine ⟨hsent, ?_, h.returned, ?_⟩
      · intro item hitem
        rcases List.mem_cons.mp hitem with rfl | hitem
        · exact .new call hacked
        · exact h.items item hitem
      · exact (List.perm_middle.map _).nodup_iff.mpr hkeys

theorem Inv.removeItem (h : Inv s) (hitem : s.pendingList.find? (·.call.owner = item.call.owner) = some item) :
    Inv (s.removeItem item) := by
  unfold PendingPkts.removeItem
  split
  · exact h
  case h_2 ret hret =>
    have hsub : (s.pendingList.eraseP (·.call.owner = item.call.owner)).Sublist s.pendingList := List.eraseP_sublist
    refine ⟨h.sent, fun item' hmem => h.items item' (hsub.subset hmem), ?_, ?_⟩
    · intro x hx
      rcases List.mem_append.mp hx with hx | hx
      · exact h.returned x hx
      · cases List.mem_singleton.mp hx
        exact (h.items item (List.mem_of_find?_eq_some hitem)).ended ret hret
    · exact h.keys.sublist (((List.Sublist.refl _).append (hsub.map _)).map _)

theorem Inv.setPendingPacket (h : Inv s) (hgood : GoodStep s (.ack channelId seq)) :
    Inv (s.setPendingPacket channelId seq) := by
  refine ⟨?_, ?_, h.returned, ?_⟩
  · intro call hmem
    obtain ⟨call, hcall, rfl⟩ := List.mem_map.mp hmem
    rw [noteAck, if_neg (hgood call hcall)]
    exact h.sent call hcall
  · intro item hmem
    obtain ⟨item, hitem, rfl⟩ := List.mem_map.mp hmem
    have hp : (fun item : PendingPktInfo => isPacket channelId seq item.call) =
        fun item : PendingPktInfo => decide (item.call.key = (channelId, seq)) :=
      funext fun item => Bool.eq_iff_iff.mpr (by rw [isPacket_iff, decide_eq_true_eq])
    rw [hp] at hitem
    rcases FirstMatch.mem_modify_key h.itemKeys hitem with ⟨hitem, hne⟩ | ⟨item, hfound, hkey, rfl⟩
    · rw [noteItemAck_other (mt isPacket_iff.mp hne)]
      exact h.items item hitem
    · exact (h.items item hfound).ack (isPacket_iff.mpr hkey)
  · have hmodify := FirstMatch.map_modify (p := (isPacket channelId seq ·.call)) (f := setStatus .finished)
      (l := s.pendingList) (·.call.key) fun _ _ _ => rfl
    have hkeys := h.keys
    simp only [PendingPkts.setPendingPacket, List.map_append, List.map_map, Function.comp_def, key_noteAck,
      key_noteItemAck] at hkeys ⊢
    rw [hmodify]
    exact hkeys

theorem Inv.delPendingPacket (h : Inv s) (hgood : GoodStep s (.close channelId)) :
    Inv (s.delPendingPacket channelId) := by
  refine ⟨?_, ?_, h.returned, ?_⟩
  · intro call hmem
    obtain ⟨call, hcall, rfl⟩ := List.mem_map.mp hmem
    rw [acked_noteClose]
    exact h.sent call hcall
  · intro item hmem
    obtain ⟨item, hitem, rfl⟩ := List.mem_map.mp hmem
    rcases FirstMatch.mem_modify_tail hitem with ⟨item, hfind, rfl⟩ | ⟨hitem, htail⟩
    · have hchannel := List.find?_some hfind
      exact (h.items item (List.mem_of_find?_eq_some hfind)).cancel hchannel
    · by_cases hchannel : isChannel channelId item.call
      · exact (h.items item hitem).close hchannel (hgood item (htail hchannel))
      · rw [noteItemClose_other hchannel]
        exact h.items item hitem
  · have hmodify := FirstMatch.map_modify (p := (isChannel channelId ·.call)) (f := setStatus .canceled)
      (l := s.pendingList) (·.call.key) fun _ _ _ => rfl
    have hkeys := h.keys
    simp only [PendingPkts.delPendingPacket, List.map_append, List.map_map, Function.comp_def, key_noteClose,
      key_noteItemClose] at hkeys ⊢
    rw [hmodify]
    exact hkeys

theorem call_checkItem (timeUp : Bool) (item : PendingPktInfo) : (checkItem timeUp item).call = item.call := by
  unfold checkItem
  split
  · rfl
  · split <;> rfl

theorem Inv.step (s : PendingPkts) (e : PendingEvent) (h : Inv s) (hgood : DistinctSeq s e ∧ GoodStep s e) :
    Inv (s.step e) := by
  cases e with
  | post channelId seq => exact h.post hgood.1
  | add owner mem =>
    rw [PendingPkts.step]
    split
    · exact h
    case h_2 call hcall =>
      obtain rfl : call.owner = owner := by simpa using List.find?_some hcall
      exact h.addItem hcall mem
  | check owner timeUp =>
    have hmodify := FirstMatch.map_modify (p := (·.call.owner = owner)) (f := checkItem timeUp)
      (l := s.pendingList) (·.call) fun item _ _ => call_checkItem timeUp item
    refine ⟨h.sent, ?_, h.returned, ?_⟩
    · intro item hitem
      rcases FirstMatch.mem_modify hitem with hitem | ⟨item, hmem, -, rfl⟩
      · exact h.items _ hitem
      · exact (h.items item hmem).check timeUp
    · change ((s.sent ++ (FirstMatch.modify _ _ s.pendingList).map (·.call)).map PendingSend.key).Nodup
      rw [hmodify]
      exact h.keys
  | remove owner =>
    rw [PendingPkts.step]
    split
    · exact h
    case h_2 item hitem =>
      obtain rfl : item.call.owner = owner := by simpa using List.find?_some hitem
      exact h.removeItem hitem
  | ack channelId seq => exact h.setPendingPacket hgood.2
  | close channelId => exact h.delPendingPacket hgood.2

theorem checkItem_ret (hret : item.ret = none) (hstatus : item.status ≠ .pending) (timeUp : Bool) :
    (checkItem timeUp item).ret = some (if item.status = .finished then .ok else .timout) := by
  unfold checkItem
  rw [if_neg (by simp [hret]), if_neg fun hwait => hstatus hwait.1]

theorem Inv.outcome (h : Inv s) : Outcome s where
  returned := h.returned
  acked item hitem hret hacked hclosed := by
    have hok := h.items item hitem
    have hstatus := hok.finished hret hacked hclosed
    have hne : item.status ≠ .pending := by simp [hstatus]
    refine ⟨hok.awake hne, fun timeUp => ?_⟩
    rw [checkItem_ret hret hne, if_pos hstatus]
  closed item hitem hret hclosed := by
    have hok := h.items item hitem
    have hne := hok.closed hret hclosed
    refine ⟨hok.awake hne, fun timeUp => ?_⟩
    rw [checkItem_ret hret hne]
    rfl

end

/-- In every run of such steps the calls come to the right results. -/
theorem send_message_outcome (l : List PendingEvent) (hseq : Run.Always step DistinctSeq {} l)
    (hgood : Run.Always step GoodStep {} l) : Outcome (Run.final step {} l) :=
  (Run.inv_final Inv.step l Inv.init ((Run.always_and step).mpr ⟨hseq, hgood⟩)).outcome

end PendingPkts

theorem send_message_two_calls :
    let l := [.post 1 7, .add 0 true, .check 0 false, .post 1 8, .add 1 true, .ack 1 7, .check 1 false, .check 0 false,
      .close 1, .check 1 false, .remove 0, .remove 1]
    let s := Run.final PendingPkts.step {} l
    PendingPkts.Outcome s ∧ s.returned.map Prod.snd = [.ok, .timout] :=
  ⟨PendingPkts.send_message_outcome _ (by decide +kernel) (by decide +kernel), by decide +kernel⟩

/-- The acknowledgement of call 0 comes before its item is in the list, so it returns late with an error. Calls 1 and 2 wait on
channel 2 when it is closed; only the one that came last is woken. -/
theorem send_message_lost_ack :
    let l := [.post 1 7, .ack 1 7, .add 0 true, .check 0 false, .check 0 true, .remove 0]
    let l' := [.post 2 1, .add 1 true, .check 1 false, .post 2 2, .add 2 true, .check 2 false, .close 2]
    let s := Run.final PendingPkts.step {} l
    let s' := Run.final PendingPkts.step s l'
    (Run.Always PendingPkts.step PendingPkts.DistinctSeq {} (l ++ l') ∧
      s.returned = [(⟨0, 1, 7, true, false⟩, .timout)]) ∧
    s'.pendingList.map (fun item => (item.call.owner, item.closedWaiting, item.status, item.blocked)) =
      [(2, true, .canceled, false), (1, true, .pending, true)] := by
  decide +kernel

end SoftBus
