import SoftBus.RecipientRef
import SoftBus.Lib.RefCount
import SoftBus.AckBitmap

/-!
# Who frees a file recipient

`objRefCount` counts the threads that hold a recipient and the list, as long
as the list's reference is dropped once. `DelRecipient` leaves the recipient on
the list, where a second `DelRecipient` or the timer can drop it again.
-/

namespace SoftBus

open RefCount

def RecipientNode.counter (n : RecipientNode) : Counter := ⟨n.objRefCount, n.drops, n.frees⟩

section
variable {n : RecipientNode} {holders : Nat}

theorem RecipientNode.counter_unref (holders : Nat) (n : RecipientNode) :
    (n.unref holders).counter = n.counter.unref holders := by
  unfold RecipientNode.unref
  split
  · rename_i h
    simp [RecipientNode.counter, RecipientNode.free, Counter.unref, h]
  · rename_i h
    simp [RecipientNode.counter, Counter.unref, h]

theorem RecipientNode.linked_unref (h : (n.unref holders).linked = true) :
    n.linked = true ∧ (n.unref holders).frees = n.frees := by
  unfold RecipientNode.unref at h ⊢
  split at h
  · cases h
  · rename_i hne
    rw [if_neg hne]
    exact ⟨h, rfl⟩

theorem RecipientNode.counter_del (holders : Nat) (n : RecipientNode) :
    (n.del holders).counter = n.counter.drop holders := by
  have h : (n.del holders).counter = { (n.unref holders).counter with drops := n.drops + 1 } := rfl
  rw [h, RecipientNode.counter_unref]
  rfl

end

/-! ## What an event does to a recipient -/

inductive RecipientMove (dropped : Prop) (n n' : RecipientNode) (holders : Nat) : Nat → Prop
  | keep : n'.counter = n.counter → RecipientMove dropped n n' holders holders
  | acquire : n.linked = true → n'.counter = n.counter.acquire → RecipientMove dropped n n' holders (holders + 1)
  | release {left : Nat} : holders = left + 1 → n'.counter = n.counter.unref left →
      RecipientMove dropped n n' holders left
  | drop : dropped → n.linked = true → n'.counter = n.counter.drop holders →
      RecipientMove dropped n n' holders holders
  | reuse (value : Int) : n.frees ≠ [] → n'.counter = { n.counter with value := value } →
      RecipientMove dropped n n' holders holders

theorem RecipientMove.mono {p q : Prop} {n n' : RecipientNode} {h h' : Nat} (hpq : p → q)
    (hm : RecipientMove p n n' h h') : RecipientMove q n n' h h' := by
  cases hm with
  | keep hc => exact .keep hc
  | acquire hl hc => exact .acquire hl hc
  | release hh hc => exact .release hh hc
  | drop hp hl hc => exact .drop (hpq hp) hl hc
  | reuse value hf hc => exact .reuse value hf hc

def StaysLinked (n n' : RecipientNode) : Prop := n'.linked = true → n.linked = true ∧ n'.frees = n.frees

theorem RecipientNode.tick_move (holders : Nat) (n : RecipientNode) :
    RecipientMove n.Expired n (n.tick holders) holders holders ∧ StaysLinked n (n.tick holders) := by
  unfold RecipientNode.tick
  split
  · exact ⟨.keep rfl, fun h => ⟨h, rfl⟩⟩
  · rename_i hon
    rw [not_or, Bool.not_eq_false] at hon
    split
    · rename_i hlate
      refine ⟨.drop ⟨hon.1, hon.2, hlate⟩ hon.1 (RecipientNode.counter_del _ _), fun h => ?_⟩
      have := RecipientNode.linked_unref (n := { n with info := _, linked := false }) h
      cases this.1
    · exact ⟨.keep rfl, fun h => ⟨h, rfl⟩⟩

def RecipientWorld.CallsOk (w : RecipientWorld) : Prop :=
  ∀ c ∈ w.calls, c.recipient < w.nodes.length ∧ c.todo.count .release ≤ 1

structure RecipientStep (dropped : RecipientNode → Prop) (w w' : RecipientWorld) : Prop where
  calls : w'.CallsOk
  old : ∀ (i : Nat) (n : RecipientNode), w.nodes[i]? = some n → ∃ n', w'.nodes[i]? = some n' ∧
    RecipientMove (dropped n) n n' (w.holders i) (w'.holders i) ∧ StaysLinked n n'
  new : ∀ (i : Nat) (n' : RecipientNode), w.nodes[i]? = none → w'.nodes[i]? = some n' →
    n'.counter = Counter.acquire {} ∧ w'.holders i = 1

section
variable {w : RecipientWorld} {dropped : RecipientNode → Prop}

theorem RecipientStep.modify (i : Nat) (f : RecipientNode → RecipientNode) {calls : List RecipientCall}
    (hcalls : RecipientWorld.CallsOk ⟨w.nodes, calls⟩)
    (hother : ∀ j, j ≠ i → RecipientWorld.holders ⟨w.nodes, calls⟩ j = w.holders j)
    (hmove : ∀ n, w.nodes[i]? = some n → RecipientMove (dropped n) n (f n) (w.holders i)
      (RecipientWorld.holders ⟨w.nodes, calls⟩ i) ∧ StaysLinked n (f n)) :
    RecipientStep dropped w ⟨w.nodes.modify i f, calls⟩ := by
  refine ⟨fun c hc => ?_, fun j n hn => ?_, fun j n hn hn' => ?_⟩
  · rw [List.length_modify]
    exact hcalls c hc
  · by_cases hj : i = j
    · subst hj
      exact ⟨f n, by simp [hn], hmove n hn⟩
    · refine ⟨n, by simp [hn, hj], ?_, fun h => ⟨h, rfl⟩⟩
      have := hother j (Ne.symm hj)
      simp only [RecipientWorld.holders] at this ⊢
      rw [this]
      exact .keep rfl
  · simp [List.getElem?_modify, hn] at hn'

theorem RecipientStep.refl (h : w.CallsOk) : RecipientStep dropped w w :=
  ⟨h, fun _ n hn => ⟨n, hn, .keep rfl, fun h => ⟨h, rfl⟩⟩, fun i n hn hn' => by rw [hn] at hn'; cases hn'⟩

/-! ## The holders of a recipient -/

theorem countP_set_add {α : Type} (p : α → Bool) {l : List α} {k : Nat} {a : α} (h : l[k]? = some a) (b : α) :
    (l.set k b).countP p + (if p a then 1 else 0) = l.countP p + (if p b then 1 else 0) := by
  obtain ⟨hk, rfl⟩ := List.getElem?_eq_some_iff.mp h
  have hpos : p l[k] = true → 0 < l.countP p := fun hp => List.countP_pos_iff.mpr ⟨l[k], List.getElem_mem hk, hp⟩
  rw [List.countP_set hk]
  by_cases hp : p l[k] = true
  · have := hpos hp
    simp only [hp, if_true]
    omega
  · simp only [hp]
    simp

theorem FrameHandler.count_todo (h : FrameHandler) : h.todo.count .release = 1 := by
  cases h with
  | createFileFromFrame env file => cases file <;> rfl
  | writeFrameToFile file last =>
    cases file with
    | none => rfl
    | some file => cases last <;> rfl
  | processFileListData ok => cases ok <;> rfl
  | processCrcCheckSumData ok => cases ok <;> rfl
  | processFileAckRequest file => cases file <;> rfl

section
variable {c : RecipientCall} {k : Nat} {a : RefAct} {rest : List RefAct}

theorem holds_eq (i : Nat) (c : RecipientCall) :
    c.holds i = (c.recipient == i && decide (1 ≤ c.todo.count .release)) := by
  rw [RecipientCall.holds, List.contains_eq_mem, Bool.eq_iff_iff]
  simp [List.one_le_count_iff]

theorem holders_append (nodes : List RecipientNode) (hc : c.todo.count .release = 1) (i : Nat) :
    RecipientWorld.holders ⟨nodes, w.calls ++ [c]⟩ i = w.holders i + if c.recipient = i then 1 else 0 := by
  simp only [RecipientWorld.holders, List.countP_append, List.countP_singleton, holds_eq, hc]
  simp

theorem holders_set (nodes : List RecipientNode) (hk : w.calls[k]? = some c) (htodo : c.todo = a :: rest)
    (hcount : c.todo.count .release ≤ 1) (i : Nat) :
    RecipientWorld.holders ⟨nodes, w.calls.set k { c with todo := rest }⟩ i +
      (if a = .release ∧ c.recipient = i then 1 else 0) = w.holders i := by
  have h := countP_set_add (RecipientCall.holds i) hk { c with todo := rest }
  simp only [RecipientWorld.holders]
  rw [holds_eq, holds_eq, htodo, List.count_cons] at h
  rw [htodo, List.count_cons] at hcount
  by_cases hi : c.recipient = i
  · by_cases ha : a = .release
    · simp only [hi, ha, beq_self_eq_true, if_true] at h hcount ⊢
      have hrest : rest.count .release = 0 := by omega
      simp [hrest] at h ⊢
      exact h
    · simp only [hi, ha, beq_iff_eq, if_false] at h ⊢
      simp at h ⊢
      exact h
  · simp [hi] at h ⊢
    exact h

theorem callsOk_set (h : w.CallsOk) (hk : w.calls[k]? = some c) (htodo : c.todo = a :: rest) :
    RecipientWorld.CallsOk ⟨w.nodes, w.calls.set k { c with todo := rest }⟩ := by
  have hc := h c (List.mem_of_getElem? hk)
  intro c' hc'
  rcases List.mem_or_eq_of_mem_set hc' with hc' | rfl
  · exact h c' hc'
  · refine ⟨hc.1, Nat.le_trans ?_ hc.2⟩
    rw [htodo]
    exact List.count_le_count_cons

end

/-! ## One event -/

theorem getRecipientNoLock_some {sessionId : Int} {i : Nat} (h : w.getRecipientNoLock sessionId = some i) :
    ∃ n, w.nodes[i]? = some n ∧ n.linked = true ∧ n ∈ w.deleted sessionId := by
  obtain ⟨hi, hp, hfirst⟩ := List.findIdx?_eq_some_iff_getElem.mp h
  have hfind : w.nodes.find? (fun n => n.linked && n.sessionId == sessionId) = some w.nodes[i] :=
    List.find?_eq_some_iff_getElem.mpr ⟨hp, i, hi, rfl,
        fun j hj => by rw [Bool.not_eq_true', ← Bool.not_eq_true]; exact hfirst j hj⟩
  refine ⟨w.nodes[i], List.getElem?_eq_getElem hi, ?_, ?_⟩
  · simp only [Bool.and_eq_true] at hp
    exact hp.1
  · rw [RecipientWorld.deleted, hfind]
    exact List.mem_singleton.mpr rfl

theorem delRecipient_step {calls : List RecipientCall} {sessionId : Int}
    (hcalls : RecipientWorld.CallsOk ⟨w.nodes, calls⟩)
    (hsame : ∀ j, RecipientWorld.holders ⟨w.nodes, calls⟩ j = w.holders j)
    (hdropped : ∀ n ∈ w.deleted sessionId, dropped n) :
    RecipientStep dropped w (RecipientWorld.delRecipient ⟨w.nodes, calls⟩ sessionId) := by
  have hkeep : ∀ (i : Nat) (n : RecipientNode), w.nodes[i]? = some n →
      RecipientMove (dropped n) n n (w.holders i) (RecipientWorld.holders ⟨w.nodes, calls⟩ i) := by
    intro i n _
    rw [hsame]
    exact .keep rfl
  unfold RecipientWorld.delRecipient
  split
  · refine ⟨hcalls, fun i n hn => ⟨n, hn, hkeep i n hn, fun h => ⟨h, rfl⟩⟩, fun i n hn hn' => ?_⟩
    rw [hn] at hn'
    cases hn'
  · rename_i i hi
    obtain ⟨n, hn, hlinked, hdel⟩ := getRecipientNoLock_some (w := ⟨w.nodes, calls⟩) hi
    refine RecipientStep.modify i _ hcalls (fun j _ => hsame j) fun n' hn' => ?_
    obtain rfl : n = n' := Option.some.inj (hn.symm.trans hn')
    rw [hsame]
    exact ⟨.drop (hdropped n hdel) hlinked (RecipientNode.counter_del _ _), RecipientNode.linked_unref⟩

theorem getRef_step (h : w.CallsOk) (handler : FrameHandler) (sessionId : Int) :
    RecipientStep dropped w (w.getRef handler sessionId) := by
  have hcount := handler.count_todo
  have hcalls : ∀ (i : Nat) (nodes : List RecipientNode), w.nodes.length ≤ nodes.length → i < nodes.length →
      RecipientWorld.CallsOk ⟨nodes, w.calls ++ [⟨sessionId, i, handler.todo⟩]⟩ := by
    intro i nodes hle hi c hc
    rcases List.mem_append.mp hc with hc | hc
    · exact ⟨Nat.lt_of_lt_of_le (h c hc).1 hle, (h c hc).2⟩
    · rw [List.mem_singleton.mp hc]
      exact ⟨hi, hcount.le⟩
  unfold RecipientWorld.getRef
  split
  · rename_i i hi
    obtain ⟨n, hn, hlinked, -⟩ := getRecipientNoLock_some hi
    have hlt := (List.getElem?_eq_some_iff.mp hn).1
    split
    · exact .refl h
    · rename_i info _
      refine RecipientStep.modify i _ (hcalls i _ (Nat.le_refl _) hlt) (fun j hj => ?_) fun n' hn' => ?_
      · rw [holders_append _ hcount, if_neg (Ne.symm hj), Nat.add_zero]
      · obtain rfl : n = n' := Option.some.inj (hn.symm.trans hn')
        rw [holders_append _ hcount, if_pos rfl]
        exact ⟨.acquire hlinked rfl, fun h => ⟨h, rfl⟩⟩
  · split
    · exact .refl h
    · rename_i info _
      -- nobody can hold a recipient that is not there yet
      have hnone : ∀ i, w.nodes.length ≤ i → w.holders i = 0 := by
        intro i hi
        refine List.countP_eq_zero.mpr fun c hc => ?_
        have hlt := (h c hc).1
        rw [holds_eq, beq_eq_false_iff_ne.mpr (show c.recipient ≠ i by omega)]
        simp
      refine ⟨hcalls _ _ (by simp) (by simp), fun i n hn => ?_, fun i n hn hn' => ?_⟩
      · have hlt := (List.getElem?_eq_some_iff.mp hn).1
        refine ⟨n, by rw [List.getElem?_append_left hlt]; exact hn, ?_, fun h => ⟨h, rfl⟩⟩
        rw [holders_append _ hcount, if_neg (by dsimp only; omega)]
        exact .keep rfl
      · have hle := List.getElem?_eq_none_iff.mp hn
        rw [List.getElem?_append_right hle] at hn'
        have hi : i = w.nodes.length := by
          have := (List.getElem?_eq_some_iff.mp hn').1
          simp only [List.length_cons, List.length_nil] at this
          omega
        rw [hi, Nat.sub_self] at hn'
        obtain rfl := Option.some.inj hn'
        rw [hi, holders_append _ hcount, if_pos rfl, hnone _ (Nat.le_refl _)]
        exact ⟨rfl, rfl⟩

theorem next_step (h : w.CallsOk) (e : RecipientEvent) : RecipientStep (· ∈ w.droppedBy e) w (w.next e) := by
  cases e with
  | frame handler sessionId => exact getRef_step h handler sessionId
  | step k =>
    cases hk : w.calls[k]? with
    | none =>
      rw [show w.next (.step k) = w by simp only [RecipientWorld.next, hk]]
      exact .refl h
    | some c =>
      cases htodo : c.todo with
      | nil =>
        rw [show w.next (.step k) = w by simp only [RecipientWorld.next, hk, htodo]]
        exact .refl h
      | cons a rest =>
        have hcount := (h c (List.mem_of_getElem? hk)).2
        have hset := holders_set w.nodes hk htodo hcount
        have hcalls := callsOk_set h hk htodo
        have hsame : a ≠ .release → ∀ j,
            RecipientWorld.holders ⟨w.nodes, w.calls.set k { c with todo := rest }⟩ j = w.holders j := by
          intro ha j
          have := hset j
          simpa [ha] using this
        rw [show w.next (.step k) = RecipientWorld.act ⟨w.nodes, w.calls.set k { c with todo := rest }⟩ c a by
          simp only [RecipientWorld.next, hk, htodo]]
        cases a with
        | write file =>
          refine RecipientStep.modify c.recipient _ hcalls (fun j _ => hsame (by simp) j) fun n _ => ?_
          rw [hsame (by simp)]
          exact ⟨.keep rfl, fun h => ⟨h, rfl⟩⟩
        | setState state =>
          refine RecipientStep.modify c.recipient _ hcalls (fun j _ => hsame (by simp) j) fun n _ => ?_
          rw [hsame (by simp)]
          exact ⟨.keep rfl, fun h => ⟨h, rfl⟩⟩
        | release =>
          refine RecipientStep.modify c.recipient _ hcalls (fun j hj => ?_) fun n _ => ?_
          · have := hset j
            rwa [if_neg (fun hc => hj hc.2.symm), Nat.add_zero] at this
          · have := hset c.recipient
            rw [if_pos ⟨rfl, rfl⟩] at this
            exact ⟨.release this.symm (RecipientNode.counter_unref _ _), RecipientNode.linked_unref⟩
        | del =>
          refine delRecipient_step hcalls (hsame (by simp)) fun n hn => ?_
          simp only [RecipientWorld.droppedBy, hk, htodo]
          exact hn
  | clientDeleteRecvFileList sessionId =>
    simp only [RecipientWorld.next, RecipientWorld.droppedBy]
    split
    · exact .refl h
    · exact delRecipient_step h (fun _ => rfl) fun _ hn => hn
  | timer =>
    refine ⟨fun c hc => ?_, fun i n hn => ?_, fun i n hn hn' => ?_⟩
    · simp only [RecipientWorld.next, List.length_mapIdx]
      exact h c hc
    · obtain ⟨hmove, hlink⟩ := n.tick_move (w.holders i)
      refine ⟨n.tick (w.holders i), by simp [RecipientWorld.next, hn], ?_, hlink⟩
      have hmem : n.Expired → n ∈ w.droppedBy .timer := fun he => by
        simp only [RecipientWorld.droppedBy, List.mem_filter, decide_eq_true_eq]
        exact ⟨List.mem_of_getElem? hn, he⟩
      exact hmove.mono hmem
    · simp [RecipientWorld.next, hn] at hn'
  | reuse i value =>
    refine RecipientStep.modify i _ h (fun _ _ => rfl) fun n _ => ?_
    split
    · exact ⟨.keep rfl, fun h => ⟨h, rfl⟩⟩
    · rename_i hf
      exact ⟨.reuse value hf rfl, fun h => ⟨h, rfl⟩⟩

end

/-! ## Runs -/

section
variable {p : Prop} {n n' : RecipientNode} {h h' : Nat}

theorem RecipientMove.accounted (hm : RecipientMove p n n' h h') (ha : n.counter.Accounted h)
    (hl : n.linked = true → n.frees = []) : n'.counter.Accounted h' := by
  cases hm with
  | keep hc => rw [hc]; exact ha
  | acquire hlinked hc => rw [hc]; exact ha.acquire (hl hlinked)
  | release hh hc => rw [hc]; rw [hh] at ha; exact ha.unref
  | drop _ hlinked hc => rw [hc]; exact ha.drop (hl hlinked)
  | reuse value hf hc => rw [hc]; exact ha.reuse hf value

theorem RecipientMove.drops (hm : RecipientMove p n n' h h') : n'.drops = n.drops ∨ p ∧ n'.drops = n.drops + 1 := by
  cases hm with
  | keep hc => exact .inl (congrArg Counter.drops hc)
  | acquire _ hc => exact .inl (congrArg Counter.drops hc)
  | release _ hc => exact .inl (congrArg Counter.drops hc)
  | drop hp _ hc => exact .inr ⟨hp, congrArg Counter.drops hc⟩
  | reuse value _ hc => exact .inl (congrArg Counter.drops hc)

end

structure RecipientWorld.Inv (w : RecipientWorld) : Prop where
  calls : w.CallsOk
  counted : ∀ (i : Nat) (n : RecipientNode), w.nodes[i]? = some n →
    n.counter.Accounted (w.holders i) ∧ (n.linked = true → n.frees = [])

section
variable {w : RecipientWorld}

theorem RecipientWorld.Inv.next (h : w.Inv) (e : RecipientEvent) : (w.next e).Inv := by
  have hstep := next_step h.calls e
  refine ⟨hstep.calls, fun i n' hn' => ?_⟩
  cases hn : w.nodes[i]? with
  | none =>
    obtain ⟨hc, hh⟩ := hstep.new i n' hn hn'
    rw [hc, hh]
    exact ⟨Counter.accounted_new.acquire rfl, fun _ => congrArg Counter.frees hc⟩
  | some n =>
    obtain ⟨m, hm, hmove, hlink⟩ := hstep.old i n hn
    obtain rfl : m = n' := Option.some.inj (hm.symm.trans hn')
    obtain ⟨hacc, hfree⟩ := h.counted i n hn
    exact ⟨hmove.accounted hacc hfree, fun hl => (hlink hl).2.trans (hfree (hlink hl).1)⟩

theorem drops_next (h : w.Inv) (hd : ∀ n ∈ w.nodes, n.drops ≤ 1) {e : RecipientEvent} (he : w.DropsOnce e) :
    ∀ n ∈ (w.next e).nodes, n.drops ≤ 1 := by
  intro n' hn'
  have hstep := next_step h.calls e
  obtain ⟨i, hi⟩ := List.mem_iff_getElem?.mp hn'
  cases hn : w.nodes[i]? with
  | none =>
    have hc : n'.drops = 0 := congrArg Counter.drops (hstep.new i n' hn hi).1
    omega
  | some n =>
    obtain ⟨m, hm, hmove, -⟩ := hstep.old i n hn
    obtain rfl : m = n' := Option.some.inj (hm.symm.trans hi)
    rcases hmove.drops with hsame | ⟨hdrop, hmore⟩
    · rw [hsame]
      exact hd n (List.mem_of_getElem? hn)
    · rw [hmore, he n hdrop]

end

/-- **Reference counting.** In every interleaving the recipients are freed at most once and never under a
thread that holds them, exactly when no recipient has been freed after its list reference was dropped
twice. So it holds in every run in which each event drops only references that are still there. -/
theorem recipient_freed_safely_iff (run : List RecipientEvent) :
    let w := Run.final RecipientWorld.next {} run
    ((∀ n ∈ w.nodes, n.counter.FreedSafely) ↔ ∀ n ∈ w.nodes, n.frees ≠ [] → n.drops ≤ 1) ∧
      (Run.Always RecipientWorld.next RecipientWorld.DropsOnce {} run → ∀ n ∈ w.nodes, n.counter.FreedSafely) := by
  intro w
  have h₀ : RecipientWorld.Inv {} := ⟨fun c hc => (by cases hc), fun i n hn => (by cases hn)⟩
  have hinv : w.Inv := Run.inv_final_of_step (fun _ e h => h.next e) run h₀
  have hsafe : ∀ n ∈ w.nodes, n.counter.FreedSafely ↔ (n.frees ≠ [] → n.drops ≤ 1) := by
    intro n hn
    obtain ⟨i, hi⟩ := List.mem_iff_getElem?.mp hn
    exact (hinv.counted i n hi).1.freedSafely_iff
  refine ⟨forall₂_congr hsafe, fun honce n hn => (hsafe n hn).mpr fun _ => ?_⟩
  have hdrops := Run.inv_final (I := fun w : RecipientWorld => w.Inv ∧ ∀ n ∈ w.nodes, n.drops ≤ 1)
    (fun _ e h he => ⟨h.1.next e, drops_next h.1 h.2 he⟩) run ⟨h₀, fun n hn => by cases hn⟩ honce
  exact hdrops.2 n hn

/-- One file, from its first frame to the list of files at the end. -/
theorem recipient_freed_after_file :
    let run : List RecipientEvent :=
      [.frame (.createFileFromFrame openEnv (some { fileStatus := .busy })) 1, .step 0, .step 0,
        .frame (.processFileAckRequest none) 1, .timer, .step 1,
        .frame (.processFileListData true) 1, .step 2, .step 2, .step 2]
    (∀ n ∈ (Run.final RecipientWorld.next {} run).nodes, n.counter.FreedSafely) ∧
      (Run.final RecipientWorld.next {} run).nodes.map RecipientNode.frees = [[0]] := by
  intro run
  exact ⟨(recipient_freed_safely_iff run).2 (by decide), by decide⟩

/-- Two threads process frames of a session, one of them fails, and the session is closed: the recipient is
freed while the other thread holds it. -/
theorem recipient_freed_under_holder :
    let run : List RecipientEvent :=
      [.frame (.createFileFromFrame openEnv (some { fileStatus := .busy })) 1, .step 0, .step 0,
        .frame (.writeFrameToFile (some { fileStatus := .busy }) false) 1,
        .frame (.writeFrameToFile none false) 1, .step 2, .step 2, .step 2,
        .clientDeleteRecvFileList 1]
    let w := Run.final RecipientWorld.next {} run
    w.holders 0 = 1 ∧ w.nodes.map RecipientNode.frees = [[1]] ∧ ¬ ∀ n ∈ w.nodes, n.counter.FreedSafely := by
  decide

end SoftBus
