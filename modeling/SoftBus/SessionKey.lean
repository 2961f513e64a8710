import SoftBus.AuthCommon
import SoftBus.Lib.FirstMatch
import SoftBus.Lib.Run

/-!
# The session keys of two ends

`auth_session_key.c`. The newest key is at the end of the list and is used to encrypt; the
packet has its index, by which the other end searches from the oldest key on.
-/

namespace SoftBus

section
variable {Key : Type}

def removeSessionkeyByIndex (list : SessionKeyList Key) (index : BitVec 32) : SessionKeyList Key :=
  list.eraseP (·.index = index)

inductive SessionKeyOp (Key : Type) where
  | add (index : BitVec 32) (key : Key)
  | remove (index : BitVec 32)

def SessionKeyOp.apply (list : SessionKeyList Key) : SessionKeyOp Key → SessionKeyList Key
  | add index key => addSessionKey list index key
  | remove index => removeSessionkeyByIndex list index

/-! ## What the list holds -/

/-- The list with each key numbered in the order of the additions, and the numbers of the keys that were
removed by index. -/
structure KeyBook (Key : Type) where
  list : SessionKeyList (Key × Nat) := []
  added : Nat := 0
  removed : List Nat := []

namespace KeyBook

def step (b : KeyBook Key) : SessionKeyOp Key → KeyBook Key
  | .add index key => { b with list := addSessionKey b.list index (key, b.added), added := b.added + 1 }
  | .remove index => { b with
      list := removeSessionkeyByIndex b.list index
      removed := ((b.list.find? (·.index = index)).map (·.key.2)).toList ++ b.removed }

def keys (b : KeyBook Key) : SessionKeyList Key := b.list.map fun item => ⟨item.index, item.key.1⟩

def numbers (b : KeyBook Key) : List Nat := b.list.map (·.key.2)

/-- Of the numbers below `added` that were not removed these are the newest, and all of the last
`sessionKeyMaxNum`. -/
structure Recent (nums : List Nat) (added : Nat) (removed : List Nat) : Prop where
  sorted : nums.Pairwise (· < ·)
  lt_added : ∀ n ∈ nums, n < added
  removed_lt : ∀ n ∈ removed, n < added
  not_removed : ∀ n ∈ nums, n ∉ removed
  newest : ∀ n ∈ nums, ∀ m, n < m → m < added → m ∉ removed → m ∈ nums
  last : ∀ m, m < added → added ≤ m + sessionKeyMaxNum → m ∉ removed → m ∈ nums

section
variable {nums nums' : List Nat} {added : Nat} {removed : List Nat} {b : KeyBook Key}

theorem head_add_length_le {n : Nat} : ∀ {a : Nat} {l : List Nat}, (a :: l).Pairwise (· < ·) → (∀ x ∈ a :: l, x < n) →
    a + l.length < n
  | a, [], _, hlt => hlt a (.head _)
  | a, c :: l, hsorted, hlt => by
    obtain ⟨ha, hsorted⟩ := List.pairwise_cons.mp hsorted
    have hc := ha c (.head _)
    have ih := head_add_length_le hsorted fun x hx => hlt x (.tail _ hx)
    rw [List.length_cons]
    omega

theorem Recent.snoc (h : Recent nums added removed) : Recent (nums ++ [added]) (added + 1) removed where
  sorted := by
    rw [List.pairwise_append]
    exact ⟨h.sorted, List.pairwise_singleton .., fun n hn m hm => List.mem_singleton.mp hm ▸ h.lt_added n hn⟩
  lt_added n hn := by
    rcases List.mem_append.mp hn with hn | hn
    · exact Nat.lt_succ_of_lt (h.lt_added n hn)
    · exact List.mem_singleton.mp hn ▸ Nat.lt_succ_self _
  removed_lt n hn := Nat.lt_succ_of_lt (h.removed_lt n hn)
  not_removed n hn hr := by
    rcases List.mem_append.mp hn with hn | hn
    · exact h.not_removed n hn hr
    · exact Nat.lt_irrefl _ (h.removed_lt _ (List.mem_singleton.mp hn ▸ hr))
  newest n hn m hnm hm hr := by
    rcases Nat.lt_succ_iff_lt_or_eq.mp hm with hm | rfl
    · rcases List.mem_append.mp hn with hn | hn
      · exact List.mem_append_left _ (h.newest n hn m hnm hm hr)
      · have := List.mem_singleton.mp hn
        omega
    · exact List.mem_append_right _ (.head _)
  last m hm hle hr := by
    rcases Nat.lt_succ_iff_lt_or_eq.mp hm with hm | rfl
    · exact List.mem_append_left _ (h.last m hm (by omega) hr)
    · exact List.mem_append_right _ (.head _)

theorem Recent.tail (h : Recent nums added removed) (hlen : sessionKeyMaxNum < nums.length) :
    Recent nums.tail added removed := by
  cases nums with
  | nil => exact h
  | cons a l =>
    have ha := head_add_length_le h.sorted h.lt_added
    have hsorted := List.pairwise_cons.mp h.sorted
    rw [List.length_cons] at hlen
    refine ⟨hsorted.2, fun n hn => h.lt_added n (.tail _ hn), h.removed_lt, fun n hn => h.not_removed n (.tail _ hn),
      fun n hn m hnm hm hr => ?_, fun m hm hle hr => ?_⟩
    · refine (List.mem_cons.mp (h.newest n (.tail _ hn) m hnm hm hr)).resolve_left ?_
      have := hsorted.1 n hn
      omega
    · exact (List.mem_cons.mp (h.last m hm hle hr)).resolve_left (by omega)

theorem Recent.erase (h : Recent nums added removed) {n : Nat} (hperm : nums.Perm (n :: nums'))
    (hsub : nums'.Sublist nums) : Recent nums' added (n :: removed) := by
  have hnodup : (n :: nums').Nodup := hperm.nodup_iff.mp (h.sorted.imp Nat.ne_of_lt)
  have hold : ∀ m ∈ nums, m ∉ n :: removed → m ∈ nums' := fun m hm hr =>
    (List.mem_cons.mp (hperm.mem_iff.mp hm)).resolve_left fun heq => hr (heq ▸ .head _)
  refine ⟨h.sorted.sublist hsub, fun m hm => h.lt_added m (hsub.subset hm), fun m hm => ?_, fun m hm hr => ?_,
    fun k hk m hkm hm hr => ?_, fun m hm hle hr => ?_⟩
  · rcases List.mem_cons.mp hm with rfl | hm
    · exact h.lt_added m (hperm.mem_iff.mpr (.head _))
    · exact h.removed_lt m hm
  · rcases List.mem_cons.mp hr with rfl | hr
    · exact (List.nodup_cons.mp hnodup).1 hm
    · exact h.not_removed m (hsub.subset hm) hr
  · exact hold m (h.newest k (hsub.subset hk) m hkm hm fun hr' => hr (.tail _ hr')) hr
  · exact hold m (h.last m hm hle fun hr' => hr (.tail _ hr')) hr

/-- What holds of the list after every sequence of calls. -/
def Sound (b : KeyBook Key) : Prop := b.list.length ≤ sessionKeyMaxNum ∧ Recent b.numbers b.added b.removed

theorem map_removeOldKey {α : Type} (f : SessionKeyItem Key → α) (list : SessionKeyList Key) :
    (removeOldKey list).map f = if list.length ≤ sessionKeyMaxNum then list.map f else (list.map f).tail := by
  unfold removeOldKey
  split
  · rfl
  · exact List.map_tail

theorem keys_step (b : KeyBook Key) (op : SessionKeyOp Key) : (b.step op).keys = op.apply b.keys := by
  cases op with
  | add index key =>
    change (removeOldKey (b.list ++ [_])).map _ = removeOldKey (b.keys ++ [_])
    rw [map_removeOldKey, removeOldKey, keys]
    simp
  | remove index =>
    change (b.list.eraseP _).map _ = b.keys.eraseP _
    rw [keys, List.eraseP_map]
    rfl

theorem Sound.step (h : b.Sound) (op : SessionKeyOp Key) : (b.step op).Sound := by
  obtain ⟨hlen, hrecent⟩ := h
  cases op with
  | add index key =>
    have hnums : (b.step (.add index key)).numbers =
        if b.list.length + 1 ≤ sessionKeyMaxNum then b.numbers ++ [b.added] else (b.numbers ++ [b.added]).tail := by
      change (removeOldKey (b.list ++ [_])).map _ = _
      rw [map_removeOldKey, List.length_append, List.map_append]
      rfl
    have hlist : (b.step (.add index key)).list.length = (b.step (.add index key)).numbers.length :=
      (List.length_map ..).symm
    have hlength : (b.numbers ++ [b.added]).length = b.list.length + 1 := by simp [numbers]
    rw [Sound, hlist, hnums]
    split
    · exact ⟨hlength ▸ ‹_›, hrecent.snoc⟩
    · exact ⟨by rw [List.length_tail, hlength]; exact hlen, hrecent.snoc.tail (by omega)⟩
  | remove index =>
    refine ⟨(List.eraseP_sublist.length_le).trans hlen, ?_⟩
    change Recent ((b.list.eraseP _).map _) b.added (((b.list.find? _).map _).toList ++ b.removed)
    cases hfind : b.list.find? (·.index = index) with
    | none =>
      rw [List.eraseP_of_forall_not (by simpa using hfind)]
      exact hrecent
    | some item =>
      exact hrecent.erase ((FirstMatch.eraseP_perm hfind).map _) (List.eraseP_sublist.map _)

end

theorem sound_run (ops : List (SessionKeyOp Key)) :
    (Run.final step {} ops : KeyBook Key).Sound ∧
      (Run.final step {} ops : KeyBook Key).keys = Run.final SessionKeyOp.apply [] ops := by
  constructor
  · refine Run.inv_final_of_step (fun _ op h => h.step op) ops ⟨Nat.zero_le _, ?_⟩
    exact ⟨.nil, nofun, nofun, nofun, nofun, fun _ h => absurd h (Nat.not_lt_zero _)⟩
  · suffices h : ∀ b : KeyBook Key, (Run.final step b ops).keys = Run.final SessionKeyOp.apply b.keys ops from h {}
    induction ops with
    | nil => exact fun _ => rfl
    | cons op ops ih =>
      intro b
      rw [Run.final_cons, Run.final_cons, ih, keys_step]

end KeyBook

/-! ## Agreement -/

/-- What one end encrypts the other one decrypts, both with this list. -/
def Agree (gcm : AesGcm Key) (list : SessionKeyList Key) : Prop :=
  ∀ iv data outLen out, encryptData gcm iv list data outLen = some out →
    ∀ outLen', out.length - encryptOverHeadLen ≤ outLen' → decryptData gcm list out outLen' = some data

theorem encryptData_singleton (gcm : AesGcm Key) {list : SessionKeyList Key} {item : SessionKeyItem Key}
    (h : getLatestSessionKey list = some item) (x : UInt8) :
    encryptData gcm [] list [x] (1 + encryptOverHeadLen) = some (Bytes.put encryptIndexLen item.index.toNat ++
      gcm.encrypt item.key (Bytes.put encryptIndexLen item.index.toNat ++ []) [x]) := by
  unfold encryptData
  rw [if_neg (by simp [encryptOverHeadLen, overheadLen, encryptIndexLen]), h]
  exact if_neg (by simp [overheadLen])

theorem agree_iff (gcm : AesGcm Key)
    (hother : ∀ k k' iv data, k ≠ k' → gcm.decrypt k' (gcm.encrypt k iv data) = none) (list : SessionKeyList Key) :
    Agree gcm list ↔
      ∀ item, getLatestSessionKey list = some item → getSessionKeyByIndex list item.index = some item.key := by
  constructor
  · intro h item hitem
    have hdec := h [] [0] _ _ (encryptData_singleton gcm hitem 0) _ (Nat.le_refl _)
    unfold decryptData at hdec
    split at hdec
    · cases hdec
    rw [Bytes.read_put_append item.index.isLt, BitVec.ofNat_toNat, BitVec.setWidth_eq] at hdec
    cases hkey : getSessionKeyByIndex list item.index with
    | none =>
      rw [hkey] at hdec
      cases hdec
    | some key =>
      rw [hkey, Bytes.drop_put_append] at hdec
      dsimp only at hdec
      by_contra hne
      rw [hother _ _ _ _ fun heq => hne (congrArg some heq.symm)] at hdec
      cases hdec
  · intro h iv data outLen out henc outLen' hle
    cases hlast : getLatestSessionKey list with
    | none =>
      unfold encryptData at henc
      rw [hlast] at henc
      split at henc <;> cases henc
    | some item => exact decryptData_encryptData henc hlast (h item hlast) hle

/-- The list of both ends after the same calls. The ends agree as long as no older key in the list has the
index of the newest one. -/
theorem session_key_list_agreement (gcm : AesGcm Key)
    (hother : ∀ k k' iv data, k ≠ k' → gcm.decrypt k' (gcm.encrypt k iv data) = none)
    (ops : List (SessionKeyOp Key)) :
    let list := Run.final SessionKeyOp.apply [] ops
    (Agree gcm list ↔
      ∀ item, getLatestSessionKey list = some item → getSessionKeyByIndex list item.index = some item.key) ∧
    ∃ book : KeyBook Key, book = Run.final KeyBook.step {} ops ∧ book.keys = list ∧ book.Sound :=
  ⟨agree_iff gcm hother _, _, rfl, (KeyBook.sound_run ops).2, (KeyBook.sound_run ops).1⟩

end

def tagGcm : AesGcm UInt8 where
  encrypt key _ data := List.replicate overheadLen key ++ data
  decrypt key data := if data.take overheadLen = List.replicate overheadLen key then some (data.drop overheadLen) else none
  length_encrypt key _ data := length_replicate_append key data
  decrypt_encrypt _ _ data := by simp

theorem tagGcm_other (k k' : UInt8) (iv data : List UInt8) (h : k ≠ k') :
    tagGcm.decrypt k' (tagGcm.encrypt k iv data) = none := by
  refine if_neg fun heq => h ?_
  have hhead := congrArg List.head? heq
  simpa [tagGcm, overheadLen, List.replicate_succ] using hhead

theorem session_keys_agree :
    Agree tagGcm (Run.final SessionKeyOp.apply [] [.add 1 5, .add 2 6, .remove 1]) :=
  (session_key_list_agreement tagGcm tagGcm_other _).1.mpr (by decide)

/-- The second key has the index of the first one. -/
theorem session_keys_disagree : ¬ Agree tagGcm (Run.final SessionKeyOp.apply [] [.add 1 5, .add 1 6]) := by
  intro h
  have hdec := h [] [0] 33 ([1, 0, 0, 0] ++ List.replicate overheadLen 6 ++ [0]) (by decide) 1 (by decide)
  exact absurd hdec (by decide)

end SoftBus
