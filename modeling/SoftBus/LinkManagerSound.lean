import Mathlib.Data.List.Flatten
import SoftBus.LinkManager

/-!
# Links are counted, filed by type and told apart

`Sound` is kept by every change to one of the lists (`Sound.setList`), and
every call is made of such changes. A call returns exactly when `LinkCall.Ok`
holds: where it does not, the code indexes `linkLists` with a type that has no
list.
-/

namespace SoftBus

/-! ## Link types -/

namespace WifiDirectLinkType

theorem ofInt_eq_some {i : Int} {t : WifiDirectLinkType} : ofInt i = some t ↔ i = t.toInt := by
  unfold ofInt
  split
  case isTrue h => cases t <;> simp [h, toInt]
  case isFalse h =>
    split
    case isTrue h' => cases t <;> simp [h', toInt]
    case isFalse h' => cases t <;> simp [toInt, h, h']

theorem ofInt_eq_none {i : Int} : ofInt i = none ↔ ¬(0 ≤ i ∧ i < linkTypeMax) := by
  unfold ofInt linkTypeMax
  split
  · exact iff_of_false nofun (by omega)
  · split
    · exact iff_of_false nofun (by omega)
    · exact iff_of_true rfl (by omega)

theorem forall_of_other {P : WifiDirectLinkType → Prop} (t : WifiDirectLinkType) (ht : P t) (hother : P t.other) :
    ∀ t', P t' := by
  cases t <;> intro t' <;> cases t' <;> assumption

end WifiDirectLinkType

/-! ## Links -/

namespace InnerLink

def macKey (link : InnerLink) : Option (List UInt8) := link.remoteBaseMac.map (·.map toUpperCase)

def ids (link : InnerLink) : List (BitVec 32) := link.idList.map (·.id)

theorem hasMac_iff {link : InnerLink} {mac : List UInt8} :
    link.hasMac mac ↔ link.macKey = some (mac.map toUpperCase) := by
  cases h : link.remoteBaseMac <;> simp [hasMac, macKey, h, strCmpIgnoreCase_iff]

theorem containId_iff {link : InnerLink} {linkId : BitVec 32} : link.containId linkId ↔ linkId ∈ link.ids := by
  simp [containId, ids]

theorem linkType_of_getD (link : InnerLink) {t : WifiDirectLinkType} (h : link.linkType.getD linkTypeMax = t.toInt) :
    link.linkType = some t.toInt := by
  cases hlink : link.linkType with
  | none =>
    rw [hlink] at h
    cases t <;> cases h
  | some i => rw [← h, hlink, Option.getD_some]

theorem remoteBaseMac_of_getD (link : InnerLink) (h : link.remoteBaseMac.getD [] ≠ []) :
    link.remoteBaseMac = some (link.remoteBaseMac.getD []) := by
  cases hlink : link.remoteBaseMac with
  | none => simp [hlink] at h
  | some mac => rfl

structure Harmless (f : InnerLink → InnerLink) : Prop where
  linkType : ∀ link, (f link).linkType = link.linkType
  macKey : ∀ link, (f link).macKey = link.macKey
  ids : ∀ link, (f link).ids.Sublist link.ids

theorem harmless_id : Harmless id := ⟨fun _ => rfl, fun _ => rfl, fun _ => .refl _⟩

theorem harmless_inherit (target : InnerLink) :
    Harmless (inherit target) := ⟨fun _ => rfl, fun _ => rfl, fun _ => .refl _⟩

theorem harmless_decreaseReference : Harmless decreaseReference := ⟨fun _ => rfl, fun _ => rfl, fun _ => .refl _⟩

theorem harmless_clearUsed : Harmless removeId.clearUsed where
  linkType link := by
    unfold removeId.clearUsed
    split <;> rfl
  macKey link := by
    unfold removeId.clearUsed
    split <;> rfl
  ids link := by
    unfold removeId.clearUsed
    split <;> exact .refl _

theorem harmless_removeId (linkId : BitVec 32) : Harmless (·.removeId linkId) where
  linkType link := by
    rw [removeId, harmless_clearUsed.linkType]
    split <;> rfl
  macKey link := by
    rw [removeId, harmless_clearUsed.macKey]
    split <;> rfl
  ids link := by
    refine (harmless_clearUsed.ids _).trans ?_
    split
    · exact List.eraseP_sublist.map _
    · exact .refl _

end InnerLink

namespace LinkManager

def ids (m : LinkManager) : List (BitVec 32) := m.links.flatMap InnerLink.ids

structure Sound (m : LinkManager) : Prop where
  count : m.count = m.links.length
  -- a link is in the list of its type
  linkType : ∀ t, ∀ link ∈ m.linkLists t, link.linkType = some t.toInt
  -- the MACs in a list differ, also when case is ignored
  mac : ∀ t, ((m.linkLists t).map InnerLink.macKey).Nodup
  -- an id is there once
  id : m.ids.Nodup

theorem sound_init : Sound {} := by
  constructor <;> simp [links, ids]

/-! ## Changes to a list -/

section
variable {m : LinkManager} {t : WifiDirectLinkType} {l : List InnerLink} {p : InnerLink → Bool} {f : InnerLink → InnerLink}

@[simp] theorem linkLists_setList : (m.setList t l).linkLists t = l := Function.update_self ..

@[simp] theorem linkLists_setList_other : (m.setList t l).linkLists t.other = m.linkLists t.other :=
  Function.update_of_ne (by cases t <;> decide) ..

theorem links_perm (m : LinkManager) : ∀ t : WifiDirectLinkType, m.links.Perm (m.linkLists t ++ m.linkLists t.other)
  | .p2p => .refl _
  | .hml => List.perm_append_comm

theorem ids_perm (m : LinkManager) (t : WifiDirectLinkType) :
    m.ids.Perm ((m.linkLists t).flatMap InnerLink.ids ++ (m.linkLists t.other).flatMap InnerLink.ids) := by
  rw [← List.flatMap_append]
  exact (links_perm m t).flatMap_right _

theorem Sound.currentLinkId (h : m.Sound) (linkId : BitVec 32) : Sound { m with currentLinkId := linkId } :=
  ⟨h.count, h.linkType, h.mac, h.id⟩

theorem Sound.setList (h : m.Sound) {c : Int} (hcount : c + (m.linkLists t).length = m.count + l.length)
    (htype : ∀ link ∈ l, link.linkType = some t.toInt) (hmac : (l.map InnerLink.macKey).Nodup)
    (hid : (l.flatMap InnerLink.ids ++ (m.linkLists t.other).flatMap InnerLink.ids).Nodup) :
    Sound { m.setList t l with count := c } where
  count := by
    have hold := (links_perm m t).length_eq
    have hnew := (links_perm { m.setList t l with count := c } t).length_eq
    have := h.count
    simp only [List.length_append, linkLists_setList, linkLists_setList_other] at hold hnew ⊢
    omega
  linkType := by
    refine WifiDirectLinkType.forall_of_other t ?_ ?_
    · simpa using htype
    · simpa using h.linkType t.other
  mac := by
    refine WifiDirectLinkType.forall_of_other t ?_ ?_
    · simpa using hmac
    · simpa using h.mac t.other
  id := by
    refine (ids_perm _ t).nodup_iff.mpr ?_
    simpa using hid

theorem Sound.sublist (h : m.Sound) {c : Int} (hl : l.Sublist (m.linkLists t))
    (hcount : c + (m.linkLists t).length = m.count + l.length) : Sound { m.setList t l with count := c } :=
  h.setList hcount (fun link hlink => h.linkType t link (hl.subset hlink)) ((h.mac t).sublist (hl.map _))
    (((ids_perm m t).nodup_iff.mp h.id).sublist ((hl.flatMap _).append (.refl _)))

theorem Sound.dropFirst (h : m.Sound) {link : InnerLink} (hfind : (m.linkLists t).find? p = some link) :
    (m.dropFirst t p).Sound := by
  have := FirstMatch.length_eraseP_of_find? hfind
  exact h.sublist List.eraseP_sublist (by omega)

theorem Sound.append (h : m.Sound) (link : InnerLink) (htype : link.linkType = some t.toInt)
    (hmac : ∀ x ∈ m.linkLists t, x.macKey ≠ link.macKey) (hids : link.ids = []) :
    Sound { m.setList t (m.linkLists t ++ [link]) with count := m.count + 1 } := by
  refine h.setList (by simp; omega) ?_ ?_ ?_
  · intro x hx
    rcases List.mem_append.mp hx with hx | hx
    · exact h.linkType t x hx
    · rwa [List.mem_singleton.mp hx]
  · rw [List.map_append, List.map_singleton]
    refine (h.mac t).append (List.nodup_singleton _) ?_
    rw [List.disjoint_singleton, List.mem_map]
    rintro ⟨x, hx, heq⟩
    exact hmac x hx heq
  · rw [List.flatMap_append, List.flatMap_singleton, hids, List.append_nil]
    exact (ids_perm m t).nodup_iff.mp h.id

theorem Sound.modify (h : m.Sound)
    (htype : ∀ link ∈ m.linkLists t, p link → (f link).linkType = link.linkType)
    (hmac : ∀ link ∈ m.linkLists t, p link → (f link).macKey = link.macKey)
    (hid : ((FirstMatch.modify p f (m.linkLists t)).flatMap InnerLink.ids ++
      (m.linkLists t.other).flatMap InnerLink.ids).Nodup) : (m.modifyFirst t p f).Sound := by
  refine h.setList (by rw [FirstMatch.length_modify]) ?_ ?_ hid
  · intro link hlink
    rcases FirstMatch.mem_modify hlink with hlink | ⟨x, hx, hp, rfl⟩
    · exact h.linkType t link hlink
    · rw [htype x hx hp, h.linkType t x hx]
  · rw [FirstMatch.map_modify _ hmac]
    exact h.mac t

theorem Sound.modify_of_sublist (h : m.Sound)
    (htype : ∀ link ∈ m.linkLists t, p link → (f link).linkType = link.linkType)
    (hmac : ∀ link ∈ m.linkLists t, p link → (f link).macKey = link.macKey)
    (hids : ∀ link, (f link).ids.Sublist link.ids) : (m.modifyFirst t p f).Sound :=
  h.modify htype hmac (((ids_perm m t).nodup_iff.mp h.id).sublist
    ((FirstMatch.flatMap_modify_sublist hids _).append (.refl _)))

theorem Sound.modify_of_harmless (h : m.Sound) (hf : InnerLink.Harmless f) : (m.modifyFirst t p f).Sound :=
  h.modify_of_sublist (fun link _ _ => hf.linkType link) (fun link _ _ => hf.macKey link) hf.ids

end

/-! ## Looking up -/

section
variable {m m' : LinkManager} {t : WifiDirectLinkType} {linkType : Int} {mac : List UInt8} {link oldLink : InnerLink}

theorem getLinkByTypeAndDevice_eq_none : m.getLinkByTypeAndDevice linkType mac = none ↔ linkType < 0 := by
  have hmax : linkTypeMax = 2 := rfl
  unfold getLinkByTypeAndDevice
  split
  case isTrue h => exact iff_of_false nofun (by omega)
  case isFalse h =>
    split
    case h_1 hnone => exact iff_of_true rfl (by rw [WifiDirectLinkType.ofInt_eq_none] at hnone; omega)
    case h_2 t ht =>
      rw [WifiDirectLinkType.ofInt_eq_some] at ht
      refine iff_of_false nofun ?_
      rw [ht]
      cases t <;> decide

theorem nonneg_of_getLinkByTypeAndDevice {found : Option (WifiDirectLinkType × InnerLink)}
    (h : m.getLinkByTypeAndDevice linkType mac = some found) : 0 ≤ linkType := by
  by_contra hneg
  rw [getLinkByTypeAndDevice_eq_none.mpr (not_le.mp hneg)] at h
  cases h

theorem find?_of_getLinkByTypeAndDevice (h : m.getLinkByTypeAndDevice linkType mac = some (some (t, link))) :
    linkType = t.toInt ∧ (m.linkLists t).find? (·.hasMac mac) = some link := by
  unfold getLinkByTypeAndDevice at h
  split at h
  · cases h
  · split at h
    · cases h
    · rename_i t' ht
      cases hfind : (m.linkLists t').find? (·.hasMac mac) with
      | none => simp [hfind] at h
      | some link' =>
        simp only [hfind, Option.map_some, Option.some.injEq, Prod.mk.injEq] at h
        obtain ⟨rfl, rfl⟩ := h
        exact ⟨WifiDirectLinkType.ofInt_eq_some.mp ht, hfind⟩

theorem macKey_ne_of_getLinkByTypeAndDevice (h : m.getLinkByTypeAndDevice t.toInt mac = some none) :
    ∀ link ∈ m.linkLists t, link.macKey ≠ some (mac.map toUpperCase) := by
  have hlt : ¬linkTypeMax ≤ t.toInt := by cases t <;> decide
  rw [getLinkByTypeAndDevice, if_neg hlt, WifiDirectLinkType.ofInt_eq_some.mpr rfl] at h
  simp only [Option.some.injEq, Option.map_eq_none_iff, List.find?_eq_none, InnerLink.hasMac_iff] at h
  exact h

/-! ## Notifications -/

theorem Sound.adjustIfRemoteMacChange (h : m.Sound) (innerLink : InnerLink) :
    (m.adjustIfRemoteMacChange innerLink).1.Sound ∧ InnerLink.Harmless (m.adjustIfRemoteMacChange innerLink).2 := by
  unfold LinkManager.adjustIfRemoteMacChange
  split
  · exact ⟨h, InnerLink.harmless_id⟩
  · split
    case h_1 => exact ⟨h, InnerLink.harmless_id⟩
    case h_2 target hfind => exact ⟨h.dropFirst hfind, InnerLink.harmless_inherit target⟩

theorem Sound.onInnerLinkChange (h : m.Sound) (innerLink : InnerLink) (isStateChange : Bool) :
    (m.onInnerLinkChange innerLink isStateChange).1.Sound ∧
      InnerLink.Harmless (m.onInnerLinkChange innerLink isStateChange).2 := by
  unfold LinkManager.onInnerLinkChange
  split
  · exact h.adjustIfRemoteMacChange innerLink
  · exact ⟨h, InnerLink.harmless_id⟩

theorem Sound.addLink (h : m.Sound) {alloc : Bool} (hmac : link.remoteBaseMac = some mac)
    (hnew : m.getLinkByTypeAndDevice (link.linkType.getD linkTypeMax) mac = some none)
    (hadd : m.addLink link alloc = some m') : m'.Sound := by
  unfold LinkManager.addLink at hadd
  split at hadd
  case isTrue =>
    cases hadd
    exact h
  case isFalse hmax =>
    split at hadd
    case isTrue =>
      cases hadd
      exact h
    case isFalse =>
      split at hadd
      case h_1 => cases hadd
      case h_2 t ht =>
        cases hadd
        rw [WifiDirectLinkType.ofInt_eq_some] at ht
        rw [ht] at hnew
        refine ((h.append link.deepCopy (link.linkType_of_getD ht) ?_ rfl).onInnerLinkChange link true).1
        intro x hx heq
        refine macKey_ne_of_getLinkByTypeAndDevice hnew x hx (heq.trans ?_)
        simp [InnerLink.macKey, InnerLink.deepCopy, hmac]

theorem Sound.removeLink (h : m.Sound) (hremove : m.removeLink link = some m') : m'.Sound := by
  unfold LinkManager.removeLink at hremove
  split at hremove
  · cases hremove
    exact h
  split at hremove
  · cases hremove
  · cases hremove
    exact h
  · rename_i hget
    cases hremove
    exact h.dropFirst (find?_of_getLinkByTypeAndDevice hget).2

theorem Sound.mergeLink (h : m.Sound) (hmac : link.remoteBaseMac = some mac) (htype : link.linkType = some t.toInt) :
    (m.mergeLink t oldLink link).Sound := by
  have hmerge : (m.modifyFirst t (·.hasMac (link.remoteBaseMac.getD [])) (·.merge link)).Sound := by
    refine h.modify_of_sublist ?_ ?_ fun _ => .refl _
    · intro x hx _
      rw [InnerLink.merge, htype, h.linkType t x hx]
      rfl
    · intro x _ hp
      rw [hmac, Option.getD_some] at hp
      rw [InnerLink.hasMac_iff.mp hp]
      simp [InnerLink.macKey, InnerLink.merge, hmac]
  obtain ⟨hsound, hput⟩ := hmerge.onInnerLinkChange (oldLink.merge link)
    (decide (link.state.getD .invalid ≠ .invalid ∧ oldLink.state.getD .invalid ≠ link.state.getD .invalid))
  exact hsound.modify_of_harmless hput

theorem Sound.notifyLinkChange (h : m.Sound) {alloc : Bool} (hcall : m.notifyLinkChange link alloc = some m') :
    m'.Sound := by
  unfold LinkManager.notifyLinkChange at hcall
  split at hcall
  case h_1 => cases hcall
  case h_2 m₁ hremove =>
    have h₁ : m₁.Sound := by
      split at hremove
      · exact h.removeLink hremove
      · cases hremove
        exact h
    split at hcall
    case isTrue =>
      cases hcall
      exact h₁
    case isFalse hne =>
      have hmac := link.remoteBaseMac_of_getD hne
      split at hcall
      case h_1 => cases hcall
      case h_2 oldLink hget =>
        cases oldLink with
        | none => exact h₁.addLink hmac hget hcall
        | some oldLink =>
          obtain ⟨t, oldLink⟩ := oldLink
          cases hcall
          exact h₁.mergeLink hmac (link.linkType_of_getD (find?_of_getLinkByTypeAndDevice hget).1)

theorem removeLink_eq_none : m.removeLink link = none ↔ link.linkType.getD linkTypeMax < 0 := by
  have hmax : linkTypeMax = 2 := rfl
  unfold removeLink
  split
  case isTrue h => exact iff_of_false nofun (by omega)
  case isFalse =>
    split
    case h_1 h => exact iff_of_true rfl (getLinkByTypeAndDevice_eq_none.mp h)
    case h_2 h => exact iff_of_false nofun (nonneg_of_getLinkByTypeAndDevice h).not_gt
    case h_3 h => exact iff_of_false nofun (nonneg_of_getLinkByTypeAndDevice h).not_gt

theorem addLink_ne_none {alloc : Bool} (h : 0 ≤ link.linkType.getD linkTypeMax) : m.addLink link alloc ≠ none := by
  unfold addLink
  split
  · nofun
  · split
    · nofun
    · split
      case h_1 hnone => exact absurd ⟨h, by omega⟩ (WifiDirectLinkType.ofInt_eq_none.mp hnone)
      case h_2 => nofun

theorem notifyLinkChange_eq_none {alloc : Bool} : m.notifyLinkChange link alloc = none ↔
    link.linkType.getD linkTypeMax < 0 ∧
      (link.state.getD .invalid = .disconnected ∨ link.remoteBaseMac.getD [] ≠ []) := by
  unfold notifyLinkChange
  by_cases hneg : link.linkType.getD linkTypeMax < 0
  · split
    case h_1 hremove =>
      refine iff_of_true rfl ⟨hneg, .inl ?_⟩
      split at hremove
      · assumption
      · cases hremove
    case h_2 hremove =>
      have hconn : ¬link.state.getD .invalid = .disconnected := fun hdisc => by
        rw [if_pos hdisc, removeLink_eq_none.mpr hneg] at hremove
        cases hremove
      split
      case isTrue hmac => exact iff_of_false nofun fun h => h.2.elim hconn (· hmac)
      case isFalse hmac =>
        rw [getLinkByTypeAndDevice_eq_none.mpr hneg]
        exact iff_of_true rfl ⟨hneg, .inr hmac⟩
  · refine iff_of_false ?_ fun h => hneg h.1
    split
    case h_1 hremove =>
      split at hremove
      · exact absurd (removeLink_eq_none.mp hremove) hneg
      · cases hremove
    case h_2 =>
      split
      · nofun
      · split
        case h_1 hget => exact absurd (getLinkByTypeAndDevice_eq_none.mp hget) hneg
        case h_2 oldLink _ =>
          cases oldLink with
          | none => exact addLink_ne_none (not_lt.mp hneg)
          | some _ => nofun

/-! ## Removals -/

theorem Sound.removeAll : ∀ (l : List InnerLink) {m : LinkManager}, m.Sound → m.linkLists t = l →
    (LinkManager.removeAll t l m).Sound
  | [], _, h, _ => h
  | _ :: rest, m, h, hl => by
    have hsub : rest.Sublist (m.linkLists t) := hl ▸ List.sublist_cons_self ..
    refine Sound.removeAll rest (h.sublist hsub ?_) linkLists_setList
    rw [hl, List.length_cons]
    omega

theorem Sound.refresh (clientDevices : List (List UInt8)) : ∀ (l kept : List InnerLink) {m : LinkManager}, m.Sound →
    m.linkLists t = kept ++ l → (LinkManager.refresh t clientDevices kept l m).Sound
  | [], _, _, h, _ => h
  | link :: rest, kept, m, h, hl => by
    rw [LinkManager.refresh]
    split
    · exact Sound.refresh clientDevices rest (kept ++ [link]) h (by rw [hl, List.append_assoc]; rfl)
    · have hsub : (kept ++ rest).Sublist (m.linkLists t) := hl ▸ (List.sublist_cons_self link rest).append_left kept
      refine Sound.refresh clientDevices rest kept (h.sublist hsub ?_) linkLists_setList
      rw [hl, List.length_append, List.length_append, List.length_cons]
      omega

theorem Sound.removeLinksByLinkType (h : m.Sound) (hcall : m.removeLinksByLinkType linkType = some m') : m'.Sound := by
  unfold LinkManager.removeLinksByLinkType at hcall
  split at hcall
  · cases hcall
    exact h
  · split at hcall
    · cases hcall
    · cases hcall
      exact h.removeAll _ rfl

theorem Sound.refreshLinks (h : m.Sound) {clientDevices : List (List UInt8)}
    (hcall : m.refreshLinks linkType clientDevices = some m') : m'.Sound := by
  unfold LinkManager.refreshLinks at hcall
  split at hcall
  · cases hcall
  · cases hcall
    exact h.refresh clientDevices _ [] rfl

theorem removeLinksByLinkType_eq_none : m.removeLinksByLinkType linkType = none ↔ linkType < 0 := by
  have hmax : linkTypeMax = 2 := rfl
  unfold removeLinksByLinkType
  split
  · exact iff_of_false nofun (by omega)
  · split
    case h_1 hnone =>
      rw [WifiDirectLinkType.ofInt_eq_none] at hnone
      exact iff_of_true rfl (by omega)
    case h_2 t ht =>
      rw [WifiDirectLinkType.ofInt_eq_some] at ht
      exact iff_of_false nofun (by cases t <;> rw [ht] <;> decide)

theorem refreshLinks_eq_none {clientDevices : List (List UInt8)} :
    m.refreshLinks linkType clientDevices = none ↔ ¬(0 ≤ linkType ∧ linkType < linkTypeMax) := by
  rw [← WifiDirectLinkType.ofInt_eq_none]
  unfold refreshLinks
  split
  case h_1 hnone => exact iff_of_true rfl hnone
  case h_2 t ht => exact iff_of_false nofun (by simp [ht])

/-! ## Link ids -/

theorem getLinkById_eq_none {linkId : BitVec 32} : m.getLinkById linkId = none ↔ linkId ∉ m.ids := by
  simp [getLinkById, ids, List.find?_eq_none, InnerLink.containId_iff]

theorem nextLinkId_free {newId : BitVec 32} : ∀ (fuel : Nat) {start : BitVec 32},
    m.nextLinkId fuel start = some newId → newId ∉ m.ids
  | fuel + 1, start, h => by
    rw [nextLinkId] at h
    split at h
    case isTrue hfree =>
      cases h
      exact getLinkById_eq_none.mp (Option.isNone_iff_eq_none.mp hfree)
    case isFalse => exact nextLinkId_free fuel h

theorem nextLinkId_eq_none : ∀ {fuel : Nat} {start : BitVec 32},
    m.nextLinkId fuel start = none ↔ ∀ i < fuel, start + BitVec.ofNat 32 i ∈ m.ids
  | 0, _ => iff_of_true rfl nofun
  | fuel + 1, start => by
    have hzero : start + BitVec.ofNat 32 0 = start := by simp
    have hsucc : ∀ i, start + BitVec.ofNat 32 (i + 1) = start + 1 + BitVec.ofNat 32 i := fun i => by
      rw [BitVec.add_assoc, Nat.add_comm i 1, BitVec.ofNat_add]
      rfl
    rw [nextLinkId]
    split
    case isTrue hfree =>
      refine iff_of_false nofun fun h => ?_
      exact getLinkById_eq_none.mp (Option.isNone_iff_eq_none.mp hfree) (hzero ▸ h 0 (Nat.succ_pos fuel))
    case isFalse hused =>
      rw [Option.isNone_iff_eq_none, getLinkById_eq_none, not_not] at hused
      rw [nextLinkId_eq_none, Nat.forall_lt_succ_left]
      simp only [hzero, hused, hsucc, true_and]

theorem nextLinkId_eq_none_iff {start : BitVec 32} : m.nextLinkId (2 ^ 32) start = none ↔ ∀ linkId, linkId ∈ m.ids := by
  rw [nextLinkId_eq_none]
  constructor
  · intro h linkId
    have := h (linkId - start).toNat (linkId - start).isLt
    rwa [BitVec.ofNat_toNat, BitVec.setWidth_eq, BitVec.add_comm, BitVec.sub_add_cancel] at this
  · intro h i _
    exact h _

theorem Sound.addId (h : m.Sound) {newId requestId pid : BitVec 32} {alloc : Bool}
    (hfind : (m.linkLists t).find? (·.hasMac mac) = some link) (hfree : newId ∉ m.ids) :
    (m.modifyFirst t (·.hasMac mac) (·.addId newId requestId pid alloc)).Sound := by
  cases alloc with
  | false => exact h.modify_of_harmless InnerLink.harmless_id
  | true =>
    refine h.modify (fun _ _ _ => rfl) (fun _ _ _ => rfl) ?_
    have hids : (link.addId newId requestId pid true).ids = link.ids ++ [newId] := by
      simp [InnerLink.ids, InnerLink.addId, InnerLink.increaseReference]
    have hperm := FirstMatch.flatMap_modify_perm (f := (·.addId newId requestId pid true)) (g := InnerLink.ids) hfind
    rw [hids, List.append_assoc, List.perm_append_left_iff] at hperm
    refine ((hperm.append_right _).trans ?_).nodup_iff.mpr (List.nodup_cons.mpr ⟨hfree, h.id⟩)
    exact (ids_perm m t).symm.cons newId

theorem Sound.generateLinkId (h : m.Sound) {requestId pid newId : BitVec 32} {alloc : Bool}
    (hcall : m.generateLinkId link requestId pid alloc = some (m', newId)) : m'.Sound := by
  unfold LinkManager.generateLinkId at hcall
  split at hcall
  · cases hcall
  · cases hcall
    exact h
  · rename_i hget
    split at hcall
    · cases hcall
    · rename_i hnext
      cases hcall
      have hfree : newId ∉ m.ids := nextLinkId_free _ hnext
      exact (h.currentLinkId _).addId (find?_of_getLinkByTypeAndDevice hget).2 hfree

theorem generateLinkId_eq_none {requestId pid : BitVec 32} {alloc : Bool} :
    m.generateLinkId link requestId pid alloc = none ↔ link.linkType.getD linkTypeInvalid < 0 ∨
      m.getLinkByTypeAndDevice (link.linkType.getD linkTypeInvalid) (link.remoteBaseMac.getD []) ≠ some none ∧
        ∀ linkId, linkId ∈ m.ids := by
  unfold generateLinkId
  split
  case h_1 hget => exact iff_of_true rfl (.inl (getLinkByTypeAndDevice_eq_none.mp hget))
  case h_2 hget =>
    have htype := (nonneg_of_getLinkByTypeAndDevice hget).not_gt
    exact iff_of_false nofun fun h => h.elim htype fun h => h.1 hget
  case h_3 hget =>
    have htype := (nonneg_of_getLinkByTypeAndDevice hget).not_gt
    split
    case h_1 hnone => exact iff_of_true rfl (.inr ⟨by simp [hget], nextLinkId_eq_none_iff.mp hnone⟩)
    case h_2 hnext => exact iff_of_false nofun fun h => h.elim htype fun h => nextLinkId_free _ hnext (h.2 _)

theorem Sound.modifyAny (h : m.Sound) {p : InnerLink → Bool} {f : InnerLink → InnerLink} (hf : InnerLink.Harmless f) :
    (m.modifyAny p f).Sound := by
  unfold LinkManager.modifyAny
  split
  · exact h
  · exact h.modify_of_harmless hf

theorem Sound.recycleLinkId (h : m.Sound) (linkId : BitVec 32) (remoteMac : Option (List UInt8)) :
    (m.recycleLinkId linkId remoteMac).Sound := by
  unfold LinkManager.recycleLinkId
  split
  · split
    · exact h
    · exact h.modifyAny InnerLink.harmless_decreaseReference
  · exact h.modifyAny (InnerLink.harmless_removeId linkId)

end

end LinkManager

/-! ## Sequences of calls -/

def LinkCall.Ok (m : LinkManager) : LinkCall → Prop
  | .notifyLinkChange link _ =>
    0 ≤ link.linkType.getD linkTypeMax ∨ link.state.getD .invalid ≠ .disconnected ∧ link.remoteBaseMac.getD [] = []
  | .removeLinksByLinkType linkType => 0 ≤ linkType
  | .refreshLinks linkType _ => 0 ≤ linkType ∧ linkType < linkTypeMax
  | .generateLinkId link _ _ _ =>
    0 ≤ link.linkType.getD linkTypeInvalid ∧
      (m.getLinkByTypeAndDevice (link.linkType.getD linkTypeInvalid) (link.remoteBaseMac.getD []) = some none ∨
        ∃ linkId, linkId ∉ m.ids)
  | .recycleLinkId _ _ => True

namespace LinkManager

variable {m m' : LinkManager} {c : LinkCall}

theorem call_eq_none : m.call c = none ↔ ¬c.Ok m := by
  cases c with
  | notifyLinkChange link alloc =>
    rw [call, notifyLinkChange_eq_none, LinkCall.Ok, not_or, not_le, not_and_or, not_not]
  | removeLinksByLinkType linkType => rw [call, removeLinksByLinkType_eq_none, LinkCall.Ok, not_le]
  | refreshLinks linkType clientDevices => rw [call, refreshLinks_eq_none, LinkCall.Ok]
  | generateLinkId link requestId pid alloc =>
    rw [call, Option.map_eq_none_iff, generateLinkId_eq_none, LinkCall.Ok, not_and_or, not_le, not_or, not_exists]
    simp only [not_not]
  | recycleLinkId linkId remoteMac => exact iff_of_false (Option.some_ne_none _) (not_not_intro trivial)

theorem Sound.call (h : m.Sound) (hcall : m.call c = some m') : m'.Sound := by
  cases c with
  | notifyLinkChange link alloc => exact h.notifyLinkChange hcall
  | removeLinksByLinkType linkType => exact h.removeLinksByLinkType hcall
  | refreshLinks linkType clientDevices => exact h.refreshLinks hcall
  | generateLinkId link requestId pid alloc =>
    obtain ⟨⟨m₁, newId⟩, hgen, rfl⟩ := Option.map_eq_some_iff.mp hcall
    exact h.generateLinkId hgen
  | recycleLinkId linkId remoteMac =>
    cases hcall
    exact h.recycleLinkId linkId remoteMac

theorem final_none (calls : List LinkCall) : Run.final step none calls = none :=
  Run.inv_final_of_step (I := (· = none)) (fun _ _ hs => by rw [hs]; rfl) calls rfl

theorem run_iff : ∀ (calls : List LinkCall) {m : LinkManager}, m.Sound →
    ((∃ m', Run.final step (some m) calls = some m' ∧ m'.Sound) ↔
      Run.Always step (fun s c => ∀ m ∈ s, c.Ok m) (some m) calls)
  | [], m, h => iff_of_true ⟨m, rfl, h⟩ trivial
  | c :: calls, m, h => by
    rw [Run.final_cons, Run.always_cons]
    cases hc : m.call c with
    | none =>
      rw [show step (some m) c = none from hc, final_none]
      refine iff_of_false nofun fun hok => ?_
      exact call_eq_none.mp hc (hok.1 m rfl)
    | some m₁ =>
      have hok : c.Ok m := by
        by_contra hnot
        rw [call_eq_none.mpr hnot] at hc
        cases hc
      rw [show step (some m) c = some m₁ from hc, run_iff calls (h.call hc)]
      exact (and_iff_right fun m hm => by cases hm; exact hok).symm

end LinkManager

/-- A sequence of calls returns with a sound manager if and only if each of its calls meets `LinkCall.Ok`. -/
theorem link_manager_sound_iff (calls : List LinkCall) :
    (∃ m, Run.final LinkManager.step (some {}) calls = some m ∧ m.Sound) ↔
      Run.Always LinkManager.step (fun s c => ∀ m ∈ s, c.Ok m) (some {}) calls :=
  LinkManager.run_iff calls LinkManager.sound_init

-- a device comes back under another MAC: the link of the old one goes, with the id that was given out for it
example : (Run.final LinkManager.step (some {})
    [.notifyLinkChange { linkType := some 0, state := some .connected, remoteBaseMac := some [97], deviceId := some [1] } true,
      .generateLinkId { linkType := some 0, remoteBaseMac := some [65] } 5 6 true,
      .notifyLinkChange { linkType := some 0, state := some .connected, remoteBaseMac := some [98], deviceId := some [1] } true]
    ).map (fun m => (m.count, m.ids, m.links.map (·.remoteBaseMac))) = some (1, [], [some [98]]) := by
  decide +kernel

/-- A link of type `WIFI_DIRECT_LINK_TYPE_INVALID` passes the check of the index. -/
theorem link_manager_leaves_lists : ¬∃ m, Run.final LinkManager.step (some {})
    [.notifyLinkChange { linkType := some linkTypeInvalid, state := some .connected, remoteBaseMac := some [97] } true] =
      some m ∧ m.Sound := by
  rintro ⟨m, h, _⟩
  cases h

end SoftBus
