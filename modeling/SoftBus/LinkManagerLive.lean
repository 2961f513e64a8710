import SoftBus.LinkManagerSound

/-!
# Which links the Wi-Fi Direct link manager keeps

A link that has gone is taken out of the manager, and `NotifyLinkChange` then
adds it like a new one. `RefreshLinks` keeps the links of the clients, but it
compares the MACs with `strcmp` where a look-up ignores case.
-/

namespace SoftBus

namespace LinkManager

variable {m m' : LinkManager} {t : WifiDirectLinkType} {mac : List UInt8} {link : InnerLink}

/-! ## A link that has gone -/

/-- No link of the type and MAC is left, and all others are as they were. -/
structure LinkGone (m : LinkManager) (t : WifiDirectLinkType) (mac : List UInt8) (m' : LinkManager) : Prop where
  gone : ∀ link ∈ m'.linkLists t, link.hasMac mac = false
  kept : m'.linkLists t = (m.linkLists t).filter (!·.hasMac mac)
  other : m'.linkLists t.other = m.linkLists t.other

theorem sound_final {calls : List LinkCall} (h : Run.final step (some {}) calls = some m) : m.Sound := by
  have hinit : ∀ m ∈ (some {} : Option LinkManager), m.Sound := fun m hm => Option.some.inj hm ▸ sound_init
  have hfinal : ∀ m ∈ Run.final step (some {}) calls, m.Sound := by
    refine Run.inv_final_of_step (I := fun s => ∀ m ∈ s, Sound m) ?_ calls hinit
    intro s c hs m' hm'
    obtain ⟨m₁, hm₁, hcall⟩ := Option.bind_eq_some_iff.mp hm'
    exact (hs m₁ hm₁).call hcall
  exact hfinal m h

theorem Sound.eraseP_hasMac (h : m.Sound) (t : WifiDirectLinkType) (mac : List UInt8) :
    (m.linkLists t).eraseP (·.hasMac mac) = (m.linkLists t).filter (!·.hasMac mac) :=
  FirstMatch.eraseP_eq_filter (fun _ => InnerLink.hasMac_iff) (h.mac t)

theorem getLinkByTypeAndDevice_toInt (m : LinkManager) (t : WifiDirectLinkType) (mac : List UInt8) :
    m.getLinkByTypeAndDevice t.toInt mac = some (((m.linkLists t).find? (·.hasMac mac)).map (t, ·)) := by
  have hlt : ¬linkTypeMax ≤ t.toInt := by cases t <;> decide
  rw [getLinkByTypeAndDevice, if_neg hlt, WifiDirectLinkType.ofInt_eq_some.mpr rfl]

theorem removeLink_gone (h : m.Sound) (htype : link.linkType = some t.toInt) (hmac : link.remoteBaseMac = some mac) :
    ∃ m', m.removeLink link = some m' ∧ m.LinkGone t mac m' := by
  have hlt : ¬linkTypeMax ≤ t.toInt := by cases t <;> decide
  have hgone : ∀ x ∈ (m.linkLists t).filter (!·.hasMac mac), x.hasMac mac = false := by
    intro x hx
    simpa using (List.mem_filter.mp hx).2
  unfold removeLink
  rw [htype, hmac, Option.getD_some, Option.getD_some, if_neg hlt, getLinkByTypeAndDevice_toInt]
  cases hfind : (m.linkLists t).find? (·.hasMac mac) with
  | none =>
    have hall : (m.linkLists t).filter (!·.hasMac mac) = m.linkLists t :=
      List.filter_eq_self.mpr fun x hx => by simpa using List.find?_eq_none.mp hfind x hx
    exact ⟨m, rfl, hall ▸ hgone, hall.symm, rfl⟩
  | some found =>
    have hlist : (m.dropFirst t (·.hasMac mac)).linkLists t = (m.linkLists t).filter (!·.hasMac mac) :=
      linkLists_setList.trans (h.eraseP_hasMac t mac)
    exact ⟨_, rfl, hlist ▸ hgone, hlist, linkLists_setList_other⟩

theorem addLink_disconnected (htype : link.linkType = some t.toInt) (hstate : link.state = some .disconnected)
    (alloc : Bool) : ∃ m', m.addLink link alloc = some m' ∧
      m'.linkLists t = m.linkLists t ++ (if alloc then [link.deepCopy] else []) ∧
      m'.linkLists t.other = m.linkLists t.other := by
  have hlt : ¬linkTypeMax ≤ t.toInt := by cases t <;> decide
  unfold addLink
  rw [htype, Option.getD_some, if_neg hlt]
  cases alloc with
  | false => exact ⟨m, rfl, (List.append_nil _).symm, rfl⟩
  | true =>
    rw [WifiDirectLinkType.ofInt_eq_some.mpr rfl]
    refine ⟨_, rfl, ?_, ?_⟩
    · rw [onInnerLinkChange, if_neg (by simp [hstate])]
      exact linkLists_setList
    · rw [onInnerLinkChange, if_neg (by simp [hstate])]
      exact linkLists_setList_other

theorem notifyLinkChange_disconnected (h : m.Sound) (hstate : link.state = some .disconnected)
    (htype : link.linkType = some t.toInt) (hmac : link.remoteBaseMac = some mac) (hne : mac ≠ []) (alloc : Bool) :
    ∃ m', m.notifyLinkChange link alloc = some m' ∧
      m'.linkLists t = (m.linkLists t).filter (!·.hasMac mac) ++ (if alloc then [link.deepCopy] else []) ∧
      m'.linkLists t.other = m.linkLists t.other := by
  obtain ⟨m₁, hremove, hgone⟩ := removeLink_gone h htype hmac
  have hget : m₁.getLinkByTypeAndDevice t.toInt mac = some none := by
    rw [getLinkByTypeAndDevice_toInt, List.find?_eq_none.mpr fun x hx => by simp [hgone.gone x hx]]
    rfl
  obtain ⟨m₂, hadd, hlist, hother⟩ := addLink_disconnected (m := m₁) htype hstate alloc
  refine ⟨m₂, ?_, by rw [hlist, hgone.kept], hother.trans hgone.other⟩
  unfold notifyLinkChange
  rw [hstate, Option.getD_some, if_pos rfl, hremove, hmac, htype]
  dsimp only [Option.getD_some]
  rw [if_neg hne, hget]
  exact hadd

end LinkManager

/-- In every state that calls lead to, a link that is reported as disconnected is gone afterwards if and
only if there is no memory to add it again. -/
theorem disconnected_link_gone_iff (calls : List LinkCall) (m : LinkManager)
    (hrun : Run.final LinkManager.step (some {}) calls = some m) (t : WifiDirectLinkType) (mac : List UInt8)
    (hne : mac ≠ []) (link : InnerLink) (hstate : link.state = some .disconnected)
    (htype : link.linkType = some t.toInt) (hmac : link.remoteBaseMac = some mac) (alloc : Bool) :
    (∃ m', m.notifyLinkChange link alloc = some m' ∧ m.LinkGone t mac m') ↔ alloc = false := by
  obtain ⟨m', hcall, hlist, hother⟩ := LinkManager.notifyLinkChange_disconnected (LinkManager.sound_final hrun) hstate
    htype hmac hne alloc
  rw [hcall]
  constructor
  · rintro ⟨_, heq, hgone⟩
    cases heq
    by_contra halloc
    have hadded : link.deepCopy ∈ m'.linkLists t := by
      rw [hlist, if_pos (Bool.not_eq_false _ ▸ halloc)]
      exact List.mem_append_right _ List.mem_cons_self
    have hhas : link.deepCopy.hasMac mac = true := by
      rw [InnerLink.hasMac_iff]
      simp [InnerLink.macKey, InnerLink.deepCopy, hmac]
    rw [hgone.gone _ hadded] at hhas
    cases hhas
  · rintro rfl
    have hkept : m'.linkLists t = (m.linkLists t).filter (!·.hasMac mac) := hlist.trans (List.append_nil _)
    refine ⟨m', rfl, ?_, hkept, hother⟩
    rw [hkept]
    intro x hx
    simpa using (List.mem_filter.mp hx).2

theorem disconnected_link_gone_iff_lost_memory :
    ∃ m, Run.final LinkManager.step (some {})
        [.notifyLinkChange { linkType := some 0, state := some .connected, remoteBaseMac := some [97] } true] = some m ∧
      ((∃ m', m.notifyLinkChange
          { linkType := some 0, state := some .disconnected, remoteBaseMac := some [97] } false = some m' ∧
        m.LinkGone .p2p [97] m') ↔ false = false) :=
  have hrun := rfl
  ⟨_, hrun, disconnected_link_gone_iff _ _ hrun .p2p [97] nofun _ rfl rfl rfl false⟩

/-- One link is connected, and then reported as disconnected: it is there again. -/
theorem disconnected_link_comes_back :
    ∃ m m', Run.final LinkManager.step (some {})
        [.notifyLinkChange { linkType := some 0, state := some .connected, remoteBaseMac := some [97] } true] = some m ∧
      m.notifyLinkChange { linkType := some 0, state := some .disconnected, remoteBaseMac := some [97] } true = some m' ∧
      m'.links.map (fun link => (link.state, link.remoteBaseMac)) = [(some .disconnected, some [97])] ∧
      ¬m.LinkGone .p2p [97] m' := by
  refine ⟨_, _, rfl, rfl, by decide, fun h => ?_⟩
  exact absurd (h.gone _ (List.mem_cons_self)) (by decide)

namespace LinkManager

/-! ## The links of the clients -/

/-- The links of a type that connect or belong to a client are left, with all links of other types. -/
def ClientsKept (m : LinkManager) (t : WifiDirectLinkType) (clientDevices : List (List UInt8)) (m' : LinkManager) :
    Prop :=
  m'.linkLists t = (m.linkLists t).filter
      (fun link => link.state.getD .invalid = .connecting || clientDevices.any (link.hasMac ·)) ∧
    m'.linkLists t.other = m.linkLists t.other

theorem refresh_linkLists (t : WifiDirectLinkType) (clientDevices : List (List UInt8)) :
    ∀ (l kept : List InnerLink) {m : LinkManager}, m.linkLists t = kept ++ l →
    (refresh t clientDevices kept l m).linkLists t = kept ++ l.filter
        (fun link => link.state.getD .invalid = .connecting ∨ link.remoteBaseMac.getD [] ∈ clientDevices) ∧
      (refresh t clientDevices kept l m).linkLists t.other = m.linkLists t.other
  | [], kept, m, h => ⟨h, rfl⟩
  | link :: rest, kept, m, h => by
    unfold refresh
    by_cases hkeep : link.state.getD .invalid = .connecting ∨ link.remoteBaseMac.getD [] ∈ clientDevices
    · have hsplit : m.linkLists t = kept ++ [link] ++ rest := by rw [h, List.append_assoc]; rfl
      rw [if_pos hkeep, List.filter_cons_of_pos (by simpa using hkeep)]
      obtain ⟨hlist, hother⟩ := refresh_linkLists t clientDevices rest (kept ++ [link]) hsplit
      exact ⟨by rw [hlist, List.append_assoc]; rfl, hother⟩
    · rw [if_neg hkeep, List.filter_cons_of_neg (by simpa using hkeep)]
      obtain ⟨hlist, hother⟩ := refresh_linkLists t clientDevices rest kept
        (m := { m.setList t (kept ++ rest) with count := m.count - 1 }) linkLists_setList
      exact ⟨hlist, hother.trans linkLists_setList_other⟩

end LinkManager

/-- `RefreshLinks` keeps exactly the live clients if and only if, for every link that does not connect, its
MAC is that of a client just when it is so up to case. -/
theorem refresh_keeps_clients_iff (m : LinkManager) (t : WifiDirectLinkType) (clientDevices : List (List UInt8)) :
    (∃ m', m.refreshLinks t.toInt clientDevices = some m' ∧ m.ClientsKept t clientDevices m') ↔
      ∀ link ∈ m.linkLists t, link.state.getD .invalid ≠ .connecting →
        (link.remoteBaseMac.getD [] ∈ clientDevices ↔ ∃ mac ∈ clientDevices, link.hasMac mac = true) := by
  have hcall : m.refreshLinks t.toInt clientDevices =
      some (LinkManager.refresh t clientDevices [] (m.linkLists t) m) := by
    unfold LinkManager.refreshLinks
    rw [WifiDirectLinkType.ofInt_eq_some.mpr rfl]
  obtain ⟨hlist, hother⟩ := LinkManager.refresh_linkLists t clientDevices (m.linkLists t) [] (m := m) rfl
  rw [hcall]
  have hkept : (∃ m', some (LinkManager.refresh t clientDevices [] (m.linkLists t) m) = some m' ∧
      m.ClientsKept t clientDevices m') ↔ (m.linkLists t).filter
        (fun link => link.state.getD .invalid = .connecting ∨ link.remoteBaseMac.getD [] ∈ clientDevices) =
      (m.linkLists t).filter
        (fun link => link.state.getD .invalid = .connecting || clientDevices.any (link.hasMac ·)) := by
    constructor
    · rintro ⟨_, heq, h, -⟩
      cases heq
      exact hlist.symm.trans h
    · intro h
      exact ⟨_, rfl, hlist.trans h, hother⟩
  rw [hkept, FirstMatch.filter_eq_filter_iff]
  refine forall₂_congr fun link _ => ?_
  by_cases hconnecting : link.state.getD .invalid = .connecting
  · simp [hconnecting]
  · rw [Bool.eq_iff_iff]
    simp [hconnecting]

/-- The client has the MAC of the only link but for the case of a letter; the link goes. -/
theorem refresh_drops_live_client :
    ∃ m m', Run.final LinkManager.step (some {})
        [.notifyLinkChange { linkType := some 0, state := some .connected, remoteBaseMac := some [97, 98] } true] =
          some m ∧
      m.refreshLinks 0 [[65, 98]] = some m' ∧ m'.links = [] ∧ ¬m.ClientsKept .p2p [[65, 98]] m' := by
  refine ⟨_, _, rfl, rfl, by decide, fun h => ?_⟩
  exact absurd h.1 (by decide)

end SoftBus
