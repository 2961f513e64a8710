import SoftBus.DiscManager
import SoftBus.Lib.Run

/-!
# The entries of the discovery manager

A call of the manager sets the entries of one caller in one of the two lists. The lists of the capabilities hold the
subscriptions, each in the list of its capability.
-/

namespace SoftBus

/-! ## A list as a table -/

def itemOf (l : List DiscItem) (packageName : String) : Option DiscItem := l.find? (isItem packageName)

/-- The entries of a package. -/
def entries (l : List DiscItem) (packageName : String) : List DiscInfo :=
  (itemOf l packageName).toList.flatMap DiscItem.infoList

def infosOf (l : List DiscItem) : List DiscInfo := l.flatMap DiscItem.infoList

/-- `infoNum` is right and no id occurs twice. -/
structure DiscItem.Ok (item : DiscItem) : Prop where
  num : item.infoNum = item.infoList.length
  ids : (item.infoList.map (·.id)).Nodup

structure ItemsOk (l : List DiscItem) : Prop where
  names : (l.map DiscItem.packageName).Nodup
  item : ∀ item ∈ l, item.Ok
  short : ∀ item ∈ l, item.packageName.utf8ByteSize < pkgNameSizeMax

/-- The entries of `packageName` become `es`, and those of the other packages stay. -/
structure SetEntries (l : List DiscItem) (packageName : String) (es : List DiscInfo) (l' : List DiscItem) : Prop where
  ok : ItemsOk l'
  lookup : ∀ p, entries l' p = if p = packageName then es else entries l p
  infos : (entries l packageName ++ infosOf l').Perm (es ++ infosOf l)

section
variable {l l' l'' : List DiscItem} {packageName : String} {item : DiscItem} {o : Option DiscItem}
  {es es' : List DiscInfo} {info : DiscInfo}

theorem entries_of_item (h : itemOf l packageName = some item) : entries l packageName = item.infoList := by
  simp [entries, h]

theorem entries_of_none (h : itemOf l packageName = none) : entries l packageName = [] := by
  simp [entries, h]

theorem mem_infosOf_of_entries (h : info ∈ entries l packageName) : info ∈ infosOf l := by
  cases hitem : itemOf l packageName with
  | none => rw [entries_of_none hitem] at h; cases h
  | some item =>
    rw [entries_of_item hitem] at h
    exact List.mem_flatMap.mpr ⟨item, List.mem_of_find?_eq_some hitem, h⟩

theorem SetEntries.refl (h : ItemsOk l) (packageName : String) : SetEntries l packageName (entries l packageName) l where
  ok := h
  lookup p := by split <;> simp_all
  infos := .refl _

theorem SetEntries.trans (h : SetEntries l packageName es l') (h' : SetEntries l' packageName es' l'') :
    SetEntries l packageName es' l'' where
  ok := h'.ok
  lookup p := by
    rw [h'.lookup, h.lookup]
    split <;> rfl
  infos := by
    have hinfos := h.infos
    have hinfos' := h'.infos
    rw [h.lookup, if_pos rfl] at hinfos'
    rw [List.perm_iff_count] at hinfos hinfos' ⊢
    intro x
    have hx := hinfos x
    have hx' := hinfos' x
    rw [List.count_append, List.count_append] at hx hx' ⊢
    omega

theorem SetEntries.same (h : SetEntries l packageName (entries l packageName) l') (p : String) :
    entries l' p = entries l p := by
  rw [h.lookup]
  split
  case isTrue hp => rw [hp]
  case isFalse => rfl

theorem SetEntries.infos_same (h : SetEntries l packageName (entries l packageName) l') :
    (infosOf l').Perm (infosOf l) := (List.perm_append_left_iff _).mp h.infos

theorem SetEntries.infos_add (h : SetEntries l packageName (entries l packageName ++ [info]) l') :
    (infosOf l').Perm (info :: infosOf l) := by
  have hinfos := h.infos
  rw [List.append_assoc] at hinfos
  exact (List.perm_append_left_iff _).mp hinfos

theorem SetEntries.infos_remove {p : DiscInfo → Bool}
    (h : SetEntries l packageName ((entries l packageName).eraseP p) l')
    (hfind : (entries l packageName).find? p = some info) : (infosOf l).Perm (info :: infosOf l') := by
  have hinfos := ((FirstMatch.eraseP_perm hfind).append_right (infosOf l')).symm.trans h.infos
  rw [List.cons_append] at hinfos
  have hmove : (info :: (entries l packageName).eraseP p ++ infosOf l').Perm
      ((entries l packageName).eraseP p ++ info :: infosOf l') := List.perm_middle.symm
  exact ((List.perm_append_left_iff _).mp (hmove.symm.trans hinfos)).symm

/-! ## What the operations do to a list -/

theorem SetEntries.put (h : ItemsOk l) (hitem : itemOf l packageName = some item)
    (ho : ∀ x, o = some x → x.packageName = item.packageName ∧ x.Ok) :
    SetEntries l packageName (o.toList.flatMap DiscItem.infoList) (FirstMatch.put (isItem packageName) o l) := by
  have hname : item.packageName = packageName := by simpa [isItem] using List.find?_some hitem
  have hitemOf : ∀ p, itemOf (FirstMatch.put (isItem packageName) o l) p = if p = packageName then o else itemOf l p := by
    intro p
    rw [← hname]
    rw [← hname] at hitem
    exact FirstMatch.find?_put h.names hitem (fun x hx => (ho x hx).1) p
  have hmem : ∀ x ∈ FirstMatch.put (isItem packageName) o l, x ∈ l ∨ o = some x := by
    obtain ⟨before, after, hl, hput⟩ := FirstMatch.put_split o hitem
    intro x hx
    rw [hput, List.append_assoc, List.mem_append, List.mem_append, Option.mem_toList] at hx
    rcases hx with hx | hx | hx
    · exact .inl (hl ▸ List.mem_append_left _ hx)
    · exact .inr hx
    · exact .inl (hl ▸ List.mem_append_right _ (List.mem_cons_of_mem _ hx))
  have hold := List.mem_of_find?_eq_some hitem
  refine ⟨⟨FirstMatch.nodup_put h.names hitem fun x hx => (ho x hx).1, ?_, ?_⟩, ?_, ?_⟩
  · intro x hx
    rcases hmem x hx with hx | hx
    · exact h.item x hx
    · exact (ho x hx).2
  · intro x hx
    rcases hmem x hx with hx | hx
    · exact h.short x hx
    · rw [(ho x hx).1]
      exact h.short item hold
  · intro p
    rw [entries, hitemOf]
    split <;> rfl
  · rw [entries_of_item hitem]
    exact FirstMatch.flatMap_put_perm (g := DiscItem.infoList) (o := o) hitem

theorem SetEntries.replace (h : ItemsOk l) (hitem : itemOf l packageName = some item) {item' : DiscItem}
    (hok : item'.Ok) (hname : item'.packageName = item.packageName) :
    SetEntries l packageName item'.infoList (FirstMatch.put (isItem packageName) (some item') l) := by
  have hset := SetEntries.put (o := some item') h hitem fun x hx => Option.some.inj hx ▸ ⟨hname, hok⟩
  rwa [Option.toList_some, List.flatMap_singleton] at hset

theorem SetEntries.insert (h : ItemsOk l) (hitem : itemOf l packageName = none)
    (hname : item.packageName = packageName) (hok : item.Ok) (hshort : packageName.utf8ByteSize < pkgNameSizeMax)
    (type : ServiceType) :
    SetEntries l packageName item.infoList (insertItem type item l) := by
  have hperm : (insertItem type item l).Perm (item :: l) := by
    cases type with
    | publish | subscribe => exact List.perm_append_singleton item l
    | publishInner | subscribeInner => exact .refl _
  have hitemOf : ∀ p, itemOf (insertItem type item l) p = if p = packageName then some item else itemOf l p := by
    intro p
    by_cases hp : p = packageName
    · subst hp
      have hnone : l.find? (isItem p) = none := hitem
      cases type <;> simp [insertItem, itemOf, isItem, hname, List.find?_append, hnone]
    · cases type <;> simp [insertItem, itemOf, isItem, hname, List.find?_append, hp, Ne.symm hp]
  refine ⟨⟨?_, ?_, ?_⟩, ?_, ?_⟩
  · rw [(hperm.map _).nodup_iff, List.map_cons, hname]
    refine List.nodup_cons.mpr ⟨fun hmem => ?_, h.names⟩
    obtain ⟨x, hx, hxname⟩ := List.mem_map.mp hmem
    exact List.find?_eq_none.mp hitem x hx (by simpa [isItem] using hxname)
  · intro x hx
    rcases List.mem_cons.mp (hperm.mem_iff.mp hx) with rfl | hx
    · exact hok
    · exact h.item x hx
  · intro x hx
    rcases List.mem_cons.mp (hperm.mem_iff.mp hx) with rfl | hx
    · rwa [hname]
    · exact h.short x hx
  · intro p
    rw [entries, hitemOf]
    split
    · simp
    · rfl
  · rw [entries_of_none hitem]
    exact hperm.flatMap_right DiscItem.infoList

theorem DiscItem.Ok.link (h : item.Ok) (hnew : ∀ x ∈ item.infoList, x.id ≠ info.id) : (item.link info).Ok where
  num := by simp [DiscItem.link, h.num]
  ids := by
    rw [DiscItem.link, List.map_append]
    exact List.nodup_append.mpr ⟨h.ids, List.nodup_singleton _, by simpa using hnew⟩

theorem DiscItem.Ok.unlink (h : item.Ok) {p : DiscInfo → Bool} (hfind : item.infoList.find? p = some info) :
    (item.unlink p).Ok where
  num := by
    have hlen := FirstMatch.length_eraseP_of_find? hfind
    simp only [DiscItem.unlink, h.num]
    omega
  ids := h.ids.sublist (List.eraseP_sublist.map _)

theorem addDiscInfoToList_some (h : ItemsOk l) (hshort : packageName.utf8ByteSize < pkgNameSizeMax) {type : ServiceType}
    (hadd : addDiscInfoToList l packageName info type = some l') :
    SetEntries l packageName (entries l packageName ++ [info]) l' := by
  rw [addDiscInfoToList] at hadd
  split at hadd
  case h_1 item hitem =>
    split at hadd
    case isTrue => cases hadd
    case isFalse hany =>
      obtain rfl := Option.some.inj hadd
      have hnew : ∀ x ∈ item.infoList, x.id ≠ info.id := by simpa using hany
      rw [entries_of_item hitem]
      exact .replace h hitem ((h.item item (List.mem_of_find?_eq_some hitem)).link hnew) rfl
  case h_2 hitem =>
    obtain rfl := Option.some.inj hadd
    have hempty : DiscItem.Ok { packageName } := ⟨rfl, List.nodup_nil⟩
    rw [entries_of_none hitem]
    exact SetEntries.insert h hitem rfl (hempty.link nofun) hshort type

/-- What was added and is unlinked again leaves the entries as they were. -/
theorem SetEntries.unlinkInfo (h : SetEntries l packageName (entries l packageName ++ [info]) l')
    (hnode : ∀ x ∈ entries l packageName, x.node ≠ info.node) :
    SetEntries l packageName (entries l packageName) (unlinkInfo l' packageName info.node) := by
  have hentries : entries l' packageName = entries l packageName ++ [info] := by rw [h.lookup, if_pos rfl]
  rw [SoftBus.unlinkInfo]
  split
  case h_1 hitem =>
    rw [entries_of_none hitem] at hentries
    simp at hentries
  case h_2 item hitem =>
    rw [entries_of_item hitem] at hentries
    have hnone : (entries l packageName).find? (·.node = info.node) = none :=
      List.find?_eq_none.mpr fun x hx => by simpa using hnode x hx
    have hfind : item.infoList.find? (·.node = info.node) = some info := by
      rw [hentries, List.find?_append, hnone]
      simp
    have herase : (item.unlink (·.node = info.node)).infoList = entries l packageName := by
      dsimp only [DiscItem.unlink]
      rw [hentries, List.eraseP_append_right _ fun x hx => by simpa using hnode x hx]
      simp
    have hset := SetEntries.replace h.ok hitem ((h.ok.item item (List.mem_of_find?_eq_some hitem)).unlink hfind) rfl
    rw [herase] at hset
    exact h.trans hset

theorem removeInfoFromList_eq (h : ItemsOk l) (packageName : String) (id : Int) :
    (removeInfoFromList l packageName id).1 = (entries l packageName).find? (·.id = id) ∧
      SetEntries l packageName ((entries l packageName).eraseP (·.id = id)) (removeInfoFromList l packageName id).2 := by
  have hsame := SetEntries.refl h packageName
  rw [removeInfoFromList]
  split
  case h_1 hitem =>
    rw [entries_of_none hitem] at hsame ⊢
    exact ⟨rfl, hsame⟩
  case h_2 item hitem =>
    have hok := h.item item (List.mem_of_find?_eq_some hitem)
    rw [entries_of_item hitem] at hsame ⊢
    split
    case isTrue hzero =>
      have hnil : item.infoList = [] := List.length_eq_zero_iff.mp (hok.num.symm.trans hzero)
      rw [hnil]
      exact ⟨rfl, .put (o := none) h hitem nofun⟩
    case isFalse =>
      split
      case h_1 hfind =>
        rw [List.eraseP_of_forall_not (List.find?_eq_none.mp hfind)]
        exact ⟨hfind.symm, hsame⟩
      case h_2 info hfind =>
        refine ⟨hfind.symm, ?_⟩
        dsimp only
        split
        case isTrue hzero =>
          have hnil : item.infoList.eraseP (·.id = id) = [] :=
            List.length_eq_zero_iff.mp ((hok.unlink hfind).num.symm.trans hzero)
          rw [hnil]
          exact .put (o := none) h hitem nofun
        case isFalse => exact .replace h hitem (hok.unlink hfind) rfl

/-- The first entry of a package is found by its id. -/
theorem removeInfoFromList_first (h : ItemsOk l) (hentries : entries l packageName = info :: es) :
    ∃ l', removeInfoFromList l packageName info.id = (some info, l') ∧ SetEntries l packageName es l' := by
  obtain ⟨hfind, hset⟩ := removeInfoFromList_eq h packageName info.id
  rw [hentries, List.find?_cons_of_pos (by simp)] at hfind
  rw [hentries, List.eraseP_cons_of_pos (by simp)] at hset
  exact ⟨_, Prod.ext hfind rfl, hset⟩

theorem short_of_entries (h : ItemsOk l) (hentries : entries l packageName = info :: es) :
    packageName.utf8ByteSize < pkgNameSizeMax := by
  cases hitem : itemOf l packageName with
  | none =>
    rw [entries_of_none hitem] at hentries
    cases hentries
  | some item =>
    have hname : item.packageName = packageName := by simpa [isItem] using List.find?_some hitem
    rw [← hname]
    exact h.short item (List.mem_of_find?_eq_some hitem)

end

/-! ## The manager -/

/-- The addresses in use differ and are below the next one. -/
structure Fresh (infos : List DiscInfo) (next : Nat) : Prop where
  nodup : (infos.map (·.node)).Nodup
  lt : ∀ info ∈ infos, info.node < next

section
variable {infos infos' : List DiscInfo} {info : DiscInfo} {next next' : Nat}

theorem Fresh.subperm (h : Fresh infos next) (hsub : infos'.Subperm infos) (hnext : next ≤ next') :
    Fresh infos' next' := by
  obtain ⟨l, hperm, hsublist⟩ := hsub
  refine ⟨(hperm.map _).nodup_iff.mp (h.nodup.sublist (hsublist.map _)), fun info hinfo => ?_⟩
  exact Nat.lt_of_lt_of_le (h.lt info (hsublist.subset (hperm.mem_iff.mpr hinfo))) hnext

theorem Fresh.cons (h : Fresh infos next) (hnode : info.node = next) (hperm : infos'.Perm (info :: infos)) :
    Fresh infos' (next + 1) := by
  refine ⟨(hperm.map _).nodup_iff.mpr (List.nodup_cons.mpr ⟨fun hmem => ?_, h.nodup⟩), fun x hx => ?_⟩
  · obtain ⟨x, hx, hxnode⟩ := List.mem_map.mp hmem
    exact Nat.ne_of_lt (h.lt x hx) (hxnode.trans hnode)
  · rcases List.mem_cons.mp (hperm.mem_iff.mp hx) with rfl | hx
    · rw [hnode]
      exact Nat.lt_succ_self _
    · exact Nat.lt_succ_of_lt (h.lt x hx)

theorem Fresh.node_ne (h : Fresh infos next) (hnode : info.node = next) {x : DiscInfo} (hx : x ∈ infos) :
    x.node ≠ info.node := by
  rw [hnode]
  exact Nat.ne_of_lt (h.lt x hx)

end

namespace DiscManager

/-- What the lists promise: each subscription is linked once, in one list of a capability, and no publication is. -/
structure Registered (s : DiscManager) : Prop where
  publish : ItemsOk s.publishInfoList
  discovery : ItemsOk s.discoveryInfoList
  linked : ∀ info ∈ infosOf s.discoveryInfoList, ∃ capability,
    (s.capabilityList capability).count info.node = 1 ∧
      ∀ other ≠ capability, info.node ∉ s.capabilityList other
  unlinked : ∀ info ∈ infosOf s.publishInfoList, ∀ capability, info.node ∉ s.capabilityList capability

structure SameEntries (s s' : DiscManager) : Prop where
  publish : ∀ p, entries s'.publishInfoList p = entries s.publishInfoList p
  discovery : ∀ p, entries s'.discoveryInfoList p = entries s.discoveryInfoList p
  capabilityList : s'.capabilityList = s.capabilityList

def infos (s : DiscManager) : List DiscInfo := infosOf s.publishInfoList ++ infosOf s.discoveryInfoList

structure Live (s : DiscManager) : Prop where
  publish : ItemsOk s.publishInfoList
  discovery : ItemsOk s.discoveryInfoList
  fresh : Fresh s.infos s.next
  bits : ∀ info ∈ infosOf s.discoveryInfoList, info.capability < capabilityMaxBitnum
  linked : ∀ capability, (s.capabilityList capability).Perm
    (((infosOf s.discoveryInfoList).filter (·.capability = capability)).map (·.node))

/-- The lists are kept, and a call that adds an entry and fails leaves no entry behind. -/
def Keeps (s : DiscManager) (result : DiscRet × DiscManager) : Prop :=
  Live result.2 ∧ (result.1 ≠ .ok → SameEntries s result.2)

section
variable {s : DiscManager} {packageName : String} {info : DiscInfo} {l : List DiscItem}

theorem Live.mem_capabilityList (h : Live s) {node capability : Nat} : node ∈ s.capabilityList capability ↔
    ∃ info ∈ infosOf s.discoveryInfoList, info.capability = capability ∧ info.node = node := by
  rw [(h.linked capability).mem_iff, List.mem_map]
  simp only [List.mem_filter, decide_eq_true_eq, and_assoc]

theorem Live.eq_of_node (h : Live s) {info info' : DiscInfo} (hinfo : info ∈ s.infos) (hinfo' : info' ∈ s.infos)
    (hnode : info.node = info'.node) : info = info' := List.inj_on_of_nodup_map h.fresh.nodup hinfo hinfo' hnode

theorem Live.registered (h : Live s) : Registered s where
  publish := h.publish
  discovery := h.discovery
  linked info hinfo := by
    have hmem : info ∈ s.infos := List.mem_append_right _ hinfo
    refine ⟨info.capability, ?_, fun other hother hlisted => ?_⟩
    · rw [(h.linked info.capability).count_eq]
      refine List.count_eq_one_of_mem ?_ (List.mem_map_of_mem (List.mem_filter.mpr ⟨hinfo, decide_eq_true rfl⟩))
      exact h.fresh.nodup.sublist ((List.filter_sublist.trans (List.sublist_append_right _ _)).map _)
    · obtain ⟨info', hinfo', hcap, hnode⟩ := h.mem_capabilityList.mp hlisted
      have heq := h.eq_of_node (List.mem_append_right _ hinfo') hmem hnode
      exact hother (by rw [← hcap, heq])
  unlinked info hinfo capability hlisted := by
    obtain ⟨info', hinfo', -, hnode⟩ := h.mem_capabilityList.mp hlisted
    have hnodes := h.fresh.nodup
    rw [infos, List.map_append] at hnodes
    exact (List.nodup_append.mp hnodes).2.2 _ (List.mem_map_of_mem hinfo) _ (List.mem_map_of_mem hinfo') hnode.symm

theorem Live.init : Live {} where
  publish := ⟨List.nodup_nil, nofun, nofun⟩
  discovery := ⟨List.nodup_nil, nofun, nofun⟩
  fresh := ⟨List.nodup_nil, nofun⟩
  bits := nofun
  linked _ := .refl _

theorem Live.keeps_error (h : Live s) (ret : DiscRet) : Keeps s (ret, s) :=
  ⟨h, fun _ => ⟨fun _ => rfl, fun _ => rfl, rfl⟩⟩

/-! ### Publications -/

theorem Live.setPublish (h : Live s) (hok : ItemsOk l) {next : Nat}
    (hfresh : Fresh (infosOf l ++ infosOf s.discoveryInfoList) next) (calls : List InterfaceCall) :
    Live { s with publishInfoList := l, calls, next } := ⟨hok, h.discovery, hfresh, h.bits, h.linked⟩

theorem Live.setPublish_subperm (h : Live s) (hok : ItemsOk l) (hsub : (infosOf l).Subperm (infosOf s.publishInfoList))
    (calls : List InterfaceCall) {next : Nat} (hnext : s.next ≤ next) :
    Live { s with publishInfoList := l, calls, next } :=
  h.setPublish hok (h.fresh.subperm (hsub.append (.refl _)) hnext) calls

theorem Live.innerPublishService (h : Live s) (hshort : packageName.utf8ByteSize < pkgNameSizeMax)
    (hnode : info.node = s.next) (type : ServiceType) (res : MediaRes) :
    Keeps s (s.innerPublishService packageName info type res) := by
  rw [DiscManager.innerPublishService]
  split
  case h_1 => exact h.keeps_error _
  case h_2 l hadd =>
    have hset := addDiscInfoToList_some h.publish hshort hadd
    dsimp only
    split
    case isTrue hret =>
      refine ⟨h.setPublish hset.ok (h.fresh.cons hnode ?_) _, fun hne => absurd hret hne⟩
      exact hset.infos_add.append_right _
    case isFalse =>
      have hunlink := hset.unlinkInfo fun x hx =>
        h.fresh.node_ne hnode (List.mem_append_left _ (mem_infosOf_of_entries hx))
      exact ⟨h.setPublish_subperm hunlink.ok hunlink.infos_same.subperm _ (Nat.le_succ _),
        fun _ => ⟨hunlink.same, fun _ => rfl, rfl⟩⟩

theorem Live.innerUnPublishService (h : Live s) (packageName : String) (publishId : Int) (res : MediaRes) :
    Live (s.innerUnPublishService packageName publishId res).2 := by
  obtain ⟨hfind, hset⟩ := removeInfoFromList_eq h.publish packageName publishId
  rw [DiscManager.innerUnPublishService]
  split
  case h_1 l hremove =>
    rw [hremove] at hfind hset
    rw [List.eraseP_of_forall_not (List.find?_eq_none.mp hfind.symm)] at hset
    exact h.setPublish_subperm hset.ok hset.infos_same.subperm _ (Nat.le_refl _)
  case h_2 info l hremove =>
    rw [hremove] at hfind hset
    have hsub : (infosOf l).Subperm (infosOf s.publishInfoList) :=
      (List.sublist_cons_self info _).subperm.trans (hset.infos_remove hfind.symm).symm.subperm
    exact h.setPublish_subperm hset.ok hsub _ (Nat.le_refl _)

/-! ### Subscriptions -/

theorem Live.node_notMem_capabilityList (h : Live s) (hnode : info.node = s.next) (capability : Nat) :
    info.node ∉ s.capabilityList capability := by
  intro hmem
  obtain ⟨x, hx, -, hxnode⟩ := h.mem_capabilityList.mp hmem
  exact h.fresh.node_ne hnode (List.mem_append_right _ hx) hxnode

theorem addDiscInfoToCapabilityList_perm (hbit : info.capability < capabilityMaxBitnum) (type : ServiceType)
    (capability : Nat) : (s.addDiscInfoToCapabilityList info type capability).Perm
      (if info.capability = capability then info.node :: s.capabilityList capability else s.capabilityList capability) := by
  rw [addDiscInfoToCapabilityList, if_pos hbit]
  by_cases hcap : info.capability = capability
  · subst hcap
    rw [if_pos rfl, Function.update_self]
    split
    · exact List.perm_append_singleton _ _
    · exact .refl _
  · rw [if_neg hcap, Function.update_of_ne (Ne.symm hcap)]

/-- A link that is taken back leaves the lists as they were. -/
theorem Live.unlink_capabilityList (h : Live s) (hnode : info.node = s.next) (type : ServiceType) (capability : Nat) :
    (s.addDiscInfoToCapabilityList info type capability).filter (· ≠ info.node) = s.capabilityList capability := by
  have hkeep : (s.capabilityList capability).filter (· ≠ info.node) = s.capabilityList capability :=
    List.filter_eq_self.mpr fun x hx => by
      simpa using fun heq : x = info.node => h.node_notMem_capabilityList hnode capability (heq ▸ hx)
  rw [addDiscInfoToCapabilityList]
  split
  case isTrue =>
    by_cases hcap : capability = info.capability
    · subst hcap
      rw [Function.update_self]
      split
      · rw [List.filter_append, hkeep, List.filter_cons_of_neg (by simp), List.filter_nil, List.append_nil]
      · rw [List.filter_cons_of_neg (by simp), hkeep]
    · rw [Function.update_of_ne hcap, hkeep]
  case isFalse => exact hkeep

theorem Live.addDiscovery (h : Live s) (hbit : info.capability < capabilityMaxBitnum) (hnode : info.node = s.next)
    (hok : ItemsOk l) (hinfos : (infosOf l).Perm (info :: infosOf s.discoveryInfoList)) (type : ServiceType)
    (calls : List InterfaceCall) :
    Live { s with
      discoveryInfoList := l, capabilityList := s.addDiscInfoToCapabilityList info type, calls, next := s.next + 1 } where
  publish := h.publish
  discovery := hok
  fresh := h.fresh.cons hnode ((hinfos.append_left _).trans List.perm_middle)
  bits x hx := by
    rcases List.mem_cons.mp (hinfos.mem_iff.mp hx) with rfl | hx
    · exact hbit
    · exact h.bits x hx
  linked capability := by
    refine (addDiscInfoToCapabilityList_perm hbit type capability).trans ?_
    refine List.Perm.trans ?_ ((hinfos.filter _).map _).symm
    rw [List.filter_cons]
    split
    case isTrue hcap =>
      rw [if_pos (decide_eq_true hcap), List.map_cons]
      exact (h.linked capability).cons _
    case isFalse hcap =>
      rw [if_neg (by simpa using hcap)]
      exact h.linked capability

theorem Live.sameDiscovery (h : Live s) (hok : ItemsOk l) (hinfos : (infosOf l).Perm (infosOf s.discoveryInfoList))
    (calls : List InterfaceCall) {next : Nat} (hnext : s.next ≤ next) :
    Live { s with discoveryInfoList := l, calls, next } where
  publish := h.publish
  discovery := hok
  fresh := h.fresh.subperm (hinfos.append_left _).subperm hnext
  bits x hx := h.bits x (hinfos.mem_iff.mp hx)
  linked capability := (h.linked capability).trans ((hinfos.filter _).map _).symm

theorem Live.removeDiscovery (h : Live s) (hok : ItemsOk l)
    (hinfos : (infosOf s.discoveryInfoList).Perm (info :: infosOf l)) (calls : List InterfaceCall) :
    Live { s with
      discoveryInfoList := l, capabilityList := s.removeDiscInfoFromCapabilityList info, calls } where
  publish := h.publish
  discovery := hok
  fresh := h.fresh.subperm (List.Subperm.append (.refl _)
    ((List.sublist_cons_self info _).subperm.trans hinfos.symm.subperm)) (Nat.le_refl _)
  bits x hx := h.bits x (hinfos.mem_iff.mpr (List.mem_cons_of_mem _ hx))
  linked capability := by
    have hnodes : ((info :: infosOf l).map (·.node)).Nodup :=
      (hinfos.map _).nodup_iff.mp (h.fresh.nodup.sublist ((List.sublist_append_right _ _).map _))
    obtain ⟨hnode, -⟩ := List.nodup_cons.mp hnodes
    have hother : ∀ x ∈ infosOf l, x.node ≠ info.node := fun x hx heq => hnode (List.mem_map.mpr ⟨x, hx, heq⟩)
    have hkeep : ((infosOf l).filter (·.capability = capability)).filter (·.node ≠ info.node) =
        (infosOf l).filter (·.capability = capability) :=
      List.filter_eq_self.mpr fun x hx => by simpa using hother x (List.mem_of_mem_filter hx)
    have hgone : ((info :: infosOf l).filter (·.capability = capability)).filter (·.node ≠ info.node) =
        (infosOf l).filter (·.capability = capability) := by
      rw [List.filter_cons]
      split
      · rw [List.filter_cons_of_neg (by simp), hkeep]
      · exact hkeep
    have hperm := ((h.linked capability).trans ((hinfos.filter _).map _)).filter (· ≠ info.node)
    rw [List.filter_map] at hperm
    exact hperm.trans (.of_eq (congrArg (List.map (·.node)) hgone))

theorem Live.innerStartDiscovery (h : Live s) (hshort : packageName.utf8ByteSize < pkgNameSizeMax)
    (hnode : info.node = s.next) (hbit : info.capability < capabilityMaxBitnum) (type : ServiceType) (res : MediaRes) :
    Keeps s (s.innerStartDiscovery packageName info type res) := by
  rw [DiscManager.innerStartDiscovery]
  split
  case h_1 => exact h.keeps_error _
  case h_2 l hadd =>
    have hset := addDiscInfoToList_some h.discovery hshort hadd
    dsimp only
    split
    case isTrue hret =>
      exact ⟨h.addDiscovery hbit hnode hset.ok hset.infos_add type _, fun hne => absurd hret hne⟩
    case isFalse =>
      have hunlink := hset.unlinkInfo fun x hx =>
        h.fresh.node_ne hnode (List.mem_append_right _ (mem_infosOf_of_entries hx))
      have hlists : removeDiscInfoFromCapabilityList { s with
          discoveryInfoList := l
          capabilityList := s.addDiscInfoToCapabilityList info type
          calls := s.calls ++ interfaceCalls info .startDiscovery
          next := s.next + 1 } info = s.capabilityList := funext (h.unlink_capabilityList hnode type)
      rw [hlists]
      exact ⟨h.sameDiscovery hunlink.ok hunlink.infos_same _ (Nat.le_succ _), fun _ => ⟨fun _ => rfl, hunlink.same, rfl⟩⟩

theorem Live.innerStopDiscovery (h : Live s) (packageName : String) (subscribeId : Int) (res : MediaRes) :
    Live (s.innerStopDiscovery packageName subscribeId res).2 := by
  obtain ⟨hfind, hset⟩ := removeInfoFromList_eq h.discovery packageName subscribeId
  rw [DiscManager.innerStopDiscovery]
  split
  case h_1 l hremove =>
    rw [hremove] at hfind hset
    rw [List.eraseP_of_forall_not (List.find?_eq_none.mp hfind.symm)] at hset
    exact h.sameDiscovery hset.ok hset.infos_same _ (Nat.le_refl _)
  case h_2 info l hremove =>
    rw [hremove] at hfind hset
    exact h.removeDiscovery hset.ok (hset.infos_remove hfind.symm) _

theorem Live.innerSetDiscoveryCallback (h : Live s) (hshort : packageName.utf8ByteSize < pkgNameSizeMax) :
    Live (s.innerSetDiscoveryCallback packageName) := by
  rw [DiscManager.innerSetDiscoveryCallback]
  split
  case h_1 => exact h
  case h_2 hitem =>
    have hempty : DiscItem.Ok { packageName } := ⟨rfl, List.nodup_nil⟩
    have hset := SetEntries.insert h.discovery hitem rfl hempty hshort .subscribeInner
    have hinfos := hset.infos
    rw [entries_of_none hitem] at hinfos
    exact h.sameDiscovery hset.ok hinfos s.calls (Nat.le_refl _)

/-! ### The calls -/

theorem createDiscInfo_ok {node : Nat} {service : ServiceInfo} (hcreate : createDiscInfo node service = .ok info) :
    info.node = node ∧ info.capability < capabilityMaxBitnum := by
  rw [createDiscInfo] at hcreate
  split at hcreate
  case h_1 => cases hcreate
  case h_2 =>
    split at hcreate
    case h_1 => cases hcreate
    case h_2 capability hcap =>
      obtain rfl := Except.ok.inj hcreate
      obtain ⟨hlt, -⟩ := List.findIdx?_eq_some_iff_getElem.mp hcap
      exact ⟨rfl, Nat.lt_of_lt_of_le hlt (by decide)⟩

theorem discModuleMap_short (moduleId : DiscModule) : (discModuleMap moduleId).utf8ByteSize < pkgNameSizeMax := by
  cases moduleId <;> decide

theorem Live.keeps_guard (h : Live s) {c : Prop} [Decidable c] (ret : DiscRet) {result : DiscRet × DiscManager}
    (hresult : ¬ c → Keeps s result) : Keeps s (if c then (ret, s) else result) := by
  split
  case isTrue => exact h.keeps_error ret
  case isFalse hc => exact hresult hc

theorem Live.publishAs (h : Live s) (hshort : packageName.utf8ByteSize < pkgNameSizeMax) (service : ServiceInfo)
    (type : ServiceType) (res : MediaRes) : Keeps s (s.publishAs packageName service type res) := by
  rw [DiscManager.publishAs]
  split
  case h_1 err _ => exact h.keeps_error err
  case h_2 info hcreate => exact h.innerPublishService hshort (createDiscInfo_ok hcreate).1 type res

theorem Live.startAs (h : Live s) (hshort : packageName.utf8ByteSize < pkgNameSizeMax) (service : ServiceInfo)
    (type : ServiceType) (res : MediaRes) : Keeps s (s.startAs packageName service type res) := by
  rw [DiscManager.startAs]
  split
  case h_1 err _ => exact h.keeps_error err
  case h_2 info hcreate =>
    obtain ⟨hnode, hbit⟩ := createDiscInfo_ok hcreate
    exact h.innerStartDiscovery hshort hnode hbit type res

theorem Live.discUnPublishService (h : Live s) (packageName : String) (publishId : Int) (res : MediaRes) :
    Live (s.discUnPublishService packageName publishId res).2 := by
  rw [DiscManager.discUnPublishService]
  split
  · exact h
  · exact h.innerUnPublishService packageName publishId res

theorem Live.discStopDiscovery (h : Live s) (packageName : String) (subscribeId : Int) (res : MediaRes) :
    Live (s.discStopDiscovery packageName subscribeId res).2 := by
  rw [DiscManager.discStopDiscovery]
  split
  · exact h
  · exact h.innerStopDiscovery packageName subscribeId res

theorem Live.live_cleanupPublish (h : Live s) (pkgName : String) (ids : List Int) (res : Int → MediaRes) :
    Live (s.cleanupPublish pkgName ids res) := by
  cases ids with
  | nil => exact h
  | cons id ids => exact h.discUnPublishService pkgName id (res id)

theorem Live.live_cleanupDiscovery (pkgName : String) (res : Int → MediaRes) : ∀ (ids : List Int) {s : DiscManager},
    Live s → Live (s.cleanupDiscovery pkgName ids res)
  | [], _, h => h
  | id :: ids, _, h => Live.live_cleanupDiscovery pkgName res ids (h.discStopDiscovery pkgName id (res id))

theorem Live.exec (h : Live s) (event : DiscEvent) :
    Live (s.step event) ∧ (event.adds → (s.exec event).1 ≠ .ok → SameEntries s (s.step event)) := by
  have hkeeps : Keeps s (s.exec event) →
      Live (s.step event) ∧ (event.adds → (s.exec event).1 ≠ .ok → SameEntries s (s.step event)) :=
    fun hkeeps => ⟨hkeeps.1, fun _ => hkeeps.2⟩
  cases event with
  | setDiscoverCallback moduleId => exact ⟨h.innerSetDiscoveryCallback (discModuleMap_short moduleId), nofun⟩
  | publish moduleId service res | startScan moduleId service res =>
    exact hkeeps (h.keeps_guard _ fun _ => h.publishAs (discModuleMap_short moduleId) service _ res)
  | startAdvertise moduleId service res | subscribe moduleId service res =>
    exact hkeeps (h.keeps_guard _ fun _ => h.startAs (discModuleMap_short moduleId) service _ res)
  | publishService packageName service res =>
    exact hkeeps (h.keeps_guard _ fun hshort => h.publishAs (Nat.lt_of_not_le hshort) service _ res)
  | startDiscovery packageName service res =>
    exact hkeeps (h.keeps_guard _ fun hshort => h.startAs (Nat.lt_of_not_le hshort) service _ res)
  | unpublish moduleId publishId res => exact ⟨h.innerUnPublishService _ publishId res, nofun⟩
  | stopAdvertise moduleId subscribeId res => exact ⟨h.innerStopDiscovery _ subscribeId res, nofun⟩
  | unPublishService packageName publishId res => exact ⟨h.discUnPublishService packageName publishId res, nofun⟩
  | stopDiscovery packageName subscribeId res => exact ⟨h.discStopDiscovery packageName subscribeId res, nofun⟩
  | death pkgName unpublishRes stopRes =>
    exact ⟨.live_cleanupDiscovery pkgName stopRes _ (h.live_cleanupPublish pkgName _ unpublishRes), nofun⟩

/-! ### The death of a package -/

/-- Nothing of the package is left, each of its entries was stopped on its media once, and all others stay. -/
structure CleanedUp (s : DiscManager) (pkgName : String) (s' : DiscManager) : Prop where
  publish : entries s'.publishInfoList pkgName = []
  discovery : entries s'.discoveryInfoList pkgName = []
  stopped : s'.calls = s.calls ++ (entries s.publishInfoList pkgName).flatMap (interfaceCalls · .unpublish) ++
    (entries s.discoveryInfoList pkgName).flatMap (interfaceCalls · .stopDiscovery)
  otherPublish : ∀ p ≠ pkgName, entries s'.publishInfoList p = entries s.publishInfoList p
  otherDiscovery : ∀ p ≠ pkgName, entries s'.discoveryInfoList p = entries s.discoveryInfoList p

theorem idsByPackageName_eq (h : ItemsOk l) (pkgName : String) :
    idsByPackageName l pkgName = (entries l pkgName).map (·.id) := by
  rw [idsByPackageName, show l.filter (isItem pkgName) = (itemOf l pkgName).toList from FirstMatch.filter_key _ h.names,
    entries, List.map_flatMap]

theorem Live.discUnPublishService_first (h : Live s) {es : List DiscInfo}
    (hentries : entries s.publishInfoList packageName = info :: es) (res : MediaRes) :
    SetEntries s.publishInfoList packageName es (s.discUnPublishService packageName info.id res).2.publishInfoList ∧
      (s.discUnPublishService packageName info.id res).2.discoveryInfoList = s.discoveryInfoList ∧
      (s.discUnPublishService packageName info.id res).2.calls = s.calls ++ interfaceCalls info .unpublish := by
  obtain ⟨l, hremove, hset⟩ := removeInfoFromList_first h.publish hentries
  rw [DiscManager.discUnPublishService, if_neg (Nat.not_le.mpr (short_of_entries h.publish hentries)),
    DiscManager.innerUnPublishService, hremove]
  exact ⟨hset, rfl, rfl⟩

theorem Live.discStopDiscovery_first (h : Live s) {es : List DiscInfo}
    (hentries : entries s.discoveryInfoList packageName = info :: es) (res : MediaRes) :
    SetEntries s.discoveryInfoList packageName es (s.discStopDiscovery packageName info.id res).2.discoveryInfoList ∧
      (s.discStopDiscovery packageName info.id res).2.publishInfoList = s.publishInfoList ∧
      (s.discStopDiscovery packageName info.id res).2.calls = s.calls ++ interfaceCalls info .stopDiscovery := by
  obtain ⟨l, hremove, hset⟩ := removeInfoFromList_first h.discovery hentries
  rw [DiscManager.discStopDiscovery, if_neg (Nat.not_le.mpr (short_of_entries h.discovery hentries)),
    DiscManager.innerStopDiscovery, hremove]
  exact ⟨hset, rfl, rfl⟩

/-- All subscriptions of the package go. -/
theorem Live.cleanupDiscovery (packageName : String) (res : Int → MediaRes) : ∀ (es : List DiscInfo) {s : DiscManager},
    Live s → entries s.discoveryInfoList packageName = es →
      SetEntries s.discoveryInfoList packageName []
        (s.cleanupDiscovery packageName (es.map (·.id)) res).discoveryInfoList ∧
      (s.cleanupDiscovery packageName (es.map (·.id)) res).publishInfoList = s.publishInfoList ∧
      (s.cleanupDiscovery packageName (es.map (·.id)) res).calls = s.calls ++ es.flatMap (interfaceCalls · .stopDiscovery)
  | [], s, h, hentries => by
    have hset := SetEntries.refl h.discovery packageName
    rw [hentries] at hset
    exact ⟨hset, rfl, (List.append_nil _).symm⟩
  | info :: es, s, h, hentries => by
    obtain ⟨hset, hpublish, hcalls⟩ := h.discStopDiscovery_first hentries (res info.id)
    have hentries' : entries (s.discStopDiscovery packageName info.id (res info.id)).2.discoveryInfoList packageName =
        es := by rw [hset.lookup, if_pos rfl]
    obtain ⟨hset', hpublish', hcalls'⟩ :=
      Live.cleanupDiscovery packageName res es (h.discStopDiscovery packageName info.id (res info.id)) hentries'
    refine ⟨hset.trans hset', hpublish'.trans hpublish, hcalls'.trans ?_⟩
    rw [hcalls, List.flatMap_cons, List.append_assoc]

/-- Of the publications only the first goes. -/
theorem Live.cleanupPublish (h : Live s) (packageName : String) (res : Int → MediaRes) {es : List DiscInfo}
    (hentries : entries s.publishInfoList packageName = es) :
    SetEntries s.publishInfoList packageName es.tail
        (s.cleanupPublish packageName (es.map (·.id)) res).publishInfoList ∧
      (s.cleanupPublish packageName (es.map (·.id)) res).discoveryInfoList = s.discoveryInfoList ∧
      (s.cleanupPublish packageName (es.map (·.id)) res).calls =
        s.calls ++ (es.take 1).flatMap (interfaceCalls · .unpublish) := by
  cases es with
  | nil =>
    have hset := SetEntries.refl h.publish packageName
    rw [hentries] at hset
    exact ⟨hset, rfl, (List.append_nil _).symm⟩
  | cons info es =>
    obtain ⟨hset, hdiscovery, hcalls⟩ := h.discUnPublishService_first hentries (res info.id)
    refine ⟨hset, hdiscovery, hcalls.trans ?_⟩
    rw [List.take_succ_cons, List.take_zero, List.flatMap_cons, List.flatMap_nil, List.append_nil]

theorem Live.cleanedUp_iff (h : Live s) (pkgName : String) (unpublishRes stopRes : Int → MediaRes) :
    CleanedUp s pkgName (s.discMgrDeathCallback pkgName unpublishRes stopRes) ↔
      (entries s.publishInfoList pkgName).length ≤ 1 := by
  obtain ⟨hset, hdiscovery, hcalls⟩ := h.cleanupPublish pkgName unpublishRes rfl
  have hlive := h.live_cleanupPublish pkgName ((entries s.publishInfoList pkgName).map (·.id)) unpublishRes
  rw [discMgrDeathCallback, idsByPackageName_eq h.publish]
  generalize s.cleanupPublish pkgName ((entries s.publishInfoList pkgName).map (·.id)) unpublishRes = s₁
    at hset hdiscovery hcalls hlive ⊢
  rw [idsByPackageName_eq hlive.discovery]
  obtain ⟨hset', hpublish, hcalls'⟩ := Live.cleanupDiscovery pkgName stopRes _ hlive rfl
  rw [hdiscovery] at hset' hpublish hcalls' ⊢
  have hleft : entries s₁.publishInfoList pkgName = (entries s.publishInfoList pkgName).tail := by
    rw [hset.lookup, if_pos rfl]
  constructor
  · intro hclean
    have hnil := hclean.publish
    rw [hpublish, hleft] at hnil
    have hlen := congrArg List.length hnil
    rw [List.length_tail, List.length_nil] at hlen
    omega
  · intro hlen
    constructor
    case publish =>
      rw [hpublish, hleft]
      exact List.length_eq_zero_iff.mp (by rw [List.length_tail]; omega)
    case discovery => rw [hset'.lookup, if_pos rfl]
    case stopped => rw [hcalls', hcalls, List.take_of_length_le hlen]
    case otherPublish => exact fun p hp => by rw [hpublish, hset.lookup, if_neg hp]
    case otherDiscovery => exact fun p hp => by rw [hset'.lookup, if_neg hp]

end

/-- Whatever is called and whatever the media return, the lists are right and a call that fails to add an entry leaves
none behind. The death of a package cleans up after it exactly if the package has at most one publication. -/
theorem registry_kept_and_cleaned_up_iff (events : List DiscEvent) (pkgName : String)
    (unpublishRes stopRes : Int → MediaRes) :
    Run.Always step (fun s event => Registered (s.step event) ∧
        (event.adds → (s.exec event).1 ≠ .ok → SameEntries s (s.step event))) {} events ∧
      (CleanedUp (Run.final step {} events) pkgName
          ((Run.final step {} events).discMgrDeathCallback pkgName unpublishRes stopRes) ↔
        (entries (Run.final step {} events).publishInfoList pkgName).length ≤ 1) := by
  constructor
  · exact Run.always_of_inv (P := fun _ _ => True) (I := Live)
      (fun s event h _ => ⟨(h.exec event).1, (h.exec event).1.registered, (h.exec event).2⟩) events .init
      (Run.always_of_forall fun _ _ _ => trivial)
  · have hlive : Live (Run.final step {} events) :=
      Run.inv_final_of_step (fun s event h => (h.exec event).1) events .init
    exact hlive.cleanedUp_iff pkgName unpublishRes stopRes

/-- A package that dies with two publications leaves one behind. -/
theorem second_publication_left :
    (entries (discMgrDeathCallback (Run.final step {}
        [.publishService "pkg" ⟨1, 0xAA, 1, 0, "castPlus", none, 0⟩ ⟨0, 0⟩,
          .publishService "pkg" ⟨2, 0xAA, 1, 0, "dvKit", none, 0⟩ ⟨0, 0⟩])
      "pkg" (fun _ => ⟨0, 0⟩) (fun _ => ⟨0, 0⟩)).publishInfoList "pkg").map (·.id) = [2] := by
  decide +kernel

end DiscManager

end SoftBus
