import SoftBus.DFileHeaderLoop

/-!
# What the header exchange leaves behind

A header frame is the concatenation of units (`encodeUnits_spec`), and the
decoder reads it unit by unit (`decodeUnits_spec`). It refuses a frame that ends
with a unit of twelve bytes, which the unit of empty user data is.
-/

namespace SoftBus

/-! ## Units -/

namespace DFileSendList

structure Valid (liteos : Bool) (l : DFileSendList) : Prop where
  num : 1 ≤ l.list.length ∧ l.list.length ≤ nstackxDfileMaxFileNum liteos
  name : ∀ e ∈ l.list, 1 ≤ e.name.length ∧ e.name.length ≤ 1023
  size : ∀ e ∈ l.list, e.size < 2 ^ 64
  tar : l.tarTotalBlockLength < 2 ^ 64
  userData : ∀ u ∈ l.userData, u.length ≤ 1024
  pathType : l.pathType < 65536

section
variable {liteos : Bool} {l : DFileSendList}

theorem Valid.fileNum_bounds (h : l.Valid liteos) :
    1 ≤ l.fileNum ∧ l.fileNum ≤ l.list.length ∧ l.list.length ≤ 500 := by
  have := h.num
  have hmax : nstackxDfileMaxFileNum liteos ≤ 500 := by cases liteos <;> decide
  unfold fileNum
  split <;> omega

theorem Valid.getElem (h : l.Valid liteos) {fileId : Nat} (hle : fileId ≤ l.fileNum) :
    ∃ e ∈ l.list, l.list[fileId - 1]? = some e := by
  have := h.fileNum_bounds
  exact ⟨l.list[fileId - 1], List.getElem_mem _, List.getElem?_eq_getElem (by omega)⟩

theorem Valid.fileName_length (h : l.Valid liteos) {fileId : Nat} (hle : fileId ≤ l.fileNum) :
    (l.fileName fileId).length ≤ 1026 ∧ (fileId ≠ 0 → 1 ≤ (l.fileName fileId).length ∧ (l.fileName fileId).length ≤ 1023) := by
  by_cases hid : fileId = 0
  · refine ⟨?_, fun h => absurd hid h⟩
    have hdata : (l.userData.getD []).length ≤ 1024 := by
      cases hu : l.userData with
      | none => simp
      | some u => exact h.userData u hu
    rw [hid, fileName, if_pos rfl, packedUserData]
    split
    · simp
      omega
    · simp
      omega
  · obtain ⟨e, he, hget⟩ := h.getElem hle
    have := h.name e he
    rw [fileName, if_neg hid, hget]
    simp
    omega

theorem Valid.fileNameLen_eq (h : l.Valid liteos) {fileId : Nat} (hle : fileId ≤ l.fileNum) :
    l.fileNameLen fileId = (l.fileName fileId).length := by
  have := (h.fileName_length hle).1
  exact Nat.mod_eq_of_lt (by omega)

theorem Valid.fileSize_lt (h : l.Valid liteos) {fileId : Nat} (hle : fileId ≤ l.fileNum) :
    l.fileSize fileId < 256 ^ 8 := by
  unfold fileSize
  split
  · decide
  · split
    · exact h.tar
    · obtain ⟨e, he, hget⟩ := h.getElem hle
      rw [hget]
      exact h.size e he

def unitBytes (l : DFileSendList) (fileId : Nat) : List UInt8 :=
  Bytes.putBig 2 fileId ++ (Bytes.putBig 8 (l.fileSize fileId) ++
      (Bytes.putBig 2 (l.fileName fileId).length ++ l.fileName fileId))

@[simp] theorem length_unitBytes (l : DFileSendList) (fileId : Nat) :
    (l.unitBytes fileId).length = 12 + (l.fileName fileId).length := by
  simp [unitBytes]
  omega

theorem Valid.unit_eq (h : l.Valid liteos) {fileId : Nat} (hle : fileId ≤ l.fileNum) :
    l.unit fileId = l.unitBytes fileId := by
  rw [unit, unitBytes, h.fileNameLen_eq hle, List.take_length]

theorem Valid.encodeUnits_spec (h : l.Valid liteos) (acked : Nat → Bool) (left next room : Nat)
    (hleft : next + left ≤ l.fileNum + 1) :
    ∃ ids : List Nat, (l.encodeUnits acked left next room).1 = ids.map l.unitBytes ∧
      (∀ id ∈ ids, id ≤ l.fileNum ∧ (id = 0 → l.hasUserData)) ∧ (ids.flatMap l.unitBytes).length ≤ room := by
  obtain ⟨henc, hle⟩ := @encodeUnits_encoded l acked left next room
  have hids : ∀ id ∈ (List.range' next ((l.encodeUnits acked left next room).2 - next)).filter (l.needed acked),
      id ≤ l.fileNum ∧ (id = 0 → l.hasUserData) := by
    intro id hid
    obtain ⟨hmem, hneeded⟩ := List.mem_filter.mp hid
    have := List.mem_range'_1.mp hmem
    refine ⟨by omega, ?_⟩
    rintro rfl
    simp [needed] at hneeded
    exact hneeded.2
  have hunits := henc.units_eq.trans (List.map_congr_left fun id hid => h.unit_eq (hids id hid).1)
  refine ⟨_, hunits, hids, ?_⟩
  rw [List.flatMap_def, ← hunits]
  exact henc.room

def UnitsOk (units : List (List UInt8)) : Prop :=
  (∀ unit ∈ units.getLast?, fileInfoUnitLen < unit.length) ∧ ∀ unit ∈ units, Bytes.readBig 8 (unit.drop 2) ≤ nstackxMaxFileSize

theorem unitsOk_cons {unit : List UInt8} {units : List (List UInt8)} :
    UnitsOk (unit :: units) ↔
      ((units = [] → fileInfoUnitLen < unit.length) ∧ Bytes.readBig 8 (unit.drop 2) ≤ nstackxMaxFileSize) ∧ UnitsOk units := by
  unfold UnitsOk
  cases units with
  | nil => simp
  | cons next units =>
    rw [List.getLast?_cons_cons, List.forall_mem_cons]
    simp
    tauto

section
variable {fileId : Nat} (rest : List UInt8)

theorem Valid.readBig_id (h : l.Valid liteos) (hle : fileId ≤ l.fileNum) :
    Bytes.readBig 2 (l.unitBytes fileId ++ rest) = fileId := by
  have := h.fileNum_bounds
  rw [unitBytes, List.append_assoc, Bytes.readBig_putBig_append (by omega)]

theorem Valid.readBig_size (h : l.Valid liteos) (hle : fileId ≤ l.fileNum) :
    Bytes.readBig 8 ((l.unitBytes fileId ++ rest).drop 2) = l.fileSize fileId := by
  rw [unitBytes, List.append_assoc, Bytes.drop_putBig_append, List.append_assoc,
      Bytes.readBig_putBig_append (h.fileSize_lt hle)]

theorem Valid.readBig_length (h : l.Valid liteos) (hle : fileId ≤ l.fileNum) :
    DFileRecvList.decodeUnit.fileNameLength (l.unitBytes fileId ++ rest) = (l.fileName fileId).length := by
  have := (h.fileName_length hle).1
  rw [DFileRecvList.decodeUnit.fileNameLength, unitBytes, List.append_assoc, Bytes.drop_putBig_append_add 2 _ 8,
      List.append_assoc,
    Bytes.drop_putBig_append, List.append_assoc, Bytes.readBig_putBig_append (by omega)]

theorem take_name : ((l.unitBytes fileId ++ rest).drop 12).take (l.fileName fileId).length = l.fileName fileId := by
  rw [unitBytes, List.append_assoc, Bytes.drop_putBig_append_add 2 _ 10, List.append_assoc, Bytes.drop_putBig_append_add 8 _ 2,
    List.append_assoc, Bytes.drop_putBig_append, List.take_left]

theorem drop_unitBytes : (l.unitBytes fileId ++ rest).drop (fileInfoUnitLen + (l.fileName fileId).length) = rest :=
  List.drop_left' (length_unitBytes l fileId)

end

theorem flag_userData (l : DFileSendList) : l.flag &&& userDataFlagBit = 0 ↔ l.userData = none := by
  unfold flag
  cases l.userData <;> by_cases hp : 0 < l.pathType <;> cases l.noSyncFlag <;> simp [hp] <;> decide

theorem flag_pathType (l : DFileSendList) : l.flag &&& pathTypeFlagBit = 0 ↔ l.pathType = 0 := by
  have hpos : ¬ 0 < l.pathType ↔ l.pathType = 0 := by omega
  rw [← hpos]
  unfold flag
  cases l.userData <;> by_cases hp : 0 < l.pathType <;> cases l.noSyncFlag <;> simp [hp] <;> decide

end

end DFileSendList

/-! ## What the receiver has -/

namespace DFileRecvList

def Has (r : DFileRecvList) (fileId : Nat) : Prop :=
  if fileId = 0 then r.userDataReceived = true else r.fileListGetFileNameReceived fileId = true

structure Agrees (l : DFileSendList) (r : DFileRecvList) : Prop where
  num : ∀ list ∈ r.list, list.length = l.fileNum
  entry : ∀ list ∈ r.list, ∀ (i : Nat) (e : DFileEntry), list[i]? = some (some e) → e = ⟨l.fileName (i + 1), l.fileSize (i + 1)⟩
  userData : r.userDataReceived = true → r.userData = l.userData ∧ r.pathType = l.pathType
  untouched : r.userDataReceived = false → r.userData = none ∧ r.pathType = 0

structure Grows (l : DFileSendList) (r r' : DFileRecvList) : Prop where
  agrees : Agrees l r'
  list : r'.list.isSome
  has : ∀ id, r.Has id → r'.Has id

section
variable {liteos : Bool} {l : DFileSendList} {r : DFileRecvList}

theorem Agrees.fileListAddUserData (h : Agrees l r) (hl : l.Valid liteos) (hlist : r.list.isSome)
    (hdata : l.hasUserData) :
    ∃ r', r.fileListAddUserData (l.fileName 0) l.flag = some r' ∧ Grows l r r' := by
  unfold DFileRecvList.fileListAddUserData
  by_cases hrecv : r.userDataReceived
  · rw [if_pos hrecv]
    exact ⟨r, rfl, h, hlist, fun _ h => h⟩
  rw [if_neg hrecv]
  have hrecv := Bool.eq_false_iff.mpr hrecv
  obtain ⟨hnone, hzero⟩ := h.untouched hrecv
  have hgrows : ∀ u p, u = l.userData → p = l.pathType →
      Grows l r { r with userData := u, pathType := p, userDataReceived := true } := by
    intro u p hu hp
    refine ⟨⟨h.num, h.entry, fun _ => ⟨hu, hp⟩, fun h => absurd h (by simp)⟩, hlist, fun id hid => ?_⟩
    unfold Has at hid ⊢
    split at hid
    · rw [if_pos (by assumption)]
    · rw [if_neg (by assumption)]
      exact hid
  by_cases hpath : l.pathType = 0
  · rw [if_neg (not_not.mpr (l.flag_pathType.mpr hpath))]
    have hpacked : l.packedUserData = none := by simp [DFileSendList.packedUserData, hpath]
    cases hu : l.userData with
    | none => simp [DFileSendList.hasUserData, hu, hpacked] at hdata
    | some u =>
      rw [if_pos (by rw [ne_eq, l.flag_userData, hu]; simp)]
      refine ⟨_, rfl, ?_⟩
      have hname : l.fileName 0 = u := by simp [DFileSendList.fileName, hpacked, hu]
      rw [hname]
      exact hgrows (some u) r.pathType hu.symm (hzero.trans hpath.symm)
  · rw [if_pos (by rw [ne_eq, l.flag_pathType]; exact hpath)]
    refine ⟨_, rfl, ?_⟩
    have hname : l.fileName 0 = Bytes.put 2 l.pathType ++ l.userData.getD [] := by
      simp [DFileSendList.fileName, DFileSendList.packedUserData, Nat.pos_of_ne_zero hpath]
    have hlen : ¬ (l.fileName 0).length < 2 := by
      rw [hname, List.length_append, Bytes.length_put]
      omega
    have hread : Bytes.read 2 (l.fileName 0) = l.pathType := by
      rw [hname, Bytes.read_put_append hl.pathType]
    have hrest : (l.fileName 0).drop 2 = l.userData.getD [] := by rw [hname, Bytes.drop_put_append]
    rw [parsePackedDFileUserData, if_neg hlen, hread, hrest]
    cases hu : l.userData with
    | none =>
      rw [if_pos (.inr (l.flag_userData.mpr hu))]
      exact hgrows r.userData l.pathType (hnone.trans hu.symm) rfl
    | some u =>
      rw [if_neg (by rw [l.flag_userData, hu]; simp [hpath])]
      exact hgrows (some u) l.pathType hu.symm rfl

theorem Agrees.fileListAddFile (h : Agrees l r) (hl : l.Valid liteos) (hlist : r.list.isSome) {fileId : Nat}
    (hid : fileId ≠ 0) (hle : fileId ≤ l.fileNum) :
    (∃ r', r.fileListAddFile fileId (l.fileName fileId) (l.fileSize fileId) = some r' ∧ Grows l r r' ∧
      l.fileSize fileId ≤ nstackxMaxFileSize) ∨
    r.fileListAddFile fileId (l.fileName fileId) (l.fileSize fileId) = none ∧ nstackxMaxFileSize < l.fileSize fileId := by
  obtain ⟨list, hr⟩ := Option.isSome_iff_exists.mp hlist
  have hnum := h.num list hr
  have hname := (hl.fileName_length hle).2 hid
  unfold DFileRecvList.fileListAddFile
  rw [hr]
  dsimp only
  rw [if_neg (by omega), if_neg (by unfold nstackxMaxRemotePathLen; omega)]
  by_cases hsize : nstackxMaxFileSize < l.fileSize fileId
  · rw [if_pos hsize]
    exact .inr ⟨rfl, hsize⟩
  rw [if_neg hsize]
  refine .inl ?_
  split
  · exact ⟨r, rfl, ⟨h, hlist, fun _ h => h⟩, by omega⟩
  refine ⟨_, rfl, ⟨⟨?_, ?_, h.userData, h.untouched⟩, rfl, ?_⟩, by omega⟩
  · rintro _ ⟨⟩
    rw [List.length_set, hnum]
  · rintro _ ⟨⟩ i e hget
    rw [List.getElem?_set] at hget
    split at hget
    · rename_i heq
      split at hget
      · cases hget
        have : fileId = i + 1 := by omega
        rw [this]
      · cases hget
    · exact h.entry list hr i e hget
  · intro id hhas
    unfold Has at hhas ⊢
    split at hhas
    · rw [if_pos (by assumption)]
      exact hhas
    · rw [if_neg (by assumption)]
      unfold fileListGetFileNameReceived at hhas ⊢
      rw [hr] at hhas
      simp only [Option.getD_some] at hhas ⊢
      rw [List.getElem?_set]
      split
      · rw [if_pos (by omega)]
        rfl
      · exact hhas

theorem Agrees.decodeUnit (h : Agrees l r) (hl : l.Valid liteos) (hlist : r.list.isSome) {fileId : Nat}
    (hle : fileId ≤ l.fileNum) (hdata : fileId = 0 → l.hasUserData) (rest : List UInt8) :
    (∃ r', r.decodeUnit l.flag (l.unitBytes fileId ++ rest) = some r' ∧ Grows l r r' ∧
      (rest = [] → fileInfoUnitLen < (l.unitBytes fileId).length) ∧ l.fileSize fileId ≤ nstackxMaxFileSize) ∨
    r.decodeUnit l.flag (l.unitBytes fileId ++ rest) = none ∧
      ¬ ((rest = [] → fileInfoUnitLen < (l.unitBytes fileId).length) ∧ l.fileSize fileId ≤ nstackxMaxFileSize) := by
  have hlen : (l.unitBytes fileId ++ rest).length = fileInfoUnitLen + (l.fileName fileId).length + rest.length := by
    rw [List.length_append, DFileSendList.length_unitBytes]
    rfl
  unfold DFileRecvList.decodeUnit
  rw [hl.readBig_id rest hle, hl.readBig_size rest hle, hl.readBig_length rest hle, DFileSendList.take_name, hlen]
  by_cases hshort : fileInfoUnitLen + (l.fileName fileId).length + rest.length ≤ fileInfoUnitLen
  · rw [if_pos hshort]
    refine .inr ⟨rfl, fun hok => ?_⟩
    have := hok.1 (List.eq_nil_of_length_eq_zero (by omega))
    rw [DFileSendList.length_unitBytes] at this
    unfold fileInfoUnitLen at *
    omega
  have hlong : rest = [] → fileInfoUnitLen < (l.unitBytes fileId).length := by
    rintro rfl
    rw [DFileSendList.length_unitBytes]
    rw [List.length_nil] at hshort
    unfold fileInfoUnitLen at *
    omega
  rw [if_neg hshort]
  by_cases hid : fileId = 0
  · obtain ⟨r', hadd, hgrows⟩ := h.fileListAddUserData hl hlist (hdata hid)
    have hflag : ¬ (fileId = 0 ∧ l.flag &&& userDataFlagBit = 0 ∧ l.flag &&& pathTypeFlagBit = 0) := by
      rw [l.flag_userData, l.flag_pathType]
      rintro ⟨_, hnone, hzero⟩
      simp [DFileSendList.hasUserData, DFileSendList.packedUserData, hnone, hzero] at hdata
      exact hdata hid
    rw [if_neg hflag, if_neg (by omega), if_pos hid, hid, hadd]
    exact .inl ⟨r', rfl, hgrows, hid ▸ hlong, Nat.zero_le _⟩
  · have := (hl.fileName_length hle).2 hid
    rw [if_neg (fun h => hid h.1), if_neg (by omega), if_neg hid]
    rcases h.fileListAddFile hl hlist hid hle with ⟨r', hadd, hgrows, hsize⟩ | ⟨hadd, hsize⟩
    · exact .inl ⟨r', hadd, hgrows, hlong, hsize⟩
    · exact .inr ⟨hadd, fun hok => by omega⟩

theorem Agrees.decodeUnits (hl : l.Valid liteos) :
    ∀ (fuel : Nat) {ids : List Nat} {r : DFileRecvList}, Agrees l r → r.list.isSome →
    (ids.flatMap l.unitBytes).length ≤ fuel → (∀ id ∈ ids, id ≤ l.fileNum ∧ (id = 0 → l.hasUserData)) →
    Grows l r (DFileRecvList.decodeUnits l.flag fuel (ids.flatMap l.unitBytes) r).1 ∧
      ((DFileRecvList.decodeUnits l.flag fuel (ids.flatMap l.unitBytes) r).2 = true ↔
        DFileSendList.UnitsOk (ids.map l.unitBytes))
  | fuel, [], r, h, hlist, _, _ => by
    have : DFileRecvList.decodeUnits l.flag fuel [] r = (r, true) := by cases fuel <;> rfl
    rw [List.flatMap_nil, this]
    exact ⟨⟨h, hlist, fun _ h => h⟩, by simp [DFileSendList.UnitsOk]⟩
  | 0, id :: ids, r, _, _, hfuel, _ => by
    rw [List.flatMap_cons, List.length_append, DFileSendList.length_unitBytes] at hfuel
    omega
  | fuel + 1, id :: ids, r, h, hlist, hfuel, hids => by
    have hid := hids id (by simp)
    have hne : ¬ (l.unitBytes id ++ ids.flatMap l.unitBytes = []) := by
      intro hnil
      have := congrArg List.length hnil
      simp at this
    have hsize := hl.readBig_size [] hid.1
    have hrest : ids.flatMap l.unitBytes = [] ↔ ids.map l.unitBytes = [] := by
      cases ids with
      | nil => simp
      | cons next ids =>
        refine iff_of_false (fun hnil => ?_) (by simp)
        have := congrArg List.length hnil
        simp at this
    rw [List.append_nil] at hsize
    rw [List.flatMap_cons, List.map_cons, DFileSendList.unitsOk_cons, hsize, ← hrest, DFileRecvList.decodeUnits, if_neg hne]
    rw [List.flatMap_cons, List.length_append, DFileSendList.length_unitBytes] at hfuel
    rcases h.decodeUnit hl hlist hid.1 hid.2 (ids.flatMap l.unitBytes) with ⟨r', hdec, hgrows, hok⟩ | ⟨hdec, hbad⟩
    · rw [hdec]
      dsimp only
      rw [hl.readBig_length _ hid.1, DFileSendList.drop_unitBytes]
      obtain ⟨hgrows', hiff⟩ := Agrees.decodeUnits hl fuel hgrows.agrees hgrows.list (by omega)
        (fun id hmem => hids id (List.mem_cons_of_mem _ hmem))
      exact ⟨⟨hgrows'.agrees, hgrows'.list, fun id hhas => hgrows'.has id (hgrows.has id hhas)⟩,
        by rw [hiff, and_iff_right hok]⟩
    · rw [hdec]
      exact ⟨⟨h, hlist, fun _ h => h⟩, iff_of_false (by simp) fun hok => hbad hok.1⟩

def FrameOf (l : DFileSendList) (frame : FileHeaderFrame) (ids : List Nat) : Prop :=
  frame = DFileSendList.encodeFileHeaderFrame.frameOf l (ids.map l.unitBytes) ∧
    (∀ id ∈ ids, id ≤ l.fileNum ∧ (id = 0 → l.hasUserData)) ∧ (ids.flatMap l.unitBytes).length < 65534

theorem Agrees.fileListSetNum (h : Agrees l r) (hl : l.Valid liteos) :
    ∃ r', r.fileListSetNum liteos (l.fileNum % 65536) = some r' ∧ Grows l r r' := by
  have := hl.fileNum_bounds
  have := hl.num
  rw [Nat.mod_eq_of_lt (by omega)]
  unfold DFileRecvList.fileListSetNum
  rw [if_neg (by omega)]
  split
  · exact ⟨r, rfl, h, by assumption, fun _ h => h⟩
  · rename_i hnone
    refine ⟨_, rfl, ⟨?_, ?_, h.userData, h.untouched⟩, rfl, ?_⟩
    · rintro _ ⟨⟩
      exact List.length_replicate
    · rintro _ ⟨⟩ i e hget
      rw [List.getElem?_replicate] at hget
      split at hget <;> cases hget
    · intro id hhas
      unfold Has at hhas ⊢
      split at hhas
      · rw [if_pos (by assumption)]
        exact hhas
      · have : r.list = none := by simpa using hnone
        simp [fileListGetFileNameReceived, this] at hhas

theorem Agrees.decodeFileHeaderFrame (h : Agrees l r) (hl : l.Valid liteos) {frame : FileHeaderFrame} {ids : List Nat}
    (hframe : FrameOf l frame ids) :
    Agrees l (r.decodeFileHeaderFrame liteos frame).1 ∧
      (∀ id, r.Has id → (r.decodeFileHeaderFrame liteos frame).1.Has id) ∧
      (frame.fileInfoUnit ≠ [] → ((r.decodeFileHeaderFrame liteos frame).2 = true ↔
        DFileSendList.UnitsOk (ids.map l.unitBytes))) := by
  obtain ⟨rfl, hids, hlen⟩ := hframe
  unfold DFileSendList.encodeFileHeaderFrame.frameOf DFileRecvList.decodeFileHeaderFrame
  rw [← List.flatMap_def] at *
  rw [Nat.mod_eq_of_lt (by omega)]
  dsimp only
  split
  · refine ⟨h, fun _ h => h, fun hne => absurd ?_ hne⟩
    exact List.eq_nil_of_length_eq_zero (by omega)
  obtain ⟨r', hset, hgrows⟩ := h.fileListSetNum hl
  rw [hset, Nat.add_sub_cancel, List.take_length]
  dsimp only
  have hagrees : Agrees l { r' with
      hasUserData := r'.hasUserData || l.flag &&& userDataFlagBit ≠ 0 || l.flag &&& pathTypeFlagBit ≠ 0
      noSyncFlag := r'.noSyncFlag || l.flag &&& noSyncFlagBit ≠ 0 } :=
    ⟨hgrows.agrees.num, hgrows.agrees.entry, hgrows.agrees.userData, hgrows.agrees.untouched⟩
  obtain ⟨hgrows', hiff⟩ := Agrees.decodeUnits hl (ids.flatMap l.unitBytes).length hagrees hgrows.list (Nat.le_refl _) hids
  exact ⟨hgrows'.agrees, fun id hhas => hgrows'.has id (hgrows.has id hhas), fun _ => hiff⟩

/-! ## Confirms -/

theorem encodeConfirmed_spec (left next room : Nat) (hnext : 1 ≤ next) (hleft : next + left ≤ r.num + 1) :
    next ≤ (r.encodeConfirmed left next room).2 ∧ ∀ id ∈ (r.encodeConfirmed left next room).1, r.Has id ∧ id ≤ r.num := by
  obtain ⟨hle, hle', -, hids⟩ := encodeConfirmed_range (r := r) left next room
  refine ⟨hle, fun id hid => ?_⟩
  rw [hids] at hid
  obtain ⟨hmem, hrecv⟩ := List.mem_filter.mp hid
  have := List.mem_range'_1.mp hmem
  refine ⟨?_, by omega⟩
  rwa [Has, if_neg (by omega)]

theorem encodeFileHeaderConfirmFrame_spec {next : Nat} (mtu : Nat) (hnext : 1 ≤ next) (hnum : r.num < 65536) :
    1 ≤ (r.encodeFileHeaderConfirmFrame next mtu).2 ∧
    ∃ ids, (r.encodeFileHeaderConfirmFrame next mtu).1 = encodeFileHeaderConfirmFrame.frameOf ids ∧
      ∀ id ∈ ids, r.Has id ∧ id < 65536 := by
  unfold encodeFileHeaderConfirmFrame
  by_cases hle : next ≤ r.num + 1
  · obtain ⟨hle', hhas⟩ := encodeConfirmed_spec (r := r) (r.num + 1 - next) next
      ((mtu - dfileFrameHeaderLen) / 2 - (encodeFileHeaderConfirmFrame.front r).length) hnext (by omega)
    refine ⟨Nat.le_trans hnext hle', _, rfl, fun id hid => ?_⟩
    rcases List.mem_append.mp hid with hid | hid
    · exact front_has hid
    · exact ⟨(hhas id hid).1, Nat.lt_of_le_of_lt (hhas id hid).2 hnum⟩
  · rw [show r.num + 1 - next = 0 by omega, encodeConfirmed, List.append_nil]
    exact ⟨hnext, _, rfl, fun id hid => front_has hid⟩
where
  front_has {id : Nat} (hid : id ∈ encodeFileHeaderConfirmFrame.front r) : r.Has id ∧ id < 65536 := by
    unfold encodeFileHeaderConfirmFrame.front at hid
    split at hid
    · rename_i hrecv
      rw [List.mem_singleton.mp hid]
      exact ⟨(Bool.and_eq_true _ _ ▸ hrecv).2, by decide⟩
    · cases hid

end

end DFileRecvList

namespace DFileSendList

variable {l : DFileSendList}

theorem setAcked_spec : ∀ (count : Nat) {ids : List Nat} {acked : Nat → Bool}, count ≤ ids.length →
    (∀ id ∈ ids, id < 65536) →
    ∀ x, decodeFileHeaderConfirmFrame.setAcked l count (ids.flatMap (Bytes.putBig 2)) acked x = true → acked x = true ∨ x ∈ ids
  | 0, _, _, _, _, _, h => .inl h
  | _ + 1, [], _, hcount, _, _, _ => by simp at hcount
  | count + 1, id :: ids, acked, hcount, hids, x, h => by
    unfold decodeFileHeaderConfirmFrame.setAcked at h
    rw [List.flatMap_cons, Bytes.drop_putBig_append, Bytes.readBig_putBig_append (hids id (by simp))] at h
    rcases setAcked_spec count (by simpa using hcount) (fun id hid => hids id (List.mem_cons_of_mem _ hid)) x h with hx | hx
    · split at hx
      · exact .inl hx
      · by_cases heq : x = id
        · exact .inr (by simp [heq])
        · rw [Function.update_of_ne heq] at hx
          exact .inl hx
    · exact .inr (List.mem_cons_of_mem _ hx)

theorem decodeFileHeaderConfirmFrame_spec {acked : Nat → Bool} {ids : List Nat} (hids : ∀ id ∈ ids, id < 65536)
    {x : Nat}
    (h : l.decodeFileHeaderConfirmFrame acked (DFileRecvList.encodeFileHeaderConfirmFrame.frameOf ids) x = true) :
    acked x = true ∨ x ∈ ids := by
  unfold decodeFileHeaderConfirmFrame DFileRecvList.encodeFileHeaderConfirmFrame.frameOf at h
  dsimp only at h
  split at h
  · exact .inl h
  · exact setAcked_spec _ (by omega) hids x h

end DFileSendList

/-! ## The exchange -/

namespace HeaderExchange

open DFileRecvList (Agrees Has FrameOf)

structure Inv (l : DFileSendList) (s : HeaderExchange) : Prop where
  agrees : Agrees l s.recv
  headers : ∀ frame ∈ s.headers, ∃ ids, FrameOf l frame ids
  confirms : ∀ frame ∈ s.confirms, ∃ ids, frame = DFileRecvList.encodeFileHeaderConfirmFrame.frameOf ids ∧
    ∀ id ∈ ids, s.recv.Has id ∧ id < 65536
  acked : ∀ id, s.acked id = true → s.recv.Has id
  nextAcked : 1 ≤ s.nextAcked

def units (l : DFileSendList) (mtu : Nat) (s : HeaderExchange) : List (List UInt8) :=
  (l.encodeUnits s.acked (l.fileNum + 1 - s.nextSent) s.nextSent (mtu - (2 + dfileFrameHeaderLen))).1

section
variable {liteos : Bool} {l : DFileSendList} {mtu : Nat} {s : HeaderExchange}

theorem exists_units (hl : l.Valid liteos) (hmtu : mtu < 65536) (s : HeaderExchange) :
    ∃ ids, s.units l mtu = ids.map l.unitBytes ∧
      FrameOf l (DFileSendList.encodeFileHeaderFrame l s.acked s.nextSent mtu).1 ids := by
  by_cases hle : s.nextSent ≤ l.fileNum + 1
  · obtain ⟨ids, hunits, hids, hlen⟩ := hl.encodeUnits_spec s.acked (l.fileNum + 1 - s.nextSent) s.nextSent
      (mtu - (2 + dfileFrameHeaderLen)) (by omega)
    refine ⟨ids, hunits, ?_, hids, by omega⟩
    rw [DFileSendList.encodeFileHeaderFrame, hunits]
  · have hnone : l.fileNum + 1 - s.nextSent = 0 := by omega
    refine ⟨[], ?_, ?_, by simp, by simp⟩
    · rw [units, hnone]
      rfl
    · rw [DFileSendList.encodeFileHeaderFrame, hnone]
      rfl

theorem Inv.num_lt (h : Inv l s) (hl : l.Valid liteos) : s.recv.num < 65536 := by
  have := hl.fileNum_bounds
  unfold DFileRecvList.num
  cases hr : s.recv.list with
  | none => simp
  | some list =>
    have := h.agrees.num list hr
    simp
    omega

theorem Inv.step (h : Inv l s) (hl : l.Valid liteos) (hmtu : mtu < 65536) (e : HeaderEvent) :
    Inv l (next liteos l mtu s e) := by
  cases e with
  | sendFileHeader =>
    refine ⟨h.agrees, fun frame hframe => ?_, h.confirms, h.acked, h.nextAcked⟩
    rcases List.mem_append.mp hframe with hframe | hframe
    · exact h.headers frame hframe
    · obtain ⟨ids, _, hids⟩ := exists_units hl hmtu s
      rw [List.mem_singleton.mp hframe]
      exact ⟨ids, hids⟩
  | waitForFileHeaderConfirmPrepare => exact ⟨h.agrees, h.headers, h.confirms, h.acked, h.nextAcked⟩
  | recvHeader i =>
    rw [next]
    split
    · exact h
    · rename_i frame hget
      obtain ⟨ids, hids⟩ := h.headers frame (List.mem_of_getElem? hget)
      obtain ⟨hagrees, hhas, _⟩ := h.agrees.decodeFileHeaderFrame hl hids
      refine ⟨hagrees, h.headers, fun frame hframe => ?_, fun id hid => hhas id (h.acked id hid), h.nextAcked⟩
      obtain ⟨ids, hframe, hids⟩ := h.confirms frame hframe
      exact ⟨ids, hframe, fun id hid => ⟨hhas id (hids id hid).1, (hids id hid).2⟩⟩
  | sendFileHeaderConfirm =>
    obtain ⟨hnext, hnew⟩ := DFileRecvList.encodeFileHeaderConfirmFrame_spec mtu h.nextAcked (h.num_lt hl)
    refine ⟨h.agrees, h.headers, fun frame hframe => ?_, h.acked, hnext⟩
    rcases List.mem_append.mp hframe with hframe | hframe
    · exact h.confirms frame hframe
    · rw [List.mem_singleton.mp hframe]
      exact hnew
  | sendFileHeaderConfirmPrepare => exact ⟨h.agrees, h.headers, h.confirms, h.acked, Nat.le_refl 1⟩
  | recvConfirm i =>
    rw [next]
    split
    · exact h
    · rename_i frame hget
      refine ⟨h.agrees, h.headers, h.confirms, fun id hid => ?_, h.nextAcked⟩
      obtain ⟨ids, rfl, hids⟩ := h.confirms frame (List.mem_of_getElem? hget)
      rcases DFileSendList.decodeFileHeaderConfirmFrame_spec (fun id hid => (hids id hid).2) hid with hid | hid
      · exact h.acked id hid
      · exact (hids id hid).1

theorem inv_init (l : DFileSendList) : Inv l {} :=
  ⟨⟨by simp, by simp, by simp, by simp⟩, by simp, by simp, by simp, Nat.le_refl 1⟩

/-- The frame is decoded without an error, if it carries a unit. -/
def Decodes (liteos : Bool) (r : DFileRecvList) (frame : FileHeaderFrame) : Prop :=
  frame.fileInfoUnit ≠ [] → (r.decodeFileHeaderFrame liteos frame).2 = true

/-- The next frame of the sender is one that the receiver decodes. -/
def HeaderOk (l : DFileSendList) (mtu : Nat) (s : HeaderExchange) (e : HeaderEvent) : Prop :=
  e = .sendFileHeader → DFileSendList.UnitsOk (s.units l mtu)

theorem decodes_iff_unitsOk (hl : l.Valid liteos) {r : DFileRecvList} (hr : Agrees l r) {frame : FileHeaderFrame}
    {ids : List Nat}
    (hframe : FrameOf l frame ids) : Decodes liteos r frame ↔ DFileSendList.UnitsOk (ids.map l.unitBytes) := by
  unfold Decodes
  by_cases hne : frame.fileInfoUnit = []
  · have hnil : ids = [] := by
      rw [hframe.1] at hne
      cases ids with
      | nil => rfl
      | cons id ids =>
        have := congrArg List.length hne
        simp [DFileSendList.encodeFileHeaderFrame.frameOf] at this
    rw [hnil]
    simp [hne, DFileSendList.UnitsOk]
  · rw [← (hr.decodeFileHeaderFrame hl hframe).2.2 hne]
    simp [hne]

theorem decodes_final_iff (hl : l.Valid liteos) (hmtu : mtu < 65536) {r : DFileRecvList} (hr : Agrees l r) :
    ∀ (events : List HeaderEvent) {s : HeaderExchange},
      (∀ frame ∈ (Run.final (next liteos l mtu) s events).headers, Decodes liteos r frame) ↔
        (∀ frame ∈ s.headers, Decodes liteos r frame) ∧ Run.Always (next liteos l mtu) (HeaderOk l mtu) s events
  | [], _ => by simp
  | e :: events, s => by
    rw [Run.final_cons, Run.always_cons, decodes_final_iff hl hmtu hr events, ← and_assoc]
    refine and_congr_left fun _ => ?_
    have hsame : (next liteos l mtu s e).headers = s.headers → e ≠ .sendFileHeader →
        ((∀ frame ∈ (next liteos l mtu s e).headers, Decodes liteos r frame) ↔
          (∀ frame ∈ s.headers, Decodes liteos r frame) ∧ HeaderOk l mtu s e) := by
      intro heq hne
      have hok : HeaderOk l mtu s e := fun he => absurd he hne
      rw [heq, and_iff_left hok]
    cases e with
    | sendFileHeader =>
      obtain ⟨ids, hunits, hids⟩ := exists_units hl hmtu s
      have hlast := decodes_iff_unitsOk hl hr hids
      rw [← hunits] at hlast
      simp only [next, List.forall_mem_append, List.forall_mem_singleton, HeaderOk, hlast, forall_const]
    | waitForFileHeaderConfirmPrepare => exact hsame rfl (by simp)
    | recvHeader i =>
      refine hsame ?_ (by simp)
      rw [next]
      split <;> rfl
    | sendFileHeaderConfirm => exact hsame rfl (by simp)
    | sendFileHeaderConfirmPrepare => exact hsame rfl (by simp)
    | recvConfirm i =>
      refine hsame ?_ (by simp)
      rw [next]
      split <;> rfl

end

end HeaderExchange

structure DFileRecvList.Same (l : DFileSendList) (r : DFileRecvList) : Prop where
  num : r.num = l.fileNum
  entry : ∀ id, 1 ≤ id → id ≤ l.fileNum → (r.list.getD [])[id - 1]? = some (some ⟨l.fileName id, l.fileSize id⟩)
  userData : r.userData = l.userData
  pathType : r.pathType = l.pathType

namespace HeaderExchange

variable {liteos : Bool} {l : DFileSendList} {s : HeaderExchange}

theorem acked_of_all (h : l.fileListAllFileNameAcked s.acked = true) :
    (l.hasUserData = true → s.acked 0 = true) ∧ ∀ id, 1 ≤ id → id ≤ l.fileNum → s.acked id = true := by
  unfold DFileSendList.fileListAllFileNameAcked at h
  unfold DFileSendList.fileNum
  rw [Bool.and_eq_true] at h
  refine ⟨fun hdata => by simpa [hdata] using h.1, fun id hpos hle => ?_⟩
  by_cases htar : l.tarFlag
  · rw [if_pos htar] at hle
    rw [if_pos htar] at h
    rw [show id = 1 by omega]
    exact h.2
  · rw [if_neg htar] at hle
    rw [if_neg htar, List.all_eq_true] at h
    have := h.2 (id - 1) (List.mem_range.mpr (by omega))
    rwa [Nat.sub_add_cancel hpos] at this

theorem Inv.same (h : Inv l s) (hl : l.Valid liteos) (hall : l.fileListAllFileNameAcked s.acked = true) :
    s.recv.Same l := by
  obtain ⟨hzero, hacked⟩ := acked_of_all hall
  have hentry : ∀ id, 1 ≤ id → id ≤ l.fileNum → ∃ list e, s.recv.list = some list ∧ list[id - 1]? = some (some e) := by
    intro id hpos hle
    have hhas := h.acked id (hacked id hpos hle)
    unfold DFileRecvList.Has at hhas
    rw [if_neg (by omega), DFileRecvList.fileListGetFileNameReceived] at hhas
    cases hr : s.recv.list with
    | none => simp [hr] at hhas
    | some list =>
      obtain ⟨e, he⟩ := Option.isSome_iff_exists.mp hhas
      rw [hr] at he
      exact ⟨list, e, rfl, by simpa [Option.join_eq_some_iff] using he⟩
  have hdata : s.recv.userData = l.userData ∧ s.recv.pathType = l.pathType := by
    by_cases hrecv : s.recv.userDataReceived
    · exact h.agrees.userData hrecv
    · have hnone : l.hasUserData = false := by
        by_contra hdata
        exact hrecv (h.acked 0 (hzero (by simpa using hdata)))
      obtain ⟨hu, hp⟩ := h.agrees.untouched (by simpa using hrecv)
      unfold DFileSendList.hasUserData DFileSendList.packedUserData at hnone
      rw [hu, hp]
      cases hl : l.userData <;> by_cases hpos : 0 < l.pathType <;> simp [hl, hpos] at hnone
      exact ⟨rfl, by omega⟩
  refine ⟨?_, fun id hpos hle => ?_, hdata.1, hdata.2⟩
  · obtain ⟨list, _, hr, _⟩ := hentry 1 (Nat.le_refl 1) hl.fileNum_bounds.1
    rw [DFileRecvList.num, hr]
    exact h.agrees.num list hr
  · obtain ⟨list, e, hr, hget⟩ := hentry id hpos hle
    rw [hr, Option.getD_some, hget, h.agrees.entry list hr _ e hget, Nat.sub_add_cancel hpos]

end HeaderExchange

/-- Once the sender has every id confirmed the receiver's list is its own, in every run. The frames it
sends are all decoded just when none ends with a bare fixed part and none carries a file of more than 512 GiB. -/
theorem dfile_header_exchange {liteos : Bool} {l : DFileSendList} {mtu : Nat} (hl : l.Valid liteos) (hmtu : mtu < 65536)
    (events : List HeaderEvent) :
    ((∀ frame ∈ (Run.final (HeaderExchange.next liteos l mtu) {} events).headers,
        HeaderExchange.Decodes liteos (Run.final (HeaderExchange.next liteos l mtu) {} events).recv frame) ↔
      Run.Always (HeaderExchange.next liteos l mtu) (HeaderExchange.HeaderOk l mtu) {} events) ∧
    (l.fileListAllFileNameAcked (Run.final (HeaderExchange.next liteos l mtu) {} events).acked = true →
      (Run.final (HeaderExchange.next liteos l mtu) {} events).recv.Same l) := by
  have hinv : HeaderExchange.Inv l (Run.final (HeaderExchange.next liteos l mtu) {} events) :=
    Run.inv_final_of_step (fun _ e h => h.step hl hmtu e) events (HeaderExchange.inv_init l)
  refine ⟨?_, hinv.same hl⟩
  rw [HeaderExchange.decodes_final_iff hl hmtu hinv.agrees events]
  simp

theorem dfile_header_exchange_two_files :
    (Run.final (HeaderExchange.next false ⟨[⟨[97], 5⟩, ⟨[98, 99], 0⟩], some [1], 7, false, false, 0⟩ 64) {}
      [.sendFileHeader, .recvHeader 0, .sendFileHeaderConfirm, .recvConfirm 0]).recv.Same
        ⟨[⟨[97], 5⟩, ⟨[98, 99], 0⟩], some [1], 7, false, false, 0⟩ :=
  (@dfile_header_exchange false _ _ ⟨by decide, by decide, by decide, by decide, by decide, by decide⟩ (by decide) _).2
    (by decide +kernel)

/-- Empty user data beside a name of 42 bytes, with an mtu of 64: each unit fits into a frame, the first frame holds the
user data alone, and the receiver refuses it. -/
theorem dfile_header_refuses_empty_user_data :
    DFileSendList.Valid false ⟨[⟨List.replicate 42 97, 5⟩], some [], 0, false, false, 0⟩ ∧
    (∀ id ≤ 1, ((⟨[⟨List.replicate 42 97, 5⟩], some [], 0, false, false, 0⟩ : DFileSendList).encodeFileInfo id 54).isSome) ∧
    ∃ frame ∈ (Run.final (HeaderExchange.next false ⟨[⟨List.replicate 42 97, 5⟩], some [], 0, false, false, 0⟩ 64) {}
        [.sendFileHeader]).headers,
      frame.fileInfoUnit = List.replicate 12 0 ∧ (({} : DFileRecvList).decodeFileHeaderFrame false frame).2 = false := by
  refine ⟨⟨by decide, by decide, by decide, by decide, by decide, by decide⟩, by decide, ?_⟩
  decide +kernel

end SoftBus
