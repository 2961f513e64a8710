import SoftBus.DFileHeader

/-!
# The loops that send a DFile header

`SendFileHeader` and `SendFileHeaderConfirm` send frame after frame until the last id is in one. A unit that does not fit
into an empty frame is never passed.
-/

namespace SoftBus

theorem range'_cons {a b : Nat} (h : a + 1 ≤ b) : List.range' a (b - a) = a :: List.range' (a + 1) (b - (a + 1)) := by
  rw [show b - a = (b - (a + 1)) + 1 by omega, List.range'_succ]

theorem range'_append {a b c : Nat} (hab : a ≤ b) (hbc : b ≤ c) :
    List.range' a (b - a) ++ List.range' b (c - b) = List.range' a (c - a) := by
  have h := @List.range'_append_1 a (b - a) (c - b)
  rwa [Nat.add_sub_cancel' hab, show b - a + (c - b) = c - a by omega] at h

namespace DFileSendList

/-- `SendFileHeader` from the id `next` on when every frame goes out; `none` when it has not returned after so many. -/
def sendFileHeader (l : DFileSendList) (acked : Nat → Bool) (mtu : Nat) : (fuel next : Nat) → Option (List FileHeaderFrame)
  | 0, _ => none
  | fuel + 1, next =>
    if (l.encodeFileHeaderFrame acked next mtu).2 = l.fileNum + 1 then some [(l.encodeFileHeaderFrame acked next mtu).1]
    else
      (sendFileHeader l acked mtu fuel (l.encodeFileHeaderFrame acked next mtu).2).map
        ((l.encodeFileHeaderFrame acked next mtu).1 :: ·)

def needed (l : DFileSendList) (acked : Nat → Bool) (id : Nat) : Bool := !(acked id || (id == 0 && !l.hasUserData))

def unit (l : DFileSendList) (id : Nat) : List UInt8 :=
  Bytes.putBig 2 id ++ (Bytes.putBig 8 (l.fileSize id) ++ (Bytes.putBig 2 (l.fileNameLen id) ++
    (l.fileName id).take (l.fileNameLen id)))

def frameRoom (mtu : Nat) : Nat := mtu - (2 + dfileFrameHeaderLen)

/-- Every id that is to be sent fits into an empty frame. -/
def Fits (l : DFileSendList) (acked : Nat → Bool) (mtu next : Nat) : Prop :=
  ∀ id, next ≤ id → id ≤ l.fileNum → l.needed acked id = true → fileInfoUnitLen + l.fileNameLen id ≤ frameRoom mtu

section
variable {l : DFileSendList} {acked : Nat → Bool} {mtu : Nat}

theorem needed_of_not_skip {id : Nat} (h : ¬(acked id || (id == 0 && !l.hasUserData)) = true) : l.needed acked id = true := by
  rw [needed, Bool.eq_false_of_not_eq_true h]
  rfl

theorem length_unit (l : DFileSendList) (id : Nat) : (l.unit id).length = fileInfoUnitLen + l.fileNameLen id := by
  have hle : l.fileNameLen id ≤ (l.fileName id).length := Nat.mod_le _ _
  simp only [unit, List.length_append, Bytes.length_putBig, List.length_take, Nat.min_eq_left hle, fileInfoUnitLen]
  omega

theorem encodeFileInfo_eq (l : DFileSendList) (id : Nat) {room : Nat} (hroom : fileInfoUnitLen < room) :
    l.encodeFileInfo id room = if fileInfoUnitLen + l.fileNameLen id ≤ room then some (l.unit id) else none := by
  unfold encodeFileInfo
  rw [if_neg (by omega)]
  by_cases hfit : fileInfoUnitLen + l.fileNameLen id ≤ room
  · rw [if_neg (by omega), if_pos hfit]
    rfl
  · rw [if_pos (by omega), if_neg hfit]

structure Encoded (l : DFileSendList) (acked : Nat → Bool) (next room : Nat) (units : List (List UInt8)) (next' : Nat) :
    Prop where
  le : next ≤ next'
  units_eq : units = ((List.range' next (next' - next)).filter (l.needed acked)).map l.unit
  room : units.flatten.length ≤ room

theorem encodeUnits_encoded : ∀ (left next room : Nat),
    Encoded l acked next room (l.encodeUnits acked left next room).1 (l.encodeUnits acked left next room).2 ∧
      (l.encodeUnits acked left next room).2 ≤ next + left
  | 0, next, room => ⟨⟨Nat.le_refl _, by simp [encodeUnits], Nat.zero_le _⟩, Nat.le_refl _⟩
  | left + 1, next, room => by
    have hstop : Encoded l acked next room [] next := ⟨Nat.le_refl _, by simp, Nat.zero_le _⟩
    rw [encodeUnits]
    by_cases hroom : room = 0
    · rw [if_pos hroom]
      exact ⟨hstop, Nat.le_add_right _ _⟩
    rw [if_neg hroom]
    by_cases hskip : (acked next || (next == 0 && !l.hasUserData)) = true
    · rw [if_pos hskip]
      obtain ⟨ih, hle⟩ := encodeUnits_encoded left (next + 1) room
      refine ⟨⟨Nat.le_of_succ_le ih.le, ?_, ih.room⟩, by omega⟩
      rw [range'_cons ih.le, List.filter_cons_of_neg (by simp [needed, hskip])]
      exact ih.units_eq
    rw [if_neg hskip]
    cases henc : l.encodeFileInfo next room with
    | none => exact ⟨hstop, Nat.le_add_right _ _⟩
    | some bytes =>
      have hlong : fileInfoUnitLen < room := by
        by_contra hshort
        rw [encodeFileInfo, if_pos (by omega)] at henc
        cases henc
      rw [encodeFileInfo_eq l next hlong] at henc
      split at henc
      · cases henc
        rename_i hfit
        obtain ⟨ih, hle⟩ := encodeUnits_encoded left (next + 1) (room - (l.unit next).length)
        dsimp only
        refine ⟨⟨Nat.le_of_succ_le ih.le, ?_, ?_⟩, by omega⟩
        · rw [range'_cons ih.le, List.filter_cons_of_pos (needed_of_not_skip hskip), List.map_cons, ← ih.units_eq]
        · have := ih.room
          rw [List.flatten_cons, List.length_append, length_unit] at *
          omega
      · cases henc

theorem encodeUnits_le {id : Nat} (hneeded : l.needed acked id = true) : ∀ (left next room : Nat), next ≤ id →
    room < fileInfoUnitLen + l.fileNameLen id → (l.encodeUnits acked left next room).2 ≤ id
  | 0, next, room, hle, _ => hle
  | left + 1, next, room, hle, hbig => by
    rw [encodeUnits]
    split
    · exact hle
    split
    · rename_i hskip
      refine encodeUnits_le hneeded left (next + 1) room (Nat.lt_of_le_of_ne hle fun heq => ?_) hbig
      rw [needed, ← heq, hskip] at hneeded
      cases hneeded
    · split
      · exact hle
      · rename_i bytes henc
        refine encodeUnits_le hneeded left (next + 1) _ (Nat.lt_of_le_of_ne hle fun heq => ?_) (by omega)
        rw [heq, encodeFileInfo] at henc
        split at henc
        · cases henc
        · rw [if_pos (by omega)] at henc
          cases henc

theorem encodeUnits_lt {left next room : Nat} (hroom : fileInfoUnitLen < room)
    (hfit : l.needed acked next = true → fileInfoUnitLen + l.fileNameLen next ≤ room) :
    next < (l.encodeUnits acked (left + 1) next room).2 := by
  rw [encodeUnits, if_neg (by omega)]
  split
  · exact (encodeUnits_encoded left (next + 1) room).1.le
  · rename_i hskip
    rw [encodeFileInfo_eq l next hroom, if_pos (hfit (needed_of_not_skip hskip))]
    exact (encodeUnits_encoded left (next + 1) (room - (l.unit next).length)).1.le

/-- The frames hold the units of the ids from `next` on, in order; each is at most `mtu` long. -/
def Carries (l : DFileSendList) (acked : Nat → Bool) (mtu next : Nat) (frames : List FileHeaderFrame) : Prop :=
  (∀ frame ∈ frames, dfileFrameHeaderLen + 2 + frame.fileInfoUnit.length ≤ mtu) ∧
    ∃ groups : List (List Nat), frames.map (·.fileInfoUnit) = groups.map (·.flatMap l.unit) ∧
      groups.flatten = (List.range' next (l.fileNum + 1 - next)).filter (l.needed acked)

theorem encodeFileHeaderFrame_carries (hmtu : 64 ≤ mtu) {next : Nat} (hnext : next ≤ l.fileNum + 1) :
    next ≤ (l.encodeFileHeaderFrame acked next mtu).2 ∧ (l.encodeFileHeaderFrame acked next mtu).2 ≤ l.fileNum + 1 ∧
      dfileFrameHeaderLen + 2 + (l.encodeFileHeaderFrame acked next mtu).1.fileInfoUnit.length ≤ mtu ∧
      (l.encodeFileHeaderFrame acked next mtu).1.fileInfoUnit =
        ((List.range' next ((l.encodeFileHeaderFrame acked next mtu).2 - next)).filter (l.needed acked)).flatMap l.unit := by
  obtain ⟨h, hle⟩ := @encodeUnits_encoded l acked (l.fileNum + 1 - next) next (frameRoom mtu)
  have hroom := h.room
  unfold frameRoom dfileFrameHeaderLen at hroom
  refine ⟨h.le, hle.trans (by omega), ?_, ?_⟩
  · unfold dfileFrameHeaderLen
    show 8 + 2 + (l.encodeUnits acked (l.fileNum + 1 - next) next (mtu - (2 + 8))).1.flatten.length ≤ mtu
    omega
  · exact (congrArg List.flatten h.units_eq).trans List.flatMap_def.symm

theorem sendFileHeader_carries (hmtu : 64 ≤ mtu) : ∀ (fuel : Nat) {next : Nat} {frames : List FileHeaderFrame},
    next ≤ l.fileNum + 1 → l.sendFileHeader acked mtu fuel next = some frames → Carries l acked mtu next frames
  | fuel + 1, next, frames, hnext, h => by
    obtain ⟨hle, hle', hlen, hunits⟩ := @encodeFileHeaderFrame_carries _ acked _ hmtu _ hnext
    rw [sendFileHeader] at h
    split at h
    · rename_i hend
      cases h
      rw [hend] at hunits
      refine ⟨by simpa using hlen, [_], ?_, List.append_nil _⟩
      rw [List.map_singleton, List.map_singleton, hunits]
    · obtain ⟨rest, hrest, rfl⟩ := Option.map_eq_some_iff.mp h
      obtain ⟨hlens, groups, hgroups, hflat⟩ := sendFileHeader_carries hmtu fuel hle' hrest
      refine ⟨List.forall_mem_cons.mpr ⟨hlen, hlens⟩, ((List.range' next
        ((l.encodeFileHeaderFrame acked next mtu).2 - next)).filter (l.needed acked)) :: groups, ?_, ?_⟩
      · rw [List.map_cons, List.map_cons, hgroups, hunits]
      · rw [List.flatten_cons, hflat, ← List.filter_append, range'_append hle hle']

theorem encodeFileHeaderFrame_lt (hmtu : 64 ≤ mtu) {next : Nat} (hnext : next ≤ l.fileNum) (hfits : Fits l acked mtu next) :
    next < (l.encodeFileHeaderFrame acked next mtu).2 := by
  have hroom : fileInfoUnitLen < frameRoom mtu := by
    unfold fileInfoUnitLen frameRoom dfileFrameHeaderLen
    omega
  have h := @encodeUnits_lt _ _ (l.fileNum - next) _ _ hroom (hfits next (Nat.le_refl _) hnext)
  rwa [← Nat.sub_add_comm hnext] at h

theorem sendFileHeader_returns (hmtu : 64 ≤ mtu) : ∀ (fuel next : Nat), next ≤ l.fileNum + 1 → l.fileNum + 1 < next + fuel →
    Fits l acked mtu next → ∃ frames, l.sendFileHeader acked mtu fuel next = some frames
  | 0, next, hnext, hfuel, _ => absurd hfuel (by omega)
  | fuel + 1, next, hnext, hfuel, hfits => by
    obtain ⟨hle, hle', -, -⟩ := @encodeFileHeaderFrame_carries _ acked _ hmtu _ hnext
    rw [sendFileHeader]
    split
    · exact ⟨_, rfl⟩
    · rename_i hend
      have hlt := encodeFileHeaderFrame_lt hmtu (by omega) hfits
      obtain ⟨frames, hframes⟩ := sendFileHeader_returns hmtu fuel _ hle' (by omega)
        fun id hid => hfits id (hle.trans hid)
      exact ⟨_, congrArg (Option.map _) hframes⟩

theorem fits_of_returns : ∀ (fuel : Nat) {next : Nat} {frames : List FileHeaderFrame},
    l.sendFileHeader acked mtu fuel next = some frames → Fits l acked mtu next
  | fuel + 1, next, frames, h, id, hid, hnum, hneeded => by
    by_contra hbig
    have hle : (l.encodeFileHeaderFrame acked next mtu).2 ≤ id :=
      encodeUnits_le hneeded _ next (frameRoom mtu) hid (by omega)
    rw [sendFileHeader, if_neg (by omega)] at h
    obtain ⟨rest, hrest, -⟩ := Option.map_eq_some_iff.mp h
    exact hbig (fits_of_returns fuel hrest id hle hnum hneeded)

end

end DFileSendList

/-! ## The confirm -/

namespace DFileRecvList

def sendFileHeaderConfirm (r : DFileRecvList) (mtu : Nat) : (fuel next : Nat) → Option (List FileHeaderConfirmFrame)
  | 0, _ => none
  | fuel + 1, next =>
    if (r.encodeFileHeaderConfirmFrame next mtu).2 = r.num + 1 then some [(r.encodeFileHeaderConfirmFrame next mtu).1]
    else
      (sendFileHeaderConfirm r mtu fuel (r.encodeFileHeaderConfirmFrame next mtu).2).map
        ((r.encodeFileHeaderConfirmFrame next mtu).1 :: ·)

variable {r : DFileRecvList} {mtu : Nat}

theorem encodeConfirmed_range : ∀ (left next room : Nat),
    next ≤ (r.encodeConfirmed left next room).2 ∧ (r.encodeConfirmed left next room).2 ≤ next + left ∧
      (r.encodeConfirmed left next room).1.length ≤ room ∧
      (r.encodeConfirmed left next room).1 =
        (List.range' next ((r.encodeConfirmed left next room).2 - next)).filter r.fileListGetFileNameReceived
  | 0, next, room => ⟨Nat.le_refl _, Nat.le_refl _, Nat.zero_le _, by simp [encodeConfirmed]⟩
  | left + 1, next, room => by
    rw [encodeConfirmed]
    split
    · rename_i hskip
      obtain ⟨hle, hle', hlen, hids⟩ := encodeConfirmed_range left (next + 1) room
      refine ⟨by omega, by omega, hlen, ?_⟩
      rw [range'_cons hle, List.filter_cons_of_neg (by simpa using hskip)]
      exact hids
    rename_i hgot
    split
    · exact ⟨Nat.le_refl _, Nat.le_add_right _ _, Nat.zero_le _, by simp⟩
    · obtain ⟨hle, hle', hlen, hids⟩ := encodeConfirmed_range left (next + 1) (room - 1)
      refine ⟨?_, ?_, ?_, ?_⟩
      · dsimp only
        omega
      · dsimp only
        omega
      · rw [List.length_cons]
        omega
      · rw [range'_cons hle, List.filter_cons_of_pos (by simpa using hgot), ← hids]

theorem encodeConfirmed_lt {left next room : Nat} (hroom : 0 < room) :
    next < (r.encodeConfirmed (left + 1) next room).2 := by
  rw [encodeConfirmed]
  split
  · exact (encodeConfirmed_range left (next + 1) room).1
  · rw [if_neg (by omega)]
    exact (encodeConfirmed_range left (next + 1) (room - 1)).1

/-- Each confirm frame holds a part of the received ids, in order, behind the one of the user data. -/
def Confirms (r : DFileRecvList) (mtu next : Nat) (frames : List FileHeaderConfirmFrame) : Prop :=
  (∀ frame ∈ frames, dfileFrameHeaderLen + frame.fileId.length ≤ mtu) ∧
    ∃ groups : List (List Nat),
      frames = groups.map (fun ids => encodeFileHeaderConfirmFrame.frameOf (encodeFileHeaderConfirmFrame.front r ++ ids)) ∧
      groups.flatten = (List.range' next (r.num + 1 - next)).filter r.fileListGetFileNameReceived

theorem encodeFileHeaderConfirmFrame_range (hmtu : 64 ≤ mtu) {next : Nat} (hnext : next ≤ r.num + 1) :
    next ≤ (r.encodeFileHeaderConfirmFrame next mtu).2 ∧ (r.encodeFileHeaderConfirmFrame next mtu).2 ≤ r.num + 1 ∧
      (next ≤ r.num → next < (r.encodeFileHeaderConfirmFrame next mtu).2) ∧
      dfileFrameHeaderLen + (r.encodeFileHeaderConfirmFrame next mtu).1.fileId.length ≤ mtu ∧
      (r.encodeFileHeaderConfirmFrame next mtu).1 =
        encodeFileHeaderConfirmFrame.frameOf (encodeFileHeaderConfirmFrame.front r ++
          (List.range' next ((r.encodeFileHeaderConfirmFrame next mtu).2 - next)).filter r.fileListGetFileNameReceived) := by
  have hfront : (encodeFileHeaderConfirmFrame.front r).length ≤ 1 := by
    unfold encodeFileHeaderConfirmFrame.front
    split
    · exact Nat.le_refl _
    · exact Nat.zero_le _
  obtain ⟨hle, hle', hlen, hids⟩ := encodeConfirmed_range (r := r) (r.num + 1 - next) next
    ((mtu - dfileFrameHeaderLen) / 2 - (encodeFileHeaderConfirmFrame.front r).length)
  refine ⟨hle, hle'.trans (by omega), fun hmore => ?_, ?_, ?_⟩
  · have hlt : next < (r.encodeConfirmed ((r.num - next) + 1) next
        ((mtu - dfileFrameHeaderLen) / 2 - (encodeFileHeaderConfirmFrame.front r).length)).2 :=
      encodeConfirmed_lt (by unfold dfileFrameHeaderLen; omega)
    rwa [← Nat.sub_add_comm hmore] at hlt
  · have hbytes : ∀ ids : List Nat, (ids.flatMap (Bytes.putBig 2)).length = 2 * ids.length := by
      intro ids
      simp [List.length_flatMap, Bytes.length_putBig, Nat.mul_comm]
    unfold encodeFileHeaderConfirmFrame encodeFileHeaderConfirmFrame.frameOf
    dsimp only
    rw [hbytes, List.length_append]
    unfold dfileFrameHeaderLen at *
    omega
  · exact congrArg (fun ids => encodeFileHeaderConfirmFrame.frameOf (encodeFileHeaderConfirmFrame.front r ++ ids)) hids

theorem sendFileHeaderConfirm_confirms (hmtu : 64 ≤ mtu) : ∀ (fuel next : Nat), next ≤ r.num + 1 →
    r.num + 1 < next + fuel → ∃ frames, r.sendFileHeaderConfirm mtu fuel next = some frames ∧ Confirms r mtu next frames
  | 0, next, hnext, hfuel => absurd hfuel (by omega)
  | fuel + 1, next, hnext, hfuel => by
    obtain ⟨hle, hle', hlt, hlen, hframe⟩ := encodeFileHeaderConfirmFrame_range hmtu hnext
    rw [sendFileHeaderConfirm]
    split
    · rename_i hend
      rw [hend] at hframe
      refine ⟨_, rfl, by simpa using hlen, [_], ?_, List.append_nil _⟩
      rw [List.map_singleton, hframe]
    · rename_i hend
      obtain ⟨rest, hrest, hlens, groups, hgroups, hflat⟩ :=
        sendFileHeaderConfirm_confirms hmtu fuel (r.encodeFileHeaderConfirmFrame next mtu).2 hle' (by omega)
      refine ⟨_, congrArg (Option.map _) hrest, List.forall_mem_cons.mpr ⟨hlen, hlens⟩,
        ((List.range' next ((r.encodeFileHeaderConfirmFrame next mtu).2 - next)).filter r.fileListGetFileNameReceived)
          :: groups, ?_, ?_⟩
      · rw [List.map_cons, ← hgroups, ← hframe]
      · rw [List.flatten_cons, hflat, ← List.filter_append, range'_append hle hle']

end DFileRecvList

/-- The header is sent after finitely many frames if and only if the unit of every id that is still to be sent fits into
an empty frame; the confirm always is. -/
theorem dfile_header_sending_iff {mtu : Nat} (hmtu : 64 ≤ mtu) (l : DFileSendList) (acked : Nat → Bool) (r : DFileRecvList)
    {next nextAcked : Nat} (hnext : next ≤ l.fileNum + 1) (hacked : nextAcked ≤ r.num + 1) :
    ((∃ fuel frames, l.sendFileHeader acked mtu fuel next = some frames ∧ l.Carries acked mtu next frames) ↔
      l.Fits acked mtu next) ∧
    ∃ fuel frames, r.sendFileHeaderConfirm mtu fuel nextAcked = some frames ∧ r.Confirms mtu nextAcked frames := by
  refine ⟨⟨?_, fun hfits => ?_⟩, r.num + 2, ?_⟩
  · rintro ⟨fuel, frames, hframes, -⟩
    exact DFileSendList.fits_of_returns fuel hframes
  · obtain ⟨frames, hframes⟩ := DFileSendList.sendFileHeader_returns hmtu (l.fileNum + 2) next hnext (by omega) hfits
    exact ⟨_, frames, hframes, DFileSendList.sendFileHeader_carries hmtu _ hnext hframes⟩
  · exact DFileRecvList.sendFileHeaderConfirm_confirms hmtu _ _ hacked (by omega)

def oneFileList (nameLen : Nat) : DFileSendList := ⟨[⟨List.replicate nameLen 97, 5⟩], none, 0, false, false, 0⟩

/-- A name of 42 bytes just fits into a frame of 64. -/
theorem dfile_header_sent :
    ∃ fuel frames, (oneFileList 42).sendFileHeader (fun _ => false) 64 fuel 0 = some frames ∧
      (oneFileList 42).Carries (fun _ => false) 64 0 frames := by
  refine (dfile_header_sending_iff (by decide) (oneFileList 42) (fun _ => false) {} (Nat.zero_le _)
    (Nat.zero_le _)).1.mpr fun id _ hid _ => ?_
  rcases Nat.le_one_iff_eq_zero_or_eq_one.mp hid with rfl | rfl
  · decide
  · decide

/-- With one byte more the header is never sent. -/
theorem dfile_header_never_sent :
    ¬∃ fuel frames, (oneFileList 43).sendFileHeader (fun _ => false) 64 fuel 0 = some frames := by
  rintro ⟨fuel, frames, hframes⟩
  have hfit := DFileSendList.fits_of_returns fuel hframes 1 (by decide) (by decide) (by decide)
  exact absurd hfit (by decide)

end SoftBus
