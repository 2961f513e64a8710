import SoftBus.LnnMap

/-!
# Profiles of lanes

`lnn_lane_model.c`: a profile is kept, under its id, while lanes are bound to it, with the list of these lanes and
their number. Whether there is memory comes with a call.
-/

namespace SoftBus

/-- The fields that make up the id. -/
structure LaneProfile where
  serialNum : UInt32 := 0
  linkType : UInt32
  content : UInt32
  priority : UInt32
deriving DecidableEq

structure LaneModel where
  profile : LaneProfile
  ref : UInt32 := 0
  laneIdList : List UInt32 := []
deriving DecidableEq

/-- For the map of profiles, and for the node of a lane. -/
structure LaneModelMem where
  map : MapMem := {}
  laneId : Bool := true

/-- The fields of `LaneGenerateParam` have six, four and four bits. -/
def generateLaneProfileId (profile : LaneProfile) : UInt32 :=
  ((profile.linkType &&& 0x3F) <<< 26) ||| ((profile.content &&& 0xF) <<< 22) ||| ((profile.priority &&& 0xF) <<< 18)

namespace LaneModel

def addLaneIdNode (laneId : UInt32) (mem : Bool) (laneModel : LaneModel) : LaneModel :=
  if laneId ∈ laneModel.laneIdList then laneModel
  else if !mem then laneModel
  else { laneModel with laneIdList := laneId :: laneModel.laneIdList, ref := laneModel.ref + 1 }

def deleteLaneIdNode (laneId : UInt32) (laneModel : LaneModel) : LaneModel :=
  if laneId ∈ laneModel.laneIdList then
    { laneModel with laneIdList := laneModel.laneIdList.erase laneId, ref := laneModel.ref - 1 }
  else laneModel

end LaneModel

namespace ProfileMap

/-- `%u` -/
def keyStr (key : UInt32) : List UInt8 := (Nat.toDigits 10 key.toNat).map fun c => c.toNat.toUInt8

/-- The size of a `LaneModel`. -/
def modelSize (_ : LaneModel) : Nat := 72

variable (m : Map LaneModel)

def lnnReadData (key : UInt32) : Option LaneModel := m.lnnMapGet (keyStr key)

def lnnCreateData (key : UInt32) (value : LaneModel) (mem : MapMem) : SoftbusRet × Map LaneModel :=
  m.lnnMapSet modelSize (keyStr key) value mem

def lnnDeleteData (key : UInt32) : Map LaneModel := (m.lnnMapErase (keyStr key)).2

/-- A lane for which there is no node is only logged. -/
def addLaneModel (laneId profileId : UInt32) (laneProfile : LaneProfile) (mem : LaneModelMem) :
    SoftbusRet × Map LaneModel :=
  match lnnReadData m profileId with
  | some laneModel => (.ok, m.writeValue (keyStr profileId) (laneModel.addLaneIdNode laneId mem.laneId))
  | none =>
    match lnnCreateData m profileId { profile := laneProfile } mem.map with
    | (.ok, m) =>
      match lnnReadData m profileId with
      | some laneModel => (.ok, m.writeValue (keyStr profileId) (laneModel.addLaneIdNode laneId mem.laneId))
      | none => (.ok, m)
    | (_, m) => (.err, m)

def bindLaneIdToProfile (laneId : UInt32) (profile : LaneProfile) (mem : LaneModelMem) : SoftbusRet × Map LaneModel :=
  let profileId := generateLaneProfileId profile
  addLaneModel m laneId profileId { profile with serialNum := profileId } mem

def unbindLaneIdFromProfile (laneId profileId : UInt32) : Map LaneModel :=
  match lnnReadData m profileId with
  | none => m
  | some laneModel =>
    let laneModel := laneModel.deleteLaneIdNode laneId
    let m := m.writeValue (keyStr profileId) laneModel
    if laneModel.ref = 0 then lnnDeleteData m profileId else m

end ProfileMap

/-! ## Both calls on the finite map -/

namespace ProfileMap

open Map

variable {m : Map LaneModel} {f : List UInt8 → Option LaneModel}

theorem keyStr_injective : Function.Injective keyStr := by
  intro a b h
  have hback : ∀ n : UInt32, (keyStr n).map (fun b => Char.ofNat b.toNat) = Nat.toDigits 10 n.toNat := by
    intro n
    rw [keyStr, List.map_map]
    refine (List.map_congr_left fun c hc => ?_).trans (List.map_id _)
    have hdigit : c.isDigit = true := Nat.isDigit_of_mem_toDigits (by decide) (by decide) hc
    simp only [Char.isDigit, Bool.and_eq_true, decide_eq_true_eq, UInt32.le_iff_toNat_le] at hdigit
    have hlt : c.toNat < 256 := lt_of_le_of_lt hdigit.2 (by decide)
    simp [Nat.mod_eq_of_lt hlt]
  have hdigits : Nat.toDigits 10 a.toNat = Nat.toDigits 10 b.toNat := by rw [← hback a, ← hback b, h]
  have hnat := congrArg (fun digits => Nat.ofDigitChars 10 digits 0) hdigits
  simp only [Nat.ofDigitChars_toDigits (by decide : 1 < 10) (by decide)] at hnat
  exact UInt32.toNat_inj.mp hnat

theorem refines_lnnReadData (h : Refines m f) (key : UInt32) : lnnReadData m key = f (keyStr key) := h.findNode _

theorem refines_write (h : Refines m f) {key : UInt32} {old : LaneModel} (hold : f (keyStr key) = some old)
    (value : LaneModel) : Refines (m.writeValue (keyStr key) value) (Function.update f (keyStr key) (some value)) := by
  rw [← h.findNode, Option.map_eq_some_iff] at hold
  obtain ⟨node, hfind, -⟩ := hold
  exact h.writeValue hfind value

theorem refines_lnnDeleteData (h : Refines m f) (key : UInt32) :
    Refines (lnnDeleteData m key) (Function.update f (keyStr key) none) := by
  rw [lnnDeleteData]
  rcases MapOp.lnnMapErase_cases h (keyStr key) with ⟨m', hrun, hrefines, -⟩ | ⟨ret, hrun, -, hnone⟩
  · rwa [hrun]
  · rwa [hrun, ← hnone, Function.update_eq_self]

theorem refines_lnnCreateData (h : Refines m f) {key : UInt32} (hnew : f (keyStr key) = none) (value : LaneModel)
    (mem : MapMem) :
    (∃ m', lnnCreateData m key value mem = (.ok, m') ∧ Refines m' (Function.update f (keyStr key) (some value))) ∨
      ∃ ret m', lnnCreateData m key value mem = (ret, m') ∧ ret ≠ .ok ∧ Refines m' f := by
  rcases @MapOp.lnnMapSet_cases _ modelSize _ _ h (keyStr key) value mem with
    ⟨-, hbad | ⟨old, hold, -⟩⟩ | ⟨m', hrun, hrefines, -⟩ | ⟨ret, m', hrun, hret, hrefines, -⟩
  · have hlen : (keyStr key).length ≤ 10 := by
      rw [keyStr, List.length_map, Nat.length_toDigits_le_iff (by decide) (by decide)]
      exact lt_of_lt_of_le key.toNat_lt (by decide)
    simp only [modelSize] at hbad
    omega
  · exact absurd (hnew.symm.trans hold) nofun
  · exact .inl ⟨m', hrun, hrefines⟩
  · exact .inr ⟨ret, m', hrun, hret, hrefines⟩

theorem refines_bind (h : Refines m f) (laneId : UInt32) (profile : LaneProfile) (mem : LaneModelMem) :
    ((bindLaneIdToProfile m laneId profile mem).1 = .ok ∧ ∃ profile', Refines (bindLaneIdToProfile m laneId profile mem).2
      (Function.update f (keyStr (generateLaneProfileId profile)) (some (((f (keyStr (generateLaneProfileId profile))).getD
        { profile := profile' }).addLaneIdNode laneId mem.laneId)))) ∨
      (bindLaneIdToProfile m laneId profile mem).1 ≠ .ok ∧ Refines (bindLaneIdToProfile m laneId profile mem).2 f := by
  rw [bindLaneIdToProfile, addLaneModel, refines_lnnReadData h]
  cases hold : f (keyStr (generateLaneProfileId profile)) with
  | some laneModel => exact .inl ⟨rfl, profile, refines_write h hold _⟩
  | none =>
    dsimp only
    rcases refines_lnnCreateData h hold { profile := { profile with serialNum := generateLaneProfileId profile } } mem.map
      with ⟨m', hcreate, hrefines⟩ | ⟨ret, m', hcreate, hret, hrefines⟩
    · refine .inl ?_
      rw [hcreate]
      dsimp only
      rw [refines_lnnReadData hrefines, Function.update_self]
      refine ⟨rfl, { profile with serialNum := generateLaneProfileId profile }, ?_⟩
      simpa using refines_write hrefines (Function.update_self ..) _
    · refine .inr ?_
      rw [hcreate]
      cases ret with
      | ok => exact absurd rfl hret
      | _ => exact ⟨nofun, hrefines⟩

/-- What is left of a profile when a lane is unbound. -/
def afterUnbind (laneId : UInt32) (laneModel : LaneModel) : Option LaneModel :=
  if (laneModel.deleteLaneIdNode laneId).ref = 0 then none else some (laneModel.deleteLaneIdNode laneId)

theorem refines_unbind (h : Refines m f) (laneId profileId : UInt32) :
    Refines (unbindLaneIdFromProfile m laneId profileId)
      (Function.update f (keyStr profileId) ((f (keyStr profileId)).bind (afterUnbind laneId))) := by
  rw [unbindLaneIdFromProfile, refines_lnnReadData h]
  cases hold : f (keyStr profileId) with
  | none =>
    have hsame : Function.update f (keyStr profileId) none = f := by rw [← hold, Function.update_eq_self]
    rw [Option.bind_none, hsame]
    exact h
  | some laneModel =>
    have hwrite := refines_write h hold (laneModel.deleteLaneIdNode laneId)
    dsimp only
    rw [Option.bind_some, afterUnbind]
    split
    · simpa using refines_lnnDeleteData hwrite profileId
    · exact hwrite

end ProfileMap

/-! ## Bound lanes -/

inductive LaneModelCall where
  | bind (laneId : UInt32) (profile : LaneProfile) (mem : LaneModelMem)
  | unbind (laneId profileId : UInt32)

namespace LaneModelCall

open ProfileMap

/-- The stored profiles, with the pairs of a lane and a profile that are bound: those of calls that returned OK. -/
def step (s : Map LaneModel × List (UInt32 × UInt32)) : LaneModelCall → Map LaneModel × List (UInt32 × UInt32)
  | bind laneId profile mem =>
    let out := bindLaneIdToProfile s.1 laneId profile mem
    (out.2, if out.1 = .ok then (laneId, generateLaneProfileId profile) :: s.2 else s.2)
  | unbind laneId profileId =>
    (unbindLaneIdFromProfile s.1 laneId profileId, s.2.filter (· ≠ (laneId, profileId)))

/-- There is memory for the node of the lane, and `ref` can count it. -/
def Fits (s : Map LaneModel × List (UInt32 × UInt32)) : LaneModelCall → Prop
  | bind _ profile mem => mem.laneId = true ∧
    (lnnReadData s.1 (generateLaneProfileId profile)).elim 0 (·.laneIdList.length) + 1 < 4294967296
  | unbind _ _ => True

instance (s : Map LaneModel × List (UInt32 × UInt32)) : ∀ call, Decidable (Fits s call)
  | bind _ _ _ => inferInstanceAs (Decidable (_ ∧ _))
  | unbind _ _ => .isTrue trivial

end LaneModelCall

namespace LaneModel

/-- What is stored for a profile, when `bound` says which lanes are bound to it: nothing without a lane, else every lane
once and their number. -/
def Stored (bound : UInt32 → Prop) : Option LaneModel → Prop
  | none => ∀ laneId, ¬ bound laneId
  | some laneModel =>
    laneModel.laneIdList.Nodup ∧ (∀ laneId, laneId ∈ laneModel.laneIdList ↔ bound laneId) ∧
      laneModel.ref.toNat = laneModel.laneIdList.length ∧ ∃ laneId, bound laneId

variable {bound : UInt32 → Prop} {stored : Option LaneModel}

theorem Stored.add (h : Stored bound stored) (hlen : stored.elim 0 (·.laneIdList.length) + 1 < 4294967296)
    (laneId : UInt32) (profile : LaneProfile) :
    Stored (fun x => x = laneId ∨ bound x) (some ((stored.getD { profile }).addLaneIdNode laneId true)) := by
  cases stored with
  | none =>
    refine ⟨List.nodup_singleton laneId, fun x => ?_, rfl, laneId, .inl rfl⟩
    simp [addLaneIdNode, h x]
  | some laneModel =>
    obtain ⟨hnodup, hmem, href, -⟩ := h
    rw [Option.getD_some, addLaneIdNode]
    split
    case isTrue hin =>
      refine ⟨hnodup, fun x => ?_, href, laneId, .inl rfl⟩
      rw [hmem]
      exact ⟨.inr, fun hx => hx.elim (fun heq => heq ▸ (hmem laneId).mp hin) id⟩
    case isFalse hnot =>
      rw [if_neg (by decide)]
      refine ⟨List.nodup_cons.mpr ⟨hnot, hnodup⟩, fun x => ?_, ?_, laneId, .inl rfl⟩
      · rw [List.mem_cons, hmem]
      · rw [UInt32.toNat_add, href]
        exact Nat.mod_eq_of_lt hlen

theorem Stored.delete (h : Stored bound stored) (laneId : UInt32) :
    Stored (fun x => bound x ∧ x ≠ laneId) (stored.bind (ProfileMap.afterUnbind laneId)) := by
  cases stored with
  | none => exact fun x hx => h x hx.1
  | some laneModel =>
    obtain ⟨hnodup, hmem, href, hsome⟩ := h
    have hdelete : (laneModel.deleteLaneIdNode laneId).laneIdList = laneModel.laneIdList.erase laneId ∧
        (laneModel.deleteLaneIdNode laneId).ref.toNat = (laneModel.laneIdList.erase laneId).length := by
      rw [deleteLaneIdNode]
      split
      case isTrue hin =>
        have hpos := List.length_pos_of_mem hin
        refine ⟨rfl, ?_⟩
        rw [← href] at hpos
        rw [List.length_erase_of_mem hin, ← href]
        exact UInt32.toNat_sub_of_le _ _ (UInt32.le_iff_toNat_le.mpr hpos)
      case isFalse hnot => rw [List.erase_of_not_mem hnot]; exact ⟨rfl, href⟩
    have hleft : ∀ x, x ∈ laneModel.laneIdList.erase laneId ↔ bound x ∧ x ≠ laneId := fun x => by
      rw [hnodup.mem_erase_iff, hmem, and_comm]
    have hempty : (laneModel.deleteLaneIdNode laneId).ref = 0 ↔ (laneModel.laneIdList.erase laneId).length = 0 := by
      rw [← hdelete.2]
      exact UInt32.toNat_inj.symm
    rw [Option.bind_some, ProfileMap.afterUnbind]
    split
    case isTrue hzero =>
      intro x hx
      rw [← hleft, List.length_eq_zero_iff.mp (hempty.mp hzero)] at hx
      exact absurd hx List.not_mem_nil
    case isFalse hne =>
      obtain ⟨x, hx⟩ := List.exists_mem_of_length_pos (Nat.pos_of_ne_zero (mt hempty.mpr hne))
      refine ⟨hdelete.1 ▸ hnodup.erase laneId, fun y => by rw [hdelete.1, hleft], ?_, x, (hleft x).mp hx⟩
      rw [hdelete.1, hdelete.2]

end LaneModel

/-- Each profile is stored as its bound lanes ask for. -/
def ProfileMap.Counts (s : Map LaneModel × List (UInt32 × UInt32)) : Prop :=
  ∀ profileId, LaneModel.Stored (fun laneId => (laneId, profileId) ∈ s.2) (ProfileMap.lnnReadData s.1 profileId)

/-- The stored profiles are sound, and each is what its bound lanes ask for. -/
def ProfileMap.Inv (s : Map LaneModel × List (UInt32 × UInt32)) : Prop := (∃ f, Map.Refines s.1 f) ∧ Counts s

namespace LaneModelCall

open ProfileMap

theorem inv_step {s : Map LaneModel × List (UInt32 × UInt32)} (h : Inv s) (call : LaneModelCall) (hfits : Fits s call) :
    Inv (step s call) := by
  obtain ⟨⟨f, hf⟩, hcounts⟩ := h
  have hstored : ∀ profileId, LaneModel.Stored (fun laneId => (laneId, profileId) ∈ s.2) (f (keyStr profileId)) :=
    fun profileId => refines_lnnReadData hf profileId ▸ hcounts profileId
  cases call with
  | bind laneId profile mem =>
    rcases refines_bind hf laneId profile mem with ⟨hok, profile', hrefines⟩ | ⟨herr, hrefines⟩
    · refine ⟨⟨_, hrefines⟩, fun profileId => ?_⟩
      rw [step, if_pos hok, refines_lnnReadData hrefines]
      by_cases hid : profileId = generateLaneProfileId profile
      · subst hid
        have hlen := hfits.2
        rw [refines_lnnReadData hf] at hlen
        rw [Function.update_self, hfits.1]
        simpa using (hstored _).add hlen laneId profile'
      · rw [Function.update_of_ne fun heq => hid (keyStr_injective heq)]
        simpa [hid] using hstored profileId
    · refine ⟨⟨_, hrefines⟩, fun profileId => ?_⟩
      rw [step, if_neg herr, refines_lnnReadData hrefines]
      exact hstored profileId
  | unbind laneId id =>
    have hrefines := refines_unbind hf laneId id
    refine ⟨⟨_, hrefines⟩, fun profileId => ?_⟩
    rw [step, refines_lnnReadData hrefines]
    by_cases hid : profileId = id
    · subst hid
      rw [Function.update_self]
      simpa using (hstored _).delete laneId
    · rw [Function.update_of_ne fun heq => hid (keyStr_injective heq)]
      simpa [hid] using hstored profileId

/-- After calls with memory for the nodes of the lanes a profile is stored exactly while a lane is bound to it, with each
of its lanes once and their number. -/
theorem lane_profile_counts (calls : List LaneModelCall) (hfits : Run.Always step Fits ({}, []) calls) :
    Counts (Run.final step ({}, []) calls) := by
  have hinit : Inv (({}, []) : Map LaneModel × List (UInt32 × UInt32)) := ⟨⟨_, .init⟩, fun _ _ h => nomatch h⟩
  have hfinal : Inv (Run.final step ({}, []) calls) :=
    Run.inv_final (fun s call (h : Inv s) hc => inv_step h call hc) calls hinit hfits
  exact hfinal.2

/-- Two lanes are bound to one profile, one of them twice, and another lane is unbound from it. -/
theorem lane_profile_counts_shared :
    let profile : LaneProfile := ⟨0, 1, 2, 3⟩
    let calls : List LaneModelCall :=
      [bind 5 profile {}, bind 6 profile {}, bind 5 profile {}, unbind 9 (generateLaneProfileId profile)]
    (lnnReadData (Run.final step ({}, []) calls).1 (generateLaneProfileId profile)).map (·.laneIdList) = some [6, 5] ∧
    Counts (Run.final step ({}, []) calls) :=
  ⟨by decide +kernel, lane_profile_counts _ (by decide +kernel)⟩

/-- Without memory for the node of its first lane a profile is stored with none, and the call returns OK. -/
theorem lane_profile_without_lane :
    let profile : LaneProfile := ⟨0, 1, 2, 3⟩
    let s := Run.final step ({}, []) [bind 5 profile { laneId := false }]
    s.2 = [(5, generateLaneProfileId profile)] ∧
    (lnnReadData s.1 (generateLaneProfileId profile)).map (·.laneIdList) = some [] ∧ ¬ Counts s := by
  intro profile s
  have hread : (lnnReadData s.1 (generateLaneProfileId profile)).map (·.laneIdList) = some [] := by decide +kernel
  refine ⟨by decide +kernel, hread, fun h => ?_⟩
  obtain ⟨model, hmodel, hnil⟩ := Option.map_eq_some_iff.mp hread
  have hstored := h (generateLaneProfileId profile)
  rw [hmodel] at hstored
  obtain ⟨-, hmem, -, laneId, hbound⟩ := hstored
  exact nomatch hnil ▸ (hmem laneId).mpr hbound

end LaneModelCall

end SoftBus
