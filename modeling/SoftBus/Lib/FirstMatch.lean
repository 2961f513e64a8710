import Mathlib.Data.List.Nodup
import Mathlib.Data.List.Pairwise
import Mathlib.Data.List.Perm.Basic

/-!
# Writing to the first match

A list of records that are looked up by a test: the first record that passes
is found by `List.find?`, taken out by `List.eraseP` and written to in place
by `modify`. `alter` also adds or takes out a record.
-/

namespace FirstMatch

variable {α β : Type} {p : α → Bool} {f : α → α} {l : List α}

def modify (p : α → Bool) (f : α → α) : List α → List α
  | [] => []
  | x :: l => if p x then f x :: l else x :: modify p f l

def put (p : α → Bool) : Option α → List α → List α
  | some y, l => modify p (fun _ => y) l
  | none, l => l.eraseP p

theorem map_modify (g : α → β) : ∀ {l : List α}, (∀ x ∈ l, p x → g (f x) = g x) → (modify p f l).map g = l.map g
  | [], _ => rfl
  | x :: l, h => by
    rw [modify]
    split
    case isTrue hx => rw [List.map_cons, h x List.mem_cons_self hx, List.map_cons]
    case isFalse => rw [List.map_cons, map_modify g fun y hy => h y (List.mem_cons_of_mem x hy), List.map_cons]

theorem mem_modify : ∀ {l : List α} {y : α}, y ∈ modify p f l → y ∈ l ∨ ∃ x ∈ l, p x ∧ y = f x
  | x :: l, y, h => by
    rw [modify] at h
    split at h
    case isTrue hx =>
      rcases List.mem_cons.mp h with rfl | h
      · exact .inr ⟨x, List.mem_cons_self, hx, rfl⟩
      · exact .inl (List.mem_cons_of_mem x h)
    case isFalse =>
      rcases List.mem_cons.mp h with rfl | h
      · exact .inl List.mem_cons_self
      · rcases mem_modify h with h | ⟨z, hz, hp⟩
        · exact .inl (List.mem_cons_of_mem x h)
        · exact .inr ⟨z, List.mem_cons_of_mem x hz, hp⟩

theorem pairwise_modify {R : α → α → Prop} (hy : ∀ x y, R x y → p y → R x (f y)) : ∀ {l : List α},
    (∀ x ∈ l, p x → ∀ y ∈ l, R (f x) y) → l.Pairwise R → (modify p f l).Pairwise R
  | [], _, _ => .nil
  | x :: l, hx, h => by
    obtain ⟨hhead, htail⟩ := List.pairwise_cons.mp h
    rw [modify]
    split
    case isTrue hpx =>
      exact List.pairwise_cons.mpr ⟨fun y hmem => hx x List.mem_cons_self hpx y (List.mem_cons_of_mem x hmem), htail⟩
    case isFalse =>
      refine List.pairwise_cons.mpr ⟨fun y hmem => ?_, pairwise_modify hy (fun z hz hpz y hmem =>
        hx z (List.mem_cons_of_mem x hz) hpz y (List.mem_cons_of_mem x hmem)) htail⟩
      rcases mem_modify hmem with hmem | ⟨z, hz, hpz, rfl⟩
      · exact hhead y hmem
      · exact hy x z (hhead z hz) hpz

theorem rel_of_find? {R : α → α → Prop} {x y : α} (hrefl : ∀ z ∈ l, R z z) (h : l.Pairwise R)
    (hx : l.find? p = some x) (hy : y ∈ l) (hpy : p y) : R x y := by
  obtain ⟨-, before, after, rfl, hbefore⟩ := List.find?_eq_some_iff_append.mp hx
  rcases List.mem_append.mp hy with hy | hy
  · exact absurd hpy (by simpa using hbefore y hy)
  · rcases List.mem_cons.mp hy with rfl | hy
    · exact hrefl y (by simp)
    · exact (List.pairwise_cons.mp (List.pairwise_append.mp h).2.1).1 y hy

theorem mem_modify_tail : ∀ {l : List α} {y : α}, y ∈ modify p f l →
    (∃ x, l.find? p = some x ∧ y = f x) ∨ y ∈ l ∧ (p y → y ∈ (l.filter p).tail)
  | x :: l, y, h => by
    rw [modify] at h
    rw [List.find?_cons, List.filter_cons]
    cases hx : p x with
    | true =>
      rw [hx, if_pos rfl] at h
      rcases List.mem_cons.mp h with rfl | h
      · exact .inl ⟨x, rfl, rfl⟩
      · exact .inr ⟨.tail _ h, fun hy => List.mem_filter.mpr ⟨h, hy⟩⟩
    | false =>
      rw [hx, if_neg (by simp)] at h
      rcases List.mem_cons.mp h with rfl | h
      · exact .inr ⟨.head _, fun hy => absurd hy (by simp [hx])⟩
      · rcases mem_modify_tail h with h | ⟨hmem, hy⟩
        · exact .inl h
        · exact .inr ⟨.tail _ hmem, hy⟩

theorem mem_modify_of_not : ∀ {l : List α} {x : α}, x ∈ l → ¬ p x → x ∈ modify p f l
  | y :: l, x, hx, hp => by
    rw [modify]
    rcases List.mem_cons.mp hx with rfl | hx
    · rw [if_neg hp]
      exact List.mem_cons_self
    · split
      · exact List.mem_cons_of_mem _ hx
      · exact List.mem_cons_of_mem y (mem_modify_of_not hx hp)

theorem find?_modify (hf : ∀ x, p x → p (f x)) : ∀ l : List α, (modify p f l).find? p = (l.find? p).map f
  | [] => rfl
  | x :: l => by
    rw [modify, List.find?_cons]
    cases hx : p x with
    | true => rw [if_pos rfl, List.find?_cons, hf x hx]; rfl
    | false => rw [if_neg (by simp), List.find?_cons, hx]; exact find?_modify hf l

theorem length_modify (l : List α) : (modify p f l).length = l.length := by
  simpa using congrArg List.length (map_modify (p := p) (f := f) (fun _ => ()) (l := l) fun _ _ _ => rfl)

theorem flatMap_modify_sublist {g : α → List β} (h : ∀ x, (g (f x)).Sublist (g x)) :
    ∀ l : List α, ((modify p f l).flatMap g).Sublist (l.flatMap g)
  | [] => .slnil
  | x :: l => by
    rw [modify]
    split
    · exact (h x).append (.refl _)
    · exact (List.Sublist.refl _).append (flatMap_modify_sublist h l)

theorem flatMap_modify_perm {g : α → List β} {x : α} : ∀ {l : List α}, l.find? p = some x →
    (g x ++ (modify p f l).flatMap g).Perm (g (f x) ++ l.flatMap g)
  | y :: l, h => by
    rw [List.find?_cons] at h
    rw [modify]
    split at h
    case h_1 hy =>
      cases h
      rw [if_pos hy]
      exact List.perm_append_comm_assoc ..
    case h_2 hy =>
      rw [if_neg (by simp [hy])]
      refine (List.perm_append_comm_assoc ..).trans (((flatMap_modify_perm h).append_left (g y)).trans ?_)
      exact List.perm_append_comm_assoc ..

theorem eraseP_perm {x : α} : ∀ {l : List α}, l.find? p = some x → l.Perm (x :: l.eraseP p)
  | y :: l, h => by
    rw [List.find?_cons] at h
    rw [List.eraseP_cons]
    cases hy : p y with
    | true =>
      rw [hy] at h
      cases h
      exact .refl _
    | false =>
      rw [hy] at h
      exact ((eraseP_perm h).cons y).trans (.swap x y _)

theorem modify_perm {x : α} (h : l.find? p = some x) : (modify p f l).Perm (f x :: l.eraseP p) := by
  have hmove : (x :: modify p f l).Perm (f x :: l) := by
    simpa using flatMap_modify_perm (f := f) (g := fun y => [y]) h
  exact (hmove.trans (((eraseP_perm h).cons (f x)).trans (.swap x (f x) _))).cons_inv

theorem length_eraseP_of_find? {x : α} (h : l.find? p = some x) : (l.eraseP p).length + 1 = l.length :=
  (eraseP_perm h).length_eq.symm

theorem mem_modify_key {κ : Type} [DecidableEq κ] {key : α → κ} {k : κ} {y : α} : ∀ {l : List α},
    (l.map key).Nodup → y ∈ modify (key · = k) f l → (y ∈ l ∧ key y ≠ k) ∨ ∃ x ∈ l, key x = k ∧ y = f x
  | x :: l, hnodup, hy => by
    obtain ⟨hx, hnodup⟩ := List.nodup_cons.mp hnodup
    rw [modify] at hy
    by_cases hk : key x = k
    · rw [if_pos (decide_eq_true hk)] at hy
      rcases List.mem_cons.mp hy with rfl | hy
      · exact .inr ⟨x, .head _, hk, rfl⟩
      · exact .inl ⟨.tail _ hy, fun hyk => hx (List.mem_map.mpr ⟨y, hy, hyk.trans hk.symm⟩)⟩
    · rw [if_neg (by simpa using hk)] at hy
      rcases List.mem_cons.mp hy with rfl | hy
      · exact .inl ⟨.head _, hk⟩
      · rcases mem_modify_key hnodup hy with ⟨hy, hyk⟩ | ⟨z, hz, hzk, rfl⟩
        · exact .inl ⟨.tail _ hy, hyk⟩
        · exact .inr ⟨z, .tail _ hz, hzk, rfl⟩

theorem find?_key {κ : Type} [DecidableEq κ] {key : α → κ} (hnodup : (l.map key).Nodup) {x : α} (hx : x ∈ l) :
    l.find? (key · = key x) = some x := by
  cases hfind : l.find? (key · = key x) with
  | none => exact absurd (List.find?_eq_none.mp hfind x hx) (by simp)
  | some y =>
    have hkey : key y = key x := by simpa using List.find?_some hfind
    rw [List.inj_on_of_nodup_map hnodup (List.mem_of_find?_eq_some hfind) hx hkey]

theorem filter_key {κ : Type} [DecidableEq κ] {key : α → κ} (k : κ) : ∀ {l : List α}, (l.map key).Nodup →
    l.filter (key · = k) = (l.find? (key · = k)).toList
  | [], _ => rfl
  | x :: l, hnodup => by
    obtain ⟨hx, hnodup⟩ := List.nodup_cons.mp hnodup
    rw [List.filter_cons, List.find?_cons]
    by_cases hk : key x = k
    · have hnone : l.filter (key · = k) = [] :=
        List.filter_eq_nil_iff.mpr fun y hy hyk => hx (List.mem_map.mpr ⟨y, hy, by simpa [hk] using hyk⟩)
      rw [decide_eq_true hk, if_pos rfl, hnone]
      rfl
    · rw [decide_eq_false hk, if_neg Bool.false_ne_true]
      exact filter_key k hnodup

theorem eraseP_eq_filter {κ : Type} {key : α → κ} {k : κ} (hp : ∀ x, p x = true ↔ key x = k) : ∀ {l : List α},
    (l.map key).Nodup → l.eraseP p = l.filter (!p ·)
  | [], _ => rfl
  | x :: l, hnodup => by
    obtain ⟨hx, hnodup⟩ := List.nodup_cons.mp hnodup
    by_cases hpx : p x = true
    · rw [List.eraseP_cons_of_pos hpx, List.filter_cons_of_neg (by simp [hpx]), List.filter_eq_self.mpr]
      intro y hy
      have hne : key y ≠ k := fun heq => hx ((hp x).mp hpx ▸ heq ▸ List.mem_map_of_mem hy)
      simpa [← hp] using hne
    · rw [List.eraseP_cons_of_neg hpx, List.filter_cons_of_pos (by simp [hpx]), eraseP_eq_filter hp hnodup]

theorem filter_eq_filter_iff {q : α → Bool} : l.filter p = l.filter q ↔ ∀ x ∈ l, p x = q x := by
  refine ⟨fun h x hx => ?_, List.filter_congr⟩
  have hmem : x ∈ l.filter p ↔ x ∈ l.filter q := by rw [h]
  rw [List.mem_filter, List.mem_filter, and_iff_right hx, and_iff_right hx] at hmem
  exact Bool.eq_iff_iff.mpr hmem

section
variable {q : α → Bool}

theorem find?_filter_of_imp : ∀ {l : List α}, (∀ x ∈ l, p x → q x) → (l.filter q).find? p = l.find? p
  | [], _ => rfl
  | x :: l, h => by
    have ih := find?_filter_of_imp (l := l) fun y hy => h y (.tail _ hy)
    rw [List.filter_cons, List.find?_cons]
    cases hp : p x with
    | true =>
      rw [if_pos (h x (.head _) hp), List.find?_cons, hp]
    | false =>
      cases hq : q x with
      | true => rw [if_pos rfl, List.find?_cons, hp, ih]
      | false => rw [if_neg (by simp), ih]

theorem filter_modify_of_not : ∀ {l : List α}, (∀ x ∈ l, p x → q x = false ∧ q (f x) = false) →
    (modify p f l).filter q = l.filter q
  | [], _ => rfl
  | x :: l, h => by
    have ih := filter_modify_of_not (l := l) fun y hy => h y (.tail _ hy)
    rw [modify]
    cases hp : p x with
    | true =>
      obtain ⟨hq, hq'⟩ := h x (.head _) hp
      simp [hq, hq']
    | false => simp only [Bool.false_eq_true, if_false, List.filter_cons, ih]

theorem filter_modify_of_imp : ∀ {l : List α}, (∀ x ∈ l, p x → q x = true ∧ q (f x) = true) →
    (modify p f l).filter q = modify p f (l.filter q)
  | [], _ => rfl
  | x :: l, h => by
    have ih := filter_modify_of_imp (l := l) fun y hy => h y (.tail _ hy)
    rw [modify]
    cases hp : p x with
    | true =>
      obtain ⟨hq, hq'⟩ := h x (.head _) hp
      simp [hq, hq', modify, hp]
    | false =>
      simp only [Bool.false_eq_true, if_false, List.filter_cons, ih]
      split
      · rw [modify, hp, if_neg (by simp)]
      · rfl

end

/-! ## Replacing the first match -/

section
variable {o : Option α} {x : α}

theorem put_split (o : Option α) : ∀ {l : List α}, l.find? p = some x →
    ∃ before after, l = before ++ x :: after ∧ put p o l = before ++ o.toList ++ after
  | y :: l, h => by
    rw [List.find?_cons] at h
    cases hy : p y with
    | true =>
      rw [hy] at h
      cases h
      refine ⟨[], l, rfl, ?_⟩
      cases o <;> simp [put, modify, hy]
    | false =>
      rw [hy] at h
      obtain ⟨before, after, hl, hput⟩ := put_split o h
      refine ⟨y :: before, after, by rw [hl, List.cons_append], ?_⟩
      rw [List.cons_append, List.cons_append, ← hput]
      cases o <;> simp [put, modify, hy]

theorem flatMap_put_perm {g : α → List β} (h : l.find? p = some x) :
    (g x ++ (put p o l).flatMap g).Perm (o.toList.flatMap g ++ l.flatMap g) := by
  obtain ⟨before, after, rfl, hput⟩ := put_split o h
  rw [hput]
  simp only [List.flatMap_append, List.flatMap_cons]
  refine (List.perm_append_comm_assoc ..).trans ?_
  rw [← List.append_assoc (o.toList.flatMap g)]
  exact List.perm_append_comm.append_right _

theorem nodup_put {κ : Type} {key : α → κ} (hnodup : (l.map key).Nodup) (h : l.find? p = some x)
    (ho : ∀ y, o = some y → key y = key x) : ((put p o l).map key).Nodup := by
  obtain ⟨before, after, rfl, hput⟩ := put_split o h
  rw [hput]
  cases o with
  | none =>
    refine hnodup.sublist (List.Sublist.map _ ?_)
    simp
  | some y => simpa [ho y rfl] using hnodup

theorem find?_put {κ : Type} [DecidableEq κ] {key : α → κ} (hnodup : (l.map key).Nodup) (h : l.find? p = some x)
    (ho : ∀ y, o = some y → key y = key x) (k : κ) :
    (put p o l).find? (key · = k) = if k = key x then o else l.find? (key · = k) := by
  obtain ⟨before, after, rfl, hput⟩ := put_split o h
  rw [List.map_append, List.map_cons, List.nodup_append'] at hnodup
  obtain ⟨-, hafter, hdisj⟩ := hnodup
  have hbefore : key x ∉ before.map key := fun hx => hdisj hx (.head _)
  have hafter : key x ∉ after.map key := (List.nodup_cons.mp hafter).1
  have hnone (l' : List α) (hl' : key x ∉ l'.map key) : l'.find? (key · = key x) = none := by
    rw [List.find?_eq_none]
    intro y hy hkey
    exact hl' (List.mem_map.mpr ⟨y, hy, by simpa using hkey⟩)
  rw [hput, List.find?_append, List.find?_append, List.find?_append, List.find?_cons]
  by_cases hk : k = key x
  · subst hk
    rw [if_pos rfl, hnone before hbefore, hnone after hafter]
    cases o with
    | none => rfl
    | some y => simp [ho y rfl]
  · rw [if_neg hk]
    have hx : decide (key x = k) = false := decide_eq_false (Ne.symm hk)
    rw [hx]
    cases o with
    | none => simp
    | some y => simp [ho y rfl, Ne.symm hk]

end

/-! ## Changing the first match, or what is there without one -/

def alter (p : α → Bool) (g : Option α → Option α) : List α → List α
  | [] => (g none).toList
  | x :: l => if p x then (g (some x)).toList ++ l else x :: alter p g l

section
variable {q : α → Bool} {g : Option α → Option α}

theorem mem_alter {y : α} : ∀ {l : List α}, y ∈ alter p g l → y ∈ l ∨ y ∈ g (l.find? p)
  | [], h => .inr (Option.mem_toList.mp h)
  | x :: l, h => by
    rw [alter] at h
    rw [List.find?_cons, List.mem_cons]
    cases hp : p x with
    | true =>
      rw [hp, if_pos rfl, List.mem_append, Option.mem_toList] at h
      exact h.elim .inr fun hy => .inl (.inr hy)
    | false =>
      rw [hp, if_neg (by simp), List.mem_cons] at h
      exact h.elim (fun hy => .inl (.inl hy)) fun hy => (mem_alter hy).imp_left .inr

theorem alter_elim (y : α) : ∀ l : List α, alter p (fun x? => some (x?.elim y f)) l =
    match l.find? p with
    | none => l ++ [y]
    | some _ => modify p f l
  | [] => rfl
  | x :: l => by
    rw [alter, List.find?_cons, modify, alter_elim y l]
    cases hp : p x with
    | true => rfl
    | false =>
      cases l.find? p <;> rfl

/-- A view without the matches does not see the change. -/
theorem filter_alter_of_not : ∀ {l : List α}, (∀ x ∈ l, p x → q x = false) → (∀ y ∈ g (l.find? p), q y = false) →
    (alter p g l).filter q = l.filter q
  | [], _, hg => List.filter_eq_nil_iff.mpr fun y hy => by simp [hg y (Option.mem_toList.mp hy)]
  | x :: l, h, hg => by
    have ih := filter_alter_of_not (l := l) fun y hy => h y (.tail _ hy)
    rw [List.find?_cons] at hg
    rw [alter]
    cases hp : p x with
    | true =>
      rw [hp] at hg
      have hnil : (g (some x)).toList.filter q = [] :=
        List.filter_eq_nil_iff.mpr fun y hy => by simp [hg y (Option.mem_toList.mp hy)]
      simp [hnil, h x (.head _) hp]
    | false =>
      rw [hp] at hg
      simp only [Bool.false_eq_true, if_false, List.filter_cons, ih hg]

/-- A view with all the matches sees the same change. -/
theorem filter_alter_of_imp : ∀ {l : List α}, (∀ x ∈ l, p x → q x = true) → (∀ y ∈ g (l.find? p), q y = true) →
    (alter p g l).filter q = alter p g (l.filter q)
  | [], _, hg => List.filter_eq_self.mpr fun y hy => hg y (Option.mem_toList.mp hy)
  | x :: l, h, hg => by
    have ih := filter_alter_of_imp (l := l) fun y hy => h y (.tail _ hy)
    rw [List.find?_cons] at hg
    rw [alter, List.filter_cons]
    cases hp : p x with
    | true =>
      rw [hp] at hg
      have hself : (g (some x)).toList.filter q = (g (some x)).toList :=
        List.filter_eq_self.mpr fun y hy => hg y (Option.mem_toList.mp hy)
      rw [if_pos rfl, if_pos (h x (.head _) hp), List.filter_append, hself, alter, hp, if_pos rfl]
    | false =>
      rw [hp] at hg
      rw [if_neg (by simp), List.filter_cons, ih hg]
      split
      · rw [alter, hp, if_neg (by simp)]
      · rfl

end

end FirstMatch
