import Mathlib.Data.List.Nodup
import Mathlib.Data.List.Perm.Basic

/-!
# Requests that are answered once

Requests are made under keys that are used again. Each request has a number of its own.
While a request is worked on there is one token with its key; the token moves through
queues until the request is answered. Notes are kept about a request on the side. All of
them carry the number of the request they are for. A `Ledger` says that keys and numbers
go together and that every request that was not withdrawn is answered once, when its
token is gone.
-/

namespace Answer

section
variable {κ : Type} {l l' : List (κ × Nat)}

def Matched (l : List (κ × Nat)) : Prop := ∀ a ∈ l, ∀ b ∈ l, a.1 = b.1 ↔ a.2 = b.2

theorem Matched.subset (h : Matched l) (hsub : ∀ a ∈ l', a ∈ l) : Matched l' :=
  fun a ha b hb => h a (hsub a ha) b (hsub b hb)

theorem Matched.cons {k : κ} {n : Nat} (h : Matched l) (hkey : ∀ a ∈ l, a.1 ≠ k) (hnum : ∀ a ∈ l, a.2 ≠ n) :
    Matched ((k, n) :: l) := by
  intro a ha b hb
  rcases List.mem_cons.mp ha with rfl | ha
  · rcases List.mem_cons.mp hb with rfl | hb
    · simp
    · exact ⟨fun heq => absurd heq.symm (hkey b hb), fun heq => absurd heq.symm (hnum b hb)⟩
  · rcases List.mem_cons.mp hb with rfl | hb
    · exact ⟨fun heq => absurd heq (hkey a ha), fun heq => absurd heq (hnum a ha)⟩
    · exact h a ha b hb

end

def bump (answers : Nat → Nat) (r : Nat) : Nat → Nat := fun x => if x = r then answers x + 1 else answers x

structure Ledger {κ : Type} (reqs notes toks : List (κ × Nat)) (issued : Nat) (withdrawn : List Nat)
    (answers : Nat → Nat) : Prop where
  matched : Matched (reqs ++ notes ++ toks)
  reqs_nodup : (reqs.map Prod.fst).Nodup
  notes_nodup : (notes.map Prod.fst).Nodup
  toks_nodup : (toks.map Prod.fst).Nodup
  known : ∀ t ∈ reqs ++ notes ++ toks, t.2 < issued
  waiting : ∀ q ∈ reqs, q.1 ∈ toks.map Prod.fst → answers q.2 = 0
  answered : ∀ q ∈ reqs, q.1 ∉ toks.map Prod.fst → answers q.2 = 1
  gone : ∀ r, r < issued → r ∉ withdrawn → r ∉ reqs.map Prod.snd → answers r = 1
  later : ∀ r, issued ≤ r → answers r = 0
  held : ∀ t ∈ toks, t ∈ reqs ∨ t.2 ∈ withdrawn

namespace Ledger

section
variable {κ : Type} {reqs reqs' notes notes' toks toks' : List (κ × Nat)} {issued : Nat} {withdrawn : List Nat}
  {answers : Nat → Nat}

theorem mem_tags_mono (hreqs : ∀ a ∈ reqs', a ∈ reqs) (hnotes : ∀ a ∈ notes', a ∈ notes) (htoks : ∀ a ∈ toks', a ∈ toks) :
    ∀ a ∈ reqs' ++ notes' ++ toks', a ∈ reqs ++ notes ++ toks := by
  intro a ha
  simp only [List.mem_append] at ha ⊢
  rcases ha with (ha | ha) | ha
  · exact .inl (.inl (hreqs a ha))
  · exact .inl (.inr (hnotes a ha))
  · exact .inr (htoks a ha)

theorem nil : Ledger (κ := κ) [] [] [] 0 [] fun _ => 0 :=
  ⟨fun _ ha => absurd ha List.not_mem_nil, List.nodup_nil, List.nodup_nil, List.nodup_nil,
    fun _ ht => absurd ht List.not_mem_nil, fun _ hq => absurd hq List.not_mem_nil,
    fun _ hq => absurd hq List.not_mem_nil, fun r hr => absurd hr (Nat.not_lt_zero r), fun _ _ => rfl,
    fun _ ht => absurd ht List.not_mem_nil⟩

theorem all_answered (h : Ledger reqs notes [] issued withdrawn answers) {r : Nat} (hr : r < issued)
    (hw : r ∉ withdrawn) :
    answers r = 1 := by
  by_cases hreq : r ∈ reqs.map Prod.snd
  · obtain ⟨q, hq, rfl⟩ := List.mem_map.mp hreq
    exact h.answered q hq (by simp)
  · exact h.gone r hr hw hreq

theorem perm (h : Ledger reqs notes toks issued withdrawn answers) (hperm : toks'.Perm toks) :
    Ledger reqs notes toks' issued withdrawn answers := by
  have hsub : ∀ a ∈ reqs ++ notes ++ toks', a ∈ reqs ++ notes ++ toks :=
    mem_tags_mono (fun _ ha => ha) (fun _ ha => ha) fun _ ha => hperm.mem_iff.mp ha
  have hkeys : ∀ k, k ∈ toks'.map Prod.fst ↔ k ∈ toks.map Prod.fst := fun k => (hperm.map Prod.fst).mem_iff
  refine ⟨h.matched.subset hsub, h.reqs_nodup, h.notes_nodup, (hperm.map Prod.fst).nodup_iff.mpr h.toks_nodup,
    fun t ht => h.known t (hsub t ht), fun q hq hk => h.waiting q hq ((hkeys q.1).mp hk),
    fun q hq hk => h.answered q hq fun hk' => hk ((hkeys q.1).mpr hk'), h.gone, h.later,
    fun t ht => h.held t (hperm.mem_iff.mp ht)⟩

theorem dropNotes (h : Ledger reqs notes toks issued withdrawn answers) (hsub : notes'.Sublist notes) :
    Ledger reqs notes' toks issued withdrawn answers := by
  have hmem : ∀ a ∈ reqs ++ notes' ++ toks, a ∈ reqs ++ notes ++ toks :=
    mem_tags_mono (fun _ ha => ha) (fun _ ha => hsub.subset ha) fun _ ha => ha
  exact ⟨h.matched.subset hmem, h.reqs_nodup, (hsub.map Prod.fst).nodup h.notes_nodup, h.toks_nodup,
    fun t ht => h.known t (hmem t ht), h.waiting, h.answered, h.gone, h.later, h.held⟩

theorem issue (h : Ledger reqs notes toks issued withdrawn answers) {k : κ}
    (hk : ∀ t ∈ reqs ++ notes ++ toks, t.1 ≠ k) :
    Ledger (reqs ++ [(k, issued)]) (notes ++ [(k, issued)]) (toks ++ [(k, issued)]) (issued + 1) withdrawn answers := by
  have hnew := h.matched.cons hk (fun t ht => Nat.ne_of_lt (h.known t ht))
  have hmem : ∀ a ∈ (reqs ++ [(k, issued)]) ++ (notes ++ [(k, issued)]) ++ (toks ++ [(k, issued)]),
      a ∈ (k, issued) :: (reqs ++ notes ++ toks) := by
    intro a ha
    simp only [List.mem_append, List.mem_cons] at ha ⊢
    tauto
  have hkey : ∀ l : List (κ × Nat), (∀ t ∈ l, t ∈ reqs ++ notes ++ toks) → k ∉ l.map Prod.fst := by
    intro l hl hk'
    obtain ⟨t, ht, rfl⟩ := List.mem_map.mp hk'
    exact hk t (hl t ht) rfl
  have hnodup : ∀ l : List (κ × Nat), (∀ t ∈ l, t ∈ reqs ++ notes ++ toks) → (l.map Prod.fst).Nodup →
      ((l ++ [(k, issued)]).map Prod.fst).Nodup := by
    intro l hl hn
    rw [List.map_append, List.map_singleton]
    exact hn.append (List.nodup_singleton k) (List.disjoint_singleton.mpr (hkey l hl))
  refine ⟨hnew.subset hmem, hnodup reqs (fun t ht => by simp [ht]) h.reqs_nodup,
      hnodup notes (fun t ht => by simp [ht]) h.notes_nodup,
    hnodup toks (fun t ht => by simp [ht]) h.toks_nodup, fun t ht => ?_, fun q hq hk' => ?_, fun q hq hk' => ?_,
    fun r hr hw hreq => ?_, fun r hr => h.later r (Nat.le_of_succ_le hr), fun t ht => ?_⟩
  · rcases List.mem_cons.mp (hmem t ht) with rfl | ht
    · exact Nat.lt_succ_self issued
    · exact Nat.lt_succ_of_lt (h.known t ht)
  · rcases List.mem_append.mp hq with hq | hq
    · refine h.waiting q hq ?_
      have hne := hk q (by simp [hq])
      simpa [hne] using hk'
    · cases List.mem_singleton.mp hq
      exact h.later issued (Nat.le_refl issued)
  · rcases List.mem_append.mp hq with hq | hq
    · exact h.answered q hq fun hk'' => hk' (by simp [List.map_append, hk''])
    · cases List.mem_singleton.mp hq
      exact absurd hk' (by simp)
  · have hne : r ≠ issued := by
      rintro rfl
      exact hreq (by simp)
    exact h.gone r (by omega) hw fun hreq' => hreq (by simp [List.map_append, hreq'])
  · rcases List.mem_append.mp ht with ht | ht
    · exact (h.held t ht).imp_left fun ht => List.mem_append_left _ ht
    · exact .inl (List.mem_append_right _ ht)

theorem dropReqs (h : Ledger reqs notes toks issued withdrawn answers) {withdrawn' : List Nat}
    (hsub : reqs'.Sublist reqs)
    (hgone : ∀ r, r < issued → r ∉ withdrawn' → r ∉ reqs'.map Prod.snd → answers r = 1)
    (hheld : ∀ t ∈ toks, t ∈ reqs' ∨ t.2 ∈ withdrawn') : Ledger reqs' notes toks issued withdrawn' answers := by
  have hmem : ∀ a ∈ reqs' ++ notes ++ toks, a ∈ reqs ++ notes ++ toks :=
    mem_tags_mono (fun _ ha => hsub.subset ha) (fun _ ha => ha) fun _ ha => ha
  exact ⟨h.matched.subset hmem, (hsub.map Prod.fst).nodup h.reqs_nodup, h.notes_nodup, h.toks_nodup,
    fun t ht => h.known t (hmem t ht), fun q hq => h.waiting q (hsub.subset hq), fun q hq => h.answered q (hsub.subset hq),
    hgone, h.later, hheld⟩

theorem withdraw (h : Ledger reqs notes toks issued withdrawn answers) {withdrawn' : List Nat}
    (hsub : reqs'.Sublist reqs)
    (hw : ∀ r ∈ withdrawn, r ∈ withdrawn') (hdel : ∀ q ∈ reqs, q ∈ reqs' ∨ q.2 ∈ withdrawn') :
    Ledger reqs' notes toks issued withdrawn' answers := by
  refine h.dropReqs hsub (fun r hr hr' hreq => ?_) fun t ht => ?_
  · refine h.gone r hr (fun hr'' => hr' (hw r hr'')) fun hmap => ?_
    obtain ⟨q, hq, rfl⟩ := List.mem_map.mp hmap
    rcases hdel q hq with hq | hq
    · exact hreq (List.mem_map_of_mem hq)
    · exact hr' hq
  · rcases h.held t ht with ht | ht
    · exact hdel t ht
    · exact .inr (hw t.2 ht)

theorem waste (h : Ledger reqs notes toks issued withdrawn answers) {t : κ × Nat} (htoks : toks.Perm (t :: toks'))
    (hnone : ∀ q ∈ reqs, q.1 ≠ t.1) : Ledger reqs notes toks' issued withdrawn answers := by
  have h' := h.perm htoks.symm
  have hmem : ∀ a ∈ reqs ++ notes ++ toks', a ∈ reqs ++ notes ++ (t :: toks') :=
    mem_tags_mono (fun _ ha => ha) (fun _ ha => ha) fun _ ha => List.mem_cons_of_mem t ha
  refine ⟨h'.matched.subset hmem, h.reqs_nodup, h.notes_nodup, (List.nodup_cons.mp h'.toks_nodup).2,
    fun a ha => h'.known a (hmem a ha), fun q hq hk => h'.waiting q hq (List.mem_cons_of_mem _ hk),
    fun q hq hk => h'.answered q hq fun hk' => ?_, h.gone, h.later,
    fun a ha => h'.held a (List.mem_cons_of_mem t ha)⟩
  rcases List.mem_cons.mp hk' with heq | hk'
  · exact hnone q hq heq
  · exact hk hk'

theorem answer (h : Ledger reqs notes toks issued withdrawn answers) {q t : κ × Nat} (htoks : toks.Perm (t :: toks'))
    (hq : q ∈ reqs) (hkey : q.1 = t.1) : Ledger reqs notes toks' issued withdrawn (bump answers q.2) := by
  have h' := h.perm htoks.symm
  have hmem : ∀ a ∈ reqs ++ notes ++ toks', a ∈ reqs ++ notes ++ (t :: toks') :=
    mem_tags_mono (fun _ ha => ha) (fun _ ha => ha) fun _ ha => List.mem_cons_of_mem t ha
  have hreq : ∀ a ∈ reqs, a ∈ reqs ++ notes ++ (t :: toks') := fun a ha =>
    List.mem_append_left _ (List.mem_append_left _ ha)
  have ht : t.1 ∉ toks'.map Prod.fst := (List.nodup_cons.mp h'.toks_nodup).1
  -- the other requests have another key, so another number
  have hother : ∀ a ∈ reqs, a.1 ≠ t.1 → a.2 ≠ q.2 := fun a ha hne heq =>
    hne (((h'.matched a (hreq a ha) q (hreq q hq)).mpr heq).trans hkey)
  refine ⟨h'.matched.subset hmem, h.reqs_nodup, h.notes_nodup, (List.nodup_cons.mp h'.toks_nodup).2,
    fun a ha => h'.known a (hmem a ha), fun a ha hk => ?_, fun a ha hk => ?_, fun r hr hw hne => ?_, fun r hr => ?_,
    fun a ha => h'.held a (List.mem_cons_of_mem t ha)⟩
  · have hne : a.1 ≠ t.1 := fun heq => ht (heq ▸ hk)
    rw [bump, if_neg (hother a ha hne)]
    exact h'.waiting a ha (List.mem_cons_of_mem _ hk)
  · by_cases heq : a.1 = t.1
    · have hnum := (h'.matched a (hreq a ha) q (hreq q hq)).mp (heq.trans hkey.symm)
      rw [bump, if_pos hnum, h'.waiting a ha (by rw [heq]; exact List.mem_cons_self)]
    · rw [bump, if_neg (hother a ha heq)]
      refine h'.answered a ha fun hk' => ?_
      rcases List.mem_cons.mp hk' with heq' | hk'
      · exact heq heq'
      · exact hk hk'
  · have hne' : r ≠ q.2 := fun heq => hne (heq ▸ List.mem_map_of_mem hq)
    rw [bump, if_neg hne']
    exact h.gone r hr hw hne
  · have hlt := h'.known q (hreq q hq)
    have hne : r ≠ q.2 := by omega
    rw [bump, if_neg hne]
    exact h.later r hr

theorem close (h : Ledger reqs notes toks issued withdrawn answers) (hsub : reqs'.Sublist reqs)
    (hdel : ∀ q ∈ reqs, q ∈ reqs' ∨ q.1 ∉ toks.map Prod.fst) : Ledger reqs' notes toks issued withdrawn answers := by
  refine h.dropReqs hsub (fun r hr hw hreq => ?_) fun t ht => ?_
  · by_cases hr' : r ∈ reqs.map Prod.snd
    · obtain ⟨q, hq, rfl⟩ := List.mem_map.mp hr'
      rcases hdel q hq with hq' | hq'
      · exact absurd (List.mem_map_of_mem hq') hreq
      · exact h.answered q hq hq'
    · exact h.gone r hr hw hr'
  · rcases h.held t ht with hreq | hw
    · exact .inl ((hdel t hreq).resolve_right fun hnot => hnot (List.mem_map_of_mem ht))
    · exact .inr hw

end

end Ledger

end Answer
