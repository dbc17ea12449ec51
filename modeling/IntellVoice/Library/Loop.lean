import Mathlib

/-! A loop over keys that threads a state and stops at an answer `false`. -/

namespace Loop
open List
variable {κ σ : Type*} {f : κ → σ → Bool × σ}

def visitUntil (f : κ → σ → Bool × σ) : List κ → σ → σ
  | [], s => s
  | k :: ks, s => if (f k s).1 then visitUntil f ks (f k s).2 else (f k s).2

lemma visitUntil_invariant {I : σ → Prop} (hf : ∀ k s, I s → I (f k s).2) (ks : List κ) {s : σ}
    (hs : I s) : I (visitUntil f ks s) := by
  induction ks generalizing s with
  | nil => exact hs
  | cons k ks ih =>
    unfold visitUntil
    split
    · exact ih (hf k s hs)
    · exact hf k s hs

lemma visitUntil_each {I : σ → Prop} {Q : κ → σ → Prop}
    (hcont : ∀ k s, I s → (f k s).1) (hf : ∀ k s, I s → I (f k s).2)
    (hvisit : ∀ k s, I s → Q k (f k s).2)
    (hkeep : ∀ k k' s, I s → Q k' s → Q k' (f k s).2) (ks : List κ) {s : σ} (hs : I s) :
    ∀ k ∈ ks, Q k (visitUntil f ks s) := by
  -- a key already visited keeps its property through the rest of the loop
  have hrest : ∀ (ks : List κ) (k : κ) (s : σ), I s → Q k s → Q k (visitUntil f ks s) := by
    intro ks k
    induction ks with
    | nil => exact fun s _ hq => hq
    | cons k' ks ih =>
      intro s hs hq
      rw [visitUntil, if_pos (hcont k' s hs)]
      exact ih _ (hf k' s hs) (hkeep k' k s hs hq)
  induction ks generalizing s with
  | nil => simp
  | cons k' ks ih =>
    intro k hk
    rw [visitUntil, if_pos (hcont k' s hs)]
    rcases mem_cons.1 hk with rfl | hk
    · exact hrest ks k _ (hf k s hs) (hvisit k s hs)
    · exact ih (hf k' s hs) k hk

def visitAt [DecidableEq κ] (f : κ → σ → Bool × σ) (k : κ) : List κ → σ → Option σ
  | [], _ => none
  | k' :: ks, s =>
    if k' = k then some s else if (f k' s).1 then visitAt f k ks (f k' s).2 else none

lemma visitAt_of_notMem [DecidableEq κ] {k : κ} {ks : List κ} (hk : k ∉ ks) (s : σ) :
    visitAt f k ks s = none := by
  induction ks generalizing s with
  | nil => rfl
  | cons u ks ih =>
    rw [mem_cons, not_or] at hk
    rw [visitAt, if_neg (Ne.symm hk.1)]
    split
    · exact ih hk.2 _
    · rfl

lemma visitUntil_reached {κ : Type*} [LinearOrder κ] {f : κ → σ → Bool × σ} {I : σ → Prop}
    {g : κ → Bool} {F D : κ → σ → Prop} (hflag : ∀ k s, I s → F k s → (f k s).1 = g k)
    (hI : ∀ k s, I s → F k s → I (f k s).2)
    (hfresh : ∀ k k' s, I s → F k s → k' ≠ k → F k' s → F k' (f k s).2)
    (hdone : ∀ k s, I s → F k s → D k (f k s).2)
    (hkeep : ∀ k k' s, I s → F k s → k' ≠ k → D k' s → D k' (f k s).2)
    {ks : List κ} (hks : ks.Pairwise (· < ·)) {s : σ} (hs : I s) (hall : ∀ k ∈ ks, F k s)
    {k : κ} (hk : k ∈ ks) : ((∀ u ∈ ks, u < k → g u) ∧ D k (visitUntil f ks s) ∧
      ∃ s', visitAt f k ks s = some s' ∧ I s' ∧ F k s') ∨
    ((∃ u ∈ ks, u < k ∧ g u = false) ∧ F k (visitUntil f ks s) ∧ visitAt f k ks s = none) := by
  -- a key whose round is over keeps its result through the rest of the loop
  have hrest : ∀ (ks : List κ) (k : κ) (s : σ), (∀ u ∈ ks, k < u) → ks.Pairwise (· < ·) → I s →
      (∀ u ∈ ks, F u s) → D k s → D k (visitUntil f ks s) := by
    intro ks k
    induction ks with
    | nil => exact fun s _ _ _ _ hd => hd
    | cons u ks ih =>
      intro s hlt hks hs hall hd
      obtain ⟨hu, hks⟩ := pairwise_cons.1 hks
      have hfu := hall u mem_cons_self
      have hd' := hkeep u k s hs hfu (ne_of_lt (hlt u mem_cons_self)) hd
      rw [visitUntil]
      split
      · refine ih _ (fun v hv => hlt v (mem_cons_of_mem u hv)) hks (hI u s hs hfu) ?_ hd'
        exact fun v hv => hfresh u v s hs hfu (ne_of_gt (hu v hv))
          (hall v (mem_cons_of_mem u hv))
      · exact hd'
  induction ks generalizing s with
  | nil => cases hk
  | cons u ks ih =>
    obtain ⟨hu, htail⟩ := pairwise_cons.1 hks
    have hfu := hall u mem_cons_self
    have hnext : ∀ v ∈ ks, F v (f u s).2 := fun v hv =>
      hfresh u v s hs hfu (ne_of_gt (hu v hv)) (hall v (mem_cons_of_mem u hv))
    rcases mem_cons.1 hk with rfl | hk
    · -- its own round: no smaller key stands before it
      refine .inl ⟨fun v hv hlt => ?_, ?_, s, by rw [visitAt, if_pos rfl], hs, hfu⟩
      · rcases mem_cons.1 hv with rfl | hv
        · exact absurd hlt (lt_irrefl _)
        · exact absurd (hu v hv) (lt_asymm hlt)
      · rw [visitUntil]
        split
        · exact hrest ks k _ hu htail (hI k s hs hfu) hnext (hdone k s hs hfu)
        · exact hdone k s hs hfu
    · have hlt := hu k hk
      rw [visitUntil, visitAt, if_neg (ne_of_lt hlt), hflag u s hs hfu]
      cases hgoes : g u with
      | true =>
        rw [if_pos rfl, if_pos rfl]
        refine (ih htail (hI u s hs hfu) hnext hk).imp (fun h => ⟨fun v hv hvk => ?_, h.2⟩)
          (fun h => ⟨?_, h.2⟩)
        · rcases mem_cons.1 hv with rfl | hv
          · exact hgoes
          · exact h.1 v hv hvk
        · obtain ⟨v, hv, hvk⟩ := h.1
          exact ⟨v, mem_cons_of_mem u hv, hvk⟩
      | false =>
        rw [if_neg Bool.false_ne_true, if_neg Bool.false_ne_true]
        exact .inr ⟨⟨u, mem_cons_self, hlt, hgoes⟩,
          hfresh u k s hs hfu (ne_of_gt hlt) (hall k (mem_cons_of_mem u hk)), rfl⟩

section
variable {α κ : Type*} [LinearOrder κ]

def upTo (stop : α → Bool) : List α → List α
  | [] => []
  | a :: l => if stop a then [a] else a :: upTo stop l

lemma upTo_sublist (stop : α → Bool) (l : List α) : (upTo stop l).Sublist l := by
  induction l with
  | nil => exact List.Sublist.refl _
  | cons a l ih =>
    unfold upTo
    split
    · exact singleton_sublist.2 mem_cons_self
    · exact ih.cons_cons a

lemma mem_upTo {stop : α → Bool} {key : α → κ} {l : List α}
    (hl : l.Pairwise fun a b => key a < key b) {a : α} :
    a ∈ upTo stop l ↔ a ∈ l ∧ ∀ b ∈ l, key b < key a → stop b = false := by
  induction l with
  | nil => simp [upTo]
  | cons c l ih =>
    obtain ⟨hc, hl⟩ := pairwise_cons.1 hl
    -- nothing in the list stands before its head
    have hhead : ∀ b ∈ c :: l, ¬ key b < key c := by
      intro b hb
      rcases mem_cons.1 hb with rfl | hb
      · exact lt_irrefl _
      · exact lt_asymm (hc b hb)
    unfold upTo
    by_cases hstop : stop c
    · rw [if_pos hstop, mem_singleton]
      constructor
      · rintro rfl
        exact ⟨mem_cons_self, fun b hb hlt => absurd hlt (hhead b hb)⟩
      · rintro ⟨ha, hbefore⟩
        rcases mem_cons.1 ha with rfl | ha
        · rfl
        have := hbefore c mem_cons_self (hc a ha)
        rw [hstop] at this
        cases this
    · rw [if_neg hstop, mem_cons, ih hl]
      constructor
      · rintro (rfl | ⟨ha, hbefore⟩)
        · exact ⟨mem_cons_self, fun b hb hlt => absurd hlt (hhead b hb)⟩
        · refine ⟨mem_cons_of_mem _ ha, fun b hb hlt => ?_⟩
          rcases mem_cons.1 hb with rfl | hb
          · exact Bool.eq_false_iff.2 hstop
          · exact hbefore b hb hlt
      · rintro ⟨ha, hbefore⟩
        rcases mem_cons.1 ha with rfl | ha
        · exact .inl rfl
        · exact .inr ⟨ha, fun b hb => hbefore b (mem_cons_of_mem _ hb)⟩

end
end Loop
