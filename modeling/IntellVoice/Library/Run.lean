import Mathlib

/-! A system is a function `step : σ → ε → Option σ`, defined where a label is enabled. -/

namespace Transition
variable {σ ε : Type*} {step : σ → ε → Option σ}

def run (step : σ → ε → Option σ) : σ → List ε → Option σ
  | s, [] => some s
  | s, e :: es => (step s e).bind fun t => run step t es

def Along (step : σ → ε → Option σ) (R : σ → ε → σ → Prop) : σ → List ε → Prop
  | _, [] => True
  | s, e :: es => ∀ t, step s e = some t → R s e t ∧ Along step R t es

@[simp] lemma run_nil (s : σ) : run step s [] = some s := rfl

@[simp] lemma run_cons (s : σ) (e : ε) (es : List ε) :
    run step s (e :: es) = (step s e).bind fun t => run step t es := rfl

variable {es : List ε} {e : ε} {P : ε → Prop} {s u : σ} {I : σ → Prop}

lemma run_cons_eq_some :
    run step s (e :: es) = some u ↔ ∃ t, step s e = some t ∧ run step t es = some u := by
  simp [Option.bind_eq_some_iff]

variable {R : σ → ε → σ → Prop}

@[simp] lemma along_nil (s : σ) : Along step R s [] := trivial

lemma along_cons :
    Along step R s (e :: es) ↔ ∀ t, step s e = some t → R s e t ∧ Along step R t es := Iff.rfl

lemma Along.of_step {t : σ} (hstep : step s e = some t) (hR : R s e t) (hrest : Along step R t es) :
    Along step R s (e :: es) := by
  intro u hu
  obtain rfl : t = u := Option.some.inj (hstep.symm.trans hu)
  exact ⟨hR, hrest⟩

lemma run_invariant (hstep : ∀ s e t, I s → R s e t → step s e = some t → I t) (hs : I s)
    (hR : Along step R s es) (hrun : run step s es = some u) : I u := by
  induction es generalizing s with
  | nil =>
    cases hrun
    exact hs
  | cons e es ih =>
    obtain ⟨t, ht, hrest⟩ := run_cons_eq_some.1 hrun
    obtain ⟨hRt, htail⟩ := hR t ht
    exact ih (hstep s e t hs hRt ht) htail hrest

lemma run_invariant_all (hstep : ∀ s e t, I s → step s e = some t → I t) (hs : I s)
    (hrun : run step s es = some u) : I u := by
  induction es generalizing s with
  | nil =>
    cases hrun
    exact hs
  | cons e es ih =>
    obtain ⟨t, ht, hrest⟩ := run_cons_eq_some.1 hrun
    exact ih (hstep s e t hs ht) hrest

lemma run_invariant_mem (hstep : ∀ s e t, I s → P e → step s e = some t → I t) (hs : I s)
    (hP : ∀ e ∈ es, P e) (hrun : run step s es = some u) : I u := by
  induction es generalizing s with
  | nil =>
    cases hrun
    exact hs
  | cons e es ih =>
    obtain ⟨t, ht, hrest⟩ := run_cons_eq_some.1 hrun
    exact ih (hstep s e t hs (hP e (by simp)) ht) (fun e' he' => hP e' (by simp [he'])) hrest

variable {Q : σ → ε → σ → Prop}

lemma along_of_mem (hstep : ∀ s e t, P e → step s e = some t → Q s e t) (hP : ∀ e ∈ es, P e) :
    Along step Q s es := by
  induction es generalizing s with
  | nil => trivial
  | cons e es ih =>
    intro t ht
    exact ⟨hstep s e t (hP e (by simp)) ht, ih fun e' he' => hP e' (by simp [he'])⟩

lemma along_label_iff (htotal : ∀ s e, ∃ t, step s e = some t) :
    Along step (fun _ e _ => P e) s es ↔ ∀ e ∈ es, P e := by
  refine ⟨fun h => ?_, fun h => along_of_mem (fun _ _ _ hP _ => hP) h⟩
  induction es generalizing s with
  | nil => exact nofun
  | cons e es ih =>
    obtain ⟨t, ht⟩ := htotal s e
    obtain ⟨hP, hrest⟩ := h t ht
    exact List.forall_mem_cons.2 ⟨hP, ih hrest⟩

lemma along_of_invariant (hstep : ∀ s e t, I s → R s e t → step s e = some t → I t ∧ Q s e t)
    (hs : I s) (hR : Along step R s es) : Along step Q s es := by
  induction es generalizing s with
  | nil => trivial
  | cons e es ih =>
    intro t ht
    obtain ⟨hmet, hrest⟩ := hR t ht
    obtain ⟨hcarried, hq⟩ := hstep s e t hs hmet ht
    exact ⟨hq, ih hcarried hrest⟩

lemma along_iff
    (hstep : ∀ s e t, I s → P e → step s e = some t → (R s e t ↔ Q s e t) ∧ (Q s e t → I t))
    (hs : I s) (hP : ∀ e ∈ es, P e) : Along step R s es ↔ Along step Q s es := by
  induction es generalizing s with
  | nil => exact Iff.rfl
  | cons e es ih =>
    simp only [along_cons]
    refine forall₂_congr fun t ht => ?_
    obtain ⟨hiff, hcarry⟩ := hstep s e t hs (hP e (by simp)) ht
    rw [hiff]
    -- only a step that meets the condition hands the invariant to the rest of the run
    refine and_congr_right fun hq => ih (hcarry hq) fun e' he' => hP e' (by simp [he'])

end Transition
