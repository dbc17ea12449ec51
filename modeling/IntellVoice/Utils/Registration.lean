import Mathlib.Data.Int.Range
import IntellVoice.Library.History
import IntellVoice.Utils.StateManager

/-! `ForState(s)` registers in a state, `FromState(a, b)` in a range of them. -/

namespace IntellVoice.Utils
open History List

inductive Registration (ι η : Type*) where
  | act (msgid : ι) (handler : η)
  | waitUntil (type : ι) (handler : η) (delayUs : Int)

inductive BuildCall (ι η : Type*) where
  | forState (s : Int) (chain : List (Registration ι η))
  | fromState (simpleStateStart simpleStateEnd : Int) (chain : List (ι × η))

structure Registry (σ ι μ δ : Type*) where
  states : Int → Option (StateActions σ ι μ δ) := fun _ => none
  mActions : List Int := []

def StateActions.register {σ ι μ δ : Type*} [DecidableEq ι] (a : StateActions σ ι μ δ) :
    Registration ι (Handler σ μ δ) → StateActions σ ι μ δ
  | .act msgid handler => a.add msgid handler
  | .waitUntil type handler delayUs => a.waitUntil type handler delayUs

lemma StateActions.add_add {σ ι μ δ : Type*} [DecidableEq ι] (a : StateActions σ ι μ δ) (msgid : ι)
    (handler : Handler σ μ δ) : (a.add msgid handler).add msgid handler = a.add msgid handler := by
  unfold add
  rw [Function.update_idem]

namespace Registry
variable {σ ι μ δ : Type*}

def forState [Inhabited ι] (R : Registry σ ι μ δ) (s : Int) : Registry σ ι μ δ :=
  match R.states s with
  | none => { R with states := Function.update R.states s (some { cfg := { type := default } }) }
  | some _ => R

def addAction (R : Registry σ ι μ δ) (s : Int) : Registry σ ι μ δ :=
  { R with mActions := R.mActions ++ [s] }

def fromState [Inhabited ι] (R : Registry σ ι μ δ) (simpleStateStart simpleStateEnd : Int) :
    Registry σ ι μ δ :=
  (Int.range simpleStateStart (simpleStateEnd + 1)).foldl (fun R i => (R.forState i).addAction i) R

def modify (R : Registry σ ι μ δ) (s : Int) (f : StateActions σ ι μ δ → StateActions σ ι μ δ) :
    Registry σ ι μ δ :=
  { R with states := Function.update R.states s ((R.states s).map f) }

variable [DecidableEq ι]

def add (R : Registry σ ι μ δ) (msgid : ι) (handler : Handler σ μ δ) : Registry σ ι μ δ :=
  R.mActions.foldl (fun R s => R.modify s (·.add msgid handler)) R

def call [Inhabited ι] (R : Registry σ ι μ δ) : BuildCall ι (Handler σ μ δ) → Registry σ ι μ δ
  | .forState s chain => chain.foldl (fun R r => R.modify s (·.register r)) (R.forState s)
  | .fromState simpleStateStart simpleStateEnd chain =>
    chain.foldl (fun R act => R.add act.1 act.2) (R.fromState simpleStateStart simpleStateEnd)

def build [Inhabited ι] (calls : List (BuildCall ι (Handler σ μ δ))) : Registry σ ι μ δ :=
  calls.foldl call {}

def handler (R : Registry σ ι μ δ) (s : Int) (msgid : ι) : Option (Handler σ μ δ) :=
  (R.states s).bind (·.actions msgid)

end Registry

namespace Registration
variable {ι η : Type*}

def msgid : Registration ι η → ι
  | act msgid _ => msgid
  | waitUntil type _ _ => type

def handler : Registration ι η → η
  | act _ handler => handler
  | waitUntil _ handler _ => handler

end Registration

namespace BuildCall
variable {ι η : Type*}

def covers (s : Int) : BuildCall ι η → Bool
  | forState own _ => s == own
  | fromState simpleStateStart simpleStateEnd _ => simpleStateStart ≤ s && s ≤ simpleStateEnd

def isRange : BuildCall ι η → Bool
  | forState _ _ => false
  | fromState _ _ _ => true

variable [DecidableEq ι]

def registers (msgid : ι) : BuildCall ι η → Option η
  | forState _ chain => latest (fun r => if msgid = r.msgid then some r.handler else none) chain
  | fromState _ _ chain => latest (fun act => if msgid = act.1 then some act.2 else none) chain

def own (s : Int) (msgid : ι) (c : BuildCall ι η) : Option η :=
  if c.covers s then c.registers msgid else none

def reach (calls : List (BuildCall ι η)) (s : Int) (msgid : ι) (i : Nat) : Option η :=
  calls[i]?.bind fun c =>
    if c.covers s || c.isRange && (calls.take i).any (fun b => b.isRange && b.covers s) then
      c.registers msgid
    else none

variable {s : Int} {calls : List (BuildCall ι η)} {i : Nat} {h : η} {msgid : ι}

lemma reach_of_own (hown : calls[i]?.bind (own s msgid) = some h) :
    reach calls s msgid i = some h := by
  obtain ⟨c, hc, hown⟩ := Option.bind_eq_some_iff.1 hown
  unfold own at hown
  split at hown
  · rename_i hcovers
    simp [reach, hc, hcovers, hown]
  · cases hown

lemma own_eq_none_of_reach (hreach : reach calls s msgid i = none) :
    calls[i]?.bind (own s msgid) = none := by
  by_contra hne
  obtain ⟨h, hown⟩ := Option.ne_none_iff_exists'.1 hne
  rw [reach_of_own hown] at hreach
  cases hreach

lemma lt_length_of_reach (hreach : reach calls s msgid i = some h) : i < calls.length := by
  obtain ⟨c, hc, -⟩ := Option.bind_eq_some_iff.1 hreach
  exact (List.getElem?_eq_some_iff.1 hc).1

end BuildCall

namespace Registry
variable {σ ι μ δ : Type*} {R : Registry σ ι μ δ} {s : Int}

@[simp]
lemma states_modify_isSome (R : Registry σ ι μ δ) (s own : Int)
    (f : StateActions σ ι μ δ → StateActions σ ι μ δ) :
    ((R.modify own f).states s).isSome = (R.states s).isSome := by
  simp only [modify, Function.update_apply]
  split
  · rename_i heq
    rw [Option.isSome_map, heq]
  · rfl

def Held (R : Registry σ ι μ δ) : Prop := ∀ s ∈ R.mActions, (R.states s).isSome

lemma forState_spec [Inhabited ι] (R : Registry σ ι μ δ) (s : Int) :
    (R.forState s).mActions = R.mActions ∧ ((R.forState s).states s).isSome ∧
      (∀ s', (R.states s').isSome → ((R.forState s).states s').isSome) ∧
      ∀ s' m, (R.forState s).handler s' m = R.handler s' m := by
  unfold forState
  cases hs : R.states s with
  | some a => exact ⟨rfl, by simp [hs], fun _ h => h, fun _ _ => rfl⟩
  | none =>
    refine ⟨rfl, by simp, ?_, ?_⟩
    · intro s' hs'
      by_cases heq : s' = s
      · simp [heq]
      · simpa [Function.update_of_ne heq] using hs'
    · -- the new entry has no handlers
      intro s' m
      by_cases heq : s' = s
      · subst heq
        simp [handler, hs]
      · simp [handler, Function.update_of_ne heq]

lemma fromState_spec [Inhabited ι] (hheld : R.Held) (a b : Int) :
    (R.fromState a b).Held ∧ (∀ s, s ∈ (R.fromState a b).mActions ↔
      s ∈ R.mActions ∨ a ≤ s ∧ s ≤ b) ∧ ∀ s m, (R.fromState a b).handler s m = R.handler s m := by
  have hfold : ∀ states : List Int,
      let R' := states.foldl (fun R i => (R.forState i).addAction i) R
      R'.Held ∧ (∀ s, s ∈ R'.mActions ↔ s ∈ R.mActions ∨ s ∈ states) ∧
        ∀ s m, R'.handler s m = R.handler s m := by
    intro states
    induction states using reverseRecOn with
    | nil => exact ⟨hheld, fun s => by simp, fun _ _ => rfl⟩
    | append_singleton states last ih =>
      rw [foldl_concat]
      generalize states.foldl (fun R i => (R.forState i).addAction i) R = R' at ih ⊢
      obtain ⟨hheld', hmem, hhandler⟩ := ih
      obtain ⟨hactions, hown, hkept, hsame⟩ := R'.forState_spec last
      refine ⟨?_, ?_, fun s m => (hsame s m).trans (hhandler s m)⟩
      · intro s hs
        rcases mem_append.1 hs with hs | hs
        · exact hkept s (hheld' s (hactions ▸ hs))
        · rw [mem_singleton.1 hs]
          exact hown
      · intro s
        show s ∈ (R'.forState last).mActions ++ [last] ↔ _
        rw [hactions, mem_append, hmem, mem_append, or_assoc]
  obtain ⟨hheld', hmem, hhandler⟩ := hfold (Int.range a (b + 1))
  refine ⟨hheld', fun s => ?_, hhandler⟩
  rw [fromState, hmem, Int.mem_range_iff, Int.lt_add_one_iff]

variable [DecidableEq ι]

lemma handler_modify {own : Int} {f : StateActions σ ι μ δ → StateActions σ ι μ δ} {msgid : ι}
    {h : Handler σ μ δ} (hf : ∀ a, (f a).actions = Function.update a.actions msgid (some h))
    (howner : (R.states own).isSome) (s : Int) (m : ι) :
    (R.modify own f).handler s m = if s = own ∧ m = msgid then some h else R.handler s m := by
  obtain ⟨a, ha⟩ := Option.isSome_iff_exists.1 howner
  unfold handler modify
  by_cases hs : s = own
  · subst hs
    simp only [Function.update_self, ha, Option.map_some, Option.bind_some, hf,
      Function.update_apply, true_and]
  · simp only [Function.update_of_ne hs, hs, false_and, if_false]

lemma actions_register (a : StateActions σ ι μ δ) (r : Registration ι (Handler σ μ δ)) :
    (a.register r).actions = Function.update a.actions r.msgid (some r.handler) := by
  cases r <;> rfl

lemma handler_chain (howner : (R.states s).isSome) (chain : List (Registration ι (Handler σ μ δ))) :
    let R' := chain.foldl (fun R r => R.modify s (·.register r)) R
    R'.mActions = R.mActions ∧ (∀ s', (R'.states s').isSome = (R.states s').isSome) ∧
      ∀ s' m, R'.handler s' m =
        (if s' = s then (BuildCall.forState s chain).registers m else none).or
          (R.handler s' m) := by
  induction chain using reverseRecOn with
  | nil => exact ⟨rfl, fun _ => rfl, fun s' m => by simp [BuildCall.registers]⟩
  | append_singleton chain r ih =>
    obtain ⟨hactions, hkept, hhandler⟩ := ih
    rw [foldl_concat]
    refine ⟨hactions, fun s' => by rw [states_modify_isSome, hkept], ?_⟩
    intro s' m
    rw [handler_modify (fun a => actions_register a r) (by rw [hkept]; exact howner), hhandler]
    simp only [BuildCall.registers, latest_concat]
    by_cases hs : s' = s <;> by_cases hm : m = r.msgid <;> simp [hs, hm]

lemma foldl_modify_add (states : List Int) (hstates : ∀ s ∈ states, (R.states s).isSome)
    (msgid : ι) (h : Handler σ μ δ) :
    let R' := states.foldl (fun R s => R.modify s (·.add msgid h)) R
    R'.mActions = R.mActions ∧ (∀ s, (R'.states s).isSome = (R.states s).isSome) ∧
      ∀ s m, R'.handler s m = if s ∈ states ∧ m = msgid then some h else R.handler s m := by
  induction states using reverseRecOn with
  | nil => exact ⟨rfl, fun _ => rfl, fun s m => by simp⟩
  | append_singleton states last ih =>
    obtain ⟨hactions, hkept, hhandler⟩ := ih fun s hs => hstates s (mem_append_left _ hs)
    rw [foldl_concat]
    refine ⟨hactions, fun s => by rw [states_modify_isSome, hkept], ?_⟩
    intro s m
    have hlast : (R.states last).isSome := hstates last (by simp)
    rw [handler_modify (fun _ => rfl) (by rw [hkept]; exact hlast), hhandler]
    by_cases hs : s = last <;> by_cases hm : m = msgid <;> simp [hs, hm]

lemma handler_add (hheld : R.Held) (msgid : ι) (h : Handler σ μ δ) :
    (R.add msgid h).mActions = R.mActions ∧ (R.add msgid h).Held ∧
      ∀ s m, (R.add msgid h).handler s m =
        if s ∈ R.mActions ∧ m = msgid then some h else R.handler s m := by
  obtain ⟨hactions, hkept, hhandler⟩ := foldl_modify_add R.mActions hheld msgid h
  refine ⟨hactions, ?_, hhandler⟩
  intro s hs
  show ((R.mActions.foldl _ R).states s).isSome
  rw [hkept]
  exact hheld s (hactions ▸ hs)

lemma handler_group (hheld : R.Held) (a b : Int) (chain : List (ι × Handler σ μ δ)) :
    let R' := chain.foldl (fun R act => R.add act.1 act.2) R
    R'.mActions = R.mActions ∧ R'.Held ∧
      ∀ s m, R'.handler s m =
        (if s ∈ R.mActions then (BuildCall.fromState a b chain).registers m else none).or
          (R.handler s m) := by
  induction chain using reverseRecOn with
  | nil => exact ⟨rfl, hheld, fun s m => by simp [BuildCall.registers]⟩
  | append_singleton chain act ih =>
    obtain ⟨hactions, hheld', hhandler⟩ := ih
    rw [foldl_concat]
    obtain ⟨hactions', hheld'', hhandler'⟩ := handler_add hheld' act.1 act.2
    refine ⟨hactions'.trans hactions, hheld'', ?_⟩
    intro s m
    rw [hhandler', hhandler, hactions]
    simp only [BuildCall.registers, latest_concat]
    by_cases hs : s ∈ R.mActions <;> by_cases hm : m = act.1 <;> simp [hs, hm]

variable [Inhabited ι]

lemma call_spec (hheld : R.Held) (c : BuildCall ι (Handler σ μ δ)) : (R.call c).Held ∧
      (∀ s, s ∈ (R.call c).mActions ↔ s ∈ R.mActions ∨ c.isRange && c.covers s) ∧
      ∀ s m, (R.call c).handler s m =
        (if c.covers s ∨ c.isRange ∧ s ∈ R.mActions then c.registers m else none).or
          (R.handler s m) := by
  cases c with
  | forState own chain =>
    obtain ⟨hactions, hown, hkept, hsame⟩ := R.forState_spec own
    obtain ⟨hactions', hkept', hhandler⟩ := handler_chain hown chain
    refine ⟨?_, ?_, ?_⟩
    · intro s hs
      show ((chain.foldl _ (R.forState own)).states s).isSome
      rw [hkept']
      exact hkept s (hheld s (hactions ▸ hactions' ▸ hs))
    · intro s
      show s ∈ (chain.foldl _ (R.forState own)).mActions ↔ _
      rw [hactions', hactions]
      simp [BuildCall.isRange]
    · intro s m
      show (chain.foldl _ (R.forState own)).handler s m = _
      rw [hhandler, hsame]
      simp [BuildCall.isRange, BuildCall.covers]
  | fromState a b chain =>
    obtain ⟨hheld', hmem, hsame⟩ := fromState_spec hheld a b
    obtain ⟨hactions, hheld'', hhandler⟩ := handler_group hheld' a b chain
    refine ⟨hheld'', ?_, ?_⟩
    · intro s
      show s ∈ (chain.foldl _ (R.fromState a b)).mActions ↔ _
      rw [hactions, hmem]
      simp [BuildCall.isRange, BuildCall.covers]
    · intro s m
      show (chain.foldl _ (R.fromState a b)).handler s m = _
      rw [hhandler, hsame]
      -- the states held are those of this range and of the earlier ones
      have hreached : s ∈ (R.fromState a b).mActions ↔
          (BuildCall.fromState a b chain).covers s ∨ s ∈ R.mActions := by
        rw [hmem, or_comm]
        simp [BuildCall.covers]
      simp only [hreached, BuildCall.isRange, true_and]

lemma build_concat (calls : List (BuildCall ι (Handler σ μ δ)))
    (c : BuildCall ι (Handler σ μ δ)) : build (calls ++ [c]) = (build calls).call c :=
  foldl_concat ..

lemma build_held (calls : List (BuildCall ι (Handler σ μ δ))) :
    (build calls).Held ∧ ∀ s, s ∈ (build calls).mActions ↔
      calls.any (fun b => b.isRange && b.covers s) := by
  induction calls using reverseRecOn with
  | nil => exact ⟨fun s hs => (by cases hs), fun s => by simp [build]⟩
  | append_singleton calls c ih =>
    obtain ⟨hheld, hmem, -⟩ := call_spec ih.1 c
    rw [build_concat]
    refine ⟨hheld, fun s => ?_⟩
    rw [hmem, ih.2]
    simp

lemma handler_build (calls : List (BuildCall ι (Handler σ μ δ))) (s : Int) (m : ι) :
    (build calls).handler s m = latest (BuildCall.reach calls s m) (range calls.length) := by
  induction calls using reverseRecOn with
  | nil => rfl
  | append_singleton calls c ih =>
    obtain ⟨hheld, hmem⟩ := build_held calls
    obtain ⟨-, -, hhandler⟩ := call_spec hheld c
    have hlast : BuildCall.reach (calls ++ [c]) s m calls.length =
        if c.covers s ∨ c.isRange ∧ s ∈ (build calls).mActions then c.registers m else none := by
      simp [BuildCall.reach, hmem]
    -- what the earlier calls reach does not depend on the new one
    have hearlier : latest (BuildCall.reach (calls ++ [c]) s m) (range calls.length) =
        latest (BuildCall.reach calls s m) (range calls.length) := by
      apply latest_congr
      intro i hi
      have hi := mem_range.1 hi
      unfold BuildCall.reach
      rw [List.getElem?_append_left hi, take_append_of_le_length hi.le]
    rw [build_concat, hhandler, ih, length_append, length_singleton, range_succ,
      latest_concat, hlast, hearlier]

lemma handler_eq_own {calls : List (BuildCall ι (Handler σ μ δ))} {m : ι}
    (hcond : ∀ i h, BuildCall.reach calls s m i = some h →
      calls[i]?.bind (BuildCall.own s m) = none →
        (∃ j, i < j ∧ (BuildCall.reach calls s m j).isSome) ∨
          latest (BuildCall.own s m) calls = some h) :
    (build calls).handler s m = latest (BuildCall.own s m) calls := by
  cases hhandler : (build calls).handler s m with
  | none =>
    -- nothing reaches the state, so nothing of its own does
    rw [handler_build, latest_eq_none_iff] at hhandler
    symm
    rw [latest_eq_latest_range, latest_eq_none_iff]
    exact fun i hi => BuildCall.own_eq_none_of_reach (hhandler i hi)
  | some h =>
    rw [handler_build, latest_range_eq_some_iff] at hhandler
    obtain ⟨i, hi, hreach, hafter⟩ := hhandler
    symm
    cases hown : calls[i]?.bind (BuildCall.own s m) with
    | none =>
      -- the last call to reach the state strays: the condition is about it
      rcases hcond i h hreach hown with ⟨j, hij, hsome⟩ | hlaw
      · obtain ⟨h', hh'⟩ := Option.isSome_iff_exists.1 hsome
        rw [hafter j hij (BuildCall.lt_length_of_reach hh')] at hsome
        cases hsome
      · exact hlaw
    | some h' =>
      obtain rfl := Option.some.inj ((BuildCall.reach_of_own hown).symm.trans hreach)
      rw [latest_eq_latest_range, latest_range_eq_some_iff]
      exact ⟨i, hi, hown, fun j hij hj => BuildCall.own_eq_none_of_reach (hafter j hij hj)⟩

theorem build_lawful_iff (calls : List (BuildCall ι (Handler σ μ δ))) :
    (∀ s m, (build calls).handler s m = latest (BuildCall.own s m) calls) ↔
      ∀ s m i h, BuildCall.reach calls s m i = some h →
        calls[i]?.bind (BuildCall.own s m) = none →
          (∃ j, i < j ∧ (BuildCall.reach calls s m j).isSome) ∨
            latest (BuildCall.own s m) calls = some h := by
  constructor
  · intro hlaw s m i h hreach _
    by_cases hlater : ∃ j, i < j ∧ (BuildCall.reach calls s m j).isSome
    · exact .inl hlater
    -- the stray registration is the last to reach the state
    right
    rw [← hlaw, handler_build, latest_range_eq_some_iff]
    refine ⟨i, BuildCall.lt_length_of_reach hreach, hreach, fun j hij _ => ?_⟩
    rw [← Option.not_isSome_iff_eq_none]
    exact fun hsome => hlater ⟨j, hij, hsome⟩
  · exact fun hcond s m => handler_eq_own (hcond s m)

lemma handler_of_single_range (calls : List (BuildCall ι (Handler σ μ δ)))
    (hstates : ∀ c ∈ calls, c.isRange = false) (last : BuildCall ι (Handler σ μ δ)) (s : Int)
    (m : ι) :
    (build (calls ++ [last])).handler s m = latest (BuildCall.own s m) (calls ++ [last]) := by
  apply handler_eq_own
  intro i h hreach hown
  exfalso
  have hi : i ≤ calls.length := by
    have hlt := BuildCall.lt_length_of_reach hreach
    rw [length_append, length_singleton] at hlt
    omega
  have hnone : ((calls ++ [last]).take i).any (fun b => b.isRange && b.covers s) = false := by
    rw [take_append_of_le_length hi, any_eq_false]
    intro b hb
    rw [hstates b (mem_of_mem_take hb)]
    simp
  obtain ⟨c, hc, hreach⟩ := Option.bind_eq_some_iff.1 hreach
  rw [hnone, Bool.and_false, Bool.or_false] at hreach
  -- it registers in a state of its own only
  rw [hc] at hown
  exact absurd (hreach.symm.trans hown) (by simp)

end Registry
end IntellVoice.Utils
