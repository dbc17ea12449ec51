import IntellVoice.Library.Run
import IntellVoice.Utils.StateManager
import IntellVoice.Utils.TimerQueue

/-! A state with a delay has a timer while the machine is in it. -/

namespace IntellVoice.Utils
open Transition Option TimerMgr

structure Stay (σ ι δ : Type*) where
  timed : Timed σ ι δ
  entered : Bool := false
  expired : Bool := false

namespace Timed
variable {σ ι μ δ : Type*}

def changesState (s : Timed σ ι δ) : TimedEvent μ → Bool
  | .proceed =>
    match s.call with
    | some ⟨_, .entering _⟩ => true
    | _ => false
  | _ => false

def takesTimer (s t : Timed σ ι δ) : TimedEvent μ → Bool
  | .expire => t.inHand.any fun it => s.timerId s.currState == some it.timerId
  | _ => false

end Timed

namespace Stay
variable {σ ι μ δ : Type*} [DecidableEq σ] [DecidableEq ι] (M : ModuleStates σ ι μ δ)

def step (x : Stay σ ι δ) (e : TimedEvent μ) : Option (Stay σ ι δ) :=
  (x.timed.step M e).map fun t =>
    { timed := t
      entered := x.entered || x.timed.changesState e
      expired := !x.timed.changesState e && (x.expired || x.timed.takesTimer t e) }

def initial (d : δ) : Stay σ ι δ where
  timed := Timed.initial M d .started

end Stay

namespace Timed
variable {σ ι μ δ : Type*} {M : ModuleStates σ ι μ δ} {s t : Timed σ ι δ}

def Listed (M : ModuleStates σ ι μ δ) (s : Timed σ ι δ) : Prop :=
  s.timers.itemQueue = [] ∨
    ∃ it cfg, s.timers.itemQueue = [it] ∧ s.timerId s.currState = some it.timerId ∧
      M.timer s.currState = some cfg ∧ it.type = cfg.type ∧ it.cookie = cfg.cookie

def AtStage (M : ModuleStates σ ι μ δ) (s : Timed σ ι δ) : Stage σ ι → Prop
  | .killing _ cfg _ _ => s.timers.itemQueue = [] ∧ M.timer s.currState = some cfg
  | .setting cfg _ _ => s.timers.itemQueue = [] ∧ M.timer s.currState = some cfg
  | .entering _ => s.timers.itemQueue = []
  | _ => True

lemma atStage_remaining {byTimer : Bool} {left : Nat} {next : Option σ} {c : Call σ ι}
    (hc : Call.remaining byTimer left next = some c) : t.AtStage M c.stage := by
  cases left with
  | succ left =>
    cases hc
    trivial
  | zero =>
    cases next with
    | none => cases hc
    | some next =>
      cases hc
      trivial

def Sole (M : ModuleStates σ ι μ δ) (s : Timed σ ι δ) (fits : TimerItem ι → TimerCfg ι → Prop) :
    Prop :=
  s.timers.itemQueue = [] ∨
    ∃ it cfg, s.timers.itemQueue = [it] ∧ s.timerId s.currState = some it.timerId ∧
      M.timer s.currState = some cfg ∧ fits it cfg

lemma Listed.sole (h : s.Listed M) :
    s.Sole M fun it cfg => it.type = cfg.type ∧ it.cookie = cfg.cookie := h

namespace Sole
variable {fits : TimerItem ι → TimerCfg ι → Prop}

section
variable (h : s.Sole M fits)
include h

lemma nil_of_timer (hnone : M.timer s.currState = none) : s.timers.itemQueue = [] := by
  rcases h with hempty | ⟨_, cfg, -, -, hcfg, -⟩
  · exact hempty
  · rw [hnone] at hcfg
    cases hcfg

lemma nil_of_timerId (hnone : s.timerId s.currState = none) : s.timers.itemQueue = [] := by
  rcases h with hempty | ⟨_, _, -, hid, -⟩
  · exact hempty
  · rw [hnone] at hid
    cases hid

variable {timerId : Nat} {timers : TimerMgr ι}

lemma nil_of_resetSole {delayUs : Int} (hsole : s.timers.resetSole s.now timerId delayUs = none) :
    s.timers.itemQueue = [] := by
  rcases h with hempty | ⟨it, _, hqueue, -⟩
  · exact hempty
  · exact absurd hqueue (resetSole_eq_none hsole)

lemma nil_of_killTimer (hid : s.timerId s.currState = some timerId) :
    (s.timers.killTimer timerId).itemQueue = [] := by
  rcases h with hempty | ⟨it, _, hqueue, hid', -⟩
  · exact itemQueue_killTimer_nil hempty timerId
  · obtain rfl : it.timerId = timerId := some.inj (hid'.symm.trans hid)
    exact itemQueue_killTimer_self hqueue

lemma resetSole {cfg : TimerCfg ι} {r : Option Nat} (hid : s.timerId s.currState = some timerId)
    (hcfg : M.timer s.currState = some cfg)
    (hsole : s.timers.resetSole s.now timerId cfg.delayUs = some (r, timers)) :
    ∃ it, fits it cfg ∧ r = some it.timerId ∧
      timers.itemQueue = [{ it with tgtUs := s.now + cfg.delayUs }] := by
  rcases h with hempty | ⟨it, cfg', hqueue, hid', hcfg', hfits⟩
  · rw [resetSole_nil hempty] at hsole
    cases hsole
  obtain rfl : it.timerId = timerId := some.inj (hid'.symm.trans hid)
  obtain rfl : cfg' = cfg := some.inj (hcfg'.symm.trans hcfg)
  obtain ⟨hr, hmoved⟩ := itemQueue_resetSole hqueue hsole
  exact ⟨it, hfits, hr, hmoved⟩

lemma expire {it : TimerItem ι} (hexpire : s.timers.expire s.now = some (it, timers)) :
    timers.itemQueue = [] ∧ s.timerId s.currState = some it.timerId ∧
      ∃ cfg, M.timer s.currState = some cfg ∧ fits it cfg := by
  obtain ⟨-, hqueue⟩ := expire_eq_some hexpire
  rcases h with hempty | ⟨it', cfg, hsole, hid, hcfg, hfits⟩
  · rw [hqueue] at hempty
    cases hempty
  rw [hqueue] at hsole
  obtain ⟨rfl, hrest⟩ : it = it' ∧ timers.itemQueue = [] := by simpa using hsole
  exact ⟨hrest, hid, cfg, hcfg, hfits⟩

end
end Sole
end Timed

namespace Stay
open Timed
variable {σ ι μ δ : Type*} {M : ModuleStates σ ι μ δ} {x y : Stay σ ι δ}

def Kept (M : ModuleStates σ ι μ δ) (x : Stay σ ι δ) : Prop :=
  ∀ cfg, x.entered → M.timer x.timed.currState = some cfg → x.timed.timers.itemQueue = [] →
    x.expired ∨ ∃ byTimer next, x.timed.call = some ⟨byTimer, .entering next⟩

structure Tended (M : ModuleStates σ ι μ δ) (x : Stay σ ι δ) : Prop where
  serving : x.timed.timers.Serving
  listed : x.timed.Listed M
  call : ∀ c, x.timed.call = some c → x.timed.AtStage M c.stage
  kept : x.Kept M

lemma tended_initial (M : ModuleStates σ ι μ δ) (d : δ) [DecidableEq σ] [DecidableEq ι] :
    (initial M d).Tended M where
  serving := ⟨accounted_replicate maxTimerNum, rfl, Nat.zero_lt_succ 9⟩
  listed := .inl rfl
  call _ hc := by cases hc
  kept _ hentered := by cases hentered

lemma Kept.expired (h : x.Kept M) {cfg : TimerCfg ι} (hentered : x.entered)
    (hcfg : M.timer x.timed.currState = some cfg) (hempty : x.timed.timers.itemQueue = [])
    (hcall : ∀ byTimer next, x.timed.call ≠ some ⟨byTimer, .entering next⟩) : x.expired := by
  rcases h cfg hentered hcfg hempty with hexpired | ⟨byTimer, next, hentering⟩
  · exact hexpired
  · exact absurd hentering (hcall byTimer next)

namespace Tended

lemma tick (h : x.Tended M) (us : Nat) :
    ({ x with timed := { x.timed with now := x.timed.now + us } } : Stay σ ι δ).Tended M :=
  ⟨h.serving, h.listed, h.call, h.kept⟩

variable {byTimer : Bool} {left : Nat} {next : Option σ} {cfg : TimerCfg ι} {it : TimerItem ι}

lemma expire (h : x.Tended M) {timers : TimerMgr ι}
    (hexpire : x.timed.timers.expire x.timed.now = some (it, timers)) :
    ({ x with timed := { x.timed with timers, inHand := some it }, expired := true } :
      Stay σ ι δ).Tended M := by
  have hnonempty : x.timed.timers.itemQueue ≠ [] := by
    simp [(TimerMgr.expire_eq_some hexpire).2]
  -- the only timer is gone, which `expired` says
  refine ⟨h.serving.expire hexpire, .inl (h.listed.sole.expire hexpire).1, fun c hc => ?_,
    fun _ _ _ _ => .inl rfl⟩
  -- a call that counts on an empty list is not one that a timer can expire in
  have hstage := h.call c hc
  cases hst : c.stage with
  | resetting | leaving => trivial
  | killing | setting =>
    rw [hst] at hstage
    exact absurd hstage.1 hnonempty
  | entering =>
    rw [hst] at hstage
    exact absurd hstage hnonempty

variable [DecidableEq σ]

lemma begin (h : x.Tended M) (hfree : x.timed.call = none) (byTimer : Bool) (m : μ)
    (inHand : Option (TimerItem ι)) :
    ({ x with timed := ({ x.timed with inHand } : Timed σ ι δ).begin M byTimer m } :
      Stay σ ι δ).Tended M := by
  refine ⟨h.serving, h.listed, fun c hc => atStage_remaining hc, fun cfg hentered hcfg hempty => ?_⟩
  refine .inl (h.kept.expired hentered hcfg hempty fun byTimer next hcall => ?_)
  rw [hfree] at hcall
  cases hcall

lemma rearm {armed : Option Nat × TimerMgr ι} (hserving : armed.2.Serving)
    (hcfg : M.timer x.timed.currState = some cfg) (hid : armed.1 = some it.timerId)
    (hqueue : armed.2.itemQueue = [it]) (htype : it.type = cfg.type)
    (hcookie : it.cookie = cfg.cookie) :
    ({ x with timed := x.timed.rearm byTimer left next armed } : Stay σ ι δ).Tended M := by
  refine ⟨hserving, .inr ⟨it, cfg, hqueue, ?_, hcfg, htype, hcookie⟩,
    fun c hc => atStage_remaining hc, fun _ _ _ hempty => ?_⟩
  · show Function.update x.timed.timerId x.timed.currState armed.1 x.timed.currState = _
    rw [Function.update_self, hid]
  · have hnil : armed.2.itemQueue = [] := hempty
    rw [hqueue] at hnil
    cases hnil

lemma resetting (h : x.Tended M) (hc : x.timed.call = some ⟨byTimer, .resetting left next⟩) :
    ({ x with timed := x.timed.proceed M byTimer (.resetting left next) } :
      Stay σ ι δ).Tended M := by
  -- a call that resets is not one that enters a state
  have hexpired : ∀ cfg, x.entered → M.timer x.timed.currState = some cfg →
      x.timed.timers.itemQueue = [] → x.expired := by
    intro cfg hentered hcfg hempty
    refine h.kept.expired hentered hcfg hempty fun byTimer next hcall => ?_
    rw [hc] at hcall
    cases hcall
  unfold Timed.proceed
  cases hcfg : M.timer x.timed.currState with
  | none =>
    exact ⟨h.serving, .inl (h.listed.sole.nil_of_timer hcfg), fun c hc => atStage_remaining hc,
      fun cfg hentered hcfg' hempty => .inl (hexpired cfg hentered hcfg' hempty)⟩
  | some cfg =>
    cases hid : x.timed.timerId x.timed.currState with
    | none =>
      exact ⟨h.serving, .inl (h.listed.sole.nil_of_timerId hid), fun c hc => atStage_remaining hc,
        fun cfg hentered hcfg' hempty => .inl (hexpired cfg hentered hcfg' hempty)⟩
    | some timerId =>
      simp only
      cases hsole : x.timed.timers.resetSole x.timed.now timerId cfg.delayUs with
      | none =>
        -- the timer thread was faster: `ResetTimer` goes on with `KillTimer` and `SetTimer`, on an
        -- empty list
        have hempty := h.listed.sole.nil_of_resetSole hsole
        refine ⟨h.serving, .inl hempty, ?_, fun cfg' hentered hcfg' _ => ?_⟩
        · rintro c ⟨⟩
          exact ⟨hempty, hcfg⟩
        · exact .inl (hexpired cfg' hentered hcfg' hempty)
      | some armed =>
        obtain ⟨it, ⟨htype, hcookie⟩, hr, hmoved⟩ := h.listed.sole.resetSole hid hcfg hsole
        have hid' : armed.1 =
            some (TimerItem.timerId { it with tgtUs := x.timed.now + cfg.delayUs }) := hr
        exact rearm (h.serving.resetSole hsole) hcfg hid' hmoved htype hcookie

lemma killing (h : x.Tended M) {timerId : Nat}
    (hc : x.timed.call = some ⟨byTimer, .killing timerId cfg left next⟩) :
    ({ x with timed := x.timed.proceed M byTimer (.killing timerId cfg left next) } :
      Stay σ ι δ).Tended M := by
  obtain ⟨hempty, hcfg⟩ := h.call _ hc
  -- the id may be out of use by now; there is nothing it could hit
  have hkilled := itemQueue_killTimer_nil hempty timerId
  refine ⟨h.serving.killTimer timerId, .inl hkilled, ?_, fun cfg' hentered hcfg' _ => .inl ?_⟩
  · rintro c ⟨⟩
    exact ⟨hkilled, hcfg⟩
  · refine h.kept.expired hentered hcfg' hempty fun byTimer next hcall => ?_
    rw [hc] at hcall
    cases hcall

lemma setting (h : x.Tended M) (hc : x.timed.call = some ⟨byTimer, .setting cfg left next⟩) :
    ({ x with timed := x.timed.proceed M byTimer (.setting cfg left next) } :
      Stay σ ι δ).Tended M := by
  obtain ⟨hempty, hcfg⟩ := h.call _ hc
  -- the manager has been started and all ids are free, so the timer is set
  obtain ⟨i, hid, hqueue⟩ := h.serving.setTimer_of_nil hempty x.timed.now cfg
  exact rearm (h.serving.setTimer x.timed.now cfg) hcfg hid hqueue rfl rfl

lemma leaving (h : x.Tended M) (byTimer : Bool) (next : σ) :
    ({ x with timed := x.timed.proceed M byTimer (.leaving next) } : Stay σ ι δ).Tended M := by
  unfold Timed.proceed
  cases hid : x.timed.timerId x.timed.currState with
  | none =>
    have hempty := h.listed.sole.nil_of_timerId hid
    refine ⟨h.serving, .inl hempty, ?_, fun _ _ _ _ => .inr ⟨byTimer, next, rfl⟩⟩
    rintro c ⟨⟩
    exact hempty
  | some timerId =>
    have hempty := h.listed.sole.nil_of_killTimer hid
    refine ⟨h.serving.killTimer timerId, .inl hempty, ?_, fun _ _ _ _ => .inr ⟨byTimer, next, rfl⟩⟩
    rintro c ⟨⟩
    exact hempty

lemma entering (h : x.Tended M) {next : σ} (hc : x.timed.call = some ⟨byTimer, .entering next⟩)
    {entered expired : Bool} :
    ({ timed := x.timed.enter M next, entered, expired } : Stay σ ι δ).Tended M := by
  -- what was left of the old state was killed in the step before
  have hempty : x.timed.timers.itemQueue = [] := h.call _ hc
  unfold Timed.enter
  cases hcfg : M.timer next with
  | none =>
    refine ⟨h.serving, .inl hempty, fun _ hc => (by cases hc), fun cfg _ hcfg' => ?_⟩
    exact absurd (hcfg.symm.trans hcfg') (some_ne_none _).symm
  | some cfg =>
    obtain ⟨i, hid, hqueue⟩ := h.serving.setTimer_of_nil hempty x.timed.now cfg
    refine ⟨h.serving.setTimer x.timed.now cfg, .inr ⟨_, cfg, hqueue, ?_, hcfg, rfl, rfl⟩,
      fun _ hc => (by cases hc), fun _ _ _ hnil => ?_⟩
    · show Function.update x.timed.timerId next _ next = some i
      rw [Function.update_self, hid]
    · have hnil' : (x.timed.timers.setTimer x.timed.now cfg).2.itemQueue = [] := hnil
      rw [hqueue] at hnil'
      cases hnil'

end Tended

def Declines (M : ModuleStates σ ι μ δ) (s : Timed σ ι δ) (m : μ) : Prop :=
  (M.handle s.currState m s.data).1.ret ≠ 0 ∨
    ∃ st, (M.handle s.currState m s.data).1.nextState = some st ∧ M.states st = none

def goal : Stage σ ι → Option σ
  | .resetting _ next => next
  | .killing _ _ _ next => next
  | .setting _ _ next => next
  | .leaving next => some next
  | .entering next => some next

def begins : TimedEvent μ → Bool
  | .call _ => true
  | .deliver _ => true
  | _ => false

def Settled (s : Timed σ ι δ) : Prop := ∀ c, s.call = some c → goal c.stage = none

variable {s : Timed σ ι δ} {e : TimedEvent μ} {m : μ}

lemma settled_remaining {byTimer : Bool} {left : Nat}
    (hcall : s.call = Call.remaining byTimer left none) : Settled s := by
  intro c hc
  rw [hcall] at hc
  cases left with
  | zero => cases hc
  | succ left =>
    cases hc
    rfl

variable [DecidableEq σ]

lemma next_of_declines (hdeclines : Declines M s m) :
    M.next s.currState (M.handle s.currState m s.data).1 = none := by
  unfold ModuleStates.next
  rcases hdeclines with hret | ⟨st, hnext, hstates⟩
  · exact if_pos hret
  split
  · rfl
  · simp [hnext, hstates]

lemma settled_begin (hdeclines : Declines M s m) (byTimer : Bool) :
    Settled (s.begin M byTimer m) := by
  apply settled_remaining
  show Call.remaining byTimer _ (M.next s.currState (M.handle s.currState m s.data).1) = _
  rw [next_of_declines hdeclines]

lemma settled_proceed {c : Call σ ι} (hsettled : Settled s) (hc : s.call = some c) :
    (s.proceed M c.byTimer c.stage).currState = s.currState ∧
      Settled (s.proceed M c.byTimer c.stage) := by
  obtain ⟨byTimer, stage⟩ := c
  have hgoal := hsettled _ hc
  -- the states that are entered are those that a call has as its goal, and it has none
  cases stage with
  | resetting left next =>
    obtain rfl : next = none := hgoal
    simp only [Timed.proceed]
    split
    · split
      · exact ⟨rfl, settled_remaining rfl⟩
      refine ⟨rfl, ?_⟩
      rintro c ⟨⟩
      rfl
    · exact ⟨rfl, settled_remaining rfl⟩
  | killing timerId cfg left next =>
    obtain rfl : next = none := hgoal
    refine ⟨rfl, ?_⟩
    rintro c ⟨⟩
    rfl
  | setting cfg left next =>
    obtain rfl : next = none := hgoal
    exact ⟨rfl, settled_remaining rfl⟩
  | leaving next | entering next => cases hgoal

variable [DecidableEq ι]

lemma step_tended (h : x.Tended M) (hstep : x.step M e = some y) : y.Tended M := by
  obtain ⟨t, ht, rfl⟩ := map_eq_some_iff.1 hstep
  -- each step is one of the lemmas above; `entered` and `expired` follow by evaluation
  cases e with
  | tick us =>
    cases ht
    simpa [changesState, takesTimer] using h.tick us
  | expire =>
    simp only [Timed.step] at ht
    split at ht
    · obtain ⟨⟨it, timers⟩, hexpire, rfl⟩ := map_eq_some_iff.1 ht
      simpa [changesState, takesTimer, (h.listed.sole.expire hexpire).2.1] using h.expire hexpire
    · cases ht
  | deliver m =>
    simp only [Timed.step] at ht
    split at ht
    · split at ht
      · rename_i hfree _ _
        cases ht
        simpa [changesState, takesTimer] using h.begin hfree true m none
      · cases ht
    · cases ht
  | call m =>
    simp only [Timed.step] at ht
    split at ht
    · rename_i hfree
      cases ht
      simpa [changesState, takesTimer] using h.begin hfree false m x.timed.inHand
    · cases ht
  | proceed =>
    obtain ⟨⟨byTimer, stage⟩, hc, rfl⟩ := map_eq_some_iff.1 ht
    cases stage with
    | resetting left next => simpa [changesState, takesTimer, hc] using h.resetting hc
    | killing timerId cfg left next => simpa [changesState, takesTimer, hc] using h.killing hc
    | setting cfg left next => simpa [changesState, takesTimer, hc] using h.setting hc
    | leaving next => simpa [changesState, takesTimer, hc] using h.leaving byTimer next
    | entering next => exact h.entering hc

lemma step_settled (hsettled : Settled x.timed) (hbegins : begins e = false)
    (hstep : x.step M e = some y) : y.timed.currState = x.timed.currState ∧ Settled y.timed := by
  obtain ⟨t, ht, rfl⟩ := map_eq_some_iff.1 hstep
  cases e with
  | tick us =>
    cases ht
    exact ⟨rfl, hsettled⟩
  | expire =>
    simp only [Timed.step] at ht
    split at ht
    · obtain ⟨⟨it, timers⟩, -, rfl⟩ := map_eq_some_iff.1 ht
      exact ⟨rfl, hsettled⟩
    · cases ht
  | deliver m | call m => cases hbegins
  | proceed =>
    obtain ⟨c, hc, rfl⟩ := map_eq_some_iff.1 ht
    exact settled_proceed hsettled hc

lemma step_declines (hdeclines : Declines M x.timed m) (he : e = .call m ∨ e = .deliver m)
    (hstep : x.step M e = some y) : y.timed.currState = x.timed.currState ∧ Settled y.timed := by
  obtain ⟨t, ht, rfl⟩ := map_eq_some_iff.1 hstep
  rcases he with rfl | rfl
  · simp only [Timed.step] at ht
    split at ht
    · cases ht
      exact ⟨rfl, settled_begin hdeclines false⟩
    · cases ht
  simp only [Timed.step] at ht
  split at ht
  · split at ht
    · cases ht
      have hdropped : Declines M { x.timed with inHand := none } m := hdeclines
      exact ⟨rfl, settled_begin hdropped true⟩
    · cases ht
  · cases ht

theorem run_tended (M : ModuleStates σ ι μ δ) (d : δ) (es : List (TimedEvent μ)) (x : Stay σ ι δ)
    (hrun : run (step M) (initial M d) es = some x) (hfree : x.timed.call = none) :
    x.timed.timers.itemQueue.length ≤ 1 ∧
    (∀ it ∈ x.timed.timers.itemQueue,
      x.timed.timerId x.timed.currState = some it.timerId ∧
        ∃ cfg, M.timer x.timed.currState = some cfg ∧ it.type = cfg.type ∧
          it.cookie = cfg.cookie) ∧
    (∀ cfg, x.entered → M.timer x.timed.currState = some cfg →
      x.timed.timers.itemQueue ≠ [] ∨ x.expired) ∧
    ∀ m e y, Declines M x.timed m → e = .call m ∨ e = .deliver m → x.step M e = some y →
      ∀ es' z, (∀ e' ∈ es', begins e' = false) → run (step M) y es' = some z →
        z.timed.currState = x.timed.currState := by
  have htended : x.Tended M :=
    run_invariant_all (fun _ _ _ h hstep => step_tended h hstep) (tended_initial M d) hrun
  refine ⟨?_, fun it hit => ?_, fun cfg hentered hcfg => ?_, ?_⟩
  · rcases htended.listed with hempty | ⟨it, _, hqueue, -⟩
    · simp [hempty]
    · simp [hqueue]
  · rcases htended.listed with hempty | ⟨it', cfg, hqueue, hid, hcfg, htype, hcookie⟩
    · rw [hempty] at hit
      cases hit
    rw [hqueue, List.mem_singleton] at hit
    subst hit
    exact ⟨hid, cfg, hcfg, htype, hcookie⟩
  · by_cases hempty : x.timed.timers.itemQueue = []
    · refine .inr (htended.kept.expired hentered hcfg hempty fun byTimer next hcall => ?_)
      rw [hfree] at hcall
      cases hcall
    · exact .inl hempty
  · intro m e y hdeclines he hbegin es' z hes' hrun'
    -- until another message is begun, no step can change the state
    have hstay := run_invariant_mem
      (I := fun u => u.timed.currState = x.timed.currState ∧ Settled u.timed)
      (fun u e' v hu he' hstep => ?_) (step_declines hdeclines he hbegin) hes' hrun'
    · exact hstay.1
    · obtain ⟨hstate, hsettled⟩ := step_settled hu.2 he' hstep
      exact ⟨hstate.trans hu.1, hsettled⟩

theorem run_tended_reset :
    let M : ModuleStates Bool Nat Nat Unit :=
      { defaultState := false
        states := fun _ => some ((StateActions.waitUntil { cfg := ⟨0, 0, 0⟩ } 0
          (fun _ s d => ({ nextState := some (!s) }, d)) 5).add 1 fun _ _ d => ({ resets := 1 }, d))
        msgId := id }
    let es : List (TimedEvent Nat) := [.call 0, .proceed, .proceed, .tick 5, .expire, .call 1,
      .proceed, .proceed, .proceed]
    ∃ x, run (step M) (initial M ()) es = some x ∧ x.timed.inHand.isSome ∧
      x.timed.timers.itemQueue.length ≤ 1 ∧
      (x.timed.timers.itemQueue ≠ [] ∨ x.expired) := by
  intro M es
  have hreached : ∃ x, run (step M) (initial M ()) es = some x ∧ x.timed.call = none ∧
      x.timed.inHand.isSome ∧ x.entered ∧ M.timer x.timed.currState = some ⟨0, 5, 0⟩ :=
    ⟨_, rfl, rfl, rfl, rfl, rfl⟩
  obtain ⟨x, hrun, hfree, hinHand, hentered, hcfg⟩ := hreached
  have htended := run_tended M () es x hrun hfree
  exact ⟨x, hrun, hinHand, htended.1, htended.2.2.1 _ hentered hcfg⟩

end Stay
end IntellVoice.Utils
