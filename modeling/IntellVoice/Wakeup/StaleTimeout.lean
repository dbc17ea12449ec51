import IntellVoice.Utils.StateTimers
import IntellVoice.Wakeup.Impl

/-! A timeout is stale when less than the timer's delay has passed in its state. -/

namespace IntellVoice.Utils.Timed
open Transition
variable {σ ι μ δ : Type*} {M : ModuleStates σ ι μ δ} {s t : Timed σ ι δ}

def Timely (M : ModuleStates σ ι μ δ) (s : Timed σ ι δ) (e : TimedEvent μ) : Prop :=
  ∀ m cfg, e = .call m ∨ e = .deliver m → M.timer s.currState = some cfg →
    M.msgId m = cfg.type → s.since + cfg.delayUs ≤ s.now

def NoneInHand (M : ModuleStates σ ι μ δ) (s : Timed σ ι δ) (st : σ) : Prop :=
  ∀ it cfg, s.inHand = some it → M.timer st = some cfg → it.type ≠ cfg.type

def Unhurried (M : ModuleStates σ ι μ δ) (s : Timed σ ι δ) : TimedEvent μ → Prop
  | .call m => ∀ cfg, M.timer s.currState = some cfg → M.msgId m ≠ cfg.type
  | .proceed =>
    match s.call with
    | some ⟨_, .resetting _ _⟩ => s.NoneInHand M s.currState
    | some ⟨_, .entering next⟩ => s.NoneInHand M next
    | _ => True
  | _ => True

def Armed (M : ModuleStates σ ι μ δ) (s : Timed σ ι δ) : Prop :=
  s.timers.itemQueue = [] ∨
    ∃ it cfg, s.timers.itemQueue = [it] ∧ s.timerId s.currState = some it.timerId ∧
      M.timer s.currState = some cfg ∧ it.type = cfg.type ∧ it.tgtUs = s.since + cfg.delayUs

lemma Armed.sole (h : s.Armed M) :
    s.Sole M fun it cfg => it.type = cfg.type ∧ it.tgtUs = s.since + cfg.delayUs := h

def StageInvariant (M : ModuleStates σ ι μ δ) (s : Timed σ ι δ) : Stage σ ι → Prop
  | .resetting _ _ => True
  | .killing _ cfg _ _ =>
    s.timers.itemQueue = [] ∧ M.timer s.currState = some cfg ∧ s.NoneInHand M s.currState
  | .setting cfg _ _ =>
    s.timers.itemQueue = [] ∧ M.timer s.currState = some cfg ∧ s.NoneInHand M s.currState
  | .leaving _ => True
  | .entering _ => s.timers.itemQueue = []

structure Punctual (M : ModuleStates σ ι μ δ) (s : Timed σ ι δ) : Prop where
  armed : s.Armed M
  inHand : ∀ it cfg, s.inHand = some it → M.timer s.currState = some cfg → it.type = cfg.type →
    s.since + cfg.delayUs ≤ s.now
  call : ∀ c, s.call = some c → s.StageInvariant M c.stage

variable {byTimer : Bool} {c : Call σ ι} {left : Nat} {next : Option σ} {e : TimedEvent μ}
  {cfg : TimerCfg ι}

lemma stageInvariant_remaining (hc : Call.remaining byTimer left next = some c) :
    t.StageInvariant M c.stage := by
  cases left with
  | succ left =>
    cases hc
    trivial
  | zero =>
    cases next with
    | none => cases hc
    | some next =>
      cases hc
      trivial

lemma punctual_initial (d : δ) (status : TimerStatus) : (initial M d status).Punctual M where
  armed := .inl rfl
  inHand _ _ hin := by cases hin
  call _ hc := by cases hc

lemma Punctual.tick (h : s.Punctual M) (us : Nat) :
    ({ s with now := s.now + us } : Timed σ ι δ).Punctual M where
  armed := h.armed
  inHand it cfg hin hcfg htype := by
    have := h.inHand it cfg hin hcfg htype
    show s.since + cfg.delayUs ≤ s.now + us
    omega
  call := h.call

lemma Punctual.expire (h : s.Punctual M) {it : TimerItem ι} {timers : TimerMgr ι}
    (hexpire : s.timers.expire s.now = some (it, timers)) :
    ({ s with timers, inHand := some it } : Timed σ ι δ).Punctual M := by
  obtain ⟨hdue, hqueue⟩ := TimerMgr.expire_eq_some hexpire
  have hnonempty : s.timers.itemQueue ≠ [] := by simp [hqueue]
  obtain ⟨hrest, -, cfg, hcfg, -, htgt⟩ := h.armed.sole.expire hexpire
  refine ⟨.inl hrest, fun _ cfg' hin hcfg' _ => ?_, fun c hc => ?_⟩
  · cases hin
    obtain rfl : cfg = cfg' := Option.some.inj (hcfg.symm.trans hcfg')
    show s.since + cfg.delayUs ≤ s.now
    omega
  · -- the stages that count on an empty list are not the ones a timer can expire in
    have hstage := h.call c hc
    cases hst : c.stage with
    | resetting | leaving => trivial
    | killing | setting =>
      rw [hst] at hstage
      exact absurd hstage.1 hnonempty
    | entering =>
      rw [hst] at hstage
      exact absurd hstage hnonempty

variable [DecidableEq σ]

lemma Punctual.begin (h : s.Punctual M) (byTimer : Bool) (m : μ) :
    (s.begin M byTimer m).Punctual M where
  armed := h.armed
  inHand := h.inHand
  call _ hc := stageInvariant_remaining hc

lemma Punctual.rearm (hnone : s.NoneInHand M s.currState) {armed : Option Nat × TimerMgr ι}
    (hcfg : M.timer s.currState = some cfg)
    (hqueue : armed.2.itemQueue = [] ∨ ∃ it, armed.1 = some it.timerId ∧ armed.2.itemQueue = [it] ∧
      it.type = cfg.type ∧ it.tgtUs = s.now + cfg.delayUs) :
    (s.rearm byTimer left next armed).Punctual M where
  armed := by
    rcases hqueue with hempty | ⟨it, hid, hsole, htype, htgt⟩
    · exact .inl hempty
    refine .inr ⟨it, cfg, hsole, ?_, hcfg, htype, htgt⟩
    show Function.update s.timerId s.currState armed.1 s.currState = some it.timerId
    rw [Function.update_self, hid]
  inHand it cfg' hin hcfg' htype := absurd htype (hnone it cfg' hin hcfg')
  call _ hc := stageInvariant_remaining hc

lemma Punctual.resetting (h : s.Punctual M) (hnone : s.NoneInHand M s.currState)
    (byTimer : Bool) (left : Nat) (next : Option σ) :
    (s.proceed M byTimer (.resetting left next)).Punctual M := by
  unfold Timed.proceed
  cases hcfg : M.timer s.currState with
  | none =>
    have hempty := h.armed.sole.nil_of_timer hcfg
    refine ⟨.inl hempty, fun _ _ _ hc => ?_, fun _ hc => stageInvariant_remaining hc⟩
    exact absurd (hcfg.symm.trans hc) (Option.some_ne_none _).symm
  | some cfg =>
    cases hid : s.timerId s.currState with
    | none =>
      exact ⟨.inl (h.armed.sole.nil_of_timerId hid),
        fun it _ hin hc htype => absurd htype (hnone it _ hin hc),
        fun _ hc => stageInvariant_remaining hc⟩
    | some timerId =>
      simp only
      cases hsole : s.timers.resetSole s.now timerId cfg.delayUs with
      | none =>
        have hempty := h.armed.sole.nil_of_resetSole hsole
        refine ⟨.inl hempty, fun it _ hin hc htype => absurd htype (hnone it _ hin hc), ?_⟩
        rintro c ⟨⟩
        exact ⟨hempty, hcfg, hnone⟩
      | some armed =>
        apply Punctual.rearm hnone hcfg
        obtain ⟨it, ⟨htype, -⟩, hr, hmoved⟩ := h.armed.sole.resetSole hid hcfg hsole
        exact .inr ⟨{ it with tgtUs := s.now + cfg.delayUs }, hr, hmoved, htype, rfl⟩

lemma Punctual.killing (h : s.Punctual M) {timerId : Nat}
    (hstage : s.StageInvariant M (.killing timerId cfg left next)) (byTimer : Bool) :
    (s.proceed M byTimer (.killing timerId cfg left next)).Punctual M := by
  have hempty := TimerMgr.itemQueue_killTimer_nil hstage.1 timerId
  refine ⟨.inl hempty, h.inHand, ?_⟩
  rintro c ⟨⟩
  exact ⟨hempty, hstage.2⟩

lemma Punctual.setting (hstage : s.StageInvariant M (.setting cfg left next)) (byTimer : Bool) :
    (s.proceed M byTimer (.setting cfg left next)).Punctual M := by
  obtain ⟨hempty, hcfg, hnone⟩ := hstage
  apply Punctual.rearm hnone hcfg
  rcases TimerMgr.itemQueue_setTimer hempty s.now cfg with hnil | ⟨i, hi, hsole⟩
  · exact .inl hnil
  · exact .inr ⟨⟨i, cfg.type, cfg.cookie, s.now + cfg.delayUs⟩, hi, hsole, rfl, rfl⟩

lemma Punctual.leaving (h : s.Punctual M) (byTimer : Bool) (next : σ) :
    (s.proceed M byTimer (.leaving next)).Punctual M := by
  unfold Timed.proceed
  cases hid : s.timerId s.currState with
  | none =>
    have hempty := h.armed.sole.nil_of_timerId hid
    refine ⟨.inl hempty, h.inHand, ?_⟩
    rintro c ⟨⟩
    exact hempty
  | some timerId =>
    have hempty := h.armed.sole.nil_of_killTimer hid
    refine ⟨.inl hempty, h.inHand, ?_⟩
    rintro c ⟨⟩
    exact hempty

lemma Punctual.entering {next : σ} (hempty : s.timers.itemQueue = [])
    (hnone : s.NoneInHand M next) : (s.enter M next).Punctual M := by
  unfold enter
  cases hcfg : M.timer next with
  | none =>
    refine ⟨.inl hempty, fun _ _ _ hc => ?_, fun _ hc => by cases hc⟩
    exact absurd (hcfg.symm.trans hc) (Option.some_ne_none _).symm
  | some cfg =>
    refine ⟨?_, fun it _ hin hc htype => absurd htype (hnone it _ hin hc),
      fun _ hc => by cases hc⟩
    rcases TimerMgr.itemQueue_setTimer hempty s.now cfg with hnil | ⟨i, hi, hsole⟩
    · exact .inl hnil
    refine .inr ⟨_, cfg, hsole, ?_, hcfg, rfl, rfl⟩
    show Function.update s.timerId next _ next = some i
    rw [Function.update_self, hi]

lemma Punctual.proceed (h : s.Punctual M) (hc : s.call = some c)
    (hunhurried : s.Unhurried M .proceed) : (s.proceed M c.byTimer c.stage).Punctual M := by
  obtain ⟨byTimer, stage⟩ := c
  have hstage := h.call _ hc
  simp only [Unhurried, hc] at hunhurried
  cases stage with
  | resetting left next => exact h.resetting hunhurried byTimer left next
  | killing timerId cfg left next => exact h.killing hstage byTimer
  | setting cfg left next => exact Punctual.setting hstage byTimer
  | leaving next => exact h.leaving byTimer next
  | entering next => exact Punctual.entering hstage hunhurried

variable [DecidableEq ι]

lemma step_punctual (h : s.Punctual M) (hunhurried : s.Unhurried M e)
    (hstep : s.step M e = some t) :
    t.Punctual M := by
  cases e with
  | tick us =>
    cases hstep
    exact h.tick us
  | expire =>
    simp only [step] at hstep
    split at hstep
    · obtain ⟨⟨it, timers⟩, hexpire, rfl⟩ := Option.map_eq_some_iff.1 hstep
      exact h.expire hexpire
    · cases hstep
  | deliver m =>
    simp only [step] at hstep
    split at hstep
    · split at hstep
      · cases hstep
        -- the timer leaves the hand of the timer thread when its message is handled
        have hdropped : ({ s with inHand := none } : Timed σ ι δ).Punctual M :=
          { armed := h.armed
            inHand := fun _ _ hin => by cases hin
            call := fun c hc => by simp [‹s.call = none›] at hc }
        exact hdropped.begin true m
      · cases hstep
    · cases hstep
  | call m =>
    simp only [step] at hstep
    split at hstep
    · cases hstep
      exact h.begin false m
    · cases hstep
  | proceed =>
    obtain ⟨c, hc, rfl⟩ := Option.map_eq_some_iff.1 hstep
    exact h.proceed hc hunhurried

lemma step_timely (h : s.Punctual M) (hunhurried : s.Unhurried M e) (hstep : s.step M e = some t) :
    s.Timely M e := by
  rintro m cfg (rfl | rfl) hcfg htype
  · -- a caller: the message of the timer is not sent
    exact absurd htype (hunhurried cfg hcfg)
  · -- the timer thread: its message is that of the timer in its hand
    simp only [step] at hstep
    split at hstep
    · split at hstep
      · rename_i it _ hin hmsg
        exact h.inHand it cfg hin hcfg (hmsg.symm.trans htype)
      · cases hstep
    · cases hstep

theorem run_timely (M : ModuleStates σ ι μ δ) (d : δ) (status : TimerStatus)
    (es : List (TimedEvent μ))
    (hunhurried : Along (step M) (fun s e _ => s.Unhurried M e) (initial M d status) es) :
    Along (step M) (fun s e _ => s.Timely M e) (initial M d status) es := by
  have hstep : ∀ (s : Timed σ ι δ) (e : TimedEvent μ) (t : Timed σ ι δ), s.Punctual M →
      s.Unhurried M e → s.step M e = some t → t.Punctual M ∧ s.Timely M e :=
    fun _ _ _ h hu ht => ⟨step_punctual h hu ht, step_timely h hu ht⟩
  exact along_of_invariant hstep (punctual_initial d status) hunhurried

end IntellVoice.Utils.Timed

namespace IntellVoice.Wakeup
open Transition Utils

theorem run_timely_recognizing :
    Along (Timed.step ImplKind.phone.machine) (fun s e _ => s.Timely ImplKind.phone.machine e)
      (Timed.initial ImplKind.phone.machine {} .started)
      [.call (.init true true), .proceed, .proceed, .call (.initDone (some 0)), .proceed, .proceed,
        .call (.startRecognize (some 1) true true true), .proceed, .proceed,
        .tick 10000000, .expire, .deliver .recognizingTimeout] := by
  apply Timed.run_timely
  have hnone : ∀ {cfg : TimerCfg EngineEvent}, none = some cfg → False := fun h => by cases h
  refine .of_step rfl (fun _ hcfg => (hnone hcfg).elim) ?_
  refine .of_step rfl trivial (.of_step rfl (fun _ _ _ hcfg => (hnone hcfg).elim) ?_)
  refine .of_step rfl (fun _ hcfg => (hnone hcfg).elim) ?_
  refine .of_step rfl trivial (.of_step rfl (fun _ _ _ hcfg => (hnone hcfg).elim) ?_)
  refine .of_step rfl (fun _ hcfg => (hnone hcfg).elim) ?_
  refine .of_step rfl trivial (.of_step rfl (fun _ _ hin => by cases hin) ?_)
  exact .of_step rfl trivial (.of_step rfl trivial (.of_step rfl trivial trivial))

theorem read_meets_stale_timeout :
    ¬ Along (Timed.step ImplKind.phone.machine) (fun s e _ => s.Timely ImplKind.phone.machine e)
      (Timed.initial ImplKind.phone.machine {} .started)
      [.call (.init true true), .proceed, .proceed, .call (.initDone (some 0)), .proceed, .proceed,
        .call (.startRecognize (some 1) true true true), .proceed, .proceed,
        .call (.recognizeComplete (some ⟨.recognizeComplete, 0, "", ⟨0, 0, 1⟩⟩)), .proceed,
          .proceed,
        .call (.startCapturer 0 (some 1) true), .proceed, .proceed,
        .tick 10000000, .expire, .call (.read (some 0)), .proceed, .proceed, .proceed,
        .deliver .readCapturerTimeout] := by
  intro h
  have hlast := (h _ rfl).2
  iterate 20 replace hlast := (hlast _ rfl).2
  have htimely := (hlast _ rfl).1 .readCapturerTimeout _ (.inr rfl) rfl rfl
  exact absurd htimely (by decide)

end IntellVoice.Wakeup
