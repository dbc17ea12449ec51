import IntellVoice.Service.Progress

/-! `SwitchOffProc` removes a detector, but not during an enroll or update. -/

namespace IntellVoice.Service
open Transition BoundedQueue ServiceManager
variable {s t : ServiceManager} {a : Answers} {model : WakeupModel}

def ServiceManager.OffPending (s : ServiceManager) (model : WakeupModel) : Prop :=
  (∃ fromSwitch, Task.switchOff model fromSwitch ∈ s.queue) ∨
    Pending.onSwitchChange model ∈ s.pending

def Honoured (current : Option Task) (model : WakeupModel) (s : ServiceManager) : Prop :=
  s.switchStatus model = false → s.detectors model →
    (s.enroll || s.controller.isUpdating) ∨ s.OffPending model ∨
      ∃ fromSwitch, current = some (.switchOff model fromSwitch)

lemma ServiceManager.OffPending.congr (h : s.OffPending model)
    (hqueue : ∀ task ∈ s.queue, task ∈ t.queue) (hpending : t.pending = s.pending) :
    t.OffPending model := by
  rcases h with ⟨fromSwitch, hin⟩ | hin
  · exact .inl ⟨fromSwitch, hqueue _ hin⟩
  · exact .inr (hpending ▸ hin)

variable {queue : BoundedQueue Task maxTaskNum} {task : Task}

lemma Honoured.started (h : Honoured (some task) model s)
    (htask : ∀ fromSwitch, task ≠ .switchOff model fromSwitch) : Honoured none model s := by
  intro hoff hlive
  rcases h hoff hlive with hbusy | hpending | ⟨fromSwitch, hcur⟩
  · exact .inl hbusy
  · exact .inr (.inl hpending)
  · exact absurd (Option.some.inj hcur) (htask fromSwitch)

lemma Honoured.next (h : Honoured none model s) (hswitch : t.switchStatus = s.switchStatus)
    (hdetectors : t.detectors model → s.detectors model ∨ s.switchStatus model)
    (hqueue : ∀ task ∈ s.queue, task ∈ t.queue) (hpending : t.pending = s.pending)
    (hbusy : s.switchStatus model = false → s.detectors model →
      (s.enroll || s.controller.isUpdating) →
      (t.enroll || t.controller.isUpdating) ∨ s.OffPending model) : Honoured none model t := by
  intro hoff hlive
  rw [hswitch] at hoff
  rcases hdetectors hlive with hbefore | hon
  · rcases h hoff hbefore with hflight | hway | ⟨_, ⟨⟩⟩
    · rcases hbusy hoff hbefore hflight with hstill | hway
      · exact .inl hstill
      · exact .inr (.inl (hway.congr hqueue hpending))
    · exact .inr (.inl (hway.congr hqueue hpending))
  · rw [hoff] at hon
    cases hon

lemma Honoured.detection (h : Honoured none model s) (hframe : s.DetectionFrame t) :
    Honoured none model t := by
  refine h.next hframe.switchStatus (hframe.detectors model) (fun _ hin => hframe.queue ▸ hin)
    hframe.pending fun _ _ hflight => .inl ?_
  rw [hframe.enroll, hframe.controller]
  exact hflight

lemma Honoured.update (h : Honoured none model s) (hframe : s.UpdateFrame t)
    (hbusy : s.switchStatus model = false → s.detectors model →
      (s.enroll || s.controller.isUpdating) →
      (t.enroll || t.controller.isUpdating) ∨ s.OffPending model) : Honoured none model t :=
  h.next hframe.switchStatus (fun hlive => .inl (hframe.detectors ▸ hlive)) hframe.queue
    hframe.pending hbusy

lemma switchOffProc_honoured (hinv : UpdateInvariant s) (current : Option Task) :
    Honoured current model (s.switchOffProc model) := by
  intro hoff hlive
  have hframe := s.switchOffProc_frame model
  rw [hframe.switchStatus] at hoff
  rw [hframe.enroll, hframe.controller, ← hinv.exist_eq]
  unfold switchOffProc at hlive
  split at hlive
  · rename_i hexist
    exact .inl hexist
  · rw [if_neg (by simp [hoff])] at hlive
    simp [releaseTriggerDetector] at hlive

def Task.EndsWithoutSwitchOff (a : Answers) (model : WakeupModel) (s : ServiceManager) :
    Task → Prop
  | .releaseEngine .enroll =>
    s.enroll ∧ s.controller.isUpdating = false ∧ s.enrollResult .enroll ∧
      (a.whisperVprConfig ∨ model = .voice)
  | .updateComplete result param =>
    s.enroll = false ∧ s.controller.isUpdating ∧
      s.controller.updateStrategy.map UpdateStrategy.param = some param ∧
      s.retries a result = false ∧
      (a.whisperVprConfig → param ≠ whisperVprUpdateParam →
        a.updateCreated whisperVprUpdateParam = false)
  | .updateRetry =>
    s.enroll = false ∧ s.controller.isUpdating ∧
      ∀ strategy, s.controller.updateStrategy = some strategy →
        strategy.updateRestrain a ∨ a.updateCreated strategy.param = false
  | .clearUserData => s.enroll = false ∧ s.controller.isUpdating
  | task =>
    s.enroll = false ∧ s.controller.isUpdating ∧
      ∃ strategy ∈ task.strategies, s.controller.curPriority < strategy.priority ∧
        a.updateCreated strategy.param = false

lemma Honoured.requested {strategy : UpdateStrategy} {r : Bool × ServiceManager}
    (h : Honoured none model s) (hr : s.Requested a strategy r)
    (hends : s.enroll = false → s.controller.isUpdating →
      s.controller.curPriority < strategy.priority → a.updateCreated strategy.param = false →
      s.switchStatus model = false → s.detectors model → s.OffPending model) :
    Honoured none model r.2 := by
  cases hr with
  | refused hwhy => exact h
  | failed henroll hanswer hbefore hupdate hcontroller htimer hqueue hframe =>
    refine h.update hframe fun _ _ hflight => .inl ?_
    rw [hframe.enroll, hcontroller]
    exact hflight
  | dropped hupdating hpriority hanswer hnone hframe =>
    refine h.update hframe fun hoff hlive _ => ?_
    rw [hframe.enroll, hnone.isUpdating]
    cases henroll : s.enroll with
    | true => exact .inl rfl
    | false =>
      rcases hanswer with henroll' | hfailed
      · rw [henroll] at henroll'
        cases henroll'
      · exact .inr (hends henroll hupdating hpriority hfailed hoff hlive)
  | begun henroll hupdating hstrategy hforce hupdate hengine hframe =>
    refine h.update hframe fun _ _ _ => .inl ?_
    rw [hupdating, Bool.or_true]

lemma Honoured.asked (h : Honoured none model s) (hr : s.Asked a task t)
    (hends : ∀ strategy ∈ task.strategies, s.enroll = false → s.controller.isUpdating →
      s.controller.curPriority < strategy.priority → a.updateCreated strategy.param = false →
    s.switchStatus model = false → s.detectors model → s.OffPending model) :
    Honoured none model t := by
  cases hr with
  | cloned hframe => exact h.detection hframe
  | requested hin hr => exact h.requested hr (hends _ hin)
  | followed hfirst hr =>
    have hwhisper := hends whisperUpdateStrategy (by simp [Task.strategies])
    refine (h.requested hfirst (hends _ (by simp [Task.strategies]))).requested hr ?_
    cases hfirst with
    | refused => exact hwhisper
    | failed henroll hanswer hbefore hupdate hcontroller htimer hqueue hframe =>
      simp only [hcontroller, hframe.enroll, hframe.switchStatus, hframe.detectors]
      exact fun h₁ h₂ h₃ h₄ h₅ h₆ => (hwhisper h₁ h₂ h₃ h₄ h₅ h₆).congr hframe.queue hframe.pending
    | dropped _ _ _ hnone =>
      intro _ hupdating
      cases hnone.isUpdating.symm.trans hupdating

lemma Honoured.releaseEnroll (hinv : UpdateInvariant s) (h : Honoured none model s)
    (hends : Task.EndsWithoutSwitchOff a model s (.releaseEngine .enroll) →
      s.switchStatus model = false → s.detectors model → s.OffPending model)
    (hrun : s.releaseEngine a .enroll = some t) : Honoured none model t := by
  have hinv' : UpdateInvariant { s with enroll := false } := hinv.congr rfl rfl
  -- Without the condition the model's switch-off follows in the same task.
  have hstart : Honoured none model { s with enroll := false } ∨ s.enrollResult .enroll = false ∨
      a.whisperVprConfig = false ∧ model = .proximal := by
    by_cases hresult : s.enrollResult .enroll = false
    · exact .inr (.inl hresult)
    by_cases hproximal : a.whisperVprConfig = false ∧ model = .proximal
    · exact .inr (.inr hproximal)
    refine .inl (h.next rfl .inl (fun _ hin => hin) rfl fun hoff hlive hflight => ?_)
    cases hupdating : s.controller.isUpdating with
    | true => exact .inl rfl
    | false =>
      have henroll : s.enroll := by simpa [hupdating] using hflight
      refine .inr (hends ⟨henroll, hupdating, by simpa using hresult, ?_⟩ hoff hlive)
      cases model with
      | voice => exact .inr rfl
      | proximal => exact .inl (by simpa using hproximal)
  have hcases := releaseEngine_cases (.inl rfl) hrun
  rw [show s.detachEngine .enroll = { s with enroll := false } from rfl] at hcases
  rcases hcases with ⟨hsuccess, hvpr, hpush⟩ | ⟨hsuccess, -, rfl⟩ | ⟨-, rfl⟩
  · obtain ⟨queue, hpushed, rfl⟩ := push?_spec hpush
    rcases hstart with hd | hfail | ⟨hno, -⟩
    · exact hd.next rfl .inl (fun _ hin => mem_of_push? hpushed hin) rfl
        fun _ _ hflight => .inl hflight
    · cases hsuccess.symm.trans hfail
    · cases hvpr.symm.trans hno
  · have hon := (switchOnProc_frame { s with enroll := false } a .voice true).trans
      (switchOnProc_frame _ a .proximal true)
    rcases hstart with hd | hfail | ⟨-, rfl⟩
    · exact (hd.detection hon).detection (switchOffProc_frame _ .proximal)
    · cases hsuccess.symm.trans hfail
    · exact switchOffProc_honoured (hinv'.detection hon) none
  have hvoice := switchOnProc_frame { s with enroll := false } a .voice true
  have hproximal := (hvoice.trans (switchOffProc_frame _ .voice)).trans
    (switchOnProc_frame _ a .proximal true)
  refine Honoured.detection ?_ (unloadIntellVoiceService_frame _)
  cases model with
  | voice =>
    have hoff : Honoured none .voice _ := switchOffProc_honoured (hinv'.detection hvoice) none
    exact (hoff.detection (switchOnProc_frame _ a .proximal true)).detection
      (switchOffProc_frame _ .proximal)
  | proximal => exact switchOffProc_honoured (hinv'.detection hproximal) none

lemma Honoured.releaseOther {type : EngineType} (h : Honoured none model (s.detachEngine type))
    (htype : type ≠ .update) (hrun : s.runTask a (.releaseEngine type) = some t) :
    Honoured none model t := by
  rcases releaseEngine_detached htype hrun with hpush | hframe
  · obtain ⟨queue, hpushed, rfl⟩ := push?_spec hpush
    exact h.next rfl .inl (fun _ hin => mem_of_push? hpushed hin) rfl
      fun _ _ hflight => .inl hflight
  · exact h.detection hframe

lemma Honoured.runTask (hinv : UpdateInvariant s) (h : Honoured (some task) model s)
    (hends : task.EndsWithoutSwitchOff a model s → s.switchStatus model = false →
      s.detectors model → s.OffPending model)
    (hrun : s.runTask a task = some t) : Honoured none model t := by
  cases task with
  | switchOn m needUpdateAdapter =>
    cases hrun
    exact (h.started (by simp)).detection (s.switchOnProc_frame a m needUpdateAdapter)
  | switchOff m fromSwitch =>
    have hoff : Honoured none model (s.switchOffProc m) := by
      by_cases hm : m = model
      · subst hm
        exact switchOffProc_honoured hinv none
      · exact (h.started (by simp [hm])).detection (s.switchOffProc_frame m)
    cases fromSwitch <;> cases hrun
    · exact hoff
    -- The observer that waited for this task has the unloading left to do.
    intro hswitch hlive
    rcases hoff hswitch hlive with hflight | (hqueued | hpending) | hcur
    · exact .inl hflight
    · exact .inr (.inl (.inl hqueued))
    · exact .inr (.inl (.inr (List.mem_append_left _ hpending)))
    · exact .inr (.inr hcur)
  | unloadIntellVoiceService =>
    cases hrun
    exact (h.started (by simp)).detection s.unloadIntellVoiceService_frame
  | onIdle =>
    cases hrun
    exact (h.started (by simp)).next rfl .inl (fun _ hin => hin) rfl fun _ _ hflight => .inl hflight
  | createEnrollEngine =>
    cases hrun
    obtain ⟨henroll, -, hcontroller, -, hswitch, hdetectors, hpending, hqueue⟩ :=
      createEngine_enroll
        ((s.emit (.stopDetection .voice)).emit (.stopDetection .proximal)) a
    refine (h.started (by simp)).next hswitch (fun hlive => .inl (hdetectors ▸ hlive)) ?_ hpending
      fun _ _ hflight => .inl ?_
    · intro task hin
      rw [hqueue]
      exact (releaseUpdateEngine_frame _).queue task hin
    · rw [henroll, hcontroller]
      rcases Bool.or_eq_true_iff.1 hflight with henrolled | hupdating
      · simp [emit, henrolled]
      · simp [emit, hupdating]
  | releaseEngine type =>
    have hbefore := h.started (by simp)
    cases type with
    | enroll => exact hbefore.releaseEnroll hinv hends hrun
    | update =>
      rw [show s.runTask a (.releaseEngine .update) = _ from s.releaseEngine_update a] at hrun
      cases hrun
      refine hbefore.update s.releaseUpdateEngine_frame fun _ _ hflight => .inl ?_
      rw [s.releaseUpdateEngine_frame.enroll, s.releaseUpdateEngine_controller]
      exact hflight
    | wakeup | implicitEnroll =>
      refine Honoured.releaseOther ?_ (by simp) hrun
      exact hbefore.next rfl .inl (fun _ hin => hin) rfl fun _ _ hflight => .inl hflight
  | silenceUpdate | whisperVprUpdate | cloneUpdate _ | createUpdateEngineUntilTime _ _ =>
    exact (h.started (by simp)).asked (runTask_asked (by simp [Task.strategies]) hrun)
      fun strategy hin henroll hupdating hpriority hanswer =>
        hends ⟨henroll, hupdating, strategy, hin, hpriority, hanswer⟩
  | updateComplete result param =>
    have hbefore := h.started (by simp)
    obtain ⟨u, ended, hcompleted, hend⟩ := runTask_updateComplete hrun
    cases hcompleted with
    | ignored hother =>
      rcases hend with ⟨⟨⟩, -⟩ | ⟨⟨⟩, -⟩ | ⟨-, rfl⟩
      exact hbefore
    | retry hupdating hstrategy hforce hupdate htimer hlog hframe =>
      rcases hend with ⟨⟨⟩, -⟩ | ⟨⟨⟩, -⟩ | ⟨-, rfl⟩
      refine hbefore.update hframe fun _ _ hflight => .inl ?_
      rw [hframe.enroll, hupdating]
      exact hflight
    | ended hlast hparam hnone hframe =>
      have hupdating := hinv.updating_of_param hparam
      rcases hend with ⟨-, henroll, -, rfl⟩ | ⟨-, henroll, hvpr, rfl⟩ | ⟨hwhy, rfl⟩
      · -- A whisper update takes over, unless its engine cannot be made.
        have hrequest := u.createUpdateEngineUntilTime_requested a whisperUpdateStrategy true
        change Honoured none model (u.createUpdateEngineUntilTime a whisperUpdateStrategy true).2
        generalize u.createUpdateEngineUntilTime a whisperUpdateStrategy true = r at hrequest ⊢
        cases hrequest with
        | refused hwhy =>
          rcases hwhy with hrestrain | henroll' | hupdating'
          · cases hrestrain
          · cases henroll.symm.trans henroll'
          · cases hnone.isUpdating.symm.trans hupdating'
        | failed _ hanswer _ _ hcontroller _ _ hcreated =>
          refine hbefore.update (hframe.trans hcreated) fun hoff hlive _ => .inr ?_
          exact hends ⟨hframe.enroll ▸ henroll, hupdating, hparam, hlast, fun _ _ => hanswer⟩
            hoff hlive
        | dropped hupdating' => cases hnone.isUpdating.symm.trans hupdating'
        | begun _ hbegun _ _ _ _ hcreated =>
          refine hbefore.update (hframe.trans hcreated) fun _ _ _ => .inl ?_
          rw [hbegun, Bool.or_true]
      · refine Honoured.detection ?_ (u.restoreDetection_frame a)
        refine hbefore.update hframe fun hoff hlive _ => .inr ?_
        exact hends ⟨hframe.enroll ▸ henroll, hupdating, hparam, hlast,
          fun hconfig hother => absurd (hvpr hconfig) hother⟩ hoff hlive
      · have henroll := hwhy.resolve_left (by simp)
        refine hbefore.update hframe fun _ _ _ => .inl ?_
        rw [henroll, Bool.true_or]
  | updateRetry =>
    have hbefore := h.started (by simp)
    obtain ⟨u, again, hretried, hend⟩ := runTask_updateRetry hrun
    cases hretried with
    | forced hforce =>
      rcases hend with ⟨⟨⟩, -⟩ | ⟨-, rfl⟩
      exact hbefore
    | again henroll hstrategy hcontroller hupdate hengine hframe =>
      rcases hend with ⟨⟨⟩, -⟩ | ⟨-, rfl⟩
      refine hbefore.update hframe fun _ _ hflight => .inl ?_
      rw [hframe.enroll, hcontroller]
      exact hflight
    | abandoned hwhy hnone hframe =>
      have hgiven : Honoured none model u := by
        refine hbefore.update hframe fun hoff hlive hflight => ?_
        rw [hframe.enroll, hnone.isUpdating]
        cases henroll : s.enroll with
        | true => exact .inl rfl
        | false =>
          have hupdating : s.controller.isUpdating := by simpa [henroll] using hflight
          refine .inr (hends ⟨henroll, hupdating, fun strategy hstrategy => ?_⟩ hoff hlive)
          rcases hwhy strategy hstrategy with hrestrain | henroll' | hanswer
          · exact .inl hrestrain
          · cases henroll.symm.trans henroll'
          · exact .inr hanswer
      rcases hend with ⟨-, -, rfl⟩ | ⟨-, rfl⟩
      · exact hgiven.detection (u.restoreDetection_frame a)
      · exact hgiven
  | clearUserData =>
    cases hrun
    have hbefore := h.started (by simp)
    refine Honoured.detection ?_ (unloadIntellVoiceService_frame _)
    rcases s.forceRelease_cases with ⟨-, heq⟩ | ⟨hupdating, hnone, hframe⟩
    · rw [heq]
      exact hbefore
    refine hbefore.update hframe fun hoff hlive _ => ?_
    rw [hframe.enroll, hnone.isUpdating]
    cases henroll : s.enroll with
    | true => exact .inl rfl
    | false => exact .inr (hends ⟨henroll, hupdating⟩ hoff hlive)

/-- An update or enrollment ends before a switch-off only with that still pending. -/
def Event.KeepsSwitchOff (model : WakeupModel) (s : ServiceManager) : Event → Prop
  | .execute a _ => ∀ task ∈ s.queue.items.head?, task.EndsWithoutSwitchOff a model s →
      s.switchStatus model = false → s.detectors model → s.OffPending model
  | _ => True

lemma ServiceManager.startUpdateTimer_fst (s : ServiceManager) :
    s.startUpdateTimer.1 = (s.controller.timerId.isSome || s.timer.setTimer.1.isSome) := by
  unfold startUpdateTimer
  split
  · rename_i hset
    simp [hset]
  rename_i hset
  dsimp only
  split
  · rename_i hid
    simp [hset, hid]
  · rename_i hid
    simp [hid]

lemma ServiceManager.retries_queue (s : ServiceManager) (a : Answers) (result : UpdateState)
    (queue : BoundedQueue Task maxTaskNum) (versionDeleted : Bool) :
    { s with queue, versionDeleted }.retries a result = s.retries a result := by
  cases hid : s.controller.timerId <;>
    simp [retries, setController, stopUpdateTimer, hid, isNeedRetryUpdate, startUpdateTimer_fst]

lemma Task.EndsWithoutSwitchOff.of_queue {versionDeleted : Bool}
    (h : task.EndsWithoutSwitchOff a model { s with queue, versionDeleted }) :
    task.EndsWithoutSwitchOff a model s := by
  cases task with
  | releaseEngine type => cases type <;> exact h
  | updateComplete result param =>
    obtain ⟨henroll, hupdating, hparam, hlast, hfollow⟩ := h
    rw [s.retries_queue] at hlast
    exact ⟨henroll, hupdating, hparam, hlast, hfollow⟩
  | _ => exact h

lemma Task.EndsWithoutSwitchOff.not_switchOff {m : WakeupModel} {fromSwitch : Bool}
    (h : Task.EndsWithoutSwitchOff a model s (.switchOff m fromSwitch)) : False := by
  obtain ⟨-, -, strategy, hin, -⟩ := h
  cases hin

lemma Honoured.take {rest arrivals : List Task} {versionDeleted : Bool} (h : Honoured none model s)
    (hitems : s.queue.items = task :: rest) (hqueue : queue.items = rest ++ arrivals) :
    Honoured (some task) model { s with queue, versionDeleted } := by
  intro hoff hlive
  rcases h hoff hlive with hflight | (⟨fromSwitch, hin⟩ | hpending) | ⟨_, hcur⟩
  · exact .inl hflight
  · rw [mem_def, hitems, List.mem_cons] at hin
    rcases hin with rfl | hin
    · exact .inr (.inr ⟨fromSwitch, rfl⟩)
    refine .inr (.inl (.inl ⟨fromSwitch, ?_⟩))
    rw [mem_def, hqueue]
    exact List.mem_append_left _ hin
  · exact .inr (.inl (.inr hpending))
  · cases hcur

lemma step_honoured {e : Event} (hinv : UpdateInvariant s) (h : Honoured none model s)
    (hkeeps : e.KeepsSwitchOff model s) (hstep : step s e = some t) : Honoured none model t := by
  cases e with
  | setSwitch m status =>
    cases hstep
    intro hoff hlive
    by_cases hm : model = m
    · subst hm
      exact .inr (.inl (.inr (by simp)))
    rcases h (by simpa [hm] using hoff) hlive with hflight | (hqueued | hpending) | ⟨_, hcur⟩
    · exact .inl hflight
    · exact .inr (.inl (.inl hqueued))
    · exact .inr (.inl (.inr (List.mem_append_left _ hpending)))
    · cases hcur
  | observer pending =>
    obtain ⟨queue, hpush, rfl⟩ := step_observer hstep
    intro hoff hlive
    by_cases hmodel : pending = .onSwitchChange model
    · subst hmodel
      have hoff' : s.switchStatus model = false := hoff
      have htask : s.switchTask model = .switchOff model true := by simp [switchTask, hoff']
      rw [pendingTask, htask] at hpush
      exact .inr (.inl (.inl ⟨true, BoundedQueue.mem_push?_self hpush⟩))
    -- Another observer's turn leaves the model's own pending one in the list.
    rcases h hoff hlive with hflight | (⟨fromSwitch, hin⟩ | hin) | ⟨_, hcur⟩
    · exact .inl hflight
    · exact .inr (.inl (.inl ⟨fromSwitch, mem_of_push? hpush hin⟩))
    · exact .inr (.inl (.inr ((List.mem_erase_of_ne (Ne.symm hmodel)).2 hin)))
    · cases hcur
  | execute answers arrivals =>
    obtain ⟨task, rest, queue, versionDeleted, hitems, hqueue, hrun⟩ := step_execute hstep
    have hinv' : UpdateInvariant { s with queue, versionDeleted } := hinv.congr rfl rfl
    refine Honoured.runTask hinv' (h.take hitems hqueue) (fun hends hoff hlive => ?_) hrun
    have hends' := hends.of_queue
    rcases hkeeps task (by simp [hitems]) hends' hoff hlive with ⟨fromSwitch, hin⟩ | hpending
    · rw [mem_def, hitems, List.mem_cons] at hin
      rcases hin with rfl | hin
      · exact hends'.not_switchOff.elim
      refine .inl ⟨fromSwitch, ?_⟩
      rw [mem_def, hqueue]
      exact List.mem_append_left _ hin
    · exact .inr hpending
  | _ =>
    have hframe := step_outside hstep (by simp) (by simp) (by simp)
    refine h.next hframe.switchStatus (fun hlive => .inl (hframe.detectors ▸ hlive)) hframe.queue
      hframe.pending fun _ _ hflight => .inl ?_
    rw [hframe.enroll, hframe.controller]
    exact hflight

theorem run_switchedOff_no_detector (switchStatus : WakeupModel → Bool) (es : List Event)
    {s : ServiceManager} (model : WakeupModel)
    (hkeeps : Along step (fun s e _ => e.KeepsSwitchOff model s) (.initial switchStatus) es)
    (hrun : run step (.initial switchStatus) es = some s) (hidle : s.queue.items = [])
    (hobservers : ∀ m, Pending.onSwitchChange m ∉ s.pending)
    (hnone : s.enrollOrUpdateExist = false) (hoff : s.switchStatus model = false) :
    s.detectors model = false := by
  have hinitial : Honoured none model (.initial switchStatus) := by
    intro _ hlive
    cases hlive
  obtain ⟨hinv, h⟩ := run_invariant
    (I := fun s => UpdateInvariant s ∧ Honoured none model s)
    (fun s e t hs hR hstep =>
      ⟨step_updateInvariant hs.1 hstep, step_honoured hs.1 hs.2 hR hstep⟩)
    ⟨initial_updateInvariant switchStatus, hinitial⟩ hkeeps hrun
  rw [hinv.exist_eq] at hnone
  by_contra hlive
  rcases h hoff (by simpa using hlive) with hflight | (⟨fromSwitch, hin⟩ | hpending) | ⟨_, hcur⟩
  · cases hnone.symm.trans hflight
  · rw [mem_def, hidle] at hin
    cases hin
  · exact hobservers model hpending
  · cases hcur

theorem run_switchedOff_no_detector_failed_enroll :
    ∃ s : ServiceManager, run step (.initial fun _ => true)
        [.request (.switchOn .voice false), .execute {} [], .request .createEnrollEngine,
          .execute {} [], .setSwitch .voice false, .observer (.onSwitchChange .voice),
          .execute {} [], .request (.releaseEngine .enroll), .execute {} []] = some s ∧
      s.switchStatus .voice = false ∧ s.detectors .voice = false := by
  refine ⟨_, rfl, rfl, run_switchedOff_no_detector (fun _ => true)
    [.request (.switchOn .voice false), .execute {} [], .request .createEnrollEngine,
      .execute {} [], .setSwitch .voice false, .observer (.onSwitchChange .voice),
      .execute {} [], .request (.releaseEngine .enroll), .execute {} []] .voice ?_ rfl rfl ?_ rfl
    rfl⟩
  · -- Only the release of the engine could end something, and the enroll had no success.
    refine .of_step rfl trivial ?_
    refine .of_step rfl (fun _ hin hends => ?_) ?_
    · cases hin
      obtain ⟨-, hupdating, -⟩ := hends
      cases hupdating
    refine .of_step rfl trivial ?_
    refine .of_step rfl (fun _ hin hends => ?_) ?_
    · cases hin
      obtain ⟨-, hupdating, -⟩ := hends
      cases hupdating
    refine .of_step rfl trivial ?_
    refine .of_step rfl trivial ?_
    refine .of_step rfl (fun _ hin hends => ?_) ?_
    · cases hin
      exact hends.not_switchOff.elim
    refine .of_step rfl trivial ?_
    refine .of_step rfl (fun _ hin hends => ?_) trivial
    cases hin
    obtain ⟨-, -, hresult, -⟩ := hends
    cases hresult
  · intro m hin
    cases hin with
    | tail _ hin => cases hin

theorem switch_off_during_update_keeps_detector :
    ∃ s : ServiceManager, run step (.initial fun _ => true)
        [.request (.switchOn .voice false), .execute {} [], .request (.cloneUpdate "a"),
          .execute {} [], .setSwitch .voice false, .observer (.onSwitchChange .voice),
          .execute {} [], .observer .unloadIntellVoiceService, .execute {} [],
          .updateCommitComplete true, .execute {} []] = some s ∧
      s.queue.items = [] ∧ s.pending = [] ∧ s.enrollOrUpdateExist = false ∧
      s.switchStatus .voice = false ∧ s.detectors .voice :=
  ⟨_, rfl, rfl, rfl, rfl, rfl, rfl⟩

end IntellVoice.Service
