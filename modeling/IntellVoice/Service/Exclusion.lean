import IntellVoice.Service.Flow

/-! An enroll engine and an update engine are never there at the same time. -/

namespace IntellVoice.Service
open Transition ServiceManager

def Exclusive (s : ServiceManager) : Prop := s.enroll = false ∨ s.update = none

namespace Exclusive
variable {s t : ServiceManager} {a : Answers} {r : Bool × ServiceManager} {task : Task}

section
variable (h : Exclusive s)
include h

lemma detection (hframe : DetectionFrame s t) : Exclusive t := by
  rwa [Exclusive, hframe.enroll, hframe.update]

lemma requested {strategy : UpdateStrategy} (hr : Requested a strategy s r) : Exclusive r.2 := by
  cases hr with
  | refused => exact h
  | failed _ _ _ hupdate => exact .inr hupdate
  | dropped _ _ _ hnone => exact .inr hnone.update
  | begun henroll _ _ _ _ _ hframe => exact .inl (hframe.enroll.trans henroll)

lemma asked (hr : Asked a s task t) : Exclusive t := by
  cases hr with
  | cloned hframe => exact h.detection hframe
  | requested _ hr => exact h.requested hr
  | followed hfirst hr => exact (h.requested hfirst).requested hr

lemma completed {result : UpdateState} {param : String} (hr : Completed a result param s r) :
    Exclusive r.2 := by
  cases hr with
  | ignored => exact h
  | retry _ _ _ hupdate => exact .inr hupdate
  | ended _ _ hnone => exact .inr hnone.update

lemma retried (hr : Retried a s r) : Exclusive r.2 := by
  cases hr with
  | forced => exact h
  | again henroll _ _ _ _ hframe => exact .inl (hframe.enroll.trans henroll)
  | abandoned _ hnone => exact .inr hnone.update

lemma runTask (hrun : s.runTask a task = some t) : Exclusive t := by
  cases task with
  | switchOn model needUpdateAdapter =>
    cases hrun
    exact h.detection (s.switchOnProc_frame a model needUpdateAdapter)
  | switchOff model fromSwitch =>
    have hoff := h.detection (s.switchOffProc_frame model)
    cases fromSwitch <;> cases hrun <;> exact hoff
  | unloadIntellVoiceService =>
    cases hrun
    exact h.detection s.unloadIntellVoiceService_frame
  | onIdle =>
    cases hrun
    exact h
  | createEnrollEngine =>
    -- the update engine goes before the enroll engine comes
    cases hrun
    exact .inr (createEngine_enroll _ a).2.1
  | releaseEngine type =>
    by_cases htype : type = .update
    · subst htype
      cases (s.releaseEngine_update a).symm.trans hrun
      exact .inr s.releaseUpdateEngine_update
    have hdetached : Exclusive (s.detachEngine type) := by
      cases type with
      | update => exact absurd rfl htype
      | enroll => exact .inl rfl
      | _ => exact h
    rcases releaseEngine_detached htype hrun with hpush | hframe
    · obtain ⟨queue, -, rfl⟩ := push?_spec hpush
      exact hdetached
    · exact hdetached.detection hframe
  | silenceUpdate | whisperVprUpdate | cloneUpdate _ | createUpdateEngineUntilTime _ _ =>
    exact h.asked (runTask_asked (by simp [Task.strategies]) hrun)
  | updateComplete result param =>
    obtain ⟨u, ended, hcompleted, hend⟩ := runTask_updateComplete hrun
    have hdone := h.completed hcompleted
    rcases hend with ⟨-, -, -, rfl⟩ | ⟨-, -, -, rfl⟩ | ⟨-, rfl⟩
    · exact hdone.requested (u.createUpdateEngineUntilTime_requested a whisperUpdateStrategy true)
    · exact hdone.detection (u.restoreDetection_frame a)
    · exact hdone
  | updateRetry =>
    obtain ⟨u, again, hretried, hend⟩ := runTask_updateRetry hrun
    have hdone := h.retried hretried
    rcases hend with ⟨-, -, rfl⟩ | ⟨-, rfl⟩
    · exact hdone.detection (u.restoreDetection_frame a)
    · exact hdone
  | clearUserData =>
    cases hrun
    refine detection ?_ (unloadIntellVoiceService_frame _)
    rcases s.forceRelease_cases with ⟨-, heq⟩ | ⟨-, hnone, -⟩
    · rwa [heq]
    · exact .inr hnone.update

lemma step {e : Event} (hstep : step s e = some t) : Exclusive t := by
  cases e with
  | execute answers arrivals =>
    obtain ⟨task, rest, queue, versionDeleted, -, -, hrun⟩ := step_execute hstep
    have hbefore : Exclusive { s with queue, versionDeleted } := h
    exact hbefore.runTask hrun
  | updateCommitComplete success =>
    obtain ⟨engine, hengine, rfl⟩ := Option.map_eq_some_iff.1 hstep
    exact .inl (h.resolve_right (by simp [hengine]))
  | request task =>
    obtain ⟨queue, -, rfl⟩ := push?_spec (request?_spec hstep).2
    exact h
  | setSwitch | onServiceActive =>
    cases hstep
    exact h
  | observer pending =>
    obtain ⟨queue, -, rfl⟩ := step_observer hstep
    exact h
  | commitEnrollComplete | onTimerEvent =>
    simp only [Service.step] at hstep
    split at hstep <;> cases hstep
    exact h

end

theorem run_engines_exclusive (switchStatus : WakeupModel → Bool) (es : List Event)
    (hrun : run Service.step (.initial switchStatus) es = some s) :
    s.enroll = false ∨ s.update = none := by
  have hinitial : Exclusive (.initial switchStatus) := .inl rfl
  exact run_invariant_all (I := Exclusive) (fun _ _ _ h hstep => h.step hstep) hinitial hrun

theorem run_engines_exclusive_enroll :
    let es : List Event :=
      [.request .silenceUpdate, .execute {} [], .request .createEnrollEngine, .execute {} []]
    ∃ s, run Service.step (.initial fun _ => true) es = some s ∧ s.enroll ∧ s.update = none := by
  intro es
  have h := run_engines_exclusive (fun _ => true) es rfl
  exact ⟨_, rfl, rfl, h.resolve_left Bool.false_ne_true.symm⟩

end Exclusive
end IntellVoice.Service
