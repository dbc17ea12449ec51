import IntellVoice.Implicit.Engine

/-! The service's executor waits for tasks that the engine's thread runs. -/

namespace IntellVoice.Implicit
open Transition Option

/-- The engine's thread runs, or the `INIT_DONE` still to come starts it. -/
def Engine.canRun (e : Engine) : Bool :=
  e.threadStarted ||
    match e.initDone with
    | some done => done.result == 0 && done.threadCreated
    | none => false

/-- The service executor waits for a thread that nothing can start any more. -/
def Service.Blocked (s : Service) : Prop :=
  s.waiting.isSome ∧ ∃ e, s.engine = some e ∧ e.canRun = false

def Service.Runnable (s : Service) : Prop := ∀ e, s.engine = some e → e.canRun

lemma Service.Runnable.not_blocked {s : Service} (h : s.Runnable) : ¬ s.Blocked := by
  rintro ⟨-, e, he, hcannot⟩
  rw [h e he] at hcannot
  cases hcannot

@[simp] lemma Engine.canRun_message (read : String → Parsed) (m : StateMsg) (e : Engine) :
    (e.message read m).canRun = e.canRun := rfl

@[simp] lemma Engine.canRun_start (read : String → Parsed) (param : String) (e : Engine) :
    (e.start read param).canRun = e.canRun := by
  unfold start
  dsimp only
  split <;> rfl

namespace Service
variable {s t : Service} {e : Engine}

lemma runnable_some (he : e.canRun) (hs : s.engine = some e) : s.Runnable := by
  intro e' he'
  rw [hs] at he'
  cases he'
  exact he

lemma runnable_none (hs : s.engine = none) : s.Runnable := by
  intro e he
  rw [hs] at he
  cases he

lemma runnable_await (s : Service) (kind : WaitKind) (he : e.canRun) :
    (s.await e kind).Runnable := by
  unfold await
  split
  · rename_i queue _
    exact runnable_some (e := { e with queue := queue }) he rfl
  · exact runnable_some he rfl

lemma runnable_wake (read : String → Parsed) (s : Service) (he : e.canRun) :
    (s.wake read e).Runnable := by
  unfold wake
  split
  · rename_i param _ _
    exact runnable_some (e := e.message read (.setParam (some param))) he rfl
  · exact runnable_await s _ he
  · exact runnable_none rfl
  · exact runnable_some he rfl

lemma runnable_handleSetParam (s : Service) (param : String) (he : e.canRun) :
    (s.handleSetParam param e).Runnable := by
  unfold handleSetParam
  split
  · exact runnable_await s _ he
  · exact runnable_some he rfl

lemma runnable_push? {request : Request} (h : s.Runnable) (ht : s.push? request = some t) :
    t.Runnable := by
  obtain ⟨queue, -, rfl⟩ := map_eq_some_iff.1 ht
  exact h

lemma runnable_runEngineTask {read : String → Parsed} {detach : Int} {task : EngineTask}
    (he : e.canRun) (ht : s.runEngineTask read detach e task = some t) : t.Runnable := by
  cases task with
  | start =>
    cases ht
    exact runnable_some he rfl
  | setParameter =>
    cases ht
    exact runnable_wake read s he
  | release =>
    simp only [runEngineTask, ite_none_left_eq_some] at ht
    obtain ⟨-, ht⟩ := ht
    cases ht
    exact runnable_wake read s (by simpa using he)
  | onEnrollComplete result info =>
    simp only [runEngineTask, ite_none_left_eq_some] at ht
    obtain ⟨-, ht⟩ := ht
    cases ht
    exact runnable_some (e := e.message read _) (by simpa using he) rfl

end Service

def Request.needsEngine : Request → Bool
  | .startEnroll _ => true
  | .clearData _ => true
  | .releaseEngine => false

def InitOutcome.starts : InitOutcome → Bool
  | .attached (some done) => done.result == 0 && done.threadCreated
  | _ => false

/-- A request that creates the engine meets an HDI that will start the engine's thread. -/
def Event.InitSucceeds (s : Service) : Event → Prop
  | .serve outcome =>
    s.engine = none → ∀ request queue, s.queue.pop? = some (request, queue) →
      request.needsEngine → outcome.starts
  | _ => True

lemma Service.runnable_withEngine {s : Service} {outcome : InitOutcome}
    {use : Service → Engine → Service} (h : s.Runnable) (hstarts : s.engine = none → outcome.starts)
    (huse : ∀ s' e, e.canRun → (use s' e).Runnable) : (s.withEngine outcome use).Runnable := by
  unfold withEngine
  cases he : s.engine with
  | some e => exact huse s e (h e he)
  | none =>
    have houtcome := hstarts he
    cases outcome with
    | failed => cases houtcome
    | attached initDone =>
      cases initDone with
      | none => cases houtcome
      | some done => exact huse _ _ houtcome

lemma Service.runnable_handleRequest (read : String → Parsed) {s : Service}
    {outcome : InitOutcome} {request : Request} (h : s.Runnable)
    (hstarts : s.engine = none → request.needsEngine → outcome.starts) :
    (s.handleRequest read outcome request).Runnable := by
  cases request with
  | startEnroll param =>
    refine runnable_withEngine h (fun hnone => hstarts hnone rfl) fun s' e he => ?_
    exact runnable_some (e := e.start read param) (by simpa using he) rfl
  | clearData param =>
    exact runnable_withEngine h (fun hnone => hstarts hnone rfl) fun s' e he =>
      runnable_handleSetParam s' param he
  | releaseEngine =>
    simp only [handleRequest]
    cases he : s.engine with
    | none => exact h
    | some e => exact runnable_await s .detach (h e he)

section Steps
variable {read : String → Parsed} {s t : Service} {event : Event}

lemma step_runnable (h : s.Runnable) (hinit : event.InitSucceeds s)
    (hstep : step read s event = some t) : t.Runnable := by
  cases event with
  | request request => exact Service.runnable_push? h hstep
  | serve outcome =>
    simp only [step, ite_none_left_eq_some, map_eq_some_iff] at hstep
    obtain ⟨-, ⟨request, queue⟩, hpop, rfl⟩ := hstep
    exact Service.runnable_handleRequest read (s := { s with queue := queue }) h
      fun hnone => hinit hnone request queue hpop
  | pushWaiting =>
    simp only [step] at hstep
    split at hstep
    · rename_i e kind he hwait
      obtain ⟨queue, -, rfl⟩ := map_eq_some_iff.1 hstep
      exact Service.runnable_some (e := { e with queue := queue }) (h e he) rfl
    · cases hstep
  | initDone =>
    simp only [step] at hstep
    split at hstep
    · cases hstep
    rename_i e he
    have hrun := h e he
    split at hstep
    · cases hstep
    rename_i done hdone
    simp only [Engine.canRun, hdone, Bool.or_eq_true, Bool.and_eq_true, beq_iff_eq] at hrun
    split at hstep
    · -- A failed initialisation is delivered only to an engine that runs already.
      rename_i hresult
      have hstarted : e.threadStarted := by
        rcases hrun with hstarted | ⟨hzero, -⟩
        · exact hstarted
        · exact absurd hzero hresult
      exact Service.runnable_push?
        (Service.runnable_some (e := { e with initDone := none })
          (by simp [Engine.canRun, hstarted]) rfl) hstep
    · cases hstep
      refine Service.runnable_some ?_ rfl
      rcases hrun with hstarted | ⟨-, hcreated⟩
      · simp [Engine.canRun, hstarted]
      · simp [Engine.canRun, hcreated]
  | enrollComplete result info =>
    obtain ⟨e, he, rfl⟩ := map_eq_some_iff.1 hstep
    exact Service.runnable_some
      (e := { e with queue := e.queue.offer (.onEnrollComplete result info) }) (h e he) rfl
  | recognizingTimeout =>
    simp only [step] at hstep
    split at hstep
    · cases hstep
    rename_i e he
    split at hstep
    · exact Service.runnable_push?
        (Service.runnable_some (e := e.message read .recognizingTimeout) (h e he) rfl) hstep
    · cases hstep
  | runEngine detach =>
    simp only [step] at hstep
    split at hstep
    · cases hstep
    rename_i e he
    simp only [ite_none_right_eq_some, bind_eq_some_iff] at hstep
    obtain ⟨-, ⟨task, queue⟩, -, hstep⟩ := hstep
    exact Service.runnable_runEngineTask (e := { e with queue := queue }) (h e he) hstep

lemma step_blocked (h : s.Blocked) (hstep : step read s event = some t) : t.Blocked := by
  obtain ⟨hwaiting, e, he, hcannot⟩ := h
  obtain ⟨hstopped, hpending⟩ := Bool.or_eq_false_iff.1 hcannot
  cases event with
  | request request =>
    obtain ⟨queue, -, rfl⟩ := map_eq_some_iff.1 hstep
    exact ⟨hwaiting, e, he, hcannot⟩
  | serve outcome => simp [step, hwaiting] at hstep
  | pushWaiting =>
    simp only [step, he] at hstep
    split at hstep
    · rename_i e' kind he' hwait
      cases he'
      obtain ⟨queue, -, rfl⟩ := map_eq_some_iff.1 hstep
      exact ⟨rfl, { e with queue := queue }, rfl, hcannot⟩
    · cases hstep
  | initDone =>
    simp only [step, he] at hstep
    split at hstep
    · cases hstep
    rename_i done hdone
    simp only [hdone, Bool.and_eq_false_iff, beq_eq_false_iff_ne] at hpending
    split at hstep
    · obtain ⟨queue, -, rfl⟩ := map_eq_some_iff.1 hstep
      exact ⟨hwaiting, { e with initDone := none }, rfl, by simp [Engine.canRun, hstopped]⟩
    rename_i hzero
    cases hstep
    have hfails : done.threadCreated = false := hpending.resolve_left hzero
    exact ⟨hwaiting, _, rfl, by simp [Engine.canRun, hstopped, hfails]⟩
  | enrollComplete result info =>
    simp only [step, he, map_some, some.injEq] at hstep
    cases hstep
    exact ⟨hwaiting, { e with queue := e.queue.offer (.onEnrollComplete result info) }, rfl,
      hcannot⟩
  | recognizingTimeout =>
    simp only [step, he] at hstep
    split at hstep
    · obtain ⟨queue, -, rfl⟩ := map_eq_some_iff.1 hstep
      exact ⟨hwaiting, e.message read .recognizingTimeout, rfl, hcannot⟩
    · cases hstep
  | runEngine detach => simp [step, he, hstopped] at hstep

end Steps

theorem run_not_blocked (read : String → Parsed) (es : List Event) {s : Service}
    (hinit : Along (step read) (fun s e _ => e.InitSucceeds s) {} es)
    (hrun : run (step read) {} es = some s) : ¬ s.Blocked := by
  have hstep : ∀ s e t, Service.Runnable s → Event.InitSucceeds s e →
      step read s e = some t → t.Runnable := fun _ _ _ => step_runnable
  exact (run_invariant hstep (Service.runnable_none rfl) hinit hrun).not_blocked

theorem run_not_blocked_late_initDone :
    ∃ s : Service, run (step fun _ => .invalid) {}
        [.request (.clearData ""), .serve (.attached (some ⟨0, true⟩))] = some s ∧
      s.waiting = some ⟨.setParam "", true⟩ ∧ ¬ s.Blocked := by
  refine ⟨_, rfl, rfl, run_not_blocked (fun _ => .invalid)
    [.request (.clearData ""), .serve (.attached (some ⟨0, true⟩))] ?_ rfl⟩
  refine .of_step rfl trivial ?_
  exact .of_step rfl (fun _ _ _ _ _ => rfl) trivial

def verifying : String → Parsed := fun _ => .members (fun _ => some verifyStage) fun _ => some 0

theorem failed_initDone_blocks_forever :
    ∃ s : Service, run (step verifying) {}
        [.request (.startEnroll ""), .serve (.attached (some ⟨-1, true⟩)), .initDone,
          .serve .failed] = some s ∧
      s.waiting = some ⟨.detach, true⟩ ∧ s.Blocked ∧
      ∀ es t, run (step verifying) s es = some t → t.Blocked := by
  have hforever : ∀ s e t, Service.Blocked s →
      step verifying s e = some t → t.Blocked := fun _ _ _ => step_blocked
  refine ⟨_, rfl, rfl, ⟨rfl, _, rfl, rfl⟩, fun es t hrun => ?_⟩
  exact run_invariant_all hforever ⟨rfl, _, rfl, rfl⟩ hrun

end IntellVoice.Implicit
