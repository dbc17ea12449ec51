import IntellVoice.Service.Flow

/-! While an update runs, nothing is detected. -/

namespace IntellVoice.Service
open Transition BoundedQueue ServiceManager
variable {s t : ServiceManager} {a : Answers}

def ServiceManager.CanEnd (s : ServiceManager) (strategy : UpdateStrategy) : Prop :=
  (∃ engine, s.update = some engine ∧ engine.param = strategy.param) ∨
    s.timer.itemQueue ≠ [] ∨ Task.updateRetry ∈ s.queue ∨
    ∃ result, Task.updateComplete result strategy.param ∈ s.queue

structure Progressing (current : Option Task) (s : ServiceManager) : Prop
    extends UpdateInvariant s where
  param : ∀ engine strategy, s.update = some engine →
    s.controller.updateStrategy = some strategy → engine.param = strategy.param
  reported : ∀ engine, s.update = some engine → engine.updateResult ≠ .default →
    ∃ result, Task.updateComplete result engine.param ∈ s.queue ∨
      current = some (.updateComplete result engine.param)
  canEnd : ∀ strategy, s.controller.updateStrategy = some strategy → s.CanEnd strategy ∨
    current = some .updateRetry ∨ ∃ result, current = some (.updateComplete result strategy.param)

variable {r : Bool × ServiceManager} {current : Option Task} {task : Task}
  {strategy : UpdateStrategy}

lemma ServiceManager.CanEnd.congr (h : s.CanEnd strategy) (hupdate : t.update = s.update)
    (htimer : t.timer = s.timer) (hqueue : ∀ task ∈ s.queue, task ∈ t.queue) :
    t.CanEnd strategy := by
  rcases h with ⟨engine, hengine, hparam⟩ | harmed | hretry | ⟨result, hcomplete⟩
  · exact .inl ⟨engine, hupdate.trans hengine, hparam⟩
  · exact .inr (.inl (htimer ▸ harmed))
  · exact .inr (.inr (.inl (hqueue _ hretry)))
  · exact .inr (.inr (.inr ⟨result, hqueue _ hcomplete⟩))

lemma Progressing.congr (h : Progressing current s) (hupdate : t.update = s.update)
    (hcontroller : t.controller = s.controller) (htimer : t.timer = s.timer)
    (hqueue : ∀ task ∈ s.queue, task ∈ t.queue) : Progressing current t where
  toUpdateInvariant := h.toUpdateInvariant.congr hupdate hcontroller
  param := by rw [hupdate, hcontroller]; exact h.param
  reported := by
    intro engine hengine hresult
    obtain ⟨result, hin | hcur⟩ := h.reported engine (hupdate ▸ hengine) hresult
    · exact ⟨result, .inl (hqueue _ hin)⟩
    · exact ⟨result, .inr hcur⟩
  canEnd := by
    intro strategy hstrategy
    rcases h.canEnd strategy (hcontroller ▸ hstrategy) with hend | hcur
    · exact .inl (hend.congr hupdate htimer hqueue)
    · exact .inr hcur

lemma Progressing.detection (h : Progressing current s) (hframe : s.DetectionFrame t) :
    Progressing current t :=
  h.congr hframe.update hframe.controller hframe.timer fun _ hin => hframe.queue ▸ hin

lemma ServiceManager.NoUpdate.progressing (h : t.NoUpdate) (current : Option Task) :
    Progressing current t where
  toUpdateInvariant := h.updateInvariant
  param := by simp [h.update]
  reported := by simp [h.update]
  canEnd := by simp [h.updateStrategy]

def Task.isMessage : Task → Bool
  | .updateComplete _ _ => true
  | .updateRetry => true
  | _ => false

lemma Progressing.started (h : Progressing (some task) s) (hmessage : task.isMessage = false) :
    Progressing none s where
  toUpdateInvariant := h.toUpdateInvariant
  param := h.param
  reported := by
    intro engine hengine hresult
    obtain ⟨result, hin | hcur⟩ := h.reported engine hengine hresult
    · exact ⟨result, .inl hin⟩
    · rw [Option.some.inj hcur] at hmessage
      cases hmessage
  canEnd := by
    intro strategy hstrategy
    rcases h.canEnd strategy hstrategy with hend | hcur | ⟨result, hcur⟩
    · exact .inl hend
    · rw [Option.some.inj hcur] at hmessage
      cases hmessage
    · rw [Option.some.inj hcur] at hmessage
      cases hmessage

lemma Progressing.requested (h : Progressing none s) (hr : s.Requested a strategy r)
    (hkeeps : ∀ engine, s.update = some engine → s.controller.curPriority = strategy.priority →
      engine.param = strategy.param) :
    Progressing none r.2 := by
  have hinv := h.toUpdateInvariant.requested hr
  cases hr with
  | refused => exact h
  | failed henroll hanswer hbefore hupdate hcontroller htimer hqueue hframe =>
    exact h.congr (hupdate.trans hbefore.symm) hcontroller htimer hframe.queue
  | dropped hupdating hpriority hanswer hnone hframe => exact hnone.progressing none
  | @begun t engine henroll hupdating hstrategy hforce hupdate hengine hframe =>
    have hparam : engine.param = strategy.param := by
      rcases hengine with ⟨hold, hsame⟩ | ⟨hnew, -⟩
      · exact hkeeps engine hold (hsame (h.engine (by simp [hold])))
      · exact hnew
    refine ⟨hinv, ?_, ?_, ?_⟩
    · intro e st he hst
      cases hupdate.symm.trans he
      cases hstrategy.symm.trans hst
      exact hparam
    · intro e he hresult
      cases hupdate.symm.trans he
      rcases hengine with ⟨hold, -⟩ | ⟨-, hdefault⟩
      · obtain ⟨result, hin | hcur⟩ := h.reported engine hold hresult
        · exact ⟨result, .inl (hframe.queue _ hin)⟩
        · cases hcur
      · exact absurd hdefault hresult
    · intro st hst
      cases hstrategy.symm.trans hst
      exact .inl (.inl ⟨engine, hupdate, hparam⟩)

lemma Progressing.completed {result : UpdateState} {param : String}
    (h : Progressing (some (.updateComplete result param)) s) (hr : s.Completed a result param r) :
    Progressing none r.2 := by
  have hinv := h.toUpdateInvariant.completed hr
  cases hr with
  | ignored hother =>
    -- The strategy of a running update has another parameter than the message.
    have hne : ∀ strategy, s.controller.updateStrategy = some strategy →
        strategy.param ≠ param := by
      intro strategy hstrategy
      rcases hother with hforce | hparam
      · have hupdating : s.controller.isUpdating := by simp [h.strategy, hstrategy]
        simp [h.notForced hupdating] at hforce
      · simpa [hstrategy] using hparam
    refine ⟨h.toUpdateInvariant, h.param, ?_, ?_⟩
    · intro engine (hengine : s.update = some engine) hresult
      have hupdating := h.engine (by simp [hengine])
      obtain ⟨strategy, hstrategy⟩ := Option.isSome_iff_exists.1 (h.strategy ▸ hupdating)
      obtain ⟨res, hin | hcur⟩ := h.reported engine hengine hresult
      · exact ⟨res, .inl hin⟩
      · cases hcur
        exact absurd (h.param engine strategy hengine hstrategy).symm (hne strategy hstrategy)
    · intro strategy hstrategy
      rcases h.canEnd strategy hstrategy with hend | hcur | ⟨res, hcur⟩
      · exact .inl hend
      · cases hcur
      · cases hcur
        exact absurd rfl (hne strategy hstrategy)
  | retry hupdating hstrategy hforce hupdate htimer hlog hframe =>
    exact ⟨hinv, by simp [hupdate], by simp [hupdate], fun _ _ => .inl (.inr (.inl htimer))⟩
  | ended hlast hparam hnone hframe => exact hnone.progressing none

lemma Progressing.retried (h : Progressing (some .updateRetry) s) (hr : s.Retried a r) :
    Progressing none r.2 := by
  have hinv := h.toUpdateInvariant.retried hr
  cases hr with
  | forced hforce =>
    have hnot : s.controller.isUpdating = false := by
      by_contra hupdating
      simp [h.notForced (by simpa using hupdating)] at hforce
    have hstrategy : s.controller.updateStrategy = none := by
      simpa [hnot] using h.strategy.symm
    have hupdate : s.update = none := by
      by_contra hsome
      have := h.engine (Option.isSome_iff_ne_none.2 hsome)
      simp [hnot] at this
    exact ServiceManager.NoUpdate.progressing ⟨hnot, hstrategy, hupdate⟩ none
  | @again t strategy engine henroll hstrategy hcontroller hupdate hengine hframe =>
    have hparam : engine.param = strategy.param := by
      rcases hengine with hold | ⟨hnew, -⟩
      · exact h.param engine strategy hold hstrategy
      · exact hnew
    refine ⟨hinv, ?_, ?_, ?_⟩
    · intro e st he hst
      cases hupdate.symm.trans he
      rw [hcontroller] at hst
      cases hstrategy.symm.trans hst
      exact hparam
    · intro e he hresult
      cases hupdate.symm.trans he
      rcases hengine with hold | ⟨-, hdefault⟩
      · obtain ⟨result, hin | hcur⟩ := h.reported engine hold hresult
        · exact ⟨result, .inl (hframe.queue _ hin)⟩
        · cases hcur
      · exact absurd hdefault hresult
    · intro st hst
      rw [hcontroller] at hst
      cases hstrategy.symm.trans hst
      exact .inl (.inl ⟨engine, hupdate, hparam⟩)
  | abandoned hwhy hnone hframe => exact hnone.progressing none

lemma Progressing.detached (h : Progressing none s) (hroom : s.queue.isFull = false)
    (hupdate : t.update = none) (hcontroller : t.controller = s.controller)
    (htimer : t.timer = s.timer) (hqueue : t.queue = s.releaseUpdateEngine.queue) :
    Progressing none t := by
  have hmono : ∀ task ∈ s.queue, task ∈ t.queue := by
    rw [hqueue]; exact s.releaseUpdateEngine_frame.queue
  refine ⟨h.toUpdateInvariant.detached hupdate hcontroller, by simp [hupdate], by simp [hupdate],
    ?_⟩
  · intro strategy hstrategy
    left
    rcases h.canEnd strategy (hcontroller ▸ hstrategy) with hend | hcur | ⟨_, ⟨⟩⟩
    swap
    · cases hcur
    rcases hend with ⟨engine, hengine, hparam⟩ | harmed | hretry | ⟨result, hcomplete⟩
    · refine .inr (.inr (.inr ?_))
      by_cases hresult : engine.updateResult = .default
      · refine ⟨.default, ?_⟩
        rw [hqueue, ← hparam]
        exact s.releaseUpdateEngine_reports hroom hengine hresult
      · obtain ⟨result, hin | hcur⟩ := h.reported engine hengine hresult
        · exact ⟨result, hmono _ (hparam ▸ hin)⟩
        · cases hcur
    · exact .inr (.inl (htimer ▸ harmed))
    · exact .inr (.inr (.inl (hmono _ hretry)))
    · exact .inr (.inr (.inr ⟨result, hmono _ hcomplete⟩))

def Task.detaches (task : Task) : Prop := task = .createEnrollEngine ∨ task = .releaseEngine .update

/-- A request of the running priority asks for the engine that is there. -/
def Event.KeepsParam (s : ServiceManager) : Event → Prop
  | .execute _ _ => ∀ task ∈ s.queue.items.head?, ∀ strategy ∈ task.strategies,
      ∀ engine, s.update = some engine → s.controller.curPriority = strategy.priority →
        engine.param = strategy.param
  | _ => True

def Event.HasRoom (s : ServiceManager) : Event → Prop
  | .execute _ arrivals => ∀ task ∈ s.queue.items.head?, task.detaches →
      s.queue.items.length + arrivals.length ≤ maxTaskNum
  | .updateCommitComplete _ => s.queue.isFull = false
  | .onTimerEvent => s.queue.isFull = false
  | _ => True

lemma Progressing.asked (h : Progressing none s)
    (hkeeps : ∀ strategy ∈ task.strategies, ∀ engine, s.update = some engine →
      s.controller.curPriority = strategy.priority → engine.param = strategy.param)
    (hr : s.Asked a task t) : Progressing none t := by
  cases hr with
  | cloned hframe => exact h.detection hframe
  | requested hin hr => exact h.requested hr (hkeeps _ hin)
  | followed hfirst hr =>
    -- The request that came to nothing leaves the old engine, or none.
    refine (h.requested hfirst (hkeeps _ (by simp [Task.strategies]))).requested hr ?_
    cases hfirst with
    | refused => exact hkeeps _ (by simp [Task.strategies])
    | failed _ _ _ hupdate => simp [hupdate]
    | dropped _ _ _ hnone => simp [hnone.update]

lemma Progressing.runTask (h : Progressing (some task) s)
    (hkeeps : ∀ strategy ∈ task.strategies, ∀ engine, s.update = some engine →
      s.controller.curPriority = strategy.priority → engine.param = strategy.param)
    (hroom : task.detaches → s.queue.isFull = false) (hrun : s.runTask a task = some t) :
    Progressing none t := by
  cases task with
  | switchOn model needUpdateAdapter =>
    cases hrun
    exact (h.started rfl).detection (s.switchOnProc_frame a model needUpdateAdapter)
  | switchOff model fromSwitch =>
    have hoff := (h.started rfl).detection (s.switchOffProc_frame model)
    cases fromSwitch <;> cases hrun
    · exact hoff
    · exact hoff.congr rfl rfl rfl fun _ hin => hin
  | unloadIntellVoiceService =>
    cases hrun
    exact (h.started rfl).detection s.unloadIntellVoiceService_frame
  | onIdle =>
    cases hrun
    exact (h.started rfl).congr rfl rfl rfl fun _ hin => hin
  | createEnrollEngine =>
    cases hrun
    obtain ⟨-, hupdate, hcontroller, htimer, -, -, -, hqueue⟩ := createEngine_enroll
      ((s.emit (.stopDetection .voice)).emit (.stopDetection .proximal)) a
    have hbefore : Progressing none
        ((s.emit (.stopDetection .voice)).emit (.stopDetection .proximal)) :=
      (h.started rfl).congr rfl rfl rfl fun _ hin => hin
    exact hbefore.detached (hroom (.inl rfl)) hupdate hcontroller htimer hqueue
  | releaseEngine type =>
    have hbefore := h.started rfl
    by_cases htype : type = .update
    · subst htype
      rw [show s.runTask a (.releaseEngine .update) = _ from s.releaseEngine_update a] at hrun
      cases hrun
      exact hbefore.detached (hroom (.inr rfl)) s.releaseUpdateEngine_update
        s.releaseUpdateEngine_controller s.releaseUpdateEngine_timer rfl
    obtain ⟨hupdate, hcontroller, htimer, others, hqueue, -⟩ :=
      releaseEngine_other htype hrun
    refine hbefore.congr hupdate hcontroller htimer fun task hin => ?_
    rw [mem_def, hqueue]
    exact List.mem_append_left _ hin
  | silenceUpdate | whisperVprUpdate | cloneUpdate _ | createUpdateEngineUntilTime _ _ =>
    exact (h.started rfl).asked hkeeps
      (ServiceManager.runTask_asked (by simp [Task.strategies]) hrun)
  | updateComplete result param =>
    obtain ⟨u, ended, hcompleted, hend⟩ := runTask_updateComplete hrun
    have hdone := h.completed hcompleted
    rcases hend with ⟨rfl, -, -, rfl⟩ | ⟨-, -, -, rfl⟩ | ⟨-, rfl⟩
    · -- The whisper update follows the end of an update, so no engine is left.
      refine hdone.requested (u.createUpdateEngineUntilTime_requested a whisperUpdateStrategy
        true) ?_
      cases hcompleted with
      | ended _ _ hnone => simp [hnone.update]
    · exact hdone.detection (u.restoreDetection_frame a)
    · exact hdone
  | updateRetry =>
    obtain ⟨u, again, hretried, hend⟩ := runTask_updateRetry hrun
    have hdone := h.retried hretried
    rcases hend with ⟨-, -, rfl⟩ | ⟨-, rfl⟩
    · exact hdone.detection (u.restoreDetection_frame a)
    · exact hdone
  | clearUserData =>
    cases hrun
    refine Progressing.detection ?_ (unloadIntellVoiceService_frame _)
    rcases s.forceRelease_cases with ⟨-, heq⟩ | ⟨-, hnone, -⟩
    · rw [heq]
      exact h.started rfl
    · exact hnone.progressing none

lemma Progressing.take {rest arrivals : List Task} {queue : BoundedQueue Task maxTaskNum}
    {versionDeleted : Bool} (h : Progressing none s) (hitems : s.queue.items = task :: rest)
    (hqueue : queue.items = rest ++ arrivals) :
    Progressing (some task) { s with queue, versionDeleted } := by
  have hmove : ∀ x, x ∈ s.queue → x ∈ queue ∨ some task = some x := by
    intro x hx
    rw [mem_def, hitems, List.mem_cons] at hx
    rcases hx with rfl | hx
    · exact .inr rfl
    left
    rw [mem_def, hqueue]
    exact List.mem_append_left _ hx
  refine ⟨⟨h.strategy, h.notForced, h.engine⟩, h.param, ?_, ?_⟩
  · intro engine hengine hresult
    obtain ⟨result, hin | hcur⟩ := h.reported engine hengine hresult
    · exact ⟨result, hmove _ hin⟩
    · cases hcur
  · intro strategy hstrategy
    rcases h.canEnd strategy hstrategy with hend | hcur | ⟨_, ⟨⟩⟩
    swap
    · cases hcur
    rcases hend with hengine | harmed | hretry | ⟨result, hcomplete⟩
    · exact .inl (.inl hengine)
    · exact .inl (.inr (.inl harmed))
    · rcases hmove _ hretry with hin | hcur
      · exact .inl (.inr (.inr (.inl hin)))
      · exact .inr (.inl hcur)
    · rcases hmove _ hcomplete with hin | hcur
      · exact .inl (.inr (.inr (.inr ⟨result, hin⟩)))
      · exact .inr (.inr ⟨result, hcur⟩)

lemma step_progressing {e : Event} (h : Progressing none s) (hkeeps : e.KeepsParam s)
    (hroom : e.HasRoom s) (hstep : step s e = some t) : Progressing none t := by
  cases e with
  | request task =>
    obtain ⟨queue, hpush, rfl⟩ := push?_spec
      (request?_spec hstep).2
    exact h.congr rfl rfl rfl fun _ hin => mem_of_push? hpush hin
  | setSwitch model status | onServiceActive =>
    cases hstep
    exact h.congr rfl rfl rfl fun _ hin => hin
  | observer pending =>
    obtain ⟨queue, hpush, rfl⟩ := step_observer hstep
    exact h.congr rfl rfl rfl fun _ hin => mem_of_push? hpush hin
  | execute answers arrivals =>
    obtain ⟨task, rest, queue, versionDeleted, hitems, hqueue, hrun⟩ := step_execute hstep
    have hhead : task ∈ s.queue.items.head? := by simp [hitems]
    refine (h.take hitems hqueue).runTask (hkeeps task hhead) (fun hdetaches => ?_) hrun
    have hlength := hroom task hhead hdetaches
    simp only [hitems, List.length_cons] at hlength
    simp only [isFull, hqueue, List.length_append, decide_eq_false_iff_not]
    omega
  | commitEnrollComplete type success =>
    simp only [step] at hstep
    split at hstep
    · cases hstep
      exact h.congr rfl rfl rfl fun _ hin => hin
    · cases hstep
  | updateCommitComplete success =>
    obtain ⟨engine, hengine, rfl⟩ := Option.map_eq_some_iff.1 hstep
    have hupdating := h.engine (by simp [hengine])
    refine ⟨⟨h.strategy, h.notForced, fun _ => hupdating⟩, ?_, ?_, ?_⟩
    · intro e st he hst
      cases he
      exact h.param engine st hengine hst
    · intro e he _
      cases he
      exact ⟨_, .inl (mem_offer_self hroom _)⟩
    · intro st hst
      exact .inl (.inl ⟨_, rfl, h.param engine st hengine hst⟩)
  | onTimerEvent =>
    simp only [step] at hstep
    split at hstep
    · cases hstep
    cases hstep
    refine ⟨⟨h.strategy, h.notForced, h.engine⟩, h.param, ?_, ?_⟩
    · intro engine hengine hresult
      obtain ⟨result, hin | hcur⟩ := h.reported engine hengine hresult
      · exact ⟨result, .inl (BoundedQueue.mem_offer_of_mem hin)⟩
      · cases hcur
    · exact fun _ _ => .inl (.inr (.inr (.inl (mem_offer_self hroom _))))

theorem run_update_canEnd (switchStatus : WakeupModel → Bool) (es : List Event)
    {s : ServiceManager}
    (hcond : Along step (fun s e _ => e.KeepsParam s ∧ e.HasRoom s) (.initial switchStatus) es)
    (hrun : run step (.initial switchStatus) es = some s)
    (hupdating : s.controller.isUpdating) :
    ∃ strategy, s.controller.updateStrategy = some strategy ∧ s.CanEnd strategy := by
  have hinitial : Progressing none (.initial switchStatus) :=
    ServiceManager.NoUpdate.progressing ⟨rfl, rfl, rfl⟩ none
  have h := run_invariant (fun s e t hs hR hstep => step_progressing hs hR.1 hR.2 hstep)
    hinitial hcond hrun
  obtain ⟨strategy, hstrategy⟩ := Option.isSome_iff_exists.1 (h.strategy ▸ hupdating)
  rcases h.canEnd strategy hstrategy with hend | hcur | ⟨_, ⟨⟩⟩
  · exact ⟨strategy, hstrategy, hend⟩
  · cases hcur

theorem run_update_canEnd_failed_attempt :
    ∃ s : ServiceManager, run step (.initial fun _ => true)
        [.request .silenceUpdate, .execute {} [], .updateCommitComplete false,
          .execute {} []] = some s ∧
      s.controller.isUpdating ∧ s.update = none ∧
      ∃ strategy, s.controller.updateStrategy = some strategy ∧ s.CanEnd strategy := by
  refine ⟨_, rfl, rfl, rfl, run_update_canEnd (fun _ => true) [.request .silenceUpdate,
    .execute {} [], .updateCommitComplete false, .execute {} []] ?_ rfl rfl⟩
  refine .of_step rfl ⟨trivial, trivial⟩ ?_
  refine .of_step rfl ⟨fun _ _ _ _ _ hengine => ?_, fun _ hin hdetaches => ?_⟩ ?_
  · cases hengine
  · cases hin
    rcases hdetaches with h | h <;> cases h
  refine .of_step rfl ⟨trivial, rfl⟩ ?_
  refine .of_step rfl ⟨fun _ hin _ hstrategy => ?_, fun _ hin hdetaches => ?_⟩ trivial
  · cases hin
    cases hstrategy
  · cases hin
    rcases hdetaches with h | h <;> cases h

theorem clone_update_cannot_end :
    ∃ (s : ServiceManager) (strategy : UpdateStrategy), run step (.initial fun _ => true)
        [.request (.cloneUpdate "a"), .execute {} [], .request (.cloneUpdate "b"),
          .execute {} [], .updateCommitComplete true, .execute {} []] = some s ∧
      s.controller.isUpdating ∧ s.controller.updateStrategy = some strategy ∧
      ¬ s.CanEnd strategy := by
  refine ⟨_, _, rfl, rfl, rfl, ?_⟩
  rintro (⟨engine, hengine, hparam⟩ | harmed | hretry | ⟨result, hcomplete⟩)
  · cases hengine
    exact absurd hparam (by decide)
  · exact harmed rfl
  · cases hretry
  · cases hcomplete

end IntellVoice.Service
