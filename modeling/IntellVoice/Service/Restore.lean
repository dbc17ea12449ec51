import IntellVoice.Service.Detectors

/-! Detection is given up before an enroll or update engine exists. -/

namespace IntellVoice.Service
open Transition BoundedQueue ServiceManager List
variable {s t : ServiceManager} {a : Answers} {model : WakeupModel}

def Effect.tearsDown (model : WakeupModel) : Effect → Bool
  | .stopDetection m => m == model
  | .releaseAdapter => true
  | _ => false

lemma foldl_tornBy_true {effects : List Effect}
    (h : effects.foldl (tornBy model) true = false) :
    Effect.createAndStartServiceObject model ∈ effects := by
  induction effects with
  | nil => cases h
  | cons e rest ih =>
    rw [foldl_cons] at h
    by_cases he : e = .createAndStartServiceObject model
    · exact he ▸ mem_cons_self
    have htorn : tornBy model true e := by
      cases e with
      | createAndStartServiceObject m =>
        have hm : m ≠ model := fun hm => he (hm ▸ rfl)
        simp [tornBy, hm]
      | _ => simp [tornBy]
    rw [htorn] at h
    exact mem_cons_of_mem _ (ih h)

lemma ServiceManager.carried_out_of_not_torn (h : s.torn model = false)
    {before after : List Effect} {e : Effect} (hlog : s.log = before ++ e :: after)
    (htears : e.tearsDown model) : Effect.createAndStartServiceObject model ∈ after := by
  have htorn : tornBy model (before.foldl (tornBy model) false) e =
      true := by
    cases e with
    | stopDetection m =>
      have hm : m = model := by simpa [Effect.tearsDown] using htears
      simp [tornBy, hm]
    | releaseAdapter => rfl
    | _ => cases htears
  rw [torn, hlog, foldl_append, foldl_cons, htorn] at h
  exact foldl_tornBy_true h

def Task.restores (model : WakeupModel) : Task → Bool
  | .switchOn m _ => m == model
  | .whisperVprUpdate => true
  | _ => false

def ServiceManager.OnPending (s : ServiceManager) (model : WakeupModel) : Prop :=
  (∃ task ∈ s.queue, task.restores model) ∨ Pending.onSwitchChange model ∈ s.pending

def Restored (current : Option Task) (model : WakeupModel) (s : ServiceManager) : Prop :=
  s.switchStatus model → s.torn model →
    (s.enroll || s.controller.isUpdating) ∨ s.OnPending model ∨
      ∃ task, current = some task ∧ task.restores model

lemma ServiceManager.OnPending.congr (h : s.OnPending model)
    (hqueue : ∀ task ∈ s.queue, task ∈ t.queue) (hpending : t.pending = s.pending) :
    t.OnPending model := by
  rcases h with ⟨task, hin, hrestores⟩ | hin
  · exact .inl ⟨task, hqueue _ hin, hrestores⟩
  · exact .inr (hpending ▸ hin)

variable {r : Bool × ServiceManager} {queue : BoundedQueue Task maxTaskNum} {task : Task}

lemma Restored.started (h : Restored (some task) model s) (htask : task.restores model = false) :
    Restored none model s := by
  intro hon htorn
  rcases h hon htorn with hflight | hpending | ⟨_, hcur, hrestores⟩
  · exact .inl hflight
  · exact .inr (.inl hpending)
  · cases hcur
    cases htask.symm.trans hrestores

lemma Restored.of_inFlight (hflight : (t.enroll || t.controller.isUpdating))
    (current : Option Task) : Restored current model t := fun _ _ => .inl hflight

lemma Restored.next (h : Restored none model s) (hswitch : t.switchStatus = s.switchStatus)
    (hqueue : ∀ task ∈ s.queue, task ∈ t.queue) (hpending : t.pending = s.pending)
    (henroll : t.enroll = s.enroll) (hupdating : t.controller.isUpdating = s.controller.isUpdating)
    (htorn : t.torn model → s.torn model) : Restored none model t := by
  intro hon hdown
  rw [hswitch] at hon
  rw [henroll, hupdating]
  rcases h hon (htorn hdown) with hflight | hway | ⟨_, ⟨⟩, _⟩
  · exact .inl hflight
  · exact .inr (.inl (hway.congr hqueue hpending))

lemma Restored.detection (h : Restored none model s) (hframe : s.DetectionFrame t) :
    Restored none model t :=
  h.next hframe.switchStatus (fun _ hin => hframe.queue ▸ hin) hframe.pending hframe.enroll
    (by rw [hframe.controller]) (hframe.torn model)

lemma ServiceManager.UpdateFrame.down_before (hframe : s.UpdateFrame t)
    (h : t.torn model ∨ t.wakeup) : s.torn model ∨ s.wakeup := by
  rcases h with htorn | hwakeup
  · exact hframe.torn model htorn
  · exact .inr (hframe.wakeup ▸ hwakeup)

lemma Restored.of_pending (hframe : s.UpdateFrame t)
    (hway : s.switchStatus model → s.torn model ∨ s.wakeup →
      s.OnPending model) : Restored none model t := by
  intro hon hdown
  rw [hframe.switchStatus] at hon
  exact .inr (.inl ((hway hon (hframe.torn model hdown)).congr hframe.queue hframe.pending))

lemma switchOnProc_restored (hinv : UpdateInvariant s) (needUpdateAdapter : Bool)
    (current : Option Task) :
    Restored current model (s.switchOnProc a model needUpdateAdapter) := by
  intro hon hdown
  have hframe := s.switchOnProc_frame a model needUpdateAdapter
  rw [hframe.switchStatus] at hon
  rw [hframe.enroll, hframe.controller, ← hinv.exist_eq]
  unfold switchOnProc at hdown
  split at hdown
  · rename_i hexist
    exact .inl hexist
  rw [if_neg (by simp [hon])] at hdown
  have hcarried := (s.createAndStartServiceObject_carried a model needUpdateAdapter).torn model
    hdown
  rw [torn_emit] at hcarried
  simp [tornBy] at hcarried

lemma restoreDetection_restored (hinv : UpdateInvariant s) :
    Restored none model (s.restoreDetection a) := by
  have hvoice := s.switchOnProc_frame a .voice true
  refine Restored.detection ?_ (unloadIntellVoiceService_frame _)
  cases model with
  | voice =>
    have hon : Restored none .voice (s.switchOnProc a .voice true) :=
      switchOnProc_restored hinv true none
    exact hon.detection (switchOnProc_frame _ a .proximal true)
  | proximal => exact switchOnProc_restored (hinv.detection hvoice) true none

def Task.LeavesDown (a : Answers) (s : ServiceManager) : Task → Prop
  | .createEnrollEngine =>
    s.enroll = false ∧ s.controller.isUpdating = false ∧ a.enrollCreated = false
  | .updateComplete result param =>
    s.enroll = false ∧ s.controller.isUpdating ∧
      s.controller.updateStrategy.map UpdateStrategy.param = some param ∧
      s.retries a result = false ∧ a.updateCreated whisperVprUpdateParam = false ∧
      a.whisperVprConfig ∧ param ≠ whisperVprUpdateParam
  | .clearUserData => s.enroll = false ∧ s.controller.isUpdating
  | task =>
    s.enroll = false ∧ ∃ strategy ∈ task.strategies,
      (s.controller.isUpdating → s.controller.curPriority < strategy.priority) ∧
        a.updateCreated strategy.param = false

def ServiceManager.ReadyForDown (s : ServiceManager) (model : WakeupModel) (task : Task) : Prop :=
  s.switchStatus model →
    s.torn model ∨ s.wakeup ∨ task = .createEnrollEngine → s.OnPending model

lemma restored_of_requested {strategy : UpdateStrategy} (hr : s.Requested a strategy r)
    (hrefused : strategy.updateRestrain a ∨ s.enroll ∨ s.controller.isUpdating →
      Restored none model s)
    (hdown : s.enroll = false →
      (s.controller.isUpdating → s.controller.curPriority < strategy.priority) →
    a.updateCreated strategy.param = false → s.switchStatus model → s.torn model ∨ s.wakeup →
    s.OnPending model) :
    Restored none model r.2 := by
  cases hr with
  | refused hwhy => exact hrefused hwhy
  | failed henroll hanswer hbefore hupdate hcontroller htimer hqueue hframe =>
    cases hupdating : s.controller.isUpdating with
    | true =>
      refine .of_inFlight ?_ none
      rw [hcontroller, hupdating, Bool.or_true]
    | false => exact .of_pending hframe (hdown henroll (by simp [hupdating]) hanswer)
  | dropped hupdating hpriority hanswer hnone hframe =>
    rcases hanswer with henroll | hfailed
    · refine .of_inFlight ?_ none
      rw [hframe.enroll, henroll, Bool.true_or]
    cases henroll : s.enroll with
    | true =>
      refine .of_inFlight ?_ none
      rw [hframe.enroll, henroll, Bool.true_or]
    | false => exact .of_pending hframe (hdown henroll (fun _ => hpriority) hfailed)
  | begun henroll hupdating =>
    refine .of_inFlight ?_ none
    rw [hupdating, Bool.or_true]

lemma restored_of_whisper (hr : s.Requested a whisperUpdateStrategy r)
    (hdown : s.enroll = false →
      (s.controller.isUpdating → s.controller.curPriority < whisperUpdateStrategy.priority) →
    a.updateCreated whisperVprUpdateParam = false → s.switchStatus model → s.torn model ∨ s.wakeup →
    s.OnPending model) :
    Restored none model r.2 := by
  refine restored_of_requested hr (fun hwhy => .of_inFlight ?_ none) hdown
  rcases hwhy with hrestrain | henroll | hupdating
  · cases hrestrain
  · rw [henroll, Bool.true_or]
  · rw [hupdating, Bool.or_true]

lemma Restored.asked (h : Restored (some task) model s) (hr : s.Asked a task t)
    (hdown : ∀ strategy ∈ task.strategies, s.enroll = false →
      (s.controller.isUpdating → s.controller.curPriority < strategy.priority) →
    a.updateCreated strategy.param = false → s.switchStatus model → s.torn model ∨ s.wakeup →
    s.OnPending model) :
    Restored none model t := by
  cases hr with
  | cloned hframe => exact (h.started rfl).detection hframe
  | requested hin hr =>
    cases task with
    | switchOn => cases hin
    | whisperVprUpdate =>
      obtain rfl := mem_singleton.1 hin
      exact restored_of_whisper hr (hdown _ hin)
    | _ => exact restored_of_requested hr (fun _ => h.started rfl) (hdown _ hin)
  | followed hfirst hr =>
    have hsilence := hdown silenceUpdateStrategy (by simp [Task.strategies])
    have hwhisper := hdown whisperUpdateStrategy (by simp [Task.strategies])
    refine restored_of_whisper hr ?_
    -- What the first request took down is still missing when the second one fails too.
    cases hfirst with
    | refused => exact hwhisper
    | failed _ _ _ _ hcontroller _ _ hframe =>
      intro henroll hpriority hanswer hon htorn
      rw [hcontroller] at hpriority
      exact (hwhisper (hframe.enroll ▸ henroll) hpriority hanswer (hframe.switchStatus ▸ hon)
        (hframe.down_before htorn)).congr hframe.queue hframe.pending
    | dropped hupdating hpriority hanswer hnone hframe =>
      intro henroll _ _ hon htorn
      have henroll' : s.enroll = false := hframe.enroll ▸ henroll
      rcases hanswer with hother | hfailed
      · cases henroll'.symm.trans hother
      · exact (hsilence henroll' (fun _ => hpriority) hfailed (hframe.switchStatus ▸ hon)
          (hframe.down_before htorn)).congr hframe.queue hframe.pending

lemma restored_of_releaseEngine {type : EngineType}
    (htype : type = .enroll ∨ type = .implicitEnroll) (hinv : UpdateInvariant s)
    (hrun : s.releaseEngine a type = some t) : Restored none model t := by
  have hinv' : UpdateInvariant (s.detachEngine type) := by
    rcases htype with rfl | rfl <;> exact hinv.congr rfl rfl
  have hvoice := (s.detachEngine type).switchOnProc_frame a .voice true
  rcases releaseEngine_cases htype hrun with ⟨-, -, hpush⟩ | ⟨-, -, rfl⟩ | ⟨-, rfl⟩
  · obtain ⟨queue, hpushed, rfl⟩ := push?_spec hpush
    exact fun _ _ => .inr (.inl (.inl ⟨_, mem_push?_self hpushed, rfl⟩))
  · refine Restored.detection ?_ (switchOffProc_frame _ .proximal)
    cases model with
    | voice =>
      have hon : Restored none .voice ((s.detachEngine type).switchOnProc a .voice true) :=
        switchOnProc_restored hinv' true none
      exact hon.detection (switchOnProc_frame _ a .proximal true)
    | proximal => exact switchOnProc_restored (hinv'.detection hvoice) true none
  · have hoff := hvoice.trans (switchOffProc_frame _ .voice)
    refine Restored.detection ?_ ((switchOffProc_frame _ .proximal).trans
      (unloadIntellVoiceService_frame _))
    cases model with
    | voice =>
      have hon : Restored none .voice ((s.detachEngine type).switchOnProc a .voice true) :=
        switchOnProc_restored hinv' true none
      exact (hon.detection (switchOffProc_frame _ .voice)).detection
        (switchOnProc_frame _ a .proximal true)
    | proximal => exact switchOnProc_restored (hinv'.detection hoff) true none

lemma Restored.runTask (hinv : UpdateInvariant s) (h : Restored (some task) model s)
    (hready : task.LeavesDown a s → s.ReadyForDown model task) (hrun : s.runTask a task = some t) :
    Restored none model t := by
  cases task with
  | switchOn m needUpdateAdapter =>
    cases hrun
    by_cases hm : m = model
    · subst hm
      exact switchOnProc_restored hinv needUpdateAdapter none
    · exact (h.started (by simpa [Task.restores] using hm)).detection
        (s.switchOnProc_frame a m needUpdateAdapter)
  | switchOff m fromSwitch =>
    have hoff := (h.started rfl).detection (s.switchOffProc_frame m)
    cases fromSwitch <;> cases hrun
    · exact hoff
    intro hon htorn
    rcases hoff hon htorn with hflight | (hqueued | hpending) | hcur
    · exact .inl hflight
    · exact .inr (.inl (.inl hqueued))
    · exact .inr (.inl (.inr (mem_append_left _ hpending)))
    · exact .inr (.inr hcur)
  | unloadIntellVoiceService =>
    cases hrun
    exact (h.started rfl).detection s.unloadIntellVoiceService_frame
  | onIdle =>
    cases hrun
    exact (h.started rfl).next rfl (fun _ hin => hin) rfl rfl rfl fun htorn => htorn
  | createEnrollEngine =>
    cases hrun
    obtain ⟨henroll, -, hcontroller, -, hswitch, -, hpending, hqueue⟩ :=
      createEngine_enroll
        ((s.emit (.stopDetection .voice)).emit (.stopDetection .proximal)) a
    intro hon _
    rw [henroll, hcontroller]
    cases hflight : ((s.enroll || a.enrollCreated) || s.controller.isUpdating) with
    | true => exact .inl hflight
    | false =>
      -- The factory failed with nothing in flight.
      simp only [Bool.or_eq_false_iff] at hflight
      have hway := hready ⟨hflight.1.1, hflight.2, hflight.1.2⟩ (hswitch ▸ hon) (.inr (.inr rfl))
      refine .inr (.inl (hway.congr (fun task hin => ?_) hpending))
      rw [hqueue]
      exact (releaseUpdateEngine_frame _).queue task hin
  | releaseEngine type =>
    cases type with
    | enroll => exact restored_of_releaseEngine (.inl rfl) hinv hrun
    | implicitEnroll => exact restored_of_releaseEngine (.inr rfl) hinv hrun
    | update =>
      rw [show s.runTask a (.releaseEngine .update) = _ from s.releaseEngine_update a] at hrun
      cases hrun
      have hframe := s.releaseUpdateEngine_frame
      refine (h.started rfl).next hframe.switchStatus hframe.queue hframe.pending hframe.enroll
        (by rw [s.releaseUpdateEngine_controller]) fun htorn => ?_
      simpa [torn, s.releaseUpdateEngine_log] using htorn
    | wakeup =>
      cases hrun
      exact (h.started rfl).next rfl (fun _ hin => hin) rfl rfl rfl fun htorn => htorn
  | silenceUpdate | whisperVprUpdate | cloneUpdate _ | createUpdateEngineUntilTime _ _ =>
    exact h.asked (runTask_asked (by simp [Task.strategies]) hrun)
      fun strategy hin henroll hpriority hanswer hon htorn =>
        hready ⟨henroll, strategy, hin, hpriority, hanswer⟩ hon (htorn.imp_right .inl)
  | updateComplete result param =>
    have hbefore := h.started rfl
    obtain ⟨u, ended, hcompleted, hend⟩ := runTask_updateComplete hrun
    have hinv' := hinv.completed hcompleted
    cases hcompleted with
    | ignored hother =>
      rcases hend with ⟨⟨⟩, -⟩ | ⟨⟨⟩, -⟩ | ⟨-, rfl⟩
      exact hbefore
    | retry hupdating hstrategy hforce hupdate htimer hlog hframe =>
      rcases hend with ⟨⟨⟩, -⟩ | ⟨⟨⟩, -⟩ | ⟨-, rfl⟩
      refine hbefore.next hframe.switchStatus hframe.queue hframe.pending hframe.enroll hupdating
        fun htorn => ?_
      simpa [torn, hlog] using htorn
    | ended hlast hparam hnone hframe =>
      rcases hend with ⟨-, henroll, hconfig, rfl⟩ | ⟨-, -, -, rfl⟩ | ⟨hwhy, rfl⟩
      · -- The whisper update that follows is the one to bring detection back.
        refine restored_of_whisper
          (u.createUpdateEngineUntilTime_requested a whisperUpdateStrategy true)
          fun _ _ hanswer hon htorn => ?_
        have hupdating := hinv.updating_of_param hparam
        exact (hready ⟨hframe.enroll ▸ henroll, hupdating, hparam, hlast, hanswer, hconfig⟩
          (hframe.switchStatus ▸ hon) ((hframe.down_before htorn).imp_right .inl)).congr
          hframe.queue hframe.pending
      · exact restoreDetection_restored hinv'
      · have henroll := hwhy.resolve_left (by simp)
        refine .of_inFlight ?_ none
        rw [henroll, Bool.true_or]
  | updateRetry =>
    have hbefore := h.started rfl
    obtain ⟨u, again, hretried, hend⟩ := runTask_updateRetry hrun
    have hinv' := hinv.retried hretried
    rcases hend with ⟨rfl, -, rfl⟩ | ⟨hwhy, rfl⟩
    · exact restoreDetection_restored hinv'
    cases hretried with
    | forced hforce => exact hbefore
    | again henroll hstrategy hcontroller hupdate hengine hframe =>
      refine .of_inFlight ?_ none
      rw [hcontroller]
      simp [hinv.strategy, hstrategy]
    | abandoned _ hnone hframe =>
      have henroll := hwhy.resolve_left (by simp)
      refine .of_inFlight ?_ none
      rw [henroll, Bool.true_or]
  | clearUserData =>
    cases hrun
    refine Restored.detection ?_ (unloadIntellVoiceService_frame _)
    rcases s.forceRelease_cases with ⟨-, heq⟩ | ⟨hupdating, hnone, hframe⟩
    · rw [heq]
      exact h.started rfl
    cases henroll : s.enroll with
    | true =>
      refine .of_inFlight ?_ none
      rw [hframe.enroll, henroll, Bool.true_or]
    | false =>
      exact .of_pending hframe fun hon htorn =>
        hready ⟨henroll, hupdating⟩ hon (htorn.imp_right .inl)

def ServiceManager.OnPendingBehind (s : ServiceManager) (model : WakeupModel) : Prop :=
  (∃ task ∈ s.queue.items.tail, task.restores model) ∨
    Pending.onSwitchChange model ∈ s.pending

/-- A task that leaves `model` torn down has the one that restores it behind it. -/
def Event.KeepsDetection (model : WakeupModel) (s : ServiceManager) : Event → Prop
  | .execute a _ => ∀ task ∈ s.queue.items.head?, task.LeavesDown a s →
      s.switchStatus model →
      s.torn model ∨ s.wakeup ∨ task = .createEnrollEngine → s.OnPendingBehind model
  | _ => True

lemma Task.LeavesDown.of_queue {versionDeleted : Bool}
    (h : task.LeavesDown a { s with queue, versionDeleted }) : task.LeavesDown a s := by
  cases task with
  | updateComplete result param =>
    obtain ⟨henroll, hupdating, hparam, hlast, hrest⟩ := h
    rw [s.retries_queue] at hlast
    exact ⟨henroll, hupdating, hparam, hlast, hrest⟩
  | _ => exact h

lemma Restored.take {rest arrivals : List Task} {versionDeleted : Bool} (h : Restored none model s)
    (hitems : s.queue.items = task :: rest) (hqueue : queue.items = rest ++ arrivals) :
    Restored (some task) model { s with queue, versionDeleted } := by
  intro hon htorn
  rcases h hon htorn with hflight | (⟨other, hin, hrestores⟩ | hpending) | ⟨_, hcur, _⟩
  · exact .inl hflight
  · rw [mem_def, hitems, mem_cons] at hin
    rcases hin with rfl | hin
    · exact .inr (.inr ⟨other, rfl, hrestores⟩)
    refine .inr (.inl (.inl ⟨other, ?_, hrestores⟩))
    rw [mem_def, hqueue]
    exact mem_append_left _ hin
  · exact .inr (.inl (.inr hpending))
  · cases hcur

lemma step_restored {e : Event} (hinv : UpdateInvariant s) (h : Restored none model s)
    (hkeeps : e.KeepsDetection model s) (hstep : step s e = some t) : Restored none model t := by
  cases e with
  | setSwitch m status =>
    cases hstep
    intro hon htorn
    by_cases hm : model = m
    · subst hm
      exact .inr (.inl (.inr (by simp)))
    rcases h (by simpa [hm] using hon) htorn with hflight | (hqueued | hpending) | ⟨_, hcur, _⟩
    · exact .inl hflight
    · exact .inr (.inl (.inl hqueued))
    · exact .inr (.inl (.inr (mem_append_left _ hpending)))
    · cases hcur
  | observer pending =>
    obtain ⟨queue, hpush, rfl⟩ := step_observer hstep
    intro hon htorn
    by_cases hmodel : pending = .onSwitchChange model
    · subst hmodel
      have hon' : s.switchStatus model := hon
      have htask : s.switchTask model = .switchOn model false := by simp [switchTask, hon']
      rw [pendingTask, htask] at hpush
      exact .inr (.inl (.inl ⟨_, mem_push?_self hpush, by simp [Task.restores]⟩))
    rcases h hon htorn with hflight | (⟨other, hin, hrestores⟩ | hin) | ⟨_, hcur, _⟩
    · exact .inl hflight
    · exact .inr (.inl (.inl ⟨other, BoundedQueue.mem_of_push? hpush hin, hrestores⟩))
    · exact .inr (.inl (.inr ((mem_erase_of_ne (Ne.symm hmodel)).2 hin)))
    · cases hcur
  | execute answers arrivals =>
    obtain ⟨task, rest, queue, versionDeleted, hitems, hqueue, hrun⟩ := step_execute hstep
    have hinv' : UpdateInvariant { s with queue, versionDeleted } := hinv.congr rfl rfl
    refine Restored.runTask hinv' (h.take hitems hqueue) (fun hleaves hon htorn => ?_) hrun
    rcases hkeeps task (by simp [hitems]) hleaves.of_queue hon htorn with
      ⟨other, hin, hrestores⟩ | hpending
    · refine .inl ⟨other, ?_, hrestores⟩
      rw [hitems, tail_cons] at hin
      rw [mem_def, hqueue]
      exact mem_append_left _ hin
    · exact .inr hpending
  | _ =>
    have hframe := step_outside hstep (by simp) (by simp) (by simp)
    refine h.next hframe.switchStatus hframe.queue hframe.pending hframe.enroll
      (by rw [hframe.controller]) fun htorn => ?_
    rw [torn, hframe.log] at htorn
    exact htorn

theorem run_detection_carried_out (switchStatus : WakeupModel → Bool) (es : List Event)
    {s : ServiceManager} (model : WakeupModel)
    (hkeeps : Along step (fun s e _ => e.KeepsDetection model s) (.initial switchStatus) es)
    (hrun : run step (.initial switchStatus) es = some s) (hidle : s.queue.items = [])
    (hobservers : ∀ m, Pending.onSwitchChange m ∉ s.pending)
    (hnone : s.enrollOrUpdateExist = false) (hon : s.switchStatus model)
    {before after : List Effect} {e : Effect} (hlog : s.log = before ++ e :: after)
    (htears : e.tearsDown model) : Effect.createAndStartServiceObject model ∈ after := by
  have hinitial : Restored none model (.initial switchStatus) := by
    intro _ htorn
    cases htorn
  obtain ⟨hinv, h⟩ := run_invariant
    (I := fun s => UpdateInvariant s ∧ Restored none model s)
    (fun s e t hs hR hstep =>
      ⟨step_updateInvariant hs.1 hstep, step_restored hs.1 hs.2 hR hstep⟩)
    ⟨initial_updateInvariant switchStatus, hinitial⟩ hkeeps hrun
  rw [hinv.exist_eq] at hnone
  refine carried_out_of_not_torn ?_ hlog htears
  by_contra htorn
  rcases h hon (by simpa using htorn) with hflight | (⟨task, hin, -⟩ | hpending) | ⟨_, hcur, _⟩
  · cases hnone.symm.trans hflight
  · rw [mem_def, hidle] at hin
    cases hin
  · exact hobservers model hpending
  · cases hcur

theorem run_detection_carried_out_enroll :
    ∃ (s : ServiceManager) (before after : List Effect), run step (.initial fun _ => true)
        [.request .createEnrollEngine, .execute {} [], .request (.releaseEngine .enroll),
          .execute {} []] = some s ∧
      s.log = before ++ .stopDetection .voice :: after ∧
      Effect.createAndStartServiceObject .voice ∈ after := by
  refine ⟨_, [], _, rfl, rfl, run_detection_carried_out (fun _ => true)
    [.request .createEnrollEngine, .execute {} [], .request (.releaseEngine .enroll),
      .execute {} []] .voice ?_ rfl rfl ?_ rfl rfl
    (show _ = [] ++ Effect.stopDetection .voice :: _ from rfl) rfl⟩
  · refine .of_step rfl trivial ?_
    refine .of_step rfl (fun _ hin hleaves => ?_) ?_
    · cases hin
      obtain ⟨-, -, hfailed⟩ := hleaves
      cases hfailed
    refine .of_step rfl trivial ?_
    refine .of_step rfl (fun _ hin hleaves => ?_) trivial
    cases hin
    obtain ⟨-, strategy, hstrategy, -⟩ := hleaves
    cases hstrategy
  · intro m hin
    cases hin

theorem failed_enroll_leaves_detection_down :
    ∃ (s : ServiceManager) (before after : List Effect), run step (.initial fun _ => true)
        [.request (.switchOn .voice false), .execute {} [], .request .createEnrollEngine,
          .execute { enrollCreated := false } []] = some s ∧
      s.queue.items = [] ∧ s.pending = [] ∧ s.enrollOrUpdateExist = false ∧
      s.switchStatus .voice ∧ s.log = before ++ .stopDetection .voice :: after ∧
      Effect.createAndStartServiceObject .voice ∉ after := by
  refine ⟨_, [.createAndStartServiceObject .voice, .createDetector .voice, .startDetection .voice],
    [.stopDetection .proximal, .stopEngine .wakeup, .releaseAdapter], rfl, rfl, rfl, rfl, rfl, rfl,
    ?_⟩
  decide

end IntellVoice.Service
