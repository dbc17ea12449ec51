import IntellVoice.Service.Manager
import IntellVoice.Library.Run

/-! What every function of the manager and the controller can leave behind. -/

namespace IntellVoice.Service
open BoundedQueue Option ServiceManager

def Task.strategies : Task → List UpdateStrategy
  | .silenceUpdate => [silenceUpdateStrategy, whisperUpdateStrategy]
  | .whisperVprUpdate => [whisperUpdateStrategy]
  | .cloneUpdate wakeupInfo => [cloneUpdateStrategy wakeupInfo]
  | .createUpdateEngineUntilTime strategy _ => [strategy]
  | _ => []

namespace ServiceManager
variable {s t u : ServiceManager} {a : Answers}

def tornBy (model : WakeupModel) (torn : Bool) : Effect → Bool
  | .stopDetection m => m == model || torn
  | .releaseAdapter => true
  | .createAndStartServiceObject m => m != model && torn
  | _ => torn

def tears : Effect → Bool
  | .stopDetection _ => true
  | .releaseAdapter => true
  | _ => false

def torn (s : ServiceManager) (model : WakeupModel) : Bool := s.log.foldl (tornBy model) false

lemma torn_emit (s : ServiceManager) (e : Effect) (model : WakeupModel) :
    (s.emit e).torn model = tornBy model (s.torn model) e := by
  simp [torn, emit]

variable {e : Effect} {task : Task} {model : WakeupModel}

lemma torn_emit_of_not_tears (htears : tears e = false) (h : (s.emit e).torn model) :
    s.torn model := by
  rw [torn_emit] at h
  cases e with
  | stopDetection m | releaseAdapter => cases htears
  | createAndStartServiceObject m =>
    simp only [tornBy, Bool.and_eq_true] at h
    exact h.2
  | _ => exact h

structure UpdateFrame (s t : ServiceManager) : Prop where
  enroll : t.enroll = s.enroll
  wakeup : t.wakeup = s.wakeup
  switchStatus : t.switchStatus = s.switchStatus
  detectors : t.detectors = s.detectors
  pending : t.pending = s.pending
  queue : ∀ task ∈ s.queue, task ∈ t.queue
  torn : ∀ m, t.torn m → s.torn m ∨ s.wakeup

lemma UpdateFrame.refl (s : ServiceManager) : UpdateFrame s s :=
  ⟨rfl, rfl, rfl, rfl, rfl, fun _ h => h, fun _ h => .inl h⟩

lemma UpdateFrame.trans (hst : UpdateFrame s t) (htu : UpdateFrame t u) : UpdateFrame s u where
  enroll := htu.enroll.trans hst.enroll
  wakeup := htu.wakeup.trans hst.wakeup
  switchStatus := htu.switchStatus.trans hst.switchStatus
  detectors := htu.detectors.trans hst.detectors
  pending := htu.pending.trans hst.pending
  queue := fun task h => htu.queue task (hst.queue task h)
  torn := by
    intro m h
    rcases htu.torn m h with ht | hwakeup
    · exact hst.torn m ht
    · exact .inr (hst.wakeup ▸ hwakeup)

structure NoUpdate (s : ServiceManager) : Prop where
  isUpdating : s.controller.isUpdating = false
  updateStrategy : s.controller.updateStrategy = none
  update : s.update = none

structure DetectionFrame (s t : ServiceManager) : Prop where
  enroll : t.enroll = s.enroll
  update : t.update = s.update
  controller : t.controller = s.controller
  timer : t.timer = s.timer
  switchStatus : t.switchStatus = s.switchStatus
  pending : t.pending = s.pending
  queue : t.queue = s.queue
  detectors : ∀ m, t.detectors m → s.detectors m ∨ s.switchStatus m
  torn : ∀ m, t.torn m → s.torn m

lemma DetectionFrame.of_eq (henroll : t.enroll = s.enroll) (hupdate : t.update = s.update)
    (hcontroller : t.controller = s.controller) (htimer : t.timer = s.timer)
    (hswitch : t.switchStatus = s.switchStatus) (hpending : t.pending = s.pending)
    (hqueue : t.queue = s.queue) (hdetectors : t.detectors = s.detectors)
    (htorn : ∀ m, t.torn m → s.torn m) : DetectionFrame s t :=
  ⟨henroll, hupdate, hcontroller, htimer, hswitch, hpending, hqueue,
    fun _ h => .inl (hdetectors ▸ h), htorn⟩

lemma DetectionFrame.refl (s : ServiceManager) : DetectionFrame s s :=
  .of_eq rfl rfl rfl rfl rfl rfl rfl rfl fun _ h => h

lemma DetectionFrame.trans (hst : DetectionFrame s t) (htu : DetectionFrame t u) :
    DetectionFrame s u where
  enroll := htu.enroll.trans hst.enroll
  update := htu.update.trans hst.update
  controller := htu.controller.trans hst.controller
  timer := htu.timer.trans hst.timer
  switchStatus := htu.switchStatus.trans hst.switchStatus
  pending := htu.pending.trans hst.pending
  queue := htu.queue.trans hst.queue
  detectors := by
    intro m h
    rcases htu.detectors m h with hbefore | hon
    · exact hst.detectors m hbefore
    · exact .inr (hst.switchStatus ▸ hon)
  torn := fun m h => hst.torn m (htu.torn m h)

lemma releaseUpdateEngine_update (s : ServiceManager) : s.releaseUpdateEngine.update = none := by
  unfold releaseUpdateEngine detachEngine
  cases hupdate : s.update with
  | none => simpa using hupdate
  | some engine => rfl

lemma releaseUpdateEngine_controller (s : ServiceManager) :
    s.releaseUpdateEngine.controller = s.controller := by
  unfold releaseUpdateEngine detachEngine
  cases s.update with
  | none => rfl
  | some engine => dsimp only; split <;> rfl

lemma releaseUpdateEngine_timer (s : ServiceManager) : s.releaseUpdateEngine.timer = s.timer := by
  unfold releaseUpdateEngine detachEngine
  cases s.update with
  | none => rfl
  | some engine => dsimp only; split <;> rfl

lemma releaseUpdateEngine_log (s : ServiceManager) : s.releaseUpdateEngine.log = s.log := by
  unfold releaseUpdateEngine detachEngine
  cases s.update with
  | none => rfl
  | some engine => dsimp only; split <;> rfl

lemma releaseUpdateEngine_frame (s : ServiceManager) : UpdateFrame s s.releaseUpdateEngine := by
  unfold releaseUpdateEngine detachEngine
  cases s.update with
  | none => exact .refl s
  | some engine =>
    dsimp only
    split
    · exact ⟨rfl, rfl, rfl, rfl, rfl, fun _ h => mem_offer_of_mem h, fun _ h => .inl h⟩
    · exact ⟨rfl, rfl, rfl, rfl, rfl, fun _ h => h, fun _ h => .inl h⟩

lemma releaseUpdateEngine_reports {engine : UpdateEngine} (hroom : s.queue.isFull = false)
    (hupdate : s.update = some engine) (hresult : engine.updateResult = .default) :
    Task.updateComplete .default engine.param ∈ s.releaseUpdateEngine.queue := by
  simp only [releaseUpdateEngine, detachEngine, hupdate, hresult, if_true]
  exact BoundedQueue.mem_offer_self hroom _

lemma createEngine_update (s : ServiceManager) (a : Answers) (param : String) (reEnroll : Bool) :
    s.createEngine a .update param reEnroll = if s.enroll then (false, s)
      else (if s.wakeup then s.emit .releaseAdapter else s).createEngineInner a .update param
        reEnroll := by
  cases henroll : s.enroll <;> cases hwakeup : s.wakeup <;>
    simp [createEngine, judgeRejection, engineRelationTbl, hasEngine, henroll, hwakeup,
      handlePreemption, handleReplace]

inductive Creation (a : Answers) (param : String) (s : ServiceManager) :
    Bool × ServiceManager → Prop where
  | rejected (henroll : s.enroll) : Creation a param s (false, s)
  | failed {t : ServiceManager} (henroll : s.enroll = false)
      (hanswer : a.updateCreated param = false)
      (hbefore : s.update = none) (hupdate : t.update = none)
      (hcontroller : t.controller = s.controller)
      (htimer : t.timer = s.timer) (hqueue : t.queue = s.queue) (hframe : UpdateFrame s t) :
      Creation a param s (false, t)
  | created {t : ServiceManager} {engine : UpdateEngine} (henroll : s.enroll = false)
      (hupdate : t.update = some engine)
      (hengine : s.update = some engine ∨ s.update = none ∧ engine.param = param ∧
        engine.updateResult = .default)
      (hcontroller : t.controller = s.controller) (htimer : t.timer = s.timer)
      (hqueue : t.queue = s.queue) (hframe : UpdateFrame s t) : Creation a param s (true, t)

lemma createUpdateEngine_creation (s : ServiceManager) (a : Answers) (param : String)
    (reEnroll : Bool) : Creation a param s (s.createUpdateEngine a param reEnroll) := by
  unfold createUpdateEngine
  rw [createEngine_update]
  cases henroll : s.enroll with
  | true => exact .rejected henroll
  | false =>
    simp only [Bool.false_eq_true, if_false]
    -- Giving up the adapter only writes to the log.
    generalize hbase : (if s.wakeup then s.emit .releaseAdapter else s) = base
    have hsame : base = { s with log := base.log } := by
      subst hbase
      split <;> rfl
    have htorn : ∀ m, base.torn m → s.torn m ∨ s.wakeup := by
      intro m h
      subst hbase
      split at h
      · rename_i hwakeup
        exact .inr hwakeup
      · exact .inl h
    rw [hsame]
    cases hupdate : s.update with
    | some engine =>
      simp only [createEngineInner, hasEngine, isSome_some, if_true]
      exact .created henroll rfl (.inl hupdate) rfl rfl rfl
        ⟨rfl, rfl, rfl, rfl, rfl, fun _ h => h, htorn⟩
    | none =>
      simp only [createEngineInner, hasEngine, isSome_none, Bool.false_eq_true, if_false]
      cases hanswer : a.updateCreated param with
      | true =>
        exact .created henroll rfl (.inr ⟨hupdate, rfl, rfl⟩) rfl rfl rfl
          ⟨rfl, rfl, rfl, rfl, rfl, fun _ h => h, htorn⟩
      | false =>
        exact .failed henroll hanswer hupdate rfl rfl rfl rfl
          ⟨rfl, rfl, rfl, rfl, rfl, fun _ h => h, htorn⟩

/-! ## The update controller -/

lemma onUpdateCompleteCallback_eq (s : ServiceManager) (result : Int) :
    s.onUpdateCompleteCallback result =
      { s with log := (s.onUpdateCompleteCallback result).log } := by
  unfold onUpdateCompleteCallback
  split <;> rfl

lemma onUpdateCompleteCallback_torn {result : Int} {m : WakeupModel}
    (h : (s.onUpdateCompleteCallback result).torn m) : s.torn m := by
  unfold onUpdateCompleteCallback at h
  split at h
  · exact h
  · exact torn_emit_of_not_tears rfl h

lemma preempt_noUpdate (s : ServiceManager) (result : Int) :
    NoUpdate ((s.onUpdateCompleteCallback result).releaseUpdateEngine.clearRetryState.stopTimerMgr)
      ∧ UpdateFrame s
        ((s.onUpdateCompleteCallback result).releaseUpdateEngine.clearRetryState.stopTimerMgr) := by
  have hcalled : UpdateFrame s (s.onUpdateCompleteCallback result) := by
    refine ⟨?_, ?_, ?_, ?_, ?_, ?_, fun _ h => .inl (onUpdateCompleteCallback_torn h)⟩ <;>
      rw [onUpdateCompleteCallback_eq]
    exact fun _ h => h
  have hframe := hcalled.trans (releaseUpdateEngine_frame _)
  exact ⟨⟨rfl, rfl, releaseUpdateEngine_update (s.onUpdateCompleteCallback result)⟩,
    ⟨hframe.enroll, hframe.wakeup, hframe.switchStatus, hframe.detectors, hframe.pending,
      hframe.queue, hframe.torn⟩⟩

lemma abandonUpdate_noUpdate (s : ServiceManager) :
    NoUpdate s.abandonUpdate ∧ UpdateFrame s s.abandonUpdate := by
  have hframe := releaseUpdateEngine_frame s.clearRetryState
  have hcontroller := releaseUpdateEngine_controller s.clearRetryState
  refine ⟨⟨?_, ?_, releaseUpdateEngine_update s.clearRetryState⟩, ⟨hframe.enroll, hframe.wakeup,
    hframe.switchStatus, hframe.detectors, hframe.pending, hframe.queue, hframe.torn⟩⟩
  · show (releaseUpdateEngine _).controller.isUpdating = false
    rw [hcontroller]
    rfl
  · show (releaseUpdateEngine _).controller.updateStrategy = none
    rw [hcontroller]
    rfl

inductive Requested (a : Answers) (strategy : UpdateStrategy) (s : ServiceManager) :
    Bool × ServiceManager → Prop where
  | refused (hwhy : strategy.updateRestrain a ∨ s.enroll ∨
      s.controller.isUpdating) : Requested a strategy s (false, s)
  | failed {t : ServiceManager} (henroll : s.enroll = false)
      (hanswer : a.updateCreated strategy.param = false) (hbefore : s.update = none)
      (hupdate : t.update = none) (hcontroller : t.controller = s.controller)
      (htimer : t.timer = s.timer) (hqueue : t.queue = s.queue) (hframe : UpdateFrame s t) :
      Requested a strategy s (false, t)
  | dropped {t : ServiceManager} (hupdating : s.controller.isUpdating)
      (hpriority : s.controller.curPriority < strategy.priority)
      (hanswer : s.enroll ∨ a.updateCreated strategy.param = false)
      (hnone : NoUpdate t) (hframe : UpdateFrame s t) : Requested a strategy s (false, t)
  | begun {t : ServiceManager} {engine : UpdateEngine} (henroll : s.enroll = false)
      (hupdating : t.controller.isUpdating)
      (hstrategy : t.controller.updateStrategy = some strategy)
      (hforce : t.controller.isForceReleased = false) (hupdate : t.update = some engine)
      (hengine : (s.update = some engine ∧ (s.controller.isUpdating →
          s.controller.curPriority = strategy.priority)) ∨
        engine.param = strategy.param ∧ engine.updateResult = .default)
      (hframe : UpdateFrame s t) : Requested a strategy s (true, t)

lemma Creation.requested {strategy : UpdateStrategy} {reEnroll : Bool} {t : ServiceManager}
    (hframe : UpdateFrame s t) (ht : t = s ∧ (s.controller.isUpdating →
        s.controller.curPriority = strategy.priority) ∨ NoUpdate t ∧ s.controller.isUpdating ∧
        s.controller.curPriority < strategy.priority) (hpass : strategy.updateRestrain a = false)
    (harbitration : s.updateArbitration strategy.priority = (true, t)) :
    Requested a strategy s (s.createUpdateEngineUntilTime a strategy reEnroll) := by
  simp only [createUpdateEngineUntilTime, hpass, harbitration, Bool.false_eq_true, if_false,
    Bool.not_true]
  have hcreation := createUpdateEngine_creation t a strategy.param reEnroll
  generalize t.createUpdateEngine a strategy.param reEnroll = r at hcreation ⊢
  cases hcreation with
  | rejected henroll =>
    simp only [Bool.not_false, if_true]
    rcases ht with ⟨rfl, -⟩ | ⟨hnone, hupdating, hpriority⟩
    · exact .refused (.inr (.inl henroll))
    · exact .dropped hupdating hpriority (.inl (hframe.enroll ▸ henroll)) hnone hframe
  | failed henroll hanswer hbefore hupdate hcontroller htimer hqueue hcreated =>
    simp only [Bool.not_false, if_true]
    rcases ht with ⟨rfl, -⟩ | ⟨hnone, hupdating, hpriority⟩
    · exact .failed henroll hanswer hbefore hupdate hcontroller htimer hqueue hcreated
    refine .dropped hupdating hpriority (.inr hanswer) ⟨?_, ?_, hupdate⟩ (hframe.trans hcreated)
    · rw [hcontroller, hnone.isUpdating]
    · rw [hcontroller, hnone.updateStrategy]
  | created henroll hupdate hengine hcontroller htimer hqueue hcreated =>
    simp only [Bool.not_true, Bool.false_eq_true, if_false]
    have hall := hframe.trans hcreated
    -- Starting the timer thread touches nothing else.
    generalize htimed : (if _ < strategy.retryTimes then _ else _ : ServiceManager) = timed
    obtain ⟨timer, rfl⟩ : ∃ timer, timed = { (_ : ServiceManager) with timer := timer } := by
      subst htimed
      split <;> exact ⟨_, rfl⟩
    refine .begun (hframe.enroll ▸ henroll) rfl rfl rfl hupdate ?_ ⟨hall.enroll, hall.wakeup,
      hall.switchStatus, hall.detectors, hall.pending, hall.queue, hall.torn⟩
    rcases hengine with hold | ⟨-, hparam, hresult⟩
    · rcases ht with ⟨rfl, hsame⟩ | ⟨hnone, -, -⟩
      · exact .inl ⟨hold, hsame⟩
      · rw [hnone.update] at hold
        cases hold
    · exact .inr ⟨hparam, hresult⟩

lemma createUpdateEngineUntilTime_requested (s : ServiceManager) (a : Answers)
    (strategy : UpdateStrategy) (reEnroll : Bool) :
    Requested a strategy s (s.createUpdateEngineUntilTime a strategy reEnroll) := by
  cases hrestrain : strategy.updateRestrain a with
  | true =>
    simp only [createUpdateEngineUntilTime, hrestrain, if_true]
    exact .refused (.inl hrestrain)
  | false =>
    cases hupdating : s.controller.isUpdating with
    | false =>
      have harbitration : s.updateArbitration strategy.priority = (true, s) := by
        simp [updateArbitration, hupdating]
      exact Creation.requested (.refl s) (.inl ⟨rfl, by simp [hupdating]⟩) hrestrain harbitration
    | true =>
      rcases Int.lt_trichotomy s.controller.curPriority strategy.priority with hlt | heq | hgt
      · obtain ⟨hnone, hframe⟩ := preempt_noUpdate s UpdateState.concurrent.code
        refine Creation.requested hframe (.inr ⟨hnone, hupdating, hlt⟩) hrestrain ?_
        have hnot : ¬ s.controller.curPriority > strategy.priority := by omega
        have hne : s.controller.curPriority ≠ strategy.priority := by omega
        simp [updateArbitration, hupdating, hnot, hne]
      · have harbitration : s.updateArbitration strategy.priority = (true, s) := by
          simp [updateArbitration, hupdating, heq]
        exact Creation.requested (.refl s) (.inl ⟨rfl, fun _ => heq⟩) hrestrain harbitration
      have harbitration : s.updateArbitration strategy.priority = (false, s) := by
        simp [updateArbitration, hupdating, hgt]
      simp only [createUpdateEngineUntilTime, hrestrain, harbitration, Bool.false_eq_true,
        if_false, Bool.not_false, if_true]
      exact .refused (.inr (.inr hupdating))

def retries (s : ServiceManager) (a : Answers) (result : UpdateState) : Bool :=
  let s := (s.setController { s.controller with updateResult := result }).stopUpdateTimer
  s.isNeedRetryUpdate a && s.startUpdateTimer.1

inductive Completed (a : Answers) (result : UpdateState) (param : String) (s : ServiceManager) :
    Bool × ServiceManager → Prop where
  | ignored (hother : s.controller.isForceReleased ∨
      s.controller.updateStrategy.map UpdateStrategy.param ≠ some param) :
      Completed a result param s (false, s)
  | retry {t : ServiceManager} (hupdating : t.controller.isUpdating = s.controller.isUpdating)
      (hstrategy : t.controller.updateStrategy = s.controller.updateStrategy)
      (hforce : t.controller.isForceReleased = s.controller.isForceReleased)
      (hupdate : t.update = none) (htimer : t.timer.itemQueue ≠ []) (hlog : t.log = s.log)
      (hframe : UpdateFrame s t) : Completed a result param s (false, t)
  | ended {t : ServiceManager} (hlast : s.retries a result = false)
      (hparam : s.controller.updateStrategy.map UpdateStrategy.param = some param)
      (hnone : NoUpdate t) (hframe : UpdateFrame s t) : Completed a result param s (true, t)

lemma finishUpdate_completed (s : ServiceManager) (a : Answers) (result : UpdateState)
    (param : String) (hparam : s.controller.updateStrategy.map UpdateStrategy.param = some param) :
    Completed a result param s (s.finishUpdate a result) := by
  -- The timer that was set for this update is killed first, so a new one can be set.
  obtain ⟨timer, base, hbase, hid⟩ : ∃ timer base,
      (s.setController { s.controller with updateResult := result }).stopUpdateTimer = base ∧
        base = { s with timer := timer, controller := { s.controller with
          updateResult := result, timerId := none } } := by
    cases hid : s.controller.timerId with
    | none => exact ⟨s.timer, _, rfl, by simp [stopUpdateTimer, setController, hid]⟩
    | some id => exact ⟨s.timer.killTimer id, _, rfl, by simp [stopUpdateTimer, setController, hid]⟩
  have hover : ∀ r : ServiceManager, s.retries a result = false → UpdateFrame s r →
      Completed a result param s
      (true, ((r.onUpdateCompleteCallback (if result = .completeSuccess then 0 else 1)
        ).clearRetryState.stopTimerMgr).releaseUpdateEngine) := by
    intro r hlast hr
    generalize hcleared : ((r.onUpdateCompleteCallback (if result = .completeSuccess then 0 else 1)
      ).clearRetryState.stopTimerMgr) = cleared
    have htorn : ∀ m, cleared.torn m → r.torn m := by
      intro m h
      rw [← hcleared] at h
      exact onUpdateCompleteCallback_torn h
    have hframe : UpdateFrame r cleared := by
      rw [onUpdateCompleteCallback_eq] at hcleared
      subst hcleared
      exact ⟨rfl, rfl, rfl, rfl, rfl, fun _ h => h, fun m h => .inl (htorn m h)⟩
    have hcontroller := releaseUpdateEngine_controller cleared
    refine .ended hlast hparam ⟨?_, ?_, releaseUpdateEngine_update cleared⟩
      ((hr.trans hframe).trans (releaseUpdateEngine_frame cleared))
    all_goals
      rw [hcontroller, ← hcleared]
      rfl
  have hretries : s.retries a result = (base.isNeedRetryUpdate a && base.startUpdateTimer.1) := by
    simp only [retries, hbase]
  simp only [finishUpdate, hbase]
  subst hid
  split
  · rename_i hneed
    -- Another attempt is wanted: it is made if a timer can be set.
    cases hset : timer.setTimer with
    | mk id timer' =>
      cases id with
      | none =>
        have hlast : s.retries a result = false := by
          simp [hretries, startUpdateTimer, hset]
        simp only [startUpdateTimer, isSome_none, Bool.false_eq_true, if_false, hset]
        exact hover _ hlast ⟨rfl, rfl, rfl, rfl, rfl, fun _ h => h, fun _ h => .inl h⟩
      | some id =>
        have hitems : timer'.itemQueue ≠ [] := by
          unfold TimerMgr.setTimer at hset
          split at hset
          · cases hset
          split at hset
          · cases hset
          · cases hset
            simp
        simp only [startUpdateTimer, isSome_none, Bool.false_eq_true, if_false, hset, if_true]
        generalize hnext : ({ s with
            timer := timer'
            controller := _ } : ServiceManager) = next
        have hcontroller := releaseUpdateEngine_controller next
        refine .retry ?_ ?_ ?_ (releaseUpdateEngine_update next) ?_ ?_ ?_
        · rw [hcontroller, ← hnext]
        · rw [hcontroller, ← hnext]
        · rw [hcontroller, ← hnext]
        · rw [releaseUpdateEngine_timer, ← hnext]
          exact hitems
        · rw [releaseUpdateEngine_log, ← hnext]
        · refine UpdateFrame.trans ?_ (releaseUpdateEngine_frame next)
          rw [← hnext]
          exact ⟨rfl, rfl, rfl, rfl, rfl, fun _ h => h, fun _ h => .inl h⟩
  · rename_i hneed
    have hlast : s.retries a result = false := by simp [hretries, hneed]
    simp only [Bool.false_eq_true, if_false]
    exact hover _ hlast ⟨rfl, rfl, rfl, rfl, rfl, fun _ h => h, fun _ h => .inl h⟩

lemma updateCompleteProc_completed (s : ServiceManager) (a : Answers) (result : UpdateState)
    (param : String) : Completed a result param s (s.updateCompleteProc a result param) := by
  unfold updateCompleteProc
  split
  · rename_i hforce
    exact .ignored (.inl hforce)
  split
  · rename_i hparam
    exact .ignored (.inr hparam)
  · rename_i hparam
    exact finishUpdate_completed s a result param (not_not.1 hparam)

inductive Retried (a : Answers) (s : ServiceManager) : Bool × ServiceManager → Prop where
  | forced (hforce : s.controller.isForceReleased) : Retried a s (true, s)
  | again {t : ServiceManager} {strategy : UpdateStrategy} {engine : UpdateEngine}
      (henroll : s.enroll = false) (hstrategy : s.controller.updateStrategy = some strategy)
      (hcontroller : t.controller = { s.controller with timerId := none })
      (hupdate : t.update = some engine)
      (hengine : s.update = some engine ∨
        engine.param = strategy.param ∧ engine.updateResult = .default)
      (hframe : UpdateFrame s t) : Retried a s (true, t)
  | abandoned {t : ServiceManager}
      (hwhy : ∀ strategy, s.controller.updateStrategy = some strategy →
        strategy.updateRestrain a ∨ s.enroll ∨
          a.updateCreated strategy.param = false)
      (hnone : NoUpdate t) (hframe : UpdateFrame s t) : Retried a s (false, t)

lemma updateRetryProc_retried (s : ServiceManager) (a : Answers) :
    Retried a s (s.updateRetryProc a) := by
  unfold updateRetryProc
  split
  · rename_i hforce
    exact .forced hforce
  cases hstrategy : s.controller.updateStrategy with
  | none =>
    obtain ⟨hnone, hframe⟩ := abandonUpdate_noUpdate s
    exact .abandoned (by simp [hstrategy]) hnone hframe
  | some strategy =>
    dsimp only
    split
    · rename_i hrestrain
      obtain ⟨hnone, hframe⟩ := abandonUpdate_noUpdate s
      refine .abandoned (fun st hst => ?_) hnone hframe
      cases hstrategy.symm.trans hst
      exact .inl hrestrain
    have hcreation := createUpdateEngine_creation s a strategy.param false
    generalize s.createUpdateEngine a strategy.param false = r at hcreation ⊢
    cases hcreation with
    | rejected henroll =>
      obtain ⟨hnone, hframe⟩ := abandonUpdate_noUpdate s
      exact .abandoned (fun _ _ => .inr (.inl henroll)) hnone hframe
    | failed henroll hanswer hbefore hupdate hcontroller htimer hqueue hcreated =>
      obtain ⟨hnone, hframe⟩ := abandonUpdate_noUpdate _
      refine .abandoned (fun st hst => ?_) hnone (hcreated.trans hframe)
      cases hstrategy.symm.trans hst
      exact .inr (.inr hanswer)
    | created henroll hupdate hengine hcontroller htimer hqueue hframe =>
      refine .again henroll hstrategy (by simp [setController, hcontroller]) hupdate ?_
        ⟨hframe.enroll, hframe.wakeup, hframe.switchStatus, hframe.detectors, hframe.pending,
          hframe.queue, hframe.torn⟩
      rcases hengine with hold | ⟨-, hnew⟩
      · exact .inl hold
      · exact .inr hnew

lemma forceRelease_cases (s : ServiceManager) :
    (s.controller.isUpdating = false ∧ s.forceRelease = s) ∨
      (s.controller.isUpdating ∧ NoUpdate s.forceRelease ∧ UpdateFrame s s.forceRelease) := by
  cases hupdating : s.controller.isUpdating with
  | false => exact .inl ⟨rfl, by simp [forceRelease, hupdating]⟩
  | true =>
    obtain ⟨hnone, hframe⟩ := abandonUpdate_noUpdate s
    have heq : s.forceRelease = s.abandonUpdate.setController
        { s.abandonUpdate.controller with isForceReleased := true } := by
      simp [forceRelease, hupdating, abandonUpdate]
    rw [heq]
    exact .inr ⟨rfl, ⟨hnone.isUpdating, hnone.updateStrategy, hnone.update⟩, ⟨hframe.enroll,
      hframe.wakeup, hframe.switchStatus, hframe.detectors, hframe.pending, hframe.queue,
      hframe.torn⟩⟩

lemma emit_detectionFrame (s : ServiceManager) (htears : tears e = false) :
    DetectionFrame s (s.emit e) :=
  .of_eq rfl rfl rfl rfl rfl rfl rfl rfl fun _ h => torn_emit_of_not_tears htears h

lemma createDetector_frame (s : ServiceManager) (hon : s.switchStatus model) :
    DetectionFrame s (s.createDetector model) where
  enroll := rfl
  update := rfl
  controller := rfl
  timer := rfl
  switchStatus := rfl
  pending := rfl
  queue := rfl
  detectors := by
    intro m h
    by_cases hm : m = model
    · exact .inr (hm ▸ hon)
    · exact .inl (by simpa [createDetector, hm] using h)
  torn := fun _ h => torn_emit_of_not_tears (e := .createDetector model) rfl h

lemma startDetection_frame (s : ServiceManager) (model : WakeupModel) :
    DetectionFrame s (s.startDetection model) := by
  unfold startDetection
  split
  · exact .refl s
  split
  · exact .refl s
  · exact emit_detectionFrame s rfl

lemma createEngineInner_wakeup_frame (s : ServiceManager) (a : Answers) :
    DetectionFrame s (s.createEngineInner a .wakeup "" false).2 := by
  unfold createEngineInner
  split
  · exact .refl s
  · exact .of_eq rfl rfl rfl rfl rfl rfl rfl rfl fun _ h => h

lemma createEngine_wakeup (s : ServiceManager) (a : Answers) :
    s.createEngine a .wakeup "" false = s.createEngineInner a .wakeup "" false := by
  simp [createEngine, judgeRejection, engineRelationTbl, handlePreemption, handleReplace]

lemma createOrResetWakeupEngine_frame (s : ServiceManager) (a : Answers) :
    DetectionFrame s (s.createOrResetWakeupEngine a) := by
  unfold createOrResetWakeupEngine
  split
  · exact emit_detectionFrame s rfl
  · exact createEngineInner_wakeup_frame s a

lemma createAndStartServiceObject_carried (s : ServiceManager) (a : Answers)
    (model : WakeupModel) (needResetAdapter : Bool) :
    DetectionFrame (s.emit (.createAndStartServiceObject model))
      (s.createAndStartServiceObject a model needResetAdapter) := by
  unfold createAndStartServiceObject
  dsimp only
  generalize s.emit (.createAndStartServiceObject model) = d
  split
  · exact emit_detectionFrame d rfl
  split
  · exact .refl d
  split
  · exact .refl d
  rename_i hswitch
  have hon : d.switchStatus model := by simpa using hswitch
  generalize hready : (if needResetAdapter then d.createOrResetWakeupEngine a
    else (d.createEngine a .wakeup "" false).2) = ready
  have hframe : DetectionFrame d ready := by
    rw [← hready]
    split
    · exact createOrResetWakeupEngine_frame d a
    · rw [createEngine_wakeup]
      exact createEngineInner_wakeup_frame d a
  exact (hframe.trans (createDetector_frame ready (hframe.switchStatus ▸ hon))).trans
    (startDetection_frame _ model)

lemma createAndStartServiceObject_frame (s : ServiceManager) (a : Answers) (model : WakeupModel)
    (needResetAdapter : Bool) :
    DetectionFrame s (s.createAndStartServiceObject a model needResetAdapter) :=
  (emit_detectionFrame s rfl).trans (createAndStartServiceObject_carried s a model needResetAdapter)

lemma switchOnProc_frame (s : ServiceManager) (a : Answers) (model : WakeupModel)
    (needUpdateAdapter : Bool) : DetectionFrame s (s.switchOnProc a model needUpdateAdapter) := by
  unfold switchOnProc
  split
  · exact .refl s
  split
  · exact .refl s
  · exact createAndStartServiceObject_frame s a model needUpdateAdapter

lemma releaseTriggerDetector_frame (s : ServiceManager) (model : WakeupModel) :
    DetectionFrame s (s.releaseTriggerDetector model) where
  enroll := rfl
  update := rfl
  controller := rfl
  timer := rfl
  switchStatus := rfl
  pending := rfl
  queue := rfl
  detectors := by
    intro m h
    by_cases hm : m = model
    · simp [releaseTriggerDetector, hm] at h
    · exact .inl (by simpa [releaseTriggerDetector, hm] using h)
  torn := fun _ h => torn_emit_of_not_tears (e := .releaseTriggerDetector model) rfl h

lemma switchOffProc_frame (s : ServiceManager) (model : WakeupModel) :
    DetectionFrame s (s.switchOffProc model) := by
  unfold switchOffProc
  split
  · exact .refl s
  split
  · exact .refl s
  · exact releaseTriggerDetector_frame s model

lemma unloadIntellVoiceService_frame (s : ServiceManager) :
    DetectionFrame s s.unloadIntellVoiceService := by
  unfold unloadIntellVoiceService
  split
  · exact .refl s
  · exact .of_eq rfl rfl rfl rfl rfl rfl rfl rfl fun _ h =>
      torn_emit_of_not_tears (e := .unloadSystemAbility) rfl h

lemma restoreDetection_frame (s : ServiceManager) (a : Answers) :
    DetectionFrame s (s.restoreDetection a) :=
  ((switchOnProc_frame s a .voice true).trans (switchOnProc_frame _ a .proximal true)).trans
    (unloadIntellVoiceService_frame _)

lemma createEngine_enroll (s : ServiceManager) (a : Answers) :
    let t := (s.createEngine a .enroll "" false).2
    t.enroll = (s.enroll || a.enrollCreated) ∧ t.update = none ∧ t.controller = s.controller ∧
      t.timer = s.timer ∧ t.switchStatus = s.switchStatus ∧ t.detectors = s.detectors ∧
      t.pending = s.pending ∧ t.queue = s.releaseUpdateEngine.queue := by
  cases henroll : s.enroll <;> cases hwakeup : s.wakeup <;> cases hupdate : s.update with
  | none => simp [createEngine, judgeRejection, engineRelationTbl, hasEngine, handlePreemption,
      handleReplace, createEngineInner, setEnrollResult, emit, releaseUpdateEngine, detachEngine,
      henroll, hwakeup, hupdate]
  | some engine =>
    by_cases hresult : engine.updateResult = .default <;>
    simp [createEngine, judgeRejection, engineRelationTbl, hasEngine, handlePreemption,
      handleReplace, createEngineInner, setEnrollResult, emit, post, releaseUpdateEngine,
      detachEngine, henroll, hwakeup, hupdate, hresult]

lemma releaseEngine_update (s : ServiceManager) (a : Answers) :
    s.releaseEngine a .update = some s.releaseUpdateEngine := by
  simp [releaseEngine, releaseUpdateEngine]

lemma releaseEngine_cases {type : EngineType}
    (htype : type = .enroll ∨ type = .implicitEnroll) (hrun : s.releaseEngine a type = some t) :
    ((s.detachEngine type).enrollResult type ∧ a.whisperVprConfig ∧
        (s.detachEngine type).push? .whisperVprUpdate = some t) ∨
      ((s.detachEngine type).enrollResult type ∧ a.whisperVprConfig = false ∧
        t = (((s.detachEngine type).switchOnProc a .voice true).switchOnProc a .proximal true
          ).switchOffProc .proximal) ∨ ((s.detachEngine type).enrollResult type = false ∧
        t = ((((s.detachEngine type).switchOnProc a .voice true).switchOffProc .voice
          ).switchOnProc a .proximal true |>.switchOffProc
            .proximal).unloadIntellVoiceService) := by
  have hcheck : ¬ (type ≠ .enroll ∧ type ≠ .implicitEnroll) := by
    rcases htype with rfl | rfl <;> simp
  unfold releaseEngine at hrun
  dsimp only at hrun
  rw [if_neg hcheck] at hrun
  split at hrun
  · rename_i hresult
    split at hrun
    · rename_i hvpr
      exact .inl ⟨hresult, hvpr, hrun⟩
    · rename_i hvpr
      exact .inr (.inl ⟨hresult, by simpa using hvpr, (some.inj hrun).symm⟩)
  · rename_i hresult
    exact .inr (.inr ⟨by simpa using hresult, (some.inj hrun).symm⟩)

lemma releaseEngine_detached {type : EngineType} (htype : type ≠ .update)
    (hrun : s.releaseEngine a type = some t) :
    (s.detachEngine type).push? .whisperVprUpdate = some t ∨
      DetectionFrame (s.detachEngine type) t := by
  by_cases hkind : type = .enroll ∨ type = .implicitEnroll
  · rcases releaseEngine_cases hkind hrun with ⟨-, -, hpush⟩ | ⟨-, -, rfl⟩ | ⟨-, rfl⟩
    · exact .inl hpush
    · exact .inr (((switchOnProc_frame _ a .voice true).trans
        (switchOnProc_frame _ a .proximal true)).trans (switchOffProc_frame _ .proximal))
    exact .inr (((((switchOnProc_frame _ a .voice true).trans
      (switchOffProc_frame _ .voice)).trans (switchOnProc_frame _ a .proximal true)).trans
      (switchOffProc_frame _ .proximal)).trans (unloadIntellVoiceService_frame _))
  · cases type with
    | update => exact absurd rfl htype
    | wakeup =>
      cases hrun
      exact .inr (.refl _)
    | enroll => exact absurd (.inl rfl) hkind
    | implicitEnroll => exact absurd (.inr rfl) hkind

lemma releaseEngine_other {type : EngineType} (htype : type ≠ .update)
    (hrun : s.releaseEngine a type = some t) :
    t.update = s.update ∧ t.controller = s.controller ∧ t.timer = s.timer ∧
      ∃ others, t.queue.items = s.queue.items ++ others ∧
        ∀ task ∈ others, task = .whisperVprUpdate := by
  have hdetached : (s.detachEngine type).update = s.update ∧
      (s.detachEngine type).controller = s.controller ∧
      (s.detachEngine type).timer = s.timer ∧ (s.detachEngine type).queue = s.queue := by
    cases type with
    | update => exact absurd rfl htype
    | _ => exact ⟨rfl, rfl, rfl, rfl⟩
  obtain ⟨hupdate, hcontroller, htimer, hqueue⟩ := hdetached
  rcases releaseEngine_detached htype hrun with hpush | hframe
  · obtain ⟨queue, hpushed, rfl⟩ := map_eq_some_iff.1 hpush
    refine ⟨hupdate, hcontroller, htimer, [.whisperVprUpdate], ?_, by simp⟩
    rw [← hqueue]
    exact items_push? hpushed
  · refine ⟨hframe.update.trans hupdate, hframe.controller.trans hcontroller,
      hframe.timer.trans htimer, [], ?_, by simp⟩
    rw [hframe.queue, hqueue, List.append_nil]

lemma implicitEnrollment_frame (s : ServiceManager) (a : Answers) :
    DetectionFrame s (s.implicitEnrollment a) := by
  have heq : s.createEngine a .implicitEnroll "" false =
      s.createEngineInner a .implicitEnroll "" false := by
    simp [createEngine, judgeRejection, engineRelationTbl, handlePreemption, handleReplace]
  unfold implicitEnrollment
  rw [heq]
  unfold createEngineInner
  split
  · exact .refl s
  · exact .of_eq rfl rfl rfl rfl rfl rfl rfl rfl fun _ h => h

inductive Asked (a : Answers) (s : ServiceManager) : Task → ServiceManager → Prop where
  | cloned {t : ServiceManager} {wakeupInfo : String} (hframe : DetectionFrame s t) :
      Asked a s (.cloneUpdate wakeupInfo) t
  | requested {task : Task} {strategy : UpdateStrategy} {r : Bool × ServiceManager}
      (hin : strategy ∈ task.strategies) (hr : Requested a strategy s r) : Asked a s task r.2
  | followed {u : ServiceManager} {r : Bool × ServiceManager}
      (hfirst : Requested a silenceUpdateStrategy s (false, u))
      (hr : Requested a whisperUpdateStrategy u r) : Asked a s .silenceUpdate r.2

lemma runTask_asked (htask : task.strategies ≠ []) (hrun : s.runTask a task = some t) :
    Asked a s task t := by
  cases task with
  | silenceUpdate =>
    have hfirst := s.createUpdateEngineUntilTime_requested a silenceUpdateStrategy false
    simp only [runTask, some.injEq] at hrun
    generalize s.createUpdateEngineUntilTime a silenceUpdateStrategy false = r at hfirst hrun
    obtain ⟨begun, u⟩ := r
    subst hrun
    cases begun with
    | true => exact .requested (by simp [Task.strategies]) hfirst
    | false =>
      split
      · exact .followed hfirst
          (u.createUpdateEngineUntilTime_requested a whisperUpdateStrategy false)
      · exact .requested (by simp [Task.strategies]) hfirst
  | whisperVprUpdate =>
    cases hrun
    exact .requested (by simp [Task.strategies])
      (s.createUpdateEngineUntilTime_requested a whisperUpdateStrategy false)
  | cloneUpdate wakeupInfo =>
    cases hrun
    unfold cloneUpdate
    split
    · exact .cloned (.refl s)
    split
    · exact .cloned (s.implicitEnrollment_frame a)
    split
    · exact .cloned (.refl s)
    · exact .requested (by simp [Task.strategies])
        (s.createUpdateEngineUntilTime_requested a (cloneUpdateStrategy wakeupInfo) false)
  | createUpdateEngineUntilTime strategy reEnroll =>
    cases hrun
    exact .requested (by simp [Task.strategies])
      (s.createUpdateEngineUntilTime_requested a strategy reEnroll)
  | _ => exact absurd rfl htask

lemma isEngineExist_enroll (s : ServiceManager) : s.isEngineExist .enroll = s.enroll := by
  have hne : (EngineType.enroll == EngineType.update) = false := rfl
  simp [isEngineExist, hasEngine, hne]

lemma runTask_updateComplete {result : UpdateState} {param : String}
    (hrun : s.runTask a (.updateComplete result param) = some t) :
    ∃ u ended, s.Completed a result param (ended, u) ∧ ((ended ∧ u.enroll = false ∧
          (a.whisperVprConfig ∧ param ≠ whisperVprUpdateParam) ∧
          t = (u.whisperVprUpdate a true).2) ∨ (ended ∧ u.enroll = false ∧
          (a.whisperVprConfig → param = whisperVprUpdateParam) ∧ t = u.restoreDetection a) ∨
        ((ended = false ∨ u.enroll) ∧ t = u)) := by
  have hcompleted := s.updateCompleteProc_completed a result param
  rcases hproc : s.updateCompleteProc a result param with ⟨ended, u⟩
  rw [hproc] at hcompleted
  have hneed : s.isNeedUpdateComplete a result param = (ended && !u.enroll, u) := by
    simp [isNeedUpdateComplete, hproc, isEngineExist_enroll]
  refine ⟨u, ended, hcompleted, ?_⟩
  simp only [runTask, hneed] at hrun
  cases ended <;> cases henroll : u.enroll <;> simp [henroll] at hrun
  · exact .inr (.inr ⟨.inl rfl, hrun.symm⟩)
  · exact .inr (.inr ⟨.inl rfl, hrun.symm⟩)
  · split at hrun
    · rename_i hfollow
      cases hrun
      exact .inl ⟨rfl, rfl, hfollow, rfl⟩
    rename_i hfollow
    cases hrun
    refine .inr (.inl ⟨rfl, rfl, fun hvpr => ?_, rfl⟩)
    simpa [hvpr] using hfollow
  · exact .inr (.inr ⟨.inr rfl, hrun.symm⟩)

lemma runTask_updateRetry (hrun : s.runTask a .updateRetry = some t) :
    ∃ u again, s.Retried a (again, u) ∧
      ((again = false ∧ u.enroll = false ∧ t = u.restoreDetection a) ∨
        ((again ∨ u.enroll) ∧ t = u)) := by
  have hretried := s.updateRetryProc_retried a
  rcases hproc : s.updateRetryProc a with ⟨again, u⟩
  rw [hproc] at hretried
  have hneed : s.isNeedUpdateRetry a = (!again && !u.enroll, u) := by
    simp [isNeedUpdateRetry, hproc, isEngineExist_enroll]
  refine ⟨u, again, hretried, ?_⟩
  simp only [runTask, hneed] at hrun
  cases again <;> cases henroll : u.enroll <;> simp [henroll] at hrun
  · exact .inl ⟨rfl, rfl, hrun.symm⟩
  · exact .inr ⟨.inr rfl, hrun.symm⟩
  · exact .inr ⟨.inl rfl, hrun.symm⟩
  · exact .inr ⟨.inl rfl, hrun.symm⟩

lemma push?_spec (hpush : s.push? task = some t) :
    ∃ queue, s.queue.push? task = some queue ∧ t = { s with queue := queue } := by
  obtain ⟨queue, hqueue, rfl⟩ := map_eq_some_iff.1 hpush
  exact ⟨queue, hqueue, rfl⟩

lemma request?_spec (hrequest : s.request? task = some t) :
    task.isInternal = false ∧ s.push? task = some t := by
  unfold request? at hrequest
  split at hrequest
  · cases hrequest
  · rename_i hinternal
    exact ⟨by simpa using hinternal, hrequest⟩

lemma requests?_spec {tasks : List Task} (hrequests : s.requests? tasks = some t) :
    ∃ queue, t = { s with queue := queue } ∧ queue.items = s.queue.items ++ tasks ∧
      ∀ task ∈ tasks, task.isInternal = false := by
  induction tasks generalizing s with
  | nil =>
    cases hrequests
    exact ⟨_, rfl, by simp, by simp⟩
  | cons task rest ih =>
    obtain ⟨u, hfirst, hrest⟩ := bind_eq_some_iff.1 hrequests
    obtain ⟨hinternal, hpush⟩ := request?_spec hfirst
    obtain ⟨queue, hqueue, rfl⟩ := push?_spec hpush
    obtain ⟨queue', rfl, hitems, hothers⟩ := ih hrest
    exact ⟨queue', rfl, by simp [hitems, items_push? hqueue],
      List.forall_mem_cons.2 ⟨hinternal, hothers⟩⟩

lemma takeVersion_eq_some {task : Task} (h : s.takeVersion a task = some t) :
    (s.versionDeleted → a.versionSaved = false ∧ a.versionUpdate = false) ∧
      t = { s with versionDeleted := s.versionAfter task } := by
  obtain ⟨hanswers, heq⟩ := ite_none_left_eq_some.1 h
  exact ⟨by simpa using hanswers, (some.inj heq).symm⟩

def pendingTask (s : ServiceManager) : Pending → Task
  | .onSwitchChange model => s.switchTask model
  | .unloadIntellVoiceService => .unloadIntellVoiceService

lemma step_execute {arrivals : List Task} (hstep : step s (.execute a arrivals) = some t) :
    ∃ task rest queue versionDeleted, s.queue.items = task :: rest ∧
      queue.items = rest ++ arrivals ∧
      { s with queue, versionDeleted }.runTask a task = some t := by
  obtain ⟨⟨task, popped⟩, hpop, hrest⟩ := bind_eq_some_iff.1 hstep
  obtain ⟨u, hrequests, hrest⟩ := bind_eq_some_iff.1 hrest
  obtain ⟨u', hversion, hrun⟩ := bind_eq_some_iff.1 hrest
  obtain ⟨queue, rfl, hitems, -⟩ := requests?_spec hrequests
  obtain ⟨-, rfl⟩ := takeVersion_eq_some hversion
  exact ⟨task, popped.items, queue, _, items_pop? hpop, hitems, hrun⟩

lemma step_observer {pending : Pending} (hstep : step s (.observer pending) = some t) :
    ∃ queue, s.queue.push? (s.pendingTask pending) = some queue ∧
      t = { s with pending := s.pending.erase pending, queue } := by
  obtain ⟨-, hpost⟩ := ite_none_right_eq_some.1 hstep
  cases pending with
  | onSwitchChange | unloadIntellVoiceService =>
    obtain ⟨queue, hpush, rfl⟩ := push?_spec hpost
    exact ⟨queue, hpush, rfl⟩

structure OutsideFrame (s t : ServiceManager) : Prop where
  enroll : t.enroll = s.enroll
  controller : t.controller = s.controller
  switchStatus : t.switchStatus = s.switchStatus
  detectors : t.detectors = s.detectors
  pending : t.pending = s.pending
  log : t.log = s.log
  queue : ∀ task ∈ s.queue, task ∈ t.queue

lemma step_outside {e : Event} (hstep : step s e = some t)
    (hswitch : ∀ model status, e ≠ .setSwitch model status) (hobserver : ∀ p, e ≠ .observer p)
    (hexecute : ∀ a arrivals, e ≠ .execute a arrivals) : OutsideFrame s t := by
  cases e with
  | request task =>
    obtain ⟨queue, hpush, rfl⟩ := push?_spec (request?_spec hstep).2
    exact ⟨rfl, rfl, rfl, rfl, rfl, rfl, fun _ hin => BoundedQueue.mem_of_push? hpush hin⟩
  | setSwitch model status => exact absurd rfl (hswitch model status)
  | observer p => exact absurd rfl (hobserver p)
  | execute a arrivals => exact absurd rfl (hexecute a arrivals)
  | commitEnrollComplete type success =>
    simp only [step] at hstep
    split at hstep
    · cases hstep
      exact ⟨rfl, rfl, rfl, rfl, rfl, rfl, fun _ hin => hin⟩
    · cases hstep
  | updateCommitComplete success =>
    obtain ⟨engine, hengine, rfl⟩ := map_eq_some_iff.1 hstep
    exact ⟨rfl, rfl, rfl, rfl, rfl, rfl, fun _ hin => mem_offer_of_mem hin⟩
  | onTimerEvent =>
    simp only [step] at hstep
    split at hstep
    · cases hstep
    · cases hstep
      exact ⟨rfl, rfl, rfl, rfl, rfl, rfl, fun _ hin => mem_offer_of_mem hin⟩
  | onServiceActive =>
    cases hstep
    exact ⟨rfl, rfl, rfl, rfl, rfl, rfl, fun _ hin => hin⟩

def initial (switchStatus : WakeupModel → Bool) : ServiceManager :=
  { switchStatus := switchStatus }

end ServiceManager

/-! ## The controller and the engine -/

open Transition
variable {s t : ServiceManager} {a : Answers}

structure UpdateInvariant (s : ServiceManager) : Prop where
  strategy : s.controller.isUpdating = s.controller.updateStrategy.isSome
  notForced : s.controller.isUpdating → s.controller.isForceReleased = false
  engine : s.update.isSome → s.controller.isUpdating

lemma ServiceManager.NoUpdate.updateInvariant (h : t.NoUpdate) : UpdateInvariant t where
  strategy := by rw [h.isUpdating, h.updateStrategy]; rfl
  notForced := by simp [h.isUpdating]
  engine := by simp [h.update]

namespace UpdateInvariant

lemma congr (h : UpdateInvariant s) (hupdate : t.update = s.update)
    (hcontroller : t.controller = s.controller) : UpdateInvariant t := by
  constructor
  · rw [hcontroller]; exact h.strategy
  · rw [hcontroller]; exact h.notForced
  · rw [hcontroller, hupdate]; exact h.engine

lemma detached (h : UpdateInvariant s) (hupdate : t.update = none)
    (hcontroller : t.controller = s.controller) : UpdateInvariant t := by
  constructor
  · rw [hcontroller]; exact h.strategy
  · rw [hcontroller]; exact h.notForced
  · simp [hupdate]

variable {r : Bool × ServiceManager} {param : String} {task : Task}

section
variable (h : UpdateInvariant s)
include h

lemma updating_of_param
    (hparam : s.controller.updateStrategy.map UpdateStrategy.param = some param) :
    s.controller.isUpdating := by
  rw [h.strategy]
  cases hstrategy : s.controller.updateStrategy with
  | none => simp [hstrategy] at hparam
  | some strategy => rfl

lemma detection (hframe : s.DetectionFrame t) : UpdateInvariant t :=
  h.congr hframe.update hframe.controller

lemma requested {strategy : UpdateStrategy} (hr : s.Requested a strategy r) :
    UpdateInvariant r.2 := by
  cases hr with
  | refused hwhy => exact h
  | failed henroll hanswer hbefore hupdate hcontroller => exact h.detached hupdate hcontroller
  | dropped hupdating hpriority hanswer hnone => exact hnone.updateInvariant
  | begun henroll hupdating hstrategy hforce =>
    exact ⟨by simp [hupdating, hstrategy], fun _ => hforce, fun _ => hupdating⟩

lemma asked (hr : s.Asked a task t) : UpdateInvariant t := by
  cases hr with
  | cloned hframe => exact h.detection hframe
  | requested _ hr => exact h.requested hr
  | followed hfirst hr => exact (h.requested hfirst).requested hr

lemma completed {result : UpdateState} (hr : s.Completed a result param r) :
    UpdateInvariant r.2 := by
  cases hr with
  | ignored hother => exact h
  | retry hupdating hstrategy hforce hupdate =>
    refine ⟨?_, ?_, by simp [hupdate]⟩
    · rw [hupdating, hstrategy]; exact h.strategy
    · rw [hupdating, hforce]; exact h.notForced
  | ended hlast hparam hnone => exact hnone.updateInvariant

lemma retried (hr : s.Retried a r) : UpdateInvariant r.2 := by
  cases hr with
  | forced hforce => exact h
  | again henroll hstrategy hcontroller hupdate =>
    constructor
    · rw [hcontroller]; exact h.strategy
    · rw [hcontroller]; exact h.notForced
    · intro _
      rw [hcontroller]
      simp [h.strategy, hstrategy]
  | abandoned hwhy hnone => exact hnone.updateInvariant

lemma runTask (hrun : s.runTask a task = some t) : UpdateInvariant t := by
  cases task with
  | switchOn model needUpdateAdapter =>
    cases hrun
    exact h.detection (s.switchOnProc_frame a model needUpdateAdapter)
  | switchOff model fromSwitch =>
    have hoff := h.detection (s.switchOffProc_frame model)
    cases fromSwitch <;> cases hrun
    · exact hoff
    · exact hoff.congr rfl rfl
  | unloadIntellVoiceService =>
    cases hrun
    exact h.detection s.unloadIntellVoiceService_frame
  | onIdle =>
    cases hrun
    exact h.congr rfl rfl
  | createEnrollEngine =>
    cases hrun
    obtain ⟨-, hupdate, hcontroller, -⟩ := createEngine_enroll
      ((s.emit (.stopDetection .voice)).emit (.stopDetection .proximal)) a
    exact h.detached hupdate hcontroller
  | releaseEngine type =>
    by_cases htype : type = .update
    · subst htype
      rw [show s.runTask a (.releaseEngine .update) = _ from s.releaseEngine_update a] at hrun
      cases hrun
      exact h.detached s.releaseUpdateEngine_update s.releaseUpdateEngine_controller
    · obtain ⟨hupdate, hcontroller, -⟩ := releaseEngine_other htype hrun
      exact h.congr hupdate hcontroller
  | silenceUpdate | whisperVprUpdate | cloneUpdate _ | createUpdateEngineUntilTime _ _ =>
    exact h.asked (ServiceManager.runTask_asked (by simp [Task.strategies]) hrun)
  | updateComplete result param =>
    obtain ⟨u, ended, hcompleted, hend⟩ := runTask_updateComplete hrun
    have hdone := h.completed hcompleted
    rcases hend with ⟨-, -, -, rfl⟩ | ⟨-, -, -, rfl⟩ | ⟨-, rfl⟩
    · exact hdone.requested (u.createUpdateEngineUntilTime_requested a whisperUpdateStrategy true)
    · exact hdone.detection (u.restoreDetection_frame a)
    · exact hdone
  | updateRetry =>
    obtain ⟨u, again, hretried, hend⟩ := runTask_updateRetry hrun
    have hdone := h.retried hretried
    rcases hend with ⟨-, -, rfl⟩ | ⟨-, rfl⟩
    · exact hdone.detection (u.restoreDetection_frame a)
    · exact hdone
  | clearUserData =>
    cases hrun
    refine UpdateInvariant.detection ?_ (unloadIntellVoiceService_frame _)
    rcases s.forceRelease_cases with ⟨-, heq⟩ | ⟨-, hnone, -⟩
    · rw [heq]
      exact h
    · exact hnone.updateInvariant

lemma exist_eq : s.enrollOrUpdateExist = (s.enroll || s.controller.isUpdating) := by
  have hupdate : s.isEngineExist .update = s.controller.isUpdating := by
    have hsame : (EngineType.update == EngineType.update) := rfl
    simp only [ServiceManager.isEngineExist, ServiceManager.hasEngine, hsame, Bool.true_and]
    cases hsome : s.update.isSome with
    | true => simp [h.engine hsome]
    | false => simp
  simp [ServiceManager.enrollOrUpdateExist, ServiceManager.isEngineExist_enroll, hupdate]

end
end UpdateInvariant

lemma step_updateInvariant {e : Event} (h : UpdateInvariant s) (hstep : step s e = some t) :
    UpdateInvariant t := by
  cases e with
  | request task =>
    obtain ⟨queue, -, rfl⟩ := push?_spec (request?_spec hstep).2
    exact h.congr rfl rfl
  | setSwitch model status | onServiceActive =>
    cases hstep
    exact h.congr rfl rfl
  | observer pending =>
    obtain ⟨queue, -, rfl⟩ := step_observer hstep
    exact h.congr rfl rfl
  | execute answers arrivals =>
    obtain ⟨task, rest, queue, versionDeleted, -, -, hrun⟩ := step_execute hstep
    have hbefore : UpdateInvariant { s with queue, versionDeleted } := h.congr rfl rfl
    exact hbefore.runTask hrun
  | commitEnrollComplete type success =>
    simp only [step] at hstep
    split at hstep
    · cases hstep
      exact h.congr rfl rfl
    · cases hstep
  | updateCommitComplete success =>
    obtain ⟨engine, hengine, rfl⟩ := map_eq_some_iff.1 hstep
    exact ⟨h.strategy, h.notForced, fun _ => h.engine (by simp [hengine])⟩
  | onTimerEvent =>
    simp only [step] at hstep
    split at hstep
    · cases hstep
    · cases hstep
      exact h.congr rfl rfl

lemma initial_updateInvariant (switchStatus : WakeupModel → Bool) :
    UpdateInvariant (.initial switchStatus) :=
  ServiceManager.NoUpdate.updateInvariant ⟨rfl, rfl, rfl⟩

end IntellVoice.Service
