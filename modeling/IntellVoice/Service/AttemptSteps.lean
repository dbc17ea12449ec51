import IntellVoice.Service.Attempts

/-! What each function of the controller does to the update, described once. -/

namespace IntellVoice.Service
open Transition BoundedQueue Option
open ServiceManager (createEngineInner detachEngine hasEngine post push?_spec
  releaseUpdateEngine_controller releaseUpdateEngine_timer request?_spec setController
  stopUpdateTimer switchTask)
open Ledger

namespace Attempts

def tasks (w : Attempts) : List Task := w.base.queue.items.filter Task.isMessage

variable {w t u : Attempts}

structure Same (w t : Attempts) : Prop where
  ledger : t.toLedger = w.toLedger
  controller : t.base.controller = w.base.controller
  update : t.base.update = w.base.update
  timer : t.base.timer = w.base.timer
  tasks : t.tasks = w.tasks

lemma Same.refl (w : Attempts) : w.Same w := ⟨rfl, rfl, rfl, rfl, rfl⟩

lemma Same.of_frame {s : ServiceManager} (hframe : w.base.DetectionFrame s) :
    w.Same { w with base := s } where
  ledger := rfl
  controller := hframe.controller
  update := hframe.update
  timer := hframe.timer
  tasks := congrArg (fun q : BoundedQueue Task maxTaskNum => q.items.filter Task.isMessage)
    hframe.queue

inductive Detached (w t : Attempts) : Prop
  | absent (hbefore : w.base.update = none) (hupdate : t.base.update = none)
      (hengine : t.engine = w.engine) (htasks : t.tasks = w.tasks)
      (hmessages : t.messages = w.messages)
  | silent {e : UpdateEngine} (hbefore : w.base.update = some e) (hupdate : t.base.update = none)
      (hengine : t.engine = {}) (htasks : t.tasks = w.tasks) (hmessages : t.messages = w.messages)
  | posts {e : UpdateEngine} (hbefore : w.base.update = some e)
      (hresult : e.updateResult = .default)
      (hupdate : t.base.update = none) (hengine : t.engine = {})
      (htasks : t.tasks = w.tasks ++ [.updateComplete .default e.param])
      (hmessages : t.messages = w.messages ++ [w.engine])

inductive Installed (attempt : Option Nat) (param : String) (reEnroll : Bool)
    (w t : Attempts) : Prop
  | present {e : UpdateEngine} (hbefore : w.base.update = some e) (hupdate : t.base.update = some e)
      (hengine : t.engine = w.engine) (hengines : t.engines = w.engines)
  | made (hbefore : w.base.update = none)
      (hupdate : t.base.update = some { param := param, reEnroll := reEnroll })
      (hengine : t.engine = ⟨attempt, some w.engines.length⟩)
      (hengines : t.engines = w.engines ++ [⟨attempt, param, reEnroll⟩])

end Attempts

def TimerMgr.Sane (t : TimerMgr) : Prop := t.started = false → t.itemQueue = []

lemma TimerMgr.Sane.stop {t : TimerMgr} (h : t.Sane) : t.stop = {} := by
  unfold TimerMgr.stop
  split
  · rfl
  rename_i hnot
  obtain ⟨started, itemQueue⟩ := t
  obtain rfl : started = false := Bool.eq_false_iff.2 hnot
  rw [show itemQueue = [] from h rfl]

namespace Attempts

structure Dropped (called : Bool) (w t : Attempts) : Prop where
  controller : t.base.controller = { isForceReleased := w.base.controller.isForceReleased }
  timer : w.base.timer.Sane → t.base.timer = {}
  detached : w.Detached t
  accepted : t.accepted = w.accepted
  held : t.held = none
  engines : t.engines = w.engines
  callbacks : t.callbacks = if called then w.callbacks ++ w.held.toList else w.callbacks

structure Begun (strategy : UpdateStrategy) (reEnroll : Bool) (w t : Attempts) : Prop where
  controller : t.base.controller = { w.base.controller with
    retryTimesLimit := strategy.retryTimes
    updateStrategy := some strategy
    curPriority := strategy.priority
    isUpdating := true
    isForceReleased := false }
  itemQueue : t.base.timer.itemQueue = w.base.timer.itemQueue
  sane : w.base.timer.Sane → t.base.timer.Sane
  installed : Installed (some w.accepted.length) strategy.param reEnroll w t
  tasks : t.tasks = w.tasks
  messages : t.messages = w.messages
  accepted : t.accepted = w.accepted ++ [⟨strategy, reEnroll⟩]
  held : t.held = some w.accepted.length
  timerOwner : t.timerOwner = w.timerOwner
  callbacks : t.callbacks = w.callbacks

inductive Requested (strategy : UpdateStrategy) (reEnroll : Bool) (w : Attempts) :
    Bool × Attempts → Prop
  | refused {t} (hsame : w.Same t) : Requested strategy reEnroll w (false, t)
  | dropped {u t} (hupdating : w.base.controller.isUpdating)
      (hlt : w.base.controller.curPriority < strategy.priority) (hdropped : w.Dropped true u)
      (hsame : u.Same t) : Requested strategy reEnroll w (false, t)
  | begun {t} (hpriority : w.base.controller.isUpdating →
        w.base.controller.curPriority = strategy.priority) (hbegun : w.Begun strategy reEnroll t) :
      Requested strategy reEnroll w (true, t)
  | replaced {u t} (hupdating : w.base.controller.isUpdating)
      (hlt : w.base.controller.curPriority < strategy.priority) (hdropped : w.Dropped true u)
      (hbegun : u.Begun strategy reEnroll t) : Requested strategy reEnroll w (true, t)

structure Rearmed (result : UpdateState) (id : Nat) (w t : Attempts) : Prop where
  retryTimes : w.base.controller.retryTimes < w.base.controller.retryTimesLimit
  controller : t.base.controller = { w.base.controller with
    updateResult := result
    timerId := some id
    retryTimes := w.base.controller.retryTimes + 1 }
  itemQueue : t.base.timer.itemQueue =
    (w.base.controller.timerId.elim w.base.timer.itemQueue w.base.timer.itemQueue.erase) ++ [id]
  started : t.base.timer.started
  detached : w.Detached t
  accepted : t.accepted = w.accepted
  held : t.held = w.held
  engines : t.engines = w.engines
  timerOwner : t.timerOwner = fun i => if i = id then w.held else w.timerOwner i
  callbacks : t.callbacks = w.callbacks

inductive Completed (result : UpdateState) (param : String) (w : Attempts) : Bool × Attempts → Prop
  | ignored (hother : w.base.controller.isForceReleased ∨
      w.base.controller.updateStrategy.map UpdateStrategy.param ≠ some param) :
      Completed result param w (false, w)
  | retry {i t} (hforce : w.base.controller.isForceReleased = false)
      (hparam : w.base.controller.updateStrategy.map UpdateStrategy.param = some param)
      (hrearmed : w.Rearmed result i t) : Completed result param w (false, t)
  | ended {t} (hforce : w.base.controller.isForceReleased = false)
      (hparam : w.base.controller.updateStrategy.map UpdateStrategy.param = some param)
      (hdropped : w.Dropped true t) : Completed result param w (true, t)

structure Resumed (strategy : UpdateStrategy) (w t : Attempts) : Prop where
  controller : t.base.controller = { w.base.controller with timerId := none }
  timer : t.base.timer = w.base.timer
  installed : Installed w.held strategy.param false w t
  tasks : t.tasks = w.tasks
  messages : t.messages = w.messages
  accepted : t.accepted = w.accepted
  held : t.held = w.held
  timerOwner : t.timerOwner = w.timerOwner
  callbacks : t.callbacks = w.callbacks

inductive Retried (a : Answers) (w : Attempts) : Bool × Attempts → Prop
  | forced (hforce : w.base.controller.isForceReleased) : Retried a w (true, w)
  | again {strategy t} (hforce : w.base.controller.isForceReleased = false)
      (hstrategy : w.base.controller.updateStrategy = some strategy)
      (hresumed : w.Resumed strategy t) : Retried a w (true, t)
  | abandoned {t} (hforce : w.base.controller.isForceReleased = false)
      (hwhy : ∀ strategy, w.base.controller.updateStrategy = some strategy →
        strategy.updateRestrain a ∨ w.base.enroll ∨
          w.base.update = none ∧ a.updateCreated strategy.param = false)
      (hdropped : w.Dropped false t) : Retried a w (false, t)

variable {w t u : Attempts} {a : Answers} {s : ServiceManager} {strategy : UpdateStrategy}

lemma tasks_offer {task : Task} (hmessage : task.isMessage) (hroom : s.queue.isFull = false) :
    (s.post task).queue.items.filter Task.isMessage =
      s.queue.items.filter Task.isMessage ++ [task] := by
  have hlt : s.queue.items.length < maxTaskNum := by simpa [isFull] using hroom
  simp [post, offer, push?, hlt, hmessage]

lemma queue_offer_of_full (task : Task) (hfull : s.queue.isFull) :
    (s.post task).queue = s.queue := by
  have hnot : ¬ s.queue.items.length < maxTaskNum := by simpa [isFull] using hfull
  simp [post, offer, push?, hnot]

lemma detached_of_release (hupdate : s.update = none)
    (hqueue : s.queue = w.base.releaseUpdateEngine.queue) :
    w.Detached ⟨w.toLedger.detach w.base, s⟩ := by
  have htasks : (⟨w.toLedger.detach w.base, s⟩ : Attempts).tasks =
      w.base.releaseUpdateEngine.queue.items.filter Task.isMessage := by
    rw [tasks, hqueue]
  cases hbefore : w.base.update with
  | none =>
    have hledger : w.toLedger.detach w.base = w.toLedger := by simp [detach, hbefore]
    have hsame : w.base.releaseUpdateEngine = w.base := by
      simp [ServiceManager.releaseUpdateEngine, detachEngine, hbefore]
    refine .absent hbefore hupdate ?_ (htasks.trans (by rw [hsame]; rfl)) ?_
    all_goals rw [hledger]
  | some e =>
    -- a message that meets a full queue is lost, in the queue and in the ledger
    by_cases hposts : e.updateResult = .default ∧ w.base.queue.isFull = false
    · refine .posts hbefore hposts.1 hupdate ?_ (htasks.trans ?_) ?_
      · simp [detach, hbefore]
      · simp only [ServiceManager.releaseUpdateEngine, detachEngine, hbefore,
          hposts.1, if_true]
        exact tasks_offer rfl hposts.2
      · simp [detach, hbefore, hposts]
    refine .silent hbefore hupdate ?_ (htasks.trans ?_) ?_
    · simp [detach, hbefore]
    · have hqueue : w.base.releaseUpdateEngine.queue = w.base.queue := by
        simp only [ServiceManager.releaseUpdateEngine, detachEngine, hbefore]
        split
        · refine queue_offer_of_full _ ?_
          simpa using fun hroom => hposts ⟨‹_›, hroom⟩
        · rfl
      rw [hqueue]
      rfl
    · simp [detach, hbefore, hposts]

lemma detached_releaseUpdateEngine (w : Attempts) : w.Detached w.releaseUpdateEngine :=
  detached_of_release w.base.releaseUpdateEngine_update rfl

lemma Detached.congr {w' t' : Attempts} (h : w.Detached t)
    (hupdate : w'.base.update = w.base.update) (hengine : w'.engine = w.engine)
    (htasks : w'.tasks = w.tasks) (hmessages : w'.messages = w.messages)
    (hupdate' : t'.base.update = t.base.update) (hengine' : t'.engine = t.engine)
    (htasks' : t'.tasks = t.tasks) (hmessages' : t'.messages = t.messages) : w'.Detached t' := by
  cases h with
  | absent hbefore hnone he ht hm =>
    exact .absent (hupdate.trans hbefore) (hupdate'.trans hnone)
      (hengine'.trans (he.trans hengine.symm)) (htasks'.trans (ht.trans htasks.symm))
      (hmessages'.trans (hm.trans hmessages.symm))
  | silent hbefore hnone he ht hm =>
    exact .silent (hupdate.trans hbefore) (hupdate'.trans hnone) (hengine'.trans he)
      (htasks'.trans (ht.trans htasks.symm)) (hmessages'.trans (hm.trans hmessages.symm))
  | posts hbefore hresult hnone he ht hm =>
    refine .posts (hupdate.trans hbefore) hresult (hupdate'.trans hnone) (hengine'.trans he) ?_ ?_
    · rw [htasks', ht, htasks]
    · rw [hmessages', hm, hmessages, hengine]

lemma Same.dropped {called : Bool} (h : w.Same t) (hdropped : t.Dropped called u) :
    w.Dropped called u where
  controller := by rw [hdropped.controller, h.controller]
  timer hsane := hdropped.timer (h.timer ▸ hsane)
  detached := hdropped.detached.congr h.update.symm (by rw [h.ledger]) h.tasks.symm
    (by rw [h.ledger]) rfl rfl rfl rfl
  accepted := by rw [hdropped.accepted, h.ledger]
  held := hdropped.held
  engines := by rw [hdropped.engines, h.ledger]
  callbacks := by rw [hdropped.callbacks, h.ledger]

lemma onUpdateCompleteCallback_eq (w : Attempts) (result : Int) :
    ∃ log, w.onUpdateCompleteCallback result =
      { w with base := { w.base with log := log }, callbacks := w.callbacks ++ w.held.toList } := by
  refine ⟨(w.base.onUpdateCompleteCallback result).log, ?_⟩
  unfold onUpdateCompleteCallback
  rw [← ServiceManager.onUpdateCompleteCallback_eq]

lemma dropped_preempt (w : Attempts) : w.Dropped true w.preempt := by
  obtain ⟨log, hcalled⟩ := w.onUpdateCompleteCallback_eq UpdateState.concurrent.code
  unfold preempt
  have hdetached :=
    detached_releaseUpdateEngine (w.onUpdateCompleteCallback UpdateState.concurrent.code)
  rw [hcalled] at hdetached ⊢
  refine ⟨?_, ?_, ?_, accepted_detach .., rfl, engines_detach ..,
    callbacks_detach ..⟩
  · show ({ isForceReleased := (ServiceManager.releaseUpdateEngine _).controller.isForceReleased } :
      Controller) = _
    rw [releaseUpdateEngine_controller]
  · intro hsane
    show (ServiceManager.releaseUpdateEngine _).timer.stop = {}
    rw [releaseUpdateEngine_timer]
    exact hsane.stop
  · exact hdetached.congr rfl rfl rfl rfl rfl rfl rfl rfl

lemma dropped_abandonUpdate (w : Attempts) : w.Dropped false w.abandonUpdate := by
  unfold abandonUpdate
  have hdetached := detached_releaseUpdateEngine w.clearRetryState
  refine ⟨?_, ?_, ?_, accepted_detach .., held_detach .., engines_detach ..,
    callbacks_detach ..⟩
  · exact releaseUpdateEngine_controller _
  · intro hsane
    show (ServiceManager.releaseUpdateEngine _).timer.stop = {}
    rw [releaseUpdateEngine_timer]
    exact hsane.stop
  · exact hdetached.congr rfl rfl rfl rfl rfl rfl rfl rfl

lemma dropped_ended {v : Attempts} {timer : TimerMgr} {controller : Controller} (result : Int)
    (hv : v = { w with base := { w.base with timer := timer, controller := controller } })
    (hsane : w.base.timer.Sane → timer.Sane)
    (hforce : controller.isForceReleased = w.base.controller.isForceReleased) :
    w.Dropped true
      ((v.onUpdateCompleteCallback result).clearRetryState.stopTimerMgr).releaseUpdateEngine := by
  obtain ⟨log, hcalled⟩ := v.onUpdateCompleteCallback_eq result
  have hdetached := detached_releaseUpdateEngine
    (v.onUpdateCompleteCallback result).clearRetryState.stopTimerMgr
  rw [hcalled, hv] at hdetached ⊢
  refine ⟨?_, ?_, ?_, accepted_detach .., held_detach .., engines_detach ..,
    callbacks_detach ..⟩
  · refine (releaseUpdateEngine_controller _).trans ?_
    show ({ isForceReleased := controller.isForceReleased } : Controller) = _
    rw [hforce]
  · intro h
    refine (releaseUpdateEngine_timer _).trans ?_
    exact (hsane h).stop
  · exact hdetached.congr rfl rfl rfl rfl rfl rfl rfl rfl

lemma createUpdateEngine_cases (w : Attempts) (a : Answers) (attempt : Option Nat) (param : String)
    (reEnroll : Bool) :
    (∃ t, w.createUpdateEngine a attempt param reEnroll = (false, t) ∧ w.Same t ∧
      (w.base.enroll ∨ w.base.update = none ∧ a.updateCreated param = false)) ∨
    ∃ t, w.createUpdateEngine a attempt param reEnroll = (true, t) ∧
      Installed attempt param reEnroll w t ∧
      t = { w with base := t.base, engine := t.engine, engines := t.engines } ∧
      t.base.controller = w.base.controller ∧ t.base.timer = w.base.timer ∧ t.tasks = w.tasks := by
  -- the arbitration between engines is done once and for all in `createEngine_update`
  have hcreate : w.base.createUpdateEngine a param reEnroll = _ :=
    w.base.createEngine_update a param reEnroll
  unfold createUpdateEngine
  rw [hcreate]
  cases henroll : w.base.enroll with
  | true =>
    -- an enroll engine rejects the update engine
    refine .inl ⟨_, rfl, ?_, .inl rfl⟩
    cases hupdate : w.base.update <;>
    · simp only [if_true, hupdate]
      exact .refl w
  | false =>
    -- giving up the adapter only writes to the log
    obtain ⟨log, hlog⟩ : ∃ log, (if w.base.wakeup then w.base.emit .releaseAdapter else w.base) =
        { w.base with log := log } := by
      split <;> exact ⟨_, rfl⟩
    simp only [Bool.false_eq_true, if_false, hlog]
    cases hupdate : w.base.update with
    | some e =>
      refine .inr ⟨_, rfl, .present hupdate ?_ rfl rfl, rfl, ?_, ?_, ?_⟩ <;>
        simp [createEngineInner, hasEngine, tasks]
    | none =>
      simp only [createEngineInner, hasEngine, isSome_none,
        Bool.false_eq_true, if_false]
      cases hcreated : a.updateCreated param with
      | true => exact .inr ⟨_, rfl, .made hupdate rfl rfl rfl, rfl, rfl, rfl, rfl⟩
      | false =>
        exact .inl ⟨_, rfl, ⟨rfl, rfl, hupdate.symm ▸ rfl, rfl, rfl⟩, .inr ⟨trivial, rfl⟩⟩

lemma begun_accept {reEnroll : Bool}
    (hinstalled : Installed (some w.accepted.length) strategy.param reEnroll w t)
    (ht : t = { w with base := t.base, engine := t.engine, engines := t.engines })
    (hcontroller : t.base.controller = w.base.controller) (htimer : t.base.timer = w.base.timer)
    (htasks : t.tasks = w.tasks) : w.Begun strategy reEnroll (t.accept a strategy reEnroll) := by
  -- `Start` starts the thread at most; no timer is set
  obtain ⟨timer, hbase, hitems, hsane⟩ : ∃ timer : TimerMgr,
      (t.accept a strategy reEnroll).base = { t.base with
        timer := timer
        controller := { t.base.controller with
          retryTimesLimit := strategy.retryTimes
          updateStrategy := some strategy
          curPriority := strategy.priority
          isUpdating := true
          isForceReleased := false } } ∧
      timer.itemQueue = t.base.timer.itemQueue ∧ (t.base.timer.Sane → timer.Sane) := by
    by_cases hlt : t.base.controller.retryTimes < strategy.retryTimes
    · refine ⟨t.base.timer.start a.timerThread, ?_, ?_, fun h => ?_⟩
      · simp [accept, hlt, setController]
      · unfold TimerMgr.start
        split <;> rfl
      · unfold TimerMgr.start TimerMgr.Sane
        split
        · exact h
        · exact fun _ => h (Bool.eq_false_iff.2 ‹_›)
    · exact ⟨t.base.timer, by simp [accept, hlt, setController], rfl, id⟩
  have haccepted : t.accepted = w.accepted := by rw [ht]
  refine ⟨?_, ?_, ?_, ?_, ?_, ?_, ?_, ?_, ?_, ?_⟩
  · rw [hbase, hcontroller]
  · rw [hbase]
    exact hitems.trans (congrArg TimerMgr.itemQueue htimer)
  · rw [hbase]
    exact fun h => hsane (htimer ▸ h)
  · cases hinstalled with
    | present hbefore hupdate hengine hengines =>
      exact .present hbefore ((congrArg ServiceManager.update hbase).trans hupdate) hengine hengines
    | made hbefore hupdate hengine hengines =>
      exact .made hbefore ((congrArg ServiceManager.update hbase).trans hupdate) hengine hengines
  · rw [← htasks, tasks, hbase]
    rfl
  · show t.messages = w.messages
    rw [ht]
  · show t.accepted ++ _ = _
    rw [haccepted]
  · show some t.accepted.length = _
    rw [haccepted]
  · show t.timerOwner = w.timerOwner
    rw [ht]
  · show t.callbacks = w.callbacks
    rw [ht]

lemma createUpdateEngineUntilTime_of_arbitration (reEnroll : Bool)
    (hpass : strategy.updateRestrain a = false)
    (harbitration : w.updateArbitration strategy.priority = (true, u))
    (hu : u.accepted = w.accepted) :
    (∃ t, w.createUpdateEngineUntilTime a strategy reEnroll = (false, t) ∧ u.Same t) ∨
      ∃ t, w.createUpdateEngineUntilTime a strategy reEnroll = (true, t) ∧
        u.Begun strategy reEnroll t := by
  simp only [createUpdateEngineUntilTime, hpass, harbitration, Bool.false_eq_true, if_false,
    Bool.not_true, ← hu]
  rcases u.createUpdateEngine_cases a (some u.accepted.length) strategy.param reEnroll with
    ⟨t, ht, hsame, -⟩ | ⟨t, ht, hinstalled, heq, hcontroller, htimer, htasks⟩
  · exact .inl ⟨t, by simp [ht], hsame⟩
  · exact .inr ⟨_, by simp [ht], begun_accept (a := a) hinstalled heq hcontroller htimer htasks⟩

lemma createUpdateEngineUntilTime_requested (w : Attempts) (a : Answers) (strategy : UpdateStrategy)
    (reEnroll : Bool) :
    Requested strategy reEnroll w (w.createUpdateEngineUntilTime a strategy reEnroll) := by
  cases hpass : strategy.updateRestrain a with
  | true =>
    simp only [createUpdateEngineUntilTime, hpass, if_true]
    exact .refused (.refl w)
  | false =>
    -- no update runs, or one of the same priority, and nothing is dropped
    have hkept : (w.base.controller.isUpdating →
        w.base.controller.curPriority = strategy.priority) →
        Requested strategy reEnroll w (w.createUpdateEngineUntilTime a strategy reEnroll) := by
      intro hpriority
      have harbitration : w.updateArbitration strategy.priority = (true, w) := by
        unfold updateArbitration
        cases hupdating : w.base.controller.isUpdating with
        | false => rfl
        | true => simp [hpriority hupdating]
      rcases createUpdateEngineUntilTime_of_arbitration reEnroll hpass harbitration rfl with
        ⟨t, ht, hsame⟩ | ⟨t, ht, hbegun⟩
      · rw [ht]
        exact .refused hsame
      · rw [ht]
        exact .begun hpriority hbegun
    cases hupdating : w.base.controller.isUpdating with
    | false => exact hkept (by simp [hupdating])
    | true =>
      rcases Int.lt_trichotomy w.base.controller.curPriority strategy.priority with hlt | heq | hgt
      · have harbitration : w.updateArbitration strategy.priority = (true, w.preempt) := by
          have hnot : ¬ w.base.controller.curPriority > strategy.priority := by omega
          have hne : w.base.controller.curPriority ≠ strategy.priority := by omega
          simp [updateArbitration, hupdating, hnot, hne]
        have hdropped := dropped_preempt w
        rcases createUpdateEngineUntilTime_of_arbitration reEnroll hpass harbitration
          hdropped.accepted with ⟨t, ht, hsame⟩ | ⟨t, ht, hbegun⟩
        · rw [ht]
          exact .dropped hupdating hlt hdropped hsame
        · rw [ht]
          exact .replaced hupdating hlt hdropped hbegun
      · exact hkept fun _ => heq
      · have harbitration : w.updateArbitration strategy.priority = (false, w) := by
          simp [updateArbitration, hupdating, hgt]
        simp only [createUpdateEngineUntilTime, hpass, harbitration, Bool.false_eq_true, if_false,
          Bool.not_false, if_true]
        exact .refused (.refl w)

lemma stopUpdateTimer_eq (s : ServiceManager) (result : UpdateState) : ∃ timer : TimerMgr,
      (s.setController { s.controller with updateResult := result }).stopUpdateTimer =
        { s with
          timer := timer
          controller := { s.controller with updateResult := result, timerId := none } } ∧
      timer.started = s.timer.started ∧
      timer.itemQueue = s.controller.timerId.elim s.timer.itemQueue s.timer.itemQueue.erase := by
  cases hid : s.controller.timerId with
  | none =>
    exact ⟨s.timer, by simp [stopUpdateTimer, setController, hid], rfl, rfl⟩
  | some id =>
    exact ⟨s.timer.killTimer id,
      by simp [stopUpdateTimer, setController, hid], rfl, rfl⟩

lemma setTimer_cases (timer : TimerMgr) : timer.setTimer = (none, timer) ∨ ∃ id, timer.started ∧
        timer.setTimer = (some id, { timer with itemQueue := timer.itemQueue ++ [id] }) := by
  unfold TimerMgr.setTimer
  split
  · exact .inl rfl
  rename_i hstarted
  cases timer.allocId with
  | none => exact .inl rfl
  | some id => exact .inr ⟨id, by simpa using hstarted, rfl⟩

lemma finishUpdate_completed (w : Attempts) (a : Answers) (result : UpdateState) (param : String)
    (hforce : w.base.controller.isForceReleased = false)
    (hparam : w.base.controller.updateStrategy.map UpdateStrategy.param = some param) :
    Completed result param w (w.finishUpdate a result) := by
  obtain ⟨timer, hstopped, hstarted, hitems⟩ := stopUpdateTimer_eq w.base result
  have hsane : w.base.timer.Sane → timer.Sane := by
    intro h hnot
    have hnil := h (hstarted ▸ hnot)
    rw [hitems, hnil]
    cases w.base.controller.timerId <;> rfl
  unfold finishUpdate
  simp only [hstopped]
  generalize hv : ({ w with base := { w.base with
      timer := timer
      controller := { w.base.controller with updateResult := result, timerId := none } } } :
    Attempts) = v
  have hended : ∀ code : Int, Completed result param w (true, ((v.onUpdateCompleteCallback code
      ).clearRetryState.stopTimerMgr).releaseUpdateEngine) :=
    fun code => .ended hforce hparam (dropped_ended code hv.symm hsane rfl)
  split
  · rename_i hneed
    have hlt : w.base.controller.retryTimes < w.base.controller.retryTimesLimit := by
      simp only [ServiceManager.isNeedRetryUpdate, Bool.and_eq_true, decide_eq_true_eq] at hneed
      exact hneed.1.2
    rcases setTimer_cases timer with hnone | ⟨id, hrunning, hset⟩
    · -- a retry is wanted, but there is no timer to be had: the update ends
      have hstart : v.startUpdateTimer = (false, v) := by
        rw [← hv]
        simp [startUpdateTimer, ServiceManager.startUpdateTimer, hnone]
      simp only [hstart]
      exact hended _
    obtain ⟨u, hstart, hu⟩ : ∃ u, v.startUpdateTimer = (true, u) ∧ u = { w with
        timerOwner := fun i => if i = id then w.held else w.timerOwner i
        base := { w.base with
          timer := { timer with itemQueue := timer.itemQueue ++ [id] }
          controller := { w.base.controller with
            updateResult := result
            timerId := some id
            retryTimes := w.base.controller.retryTimes + 1 } } } := by
      refine ⟨_, ?_, rfl⟩
      rw [← hv]
      simp [startUpdateTimer, ServiceManager.startUpdateTimer, hset]
    simp only [hstart, if_true]
    -- the timer is set before the engine is released, so its last message comes after
    have hdetached := detached_releaseUpdateEngine u
    rw [hu] at hdetached ⊢
    refine .retry (i := id) hforce hparam ⟨hlt, ?_, ?_, ?_, ?_, accepted_detach ..,
      held_detach .., engines_detach .., Ledger.timerOwner_detach ..,
      callbacks_detach ..⟩
    · exact releaseUpdateEngine_controller _
    · refine (congrArg TimerMgr.itemQueue (releaseUpdateEngine_timer _)).trans ?_
      show timer.itemQueue ++ [id] = _
      rw [hitems]
    · exact (congrArg TimerMgr.started (releaseUpdateEngine_timer _)).trans hrunning
    · exact hdetached.congr rfl rfl rfl rfl rfl rfl rfl rfl
  · exact hended _

lemma updateCompleteProc_completed (w : Attempts) (a : Answers) (result : UpdateState)
    (param : String) : Completed result param w (w.updateCompleteProc a result param) := by
  unfold updateCompleteProc
  split
  · rename_i hforce
    exact .ignored (.inl hforce)
  rename_i hforce
  split
  · rename_i hparam
    exact .ignored (.inr hparam)
  · rename_i hparam
    exact finishUpdate_completed w a result param (Bool.eq_false_iff.2 hforce) (not_not.1 hparam)

lemma updateRetryProc_retried (w : Attempts) (a : Answers) : Retried a w (w.updateRetryProc a) := by
  unfold updateRetryProc
  split
  · rename_i hforce
    exact .forced hforce
  rename_i hforce
  have hforce : w.base.controller.isForceReleased = false := Bool.eq_false_iff.2 hforce
  cases hstrategy : w.base.controller.updateStrategy with
  | none => exact .abandoned hforce (by simp [hstrategy]) (dropped_abandonUpdate w)
  | some strategy =>
    dsimp only
    split
    · rename_i hrestrain
      refine .abandoned hforce (fun st hst => ?_) (dropped_abandonUpdate w)
      cases hstrategy.symm.trans hst
      exact .inl hrestrain
    rcases w.createUpdateEngine_cases a w.held strategy.param false with
      ⟨t, ht, hsame, hwhy⟩ | ⟨t, ht, hinstalled, heq, hcontroller, htimer, htasks⟩
    · simp only [ht, Bool.false_eq_true, if_false]
      refine .abandoned hforce (fun st hst => ?_) (hsame.dropped (dropped_abandonUpdate t))
      cases hstrategy.symm.trans hst
      exact .inr hwhy
    · simp only [ht, if_true]
      refine .again hforce hstrategy ⟨?_, htimer, ?_, htasks, ?_, ?_, ?_, ?_, ?_⟩
      · show ({ t.base.controller with timerId := none } : Controller) = _
        rw [hcontroller]
      · cases hinstalled with
        | present hbefore hupdate hengine hengines =>
          exact .present hbefore hupdate hengine hengines
        | made hbefore hupdate hengine hengines => exact .made hbefore hupdate hengine hengines
      all_goals rw [heq]

end Attempts

/-! ## What a task and a step can do -/

/-- The updates a task may ask for: a silence update that is refused gives way to the whisper
update only where one is configured and has failed. -/
def Task.requests (a : Answers) : Task → List Acceptance
  | .silenceUpdate => ⟨silenceUpdateStrategy, false⟩ ::
      if a.whisperVprConfig && a.whisperVprFailed then [⟨whisperUpdateStrategy, false⟩] else []
  | .whisperVprUpdate => [⟨whisperUpdateStrategy, false⟩]
  | .cloneUpdate wakeupInfo => [⟨cloneUpdateStrategy wakeupInfo, false⟩]
  | .createUpdateEngineUntilTime strategy reEnroll => [⟨strategy, reEnroll⟩]
  | _ => []

def Task.followUp (a : Answers) : Task → List Acceptance
  | .updateComplete _ param =>
    if a.whisperVprConfig && param != whisperVprUpdateParam then [⟨whisperUpdateStrategy, true⟩]
    else []
  | _ => []

namespace Attempts

structure Removed (w t : Attempts) : Prop where
  detached : w.Detached t
  controller : t.base.controller = w.base.controller
  timer : t.base.timer = w.base.timer
  accepted : t.accepted = w.accepted
  held : t.held = w.held
  engines : t.engines = w.engines
  timerOwner : t.timerOwner = w.timerOwner
  callbacks : t.callbacks = w.callbacks

structure Forced (w t : Attempts) : Prop where
  updating : w.base.controller.isUpdating
  controller : t.base.controller = { isForceReleased := true }
  timer : w.base.timer.Sane → t.base.timer = {}
  detached : w.Detached t
  accepted : t.accepted = w.accepted
  held : t.held = none
  engines : t.engines = w.engines
  callbacks : t.callbacks = w.callbacks

inductive Ran (a : Answers) (w : Attempts) : Task → Attempts → Prop
  | other {task t} (hmessage : task.isMessage = false) (hsame : w.Same t) : Ran a w task t
  | removed {task t} (hmessage : task.isMessage = false) (hremoved : w.Removed t) : Ran a w task t
  | requested {task q r} (hmessage : task.isMessage = false) (hin : q ∈ task.requests a)
      (hr : Requested q.strategy q.reEnroll w r) : Ran a w task r.2
  | whispered {u r} (hin : ⟨whisperUpdateStrategy, false⟩ ∈ Task.requests a .silenceUpdate)
      (hfirst : Requested silenceUpdateStrategy false w (false, u))
      (hr : Requested whisperUpdateStrategy false u r) : Ran a w .silenceUpdate r.2
  | completed {result param ended u t} (hu : Completed result param w (ended, u))
      (hsame : u.Same t) :
      Ran a w (.updateComplete result param) t
  | followed {result param u q r} (hu : Completed result param w (true, u))
      (hin : q ∈ Task.followUp a (.updateComplete result param))
      (hr : Requested q.strategy q.reEnroll u r) : Ran a w (.updateComplete result param) r.2
  | retried {again u t} (hu : Retried a w (again, u)) (hsame : u.Same t) : Ran a w .updateRetry t
  | forced {u t} (hforced : w.Forced u) (hsame : u.Same t) : Ran a w .clearUserData t

structure Taken (task : Task) (w t : Attempts) : Prop where
  head : w.base.queue.items.head? = some task
  ledger : t.toLedger = { w.toLedger with messages := t.messages }
  controller : t.base.controller = w.base.controller
  update : t.base.update = w.base.update
  enroll : t.base.enroll = w.base.enroll
  timer : t.base.timer = w.base.timer
  tasks : w.tasks = if task.isMessage then task :: t.tasks else t.tasks
  messages : t.messages = if task.isMessage then w.messages.tail else w.messages

structure Posted (task : Task) (source : Source) (w t : Attempts) : Prop where
  ledger : t.toLedger = { w.toLedger with messages := t.messages }
  controller : t.base.controller = w.base.controller
  queued : (t.tasks = w.tasks ∧ t.messages = w.messages) ∨
    (t.tasks = w.tasks ++ [task] ∧ t.messages = w.messages ++ [source])

inductive Stepped (w t : Attempts) : Event → Prop
  | other {e} (hsame : w.Same t) : Stepped w t e
  | executed {a arrivals task u} (htaken : w.Taken task u) (hran : u.Ran a task t) :
      Stepped w t (.execute a arrivals)
  | reported {success engine result} (hbefore : w.base.update = some engine)
      (hresult : result ≠ .default)
      (hupdate : t.base.update = some { engine with updateResult := result })
      (htimer : t.base.timer = w.base.timer)
      (hposted : w.Posted (.updateComplete result engine.param) w.engine t) :
      Stepped w t (.updateCommitComplete success)
  | due {i rest} (hitems : w.base.timer.itemQueue = i :: rest)
      (htimer : t.base.timer = { w.base.timer with itemQueue := rest })
      (hupdate : t.base.update = w.base.update)
      (hposted : w.Posted .updateRetry ⟨w.timerOwner i, none⟩ t) : Stepped w t .onTimerEvent

variable {w t u : Attempts} {a : Answers} {base : ServiceManager} {task : Task}

lemma tasks_append {others : List Task} (hqueue : base.queue.items = w.base.queue.items ++ others)
    (hothers : ∀ task ∈ others, task.isMessage = false) :
    ({ w with base } : Attempts).tasks = w.tasks := by
  have hnone : others.filter Task.isMessage = [] := by
    apply List.filter_eq_nil_iff.2
    intro task htask
    simp [hothers task htask]
  rw [tasks, hqueue, List.filter_append, hnone, List.append_nil]
  rfl

lemma same_of_push (hmessage : task.isMessage = false) (hpush : w.base.push? task = some base) :
    w.Same { w with base } := by
  obtain ⟨queue, hqueue, rfl⟩ := push?_spec hpush
  refine ⟨rfl, rfl, rfl, rfl, tasks_append (items_push? hqueue) ?_⟩
  simpa using hmessage

lemma same_releaseEngine {type : EngineType} (htype : type ≠ .update)
    (hrun : w.base.releaseEngine a type = some base) : w.Same { w with base } := by
  obtain ⟨hupdate, hcontroller, htimer, others, hqueue, hothers⟩ :=
    ServiceManager.releaseEngine_other htype hrun
  refine ⟨rfl, hcontroller, hupdate, htimer, tasks_append hqueue fun task htask => ?_⟩
  rw [hothers task htask]
  rfl

lemma removed_of_detach (hupdate : base.update = none)
    (hqueue : base.queue = w.base.releaseUpdateEngine.queue)
    (hcontroller : base.controller = w.base.controller) (htimer : base.timer = w.base.timer) :
    w.Removed ⟨w.toLedger.detach w.base, base⟩ where
  detached := detached_of_release hupdate hqueue
  controller := hcontroller
  timer := htimer
  accepted := accepted_detach ..
  held := held_detach ..
  engines := engines_detach ..
  timerOwner := Ledger.timerOwner_detach ..
  callbacks := callbacks_detach ..

lemma releaseUpdateEngine_queue {s s' : ServiceManager} (hupdate : s'.update = s.update)
    (hqueue : s'.queue = s.queue) : s'.releaseUpdateEngine.queue = s.releaseUpdateEngine.queue := by
  unfold ServiceManager.releaseUpdateEngine detachEngine
  rw [hupdate]
  cases s.update with
  | none => exact hqueue
  | some engine =>
    dsimp only
    split
    · exact congrArg (offer · _) hqueue
    · exact hqueue

lemma forced_forceRelease (hupdating : w.base.controller.isUpdating) : w.Forced w.forceRelease := by
  have hdropped := dropped_abandonUpdate w
  have hforce : w.forceRelease = { w.abandonUpdate with
      base := w.abandonUpdate.base.setController
        { w.abandonUpdate.base.controller with isForceReleased := true } } := by
    simp only [forceRelease, hupdating, Bool.not_true, Bool.false_eq_true, if_false, abandonUpdate]
  rw [hforce]
  refine ⟨hupdating, ?_, hdropped.timer, ?_, hdropped.accepted, hdropped.held, hdropped.engines,
    hdropped.callbacks⟩
  · show ({ w.abandonUpdate.base.controller with isForceReleased := true } : Controller) = _
    rw [hdropped.controller]
  · exact hdropped.detached.congr rfl rfl rfl rfl rfl rfl rfl rfl

lemma runTask_ran (hrun : w.runTask a task = some t) : w.Ran a task t := by
  cases task with
  | switchOn model needUpdateAdapter =>
    cases hrun
    exact .other rfl (.of_frame (w.base.switchOnProc_frame a model needUpdateAdapter))
  | switchOff model fromSwitch =>
    have hframe := w.base.switchOffProc_frame model
    cases fromSwitch <;> cases hrun
    · exact .other rfl (.of_frame hframe)
    · exact .other rfl ⟨rfl, hframe.controller, hframe.update, hframe.timer,
        (Same.of_frame hframe).tasks⟩
  | unloadIntellVoiceService =>
    cases hrun
    exact .other rfl (.of_frame w.base.unloadIntellVoiceService_frame)
  | onIdle =>
    cases hrun
    exact .other rfl ⟨rfl, rfl, rfl, rfl, rfl⟩
  | createEnrollEngine =>
    cases hrun
    obtain ⟨-, hupdate, hcontroller, htimer, -, -, -, hqueue⟩ := ServiceManager.createEngine_enroll
      ((w.base.emit (.stopDetection .voice)).emit (.stopDetection .proximal)) a
    refine .removed rfl (removed_of_detach hupdate (hqueue.trans ?_) hcontroller htimer)
    -- stopping the detection only writes to the log
    exact releaseUpdateEngine_queue rfl rfl
  | releaseEngine type =>
    by_cases htype : type = .update
    · subst htype
      have hmap : ((w.base.releaseEngine a .update).map fun base =>
          (⟨w.toLedger.detach w.base, base⟩ : Attempts)) = some t := hrun
      rw [w.base.releaseEngine_update a] at hmap
      cases hmap
      exact .removed rfl (removed_of_detach w.base.releaseUpdateEngine_update rfl
        w.base.releaseUpdateEngine_controller w.base.releaseUpdateEngine_timer)
    · obtain ⟨base, hbase, rfl⟩ : ∃ base, w.base.releaseEngine a type = some base ∧
          { w with base } = t := by
        cases type with
        | update => exact absurd rfl htype
        | _ => exact map_eq_some_iff.1 hrun
      exact .other rfl (same_releaseEngine htype hbase)
  | silenceUpdate =>
    have hfirst := w.createUpdateEngineUntilTime_requested a silenceUpdateStrategy false
    simp only [runTask, some.injEq] at hrun
    generalize w.createUpdateEngineUntilTime a silenceUpdateStrategy false = r at hfirst hrun
    obtain ⟨passed, u⟩ := r
    split at hrun <;> subst hrun
    · rename_i hwhisper
      simp only [Bool.and_eq_true, Bool.not_eq_true'] at hwhisper
      obtain rfl : passed = false := hwhisper.1.1
      exact .whispered (by simp [Task.requests, hwhisper.1.2, hwhisper.2]) hfirst
        (u.createUpdateEngineUntilTime_requested a whisperUpdateStrategy false)
    · exact .requested (q := ⟨silenceUpdateStrategy, false⟩) rfl (by simp [Task.requests]) hfirst
  | whisperVprUpdate =>
    cases hrun
    exact .requested (q := ⟨whisperUpdateStrategy, false⟩) rfl (by simp [Task.requests])
      (w.createUpdateEngineUntilTime_requested a whisperUpdateStrategy false)
  | cloneUpdate wakeupInfo =>
    cases hrun
    unfold cloneUpdate
    split
    · exact .other rfl (.refl w)
    split
    · exact .other rfl (.of_frame (w.base.implicitEnrollment_frame a))
    split
    · exact .other rfl (.refl w)
    · exact .requested (q := ⟨cloneUpdateStrategy wakeupInfo, false⟩) rfl
        (by simp [Task.requests]) (w.createUpdateEngineUntilTime_requested a _ false)
  | createUpdateEngineUntilTime strategy reEnroll =>
    cases hrun
    exact .requested (q := ⟨strategy, reEnroll⟩) rfl (by simp [Task.requests])
      (w.createUpdateEngineUntilTime_requested a strategy reEnroll)
  | updateComplete result param =>
    have hu := w.updateCompleteProc_completed a result param
    simp only [runTask] at hrun
    generalize w.updateCompleteProc a result param = r at hu hrun
    obtain ⟨ended, u⟩ := r
    split at hrun
    · rename_i hfollow
      rw [Bool.and_assoc, Bool.and_eq_true, Bool.and_eq_true] at hfollow
      obtain ⟨⟨rfl, -⟩, hconfig⟩ := hfollow
      cases hrun
      exact .followed (q := ⟨whisperUpdateStrategy, true⟩) hu (by simp [Task.followUp, hconfig])
        (u.createUpdateEngineUntilTime_requested a whisperUpdateStrategy true)
    cases hrun
    refine .completed hu ?_
    split
    · exact .of_frame (u.base.restoreDetection_frame a)
    · exact .refl u
  | updateRetry =>
    have hu := w.updateRetryProc_retried a
    simp only [runTask, some.injEq] at hrun
    generalize w.updateRetryProc a = r at hu hrun
    obtain ⟨again, u⟩ := r
    subst hrun
    refine .retried hu ?_
    split
    · exact .of_frame (u.base.restoreDetection_frame a)
    · exact .refl u
  | clearUserData =>
    cases hrun
    have hframe := w.forceRelease.base.unloadIntellVoiceService_frame
    cases hupdating : w.base.controller.isUpdating with
    | false =>
      have hforce : w.forceRelease = w := by simp [forceRelease, hupdating]
      rw [hforce] at hframe ⊢
      exact .other rfl (.of_frame hframe)
    | true => exact .forced (forced_forceRelease hupdating) (.of_frame hframe)

lemma isMessage_of_not_internal (h : task.isInternal = false) : task.isMessage = false := by
  cases task with
  | updateComplete | updateRetry => cases h
  | _ => rfl

lemma step_execute {arrivals : List Task} (hstep : w.step (.execute a arrivals) = some t) :
    ∃ task u, w.Taken task u ∧ u.runTask a task = some t := by
  obtain ⟨⟨task, popped⟩, hpop, hrest⟩ := bind_eq_some_iff.1 hstep
  obtain ⟨base, hrequests, hrest⟩ := bind_eq_some_iff.1 hrest
  obtain ⟨base', hversion, hrun⟩ := bind_eq_some_iff.1 hrest
  obtain ⟨queue, rfl, hitems, harrivals⟩ := ServiceManager.requests?_spec hrequests
  obtain ⟨-, hbase⟩ := ServiceManager.takeVersion_eq_some hversion
  generalize ServiceManager.versionAfter _ task = versionDeleted at hbase
  subst hbase
  have hbefore : w.base.queue.items = task :: popped.items := items_pop? hpop
  refine ⟨task, { w with
    base := { w.base with queue, versionDeleted }
    messages := if task.isMessage then w.messages.tail else w.messages },
    ⟨by rw [hbefore]; rfl, rfl, rfl, rfl, rfl, rfl, ?_, rfl⟩, hrun⟩
  have hlater : queue.items.filter Task.isMessage = popped.items.filter Task.isMessage := by
    have hnone : arrivals.filter Task.isMessage = [] := by
      apply List.filter_eq_nil_iff.2
      intro task htask
      simp [isMessage_of_not_internal (harrivals task htask)]
    rw [hitems, List.filter_append, hnone, List.append_nil]
  simp only [tasks, hbefore, hlater]
  exact List.filter_cons

lemma Taken.mem_queue {other : Task} (h : w.Taken task t) (hin : other ∈ t.tasks) :
    other ∈ w.base.queue.items := by
  have hbefore : other ∈ w.tasks := by
    rw [h.tasks]
    split
    · exact List.mem_cons_of_mem _ hin
    · exact hin
  exact (List.mem_filter.1 hbefore).1

lemma posted_post {source : Source} (hmessage : task.isMessage)
    (hqueue : base.queue = w.base.queue) (hcontroller : base.controller = w.base.controller) :
    w.Posted task source { w with
      base := base.post task
      messages := if w.base.queue.isFull then w.messages else w.messages ++ [source] } := by
  refine ⟨rfl, hcontroller, ?_⟩
  cases hfull : w.base.queue.isFull with
  | true =>
    refine .inl ⟨?_, rfl⟩
    rw [tasks, queue_offer_of_full task (hqueue ▸ hfull), hqueue]
    rfl
  | false =>
    refine .inr ⟨?_, rfl⟩
    rw [tasks, tasks_offer hmessage (hqueue ▸ hfull), hqueue]
    rfl

lemma step_stepped {e : Event} (hstep : w.step e = some t) : w.Stepped t e := by
  cases e with
  | request task =>
    obtain ⟨base, hbase, rfl⟩ := map_eq_some_iff.1 hstep
    obtain ⟨hinternal, hpush⟩ := request?_spec hbase
    exact .other (same_of_push (isMessage_of_not_internal hinternal) hpush)
  | setSwitch model status | onServiceActive =>
    cases hstep
    exact .other ⟨rfl, rfl, rfl, rfl, rfl⟩
  | observer pending =>
    obtain ⟨base, hbase, rfl⟩ := map_eq_some_iff.1 hstep
    -- the observer is struck off before its task is queued
    have hpushed : ∀ {task : Task}, task.isMessage = false →
        { w.base with pending := w.base.pending.erase pending }.push? task = some base →
        w.Same { w with base } := by
      intro task hmessage hpush
      have hsame := same_of_push (w := { w with
        base := { w.base with pending := w.base.pending.erase pending } }) hmessage hpush
      exact ⟨rfl, hsame.controller, hsame.update, hsame.timer, hsame.tasks⟩
    simp only [Service.step] at hbase
    split at hbase
    · cases pending with
      | onSwitchChange model =>
        refine .other (hpushed ?_ hbase)
        unfold switchTask
        split <;> rfl
      | unloadIntellVoiceService => exact .other (hpushed rfl hbase)
    · cases hbase
  | execute answers arrivals =>
    obtain ⟨task, u, htaken, hrun⟩ := step_execute hstep
    exact .executed htaken (runTask_ran hrun)
  | commitEnrollComplete type success =>
    obtain ⟨base, hbase, rfl⟩ := map_eq_some_iff.1 hstep
    simp only [Service.step] at hbase
    split at hbase
    · cases hbase
      exact .other ⟨rfl, rfl, rfl, rfl, rfl⟩
    · cases hbase
  | updateCommitComplete success =>
    obtain ⟨base, hbase, rfl⟩ := map_eq_some_iff.1 hstep
    obtain ⟨engine, hengine, rfl⟩ := map_eq_some_iff.1 hbase
    refine .reported hengine ?_ rfl rfl (posted_post rfl rfl rfl)
    split <;> decide
  | onTimerEvent =>
    cases hitems : w.base.timer.itemQueue with
    | nil => simp [step, hitems] at hstep
    | cons i rest =>
      simp only [step, hitems, Service.step, map_some, some.injEq] at hstep
      subst hstep
      exact .due hitems rfl rfl (posted_post rfl rfl rfl)

/-! ## The ledger and the controller agree -/

structure Faithful (w : Attempts) : Prop where
  held : ∀ k, w.held = some k → ∃ q, w.accepted[k]? = some q ∧
    w.base.controller.updateStrategy = some q.strategy ∧ w.base.controller.isUpdating ∧
      w.base.controller.isForceReleased = false
  idle : w.held = none → w.base.controller =
    { isForceReleased := w.base.controller.isForceReleased } ∧
    w.base.timer.itemQueue = [] ∧ w.base.update = none
  sane : w.base.timer.Sane
  absent : w.base.update = none → w.engine = {}
  present : ∀ e, w.base.update = some e →
    ∃ n record, w.engines[n]? = some record ∧ w.engine = ⟨record.attempt, some n⟩ ∧
      e.param = record.param ∧ e.reEnroll = record.reEnroll

lemma Detached.update_eq (h : w.Detached t) : t.base.update = none := by
  cases h <;> assumption

lemma Detached.engine_eq (h : w.Detached t) (habsent : w.base.update = none → w.engine = {}) :
    t.engine = {} := by
  cases h with
  | absent hbefore _ hengine => exact hengine.trans (habsent hbefore)
  | silent _ _ hengine | posts _ _ _ hengine => exact hengine

namespace Faithful

lemma of_eq (h : w.Faithful) (hledger : t.toLedger = { w.toLedger with messages := t.messages })
    (hcontroller : t.base.controller = w.base.controller) (hupdate : t.base.update = w.base.update)
    (htimer : t.base.timer = w.base.timer) : t.Faithful where
  held := by
    rw [hledger, hcontroller]
    exact h.held
  idle := by
    rw [hledger, hcontroller, htimer, hupdate]
    exact h.idle
  sane := by
    rw [htimer]
    exact h.sane
  absent := by
    rw [hledger, hupdate]
    exact h.absent
  present := by
    rw [hledger, hupdate]
    exact h.present

lemma same (h : w.Faithful) (hsame : w.Same t) : t.Faithful :=
  h.of_eq (by rw [hsame.ledger]) hsame.controller hsame.update hsame.timer

variable {reEnroll : Bool} {r : Bool × Attempts} {param : String} {task : Task}
  {strategy : UpdateStrategy}

section
variable (h : w.Faithful)
include h

lemma taken (htaken : w.Taken task t) : t.Faithful :=
  h.of_eq htaken.ledger htaken.controller htaken.update htaken.timer

lemma of_idle (hdetached : w.Detached t) (hheld : t.held = none)
    (hcontroller : t.base.controller = { isForceReleased := t.base.controller.isForceReleased })
    (htimer : t.base.timer = {}) : t.Faithful where
  held k hk := by simp [hheld] at hk
  idle _ := ⟨hcontroller, by rw [htimer], hdetached.update_eq⟩
  sane := by
    rw [htimer]
    exact fun _ => rfl
  absent _ := hdetached.engine_eq h.absent
  present e he := by simp [hdetached.update_eq] at he

lemma dropped {called : Bool} (hdropped : w.Dropped called t) : t.Faithful := by
  refine h.of_idle hdropped.detached hdropped.held ?_ (hdropped.timer h.sane)
  rw [hdropped.controller]

lemma installed {attempt : Option Nat} (hinstalled : Installed attempt param reEnroll w t) :
    ∀ e, t.base.update = some e → ∃ n record, t.engines[n]? = some record ∧
      t.engine = ⟨record.attempt, some n⟩ ∧ e.param = record.param ∧
        e.reEnroll = record.reEnroll := by
  intro e he
  cases hinstalled with
  | present hbefore hupdate hengine hengines =>
    rw [hengine, hengines]
    exact h.present e (hbefore.trans (hupdate.symm.trans he))
  | made hbefore hupdate hengine hengines =>
    cases hupdate.symm.trans he
    exact ⟨w.engines.length, ⟨attempt, param, reEnroll⟩, by simp [hengines], hengine, rfl, rfl⟩

lemma begun (hbegun : w.Begun strategy reEnroll t) : t.Faithful where
  held k hk := by
    obtain rfl : w.accepted.length = k := some.inj (hbegun.held.symm.trans hk)
    refine ⟨⟨strategy, reEnroll⟩, by simp [hbegun.accepted], ?_⟩
    rw [hbegun.controller]
    exact ⟨rfl, rfl, rfl⟩
  idle hnone := by simp [hbegun.held] at hnone
  sane := hbegun.sane h.sane
  absent hnone := by
    cases hbegun.installed with
    | present _ hupdate | made _ hupdate => simp [hupdate] at hnone
  present := h.installed hbegun.installed

lemma requested (hr : Requested strategy reEnroll w r) : r.2.Faithful := by
  cases hr with
  | refused hsame => exact h.same hsame
  | dropped _ _ hdropped hsame => exact (h.dropped hdropped).same hsame
  | begun _ hbegun => exact h.begun hbegun
  | replaced _ _ hdropped hbegun => exact (h.dropped hdropped).begun hbegun

lemma held_eq_none {priority : Int}
    (hequal : w.base.controller.isUpdating → w.base.controller.curPriority = priority)
    (hne : w.base.controller.isUpdating → w.base.controller.curPriority ≠ priority) :
    w.held = none := by
  cases hheld : w.held with
  | none => rfl
  | some k =>
    obtain ⟨_, _, _, hupdating, _⟩ := h.held k hheld
    exact absurd (hequal hupdating) (hne hupdating)

lemma exists_held (hstrategy : w.base.controller.updateStrategy = some strategy) :
    ∃ k q, w.held = some k ∧ w.accepted[k]? = some q ∧ q.strategy = strategy := by
  cases hheld : w.held with
  | none =>
    rw [(h.idle hheld).1] at hstrategy
    cases hstrategy
  | some k =>
    obtain ⟨q, hq, hsame, _⟩ := h.held k hheld
    exact ⟨k, q, rfl, hq, some.inj (hsame.symm.trans hstrategy)⟩

lemma kept (hdetached : w.Detached t) (hheld : t.held = w.held) (hsome : w.held.isSome)
    (haccepted : t.accepted = w.accepted)
    (hstrategy : t.base.controller.updateStrategy = w.base.controller.updateStrategy)
    (hupdating : t.base.controller.isUpdating = w.base.controller.isUpdating)
    (hforce : t.base.controller.isForceReleased = w.base.controller.isForceReleased)
    (hsane : t.base.timer.Sane) : t.Faithful where
  held := by
    rw [hheld, haccepted, hstrategy, hupdating, hforce]
    exact h.held
  idle hnone := by simp [← hheld, hnone] at hsome
  sane := hsane
  absent _ := hdetached.engine_eq h.absent
  present e he := by simp [hdetached.update_eq] at he

lemma removed (hremoved : w.Removed t) : t.Faithful where
  held := by
    rw [hremoved.held, hremoved.accepted, hremoved.controller]
    exact h.held
  idle := by
    rw [hremoved.held, hremoved.controller, hremoved.timer]
    exact fun hnone => ⟨(h.idle hnone).1, (h.idle hnone).2.1, hremoved.detached.update_eq⟩
  sane := by
    rw [hremoved.timer]
    exact h.sane
  absent _ := hremoved.detached.engine_eq h.absent
  present e he := by simp [hremoved.detached.update_eq] at he

lemma completed {result : UpdateState} (hr : Completed result param w r) : r.2.Faithful := by
  cases hr with
  | ignored => exact h
  | retry _ hparam hrearmed =>
    obtain ⟨strategy, hstrategy, -⟩ := map_eq_some_iff.1 hparam
    obtain ⟨k, _, hk, _⟩ := h.exists_held hstrategy
    have hsome : w.held.isSome := by
      rw [hk]
      rfl
    refine h.kept hrearmed.detached hrearmed.held hsome hrearmed.accepted ?_ ?_ ?_ ?_
    · rw [hrearmed.controller]
    · rw [hrearmed.controller]
    · rw [hrearmed.controller]
    · intro hnot
      simp [hrearmed.started] at hnot
  | ended _ _ hdropped => exact h.dropped hdropped

lemma retried (hr : Retried a w r) : r.2.Faithful := by
  cases hr with
  | forced => exact h
  | again _ hstrategy hresumed =>
    obtain ⟨k, _, hk, _⟩ := h.exists_held hstrategy
    refine ⟨?_, ?_, ?_, ?_, h.installed hresumed.installed⟩
    · rw [hresumed.held, hresumed.accepted, hresumed.controller]
      exact h.held
    · intro hnone
      cases hk.symm.trans (hresumed.held.symm.trans hnone)
    · rw [hresumed.timer]
      exact h.sane
    · intro hnone
      cases hresumed.installed with
      | present _ hupdate | made _ hupdate => simp [hupdate] at hnone
  | abandoned _ _ hdropped => exact h.dropped hdropped

lemma forced (hforced : w.Forced t) : t.Faithful := by
  refine h.of_idle hforced.detached hforced.held ?_ (hforced.timer h.sane)
  rw [hforced.controller]

lemma ran (hran : w.Ran a task t) : t.Faithful := by
  cases hran with
  | other _ hsame => exact h.same hsame
  | removed _ hremoved => exact h.removed hremoved
  | requested _ _ hr => exact h.requested hr
  | whispered _ hfirst hr => exact (h.requested hfirst).requested hr
  | completed hu hsame => exact (h.completed hu).same hsame
  | followed hu _ hr => exact (h.completed hu).requested hr
  | retried hu hsame => exact (h.retried hu).same hsame
  | forced hforced hsame => exact (h.forced hforced).same hsame

lemma step {e : Event} (hstep : w.step e = some t) : t.Faithful := by
  cases step_stepped hstep with
  | other hsame => exact h.same hsame
  | executed htaken hran => exact (h.taken htaken).ran hran
  | reported hbefore _ hupdate htimer hposted =>
    refine ⟨?_, ?_, ?_, ?_, ?_⟩
    · rw [hposted.ledger, hposted.controller]
      exact h.held
    · -- an engine that reports belongs to an update
      rw [hposted.ledger]
      intro hnone
      simp [(h.idle hnone).2.2] at hbefore
    · rw [htimer]
      exact h.sane
    · simp [hupdate]
    · have hpresent := h.present _ hbefore
      rw [hposted.ledger, hupdate]
      intro e he
      cases he
      exact hpresent
  | due hitems htimer hupdate hposted =>
    refine ⟨?_, ?_, ?_, ?_, ?_⟩
    · rw [hposted.ledger, hposted.controller]
      exact h.held
    · -- a timer that is due was set for an update
      rw [hposted.ledger]
      intro hnone
      simp [(h.idle hnone).2.1] at hitems
    · rw [htimer]
      intro hstopped
      simp [h.sane hstopped] at hitems
    · rw [hposted.ledger, hupdate]
      exact h.absent
    · rw [hposted.ledger, hupdate]
      exact h.present

end

lemma initial (switchStatus : WakeupModel → Bool) : Faithful { base := .initial switchStatus } where
  held k hk := by cases hk
  idle _ := ⟨rfl, rfl, rfl⟩
  sane _ := rfl
  absent _ := rfl
  present e he := by cases he

end Faithful

end Attempts

end IntellVoice.Service
