import IntellVoice.Service.Progress

/-! The controller knows engine, timer and messages by the parameter only. -/

namespace IntellVoice.Service
open Transition Option

structure Acceptance where
  strategy : UpdateStrategy
  reEnroll : Bool

structure EngineRecord where
  attempt : Option Nat
  param : String
  reEnroll : Bool

structure Source where
  attempt : Option Nat := none
  engine : Option Nat := none
deriving DecidableEq

/-- What the service does not record: the accepted updates and whose each engine is. -/
structure Ledger where
  accepted : List Acceptance := []
  held : Option Nat := none
  engine : Source := {}
  engines : List EngineRecord := []
  timerOwner : Nat → Option Nat := fun _ => none
  messages : List Source := []
  callbacks : List Nat := []

def Ledger.detach (l : Ledger) (s : ServiceManager) : Ledger :=
  match s.update with
  | none => l
  | some engine =>
    { l with
      engine := {}
      messages := if engine.updateResult = .default ∧ s.queue.isFull = false
        then l.messages ++ [l.engine] else l.messages }

namespace Ledger
variable (l : Ledger) (s : ServiceManager)

@[simp] lemma accepted_detach : (l.detach s).accepted = l.accepted := by
  unfold detach
  split <;> rfl

@[simp] lemma held_detach : (l.detach s).held = l.held := by
  unfold detach
  split <;> rfl

@[simp] lemma engines_detach : (l.detach s).engines = l.engines := by
  unfold detach
  split <;> rfl

@[simp] lemma timerOwner_detach : (l.detach s).timerOwner = l.timerOwner := by
  unfold detach
  split <;> rfl

@[simp] lemma callbacks_detach : (l.detach s).callbacks = l.callbacks := by
  unfold detach
  split <;> rfl

end Ledger

structure Attempts extends Ledger where
  base : ServiceManager

namespace Attempts
variable (w : Attempts)

def releaseUpdateEngine : Attempts := ⟨w.toLedger.detach w.base, w.base.releaseUpdateEngine⟩

def stopTimerMgr : Attempts := { w with base := w.base.stopTimerMgr }

def clearRetryState : Attempts := { w with base := w.base.clearRetryState, held := none }

def onUpdateCompleteCallback (result : Int) : Attempts :=
  { w with
    base := w.base.onUpdateCompleteCallback result
    callbacks := w.callbacks ++ w.held.toList }

def createUpdateEngine (a : Answers) (attempt : Option Nat) (param : String) (reEnroll : Bool) :
    Bool × Attempts :=
  let r := w.base.createUpdateEngine a param reEnroll
  (r.1,
    match w.base.update, r.2.update with
    | none, some engine =>
      { w with
        base := r.2
        engine := ⟨attempt, some w.engines.length⟩
        engines := w.engines ++ [⟨attempt, engine.param, engine.reEnroll⟩] }
    | _, _ => { w with base := r.2 })

def preempt : Attempts :=
  ((w.onUpdateCompleteCallback UpdateState.concurrent.code).releaseUpdateEngine
    ).clearRetryState.stopTimerMgr

def updateArbitration (priority : Int) : Bool × Attempts :=
  if !w.base.controller.isUpdating then (true, w)
  else if w.base.controller.curPriority > priority then (false, w)
  else if w.base.controller.curPriority = priority then (true, w)
  else (true, w.preempt)

def accept (a : Answers) (strategy : UpdateStrategy) (reEnroll : Bool) : Attempts :=
  let s := w.base
  let s := if s.controller.retryTimes < strategy.retryTimes
    then { s with timer := s.timer.start a.timerThread } else s
  { w with
    base := s.setController { s.controller with
      retryTimesLimit := strategy.retryTimes
      updateStrategy := some strategy
      curPriority := strategy.priority
      isUpdating := true
      isForceReleased := false }
    accepted := w.accepted ++ [⟨strategy, reEnroll⟩]
    held := some w.accepted.length }

def createUpdateEngineUntilTime (a : Answers) (strategy : UpdateStrategy) (reEnroll : Bool) :
    Bool × Attempts :=
  if strategy.updateRestrain a then (false, w)
  else
    let r := w.updateArbitration strategy.priority
    if !r.1 then (false, r.2)
    else
      let r := r.2.createUpdateEngine a (some w.accepted.length) strategy.param reEnroll
      if !r.1 then (false, r.2) else (true, r.2.accept a strategy reEnroll)

def startUpdateTimer : Bool × Attempts :=
  let r := w.base.startUpdateTimer
  (r.1,
    match w.base.controller.timerId, r.2.controller.timerId with
    | none, some id =>
      { w with
        base := r.2
        timerOwner := fun i => if i = id then w.held else w.timerOwner i }
    | _, _ => { w with base := r.2 })

def finishUpdate (a : Answers) (result : UpdateState) : Bool × Attempts :=
  let w := { w with
    base := (w.base.setController
      { w.base.controller with updateResult := result }).stopUpdateTimer }
  let r := if w.base.isNeedRetryUpdate a then w.startUpdateTimer else (false, w)
  if r.1 then (false, r.2.releaseUpdateEngine)
  else
    (true, ((r.2.onUpdateCompleteCallback (if result = .completeSuccess then 0 else 1)
      ).clearRetryState.stopTimerMgr).releaseUpdateEngine)

def updateCompleteProc (a : Answers) (result : UpdateState) (param : String) : Bool × Attempts :=
  if w.base.controller.isForceReleased then (false, w)
  else if w.base.controller.updateStrategy.map UpdateStrategy.param ≠ some param then (false, w)
  else w.finishUpdate a result

def abandonUpdate : Attempts := w.clearRetryState.releaseUpdateEngine.stopTimerMgr

def updateRetryProc (a : Answers) : Bool × Attempts :=
  if w.base.controller.isForceReleased then (true, w)
  else
    match w.base.controller.updateStrategy with
    | none => (false, w.abandonUpdate)
    | some strategy =>
      if strategy.updateRestrain a then (false, w.abandonUpdate)
      else
        let r := w.createUpdateEngine a w.held strategy.param false
        if r.1 then
          (true, { r.2 with
            base := r.2.base.setController { r.2.base.controller with timerId := none } })
        else (false, r.2.abandonUpdate)

def forceRelease : Attempts :=
  if !w.base.controller.isUpdating then w
  else
    let w := w.clearRetryState.releaseUpdateEngine.stopTimerMgr
    { w with base := w.base.setController { w.base.controller with isForceReleased := true } }

def whisperVprUpdate (a : Answers) (reEnroll : Bool) : Bool × Attempts :=
  w.createUpdateEngineUntilTime a whisperUpdateStrategy reEnroll

def cloneUpdate (a : Answers) (wakeupInfo : String) : Attempts :=
  if w.base.serviceUnloading then w
  else if a.isImplicitEnroll wakeupInfo then { w with base := w.base.implicitEnrollment a }
  else if wakeupInfo.isEmpty then w
  else (w.createUpdateEngineUntilTime a (cloneUpdateStrategy wakeupInfo) false).2

def restoreDetection (a : Answers) : Attempts := { w with base := w.base.restoreDetection a }

def runTask (a : Answers) (task : Task) : Option Attempts :=
  match task with
  -- an enroll engine takes the place of the update engine
  | .createEnrollEngine | .releaseEngine .update =>
    (w.base.runTask a task).map fun base => ⟨w.toLedger.detach w.base, base⟩
  | .silenceUpdate =>
    let r := w.createUpdateEngineUntilTime a silenceUpdateStrategy false
    some (if !r.1 && a.whisperVprConfig && a.whisperVprFailed
      then (r.2.whisperVprUpdate a false).2 else r.2)
  | .whisperVprUpdate => some (w.whisperVprUpdate a false).2
  | .cloneUpdate wakeupInfo => some (w.cloneUpdate a wakeupInfo)
  | .createUpdateEngineUntilTime strategy reEnroll =>
    some (w.createUpdateEngineUntilTime a strategy reEnroll).2
  | .updateComplete result param =>
    let r := w.updateCompleteProc a result param
    -- `IsNeedUpdateComplete`
    let need := r.1 && !r.2.base.isEngineExist .enroll
    if need && a.whisperVprConfig && param != whisperVprUpdateParam then
      some (r.2.whisperVprUpdate a true).2
    else some (if need then r.2.restoreDetection a else r.2)
  | .updateRetry =>
    let r := w.updateRetryProc a
    -- `IsNeedUpdateRetry`
    some (if !r.1 && !r.2.base.isEngineExist .enroll then r.2.restoreDetection a else r.2)
  | .clearUserData =>
    some { w.forceRelease with base := w.forceRelease.base.unloadIntellVoiceService }
  -- the other tasks have nothing to do with the update
  | _ => (w.base.runTask a task).map fun base => { w with base }

def step (w : Attempts) : Event → Option Attempts
  | .execute answers arrivals =>
    w.base.queue.pop?.bind fun (task, queue) =>
      ({ w.base with queue := queue }.requests? arrivals).bind fun base =>
        (base.takeVersion answers task).bind fun base =>
          let messages := if task.isMessage then w.messages.tail else w.messages
          { w with base, messages }.runTask answers task
  | .updateCommitComplete success =>
    (Service.step w.base (.updateCommitComplete success)).map fun base =>
      { w with base, messages := if w.base.queue.isFull then w.messages
        else w.messages ++ [w.engine] }
  | .onTimerEvent =>
    match w.base.timer.itemQueue with
    | [] => none
    | id :: _ =>
      (Service.step w.base .onTimerEvent).map fun base =>
        { w with
          base
          messages := if w.base.queue.isFull then w.messages
            else w.messages ++ [⟨w.timerOwner id, none⟩] }
  | e => (Service.step w.base e).map fun base => { w with base }

variable {w} {a : Answers}

def erase (r : Bool × Attempts) : Bool × ServiceManager := (r.1, r.2.base)

end Attempts
end IntellVoice.Service
