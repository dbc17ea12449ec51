import IntellVoice.Service.Engines

/-! `UpdateEngineController`: one update at a time, by priority, with retries. -/

namespace IntellVoice.Service

namespace TimerMgr

def start (thread : Bool) (t : TimerMgr) : TimerMgr :=
  if t.started then t else { t with started := thread }

def stop (t : TimerMgr) : TimerMgr := if t.started then {} else t

def allocId (t : TimerMgr) : Option Nat :=
  (List.range maxTimerNum).find? fun id => !t.itemQueue.contains id

def setTimer (t : TimerMgr) : Option Nat × TimerMgr :=
  if !t.started then (none, t)
  else
    match t.allocId with
    | none => (none, t)
    | some id => (some id, { t with itemQueue := t.itemQueue ++ [id] })

def killTimer (id : Nat) (t : TimerMgr) : TimerMgr :=
  { t with itemQueue := t.itemQueue.erase id }

end TimerMgr

namespace ServiceManager
variable (s : ServiceManager)

def setController (c : Controller) : ServiceManager := { s with controller := c }

def releaseUpdateEngine : ServiceManager := s.detachEngine .update

def stopTimerMgr : ServiceManager := { s with timer := s.timer.stop }

def clearRetryState : ServiceManager :=
  s.setController { isForceReleased := s.controller.isForceReleased }

def onUpdateCompleteCallback (result : Int) : ServiceManager :=
  match s.controller.updateStrategy with
  | none => s
  | some strategy => s.emit (.onUpdateCompleteCallback strategy.param result)

def createUpdateEngine (a : Answers) (param : String) (reEnroll : Bool) : Bool × ServiceManager :=
  s.createEngine a .update param reEnroll

def updateArbitration (priority : Int) : Bool × ServiceManager :=
  if !s.controller.isUpdating then (true, s)
  else if s.controller.curPriority > priority then (false, s)
  else if s.controller.curPriority = priority then (true, s)
  else
    (true, ((s.onUpdateCompleteCallback UpdateState.concurrent.code).releaseUpdateEngine
      ).clearRetryState.stopTimerMgr)

def createUpdateEngineUntilTime (a : Answers) (strategy : UpdateStrategy) (reEnroll : Bool) :
    Bool × ServiceManager :=
  if strategy.updateRestrain a then (false, s)
  else
    let r := s.updateArbitration strategy.priority
    if !r.1 then (false, r.2)
    else
      let r := r.2.createUpdateEngine a strategy.param reEnroll
      if !r.1 then (false, r.2)
      else
        let s := r.2
        let s := if s.controller.retryTimes < strategy.retryTimes
          then { s with timer := s.timer.start a.timerThread } else s
        (true, s.setController { s.controller with
          retryTimesLimit := strategy.retryTimes
          updateStrategy := some strategy
          curPriority := strategy.priority
          isUpdating := true
          isForceReleased := false })

def startUpdateTimer : Bool × ServiceManager :=
  if s.controller.timerId.isSome then (true, s)
  else
    let r := s.timer.setTimer
    match r.1 with
    | none => (false, { s with timer := r.2 })
    | some id =>
      (true, { s with
        timer := r.2
        controller := { s.controller with
          timerId := some id
          retryTimes := s.controller.retryTimes + 1 } })

def stopUpdateTimer : ServiceManager :=
  match s.controller.timerId with
  | none => s
  | some id =>
    { s with timer := s.timer.killTimer id, controller := { s.controller with timerId := none } }

def isNeedRetryUpdate (a : Answers) : Bool :=
  s.controller.updateResult != .completeSuccess &&
    decide (s.controller.retryTimes < s.controller.retryTimesLimit) &&
    match s.controller.updateStrategy with
    | none => false
    | some strategy => !strategy.updateRestrain a

def finishUpdate (a : Answers) (result : UpdateState) : Bool × ServiceManager :=
  let s := (s.setController { s.controller with updateResult := result }).stopUpdateTimer
  let r := if s.isNeedRetryUpdate a then s.startUpdateTimer else (false, s)
  if r.1 then (false, r.2.releaseUpdateEngine)
  else
    (true, ((r.2.onUpdateCompleteCallback (if result = .completeSuccess then 0 else 1)
      ).clearRetryState.stopTimerMgr).releaseUpdateEngine)

def updateCompleteProc (a : Answers) (result : UpdateState) (param : String) :
    Bool × ServiceManager :=
  if s.controller.isForceReleased then (false, s)
  else if s.controller.updateStrategy.map UpdateStrategy.param ≠ some param then (false, s)
  else s.finishUpdate a result

def abandonUpdate : ServiceManager := s.clearRetryState.releaseUpdateEngine.stopTimerMgr

def updateRetryProc (a : Answers) : Bool × ServiceManager :=
  if s.controller.isForceReleased then (true, s)
  else
    match s.controller.updateStrategy with
    | none => (false, s.abandonUpdate)
    | some strategy =>
      if strategy.updateRestrain a then (false, s.abandonUpdate)
      else
        let r := s.createUpdateEngine a strategy.param false
        if r.1 then (true, r.2.setController { r.2.controller with timerId := none })
        else (false, r.2.abandonUpdate)

def forceRelease : ServiceManager :=
  if !s.controller.isUpdating then s
  else
    let s := s.clearRetryState.releaseUpdateEngine.stopTimerMgr
    s.setController { s.controller with isForceReleased := true }

def isNeedUpdateComplete (a : Answers) (result : UpdateState) (param : String) :
    Bool × ServiceManager :=
  let r := s.updateCompleteProc a result param
  (r.1 && !r.2.isEngineExist .enroll, r.2)

def isNeedUpdateRetry (a : Answers) : Bool × ServiceManager :=
  let r := s.updateRetryProc a
  (!r.1 && !r.2.isEngineExist .enroll, r.2)

end ServiceManager
end IntellVoice.Service
