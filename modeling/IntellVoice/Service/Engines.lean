import IntellVoice.Library.BoundedQueue

/-! The service manager's engines and the arbitration between them. -/

namespace IntellVoice.Service

inductive EngineType where
  | enroll
  | wakeup
  | update
  | implicitEnroll
deriving DecidableEq

inductive WakeupModel where
  | voice
  | proximal
deriving DecidableEq

inductive UpdateState where
  | default
  | completeSuccess
  | completeFail
  | concurrent
deriving DecidableEq

def UpdateState.code : UpdateState → Int
  | .default => -1
  | .completeSuccess => 0
  | .completeFail => 1
  | .concurrent => 2

structure UpdateEngine where
  param : String
  reEnroll : Bool := false
  updateResult : UpdateState := .default

inductive Restraint where
  | never
  | versionSaved
  | versionCurrent
  | other (name : String)
deriving DecidableEq

structure UpdateStrategy where
  param : String
  priority : Int
  retryTimes : Int
  restraint : Restraint
deriving DecidableEq

def cloneUpdateStrategy (param : String) : UpdateStrategy :=
  { param := param, priority := 2, retryTimes := 0, restraint := .versionSaved }

def silenceUpdateStrategy : UpdateStrategy :=
  { param := "", priority := 3, retryTimes := 5, restraint := .versionCurrent }

def whisperVprUpdateParam : String := "WhisperVprUpdate"

def whisperUpdateStrategy : UpdateStrategy :=
  { param := whisperVprUpdateParam, priority := 4, retryTimes := 5, restraint := .never }

structure Answers where
  enrollCreated : Bool := true
  wakeupCreated : Bool := true
  implicitEnrollCreated : Bool := true
  updateCreated : String → Bool := fun _ => true
  versionSaved : Bool := false
  versionUpdate : Bool := true
  otherRestraint : String → Bool := fun _ => false
  timerThread : Bool := true
  whisperVprConfig : Bool := false
  whisperVprFailed : Bool := false
  whisperModel : Bool := true
  isImplicitEnroll : String → Bool := fun _ => false
  modelExist : WakeupModel → Bool := fun _ => true

def UpdateStrategy.updateRestrain (a : Answers) (strategy : UpdateStrategy) : Bool :=
  match strategy.restraint with
  | .never => false
  | .versionSaved => a.versionSaved
  | .versionCurrent => !a.versionUpdate
  | .other name => a.otherRestraint name

inductive Task where
  | switchOn (model : WakeupModel) (needUpdateAdapter : Bool)
  | switchOff (model : WakeupModel) (fromSwitch : Bool)
  | unloadIntellVoiceService
  | onIdle
  | createEnrollEngine
  | releaseEngine (type : EngineType)
  | silenceUpdate
  | whisperVprUpdate
  | cloneUpdate (wakeupInfo : String)
  | createUpdateEngineUntilTime (strategy : UpdateStrategy) (reEnroll : Bool)
  | updateComplete (result : UpdateState) (param : String)
  | updateRetry
  | clearUserData
deriving DecidableEq

inductive Effect where
  | stopDetection (model : WakeupModel)
  | startDetection (model : WakeupModel)
  | createAndStartServiceObject (model : WakeupModel)
  | createDetector (model : WakeupModel)
  | releaseTriggerDetector (model : WakeupModel)
  | stopEngine (type : EngineType)
  | releaseAdapter
  | resetAdapter
  | onUpdateCompleteCallback (param : String) (result : Int)
  | startAbility (name : String)
  | unloadSystemAbility
deriving DecidableEq

structure Controller where
  isUpdating : Bool := false
  timerId : Option Nat := none
  retryTimes : Int := 0
  retryTimesLimit : Int := 0
  updateResult : UpdateState := .default
  updateStrategy : Option UpdateStrategy := none
  curPriority : Int := 0
  isForceReleased : Bool := false

structure TimerMgr where
  started : Bool := false
  itemQueue : List Nat := []

def maxTaskNum : Nat := 2048
def maxTimerNum : Nat := 10

inductive Pending where
  | onSwitchChange (model : WakeupModel)
  | unloadIntellVoiceService
deriving DecidableEq

/-- The engines, detectors, update controller and task queue of the service. -/
structure ServiceManager where
  enroll : Bool := false
  wakeup : Bool := false
  update : Option UpdateEngine := none
  implicitEnroll : Bool := false
  enrollResult : EngineType → Bool := fun _ => false
  controller : Controller := {}
  timer : TimerMgr := {}
  switchStatus : WakeupModel → Bool := fun _ => false
  detectors : WakeupModel → Bool := fun _ => false
  serviceUnloading : Bool := false
  -- `KEY_WAKEUP_VESRION` was deleted and no version has been saved since
  versionDeleted : Bool := false
  pending : List Pending := []
  queue : BoundedQueue Task maxTaskNum := ∅
  log : List Effect := []

namespace ServiceManager
variable (s : ServiceManager)

def emit (e : Effect) : ServiceManager := { s with log := s.log ++ [e] }

def post (t : Task) : ServiceManager := { s with queue := s.queue.offer t }

def push? (t : Task) : Option ServiceManager := (s.queue.push? t).map fun q => { s with queue := q }

def hasEngine : EngineType → Bool
  | .enroll => s.enroll
  | .wakeup => s.wakeup
  | .update => s.update.isSome
  | .implicitEnroll => s.implicitEnroll

def isEngineExist (type : EngineType) : Bool :=
  s.hasEngine type || (type == .update && s.controller.isUpdating)

def enrollOrUpdateExist : Bool := [EngineType.enroll, .update].any s.isEngineExist

def setEnrollResult (type : EngineType) (result : Bool) : ServiceManager :=
  { s with enrollResult := fun t => if t = type then result else s.enrollResult t }

def detachEngine : EngineType → ServiceManager
  | .enroll => { s with enroll := false }
  | .wakeup => { s with wakeup := false }
  | .implicitEnroll => { s with implicitEnroll := false }
  | .update =>
    match s.update with
    | none => s
    | some engine =>
      let s := if engine.updateResult = .default
        then s.post (.updateComplete .default engine.param) else s
      { s with update := none }

inductive EngineRelation where
  | preemption
  | replacement
  | concurrency
  | rejection
deriving DecidableEq

def engineRelationTbl : EngineType → List (EngineType × EngineRelation)
  | .enroll => [(.wakeup, .preemption), (.update, .replacement)]
  | .wakeup => [(.enroll, .concurrency)]
  | .update => [(.enroll, .rejection)]
  | .implicitEnroll => []

def judgeRejection (type : EngineType) : Bool :=
  (engineRelationTbl type).any fun r => r.2 == .rejection && s.hasEngine r.1

def handlePreemption (type : EngineType) : ServiceManager :=
  (engineRelationTbl type).foldl (fun s r =>
    if r.2 == .preemption && s.hasEngine r.1 then s.emit (.stopEngine r.1) else s) s

def handleReplace (type : EngineType) : ServiceManager :=
  (engineRelationTbl type).foldl (fun s r =>
    if r.2 == .replacement && s.hasEngine r.1 then s.detachEngine r.1 else s) s

def createEngineInner (a : Answers) (type : EngineType) (param : String) (reEnroll : Bool) :
    Bool × ServiceManager :=
  if s.hasEngine type then (true, s)
  else
    let s := s.setEnrollResult type false
    match type with
    | .enroll => (a.enrollCreated, { s with enroll := a.enrollCreated })
    | .wakeup => (a.wakeupCreated, { s with wakeup := a.wakeupCreated })
    | .update =>
      if a.updateCreated param then
        (true, { s with update := some { param := param, reEnroll := reEnroll } })
      else (false, s)
    | .implicitEnroll =>
      (a.implicitEnrollCreated, { s with implicitEnroll := a.implicitEnrollCreated })

def createEngine (a : Answers) (type : EngineType) (param : String) (reEnroll : Bool) :
    Bool × ServiceManager :=
  if s.judgeRejection type then (false, s)
  else
    let s := (s.handlePreemption type).handleReplace type
    let s := if type ≠ .wakeup ∧ type ≠ .implicitEnroll ∧ s.wakeup then s.emit .releaseAdapter
      else s
    s.createEngineInner a type param reEnroll

def createOrResetWakeupEngine (a : Answers) : ServiceManager :=
  if s.wakeup then s.emit .resetAdapter else (s.createEngineInner a .wakeup "" false).2

end ServiceManager
end IntellVoice.Service
