import IntellVoice.Service.Update

/-! `IntellVoiceServiceManager`: a queue of tasks that one thread runs. -/

namespace IntellVoice.Service

namespace ServiceManager
variable (s : ServiceManager)

def startDetection (model : WakeupModel) : ServiceManager :=
  if s.enrollOrUpdateExist then s
  else if !s.switchStatus model then s
  else s.emit (.startDetection model)

def createDetector (model : WakeupModel) : ServiceManager :=
  { s.emit (.createDetector model) with
    detectors := fun m => if m = model then true else s.detectors m }

def releaseTriggerDetector (model : WakeupModel) : ServiceManager :=
  { s.emit (.releaseTriggerDetector model) with
    detectors := fun m => if m = model then false else s.detectors m }

def createAndStartServiceObject (a : Answers) (model : WakeupModel) (needResetAdapter : Bool) :
    ServiceManager :=
  let s := s.emit (.createAndStartServiceObject model)
  if model == .proximal && !a.whisperModel then s.emit (.startAbility "no_whisper")
  else if !a.modelExist model then s
  else if !s.switchStatus model then s
  else
    let s := if needResetAdapter then s.createOrResetWakeupEngine a
      else (s.createEngine a .wakeup "" false).2
    (s.createDetector model).startDetection model

def switchOnProc (a : Answers) (model : WakeupModel) (needUpdateAdapter : Bool) :
    ServiceManager :=
  if s.enrollOrUpdateExist then s
  else if !s.switchStatus model then s
  else s.createAndStartServiceObject a model needUpdateAdapter

def switchOffProc (model : WakeupModel) : ServiceManager :=
  if s.enrollOrUpdateExist then s
  else if s.switchStatus model then s
  else s.releaseTriggerDetector model

def isNeedToUnloadService : Bool :=
  !s.enrollOrUpdateExist && !(s.switchStatus .voice || s.switchStatus .proximal)

def unloadIntellVoiceService : ServiceManager :=
  if !s.isNeedToUnloadService then s
  else { s.emit .unloadSystemAbility with serviceUnloading := true }

def restoreDetection (a : Answers) : ServiceManager :=
  ((s.switchOnProc a .voice true).switchOnProc a .proximal true).unloadIntellVoiceService

def releaseEngine (a : Answers) (type : EngineType) : Option ServiceManager :=
  let s := s.detachEngine type
  if type ≠ .enroll ∧ type ≠ .implicitEnroll then some s
  else if s.enrollResult type then
    if a.whisperVprConfig then s.push? .whisperVprUpdate
    else
      some (((s.switchOnProc a .voice true).switchOnProc a .proximal true).switchOffProc .proximal)
  else
    let s := (s.switchOnProc a .voice true).switchOffProc .voice
    let s := (s.switchOnProc a .proximal true).switchOffProc .proximal
    some s.unloadIntellVoiceService

def whisperVprUpdate (a : Answers) (reEnroll : Bool) : Bool × ServiceManager :=
  s.createUpdateEngineUntilTime a whisperUpdateStrategy reEnroll

def implicitEnrollment (a : Answers) : ServiceManager :=
  (s.createEngine a .implicitEnroll "" false).2

def cloneUpdate (a : Answers) (wakeupInfo : String) : ServiceManager :=
  if s.serviceUnloading then s
  else if a.isImplicitEnroll wakeupInfo then s.implicitEnrollment a
  else if wakeupInfo.isEmpty then s
  else (s.createUpdateEngineUntilTime a (cloneUpdateStrategy wakeupInfo) false).2

def runTask (a : Answers) : Task → Option ServiceManager
  | .switchOn model needUpdateAdapter => some (s.switchOnProc a model needUpdateAdapter)
  | .switchOff model fromSwitch =>
    let s := s.switchOffProc model
    some (if fromSwitch then { s with pending := s.pending ++ [.unloadIntellVoiceService] } else s)
  | .unloadIntellVoiceService => some s.unloadIntellVoiceService
  | .onIdle => some { s with serviceUnloading := s.isNeedToUnloadService }
  | .createEnrollEngine =>
    some (((s.emit (.stopDetection .voice)).emit (.stopDetection .proximal)).createEngine a
      .enroll "" false).2
  | .releaseEngine type => s.releaseEngine a type
  | .silenceUpdate =>
    let r := s.createUpdateEngineUntilTime a silenceUpdateStrategy false
    some (if !r.1 && a.whisperVprConfig && a.whisperVprFailed
      then (r.2.whisperVprUpdate a false).2 else r.2)
  | .whisperVprUpdate => some (s.whisperVprUpdate a false).2
  | .cloneUpdate wakeupInfo => some (s.cloneUpdate a wakeupInfo)
  | .createUpdateEngineUntilTime strategy reEnroll =>
    some (s.createUpdateEngineUntilTime a strategy reEnroll).2
  | .updateComplete result param =>
    let r := s.isNeedUpdateComplete a result param
    if r.1 && a.whisperVprConfig && param != whisperVprUpdateParam then
      some (r.2.whisperVprUpdate a true).2
    else some (if r.1 then r.2.restoreDetection a else r.2)
  | .updateRetry =>
    let r := s.isNeedUpdateRetry a
    some (if r.1 then r.2.restoreDetection a else r.2)
  | .clearUserData => some s.forceRelease.unloadIntellVoiceService

/-- Whether `KEY_WAKEUP_VESRION` is deleted once the task is done. -/
def versionAfter : Task → Bool
  | .clearUserData => true
  -- the message of an update that was force-released
  | .updateComplete _ _ => s.versionDeleted || s.controller.isForceReleased
  -- an engine whose enrolment succeeded saves the version when it is detached
  | .releaseEngine .enroll => s.versionDeleted && !(s.enroll && s.enrollResult .enroll)
  | _ => s.versionDeleted

/-- Without a saved version nothing is found saved and no update of the version is due. -/
def takeVersion (a : Answers) (task : Task) : Option ServiceManager :=
  if s.versionDeleted && (a.versionSaved || a.versionUpdate) then none
  else some { s with versionDeleted := s.versionAfter task }

end ServiceManager

inductive Event where
  | request (task : Task)
  | setSwitch (model : WakeupModel) (status : Bool)
  | observer (pending : Pending)
  | execute (answers : Answers) (arrivals : List Task)
  | commitEnrollComplete (type : EngineType) (success : Bool)
  | updateCommitComplete (success : Bool)
  | onTimerEvent
  | onServiceActive

def Task.isInternal : Task → Bool
  | .updateComplete _ _ => true
  | .updateRetry => true
  | .whisperVprUpdate => true
  | .switchOff _ _ => true
  | _ => false

def ServiceManager.switchTask (s : ServiceManager) (model : WakeupModel) : Task :=
  if s.switchStatus model then .switchOn model false else .switchOff model true

def ServiceManager.request? (s : ServiceManager) (task : Task) : Option ServiceManager :=
  if task.isInternal then none else s.push? task

def ServiceManager.requests? : ServiceManager → List Task → Option ServiceManager
  | s, [] => some s
  | s, task :: rest => (s.request? task).bind fun s => s.requests? rest

def step (s : ServiceManager) : Event → Option ServiceManager
  | .request task => s.request? task
  | .setSwitch model status =>
    some { s with
      switchStatus := fun m => if m = model then status else s.switchStatus m
      pending := s.pending ++ [.onSwitchChange model] }
  | .observer pending =>
    if pending ∈ s.pending then
      match pending with
      | .onSwitchChange model =>
        { s with pending := s.pending.erase pending }.push? (s.switchTask model)
      | .unloadIntellVoiceService =>
        { s with pending := s.pending.erase pending }.push? .unloadIntellVoiceService
    else none
  | .execute answers arrivals =>
    s.queue.pop?.bind fun (task, queue) =>
      ({ s with queue := queue }.requests? arrivals).bind fun s =>
        (s.takeVersion answers task).bind fun s => s.runTask answers task
  | .commitEnrollComplete type success =>
    if type = .enroll ∧ s.enroll ∨ type = .implicitEnroll ∧ s.implicitEnroll then
      -- an implicit enrolment saves the version now, an enrolment when its engine is detached
      let saved := type = .implicitEnroll ∧ success
      some { s.setEnrollResult type success with
        versionDeleted := s.versionDeleted && !decide saved }
    else none
  | .updateCommitComplete success =>
    s.update.map fun engine =>
      let result := if success then UpdateState.completeSuccess else .completeFail
      { s with
        update := some { engine with updateResult := result }
        versionDeleted := s.versionDeleted && !success }.post
        (.updateComplete result engine.param)
  | .onTimerEvent =>
    match s.timer.itemQueue with
    | [] => none
    | _ :: rest => some ({ s with timer := { s.timer with itemQueue := rest } }.post .updateRetry)
  | .onServiceActive => some { s with serviceUnloading := false }

end IntellVoice.Service
