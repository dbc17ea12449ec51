import IntellVoice.Library.Loop
import IntellVoice.Trigger.Capture
import IntellVoice.Trigger.Recognition

/-! `TriggerHelper` with its models, its flags and its connection. -/

namespace IntellVoice.Trigger
open Loop
variable {M : Type*}

/-- `TriggerHelper`: its flags, its models and what it asked of the connector. -/
structure Helper (M : Type*) where
  env : Env := {}
  modelDataMap : OrderedMap Int TriggerModelData := ∅
  io : Io M

namespace Helper

def find (h : Helper M) (uuid : Int) : Option TriggerModelData := h.modelDataMap.find? uuid

def setEnv (h : Helper M) (env : Env) : Helper M := { h with env := env }

def onCell {β : Type*} (uuid : Int) (absent : β) (f : Cell M → β × Cell M) (h : Helper M) :
    β × Helper M :=
  match h.find uuid with
  | none => (absent, h)
  | some d =>
    let r := f ⟨d, h.io⟩
    (r.1, { h with modelDataMap := h.modelDataMap.set uuid r.2.data, io := r.2.io })

def startContext (p : Platform) (h : Helper M) : StartContext where
  windowManager := p.build.windowManager
  onlyFirstStage := p.build.onlyFirstStage
  isFoldable := h.env.isFoldable
  folded := h.env.curFoldStatus = .folded
  firstUuid := h.modelDataMap.entries.head?.map fun e => e.2.uuid
  readFile := p.readFile
  country := p.country

def conflict (p : Platform) (h : Helper M) : Bool := isConflictSceneActive p.build h.env

def forModels (f : Int → Helper M → Bool × Helper M) (h : Helper M) : Helper M :=
  visitUntil f h.modelDataMap.keys h

@[simp] lemma setEnv_env (h : Helper M) (env : Env) : (h.setEnv env).env = env := rfl
@[simp] lemma setEnv_io (h : Helper M) (env : Env) : (h.setEnv env).io = h.io := rfl
@[simp] lemma setEnv_find (h : Helper M) (env : Env) (k : Int) :
    (h.setEnv env).find k = h.find k := rfl

variable {h : Helper M} {k uuid : Int} {d : TriggerModelData}

lemma onCell_none {β : Type*} (hnone : h.find uuid = none) (absent : β) (f : Cell M → β × Cell M) :
    h.onCell uuid absent f = (absent, h) := by
  simp [onCell, hnone]

lemma onCell_some {β : Type*} (hd : h.find uuid = some d) (absent : β) (f : Cell M → β × Cell M) :
    h.onCell uuid absent f = ((f ⟨d, h.io⟩).1,
      { h with modelDataMap := h.modelDataMap.set uuid (f ⟨d, h.io⟩).2.data,
               io := (f ⟨d, h.io⟩).2.io }) := by
  simp [onCell, hd]

@[simp] lemma onCell_env {β : Type*} (uuid : Int) (absent : β) (f : Cell M → β × Cell M)
    (h : Helper M) : (h.onCell uuid absent f).2.env = h.env := by
  unfold onCell
  split <;> rfl

lemma find_onCell_ne {β : Type*} (hne : k ≠ uuid) (absent : β) (f : Cell M → β × Cell M)
    (h : Helper M) : (h.onCell uuid absent f).2.find k = h.find k := by
  unfold onCell
  split
  · rfl
  · exact OrderedMap.find?_set_ne _ _ hne

lemma find_onCell_self {β : Type*} (hd : h.find uuid = some d) (absent : β)
    (f : Cell M → β × Cell M) :
    (h.onCell uuid absent f).2.find uuid = some (f ⟨d, h.io⟩).2.data := by
  rw [onCell_some hd]
  exact OrderedMap.find?_set_self _ _ _

lemma io_onCell {β : Type*} (hd : h.find uuid = some d) (absent : β) (f : Cell M → β × Cell M) :
    (h.onCell uuid absent f).2.io = (f ⟨d, h.io⟩).2.io := by
  rw [onCell_some hd]

def acceptRequest (mod : ConnectorModule M) (model : GenericTriggerModel)
    (callback : Option Callback) (c : Cell M) : Bool × Cell M :=
  let r := initRecognition mod (!c.data.sameModel model) c
  if r.1 ≠ 0 then (false, r.2)
  else (true,
    { r.2 with data := ((r.2.data.setModel model).setCallback callback).setRequested true })

def prepareAndStart (mod : ConnectorModule M) (ctx : StartContext) (c : Cell M) : Int × Cell M :=
  let r := prepareForRecognition mod c
  if r.1 ≠ 0 then r else startRecognition mod ctx r.2

def createTriggerModelData (uuid : Int) (h : Helper M) : Helper M :=
  { h with modelDataMap := h.modelDataMap.insertNew uuid { uuid := uuid } }

lemma find_createTriggerModelData_ne (hne : k ≠ uuid) (h : Helper M) :
    (h.createTriggerModelData uuid).find k = h.find k := by
  unfold createTriggerModelData OrderedMap.insertNew
  split
  · rfl
  · exact OrderedMap.find?_set_ne _ _ hne

lemma find_createTriggerModelData (hd : (h.createTriggerModelData uuid).find k = some d) :
    h.find k = some d ∨ k = uuid ∧ d = { uuid := uuid } := by
  by_cases hk : k = uuid
  · subst hk
    unfold createTriggerModelData OrderedMap.insertNew at hd
    split at hd
    · exact .inl hd
    · rw [find, OrderedMap.find?_set_self] at hd
      exact .inr ⟨rfl, (Option.some.inj hd).symm⟩
  · rw [find_createTriggerModelData_ne hk] at hd
    exact .inl hd

def startGenericRecognition (p : Platform) (mod : ConnectorModule M) (uuid : Int)
    (model : GenericTriggerModel) (callback : Option Callback) (h : Helper M) : Int × Helper M :=
  let r := (h.createTriggerModelData uuid).onCell uuid false (acceptRequest mod model callback)
  if !r.1 then (-1, r.2)
  else if r.2.conflict p then (0, r.2)
  else r.2.onCell uuid (-1) (prepareAndStart mod (r.2.startContext p))

def stopRequested (mod : ConnectorModule M) (c : Cell M) : Int × Cell M :=
  let r := stopRecognition mod { c with data := c.data.setRequested false }
  if r.1 ≠ 0 then r else (r.1, { r.2 with data := r.2.data.clearCallback })

def stopGenericRecognition (mod : ConnectorModule M) (uuid : Int) (h : Helper M) :
    Int × Helper M :=
  h.onCell uuid (-1) (stopRequested mod)

def stopAndUnload (mod : ConnectorModule M) (c : Cell M) : Unit × Cell M :=
  ((), (unloadModel mod (stopRecognition mod c).2).2)

def unloadGenericTriggerModel (mod : ConnectorModule M) (uuid : Int) (h : Helper M) :
    Helper M :=
  match h.find uuid with
  | none => h
  | some d =>
    if d.state = .notLoaded then h
    else
      let h := (h.onCell uuid () (stopAndUnload mod)).2
      { h with modelDataMap := h.modelDataMap.erase uuid }

def setParameter (mod : ConnectorModule M) (key value : String) (h : Helper M) : Helper M :=
  { h with io := (h.io.setParameterForInputPipe mod key value).2 }

def recognized (modelHandle : Int) (h : Helper M) : Option (Int × TriggerModelData) :=
  h.modelDataMap.entries.find? fun e => e.2.modelHandle == modelHandle

def reportDetection (modelHandle : Int) (d : TriggerModelData) (io : Io M) : Io M :=
  match d.callback with
  | none => io
  | some cb => io.emit (.onGenericTriggerDetected d.uuid cb modelHandle)

def onRecognition (modelHandle : Int) (h : Helper M) : Helper M :=
  match h.recognized modelHandle with
  | none => h
  | some (k, d) =>
    { h with
      modelDataMap := h.modelDataMap.set k (d.setState .loaded)
      io := reportDetection modelHandle d h.io }

def updateModel (p : Platform) (mod : ConnectorModule M) (uuid : Int) (h : Helper M) :
    Bool × Helper M :=
  h.onCell uuid true
    (updateRecognitionState mod (h.startContext p) (h.conflict p) h.env.systemHibernate)

def onUpdateAllRecognitionState (p : Platform) (mod : ConnectorModule M) (h : Helper M) :
    Helper M :=
  h.forModels (updateModel p mod)

def concurrencyOpenKey (env : Env) : String :=
  if env.mExtensionConcurrency then
    if env.whitelistWhisperEnable then "start_withwhisper" else "start_nowhisper"
  else "start"

def startUnlessStarted (mod : ConnectorModule M) (ctx : StartContext) (c : Cell M) :
    Bool × Cell M :=
  (true, if c.data.state ≠ .started then (startRecognition mod ctx c).2 else c)

def startLoaded (p : Platform) (mod : ConnectorModule M) (modelData : Option Int)
    (h : Helper M) : Helper M :=
  match modelData with
  | none => h
  | some uuid => (h.onCell uuid true (startUnlessStarted mod (h.startContext p))).2

def executeStateTransition (p : Platform) (mod : ConnectorModule M)
    (oldState newState : CaptureState) (modelData : Option Int) (h : Helper M) : Helper M :=
  match methodTable oldState newState with
  | .sameState =>
    if h.env.mExtensionConcurrency then
      h.setParameter mod "concurrent_capture"
        (if h.env.whitelistWhisperEnable then "enablewhisper" else "disablewhisper")
    else h
  | .doConcurrentCloseSource => h.setParameter mod "concurrent_capture" "stop"
  | .doConcurrentOpenSource =>
    h.setParameter mod "concurrent_capture" (concurrencyOpenKey h.env)
  | .doNoConcurrentStopSource => h.onUpdateAllRecognitionState p mod
  | .doNoConcurrentOpenSource => h.onUpdateAllRecognitionState p mod
  | .doConcurrentStopAndNoConcurrentOpenSource =>
    (h.setParameter mod "concurrent_capture" "stop").onUpdateAllRecognitionState p mod
  | .doNoConcurrentStopAndConcurrentOpenSource =>
    (h.startLoaded p mod modelData).setParameter mod "concurrent_capture"
      (concurrencyOpenKey h.env)

def firstProc (mod : ConnectorModule M) (h : Helper M) : Helper M :=
  if h.env.mFirstProc then
    (h.setParameter mod "concurrent_capture" "stop").setEnv { h.env with mFirstProc := false }
  else h

def sameClassification (env : Env) (c : Classification) : Bool :=
  c.isConcurrent == env.audioConcurrentCapture && c.isSourceRunning == env.audioCaptureActive &&
    (!env.mExtensionConcurrency || c.isWhitelistWhisperEnable == env.whitelistWhisperEnable)

def storeClassification (c : Classification) (env : Env) : Env :=
  { env with
    audioConcurrentCapture := c.isConcurrent
    audioCaptureActive := c.isSourceRunning
    whitelistWhisperEnable := c.isWhitelistWhisperEnable }

def executeForModels (p : Platform) (mod : ConnectorModule M) (oldState newState : CaptureState)
    (h : Helper M) : Helper M :=
  if h.modelDataMap.isEmpty then h.executeStateTransition p mod oldState newState none
  else h.forModels fun uuid h =>
    (true, h.executeStateTransition p mod oldState newState (some uuid))

def onInputPipeChange (p : Platform) (mod : ConnectorModule M) (kv : StoredLists)
    (pipes : InputPipes) (h : Helper M) : Option (Helper M) :=
  (classify p kv pipes (h.firstProc mod).env).map fun (c, env) =>
    let h := (h.firstProc mod).setEnv env
    if sameClassification env c then h
    else (h.setEnv (storeClassification c env)).executeForModels p mod env.captureState
      c.captureState

def updateEnv (p : Platform) (mod : ConnectorModule M) (env : Env) (h : Helper M) : Helper M :=
  (h.setEnv env).onUpdateAllRecognitionState p mod

def callStateInRange (p : Platform) (callState : Int) : Bool :=
  !(callState < p.callStatusUnknown || callState > p.callStatusIdle)

def callStateActive (p : Platform) (callState : Int) : Bool :=
  callState != p.callStatusDisconnected && callState != p.callStatusIdle &&
    callState != p.callStatusUnknown

def onCallStateUpdated (p : Platform) (mod : ConnectorModule M) (kv : StoredLists)
    (pipes : InputPipes) (callState : Int) (h : Helper M) : Option (Helper M) :=
  if !callStateInRange p callState then some h
  else if h.env.callActive = callStateActive p callState then some h
  else
    let h := h.updateEnv p mod { h.env with callActive := callStateActive p callState }
    if !p.build.recordWakeupConcurrent then some h
    else if !h.env.audioInputPipeCallback then some h
    else if h.env.mVoipConcurrency then some h
    else h.onInputPipeChange p mod kv pipes

def reevaluateForVoip (p : Platform) (mod : ConnectorModule M) (kv : StoredLists)
    (pipes : InputPipes) (h : Helper M) : Option (Helper M) :=
  if p.build.recordWakeupConcurrent && h.env.mVoipConcurrency then
    if h.env.audioInputPipeCallback then h.onInputPipeChange p mod kv pipes else none
  else some h

def onAudioSceneChange (p : Platform) (mod : ConnectorModule M) (kv : StoredLists)
    (pipes : InputPipes) (audioScene : AudioScene) (h : Helper M) : Option (Helper M) :=
  if h.env.audioScene = audioScene then some h
  else (h.updateEnv p mod { h.env with audioScene := audioScene }).reevaluateForVoip p mod kv pipes

def onHibernateStateUpdated (p : Platform) (mod : ConnectorModule M) (isHibernate : Bool)
    (h : Helper M) : Helper M :=
  if h.env.systemHibernate = isHibernate then h
  else h.updateEnv p mod { h.env with systemHibernate := isHibernate }

def onCapturerStateChange (p : Platform) (mod : ConnectorModule M) (isActive : Bool)
    (h : Helper M) : Helper M :=
  if h.env.audioCaptureActive = isActive then h
  else h.updateEnv p mod { h.env with audioCaptureActive := isActive }

def rendererUsages (infos : List (Option AudioRendererChangeInfo)) : OrderedMap Int Bool :=
  infos.foldl (fun m info? =>
    match info? with
    | none => m
    | some info =>
      if m.find? info.streamUsage = some true then m else m.set info.streamUsage info.running) ∅

def playsBesides (p : Platform) (usages : List StreamUsage)
    (infos : List (Option AudioRendererChangeInfo)) : Bool :=
  infos.any fun info? =>
    match info? with
    | none => false
    | some info => info.running && !usages.contains (p.streamUsageOf info.streamUsage)

def reportUsage (mod : ConnectorModule M) (usage : Int × Bool) (h : Helper M) : Helper M :=
  if h.env.rendererStateMap.find? usage.1 = some usage.2 then h
  else
    (h.setEnv { h.env with rendererStateMap := h.env.rendererStateMap.set usage.1 usage.2 }
      ).setParameter mod (if usage.2 then "start_stream" else "stop_stream") (toString usage.1)

def onRendererStateChange (p : Platform) (mod : ConnectorModule M) (kv : StoredLists)
    (pipes : InputPipes) (infos : List (Option AudioRendererChangeInfo)) (h : Helper M) :
    Option (Helper M) :=
  let h := h.setEnv { h.env with
    hasStreamBesidesVoip := playsBesides p [.voiceCommunication, .videoCommunication] infos
    hasStreamBesidesVoice := playsBesides p [.voiceModemCommunication] infos }
  ((rendererUsages infos).entries.foldl (fun h usage => h.reportUsage mod usage) h
    ).reevaluateForVoip p mod kv pipes

def attachAbilities (p : Platform) (env : Env) : Env :=
  { env with
    mCameraConcurrency := env.mCameraConcurrency || p.supportAbility .cameraConcurrency
    mExtensionConcurrency := env.mExtensionConcurrency || p.supportAbility .extensionConcurrency
    mVoipConcurrency := env.mVoipConcurrency && !p.supportAbility .voipConcurrency
    mCallConcurrency := env.mCallConcurrency || p.supportAbility .callConcurrency
    extensionConcurrentTypeSet :=
      if p.supportAbility .callConcurrency then env.extensionConcurrentTypeSet.insert .voiceCall
      else env.extensionConcurrentTypeSet
    mFirstProc := true }

def attachAudioEngineListener (p : Platform) (mod : ConnectorModule M) (kv : StoredLists)
    (pipes : InputPipes) (registered : Bool) (h : Helper M) : Option (Helper M) :=
  if h.env.isCapturerDetached then some h
  else
    let h := h.setEnv { h.env with audioInputPipeCallback := true }
    if !registered then some h
    else (h.setEnv (attachAbilities p h.env)).onInputPipeChange p mod kv pipes

def detachAudioEngineListener (h : Helper M) : Helper M :=
  h.setEnv { h.env with isCapturerDetached := true }

def stopAllRecognition (p : Platform) (mod : ConnectorModule M) (h : Helper M) : Helper M :=
  h.forModels fun uuid h => h.onCell uuid true (stopNeeded mod (h.conflict p))

def startAllRecognition (p : Platform) (mod : ConnectorModule M) (h : Helper M) : Helper M :=
  h.forModels fun uuid h =>
    h.onCell uuid true (startNeeded mod (h.startContext p) (h.conflict p))

def restartAllRecognition (p : Platform) (mod : ConnectorModule M) (h : Helper M) : Helper M :=
  (h.stopAllRecognition p mod).startAllRecognition p mod

def newFoldStatus (foldStatus : FoldStatus) : FoldStatus :=
  if foldStatus = .halfFold then .expand else foldStatus

def onFoldStatusChanged (p : Platform) (mod : ConnectorModule M) (foldStatus : FoldStatus)
    (h : Helper M) : Helper M :=
  if h.env.curFoldStatus = newFoldStatus foldStatus then h
  else
    (h.setEnv { h.env with curFoldStatus := newFoldStatus foldStatus }
      ).restartAllRecognition p mod

def attachFoldStatusListener (p : Platform) (mod : ConnectorModule M) (isFoldable : Bool)
    (foldStatus : FoldStatus) (h : Helper M) : Helper M :=
  if h.env.isFoldStatusDetached then h
  else
    let h := h.setEnv
      { h.env with isFoldable := (p.readFile whisperModelPathVde).isSome && isFoldable }
    if !h.env.isFoldable then h
    else
      let h := h.setEnv { h.env with curFoldStatus := foldStatus }
      if foldStatus = .folded then h.restartAllRecognition p mod else h

end Helper

structure World (M : Type*) where
  helper : Helper M
  pipes : InputPipes
  kv : StoredLists

inductive Event where
  | startGenericRecognition (uuid : Int) (model : GenericTriggerModel)
      (callback : Option Callback)
  | stopGenericRecognition (uuid : Int)
  | unloadGenericTriggerModel (uuid : Int)
  | onRecognition (modelHandle : Int)
  | setParameter (key value : String)
  | onCallStateUpdated (callState : Int)
  | onAudioSceneChange (audioScene : AudioScene)
  | onHibernateStateUpdated (isHibernate : Bool)
  | onCapturerStateChange (isActive : Bool)
  | onInputPipeChange (pipes : InputPipes)
  | pipesMoved (pipes : InputPipes)
  | onRendererStateChange (infos : List (Option AudioRendererChangeInfo))
  | handleConcurrentList (list : ConcurrencyControlList) (value : String)
  | attachAudioEngineListener (registered : Bool)
  | detachAudioEngineListener
  | onFoldStatusChanged (foldStatus : FoldStatus)
  | attachFoldStatusListener (isFoldable : Bool) (foldStatus : FoldStatus)

def World.setHelper (w : World M) (h : Helper M) : World M := { w with helper := h }

def World.handleConcurrentList (w : World M) (list : ConcurrencyControlList) (value : String) :
    World M :=
  match list with
  | .whitelist =>
    { w with
      kv := { w.kv with concurrentWhiteList := value }
      helper := w.helper.setEnv (clearConcurrentControlList true false w.helper.env) }
  | .blacklist =>
    { w with
      kv := { w.kv with concurrentBlackList := value }
      helper := w.helper.setEnv (clearConcurrentControlList false true w.helper.env) }

def Event.inBuild (b : Build) : Event → Bool
  | .onCallStateUpdated _ => b.telephonyService
  | .onHibernateStateUpdated _ => b.powerManager
  | .onCapturerStateChange _ => !b.recordWakeupConcurrent
  | .onInputPipeChange _ => b.recordWakeupConcurrent
  | .handleConcurrentList _ _ => b.recordWakeupConcurrent
  | .attachAudioEngineListener _ => b.recordWakeupConcurrent
  | .detachAudioEngineListener => b.recordWakeupConcurrent
  | .onFoldStatusChanged _ => b.windowManager
  | .attachFoldStatusListener _ _ => b.windowManager
  | _ => true

def handle (p : Platform) (mod : ConnectorModule M) (w : World M) : Event → Option (World M)
  | .startGenericRecognition uuid model callback =>
    some (w.setHelper (w.helper.startGenericRecognition p mod uuid model callback).2)
  | .stopGenericRecognition uuid =>
    some (w.setHelper (w.helper.stopGenericRecognition mod uuid).2)
  | .unloadGenericTriggerModel uuid =>
    some (w.setHelper (w.helper.unloadGenericTriggerModel mod uuid))
  | .onRecognition modelHandle =>
    -- the module calls back, so it has been handed out
    if w.helper.io.moduleReady then some (w.setHelper (w.helper.onRecognition modelHandle))
    else none
  | .setParameter key value => some (w.setHelper (w.helper.setParameter mod key value))
  | .onCallStateUpdated callState =>
    (w.helper.onCallStateUpdated p mod w.kv w.pipes callState).map w.setHelper
  | .onAudioSceneChange audioScene =>
    (w.helper.onAudioSceneChange p mod w.kv w.pipes audioScene).map w.setHelper
  | .onHibernateStateUpdated isHibernate =>
    some (w.setHelper (w.helper.onHibernateStateUpdated p mod isHibernate))
  | .onCapturerStateChange isActive =>
    some (w.setHelper (w.helper.onCapturerStateChange p mod isActive))
  | .onInputPipeChange pipes =>
    if w.helper.env.audioInputPipeCallback then
      (w.helper.onInputPipeChange p mod w.kv pipes).map fun h =>
        { w with helper := h, pipes := pipes }
    else none
  | .pipesMoved pipes => some { w with pipes := pipes }
  | .onRendererStateChange infos =>
    (w.helper.onRendererStateChange p mod w.kv w.pipes infos).map w.setHelper
  | .handleConcurrentList list value => some (w.handleConcurrentList list value)
  | .attachAudioEngineListener registered =>
    (w.helper.attachAudioEngineListener p mod w.kv w.pipes registered).map w.setHelper
  | .detachAudioEngineListener => some (w.setHelper w.helper.detachAudioEngineListener)
  | .onFoldStatusChanged foldStatus =>
    some (w.setHelper (w.helper.onFoldStatusChanged p mod foldStatus))
  | .attachFoldStatusListener isFoldable foldStatus =>
    some (w.setHelper (w.helper.attachFoldStatusListener p mod isFoldable foldStatus))

def step (p : Platform) (mod : ConnectorModule M) (w : World M) (e : Event) : Option (World M) :=
  if e.inBuild p.build then handle p mod w e else none

def World.initial (conn : M) (pipes : InputPipes) (kv : StoredLists) : World M :=
  { helper := { io := { conn := conn } }, pipes := pipes, kv := kv }

end IntellVoice.Trigger
