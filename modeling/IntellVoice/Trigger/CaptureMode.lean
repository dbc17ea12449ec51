import IntellVoice.Trigger.Evaluation

/-! `concurrent_capture` opens or closes the capture, or sets the whisper model. -/

namespace IntellVoice.Trigger
open Transition Loop Helper
variable {M : Type*} {p : Platform} {mod : ConnectorModule M} {kv : StoredLists}
  {pipes : InputPipes}

def opensCapture (value : String) : Option Bool :=
  if value = "start" ∨ value = "start_withwhisper" ∨ value = "start_nowhisper" then some true
  else if value = "stop" then some false
  else none

def whisperSetting (value : String) : Option Bool :=
  if value = "start_withwhisper" ∨ value = "enablewhisper" then some true
  else if value = "start_nowhisper" ∨ value = "disablewhisper" then some false
  else none

structure Env.SameMode (env env' : Env) : Prop where
  state : env'.captureState = env.captureState
  extension : env'.mExtensionConcurrency = env.mExtensionConcurrency
  whisper : env'.whitelistWhisperEnable = env.whitelistWhisperEnable

structure CaptureMode where
  opened : Bool := false
  whisper : Option Bool := none

namespace CaptureMode

def receive (m : CaptureMode) (value : String) : CaptureMode where
  opened := (opensCapture value).getD m.opened
  whisper := (whisperSetting value).or m.whisper

def observe (m : CaptureMode) : Effect → CaptureMode
  | .setParams key value => if key = "concurrent_capture" then m.receive value else m
  | _ => m

structure Agrees (env : Env) (m : CaptureMode) : Prop where
  opened : m.opened ↔ env.audioConcurrentCapture ∧ env.audioCaptureActive
  whisper : env.mExtensionConcurrency → m.opened →
    m.whisper = some env.whitelistWhisperEnable

lemma Agrees.congr {env env' : Env} {m : CaptureMode} (hsame : env.SameMode env')
    (h : m.Agrees env) : m.Agrees env' := by
  obtain ⟨hconcurrent, hactive⟩ := CaptureState.mk.inj hsame.state
  refine ⟨?_, ?_⟩
  · rw [hconcurrent, hactive]
    exact h.opened
  · rw [hsame.extension, hsame.whisper]
    exact h.whisper

lemma receive_receive (m : CaptureMode) (value : String) :
    (m.receive value).receive value = m.receive value := by
  have hopened : ∀ o : Option Bool, o.getD (o.getD m.opened) = o.getD m.opened := by
    intro o
    cases o <;> rfl
  have hwhisper : ∀ o : Option Bool, o.or (o.or m.whisper) = o.or m.whisper := by
    intro o
    cases o <;> rfl
  simp only [receive, hopened, hwhisper]

end CaptureMode

def Io.captureMode (io : Io M) : CaptureMode := io.log.foldl CaptureMode.observe {}

@[simp] lemma Io.captureMode_emit (io : Io M) (e : Effect) :
    (io.emit e).captureMode = io.captureMode.observe e := by
  simp [captureMode, emit]

@[simp] lemma Io.captureMode_call (io : Io M) (e : Effect) (conn : M) :
    (io.call e conn).captureMode = io.captureMode.observe e := by
  simp [captureMode, call]

@[simp] lemma Io.captureMode_getModule (mod : ConnectorModule M) (io : Io M) :
    (io.getModule mod).2.captureMode = io.captureMode := by
  rw [captureMode, io.log_getModule mod]
  rfl

lemma Io.captureMode_setParameter_ne {key : String} (hkey : key ≠ "concurrent_capture")
    (mod : ConnectorModule M) (value : String) (io : Io M) :
    (io.setParameterForInputPipe mod key value).2.captureMode = io.captureMode := by
  rcases io.log_setParameterForInputPipe mod key value with hlog | hlog
  · rw [captureMode, hlog]
    rfl
  · rw [captureMode, hlog, List.foldl_append]
    exact if_neg hkey

def ConnectorModule.Obtained (mod : ConnectorModule M) : Prop :=
  ∀ m, (mod.getConnectorModule m).1

lemma Io.getModule_obtained (hget : mod.Obtained) (io : Io M) : (io.getModule mod).1 := by
  unfold Io.getModule
  split
  · rfl
  · exact hget _

lemma Io.log_setParameter_obtained (hget : mod.Obtained) (key value : String) (io : Io M) :
    (io.setParameterForInputPipe mod key value).2.log = io.log ++ [.setParams key value] := by
  simp [Io.setParameterForInputPipe, io.getModule_obtained hget, Io.call, io.log_getModule mod]

lemma Io.captureMode_setParameter (hget : mod.Obtained) (value : String) (io : Io M) :
    (io.setParameterForInputPipe mod "concurrent_capture" value).2.captureMode =
      io.captureMode.receive value := by
  rw [captureMode, io.log_setParameter_obtained hget, List.foldl_append]
  rfl

lemma captureMode_loadModel (mod : ConnectorModule M) (c : Cell M) :
    (loadModel mod c).2.io.captureMode = c.io.captureMode := by
  rcases loadModel_cases mod c with heq | ⟨-, -, ⟨-, heq⟩ | ⟨-, heq⟩⟩ <;>
    simp [heq, CaptureMode.observe]

lemma captureMode_unloadModel (mod : ConnectorModule M) (c : Cell M) :
    (unloadModel mod c).2.io.captureMode = c.io.captureMode := by
  rcases unloadModel_cases mod c with ⟨heq, -⟩ | ⟨-, -, heq⟩ <;> simp [heq, CaptureMode.observe]

lemma captureMode_stopRecognition (mod : ConnectorModule M) (c : Cell M) :
    (stopRecognition mod c).2.io.captureMode = c.io.captureMode := by
  rcases stopRecognition_cases mod c with ⟨heq, -⟩ | ⟨-, -, ⟨-, heq⟩ | ⟨-, heq⟩⟩ <;>
    simp [heq, CaptureMode.observe]

lemma captureMode_callStart (mod : ConnectorModule M) (c : Cell M) :
    (callStart mod c).2.io.captureMode = c.io.captureMode := by
  rcases callStart_cases mod c with ⟨-, heq⟩ | ⟨-, heq⟩ <;> simp [heq, CaptureMode.observe]

lemma captureMode_reLoadWhisperModel (mod : ConnectorModule M) (ctx : StartContext)
    (c : Cell M) : (reLoadWhisperModel mod ctx c).io.captureMode = c.io.captureMode := by
  unfold reLoadWhisperModel
  split
  · rfl
  split
  · rfl
  dsimp only
  split
  · simp [CaptureMode.observe]
  · simp [captureMode_loadModel, captureMode_unloadModel, CaptureMode.observe]

lemma captureMode_beforeStart (mod : ConnectorModule M) (ctx : StartContext) (c : Cell M) :
    (beforeStart mod ctx c).io.captureMode = c.io.captureMode := by
  have hfold : (foldStatusOperation mod ctx c).io.captureMode = c.io.captureMode := by
    have hreload := captureMode_reLoadWhisperModel mod ctx c
    simp only [foldStatusOperation]
    split
    · rfl
    split
    · exact (Io.captureMode_setParameter_ne (by decide) mod _ _).trans hreload
    · exact hreload
  simp only [beforeStart]
  split <;> split <;> simp [handleWakeupInputGain, CaptureMode.observe, hfold]

lemma captureMode_startRecognition (mod : ConnectorModule M) (ctx : StartContext) (c : Cell M) :
    (startRecognition mod ctx c).2.io.captureMode = c.io.captureMode := by
  unfold startRecognition
  split
  · rfl
  split
  · rfl
  · exact (captureMode_callStart mod _).trans (captureMode_beforeStart mod ctx c)

lemma demandInvariant_captureMode (mod : ConnectorModule M) (m : CaptureMode) :
    DemandInvariant mod fun c => c.io.captureMode = m where
  getModule c hc := (c.io.captureMode_getModule mod).trans hc
  load c hc := (captureMode_loadModel mod c).trans hc
  unload c hc := (captureMode_unloadModel mod c).trans hc
  stop c hc := (captureMode_stopRecognition mod c).trans hc
  startRecognition c ctx hc := (captureMode_startRecognition mod ctx c).trans hc
  setModel _ _ hc := hc
  setCallback _ _ hc := hc
  setRequested _ _ hc := hc
  clearCallback _ hc := hc
  clear _ hc := hc

namespace Helper
variable {h h' : Helper M}

def captureMode (h : Helper M) : CaptureMode := h.io.captureMode

lemma captureMode_onCell {β : Type*} (uuid : Int) (absent : β) {f : Cell M → β × Cell M}
    (hf : ∀ c, (f c).2.io.captureMode = c.io.captureMode) (h : Helper M) :
    (h.onCell uuid absent f).2.captureMode = h.captureMode := by
  unfold onCell
  split
  · rfl
  · exact hf _

lemma captureMode_reaction {f : Cell M → Bool × Cell M} (hf : ReactionOp mod f) (uuid : Int)
    (h : Helper M) : (h.onCell uuid true f).2.captureMode = h.captureMode :=
  captureMode_onCell uuid true (fun c =>
    hf.operationInvariant (demandInvariant_captureMode mod c.io.captureMode).toOperationInvariant
      rfl) h

lemma captureMode_forModels {f : Int → Helper M → Bool × Helper M}
    (hf : ∀ uuid h, (f uuid h).2.captureMode = h.captureMode) (h : Helper M) :
    (h.forModels f).captureMode = h.captureMode :=
  visitUntil_invariant (I := fun h' : Helper M => h'.captureMode = h.captureMode)
    (fun uuid h' heq => (hf uuid h').trans heq) _ rfl

lemma captureMode_onUpdateAllRecognitionState (p : Platform) (mod : ConnectorModule M)
    (h : Helper M) : (h.onUpdateAllRecognitionState p mod).captureMode = h.captureMode :=
  captureMode_forModels (fun uuid h => captureMode_reaction (.update _ _ _) uuid h) h

lemma captureMode_updateEnv (p : Platform) (mod : ConnectorModule M) (env : Env)
    (h : Helper M) : (h.updateEnv p mod env).captureMode = h.captureMode :=
  captureMode_onUpdateAllRecognitionState p mod (h.setEnv env)

lemma captureMode_restartAllRecognition (p : Platform) (mod : ConnectorModule M)
    (h : Helper M) : (h.restartAllRecognition p mod).captureMode = h.captureMode :=
  (captureMode_forModels (fun uuid h => captureMode_reaction (.start _ _) uuid h) _).trans
    (captureMode_forModels (fun uuid h => captureMode_reaction (.stop _) uuid h) h)

lemma captureMode_startGenericRecognition (p : Platform) (mod : ConnectorModule M) (uuid : Int)
    (model : GenericTriggerModel) (callback : Option Callback) (h : Helper M) :
    (h.startGenericRecognition p mod uuid model callback).2.captureMode = h.captureMode := by
  have haccept : ((h.createTriggerModelData uuid).onCell uuid false
      (acceptRequest mod model callback)).2.captureMode = h.captureMode :=
    captureMode_onCell uuid false
      (fun c => (demandInvariant_captureMode mod c.io.captureMode).acceptRequest model callback rfl)
      (h.createTriggerModelData uuid)
  simp only [startGenericRecognition]
  split
  · exact haccept
  split
  · exact haccept
  · refine (captureMode_onCell uuid (-1) (fun c => ?_) _).trans haccept
    exact (demandInvariant_captureMode mod c.io.captureMode).prepareAndStart _ rfl

lemma captureMode_unloadGenericTriggerModel (mod : ConnectorModule M) (uuid : Int)
    (h : Helper M) : (h.unloadGenericTriggerModel mod uuid).captureMode = h.captureMode := by
  unfold unloadGenericTriggerModel
  split
  · rfl
  split
  · rfl
  · exact captureMode_onCell uuid ()
      (fun c => (demandInvariant_captureMode mod c.io.captureMode).stopAndUnload rfl) h

lemma captureMode_onRecognition (modelHandle : Int) (h : Helper M) :
    (h.onRecognition modelHandle).captureMode = h.captureMode := by
  unfold onRecognition
  split
  · rfl
  simp only [captureMode, reportDetection]
  split
  · rfl
  · simp [CaptureMode.observe]

lemma captureMode_reportUsages (mod : ConnectorModule M) (usages : List (Int × Bool))
    (h : Helper M) : (usages.foldl (fun h usage => h.reportUsage mod usage) h).captureMode =
      h.captureMode := by
  induction usages generalizing h with
  | nil => rfl
  | cons usage usages ih =>
    refine (ih (h.reportUsage mod usage)).trans ?_
    unfold reportUsage
    split
    · rfl
    -- the usages have keys of their own
    refine Io.captureMode_setParameter_ne ?_ mod _ _
    split <;> decide

lemma captureMode_onFoldStatusChanged (p : Platform) (mod : ConnectorModule M)
    (foldStatus : FoldStatus) (h : Helper M) :
    (h.onFoldStatusChanged p mod foldStatus).captureMode = h.captureMode := by
  unfold onFoldStatusChanged
  split
  · rfl
  · exact captureMode_restartAllRecognition p mod _

lemma captureMode_attachFoldStatusListener (p : Platform) (mod : ConnectorModule M)
    (isFoldable : Bool) (foldStatus : FoldStatus) (h : Helper M) :
    (h.attachFoldStatusListener p mod isFoldable foldStatus).captureMode = h.captureMode := by
  simp only [attachFoldStatusListener]
  split
  · rfl
  split
  · rfl
  split
  · exact captureMode_restartAllRecognition p mod _
  · rfl

end Helper

def Event.setsCapture : Event → Bool
  | .setParameter key _ => key == "concurrent_capture"
  | _ => false

variable {new : CaptureState} {e : Event} {w w' : World M}

lemma step_captureMode (hp : w.helper.env.Plain p) (he : e.evaluates p w = none)
    (hclient : e.setsCapture = false) (hstep : step p mod w e = some w') :
    w'.helper.captureMode = w.helper.captureMode := by
  obtain ⟨hbuild, hhandle⟩ := handle_of_step hstep
  cases e with
  | startGenericRecognition uuid model callback =>
    cases hhandle
    exact captureMode_startGenericRecognition p mod uuid model callback _
  | stopGenericRecognition uuid =>
    cases hhandle
    exact captureMode_onCell uuid (-1)
      (fun c => (demandInvariant_captureMode mod c.io.captureMode).stopRequested rfl) _
  | unloadGenericTriggerModel uuid =>
    cases hhandle
    exact captureMode_unloadGenericTriggerModel mod uuid _
  | onRecognition modelHandle =>
    simp only [handle] at hhandle
    split at hhandle
    · cases hhandle
      exact captureMode_onRecognition modelHandle _
    · cases hhandle
  | setParameter key value =>
    cases hhandle
    exact Io.captureMode_setParameter_ne (by simpa [Event.setsCapture] using hclient) mod _ _
  | onCallStateUpdated callState =>
    obtain ⟨h', heq, rfl⟩ := Option.map_eq_some_iff.1 hhandle
    simp only [onCallStateUpdated] at heq
    split at heq
    · cases heq
      rfl
    rename_i hrange
    split at heq
    · cases heq
      rfl
    rename_i hchange
    -- the call state is stored; the pipes are left alone because nothing is attached
    have hattached : w.helper.env.audioInputPipeCallback = false := by
      simp only [Bool.not_eq_true, Bool.not_eq_false'] at hrange
      simpa [Event.evaluates, hrange, hchange] using he
    simp only [hp.build, updateEnv, onUpdateAllRecognitionState_env,
      setEnv_env, hattached, Bool.not_true, Bool.not_false, Bool.false_eq_true, if_false,
      if_true] at heq
    cases heq
    exact captureMode_updateEnv p mod _ _
  | onAudioSceneChange audioScene =>
    obtain ⟨h', heq, rfl⟩ := Option.map_eq_some_iff.1 hhandle
    unfold onAudioSceneChange at heq
    split at heq
    · cases heq
      rfl
    rw [reevaluateForVoip_plain (hp.congr (by simp [updateEnv]))] at heq
    cases heq
    exact captureMode_updateEnv p mod _ _
  | onHibernateStateUpdated isHibernate =>
    cases hhandle
    simp only [World.setHelper, onHibernateStateUpdated]
    split
    · rfl
    · exact captureMode_updateEnv p mod _ _
  | onCapturerStateChange isActive => simp [Event.inBuild, hp.build] at hbuild
  | onInputPipeChange pipes => cases he
  | pipesMoved pipes | detachAudioEngineListener =>
    cases hhandle
    rfl
  | onRendererStateChange infos =>
    obtain ⟨h', heq, rfl⟩ := Option.map_eq_some_iff.1 hhandle
    simp only [onRendererStateChange] at heq
    have hagree := reportUsages_agree mod (rendererUsages infos).entries
      (w.helper.setEnv (Event.store p w.helper.env (.onRendererStateChange infos)))
    have hvoip := congrArg Env.mVoipConcurrency hagree
    obtain rfl := Option.some.inj
      ((reevaluateForVoip_plain (hp.congr hvoip)).symm.trans heq)
    exact captureMode_reportUsages mod _ _
  | handleConcurrentList list value =>
    cases hhandle
    cases list <;> rfl
  | attachAudioEngineListener registered =>
    obtain ⟨h', heq, rfl⟩ := Option.map_eq_some_iff.1 hhandle
    simp only [attachAudioEngineListener] at heq
    split at heq
    · cases heq
      rfl
    rename_i hdetached
    split at heq
    · cases heq
      rfl
    rename_i hregistered
    simp only [Bool.not_eq_true, Bool.not_eq_false'] at hdetached hregistered
    simp [Event.evaluates, hdetached, hregistered] at he
  | onFoldStatusChanged foldStatus =>
    cases hhandle
    exact captureMode_onFoldStatusChanged p mod foldStatus _
  | attachFoldStatusListener isFoldable foldStatus =>
    cases hhandle
    exact captureMode_attachFoldStatusListener p mod isFoldable foldStatus _

def CaptureMethod.sends (env : Env) : CaptureMethod → Option String
  | .sameState =>
    if env.mExtensionConcurrency then
      some (if env.whitelistWhisperEnable then "enablewhisper" else "disablewhisper")
    else none
  | .doConcurrentCloseSource => some "stop"
  | .doConcurrentOpenSource => some (concurrencyOpenKey env)
  | .doNoConcurrentStopSource => none
  | .doNoConcurrentOpenSource => none
  | .doConcurrentStopAndNoConcurrentOpenSource => some "stop"
  | .doNoConcurrentStopAndConcurrentOpenSource => some (concurrencyOpenKey env)

def CaptureMode.afterMethod (m : CaptureMode) (env : Env) (method : CaptureMethod) : CaptureMode :=
  (method.sends env).elim m m.receive

lemma CaptureMode.afterMethod_idem (m : CaptureMode) (env : Env) (method : CaptureMethod) :
    (m.afterMethod env method).afterMethod env method = m.afterMethod env method := by
  unfold afterMethod
  cases method.sends env with
  | none => rfl
  | some value => exact m.receive_receive value

lemma CaptureMode.receive_concurrencyOpenKey (m : CaptureMode) (env : Env) :
    (m.receive (concurrencyOpenKey env)).opened ∧ (env.mExtensionConcurrency →
        (m.receive (concurrencyOpenKey env)).whisper = some env.whitelistWhisperEnable) := by
  unfold concurrencyOpenKey
  cases env.mExtensionConcurrency <;> cases env.whitelistWhisperEnable <;>
    simp [receive, opensCapture, whisperSetting]

abbrev CaptureState.sharing : CaptureState := ⟨true, true⟩

lemma sends_of_opening {old : CaptureState} (hold : old ≠ .sharing) (env : Env) :
    (methodTable old .sharing).sends env = some (concurrencyOpenKey env) := by
  obtain ⟨concurrent, source⟩ := old
  cases concurrent <;> cases source <;> first | rfl | exact absurd rfl hold

lemma sends_of_closing (hnew : new ≠ .sharing) (env : Env) :
    (methodTable .sharing new).sends env = some "stop" := by
  obtain ⟨concurrent, source⟩ := new
  cases concurrent <;> cases source <;> first | rfl | exact absurd rfl hnew

lemma opensCapture_of_sends {old : CaptureState} (hboth : old = .sharing ↔ new = .sharing)
    {env : Env} {value : String} (hsends : (methodTable old new).sends env = some value) :
    opensCapture value = none := by
  have hwhisper : ∀ b : Bool, opensCapture (if b then "enablewhisper" else "disablewhisper") =
      none := by decide
  have hsame : CaptureMethod.sends env .sameState = some value → opensCapture value = none := by
    intro h
    simp only [CaptureMethod.sends] at h
    split at h
    · cases h
      exact hwhisper _
    · cases h
  obtain ⟨oc, os⟩ := old
  obtain ⟨nc, ns⟩ := new
  cases oc <;> cases os <;> cases nc <;> cases ns <;>
    first
      | exact hsame hsends
      | exact absurd hboth (by decide)
      | cases hsends

lemma Env.captureState_eq_sharing {env : Env} : env.captureState = .sharing ↔
    env.audioConcurrentCapture ∧ env.audioCaptureActive := by
  simp [captureState]

namespace CaptureMode
variable {m : CaptureMode} {old : CaptureState} {env : Env}

lemma opened_afterMethod {new : CaptureState} (hboth : old = .sharing ↔ new = .sharing) :
    (m.afterMethod env (methodTable old new)).opened = m.opened := by
  unfold afterMethod
  cases hsends : (methodTable old new).sends env with
  | none => rfl
  | some value => simp [receive, opensCapture_of_sends hboth hsends]

lemma whisper_sameState (hext : env.mExtensionConcurrency) :
    (m.afterMethod env .sameState).whisper = some env.whitelistWhisperEnable := by
  cases hw : env.whitelistWhisperEnable <;>
    simp [afterMethod, CaptureMethod.sends, hext, hw, receive, whisperSetting]

lemma agrees_afterMethod_iff (hm : m.opened → old = .sharing) :
    (m.afterMethod env (methodTable old env.captureState)).Agrees env ↔
      (old = .sharing → env.captureState = .sharing → m.opened) := by
  by_cases hold : old = .sharing <;> by_cases hnew : env.captureState = .sharing
  · have hopened : (m.afterMethod env (methodTable old env.captureState)).opened = m.opened :=
      opened_afterMethod (by simp [hold, hnew])
    refine ⟨fun h _ _ => hopened ▸ h.opened.2 (Env.captureState_eq_sharing.1 hnew), fun h => ?_⟩
    refine ⟨by simp [hopened, h hold hnew, Env.captureState_eq_sharing.1 hnew], fun hext _ => ?_⟩
    rw [hold, hnew]
    exact whisper_sameState hext
  · have hafter : m.afterMethod env (methodTable old env.captureState) = m.receive "stop" := by
      rw [afterMethod, hold, sends_of_closing hnew]
      rfl
    have hclosed : (m.receive "stop").opened = false := by simp [receive, opensCapture]
    refine ⟨fun _ _ h => absurd h hnew, fun _ => ?_⟩
    rw [hafter]
    refine ⟨?_, fun _ h => absurd h (by simp [hclosed])⟩
    rw [← Env.captureState_eq_sharing]
    simp [hclosed, hnew]
  · have hafter : m.afterMethod env (methodTable old env.captureState) =
        m.receive (concurrencyOpenKey env) := by
      rw [afterMethod, hnew, sends_of_opening hold]
      rfl
    obtain ⟨hopened, hwhisper⟩ := receive_concurrencyOpenKey m env
    refine ⟨fun _ h => absurd h hold, fun _ => ?_⟩
    rw [hafter]
    exact ⟨by simp [hopened, Env.captureState_eq_sharing.1 hnew], fun hext _ => hwhisper hext⟩
  · have hclosed : (m.afterMethod env (methodTable old env.captureState)).opened = false := by
      rw [opened_afterMethod (by simp [hold, hnew])]
      exact Bool.eq_false_iff.2 fun h => hold (hm h)
    refine ⟨fun _ h => absurd h hold, fun _ => ⟨?_, fun _ h => absurd h (by simp [hclosed])⟩⟩
    rw [← Env.captureState_eq_sharing]
    simp [hclosed, hnew]

end CaptureMode

namespace Helper
variable {h h' : Helper M}

lemma captureMode_executeStateTransition (hget : mod.Obtained) (p : Platform)
    (old new : CaptureState) (modelData : Option Int) (h : Helper M) :
    (h.executeStateTransition p mod old new modelData).captureMode =
      h.captureMode.afterMethod h.env (methodTable old new) := by
  have hset : ∀ (h : Helper M) value,
      (h.setParameter mod "concurrent_capture" value).captureMode = h.captureMode.receive value :=
    fun h value => Io.captureMode_setParameter hget value h.io
  have hstart : (h.startLoaded p mod modelData).captureMode = h.captureMode := by
    cases modelData with
    | none => rfl
    | some uuid => exact captureMode_reaction (.open _) uuid h
  unfold executeStateTransition CaptureMode.afterMethod
  split <;> rename_i hmethod <;> simp only [hmethod, CaptureMethod.sends, Option.elim]
  · split
    · exact hset _ _
    · rfl
  · exact hset _ _
  · exact hset _ _
  · exact captureMode_onUpdateAllRecognitionState p mod h
  · exact captureMode_onUpdateAllRecognitionState p mod h
  · rw [captureMode_onUpdateAllRecognitionState]
    exact hset _ _
  · rw [hset, hstart]

lemma captureMode_executeForModels (hget : mod.Obtained) (p : Platform)
    (old new : CaptureState) (h : Helper M) : (h.executeForModels p mod old new).captureMode =
      h.captureMode.afterMethod h.env (methodTable old new) := by
  unfold executeForModels
  split
  · exact captureMode_executeStateTransition hget p old new none h
  rename_i hempty
  unfold forModels
  cases hkeys : h.modelDataMap.keys with
  | nil => exact absurd (OrderedMap.isEmpty_iff.2 hkeys) hempty
  | cons uuid uuids =>
    rw [visitUntil, if_pos rfl]
    refine (visitUntil_invariant (I := fun h' : Helper M => h'.env = h.env ∧
      h'.captureMode = h.captureMode.afterMethod h.env (methodTable old new)) ?_ uuids ?_).2
    · rintro uuid h' ⟨henv, hmode⟩
      refine ⟨(executeStateTransition_env _ _ _ _ _ _).trans henv, ?_⟩
      rw [captureMode_executeStateTransition hget, henv, hmode, CaptureMode.afterMethod_idem]
    · exact ⟨executeStateTransition_env _ _ _ _ _ _,
        captureMode_executeStateTransition hget p old new (some uuid) h⟩

lemma captureMode_firstProc (hget : mod.Obtained) (h : Helper M) : (h.firstProc mod).captureMode =
      if h.env.mFirstProc then h.captureMode.receive "stop" else h.captureMode := by
  unfold firstProc
  split
  · exact Io.captureMode_setParameter hget "stop" h.io
  · rfl

lemma opened_firstProc (hget : mod.Obtained)
    (hopened : h.captureMode.opened ↔ h.env.captureState = .sharing) :
    (h.firstProc mod).captureMode.opened ↔
      h.env.mFirstProc = false ∧ h.env.captureState = .sharing := by
  rw [captureMode_firstProc hget]
  split
  · rename_i hfirst
    simp [hfirst, CaptureMode.receive, opensCapture]
  rename_i hfirst
  rw [hopened]
  simp [hfirst]

lemma onInputPipeChange_agrees_iff (hget : mod.Obtained)
    (hopened : h.captureMode.opened ↔ h.env.captureState = .sharing)
    (hagrees : h.env.mFirstProc = false → h.captureMode.Agrees h.env)
    (heq : h.onInputPipeChange p mod kv pipes = some h') :
    h'.captureMode.Agrees h'.env ↔ ¬ (h.env.mFirstProc ∧ h.env.captureState = .sharing ∧
      isSourceRunning h.env (getPipeInfo p pipes) ∧
      concurrentState p (h.env.lists p kv) h.env (getPipeInfo p pipes) = some true) := by
  obtain ⟨c, env, hrunning, hconcurrent, hrefreshed, hcases⟩ := onInputPipeChange_cases heq
  have hold : env.captureState = h.env.captureState := by
    rw [hrefreshed.flags]
    rfl
  have hnew : c.captureState = .sharing ↔ isSourceRunning h.env (getPipeInfo p pipes) ∧
      concurrentState p (h.env.lists p kv) h.env (getPipeInfo p pipes) = some true := by
    rw [← hrunning, hconcurrent]
    simp [Classification.captureState, and_comm]
  rw [← hnew]
  have hclosed := opened_firstProc hget hopened
  rcases hcases with ⟨hsame, rfl⟩ | ⟨-, rfl⟩
  · -- nothing is sent: the mode is that of the first part of the evaluation
    have hmode : ((h.firstProc mod).setEnv env).captureMode = (h.firstProc mod).captureMode := rfl
    have hstate : c.captureState = h.env.captureState := by
      simp only [sameClassification, Bool.and_eq_true, beq_iff_eq] at hsame
      rw [← hold, Classification.captureState, hsame.1.1, hsame.1.2]
      rfl
    rw [hstate, hmode, setEnv_env]
    cases hfirst : h.env.mFirstProc with
    | false =>
      have hafter := captureMode_firstProc hget h
      rw [hfirst] at hafter
      rw [hafter]
      refine ⟨fun _ hno => absurd hno.1 (by simp), fun _ => ?_⟩
      exact (hagrees hfirst).congr ⟨hold, by rw [hrefreshed.flags], by rw [hrefreshed.flags]⟩
    | true =>
      rw [hfirst] at hclosed
      refine ⟨fun hag hboth => ?_,
        fun hno => ⟨?_, fun _ hopen => absurd (hclosed.1 hopen).1 (by simp)⟩⟩
      · have hopen := hag.opened.2 (Env.captureState_eq_sharing.1 (hold.trans hboth.2.1))
        exact absurd (hclosed.1 hopen).1 (by simp)
      · rw [hclosed, ← Env.captureState_eq_sharing, hold]
        simpa using hno
  · have hm : (h.firstProc mod).captureMode.opened → env.captureState = .sharing :=
      fun hopen => hold.trans (hclosed.1 hopen).2
    have hiff : _ ↔ (_ → (storeClassification c env).captureState = .sharing → _) :=
      CaptureMode.agrees_afterMethod_iff hm
    rw [captureMode_executeForModels hget, executeForModels_env, setEnv_env]
    refine hiff.trans ?_
    rw [hclosed, hold]
    constructor
    · rintro himp ⟨hfirst, hsharing, hc⟩
      have := (himp hsharing hc).1
      simp [hfirst] at this
    · intro hno hsharing hc
      exact ⟨Bool.eq_false_iff.2 fun hfirst => hno ⟨hfirst, hsharing, hc⟩, hsharing⟩

end Helper

def Event.Attaches (env : Env) (e : Event) : Prop :=
  e = .attachAudioEngineListener true ∧ env.isCapturerDetached = false

lemma Event.store_sameMode {env : Env} (hno : ¬ e.Attaches env) :
    env.SameMode (e.store p env) ∧ (e.store p env).mFirstProc = env.mFirstProc := by
  cases e with
  | attachAudioEngineListener registered =>
    simp only [store]
    split
    · exact ⟨⟨rfl, rfl, rfl⟩, rfl⟩
    rename_i hdetached
    split
    · exact ⟨⟨rfl, rfl, rfl⟩, rfl⟩
    · rename_i hregistered
      exact absurd ⟨by simpa using hregistered, by simpa using hdetached⟩ hno
  | onCallStateUpdated callState =>
    simp only [store]
    split <;> exact ⟨⟨rfl, rfl, rfl⟩, rfl⟩
  | handleConcurrentList list value => cases list <;> exact ⟨⟨rfl, rfl, rfl⟩, rfl⟩
  | _ => exact ⟨⟨rfl, rfl, rfl⟩, rfl⟩

lemma Helper.onInputPipeChange_first {h h' : Helper M}
    (heq : h.onInputPipeChange p mod kv pipes = some h') : h'.env.mFirstProc = false := by
  obtain ⟨_, _, _, env, -, -, hrefreshed, henv⟩ := onInputPipeChange_env heq
  rw [henv, hrefreshed.flags]

structure Event.Reattaches (p : Platform) (w : World M) (e : Event) : Prop where
  attaches : e.Attaches w.helper.env
  sharing : w.helper.env.captureState = .sharing
  running : isSourceRunning (attachAbilities p w.helper.env) (getPipeInfo p w.pipes)
  concurrent : concurrentState p (w.helper.env.lists p w.kv)
    (attachAbilities p w.helper.env) (getPipeInfo p w.pipes) = some true

structure World.InMode (p : Platform) (w : World M) : Prop where
  regular : w.Regular p
  first : w.helper.env.mFirstProc = false
  agrees : w.helper.captureMode.Agrees w.helper.env

lemma step_attaches_agrees_iff (hget : mod.Obtained) (hw : w.InMode p)
    (hattaches : e.Attaches w.helper.env) (hstep : step p mod w e = some w') :
    (w'.helper.captureMode.Agrees w'.helper.env ↔ ¬ e.Reattaches p w) ∧
      w'.helper.env.mFirstProc = false := by
  obtain ⟨rfl, hdetached⟩ := hattaches
  have he : Event.evaluates p w (.attachAudioEngineListener true) = some w.pipes := by
    simp [Event.evaluates, hdetached]
  have hstore : Event.store p w.helper.env (.attachAudioEngineListener true) =
      attachAbilities p { w.helper.env with audioInputPipeCallback := true } := by
    simp [Event.store, hdetached]
  obtain ⟨h, heq, -, -, henv, hcases⟩ := step_evaluates hw.regular he hstep
  have hmode : h.captureMode = w.helper.captureMode := by
    rcases hcases with ⟨rfl, -⟩ | ⟨rfl, -⟩
    · rfl
    · exact captureMode_updateEnv p mod _ _
  rw [hstore] at henv
  have hstate : h.env.captureState = w.helper.env.captureState := by
    rw [henv]
    rfl
  have hopened : h.captureMode.opened ↔ h.env.captureState = .sharing := by
    rw [hmode, hstate, Env.captureState_eq_sharing]
    exact hw.agrees.opened
  have hfirst : h.env.mFirstProc := by
    rw [henv]
    rfl
  refine ⟨?_, onInputPipeChange_first heq⟩
  rw [onInputPipeChange_agrees_iff hget hopened (fun h => absurd h (by simp [hfirst])) heq]
  refine not_congr ⟨fun hbad => ?_, fun hbad => ?_⟩
  · obtain ⟨-, hsharing, hrunning, hconcurrent⟩ := hbad
    rw [henv] at hrunning hconcurrent
    exact ⟨⟨rfl, hdetached⟩, hstate ▸ hsharing, hrunning, hconcurrent⟩
  · refine ⟨hfirst, hstate.trans hbad.sharing, ?_, ?_⟩
    · rw [henv]
      exact hbad.running
    · rw [henv]
      exact hbad.concurrent

lemma step_not_attaches_agrees (hget : mod.Obtained) (hw : w.InMode p)
    (hno : ¬ e.Attaches w.helper.env) (hclient : e.setsCapture = false)
    (hstep : step p mod w e = some w') :
    w'.helper.captureMode.Agrees w'.helper.env ∧ w'.helper.env.mFirstProc = false := by
  obtain ⟨hsame, hfirst⟩ := Event.store_sameMode (p := p) hno
  have hagrees := hw.agrees.congr hsame
  cases he : e.evaluates p w with
  | none =>
    have hagree := (step_not_evaluates hw.regular.plain he hstep).agree
    rw [step_captureMode hw.regular.plain he hclient hstep]
    refine ⟨hagrees.congr ⟨?_, ?_, ?_⟩, ?_⟩ <;> rw [hagree]
    · rfl
    · exact hfirst.trans hw.first
  | some pipes =>
    obtain ⟨h, heq, -, -, henv, hcases⟩ := step_evaluates hw.regular he hstep
    have hmode : h.captureMode = w.helper.captureMode := by
      rcases hcases with ⟨rfl, -⟩ | ⟨rfl, -⟩
      · rfl
      · exact captureMode_updateEnv p mod _ _
    have hpending : h.env.mFirstProc = false := by
      rw [henv]
      exact hfirst.trans hw.first
    rw [← hmode, ← henv] at hagrees
    have hopened : h.captureMode.opened ↔ h.env.captureState = .sharing := by
      rw [Env.captureState_eq_sharing]
      exact hagrees.opened
    refine ⟨?_, onInputPipeChange_first heq⟩
    rw [onInputPipeChange_agrees_iff hget hopened (fun _ => hagrees) heq]
    exact fun hbad => absurd hbad.1 (by simp [hpending])

lemma step_inMode (hget : mod.Obtained) (hw : w.InMode p) (hclient : e.setsCapture = false)
    (hstep : step p mod w e = some w') :
    (w'.helper.captureMode.Agrees w'.helper.env ↔ ¬ e.Reattaches p w) ∧
      (¬ e.Reattaches p w → w'.InMode p) := by
  have hregular := step_regular hw.regular hstep
  by_cases hattaches : e.Attaches w.helper.env
  · obtain ⟨hiff, hfirst⟩ := step_attaches_agrees_iff hget hw hattaches hstep
    exact ⟨hiff, fun hno => ⟨hregular, hfirst, hiff.2 hno⟩⟩
  obtain ⟨hagrees, hfirst⟩ := step_not_attaches_agrees hget hw hattaches hclient hstep
  exact ⟨⟨fun _ hre => hattaches hre.attaches, fun _ => hagrees⟩,
    fun _ => ⟨hregular, hfirst, hagrees⟩⟩

theorem run_captureMode_agrees_iff (hget : mod.Obtained)
    (hbuild : p.build.recordWakeupConcurrent) (conn : M) (pipes : InputPipes)
    (kv : StoredLists) (es : List Event) (hclient : ∀ e ∈ es, e.setsCapture = false) :
    Along (step p mod) (fun _ _ w => w.helper.captureMode.Agrees w.helper.env)
        (World.initial conn pipes kv) es ↔
      Along (step p mod) (fun w e _ => ¬ e.Reattaches p w) (World.initial conn pipes kv) es := by
  have hinitial : (World.initial conn pipes kv).InMode p := by
    refine ⟨initial_regular hbuild conn pipes kv, rfl, ?_, ?_⟩
    · exact ⟨fun h => (nomatch h), fun h => (nomatch h.2)⟩
    · exact fun _ h => (nomatch h)
  exact along_iff (I := World.InMode p) (P := fun e : Event => e.setsCapture = false)
    (fun _ _ _ hw hP hstep => step_inMode hget hw hP hstep) hinitial hclient

theorem run_captureMode_agrees_iff_gone :
    Along (step (Platform.bare (.minimal true)) countingModule)
      (fun _ _ w => w.helper.captureMode.Agrees w.helper.env) (World.initial 0 (some []) {})
      [.attachAudioEngineListener true, .onInputPipeChange (.running .ultrasonic),
        .pipesMoved (some []), .attachAudioEngineListener true] := by
  refine (run_captureMode_agrees_iff (p := Platform.bare (.minimal true))
    countingModule_succeeds.getConnectorModule rfl 0 (some []) {} _ (by decide)).2 ?_
  refine .of_step rfl (fun hbad => absurd hbad.sharing (by decide)) ?_
  refine .of_step rfl (fun hbad => (nomatch hbad.attaches.1)) ?_
  refine .of_step rfl (fun hbad => (nomatch hbad.attaches.1)) ?_
  exact .of_step rfl (fun hbad => absurd hbad.running (by decide)) trivial

theorem reattach_leaves_capture_closed :
    ∃ w : World Nat,
      run (step (Platform.bare (.minimal true)) countingModule) (World.initial 0 (some []) {})
        [.attachAudioEngineListener true, .onInputPipeChange (.running .ultrasonic),
          .attachAudioEngineListener true] = some w ∧
      w.helper.env.audioConcurrentCapture ∧ w.helper.env.audioCaptureActive ∧
      w.helper.captureMode.opened = false :=
  ⟨_, rfl, rfl, rfl, rfl⟩

end IntellVoice.Trigger
