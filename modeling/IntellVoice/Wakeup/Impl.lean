import IntellVoice.Utils.StateManager

/-! The implementations that recognise the word, on phone or accessory. -/

namespace IntellVoice.Wakeup
open Utils

inductive EngineState where
  | idle
  | initializing
  | initialized
  | recognizing
  | recognized
  | readCapturer
deriving DecidableEq

def EngineState.code : EngineState → Nat
  | .idle => 0
  | .initializing => 1
  | .initialized => 2
  | .recognizing => 3
  | .recognized => 4
  | .readCapturer => 5

def EngineState.inProcess (s : EngineState) : Bool := decide (EngineState.initialized.code < s.code)

inductive EngineEvent where
  | none
  | init
  | initDone
  | startRecognize
  | stopRecognize
  | recognizeComplete
  | startCapturer
  | read
  | stopCapturer
  | recognizingTimeout
  | recognizeCompleteTimeout
  | readCapturerTimeout
  | setListener
  | setParam
  | getParam
  | getWakeupPcm
  | releaseAdapter
  | resetAdapter
  | release
deriving DecidableEq

structure Report where
  serial : Nat
  adapter : Nat
  starts : Nat

inductive EngineMessageType where
  | initDone
  | recognizeComplete
  | headsetRecognizeComplete
  | other (msgId : Nat)
deriving DecidableEq

structure CallBackEvent where
  msgId : EngineMessageType
  result : Int
  info : String
  report : Report

structure WakeupAdapterListener where
  cb : Option Nat := none
  historyEvent : Option CallBackEvent := none
  delivered : List (Nat × CallBackEvent) := []

namespace WakeupAdapterListener

def setCallback (l : WakeupAdapterListener) (cb : Option Nat) : WakeupAdapterListener :=
  match cb, l.historyEvent with
  | none, _ => { l with cb := none }
  | some c, none => { l with cb := some c }
  | some c, some e =>
    { cb := some c, historyEvent := none, delivered := l.delivered ++ [(c, e)] }

def clearBackupEvent (l : WakeupAdapterListener) : WakeupAdapterListener :=
  { l with historyEvent := none }

def isRecognizeComplete (e : CallBackEvent) : Bool :=
  e.msgId = .recognizeComplete || e.msgId = .headsetRecognizeComplete

def backupCallBackEvent (l : WakeupAdapterListener) (e : CallBackEvent) : WakeupAdapterListener :=
  if isRecognizeComplete e then { l with historyEvent := some e } else l

def notify (l : WakeupAdapterListener) (e : CallBackEvent) : WakeupAdapterListener :=
  match l.cb with
  | none => l.backupCallBackEvent e
  | some c =>
    let cleared := { l with historyEvent := none }
    if isRecognizeComplete e then { cleared with delivered := l.delivered ++ [(c, e)] } else cleared

end WakeupAdapterListener

structure SetListenerMsg where
  callback : Option Nat

inductive StateMsg where
  | none
  | init (created attached : Bool)
  | initDone (result : Option Int)
  | startRecognize (uuid : Option Int) (started stopCallback sourceStarted : Bool)
  | stopRecognize
  | recognizeComplete (event : Option CallBackEvent)
  | startCapturer (permission : Int) (channels : Option Int) (recorded : Bool)
  | read (ret : Option Int)
  | stopCapturer
  | recognizingTimeout
  | recognizeCompleteTimeout
  | readCapturerTimeout
  | setListener (msg : Option SetListenerMsg)
  | setParam (ret : Int)
  | getParam (ret : Int)
  | getWakeupPcm (ret : Int)
  | releaseAdapter
  | resetAdapter (created attached : Bool)
  | release

def StateMsg.msgId : StateMsg → EngineEvent
  | .none => .none
  | .init .. => .init
  | .initDone _ => .initDone
  | .startRecognize .. => .startRecognize
  | .stopRecognize => .stopRecognize
  | .recognizeComplete _ => .recognizeComplete
  | .startCapturer .. => .startCapturer
  | .read _ => .read
  | .stopCapturer => .stopCapturer
  | .recognizingTimeout => .recognizingTimeout
  | .recognizeCompleteTimeout => .recognizeCompleteTimeout
  | .readCapturerTimeout => .readCapturerTimeout
  | .setListener _ => .setListener
  | .setParam _ => .setParam
  | .getParam _ => .getParam
  | .getWakeupPcm _ => .getWakeupPcm
  | .releaseAdapter => .releaseAdapter
  | .resetAdapter .. => .resetAdapter
  | .release => .release

structure ImplData where
  adapter : Option Nat := none
  adapters : Nat := 0
  callback : Bool := false
  starts : Nat := 0
  audioSource : Bool := false
  needSecondStageWakeup : Bool := true
  listener : WakeupAdapterListener := {}

abbrev ImplHandler := Handler EngineState StateMsg ImplData

abbrev ImplActions := StateActions EngineState EngineEvent StateMsg ImplData

def intelligentVoiceStartCapturerFailed : Int := 22700105

def recognizingTimeoutUs : Int := 10 * 1000 * 1000
def recognizeCompleteTimeoutUs : Int := 2 * 1000 * 1000
def readCapturerTimeoutUs : Int := 10 * 1000 * 1000

namespace ImplData

def createAdapterInner (d : ImplData) (created : Bool) : ImplData :=
  if created then { d with adapter := some d.adapters, adapters := d.adapters + 1 }
  else { d with adapter := none }

def stopAudioSource (d : ImplData) : ImplData := { d with audioSource := false }

def releaseAdapterInner (d : ImplData) : ImplData := { d with adapter := none }

end ImplData

def answer (ret : Int) (d : ImplData) : Outcome EngineState × ImplData := ({ ret }, d)

def goto (next : EngineState) (d : ImplData) : Outcome EngineState × ImplData :=
  ({ nextState := some next }, d)

namespace Shared

def handleInit : ImplHandler
  | .init created attached, _, d =>
    let d := d.createAdapterInner created
    if !created then answer (-1) d
    else
      -- `SetCallbackInner`
      let d := { d with callback := true }
      if attached then goto .initializing d else answer (-1) d
  | _, _, d => answer (-1) d

def handleResetAdapter : ImplHandler
  | .resetAdapter created attached, _, d =>
    let d := d.createAdapterInner created
    if !created then answer (-1) d
    else if attached then goto .initializing d
    else answer (-1) d.releaseAdapterInner
  | _, _, d => answer (-1) d

def handleInitDone : ImplHandler
  | .initDone (some result), _, d => if result ≠ 0 then answer (-1) d else goto .initialized d
  | _, _, d => answer (-1) d

def handleSetListener : ImplHandler
  | .setListener (some msg), _, d =>
    ({}, { d with listener := d.listener.setCallback msg.callback })
  | _, _, d => answer (-1) d

def handleStop : ImplHandler
  | _, _, d => goto .initialized d.stopAudioSource

def handleRecognizeComplete : ImplHandler
  | .recognizeComplete (some e), _, d =>
    let d := { d with listener := d.listener.notify e }
    if e.result ≠ 0 then goto .initialized d.stopAudioSource else goto .recognized d
  | _, _, d => answer (-1) d

def handleStopCapturer : ImplHandler
  | _, _, d => goto .initialized d.stopAudioSource

def handleRecognizingTimeout : ImplHandler
  | _, _, d => goto .initialized d.stopAudioSource

def handleRelease : ImplHandler
  | _, _, d => goto .idle d.stopAudioSource.releaseAdapterInner

def handleStartCapturer : ImplHandler
  | .startCapturer _ (some _) _, _, d => goto .readCapturer d
  | _, _, d => answer (-1) d

def handleRead : ImplHandler
  | .read (some ret), _, d => if ret ≠ 0 then answer ret d else ({ resets := 1 }, d)
  | _, _, d => answer (-1) d

def handleSetParam : ImplHandler
  | .setParam ret, _, d => answer ret d
  | _, _, d => answer (-1) d

end Shared

namespace Phone

def handleSetListener := Shared.handleSetListener
def handleSetParam := Shared.handleSetParam

def handleGetParam : ImplHandler
  | .getParam ret, _, d => answer ret d
  | _, _, d => answer (-1) d

def handleInit := Shared.handleInit
def handleResetAdapter := Shared.handleResetAdapter
def handleInitDone := Shared.handleInitDone

def handleStart : ImplHandler
  | .startRecognize (some _) started stopCallback sourceStarted, _, d =>
    if d.adapter.isNone then answer (-1) d
    else if !started then answer (-1) d
    else
      let d := { d with starts := d.starts + 1 }
      if !stopCallback then answer (-1) d
      else if !sourceStarted then answer (-1) d.stopAudioSource
      else goto .recognizing { d with audioSource := true }
  | _, _, d => answer (-1) d

def handleRecognizingTimeout := Shared.handleRecognizingTimeout
def handleStop := Shared.handleStop
def handleRecognizeComplete := Shared.handleRecognizeComplete

def handleStopCapturer : ImplHandler
  | _, _, d => goto .initialized { d.stopAudioSource with listener := d.listener.clearBackupEvent }

def handleStopCapturerTimeout : ImplHandler := handleStopCapturer

def handleGetWakeupPcm : ImplHandler
  | .getWakeupPcm ret, _, d => answer ret d
  | _, _, d => answer (-1) d

def handleStartCapturer : ImplHandler
  | .startCapturer permission channels recorded, _, d =>
    if permission ≠ 0 then answer permission d
    else if channels.isNone then answer intelligentVoiceStartCapturerFailed d
    else if recorded then goto .readCapturer d else answer (-1) d
  | _, _, d => answer (-1) d

def handleRead := Shared.handleRead
def handleRelease := Shared.handleRelease

def initStates (s : EngineState) : ImplActions :=
  let all : ImplActions := (({ cfg := { type := .none } } : ImplActions)
    |>.add .setListener handleSetListener
    |>.add .setParam handleSetParam
    |>.add .getParam handleGetParam)
  let releasable (a : ImplActions) : ImplActions :=
    a |>.add .releaseAdapter handleRelease |>.add .release handleRelease
  match s with
  | .idle => all |>.add .init handleInit |>.add .resetAdapter handleResetAdapter
  | .initializing => releasable (all |>.add .initDone handleInitDone)
  | .initialized => releasable (all |>.add .startRecognize handleStart)
  | .recognizing => releasable (all
      |>.waitUntil .recognizingTimeout handleRecognizingTimeout recognizingTimeoutUs
      |>.add .stopRecognize handleStop
      |>.add .recognizeComplete handleRecognizeComplete)
  | .recognized => releasable (all
      |>.waitUntil .recognizeCompleteTimeout handleStopCapturerTimeout recognizeCompleteTimeoutUs
      |>.add .getWakeupPcm handleGetWakeupPcm
      |>.add .startCapturer handleStartCapturer)
  | .readCapturer => releasable (all
      |>.waitUntil .readCapturerTimeout handleStopCapturerTimeout readCapturerTimeoutUs
      |>.add .read handleRead
      |>.add .stopCapturer handleStopCapturer)

end Phone

namespace Headset

def handleSetListener := Shared.handleSetListener
def handleSetParam := Shared.handleSetParam
def handleInit := Shared.handleInit
def handleResetAdapter := Shared.handleResetAdapter
def handleInitDone := Shared.handleInitDone

def handleStart : ImplHandler
  | .startRecognize _ started _ _, _, d =>
    if !d.needSecondStageWakeup then goto .recognized d
    else if d.adapter.isNone then answer (-1) d
    else if !started then answer (-1) d
    else goto .recognizing { d with starts := d.starts + 1, audioSource := true }
  | _, _, d => answer (-1) d

def handleRecognizingTimeout := Shared.handleRecognizingTimeout
def handleStop := Shared.handleStop
def handleRecognizeComplete := Shared.handleRecognizeComplete
def handleStopCapturer := Shared.handleStopCapturer
def handleStartCapturer := Shared.handleStartCapturer
def handleRead := Shared.handleRead
def handleRelease := Shared.handleRelease

def initStates (s : EngineState) : ImplActions :=
  let all : ImplActions := (({ cfg := { type := .none } } : ImplActions)
    |>.add .setListener handleSetListener
    |>.add .setParam handleSetParam)
  let releasable (a : ImplActions) : ImplActions :=
    a |>.add .releaseAdapter handleRelease |>.add .release handleRelease
  match s with
  | .idle => all |>.add .init handleInit |>.add .resetAdapter handleResetAdapter
  | .initializing => releasable (all |>.add .initDone handleInitDone)
  | .initialized => releasable (all |>.add .startRecognize handleStart)
  | .recognizing => releasable (all
      |>.waitUntil .recognizingTimeout handleRecognizingTimeout recognizingTimeoutUs
      |>.add .stopRecognize handleStop
      |>.add .recognizeComplete handleRecognizeComplete)
  | .recognized => releasable (all
      |>.waitUntil .recognizeCompleteTimeout handleStopCapturer recognizeCompleteTimeoutUs
      |>.add .startCapturer handleStartCapturer)
  | .readCapturer => releasable (all
      |>.waitUntil .readCapturerTimeout handleStopCapturer readCapturerTimeoutUs
      |>.add .read handleRead
      |>.add .stopCapturer handleStopCapturer)

end Headset

namespace Glasses

def handleSetListener := Shared.handleSetListener

def handleSetParam : ImplHandler
  | _, _, d => ({}, d)

def handleInit : ImplHandler
  | _, _, d => goto .initialized { d with callback := true }

def handleResetAdapter : ImplHandler := handleInit

def handleStart : ImplHandler
  | _, _, d =>
    if d.needSecondStageWakeup then goto .recognizing d
    else goto .recognized { d with audioSource := true }

def handleRecognizingTimeout : ImplHandler
  | _, _, d => goto .initialized d

def handleStop := Shared.handleStop

def handleRecognizeComplete : ImplHandler
  | .recognizeComplete (some e), _, d =>
    let d := { d with listener := d.listener.notify e }
    if e.result ≠ 0 then goto .initialized d else goto .recognized { d with audioSource := true }
  | _, _, d => answer (-1) d

def handleStopCapturer := Shared.handleStopCapturer
def handleStartCapturer := Shared.handleStartCapturer
def handleRead := Shared.handleRead

def handleRelease : ImplHandler
  | _, _, d => goto .idle { d.stopAudioSource with callback := false }

def initStates (s : EngineState) : ImplActions :=
  let all : ImplActions := (({ cfg := { type := .none } } : ImplActions)
    |>.add .setListener handleSetListener
    |>.add .setParam handleSetParam)
  let releasable (a : ImplActions) : ImplActions :=
    a |>.add .releaseAdapter handleRelease |>.add .release handleRelease
  match s with
  | .idle => all |>.add .init handleInit |>.add .resetAdapter handleResetAdapter
  | .initializing => releasable all
  | .initialized => releasable (all |>.add .startRecognize handleStart)
  | .recognizing => releasable (all
      |>.waitUntil .recognizingTimeout handleRecognizingTimeout recognizingTimeoutUs
      |>.add .stopRecognize handleStop
      |>.add .recognizeComplete handleRecognizeComplete)
  | .recognized => releasable (all
      |>.waitUntil .recognizeCompleteTimeout handleStopCapturer recognizeCompleteTimeoutUs
      |>.add .startCapturer handleStartCapturer)
  | .readCapturer => releasable (all
      |>.waitUntil .readCapturerTimeout handleStopCapturer readCapturerTimeoutUs
      |>.add .read handleRead
      |>.add .stopCapturer handleStopCapturer)

end Glasses

inductive ImplKind where
  | phone
  | headset
  | glasses
deriving DecidableEq

def ImplKind.initStates : ImplKind → EngineState → ImplActions
  | .phone => Phone.initStates
  | .headset => Headset.initStates
  | .glasses => Glasses.initStates

def ImplKind.machine (k : ImplKind) : ModuleStates EngineState EngineEvent StateMsg ImplData where
  defaultState := .idle
  states s := some (k.initStates s)
  msgId := StateMsg.msgId

def settle (s : EngineState) (r : Outcome EngineState × ImplData) : Int × EngineState × ImplData :=
  if r.1.ret ≠ 0 then (r.1.ret, s, r.2) else (0, r.1.nextState.getD s, r.2)

@[simp] lemma settle_answer (s : EngineState) (ret : Int) (d : ImplData) :
    settle s (answer ret d) = (ret, s, d) := by
  by_cases hret : ret = 0 <;> simp [settle, answer, hret]

@[simp] lemma settle_goto (s next : EngineState) (d : ImplData) :
    settle s (goto next d) = (0, next, d) := rfl

lemma handleMsg_of_actions {k : ImplKind} {s : EngineState} {m : StateMsg} {d : ImplData}
    {f : ImplHandler} (hactions : (k.initStates s).actions m.msgId = some f) :
    k.machine.handleMsg s m d = settle s (f m s d) := by
  have hhandle : k.machine.handle s m d = f m s d := k.machine.handle_of_actions rfl hactions d
  have hnext : (k.machine.next s (f m s d).1).getD s =
      if (f m s d).1.ret ≠ 0 then s else (f m s d).1.nextState.getD s := by
    unfold ModuleStates.next
    by_cases hret : (f m s d).1.ret ≠ 0
    · simp [hret]
    by_cases hsame : s = (f m s d).1.nextState.getD s
    · simp [hret, ← hsame]
    · simp [hret, hsame, ImplKind.machine]
  unfold ModuleStates.handleMsg settle
  rw [hhandle]
  simp only [hnext]
  split
  · rfl
  · rename_i hret
    rw [not_not.1 hret]

end IntellVoice.Wakeup
