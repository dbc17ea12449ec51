import IntellVoice.Utils.Registration
import IntellVoice.Wakeup.Impl
import IntellVoice.Wakeup.OnlyFirst

/-! The calls of each `InitStates` in their order. -/

namespace IntellVoice.Wakeup
open History Utils EngineState
open EngineState (initializing recognizing)

instance : Inhabited EngineEvent := ⟨.none⟩

abbrev ImplCall := BuildCall EngineEvent ImplHandler

def forAllStates (chain : List (Registration EngineEvent ImplHandler)) : List ImplCall :=
  (Int.range idle.code (readCapturer.code + 1)).map
    fun i => .forState i chain

def releasableFrom (handleRelease : ImplHandler) : ImplCall :=
  .fromState initializing.code readCapturer.code
    [(.releaseAdapter, handleRelease), (.release, handleRelease)]

namespace Phone

def ownCalls : List ImplCall :=
  [.forState idle.code
    [.act .init handleInit, .act .resetAdapter handleResetAdapter],
  .forState initializing.code [.act .initDone handleInitDone],
  .forState initialized.code [.act .startRecognize handleStart],
  .forState recognizing.code
    [.waitUntil .recognizingTimeout handleRecognizingTimeout recognizingTimeoutUs,
      .act .stopRecognize handleStop, .act .recognizeComplete handleRecognizeComplete],
  .forState recognized.code
    [.waitUntil .recognizeCompleteTimeout handleStopCapturerTimeout recognizeCompleteTimeoutUs,
      .act .getWakeupPcm handleGetWakeupPcm, .act .startCapturer handleStartCapturer],
  .forState readCapturer.code
    [.waitUntil .readCapturerTimeout handleStopCapturerTimeout readCapturerTimeoutUs,
      .act .read handleRead, .act .stopCapturer handleStopCapturer]]

def stateCalls : List ImplCall :=
  forAllStates [.act .setListener handleSetListener, .act .setParam handleSetParam,
    .act .getParam handleGetParam] ++ ownCalls

end Phone

namespace Headset

def ownCalls : List ImplCall :=
  [.forState idle.code
    [.act .init handleInit, .act .resetAdapter handleResetAdapter],
  .forState initializing.code [.act .initDone handleInitDone],
  .forState initialized.code [.act .startRecognize handleStart],
  .forState recognizing.code
    [.waitUntil .recognizingTimeout handleRecognizingTimeout recognizingTimeoutUs,
      .act .stopRecognize handleStop, .act .recognizeComplete handleRecognizeComplete],
  .forState recognized.code
    [.waitUntil .recognizeCompleteTimeout handleStopCapturer recognizeCompleteTimeoutUs,
      .act .startCapturer handleStartCapturer],
  .forState readCapturer.code
    [.waitUntil .readCapturerTimeout handleStopCapturer readCapturerTimeoutUs,
      .act .read handleRead, .act .stopCapturer handleStopCapturer]]

def stateCalls : List ImplCall :=
  forAllStates [.act .setListener handleSetListener, .act .setParam handleSetParam] ++ ownCalls

end Headset

namespace Glasses

def ownCalls : List ImplCall :=
  [.forState idle.code
    [.act .init handleInit, .act .resetAdapter handleResetAdapter],
  .forState initialized.code [.act .startRecognize handleStart],
  .forState recognizing.code
    [.waitUntil .recognizingTimeout handleRecognizingTimeout recognizingTimeoutUs,
      .act .stopRecognize handleStop, .act .recognizeComplete handleRecognizeComplete],
  .forState recognized.code
    [.waitUntil .recognizeCompleteTimeout handleStopCapturer recognizeCompleteTimeoutUs,
      .act .startCapturer handleStartCapturer],
  .forState readCapturer.code
    [.waitUntil .readCapturerTimeout handleStopCapturer readCapturerTimeoutUs,
      .act .read handleRead, .act .stopCapturer handleStopCapturer]]

def stateCalls : List ImplCall :=
  forAllStates [.act .setListener handleSetListener, .act .setParam handleSetParam] ++ ownCalls

end Glasses

def ImplKind.buildCalls : ImplKind → List ImplCall
  | .phone => Phone.stateCalls ++ [releasableFrom Phone.handleRelease]
  | .headset => Headset.stateCalls ++ [releasableFrom Headset.handleRelease]
  | .glasses => Glasses.stateCalls ++ [releasableFrom Glasses.handleRelease]

lemma ImplKind.states_build (k : ImplKind) (s : EngineState) :
    (Registry.build k.buildCalls).states s.code = k.machine.states s := by
  cases k <;> cases s <;> rfl

lemma ImplKind.handler_build (k : ImplKind) (s : Int) (m : EngineEvent) :
    (Registry.build k.buildCalls).handler s m = latest (BuildCall.own s m) k.buildCalls := by
  have hstates : ∀ {calls : List ImplCall}, calls.all (fun c => !c.isRange) →
      ∀ c ∈ calls, c.isRange = false := by
    intro calls hall c hc
    simpa using List.all_eq_true.1 hall c hc
  cases k with
  | phone => exact Registry.handler_of_single_range Phone.stateCalls (hstates rfl) _ s m
  | headset => exact Registry.handler_of_single_range Headset.stateCalls (hstates rfl) _ s m
  | glasses => exact Registry.handler_of_single_range Glasses.stateCalls (hstates rfl) _ s m

namespace OnlyFirst

instance : Inhabited Event := ⟨.init⟩

def State.code : State → Nat
  | .idle => 0
  | .initialized => 1
  | .recognized => 2
  | .readCapturer => 3

def buildCalls : List (BuildCall Event ImplHandler) :=
  [.fromState State.idle.code State.readCapturer.code [(.getParam, handleGetParam)],
  .forState State.idle.code [.act .init handleInit],
  .forState State.initialized.code [.act .startRecognize handleStart],
  .forState State.recognized.code
    [.waitUntil .recognizeCompleteTimeout handleStopCapturer recognizeCompleteTimeoutUs,
      .act .startCapturer handleStartCapturer, .act .stopCapturer handleStopCapturer,
      .act .recordStart handleRecordStart],
  .forState State.readCapturer.code
    [.waitUntil .readCapturerTimeout handleStopCapturer readCapturerTimeoutUs,
      .act .read handleRead, .act .stopCapturer handleStopCapturer],
  .fromState State.initialized.code State.readCapturer.code [(.release, handleRelease)]]

lemma states_build (s : State) : (Registry.build buildCalls).states s.code = machine.states s := by
  cases s with
  | idle => rfl
  -- the states that are in both ranges get the handler of the second one twice
  | _ => exact congrArg some (StateActions.add_add _ Event.release handleRelease)

theorem release_handled_in_idle :
    latest (BuildCall.own State.idle.code .release) buildCalls = none ∧
      (Registry.build buildCalls).handler State.idle.code .release ≠
        latest (BuildCall.own State.idle.code .release) buildCalls := by
  have hlaw : latest (BuildCall.own State.idle.code .release) buildCalls = none := rfl
  have hbuilt : (Registry.build buildCalls).handler State.idle.code .release =
    some handleRelease := rfl
  refine ⟨hlaw, ?_⟩
  rw [hlaw, hbuilt]
  exact Option.some_ne_none _

end OnlyFirst

theorem registered_tables :
    (∀ (k : ImplKind) (s : EngineState),
      (Registry.build k.buildCalls).states s.code = k.machine.states s) ∧
    (∀ s : OnlyFirst.State,
      (Registry.build OnlyFirst.buildCalls).states s.code = OnlyFirst.machine.states s) ∧
    ∀ (k : ImplKind) (s : Int) (m : EngineEvent),
      (Registry.build k.buildCalls).handler s m = latest (BuildCall.own s m) k.buildCalls :=
  ⟨ImplKind.states_build, OnlyFirst.states_build, ImplKind.handler_build⟩

end IntellVoice.Wakeup
