import IntellVoice.Library.Run
import IntellVoice.Utils.StateManager

/-! `OnlyFirstWakeupEngineImpl` opens the audio source at the first-stage detection. -/

namespace IntellVoice.Wakeup.OnlyFirst
open Transition Utils

inductive State where
  | idle
  | initialized
  | recognized
  | readCapturer
deriving DecidableEq

inductive Event where
  | init
  | initDone
  | startRecognize
  | startCapturer
  | read
  | stopCapturer
  | readCapturerTimeout
  | getParam
  | release
  | recognizeCompleteTimeout
  | recordStart
deriving DecidableEq

inductive Msg where
  | init
  | initDone (result : Int)
  | startRecognize (uuid : Option Int) (audioManager sourceStarted : Bool)
  | startCapturer (permission : Int) (channels : Option Int)
  | read (ret : Option Int)
  | stopCapturer
  | readCapturerTimeout
  | getParam (key : Option String)
  | release (audioManager : Bool)
  | recognizeCompleteTimeout
  | recordStart (value : Option Int)

def Msg.msgId : Msg → Event
  | .init => .init
  | .initDone _ => .initDone
  | .startRecognize .. => .startRecognize
  | .startCapturer .. => .startCapturer
  | .read _ => .read
  | .stopCapturer => .stopCapturer
  | .readCapturerTimeout => .readCapturerTimeout
  | .getParam _ => .getParam
  | .release _ => .release
  | .recognizeCompleteTimeout => .recognizeCompleteTimeout
  | .recordStart _ => .recordStart

structure Data where
  audioSource : Option Nat := none
  sources : Nat := 0
  stopCallback : Bool := false
  recordStart : Int := -1

abbrev ImplHandler := Handler State Msg Data

abbrev Actions := StateActions State Event Msg Data

def intelligentVoiceStartCapturerFailed : Int := 22700105

def recognizeCompleteTimeoutUs : Int := 2 * 1000 * 1000
def readCapturerTimeoutUs : Int := 10 * 1000 * 1000

def createWakeupSourceStopCallback (d : Data) (audioManager : Bool) : Bool × Data :=
  if d.stopCallback then (true, d)
  else if audioManager then (true, { d with stopCallback := true })
  else (false, d)

def destroyWakeupSourceStopCallback (d : Data) (audioManager : Bool) : Data :=
  if d.stopCallback && audioManager then { d with stopCallback := false } else d

def startAudioSource (d : Data) (sourceStarted : Bool) : Bool × Data :=
  if sourceStarted then
    (true, { d with audioSource := some d.sources, sources := d.sources + 1 })
  else (false, { d with audioSource := none })

def stopAudioSource (d : Data) : Data := { d with audioSource := none }

def wakeupSource (d : Data) (audioManager sourceStarted : Bool) : Int × Data :=
  let (created, d) := createWakeupSourceStopCallback d audioManager
  if !created then (-1, d)
  else
    let (opened, d) := startAudioSource d sourceStarted
    (if opened then 0 else -1, d)

def handleGetParam : ImplHandler
  | .getParam (some _), _, d => ({}, d)
  | _, _, d => ({ ret := -1 }, d)

def handleInit : ImplHandler
  | _, _, d => ({ nextState := some .initialized }, d)

def handleStart : ImplHandler
  | .startRecognize (some _) audioManager sourceStarted, _, d =>
    let (ret, d) := wakeupSource d audioManager sourceStarted
    ({ ret, nextState := if ret = 0 then some .recognized else none }, d)
  | _, _, d => ({ ret := -1 }, d)

def handleStartCapturer : ImplHandler
  | .startCapturer permission channels, _, d =>
    if permission ≠ 0 then ({ ret := permission }, d)
    else if channels.isNone then ({ ret := intelligentVoiceStartCapturerFailed }, d)
    else ({ nextState := some .readCapturer }, d)
  | _, _, d => ({ ret := -1 }, d)

def handleRead : ImplHandler
  | .read (some ret), _, d => if ret ≠ 0 then ({ ret }, d) else ({ resets := 1 }, d)
  | _, _, d => ({ ret := -1 }, d)

def handleStopCapturer : ImplHandler
  | _, _, d => ({ nextState := some .initialized }, stopAudioSource d)

def handleRelease : ImplHandler
  | .release audioManager, _, d =>
    ({ nextState := some .idle },
      stopAudioSource (destroyWakeupSourceStopCallback d audioManager))
  | _, _, d => ({ ret := -1 }, d)

def handleRecordStart : ImplHandler
  | .recordStart (some value), _, d =>
    if value ≠ 0 ∧ value ≠ 1 then ({}, d)
    else
      let d := { d with recordStart := value }
      ({ nextState := some .initialized }, if value = 0 then stopAudioSource d else d)
  | _, _, d => ({ ret := -1 }, d)

def initStates (s : State) : Actions :=
  let all : Actions := ({ cfg := { type := .init } } : Actions).add .getParam handleGetParam
  match s with
  -- the release of the second range arrives in the first one as well
  | .idle => all |>.add .init handleInit |>.add .release handleRelease
  | .initialized => all |>.add .startRecognize handleStart |>.add .release handleRelease
  | .recognized => all
      |>.waitUntil .recognizeCompleteTimeout handleStopCapturer recognizeCompleteTimeoutUs
      |>.add .startCapturer handleStartCapturer
      |>.add .stopCapturer handleStopCapturer
      |>.add .recordStart handleRecordStart
      |>.add .release handleRelease
  | .readCapturer => all
      |>.waitUntil .readCapturerTimeout handleStopCapturer readCapturerTimeoutUs
      |>.add .read handleRead
      |>.add .stopCapturer handleStopCapturer
      |>.add .release handleRelease

def machine : ModuleStates State Event Msg Data where
  defaultState := .idle
  states s := some (initStates s)
  msgId := Msg.msgId

def resetSingleLevelWakeup (value : String) : Option Msg :=
  if value ≠ "true" ∧ value ≠ "false" then none
  else some (.recordStart (some (if value = "true" then 1 else 0)))

structure Impl where
  state : State := .idle
  data : Data := {}

namespace Impl

def handle (i : Impl) (m : Msg) : Impl :=
  let (_, state, data) := machine.handleMsg i.state m i.data
  { state, data }

def step (i : Impl) (m : Msg) : Option Impl := some (i.handle m)

end Impl

def State.capturing : State → Bool
  | .recognized | .readCapturer => true
  | .idle | .initialized => false

def Msg.Closes (m : Msg) (s : State) : Prop := s = .recognized → m ≠ .recordStart (some 1)

namespace Impl
variable {i j : Impl} {m : Msg}

structure Safe (i : Impl) (m : Msg) (j : Impl) : Prop where
  closed : j.state = .idle ∨ j.state = .initialized → j.data.audioSource = none
  single : m.msgId = .startRecognize → i.data.audioSource ≠ none → j.data.sources = i.data.sources

def Matched (i : Impl) : Prop := i.data.audioSource.isSome = i.state.capturing

lemma Matched.closed (h : i.Matched) (hs : i.state = .idle ∨ i.state = .initialized) :
    i.data.audioSource = none := by
  rw [← Option.isNone_iff_eq_none, ← Option.not_isSome, h]
  rcases hs with hs | hs <;> rw [hs] <;> rfl

lemma Matched.start {d : Data} (h : (⟨.initialized, d⟩ : Impl).Matched) (uuid : Option Int)
    (audioManager sourceStarted : Bool) :
    ((⟨.initialized, d⟩ : Impl).handle
      (.startRecognize uuid audioManager sourceStarted)).Matched := by
  cases uuid with
  | none => exact h
  | some uuid =>
    obtain ⟨audioSource, sources, stopCallback, recordStart⟩ := d
    cases stopCallback <;> cases audioManager <;> cases sourceStarted <;> first | rfl | exact h

lemma Matched.startCapturer {d : Data} (h : (⟨.recognized, d⟩ : Impl).Matched)
    (permission : Int) (channels : Option Int) :
    ((⟨.recognized, d⟩ : Impl).handle (.startCapturer permission channels)).Matched := by
  have hhandle : machine.handle .recognized (.startCapturer permission channels) d =
    handleStartCapturer (.startCapturer permission channels) .recognized d := rfl
  simp only [Impl.handle, ModuleStates.handleMsg, hhandle, handleStartCapturer]
  by_cases hpermission : permission ≠ 0
  · simp only [hpermission, ne_eq, not_false_eq_true, if_true, ModuleStates.next]
    exact h
  simp only [hpermission, if_false]
  cases channels with
  | none | some channels => exact h

lemma Matched.read {d : Data} (h : (⟨.readCapturer, d⟩ : Impl).Matched) (ret : Option Int) :
    ((⟨.readCapturer, d⟩ : Impl).handle (.read ret)).Matched := by
  have hhandle : machine.handle .readCapturer (.read ret) d =
    handleRead (.read ret) .readCapturer d := rfl
  cases ret with
  | none => exact h
  | some ret =>
    simp only [Impl.handle, ModuleStates.handleMsg, hhandle, handleRead]
    by_cases hret : ret ≠ 0
    · simp only [hret, ne_eq, not_false_eq_true, if_true, ModuleStates.next]
      exact h
    · simp only [hret, if_false]
      exact h

lemma Matched.recordStart {d : Data} (h : (⟨.recognized, d⟩ : Impl).Matched) (value : Option Int) :
    value ≠ some 1 ∧ ((⟨.recognized, d⟩ : Impl).handle (.recordStart value)).Matched ∨
      value = some 1 ∧ (⟨.recognized, d⟩ : Impl).handle (.recordStart value) =
        ⟨.initialized, { d with recordStart := 1 }⟩ := by
  cases value with
  | none => exact .inl ⟨by decide, h⟩
  | some value =>
    have hhandle : machine.handle .recognized (.recordStart (some value)) d =
      handleRecordStart (.recordStart (some value)) .recognized d := rfl
    by_cases hother : value ≠ 0 ∧ value ≠ 1
    · refine .inl ⟨by simp [hother.2], ?_⟩
      simp only [Impl.handle, ModuleStates.handleMsg, hhandle, handleRecordStart]
      rw [if_pos hother]
      exact h
    by_cases hone : value = 1
    · subst hone
      exact .inr ⟨rfl, rfl⟩
    · obtain rfl : value = 0 := by omega
      exact .inl ⟨by decide, rfl⟩

lemma Matched.handle (h : i.Matched) (m : Msg) : m.Closes i.state ∧ (i.handle m).Matched ∨
      ¬ m.Closes i.state ∧ (i.handle m).state = .initialized ∧
        (i.handle m).data.audioSource ≠ none := by
  obtain ⟨s, d⟩ := i
  cases m with
  | recordStart value =>
    cases s with
    | recognized =>
      rcases h.recordStart value with ⟨hvalue, hnext⟩ | ⟨rfl, hnext⟩
      · refine .inl ⟨fun _ hmsg => ?_, hnext⟩
        cases hmsg
        exact hvalue rfl
      · rw [hnext]
        refine .inr ⟨fun hcloses => hcloses rfl rfl, rfl, ?_⟩
        exact Option.isSome_iff_ne_none.1 h
    | _ => exact .inl ⟨fun hs => (by cases hs), h⟩
  | startRecognize uuid audioManager sourceStarted =>
    refine .inl ⟨fun _ hmsg => (by cases hmsg), ?_⟩
    cases s with
    | initialized => exact h.start uuid audioManager sourceStarted
    | _ => exact h
  | startCapturer permission channels =>
    refine .inl ⟨fun _ hmsg => (by cases hmsg), ?_⟩
    cases s with
    | recognized => exact h.startCapturer permission channels
    | _ => exact h
  | read ret =>
    refine .inl ⟨fun _ hmsg => (by cases hmsg), ?_⟩
    cases s with
    | readCapturer => exact h.read ret
    | _ => exact h
  | getParam key =>
    refine .inl ⟨fun _ hmsg => (by cases hmsg), ?_⟩
    cases key <;> cases s <;> exact h
  | release audioManager =>
    refine .inl ⟨fun _ hmsg => (by cases hmsg), ?_⟩
    cases s <;> rfl
  | init | stopCapturer | readCapturerTimeout | recognizeCompleteTimeout | initDone =>
    refine .inl ⟨fun _ hmsg => (by cases hmsg), ?_⟩
    cases s <;> first | exact h | rfl

lemma sources_handle (i : Impl) {m : Msg} (hm : m.msgId = .startRecognize)
    (hs : i.state ≠ .initialized) : (i.handle m).data.sources = i.data.sources := by
  obtain ⟨s, d⟩ := i
  cases m with
  | startRecognize uuid audioManager sourceStarted =>
    cases s with
    | initialized => exact absurd rfl hs
    | _ => rfl
  | _ => cases hm

lemma Matched.safe (h : i.Matched) (m : Msg) (hnext : (i.handle m).Matched) :
    i.Safe m (i.handle m) where
  closed := hnext.closed
  single := by
    intro hm hopen
    apply sources_handle i hm
    intro hs
    exact hopen (h.closed (.inr hs))

theorem run_safe_iff (ms : List Msg) :
    Along step Safe {} ms ↔ Along step (fun i m _ => m.Closes i.state) {} ms := by
  have hstep : ∀ i m j, Matched i → True → step i m = some j →
      (Safe i m j ↔ m.Closes i.state) ∧ (m.Closes i.state → j.Matched) := by
    rintro i m j h - ⟨⟩
    rcases h.handle m with ⟨hcloses, hnext⟩ | ⟨hleaves, hstate, hopen⟩
    · exact ⟨⟨fun _ => hcloses, fun _ => h.safe m hnext⟩, fun _ => hnext⟩
    refine ⟨⟨fun hsafe => ?_, fun hcloses => absurd hcloses hleaves⟩,
      fun hcloses => absurd hcloses hleaves⟩
    exact absurd (hsafe.closed (.inr hstate)) hopen
  exact along_iff (I := Matched) (P := fun _ => True) hstep rfl fun _ _ => trivial

theorem record_start_leaves_source_open :
    ¬ Along step Safe {} ([.init, .startRecognize (some 1) true true] ++
      (resetSingleLevelWakeup "true").toList ++ [.startRecognize (some 1) true true]) := by
  intro h
  have hlast := (h _ rfl).2
  replace hlast := (hlast _ rfl).2
  -- the second start alone is already unsafe
  have hsecond := ((hlast _ rfl).2 _ rfl).1.single rfl (by decide)
  cases hsecond

end Impl
end IntellVoice.Wakeup.OnlyFirst
