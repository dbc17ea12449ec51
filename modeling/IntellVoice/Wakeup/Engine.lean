import IntellVoice.Library.BoundedQueue
import IntellVoice.Library.Run
import IntellVoice.Wakeup.Impl

/-! `WakeupEngineImpl` gets messages from facade, timer thread and executor. -/

namespace IntellVoice.Wakeup
open Transition Utils

inductive Phone.Reaction : EngineState → ImplData → StateMsg → EngineState → ImplData → Prop
  | none {s d m} : Reaction s d m s d
  | setListener {s d} (msg : SetListenerMsg) :
      Reaction s d (.setListener (some msg)) s
        { d with listener := d.listener.setCallback msg.callback }
  | create {d m st d'} (hm : m.msgId = .init ∨ m.msgId = .resetAdapter)
      (hst : st = .idle ∨ st = .initializing) (hlistener : d'.listener = d.listener)
      (haudio : d'.audioSource = d.audioSource) : Reaction .idle d m st d'
  | initDone {d} : Reaction .initializing d (.initDone (some 0)) .initialized d
  | start {d m st d'} (hm : m.msgId = .startRecognize)
      (hst : st = .initialized ∨ st = .recognizing) (hlistener : d'.listener = d.listener)
      (haudio : st = .initialized → d'.audioSource → d.audioSource) :
      Reaction .initialized d m st d'
  | stop {d m} : Reaction .recognizing d m .initialized d.stopAudioSource
  | failed {d e} (hresult : e.result ≠ 0) :
      Reaction .recognizing d (.recognizeComplete (some e)) .initialized
        { d.stopAudioSource with listener := d.listener.notify e }
  | recognized {d e} :
      Reaction .recognizing d (.recognizeComplete (some e)) .recognized
        { d with listener := d.listener.notify e }
  | startCapturer {d m} : Reaction .recognized d m .readCapturer d
  | stopCapturer {s d m} (hs : s = .recognized ∨ s = .readCapturer) :
      Reaction s d m .initialized
        { d.stopAudioSource with listener := d.listener.clearBackupEvent }
  | release {s d m} (hm : m.msgId = .release ∨ m.msgId = .releaseAdapter) :
      Reaction s d m .idle d.stopAudioSource.releaseAdapterInner

namespace Phone

lemma reaction_init (d : ImplData) (created attached : Bool) :
    Reaction .idle d (.init created attached)
      (settle .idle (handleInit (.init created attached) .idle d)).2.1
      (settle .idle (handleInit (.init created attached) .idle d)).2.2 := by
  cases created with
  | false => exact .create (.inl rfl) (.inl rfl) rfl rfl
  | true =>
    cases attached with
    | false => exact .create (.inl rfl) (.inl rfl) rfl rfl
    | true => exact .create (.inl rfl) (.inr rfl) rfl rfl

lemma reaction_resetAdapter (d : ImplData) (created attached : Bool) :
    Reaction .idle d (.resetAdapter created attached)
      (settle .idle (handleResetAdapter (.resetAdapter created attached) .idle d)).2.1
      (settle .idle (handleResetAdapter (.resetAdapter created attached) .idle d)).2.2 := by
  cases created with
  | false => exact .create (.inr rfl) (.inl rfl) rfl rfl
  | true =>
    cases attached with
    | false => exact .create (.inr rfl) (.inl rfl) rfl rfl
    | true => exact .create (.inr rfl) (.inr rfl) rfl rfl

lemma reaction_initDone (d : ImplData) (result : Option Int) :
    Reaction .initializing d (.initDone result)
      (settle .initializing (handleInitDone (.initDone result) .initializing d)).2.1
      (settle .initializing (handleInitDone (.initDone result) .initializing d)).2.2 := by
  cases result with
  | none => exact .none
  | some result =>
    simp only [handleInitDone, Shared.handleInitDone]
    split
    · rw [settle_answer]
      exact .none
    · obtain rfl : result = 0 := not_not.1 ‹_›
      exact .initDone

lemma reaction_start (d : ImplData) (uuid : Option Int)
    (started stopCallback sourceStarted : Bool) :
    Reaction .initialized d (.startRecognize uuid started stopCallback sourceStarted)
      (settle .initialized (handleStart
        (.startRecognize uuid started stopCallback sourceStarted) .initialized d)).2.1
      (settle .initialized (handleStart
        (.startRecognize uuid started stopCallback sourceStarted) .initialized d)).2.2 := by
  cases uuid with
  | none => exact .none
  | some uuid =>
    simp only [handleStart]
    repeat' split
    all_goals first
      | exact .start rfl (.inl rfl) rfl fun _ h => h
      | exact .start rfl (.inl rfl) rfl fun _ h => by cases h
      | exact .start rfl (.inr rfl) rfl fun h => by cases h

lemma reaction_recognizeComplete (d : ImplData) (e : Option CallBackEvent) :
    Reaction .recognizing d (.recognizeComplete e)
      (settle .recognizing (handleRecognizeComplete (.recognizeComplete e) .recognizing d)).2.1
      (settle .recognizing
        (handleRecognizeComplete (.recognizeComplete e) .recognizing d)).2.2 := by
  cases e with
  | none => exact .none
  | some e =>
    simp only [handleRecognizeComplete, Shared.handleRecognizeComplete]
    split
    · exact .failed ‹_›
    · exact .recognized

lemma reaction_startCapturer (d : ImplData) (permission : Int) (channels : Option Int)
    (recorded : Bool) : Reaction .recognized d (.startCapturer permission channels recorded)
      (settle .recognized (handleStartCapturer
        (.startCapturer permission channels recorded) .recognized d)).2.1
      (settle .recognized (handleStartCapturer
        (.startCapturer permission channels recorded) .recognized d)).2.2 := by
  simp only [handleStartCapturer]
  repeat' split
  all_goals first
    | exact .startCapturer
    | (rw [settle_answer]; exact .none)

lemma reaction_read (d : ImplData) (ret : Option Int) : Reaction .readCapturer d (.read ret)
      (settle .readCapturer (handleRead (.read ret) .readCapturer d)).2.1
      (settle .readCapturer (handleRead (.read ret) .readCapturer d)).2.2 := by
  cases ret with
  | none => exact .none
  | some ret =>
    simp only [handleRead, Shared.handleRead]
    split
    · rw [settle_answer]
      exact .none
    · exact .none

lemma reaction (s : EngineState) (d : ImplData) (m : StateMsg) :
    Reaction s d m (ImplKind.phone.machine.handleMsg s m d).2.1
      (ImplKind.phone.machine.handleMsg s m d).2.2 := by
  cases m with
  | setListener msg =>
    cases msg with
    | none => cases s <;> exact .none
    | some msg => cases s <;> exact .setListener msg
  | setParam ret =>
    rw [handleMsg_of_actions (f := handleSetParam) (by cases s <;> rfl)]
    simp only [handleSetParam, Shared.handleSetParam, settle_answer]
    exact .none
  | getParam ret =>
    rw [handleMsg_of_actions (f := handleGetParam) (by cases s <;> rfl)]
    simp only [handleGetParam, settle_answer]
    exact .none
  | init created attached =>
    cases s with
    | idle =>
      rw [handleMsg_of_actions (f := handleInit) rfl]
      exact reaction_init d created attached
    | _ => exact .none
  | resetAdapter created attached =>
    cases s with
    | idle =>
      rw [handleMsg_of_actions (f := handleResetAdapter) rfl]
      exact reaction_resetAdapter d created attached
    | _ => exact .none
  | initDone result =>
    cases s with
    | initializing =>
      rw [handleMsg_of_actions (f := handleInitDone) rfl]
      exact reaction_initDone d result
    | _ => exact .none
  | startRecognize uuid started stopCallback sourceStarted =>
    cases s with
    | initialized =>
      rw [handleMsg_of_actions (f := handleStart) rfl]
      exact reaction_start d uuid started stopCallback sourceStarted
    | _ => exact .none
  | recognizeComplete e =>
    cases s with
    | recognizing =>
      rw [handleMsg_of_actions (f := handleRecognizeComplete) rfl]
      exact reaction_recognizeComplete d e
    | _ => exact .none
  | stopRecognize | recognizingTimeout =>
    cases s with
    | recognizing => exact .stop
    | _ => exact .none
  | startCapturer permission channels recorded =>
    cases s with
    | recognized =>
      rw [handleMsg_of_actions (f := handleStartCapturer) rfl]
      exact reaction_startCapturer d permission channels recorded
    | _ => exact .none
  | getWakeupPcm ret =>
    cases s with
    | recognized =>
      rw [handleMsg_of_actions (f := handleGetWakeupPcm) rfl]
      simp only [handleGetWakeupPcm, settle_answer]
      exact .none
    | _ => exact .none
  | recognizeCompleteTimeout =>
    cases s with
    | recognized => exact .stopCapturer (.inl rfl)
    | _ => exact .none
  | read ret =>
    cases s with
    | readCapturer =>
      rw [handleMsg_of_actions (f := handleRead) rfl]
      exact reaction_read d ret
    | _ => exact .none
  | readCapturerTimeout | stopCapturer =>
    cases s with
    | readCapturer => exact .stopCapturer (.inr rfl)
    | _ => exact .none
  | release =>
    cases s with
    | idle => exact .none
    | _ => exact .release (.inl rfl)
  | releaseAdapter =>
    cases s with
    | idle => exact .none
    | _ => exact .release (.inr rfl)
  | none => cases s <;> exact .none

end Phone

def maxWakeupTaskNum : Nat := 200

inductive EngineTask where
  | onInitDone (result : Int) (report : Report)
  | onWakeupRecognition (result : Int) (info : String) (report : Report)

def EngineTask.msg : EngineTask → StateMsg
  | .onInitDone result _ => .initDone (some result)
  | .onWakeupRecognition result info report =>
    .recognizeComplete (some ⟨.recognizeComplete, result, info, report⟩)

structure Engine where
  state : EngineState := .idle
  data : ImplData := {}
  queue : BoundedQueue EngineTask maxWakeupTaskNum := ∅
  inHand : Option EngineTask := none
  reports : Nat := 0
  wakeup : Option Nat := none

inductive EngineInput where
  | handle (m : StateMsg)
  | timeout (m : StateMsg)
  | report (adapter : Nat) (msgId : EngineMessageType) (result : Int) (info : String)
  | take
  | execute

def StateMsg.ofFacade (m : StateMsg) : Bool :=
  match m.msgId with
  | .initDone | .recognizeComplete | .none => false
  | .recognizingTimeout | .recognizeCompleteTimeout | .readCapturerTimeout => false
  | _ => true

def StateMsg.isTimeout (m : StateMsg) : Bool :=
  match m.msgId with
  | .recognizingTimeout | .recognizeCompleteTimeout | .readCapturerTimeout => true
  | _ => false

namespace Engine

def pending (s : Engine) : List EngineTask := s.inHand.toList ++ s.queue.items

def wakeupAfter (s : Engine) (m : StateMsg) (st : EngineState) : Option Nat :=
  if st = .recognized ∨ st = .readCapturer then
    match s.state, m with
    | .recognizing, .recognizeComplete (some e) => some e.report.serial
    | _, _ => s.wakeup
  else none

def react (s : Engine) (m : StateMsg) : Engine :=
  let (_, st, d) := ImplKind.phone.machine.handleMsg s.state m s.data
  { s with state := st, data := d, wakeup := s.wakeupAfter m st }

def onWakeupEvent (s : Engine) (adapter : Nat) (msgId : EngineMessageType) (result : Int)
    (info : String) : Engine :=
  let report : Report := ⟨s.reports, adapter, s.data.starts⟩
  let s := { s with reports := s.reports + 1 }
  match msgId with
  | .initDone => { s with queue := s.queue.offer (.onInitDone result report) }
  | .recognizeComplete =>
    { s with queue := s.queue.offer (.onWakeupRecognition result info report) }
  | _ => s

def step (s : Engine) : EngineInput → Option Engine
  | .handle m => if m.ofFacade then some (s.react m) else none
  | .timeout m => if m.isTimeout then some (s.react m) else none
  | .report adapter msgId result info =>
    if adapter < s.data.adapters ∧ s.data.callback = true then
      some (s.onWakeupEvent adapter msgId result info)
    else none
  | .take =>
    match s.inHand, s.queue.pop? with
    | none, some (task, queue) => some { s with inHand := some task, queue }
    | _, _ => none
  | .execute =>
    match s.inHand with
    | none => none
    | some task => some ({ s with inHand := none }.react task.msg)

inductive Stepped (s : Engine) : EngineInput → Engine → Prop
  | handle {m} (hm : m.ofFacade) : Stepped s (.handle m) (s.react m)
  | timeout {m} (hm : m.isTimeout) : Stepped s (.timeout m) (s.react m)
  | report {adapter msgId result info} :
      Stepped s (.report adapter msgId result info) (s.onWakeupEvent adapter msgId result info)
  | take {task queue} (hhand : s.inHand = none) (hpop : s.queue.pop? = some (task, queue)) :
      Stepped s .take { s with inHand := some task, queue }
  | execute {task} (hhand : s.inHand = some task) :
      Stepped s .execute ({ s with inHand := none }.react task.msg)

variable {s t : Engine}

lemma step_cases {e : EngineInput} (hstep : s.step e = some t) : s.Stepped e t := by
  cases e with
  | handle m =>
    obtain ⟨hm, ⟨⟩⟩ := Option.ite_none_right_eq_some.1 hstep
    exact .handle hm
  | timeout m =>
    obtain ⟨hm, ⟨⟩⟩ := Option.ite_none_right_eq_some.1 hstep
    exact .timeout hm
  | report adapter msgId result info =>
    obtain ⟨-, ⟨⟩⟩ := Option.ite_none_right_eq_some.1 hstep
    exact .report
  | take =>
    simp only [step] at hstep
    split at hstep
    · cases hstep
      exact .take ‹_› ‹_›
    · cases hstep
  | execute =>
    simp only [step] at hstep
    split at hstep
    · cases hstep
    · cases hstep
      exact .execute ‹_›

lemma reaction_react (m : StateMsg) :
    Phone.Reaction s.state s.data m (s.react m).state (s.react m).data :=
  Phone.reaction s.state s.data m

lemma pending_take {task : EngineTask} {queue : BoundedQueue EngineTask maxWakeupTaskNum}
    (hhand : s.inHand = none) (hpop : s.queue.pop? = some (task, queue)) :
    ({ s with inHand := some task, queue } : Engine).pending = s.pending := by
  simp [pending, hhand, BoundedQueue.items_pop? hpop]

lemma pending_execute {task : EngineTask} (hhand : s.inHand = some task) :
    s.pending = task :: ({ s with inHand := none } : Engine).pending := by
  simp [pending, hhand]

lemma pending_react (m : StateMsg) : (s.react m).pending = s.pending := rfl

lemma pending_onWakeupEvent (adapter : Nat) (msgId : EngineMessageType) (result : Int)
    (info : String) : (s.onWakeupEvent adapter msgId result info).pending = s.pending ∨
      ∃ task, (s.onWakeupEvent adapter msgId result info).pending = s.pending ++ [task] ∧
        (task = .onInitDone result ⟨s.reports, adapter, s.data.starts⟩ ∨
          task = .onWakeupRecognition result info ⟨s.reports, adapter, s.data.starts⟩) := by
  unfold onWakeupEvent pending
  cases msgId with
  | initDone =>
    rcases s.queue.items_offer (.onInitDone result ⟨s.reports, adapter, s.data.starts⟩) with h | h
    · exact .inl (by simp [h])
    · exact .inr ⟨_, by simp [h], .inl rfl⟩
  | recognizeComplete =>
    rcases s.queue.items_offer
      (.onWakeupRecognition result info ⟨s.reports, adapter, s.data.starts⟩)
      with h | h
    · exact .inl (by simp [h])
    · exact .inr ⟨_, by simp [h], .inr rfl⟩
  | headsetRecognizeComplete | other msgId => exact .inl rfl

end Engine
end IntellVoice.Wakeup
