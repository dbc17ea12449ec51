import IntellVoice.Utils.StringUtil
import IntellVoice.Utils.TaskExecutor

/-! `EnrollEngine` passes a voice from an audio source to the adapter. -/

namespace IntellVoice.Enroll
open Utils

abbrev Callback := Nat

def maxEnrollTaskNum : Nat := 100
def interval : Nat := 125
def withcmdInterval : Nat := 200

structure AudioSource where
  bufferCnt : Nat
  start : Nat

structure Completion where
  result : Int
  info : String
  start : Nat

inductive Task where
  | onEnrollComplete (c : Completion)
  | processOfflineAudioWhile

def Task.completion? : Task → Option Completion
  | .onEnrollComplete c => some c
  | .processOfflineAudioWhile => none

inductive AsrMode where
  | bypass
  | normalReg
  | topMicReg

inductive HistoryKey where
  | wakeupEngineBundleName
  | wakeupEngineAbilityName
  | language
  | area
  | sensibility
  | wakeupPhrase
  | wakeupVersion
deriving DecidableEq

structure Handling where
  completion : Completion
  notified : Option Callback
  stopped : Option AudioSource
  succeeded : Option Nat

structure Engine where
  adapter : Bool := false
  adapterListener : Option Callback := none
  isPcmFromExternal : Bool := false
  isWithCmdScenario : Bool := false
  isNormalRegMode : Bool := false
  isTopMicRegMode : Bool := false
  enrollResult : Int := -1
  wakeupPhrase : String := ""
  audioSource : Option AudioSource := none
  queue : QueueUtil Task := .init maxEnrollTaskNum
  executor : Option Task := none
  asrMode : AsrMode := .bypass
  managerResult : Bool := false
  history : List (HistoryKey × String) := []
  starts : List Bool := []
  succeeded : Option Nat := none
  handled : List Handling := []

structure StartAnswers where
  permission : Int
  adapterStart : Int
  recordPermission : Bool
  sourceStarted : Bool

namespace Engine
variable (s : Engine)

def setCallback (object : Option Callback) : Engine :=
  if !s.adapter then s
  else
    match object with
    | none => s
    | some callback => { s with adapterListener := some callback }

def attach (isPcmFromExternal : Bool) (wakeupPhrase : String) (ret : Int) : Int × Engine :=
  if !s.adapter then (-1, s)
  else (ret, { s with isPcmFromExternal, wakeupPhrase })

def setParamOnAudioStopOrError : Engine :=
  if !s.isNormalRegMode && !s.isTopMicRegMode then s else { s with asrMode := .bypass }

def stopAudioSource : Engine :=
  let s :=
    match s.audioSource with
    | none => s
    | some _ => { s.setParamOnAudioStopOrError with audioSource := none }
  { s with isNormalRegMode := false, isTopMicRegMode := false }

def setRegMode : Engine :=
  if s.isNormalRegMode then { s with asrMode := .normalReg }
  else if s.isTopMicRegMode then { s with asrMode := .topMicReg }
  else s

def bufferCnt : Nat := if s.isWithCmdScenario then withcmdInterval else interval

def startAudioSource (start : Nat) (a : StartAnswers) : Bool × Engine :=
  if !a.recordPermission then (false, s)
  else
    let s := { s with audioSource := some ⟨s.bufferCnt, start⟩ }.setRegMode
    if !a.sourceStarted then
      (false, { s.setParamOnAudioStopOrError with
        audioSource := none, isNormalRegMode := false, isTopMicRegMode := false })
    else (true, s)

def start (isLast : Bool) (a : StartAnswers) : Int × Engine :=
  if a.permission ≠ 0 then (a.permission, s)
  else if s.audioSource.isSome then (-1, s)
  else if !s.adapter then (-1, s)
  else if a.adapterStart ≠ 0 then (-1, s)
  else
    let number := s.starts.length
    let s := { s with starts := s.starts ++ [isLast] }
    if s.isPcmFromExternal then (0, { s with succeeded := some number })
    else
      match s.startAudioSource number a with
      | (false, s) => (-1, s)
      | (true, s) => (0, { s with succeeded := some number })

def stop (ret : Int) : Int × Engine :=
  let s := s.stopAudioSource
  if !s.adapter then (-1, s) else (ret, s)

def detach (ret : Int) : Int × Engine :=
  let s := s.stopAudioSource
  if !s.adapter then (0, s)
  else
    let s :=
      if s.enrollResult = 0 then
        { s with history := s.history ++ [(.wakeupPhrase, s.wakeupPhrase), (.wakeupVersion, "")] }
      else s
    (ret, { s with adapter := false })

def setParameterInner : List (String × String) → List (HistoryKey × String) × Bool
  | [] => ([], false)
  | (key, value) :: rest =>
    if key = "wakeup_bundle_name" then ([(.wakeupEngineBundleName, value)], true)
    else if key = "wakeup_ability_name" then ([(.wakeupEngineAbilityName, value)], true)
    else
      let (writes, inner) := setParameterInner rest
      if key = "language" then ((.language, value) :: writes, inner)
      else if key = "area" then ((.area, value) :: writes, inner)
      else if key = "Sensibility" then ((.sensibility, value) :: writes, inner)
      else (writes, inner)

def setParameter (keyValueList : String) (ret : Int) : Int × Engine :=
  let (writes, inner) :=
    setParameterInner (StringUtil.splitStringToKVPair keyValueList).entries
  let s := { s with history := s.history ++ writes }
  if inner then (0, s)
  else
    let s := { s with
      isWithCmdScenario := s.isWithCmdScenario || keyValueList == "enrollScenario=withcmd"
      isNormalRegMode := s.isNormalRegMode || keyValueList == "asr_ns_mode=NORMAL_REG"
      isTopMicRegMode := s.isTopMicRegMode || keyValueList == "asr_ns_mode=TOPMIC_REG" }
    if !s.adapter then (-1, s) else (ret, s)

def post (task : Task) : Engine :=
  match s.queue.push task false with
  | some (_, queue) => { s with queue := queue }
  | none => s

def commitEnrollComplete (result : Int) (tseSupport : Bool) : Engine :=
  let s := { s with enrollResult := result, managerResult := result == 0 }
  if tseSupport then s.post .processOfflineAudioWhile else s

def onEnrollComplete (c : Completion) : Engine :=
  { s.stopAudioSource with
    handled := s.handled ++ [⟨c, s.adapterListener, s.audioSource, s.succeeded⟩] }

def runTask : Task → Engine
  | .onEnrollComplete c => { s.onEnrollComplete c with executor := none }
  | .processOfflineAudioWhile => { s with executor := none }

end Engine

inductive Event where
  | setCallback (object : Option Callback)
  | attach (isPcmFromExternal : Bool) (wakeupPhrase : String) (ret : Int)
  | setParameter (keyValueList : String) (ret : Int)
  | start (isLast : Bool) (a : StartAnswers)
  | stop (ret : Int)
  | detach (ret : Int)
  | enrollComplete (c : Completion)
  | commitEnrollComplete (result : Int) (tseSupport : Bool)
  | pop
  | runTask

def step (s : Engine) : Event → Option Engine
  | .setCallback object => some (s.setCallback object)
  | .attach isPcmFromExternal wakeupPhrase ret =>
    some (s.attach isPcmFromExternal wakeupPhrase ret).2
  | .setParameter keyValueList ret => some (s.setParameter keyValueList ret).2
  | .start isLast a => some (s.start isLast a).2
  | .stop ret => some (s.stop ret).2
  | .detach ret => some (s.detach ret).2
  | .enrollComplete c =>
    if s.adapterListener.isSome ∧ c.start < s.starts.length then
      some (s.post (.onEnrollComplete c))
    else none
  | .commitEnrollComplete result tseSupport =>
    if s.adapterListener.isSome then some (s.commitEnrollComplete result tseSupport) else none
  | .pop =>
    match s.executor, s.queue.pop with
    | none, some (some task, queue) => some { s with executor := some task, queue := queue }
    | _, _ => none
  | .runTask => s.executor.map s.runTask

def Engine.created : Engine := { adapter := true }

namespace Engine

def pending (s : Engine) : List Completion :=
  (s.executor.toList ++ s.queue.queue).filterMap Task.completion?

def startsAdapter (s : Engine) (a : StartAnswers) : Bool :=
  a.permission == 0 && s.audioSource.isNone && s.adapter && a.adapterStart == 0

structure Kept (s t : Engine) : Prop where
  pending : t.pending = s.pending
  starts : t.starts = s.starts
  succeeded : t.succeeded = s.succeeded
  handled : t.handled = s.handled
  source : t.audioSource = s.audioSource ∨ t.audioSource = none

lemma Kept.refl (s : Engine) : Kept s s := ⟨rfl, rfl, rfl, rfl, .inl rfl⟩

variable {s t : Engine}

lemma Kept.trans {u : Engine} (h : Kept s t) (h' : Kept t u) : Kept s u where
  pending := h'.pending.trans h.pending
  starts := h'.starts.trans h.starts
  succeeded := h'.succeeded.trans h.succeeded
  handled := h'.handled.trans h.handled
  source := by
    rcases h'.source with heq | hnone
    · rw [heq]
      exact h.source
    · exact .inr hnone

lemma Kept.of_eq (hqueue : t.queue = s.queue) (hexecutor : t.executor = s.executor)
    (hstarts : t.starts = s.starts) (hsucceeded : t.succeeded = s.succeeded)
    (hhandled : t.handled = s.handled)
    (hsource : t.audioSource = s.audioSource ∨ t.audioSource = none) : Kept s t :=
  ⟨by rw [Engine.pending, Engine.pending, hqueue, hexecutor], hstarts, hsucceeded, hhandled,
    hsource⟩

lemma kept_setParamOnAudioStopOrError (s : Engine) : Kept s s.setParamOnAudioStopOrError := by
  unfold setParamOnAudioStopOrError
  split
  · exact .refl s
  · exact .of_eq rfl rfl rfl rfl rfl (.inl rfl)

lemma kept_stopAudioSource (s : Engine) : Kept s s.stopAudioSource := by
  unfold stopAudioSource
  cases s.audioSource with
  | none => exact .of_eq rfl rfl rfl rfl rfl (.inl rfl)
  | some source =>
    exact (kept_setParamOnAudioStopOrError s).trans (.of_eq rfl rfl rfl rfl rfl (.inr rfl))

lemma stopAudioSource_queue (s : Engine) : s.stopAudioSource.queue = s.queue := by
  unfold stopAudioSource setParamOnAudioStopOrError
  cases s.audioSource with
  | none => rfl
  | some source =>
    dsimp only
    split <;> rfl

lemma stopAudioSource_audioSource (s : Engine) : s.stopAudioSource.audioSource = none := by
  unfold stopAudioSource
  cases hsource : s.audioSource with
  | none => exact hsource
  | some source => rfl

lemma pending_post (s : Engine) (task : Task) : (s.post task).pending = s.pending ∨
      (s.post task).pending = s.pending ++ task.completion?.toList := by
  unfold post
  cases hpush : s.queue.push task false with
  | none => exact .inl rfl
  | some pushed =>
    obtain ⟨accepted, queue⟩ := pushed
    cases accepted with
    | false =>
      obtain rfl := QueueUtil.push_refused hpush
      exact .inl rfl
    | true =>
      obtain ⟨-, rfl⟩ := QueueUtil.push_accepted hpush
      right
      show (s.executor.toList ++ (s.queue.queue ++ [task])).filterMap Task.completion? =
        s.pending ++ task.completion?.toList
      rw [← List.append_assoc, List.filterMap_append, Engine.pending]
      cases task <;> rfl

lemma post_frame (s : Engine) (task : Task) :
    (s.post task).starts = s.starts ∧ (s.post task).succeeded = s.succeeded ∧
      (s.post task).handled = s.handled ∧ (s.post task).audioSource = s.audioSource := by
  unfold post
  cases s.queue.push task false with
  | none | some pushed => exact ⟨rfl, rfl, rfl, rfl⟩

lemma kept_setRegMode (s : Engine) : Kept s s.setRegMode := by
  unfold setRegMode
  split
  · exact .of_eq rfl rfl rfl rfl rfl (.inl rfl)
  split
  · exact .of_eq rfl rfl rfl rfl rfl (.inl rfl)
  · exact .refl s

lemma kept_startAudioSource (s : Engine) (start : Nat) (a : StartAnswers) :
    Kept s (s.startAudioSource start a).2 ∨
      ∃ bufferCnt, Kept { s with audioSource := some ⟨bufferCnt, start⟩ }
        (s.startAudioSource start a).2 := by
  unfold startAudioSource
  split
  · exact .inl (.refl s)
  right
  refine ⟨s.bufferCnt, (kept_setRegMode _).trans ?_⟩
  dsimp only
  split
  · exact (kept_setParamOnAudioStopOrError _).trans (.of_eq rfl rfl rfl rfl rfl (.inr rfl))
  · exact .refl _

structure Started (s t : Engine) (isLast : Bool) : Prop where
  pending : t.pending = s.pending
  starts : t.starts = s.starts ++ [isLast]
  succeeded : t.succeeded = s.succeeded ∨ t.succeeded = some s.starts.length
  handled : t.handled = s.handled
  source : ∀ a, t.audioSource = some a → a.start = s.starts.length

lemma started_of_kept {isLast : Bool} {source : Option AudioSource}
    (hsource : ∀ a, source = some a → a.start = s.starts.length)
    (h : Kept { s with starts := s.starts ++ [isLast], audioSource := source } t) :
    Started s t isLast := by
  refine ⟨h.pending, h.starts, .inl h.succeeded, h.handled, fun a ha => ?_⟩
  rcases h.source with hsame | hnone
  · exact hsource a (hsame.symm.trans ha)
  · cases hnone.symm.trans ha

lemma Started.succeed {isLast : Bool} (h : Started s t isLast) :
    Started s { t with succeeded := some s.starts.length } isLast :=
  ⟨h.pending, h.starts, .inr rfl, h.handled, h.source⟩

lemma started_start (s : Engine) (isLast : Bool) (a : StartAnswers) : (s.start isLast a).2 = s ∨
      s.startsAdapter a ∧ Started s (s.start isLast a).2 isLast := by
  unfold start
  split
  · exact .inl rfl
  split
  · exact .inl rfl
  split
  · exact .inl rfl
  split
  · exact .inl rfl
  rename_i hpermission hsource hadapter hadapterStart
  have hnone : s.audioSource = none := by simpa using hsource
  have hopened : Started s
      ({ s with starts := s.starts ++ [isLast] }.startAudioSource s.starts.length a).2 isLast := by
    rcases kept_startAudioSource { s with starts := s.starts ++ [isLast] } s.starts.length a with
      hkept | ⟨bufferCnt, hkept⟩
    · refine started_of_kept (fun source (hsome : s.audioSource = some source) => ?_) hkept
      cases hnone.symm.trans hsome
    · exact started_of_kept (fun source hsome => by cases hsome; rfl) hkept
  refine .inr ⟨by simp_all [startsAdapter], ?_⟩
  dsimp only
  split
  · refine Started.succeed (started_of_kept
      (fun source (hsome : s.audioSource = some source) => ?_) (.refl _))
    cases hnone.symm.trans hsome
  split
  · rename_i t hstart
    rw [hstart] at hopened
    exact hopened
  · rename_i t hstart
    rw [hstart] at hopened
    exact hopened.succeed

lemma kept_setCallback (s : Engine) (object : Option Callback) : Kept s (s.setCallback object) := by
  unfold setCallback
  split
  · exact .refl s
  cases object with
  | none => exact .refl s
  | some callback => exact .of_eq rfl rfl rfl rfl rfl (.inl rfl)

lemma kept_attach (s : Engine) (isPcmFromExternal : Bool) (wakeupPhrase : String) (ret : Int) :
    Kept s (s.attach isPcmFromExternal wakeupPhrase ret).2 := by
  unfold attach
  split
  · exact .refl s
  · exact .of_eq rfl rfl rfl rfl rfl (.inl rfl)

lemma kept_setParameter (s : Engine) (keyValueList : String) (ret : Int) :
    Kept s (s.setParameter keyValueList ret).2 := by
  unfold setParameter
  dsimp only
  split
  · exact .of_eq rfl rfl rfl rfl rfl (.inl rfl)
  · split <;> exact .of_eq rfl rfl rfl rfl rfl (.inl rfl)

lemma kept_stop (s : Engine) (ret : Int) : Kept s (s.stop ret).2 := by
  unfold stop
  dsimp only
  split <;> exact kept_stopAudioSource s

lemma kept_detach (s : Engine) (ret : Int) : Kept s (s.detach ret).2 := by
  unfold detach
  dsimp only
  split
  · exact kept_stopAudioSource s
  · refine (kept_stopAudioSource s).trans ?_
    split <;> exact .of_eq rfl rfl rfl rfl rfl (.inl rfl)

lemma kept_commitEnrollComplete (s : Engine) (result : Int) (tseSupport : Bool) :
    Kept s (s.commitEnrollComplete result tseSupport) := by
  have hcommit : Kept s { s with enrollResult := result, managerResult := result == 0 } :=
    .of_eq rfl rfl rfl rfl rfl (.inl rfl)
  unfold commitEnrollComplete
  dsimp only
  split
  · refine hcommit.trans ⟨?_, ?_, ?_, ?_, ?_⟩
    · rcases pending_post { s with enrollResult := result, managerResult := result == 0 }
        .processOfflineAudioWhile with hsame | hadded
      · exact hsame
      · rw [hadded]
        exact List.append_nil _
    · exact (post_frame _ _).1
    · exact (post_frame _ _).2.1
    · exact (post_frame _ _).2.2.1
    · exact .inl (post_frame _ _).2.2.2
  · exact hcommit

structure Handled (s t : Engine) (c : Completion) : Prop where
  pending : s.pending = c :: t.pending
  starts : t.starts = s.starts
  succeeded : t.succeeded = s.succeeded
  handled : t.handled = s.handled ++ [⟨c, s.adapterListener, s.audioSource, s.succeeded⟩]
  source : t.audioSource = none

lemma handled_runTask {c : Completion} (hexecutor : s.executor = some (.onEnrollComplete c)) :
    Handled s (s.runTask (.onEnrollComplete c)) c := by
  have hkept := kept_stopAudioSource s
  refine ⟨?_, hkept.starts, hkept.succeeded, rfl, stopAudioSource_audioSource s⟩
  show (s.executor.toList ++ s.queue.queue).filterMap Task.completion? =
    c :: (([] : List Task) ++ s.stopAudioSource.queue.queue).filterMap Task.completion?
  rw [hexecutor, stopAudioSource_queue]
  rfl

end Engine

inductive Stepped (s : Engine) : Event → Engine → Prop
  | kept (e : Event) (t : Engine) (hkept : s.Kept t) : Stepped s e t
  | started (isLast : Bool) (a : StartAnswers) (t : Engine) (hstarts : s.startsAdapter a)
      (hstarted : s.Started t isLast) : Stepped s (.start isLast a) t
  | reported (c : Completion) (t : Engine) (hpending : t.pending = s.pending ++ [c])
      (hstarts : t.starts = s.starts) (hsucceeded : t.succeeded = s.succeeded)
      (hhandled : t.handled = s.handled) (hsource : t.audioSource = s.audioSource) :
      Stepped s (.enrollComplete c) t
  | handled (c : Completion) (t : Engine) (hhandled : s.Handled t c) : Stepped s .runTask t

lemma stepped_of_step {s t : Engine} {e : Event} (h : step s e = some t) : Stepped s e t := by
  cases e with
  | setCallback object =>
    cases h
    exact .kept _ _ (s.kept_setCallback object)
  | attach isPcmFromExternal wakeupPhrase ret =>
    cases h
    exact .kept _ _ (s.kept_attach isPcmFromExternal wakeupPhrase ret)
  | setParameter keyValueList ret =>
    cases h
    exact .kept _ _ (s.kept_setParameter keyValueList ret)
  | start isLast a =>
    cases h
    rcases s.started_start isLast a with hsame | ⟨hstarts, hstarted⟩
    · rw [hsame]
      exact .kept _ _ (.refl s)
    · exact .started isLast a _ hstarts hstarted
  | stop ret =>
    cases h
    exact .kept _ _ (s.kept_stop ret)
  | detach ret =>
    cases h
    exact .kept _ _ (s.kept_detach ret)
  | enrollComplete c =>
    obtain ⟨-, h⟩ := Option.ite_none_right_eq_some.1 h
    cases h
    obtain ⟨hstarts, hsucceeded, hhandled, hsource⟩ := s.post_frame (.onEnrollComplete c)
    rcases s.pending_post (.onEnrollComplete c) with hsame | hadded
    · exact .kept _ _ ⟨hsame, hstarts, hsucceeded, hhandled, .inl hsource⟩
    · exact .reported c _ hadded hstarts hsucceeded hhandled hsource
  | commitEnrollComplete result tseSupport =>
    obtain ⟨-, h⟩ := Option.ite_none_right_eq_some.1 h
    cases h
    exact .kept _ _ (s.kept_commitEnrollComplete result tseSupport)
  | pop =>
    simp only [step] at h
    split at h
    · rename_i task queue hexecutor hpop
      cases h
      obtain ⟨-, hlist, -⟩ := QueueUtil.pop_some hpop
      refine .kept _ _ ⟨?_, rfl, rfl, rfl, .inl rfl⟩
      -- the task goes from the front of the queue to the executor
      rw [Engine.pending, Engine.pending, hexecutor, hlist]
      rfl
    · cases h
  | runTask =>
    obtain ⟨task, hexecutor, rfl⟩ := Option.map_eq_some_iff.1 h
    cases task with
    | onEnrollComplete c => exact .handled c _ (Engine.handled_runTask hexecutor)
    | processOfflineAudioWhile =>
      refine .kept _ _ ⟨?_, rfl, rfl, rfl, .inl rfl⟩
      rw [Engine.pending, Engine.pending, hexecutor]
      rfl

end IntellVoice.Enroll
