import IntellVoice.Wakeup.Engine

/-! While a client reads the audio source the microphone is marked as in use. -/

namespace IntellVoice.Wakeup
open Transition Utils
open ImplKind (phone)

lemma Phone.audioSource_of_recognizing {d : ImplData} {m : StateMsg}
    (hm : m.msgId = .startRecognize)
    (hst : (phone.machine.handleMsg .initialized m d).2.1 = .recognizing) :
    (phone.machine.handleMsg .initialized m d).2.2.audioSource := by
  cases m with
  | startRecognize uuid started stopCallback sourceStarted =>
    rw [handleMsg_of_actions (f := Phone.handleStart) rfl] at hst ⊢
    cases uuid with
    | none => cases hst
    | some uuid =>
      simp only [Phone.handleStart] at hst ⊢
      repeat' split
      all_goals first | rfl | simp_all
  | _ => cases hm

lemma Phone.audioSource_handleMsg {s : EngineState} {d : ImplData}
    (h : d.audioSource = s.inProcess) (m : StateMsg) :
    (phone.machine.handleMsg s m d).2.2.audioSource =
      (phone.machine.handleMsg s m d).2.1.inProcess := by
  have hreaction := Phone.reaction s d m
  generalize hst : (phone.machine.handleMsg s m d).2.1 = st at hreaction
  generalize hd : (phone.machine.handleMsg s m d).2.2 = d' at hreaction
  cases hreaction with
  | none | setListener | initDone | recognized | startCapturer => exact h
  | stop | failed | stopCapturer | release => rfl
  | create _ hnext _ haudio =>
    rw [haudio, h]
    rcases hnext with rfl | rfl <;> rfl
  | start hm hnext _ haudio =>
    rcases hnext with rfl | rfl
    · -- the start failed: what was closed stays closed
      rw [show EngineState.initialized.inProcess = false from rfl, Bool.eq_false_iff]
      intro hopen
      rw [haudio rfl hopen] at h
      cases h
    · rw [← hd]
      exact Phone.audioSource_of_recognizing hm hst

theorem Engine.run_audioSource_iff (inputs : List EngineInput) (s : Engine)
    (hrun : run Engine.step {} inputs = some s) :
    s.data.audioSource ↔
      s.state = .recognizing ∨ s.state = .recognized ∨ s.state = .readCapturer := by
  have hstep : ∀ s e t, s.data.audioSource = s.state.inProcess → Engine.step s e = some t →
      t.data.audioSource = t.state.inProcess := by
    intro s e t h hstep
    cases Engine.step_cases hstep with
    | handle | timeout | execute => exact Phone.audioSource_handleMsg h _
    | take => exact h
    | @report adapter msgId =>
      -- a report is only queued
      cases msgId <;> exact h
  have hopen := run_invariant_all hstep rfl hrun
  rw [hopen]
  cases s.state <;> decide

theorem Engine.run_audioSource_recognizing :
    ∃ s, run Engine.step {} [.handle (.init true true), .report 0 .initDone 0 "", .take, .execute,
        .handle (.startRecognize (some 1) true true true)] = some s ∧
      s.state = .recognizing ∧ s.data.audioSource := by
  obtain ⟨s, hrun, hstate⟩ : ∃ s, run Engine.step {} [.handle (.init true true),
      .report 0 .initDone 0 "", .take, .execute,
      .handle (.startRecognize (some 1) true true true)] = some s ∧ s.state = .recognizing :=
    ⟨_, rfl, rfl⟩
  exact ⟨s, hrun, hstate, (Engine.run_audioSource_iff _ s hrun).2 (.inl hstate)⟩

inductive PrivacyResult where
  | success
  | alreadyStartUsing
  | error (code : Int)

def PrivacyResult.accepted : PrivacyResult → Bool
  | .success | .alreadyStartUsing => true
  | .error _ => false

inductive PermissionState where
  | start (startUsing addRecord : PrivacyResult)
  | stop

structure PrivacyData where
  impl : ImplData := {}
  callerTokenId : Nat := 0
  inUse : List Nat := []

structure PrivacyMsg where
  msg : StateMsg
  callingTokenId : Nat := 0
  startUsing : PrivacyResult := .success
  addRecord : PrivacyResult := .success

abbrev PrivacyHandler := Handler EngineState PrivacyMsg PrivacyData

abbrev PrivacyActions := StateActions EngineState EngineEvent PrivacyMsg PrivacyData

namespace Privacy

def recordPermissionPrivacy (d : PrivacyData) (targetTokenId : Nat) :
    PermissionState → Bool × PrivacyData
  | .start startUsing addRecord =>
    if !startUsing.accepted then (false, d)
    -- the permission is in use from here on, also if the record of it fails
    else (addRecord.accepted, { d with inUse := d.inUse.insert targetTokenId })
  | .stop => (true, { d with inUse := d.inUse.filter (· ≠ targetTokenId) })

def lift (handler : ImplHandler) : PrivacyHandler
  | m, s, d =>
    let (o, impl) := handler m.msg s d.impl
    (o, { d with impl })

def handleStartCapturer : PrivacyHandler
  | ⟨.startCapturer permission channels _, callingTokenId, startUsing, addRecord⟩, _, d =>
    if permission ≠ 0 then ({ ret := permission }, d)
    else if channels.isNone then ({ ret := intelligentVoiceStartCapturerFailed }, d)
    else
      let (recorded, d) := recordPermissionPrivacy { d with callerTokenId := callingTokenId }
        callingTokenId (.start startUsing addRecord)
      if recorded then ({ nextState := some .readCapturer }, d) else ({ ret := -1 }, d)
  | _, _, d => ({ ret := -1 }, d)

def stopping (handler : ImplHandler) : PrivacyHandler
  | m, s, d =>
    let (o, d) := lift handler m s d
    (o, if s = .readCapturer then (recordPermissionPrivacy d d.callerTokenId .stop).2 else d)

def handleStopCapturer : PrivacyHandler := stopping Phone.handleStopCapturer
def handleRelease : PrivacyHandler := stopping Phone.handleRelease

def initStates (s : EngineState) : PrivacyActions where
  cfg := (Phone.initStates s).cfg
  actions event := ((Phone.initStates s).actions event).map fun handler =>
    match event with
    | .startCapturer => handleStartCapturer
    | .stopCapturer | .recognizeCompleteTimeout | .readCapturerTimeout => handleStopCapturer
    | .release | .releaseAdapter => handleRelease
    | _ => lift handler

def machine : ModuleStates EngineState EngineEvent PrivacyMsg PrivacyData where
  defaultState := .idle
  states s := some (initStates s)
  msgId m := m.msg.msgId

end Privacy

structure Recorder where
  state : EngineState := .idle
  data : PrivacyData := {}

namespace Recorder

def handle (r : Recorder) (m : PrivacyMsg) : Recorder :=
  let (_, state, data) := Privacy.machine.handleMsg r.state m r.data
  { state, data }

def step (r : Recorder) (m : PrivacyMsg) : Option Recorder := some (r.handle m)

end Recorder

def PrivacyMsg.toPhone (m : PrivacyMsg) : StateMsg :=
  match m.msg with
  | .startCapturer permission channels _ =>
    .startCapturer permission channels (m.startUsing.accepted && m.addRecord.accepted)
  | msg => msg

def PrivacyMsg.Records (m : PrivacyMsg) (s : EngineState) : Prop :=
  ∀ channels recorded, s = .recognized → m.msg = .startCapturer 0 (some channels) recorded →
    m.startUsing.accepted → m.addRecord.accepted

namespace Privacy
variable {s : EngineState} {d : PrivacyData} {m : PrivacyMsg}

def erase (r : Outcome EngineState × PrivacyData) : Outcome EngineState × ImplData :=
  (r.1, r.2.impl)

lemma handle_phone (s : EngineState) (m : PrivacyMsg) (d : PrivacyData) :
    erase (machine.handle s m d) = phone.machine.handle s m.toPhone d.impl := by
  obtain ⟨msg, token, startUsing, addRecord⟩ := m
  cases msg with
  | startCapturer permission channels recorded =>
    cases s with
    | recognized =>
      show erase (handleStartCapturer ⟨.startCapturer permission channels recorded, _, _, _⟩
        .recognized d) = Phone.handleStartCapturer
          (.startCapturer permission channels _) .recognized _
      by_cases hpermission : permission = 0 <;> cases channels <;> cases startUsing <;>
        cases addRecord <;> simp [erase, handleStartCapturer, Phone.handleStartCapturer,
          hpermission,
          recordPermissionPrivacy, PrivacyResult.accepted, answer, goto]
    | _ => rfl
  | _ => cases s <;> rfl

inductive Reaction : EngineState → PrivacyData → PrivacyMsg → EngineState → PrivacyData → Prop
  | other {s d m st d'} (hst : st = .readCapturer ↔ s = .readCapturer) (hrecords : m.Records s)
      (htoken : s = .readCapturer → d'.callerTokenId = d.callerTokenId)
      (huse : d'.inUse = d.inUse) : Reaction s d m st d'
  | started {d m d'} (hrecords : m.Records .recognized)
      (htoken : d'.callerTokenId = m.callingTokenId)
      (huse : d'.inUse = d.inUse.insert m.callingTokenId) :
        Reaction .recognized d m .readCapturer d'
  | leaked {d m d'} (hrecords : ¬ m.Records .recognized)
      (huse : d'.inUse = d.inUse.insert m.callingTokenId) : Reaction .recognized d m .recognized d'
  | stopped {d m st d'} (hst : st ≠ .readCapturer)
      (huse : d'.inUse = d.inUse.filter (· ≠ d.callerTokenId)) : Reaction .readCapturer d m st d'

lemma reaction_startCapturer (permission : Int) (channels : Option Int) (recorded : Bool)
    (token : Nat) (startUsing addRecord : PrivacyResult) :
    let m : PrivacyMsg :=
      ⟨.startCapturer permission channels recorded, token, startUsing, addRecord⟩
    Reaction .recognized d m (machine.handleMsg .recognized m d).2.1
      (machine.handleMsg .recognized m d).2.2 := by
  intro m
  have hhandle : machine.handle .recognized m d = handleStartCapturer m .recognized d := rfl
  have hnot : ¬ (EngineState.recognized = .readCapturer) := by decide
  simp only [ModuleStates.handleMsg, hhandle, handleStartCapturer, recordPermissionPrivacy, m]
  by_cases hpermission : permission ≠ 0
  · simp only [hpermission, ne_eq, not_false_eq_true, if_true, ModuleStates.next]
    refine .other Iff.rfl ?_ (fun h => absurd h hnot) rfl
    intro _ _ _ hmsg
    cases hmsg
    exact absurd rfl hpermission
  obtain rfl : permission = 0 := not_not.1 hpermission
  cases channels with
  | none =>
    refine .other Iff.rfl ?_ (fun h => absurd h hnot) rfl
    intro _ _ _ hmsg
    cases hmsg
  | some channels =>
    cases hstart : startUsing.accepted with
    | false =>
      refine .other Iff.rfl ?_ (fun h => absurd h hnot) rfl
      intro _ _ _ _ haccepted
      exact absurd (hstart.symm.trans haccepted) (by decide)
    | true =>
      cases hadd : addRecord.accepted with
      | false =>
        refine .leaked (fun hrecords => ?_) rfl
        exact absurd (hadd.symm.trans (hrecords channels recorded rfl rfl hstart)) (by decide)
      | true => exact .started (fun _ _ _ _ _ => hadd) rfl rfl

lemma reaction_of_none (hactions : (initStates s).actions m.msg.msgId = none)
    (hrecords : m.Records s) :
    Reaction s d m (machine.handleMsg s m d).2.1 (machine.handleMsg s m d).2.2 := by
  simp only [ModuleStates.handleMsg, machine.handle_of_none rfl hactions d]
  exact .other Iff.rfl hrecords (fun _ => rfl) rfl

lemma reaction_of_lift {f : ImplHandler}
    (hactions : (initStates s).actions m.msg.msgId = some (lift f)) (hrecords : m.Records s)
    (hnext : ∀ st, (f m.msg s d.impl).1.nextState = some st → st ≠ .readCapturer ∧
      s ≠ .readCapturer) :
    Reaction s d m (machine.handleMsg s m d).2.1 (machine.handleMsg s m d).2.2 := by
  have hhandle : machine.handle s m d = lift f m s d := machine.handle_of_actions rfl hactions d
  have hstate := machine.handleMsg_state s m d
  rw [hhandle] at hstate
  refine .other ?_ hrecords ?_ ?_
  · rcases hstate with hsame | hasked
    · rw [hsame]
    · obtain ⟨hst, hs⟩ := hnext _ hasked
      exact ⟨fun h => absurd h hst, fun h => absurd h hs⟩
  · intro _
    simp only [ModuleStates.handleMsg, hhandle]
    rfl
  · simp only [ModuleStates.handleMsg, hhandle]
    rfl

lemma reaction_of_stopping {f : ImplHandler} {st : EngineState}
    (hactions : (initStates s).actions m.msg.msgId = some (stopping f))
    (hrecords : m.Records s) (hgoes : machine.next s (f m.msg s d.impl).1 = some st)
    (hst : st ≠ .readCapturer) :
    Reaction s d m (machine.handleMsg s m d).2.1 (machine.handleMsg s m d).2.2 := by
  simp only [ModuleStates.handleMsg, machine.handle_of_actions rfl hactions d, stopping,
    lift, hgoes,
    Option.getD_some]
  by_cases hs : s = .readCapturer
  · subst hs
    exact .stopped hst rfl
  · simp only [hs, if_false]
    exact .other ⟨fun h => absurd h hst, fun h => absurd h hs⟩ hrecords (fun h => absurd h hs) rfl

lemma reaction (s : EngineState) (d : PrivacyData) (m : PrivacyMsg) :
    Reaction s d m (machine.handleMsg s m d).2.1 (machine.handleMsg s m d).2.2 := by
  obtain ⟨msg, token, startUsing, addRecord⟩ := m
  have hrecords (hne : msg.msgId ≠ .startCapturer) :
      (⟨msg, token, startUsing, addRecord⟩ : PrivacyMsg).Records s := by
    intro channels recorded _ hmsg
    exact absurd (congrArg StateMsg.msgId hmsg) hne
  cases msg with
  | startCapturer permission channels recorded =>
    cases s with
    | recognized => exact reaction_startCapturer ..
    | _ => exact reaction_of_none rfl fun _ _ h => by cases h
  | stopCapturer | readCapturerTimeout | recognizeCompleteTimeout | release | releaseAdapter =>
    cases s <;> first
      | exact reaction_of_none rfl (hrecords fun h => by cases h)
      | exact reaction_of_stopping rfl (hrecords fun h => by cases h) rfl fun h => by cases h
  | setParam | getParam | getWakeupPcm | stopRecognize | recognizingTimeout | none =>
    cases s <;> first
      | exact reaction_of_none rfl (hrecords fun h => by cases h)
      | exact reaction_of_lift rfl (hrecords fun h => by cases h) fun st h => by cases h; decide
      | exact reaction_of_lift rfl (hrecords fun h => by cases h) fun st h => by cases h
  | setListener msg =>
    refine reaction_of_lift (f := Phone.handleSetListener) (by cases s <;> rfl)
      (hrecords fun h => by cases h) fun st h => ?_
    cases msg <;> cases h
  | init created attached | resetAdapter created attached =>
    cases s with
    | idle =>
      refine reaction_of_lift rfl (hrecords fun h => by cases h) fun st h => ?_
      cases created <;> cases attached <;> cases h
      decide
    | _ => exact reaction_of_none rfl (hrecords fun h => by cases h)
  | initDone result =>
    cases s with
    | initializing =>
      refine reaction_of_lift rfl (hrecords fun h => by cases h) fun st h => ?_
      cases result with
      | none => cases h
      | some result =>
        simp only [Phone.handleInitDone, Shared.handleInitDone] at h
        split at h <;> cases h
        decide
    | _ => exact reaction_of_none rfl (hrecords fun h => by cases h)
  | startRecognize uuid started stopCallback sourceStarted =>
    cases s with
    | initialized =>
      refine reaction_of_lift rfl (hrecords fun h => by cases h) fun st h => ?_
      cases uuid with
      | none => cases h
      | some uuid =>
        simp only [Phone.handleStart] at h
        repeat' split at h
        all_goals cases h
        decide
    | _ => exact reaction_of_none rfl (hrecords fun h => by cases h)
  | recognizeComplete event =>
    cases s with
    | recognizing =>
      refine reaction_of_lift rfl (hrecords fun h => by cases h) fun st h => ?_
      cases event with
      | none => cases h
      | some event =>
        simp only [Phone.handleRecognizeComplete, Shared.handleRecognizeComplete] at h
        split at h <;> cases h <;> decide
    | _ => exact reaction_of_none rfl (hrecords fun h => by cases h)
  | read ret =>
    cases s with
    | readCapturer =>
      refine reaction_of_lift rfl (hrecords fun h => by cases h) fun st h => ?_
      cases ret with
      | none => cases h
      | some ret =>
        simp only [Phone.handleRead, Shared.handleRead] at h
        split at h <;> cases h
    | _ => exact reaction_of_none rfl (hrecords fun h => by cases h)

end Privacy

namespace Recorder
variable {r : Recorder} {m : PrivacyMsg}

def Balanced (r : Recorder) : Prop := (∃ token, token ∈ r.data.inUse) ↔ r.state = .readCapturer

def Accounted (r : Recorder) : Prop :=
  ∀ token, token ∈ r.data.inUse ↔ r.state = .readCapturer ∧ token = r.data.callerTokenId

lemma Accounted.balanced (h : r.Accounted) : r.Balanced := by
  constructor
  · rintro ⟨token, htoken⟩
    exact ((h token).1 htoken).1
  · intro hread
    exact ⟨_, (h _).2 ⟨hread, rfl⟩⟩

lemma Accounted.handle (h : r.Accounted) (m : PrivacyMsg) :
    m.Records r.state ∧ (r.handle m).Accounted ∨ ¬ m.Records r.state ∧ ¬ (r.handle m).Balanced := by
  have hreaction := Privacy.reaction r.state r.data m
  change Privacy.Reaction r.state r.data m (r.handle m).state (r.handle m).data at hreaction
  unfold Accounted at h
  unfold Accounted Balanced
  generalize (r.handle m).state = st at hreaction ⊢
  generalize (r.handle m).data = d' at hreaction ⊢
  generalize r.state = s at h hreaction ⊢
  cases hreaction with
  | other hst hrecords htoken huse =>
    refine .inl ⟨hrecords, fun token => ?_⟩
    rw [huse, h token, hst]
    exact and_congr_right fun hread => by rw [htoken hread]
  | started hrecords htoken huse =>
    refine .inl ⟨hrecords, fun token => ?_⟩
    rw [huse, htoken, List.mem_insert_iff, h token]
    simp
  | leaked hrecords huse =>
    refine .inr ⟨hrecords, fun hbalanced => ?_⟩
    have hmarked : m.callingTokenId ∈ d'.inUse := by
      rw [huse]
      exact List.mem_insert_self
    cases hbalanced.1 ⟨_, hmarked⟩
  | stopped hst huse =>
    refine .inl ⟨fun _ _ hread => (by cases hread), fun token => ?_⟩
    rw [huse, List.mem_filter, h token]
    simp [hst]

theorem run_balanced_iff (ms : List PrivacyMsg) :
    Along step (fun _ _ r => r.Balanced) {} ms ↔
      Along step (fun r m _ => m.Records r.state) {} ms := by
  have hstep : ∀ r m t, Accounted r → True → step r m = some t →
      (t.Balanced ↔ m.Records r.state) ∧ (m.Records r.state → t.Accounted) := by
    rintro r m t h - ⟨⟩
    rcases h.handle m with ⟨hrecords, hnext⟩ | ⟨hrecords, hnext⟩
    · exact ⟨⟨fun _ => hrecords, fun _ => hnext.balanced⟩, fun _ => hnext⟩
    · exact ⟨⟨fun hbalanced => absurd hbalanced hnext, fun h => absurd h hrecords⟩,
        fun h => absurd h hrecords⟩
  refine along_iff (I := Accounted) (P := fun _ => True) hstep ?_ fun _ _ => trivial
  intro token
  exact ⟨fun h => (by cases h), fun h => (by cases h.1)⟩

theorem unrecorded_use_unbalanced :
    ¬ Along step (fun _ _ r => r.Balanced) {} [⟨.init true true, 0, .success, .success⟩,
      ⟨.initDone (some 0), 0, .success, .success⟩,
      ⟨.startRecognize (some 1) true true true, 0, .success, .success⟩,
      ⟨.recognizeComplete (some ⟨.recognizeComplete, 0, "", ⟨0, 0, 1⟩⟩), 0, .success, .success⟩,
      ⟨.startCapturer 0 (some 1) true, 7, .success, .error 1⟩] := by
  intro h
  have hlast := (h _ rfl).2
  iterate 3 replace hlast := (hlast _ rfl).2
  have hbalanced := (hlast _ rfl).1
  have hread := hbalanced.1 ⟨7, List.mem_singleton.2 rfl⟩
  cases hread

end Recorder
end IntellVoice.Wakeup
