import IntellVoice.Trigger.Evaluation

/-! `OnInputPipeChange` also reads scene, call, renderers and lists. -/

namespace IntellVoice.Trigger
open Transition
variable {M : Type*} {p : Platform} {mod : ConnectorModule M}

structure World.Current (p : Platform) (w : World M) : Prop where
  active : w.helper.env.audioCaptureActive =
    isSourceRunning w.helper.env (getPipeInfo p w.pipes)
  concurrent : ∀ b, concurrentState p (w.helper.env.lists p w.kv) w.helper.env
    (getPipeInfo p w.pipes) = some b → w.helper.env.audioConcurrentCapture = b

variable {env env' : Env} {e : Event} {kv : StoredLists} {w' : World M}

lemma World.Current.classify {w : World M} (hw : w.Current p) {c : Classification}
    (hc : classify p w.kv w.pipes w.helper.env = some (c, env)) :
    w.helper.env.audioConcurrentCapture = c.isConcurrent ∧
      w.helper.env.audioCaptureActive = c.isSourceRunning := by
  obtain ⟨hrunning, hconcurrent, -⟩ := classify_spec hc
  exact ⟨hw.concurrent _ hconcurrent, hw.active.trans hrunning.symm⟩

lemma Env.Refreshed.concurrentState_eq (h : env.Refreshed p kv env')
    (streams : List CapturerStreamInfo) : concurrentState p (env'.lists p kv) env' streams =
      concurrentState p (env.lists p kv) env streams := by
  rw [h.lists, h.flags]
  rfl

lemma Env.Refreshed.isSourceRunning_eq (h : env.Refreshed p kv env')
    (streams : List CapturerStreamInfo) :
    isSourceRunning env' streams = isSourceRunning env streams := by
  rw [h.flags]
  rfl

lemma step_evaluates_current {w : World M} {pipes : InputPipes} (hw : w.Regular p)
    (he : e.evaluates p w = some pipes) (hstep : step p mod w e = some w') : w'.Current p := by
  obtain ⟨hkv, hpipes, -⟩ := step_evaluates_cases hw.plain he hstep
  obtain ⟨h, heq, -, -, -, -⟩ := step_evaluates hw he hstep
  obtain ⟨concurrent, running, whisper, env, hrunning, hconcurrent, hrefreshed, henv⟩ :=
    Helper.onInputPipeChange_env heq
  have hlists : w'.helper.env.lists p w.kv = env.lists p w.kv := by
    rw [henv]
    rfl
  constructor
  · rw [henv, hpipes]
    exact hrunning.trans (hrefreshed.isSourceRunning_eq _).symm
  · intro b hb
    rw [hkv, hpipes, hlists, henv] at hb
    have hsame := (hrefreshed.concurrentState_eq (getPipeInfo p pipes)).symm.trans hb
    have hb' : some concurrent = some b := hconcurrent.symm.trans hsame
    rw [henv]
    exact Option.some.inj hb'

def Env.inConcurrentCall (env : Env) : Bool := env.mCallConcurrency && env.audioScene == .phoneCall

def Event.storedLists (kv : StoredLists) : Event → StoredLists
  | .handleConcurrentList .whitelist value => { kv with concurrentWhiteList := value }
  | .handleConcurrentList .blacklist value => { kv with concurrentBlackList := value }
  | _ => kv

def streamsVerdict (p : Platform) (kv : StoredLists) (env : Env)
    (streams : List CapturerStreamInfo) : Option Bool :=
  allConcurrent p (env.lists p kv) env.streamFlags streams

/-- A change of inputs does not alter what the evaluation would decide. -/
def Event.KeepsInputs (p : Platform) (w : World M) : Event → Prop
  | .onAudioSceneChange audioScene =>
    w.helper.env.mCallConcurrency = false ∨
    (audioScene == .phoneCall) = (w.helper.env.audioScene == .phoneCall) ∨
    (getPipeInfo p w.pipes).any (fun info => info.state == .running) ∧
      (w.helper.env.hasStreamBesidesVoice = false ∨ w.helper.env.callActive ∨
        streamsVerdict p w.kv w.helper.env (getPipeInfo p w.pipes) = some false)
  | .onRendererStateChange infos =>
    Helper.playsBesides p [.voiceModemCommunication] infos = w.helper.env.hasStreamBesidesVoice ∨
    w.helper.env.inConcurrentCall = false ∨ w.helper.env.callActive ∨
    streamsVerdict p w.kv w.helper.env (getPipeInfo p w.pipes) = some false
  | .handleConcurrentList list value =>
    w.helper.env.callActive ∨
    (w.helper.env.inConcurrentCall ∧ w.helper.env.hasStreamBesidesVoice) ∨
    streamsVerdict p ((Event.handleConcurrentList list value).storedLists w.kv)
        ((Event.handleConcurrentList list value).store p w.helper.env) (getPipeInfo p w.pipes) =
      streamsVerdict p w.kv w.helper.env (getPipeInfo p w.pipes)
  | _ => True

def Event.reportsPipes : Event → Bool
  | .pipesMoved _ => false
  | _ => true

lemma concurrentState_plain (hp : env.Plain p) (streams : List CapturerStreamInfo) :
    concurrentState p (env.lists p kv) env streams =
      if env.callActive || (env.inConcurrentCall && env.hasStreamBesidesVoice) then some false
      else streamsVerdict p kv env streams := by
  simp [concurrentState, checkCallConflict, checkCallOnly, hp.voip, Env.inConcurrentCall,
    streamsVerdict]

lemma isSourceRunning_eq (env : Env) (streams : List CapturerStreamInfo) :
    isSourceRunning env streams =
      (env.inConcurrentCall || streams.any fun info => info.state == .running) := rfl

lemma step_surroundings {w : World M} (he : e.evaluates p w = none) (hreports : e.reportsPipes)
    (hstep : step p mod w e = some w') : w'.pipes = w.pipes ∧ w'.kv = e.storedLists w.kv := by
  obtain ⟨-, hhandle⟩ := handle_of_step hstep
  cases e with
  | onRecognition modelHandle =>
    simp only [handle] at hhandle
    split at hhandle <;> cases hhandle
    exact ⟨rfl, rfl⟩
  | onInputPipeChange pipes => cases he
  | pipesMoved pipes => cases hreports
  | handleConcurrentList list value =>
    cases hhandle
    cases list <;> exact ⟨rfl, rfl⟩
  | onCallStateUpdated callState | onAudioSceneChange audioScene | onRendererStateChange infos
  | attachAudioEngineListener registered =>
    obtain ⟨h', -, rfl⟩ := Option.map_eq_some_iff.1 hhandle
    exact ⟨rfl, rfl⟩
  | _ =>
    cases hhandle
    exact ⟨rfl, rfl⟩

lemma allConcurrent_besidesVoip {flags : StreamFlags} (hvoip : flags.voip = false) (b : Bool)
    {lists : Lists} (streams : List CapturerStreamInfo) :
    allConcurrent p lists { flags with besidesVoip := b } streams =
      allConcurrent p lists flags streams := by
  induction streams with
  | nil => rfl
  | cons info rest ih =>
    have hno : ∀ b, voipOnly { flags with besidesVoip := b } info = false := by
      simp [voipOnly, hvoip]
    simp only [allConcurrent, ih, hno]
    rfl

structure Env.Alike (p : Platform) (streams : List CapturerStreamInfo) (kv kv' : StoredLists)
    (env env' : Env) : Prop where
  stored : env'.captureState = env.captureState
  running : isSourceRunning env' streams = isSourceRunning env streams
  concurrent : concurrentState p (env'.lists p kv') env' streams =
    concurrentState p (env.lists p kv) env streams

lemma Env.Alike.refl (streams : List CapturerStreamInfo) (kv : StoredLists) (env : Env) :
    env.Alike p streams kv kv env := ⟨rfl, rfl, rfl⟩

section
variable {w : World M}

lemma Event.store_scene_alike (hp : w.helper.env.Plain p) {audioScene : AudioScene}
    (hkeeps : (Event.onAudioSceneChange audioScene).KeepsInputs p w) :
    w.helper.env.Alike p (getPipeInfo p w.pipes) w.kv w.kv
      { w.helper.env with audioScene := audioScene } := by
  have hp' : Env.Plain p { w.helper.env with audioScene := audioScene } := hp.congr rfl
  have hverdict : streamsVerdict p w.kv { w.helper.env with audioScene := audioScene }
      (getPipeInfo p w.pipes) = streamsVerdict p w.kv w.helper.env (getPipeInfo p w.pipes) := rfl
  refine ⟨rfl, ?_, ?_⟩
  · rw [isSourceRunning_eq, isSourceRunning_eq]
    rcases hkeeps with hcall | hsame | ⟨hany, -⟩
    · simp [Env.inConcurrentCall, hcall]
    · simp [Env.inConcurrentCall, hsame]
    · simp [hany]
  · rw [concurrentState_plain hp, concurrentState_plain hp', hverdict]
    rcases hkeeps with hcall | hsame | ⟨-, hvoice | hactive | hfalse⟩
    · simp [Env.inConcurrentCall, hcall]
    · simp [Env.inConcurrentCall, hsame]
    · simp [hvoice]
    · simp [hactive]
    · simp [hfalse]

lemma Event.store_renderer_alike (hp : w.helper.env.Plain p)
    {infos : List (Option AudioRendererChangeInfo)}
    (hkeeps : (Event.onRendererStateChange infos).KeepsInputs p w) :
    w.helper.env.Alike p (getPipeInfo p w.pipes) w.kv w.kv
      ((Event.onRendererStateChange infos).store p w.helper.env) := by
  have hp' : Env.Plain p ((Event.onRendererStateChange infos).store p w.helper.env) := hp.congr rfl
  have hvoip : w.helper.env.streamFlags.voip = false := hp.voip
  have hverdict : streamsVerdict p w.kv ((Event.onRendererStateChange infos).store p w.helper.env)
      (getPipeInfo p w.pipes) = streamsVerdict p w.kv w.helper.env (getPipeInfo p w.pipes) :=
    allConcurrent_besidesVoip hvoip
      (Helper.playsBesides p [.voiceCommunication, .videoCommunication] infos) _
  have hcall : ((Event.onRendererStateChange infos).store p w.helper.env).inConcurrentCall =
      w.helper.env.inConcurrentCall := rfl
  refine ⟨rfl, rfl, ?_⟩
  rw [concurrentState_plain hp, concurrentState_plain hp', hverdict, hcall]
  rcases hkeeps with hsame | hno | hactive | hfalse
  · simp [Event.store, hsame]
  · simp [Event.store, hno]
  · simp [Event.store, hactive]
  · simp [hfalse]

lemma Event.store_list_alike (hp : w.helper.env.Plain p) {list : ConcurrencyControlList}
    {value : String} (hkeeps : (Event.handleConcurrentList list value).KeepsInputs p w) :
    w.helper.env.Alike p (getPipeInfo p w.pipes) w.kv
      ((Event.handleConcurrentList list value).storedLists w.kv)
      ((Event.handleConcurrentList list value).store p w.helper.env) := by
  have hp' := (Event.handleConcurrentList list value).store_plain hp
  have hflags : ((Event.handleConcurrentList list value).store p w.helper.env).callActive =
        w.helper.env.callActive ∧
      ((Event.handleConcurrentList list value).store p w.helper.env).inConcurrentCall =
        w.helper.env.inConcurrentCall ∧
      ((Event.handleConcurrentList list value).store p w.helper.env).hasStreamBesidesVoice =
        w.helper.env.hasStreamBesidesVoice := by
    cases list <;> exact ⟨rfl, rfl, rfl⟩
  refine ⟨by cases list <;> rfl, by cases list <;> rfl, ?_⟩
  rw [concurrentState_plain hp, concurrentState_plain hp', hflags.1, hflags.2.1, hflags.2.2]
  rcases hkeeps with hactive | ⟨hcall, hvoice⟩ | hsame
  · simp [hactive]
  · simp [hcall, hvoice]
  · rw [hsame]

lemma Event.store_alike (hp : w.helper.env.Plain p)
    (hattached : w.helper.env.audioInputPipeCallback) {e : Event}
    (he : e.evaluates p w = none) (hkeeps : e.KeepsInputs p w) :
    w.helper.env.Alike p (getPipeInfo p w.pipes) w.kv (e.storedLists w.kv)
      (e.store p w.helper.env) := by
  cases e with
  | onCallStateUpdated callState =>
    rw [Event.store]
    split
    · rename_i hrange
      -- a change of the call state would have been evaluated
      have hsame : w.helper.env.callActive = Helper.callStateActive p callState := by
        simpa [Event.evaluates, hrange, hattached] using he
      rw [← hsame]
      exact .refl _ _ _
    · exact .refl _ _ _
  | onAudioSceneChange audioScene => exact store_scene_alike hp hkeeps
  | onRendererStateChange infos => exact store_renderer_alike hp hkeeps
  | handleConcurrentList list value => exact store_list_alike hp hkeeps
  | attachAudioEngineListener registered =>
    rw [Event.store]
    split
    · exact .refl _ _ _
    rename_i hdetached
    have hreg : registered = false := by simpa [Event.evaluates, hdetached] using he
    rw [if_pos (by simp [hreg])]
    exact ⟨rfl, rfl, rfl⟩
  | _ => exact ⟨rfl, rfl, rfl⟩

lemma step_current {w' : World M} {e : Event} (hw : w.Regular p)
    (hattached : w.helper.env.audioInputPipeCallback) (hcurrent : w.Current p)
    (hreports : e.reportsPipes) (hkeeps : e.KeepsInputs p w) (hstep : step p mod w e = some w') :
    w'.Current p := by
  cases he : e.evaluates p w with
  | some pipes => exact step_evaluates_current hw he hstep
  | none =>
    obtain ⟨hpipes, hkv⟩ := step_surroundings he hreports hstep
    have hagree := (step_not_evaluates hw.plain he hstep).agree
    have halike := Event.store_alike hw.plain hattached he hkeeps
    obtain ⟨hconcurrent, hactive⟩ := CaptureState.mk.inj halike.stored
    constructor
    · rw [hagree, hpipes]
      exact hactive.trans (hcurrent.active.trans halike.running.symm)
    · intro b hb
      rw [hagree, hpipes, hkv] at hb
      rw [hagree]
      exact hconcurrent.trans (hcurrent.concurrent b (halike.concurrent.symm.trans hb))

lemma step_attached {w' : World M} {e : Event} (hw : w.Regular p)
    (hattached : w.helper.env.audioInputPipeCallback) (hstep : step p mod w e = some w') :
    w'.helper.env.audioInputPipeCallback := by
  have hstore : (e.store p w.helper.env).audioInputPipeCallback := by
    cases e with
    | onCallStateUpdated callState =>
      rw [Event.store]
      split <;> exact hattached
    | attachAudioEngineListener registered =>
      rw [Event.store]
      split
      · exact hattached
      · split <;> rfl
    | handleConcurrentList list value => cases list <;> exact hattached
    | _ => exact hattached
  cases he : e.evaluates p w with
  | none =>
    have hagree := (step_not_evaluates hw.plain he hstep).agree
    rw [hagree]
    exact hstore
  | some pipes =>
    obtain ⟨h, heq, -, -, henv, -⟩ := step_evaluates hw he hstep
    obtain ⟨_, _, _, env, -, -, hrefreshed, henv'⟩ := Helper.onInputPipeChange_env heq
    rw [henv', hrefreshed.flags, henv]
    exact hstore

end

theorem run_current (hbuild : p.build.recordWakeupConcurrent) (conn : M)
    (pipes : InputPipes) (kv : StoredLists) (es es' : List Event) {w₀ w₁ w : World M}
    (hrun₀ : run (step p mod) (World.initial conn pipes kv) es = some w₀)
    (hdetached : w₀.helper.env.isCapturerDetached = false)
    (hattach : step p mod w₀ (.attachAudioEngineListener true) = some w₁)
    (hkeeps : Along (step p mod) (fun w e _ => e.reportsPipes ∧ e.KeepsInputs p w) w₁ es')
    (hrun : run (step p mod) w₁ es' = some w) {c : Classification} {env : Env}
    (hclassify : classify p w.kv w.pipes w.helper.env = some (c, env)) :
    w.helper.env.audioConcurrentCapture = c.isConcurrent ∧
      w.helper.env.audioCaptureActive = c.isSourceRunning := by
  have hregular₀ := run_regular hbuild hrun₀
  have heval : (Event.attachAudioEngineListener true).evaluates p w₀ = some w₀.pipes := by
    simp [Event.evaluates, hdetached]
  have hattached : w₁.helper.env.audioInputPipeCallback := by
    obtain ⟨h, heq, -, -, henv, -⟩ := step_evaluates hregular₀ heval hattach
    obtain ⟨_, _, _, _, -, -, hrefreshed, henv'⟩ := Helper.onInputPipeChange_env heq
    rw [henv', hrefreshed.flags, henv]
    simp [Event.store, hdetached, Helper.attachAbilities]
  have hcurrent : w.Regular p ∧ w.helper.env.audioInputPipeCallback ∧ w.Current p :=
    run_invariant (I := fun w : World M => w.Regular p ∧
        w.helper.env.audioInputPipeCallback ∧ w.Current p)
      (fun _ _ _ hw hkept hstep =>
        ⟨step_regular hw.1 hstep, step_attached hw.1 hw.2.1 hstep,
          step_current hw.1 hw.2.1 hw.2.2 hkept.1 hkept.2 hstep⟩)
      ⟨step_regular hregular₀ hattach, hattached, step_evaluates_current hregular₀ heval hattach⟩
      hkeeps hrun
  exact hcurrent.2.2.classify hclassify

theorem run_current_mic_ringing :
    let p := Platform.bare (.minimal true)
    ∃ (w₁ w : World Nat) (c : Classification) (env : Env),
      step p countingModule (World.initial 0 (some []) {}) (.attachAudioEngineListener true) =
        some w₁ ∧
      run (step p countingModule) w₁
        [.onInputPipeChange (.running .mic), .onAudioSceneChange .ringing] = some w ∧
      classify p w.kv w.pipes w.helper.env = some (c, env) ∧
      w.helper.env.audioConcurrentCapture = c.isConcurrent ∧
      w.helper.env.audioCaptureActive = c.isSourceRunning := by
  refine ⟨_, _, _, _, rfl, rfl, rfl, run_current (p := Platform.bare (.minimal true))
    rfl 0 (some []) {} []
    [.onInputPipeChange (.running .mic), .onAudioSceneChange .ringing] rfl rfl rfl ?_ rfl rfl⟩
  refine fun _ ht => ⟨⟨rfl, trivial⟩, fun _ ht' => ⟨⟨rfl, .inl ?_⟩, trivial⟩⟩
  cases ht
  rfl

theorem call_end_leaves_conflict :
    let p := { Platform.bare (.minimal true) with
      supportAbility := fun ability => ability == .callConcurrency }
    ∃ (w : World Nat) (c : Classification) (env : Env) (d : TriggerModelData),
      run (step p countingModule) (World.initial 0 (some []) {})
        [.attachAudioEngineListener true,
          .startGenericRecognition 1 (.voiceWakeup [7]) (some 0),
          .onAudioSceneChange .phoneCall,
          .onRendererStateChange [some { streamUsage := 1, running := true }],
          .onCallStateUpdated 0, .onCallStateUpdated 8, .onAudioSceneChange .default] = some w ∧
      classify p w.kv w.pipes w.helper.env = some (c, env) ∧
      c.isConcurrent ∧ c.isSourceRunning = false ∧
      w.helper.env.audioConcurrentCapture = false ∧ w.helper.env.audioCaptureActive ∧
      w.helper.find 1 = some d ∧ d.requested ∧ d.state = .loaded :=
  ⟨_, _, _, _, rfl, rfl, rfl, rfl, rfl, rfl, rfl, rfl, rfl⟩

end IntellVoice.Trigger
