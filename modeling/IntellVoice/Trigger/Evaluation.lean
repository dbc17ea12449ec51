import IntellVoice.Trigger.Success

/-! A step stores its flags and may then classify the pipes. -/

namespace IntellVoice.Trigger
open Loop Option
variable {M : Type*} {p : Platform} {mod : ConnectorModule M} {kv : StoredLists}
  {pipes : InputPipes}

def Env.otherConflict (env : Env) : Bool :=
  env.callActive || env.systemHibernate || env.audioScene != .default

structure Env.Plain (p : Platform) (env : Env) : Prop where
  build : p.build.recordWakeupConcurrent
  voip : env.mVoipConcurrency = false

variable {c : Cell M} {env env' : Env} {e : Event} {w w' : World M}

lemma Env.Plain.congr (hp : env.Plain p) (hvoip : env'.mVoipConcurrency = env.mVoipConcurrency) :
    env'.Plain p :=
  ⟨hp.build, hvoip.trans hp.voip⟩

lemma Env.Plain.conflict_eq (hp : env.Plain p) : isConflictSceneActive p.build env =
      (env.otherConflict || (!env.audioConcurrentCapture && env.audioCaptureActive)) := by
  simp [isConflictSceneActive, hp.build, hp.voip, Env.otherConflict]

structure Env.Opens (p : Platform) (kv : StoredLists) (pipes : InputPipes) (env : Env) :
    Prop where
  closed : env.audioConcurrentCapture = false
  running : isSourceRunning env (getPipeInfo p pipes)
  concurrent : concurrentState p (env.lists p kv) env (getPipeInfo p pipes) = some true

lemma Env.Opens.callActive (ho : env.Opens p kv pipes) (hp : env.Plain p) :
    env.callActive = false := by
  have hcall := ho.concurrent
  unfold concurrentState at hcall
  split at hcall
  · cases hcall
  rename_i hno
  cases hactive : env.callActive with
  | false => rfl
  | true => simp [checkCallConflict, hp.voip, hactive] at hno

namespace Helper
variable {h h' : Helper M}

lemma firstProc_env (mod : ConnectorModule M) (h : Helper M) :
    (h.firstProc mod).env = { h.env with mFirstProc := false } := by
  unfold firstProc
  split
  · rfl
  rename_i hfirst
  rw [Bool.not_eq_true] at hfirst
  rw [← hfirst]

@[simp] lemma firstProc_find (mod : ConnectorModule M) (h : Helper M) (k : Int) :
    (h.firstProc mod).find k = h.find k := by
  unfold firstProc
  split <;> rfl

lemma onInputPipeChange_cases (heq : h.onInputPipeChange p mod kv pipes = some h') :
    ∃ c env, c.isSourceRunning = isSourceRunning h.env (getPipeInfo p pipes) ∧
      concurrentState p (h.env.lists p kv) h.env (getPipeInfo p pipes) = some c.isConcurrent ∧
      Env.Refreshed p kv { h.env with mFirstProc := false } env ∧
      ((sameClassification env c ∧ h' = (h.firstProc mod).setEnv env) ∨
        (sameClassification env c = false ∧
          h' = ((h.firstProc mod).setEnv (storeClassification c env)).executeForModels p mod
            env.captureState c.captureState)) := by
  obtain ⟨⟨c, env⟩, hclass, rfl⟩ := map_eq_some_iff.1 heq
  rw [firstProc_env] at hclass
  obtain ⟨hrunning, hconcurrent, hrefreshed⟩ := classify_spec hclass
  refine ⟨c, env, hrunning, hconcurrent, hrefreshed, ?_⟩
  dsimp only
  by_cases hsame : sameClassification env c
  · exact .inl ⟨hsame, if_pos hsame⟩
  · exact .inr ⟨by simpa using hsame, if_neg hsame⟩

lemma onInputPipeChange_env (heq : h.onInputPipeChange p mod kv pipes = some h') :
    ∃ concurrent running whisper env, running = isSourceRunning h.env (getPipeInfo p pipes) ∧
      concurrentState p (h.env.lists p kv) h.env (getPipeInfo p pipes) = some concurrent ∧
      Env.Refreshed p kv { h.env with mFirstProc := false } env ∧
      h'.env = { env with
        audioConcurrentCapture := concurrent
        audioCaptureActive := running
        whitelistWhisperEnable := whisper } := by
  obtain ⟨c, env, hrunning, hconcurrent, hrefreshed, ⟨hsame, rfl⟩ | ⟨-, rfl⟩⟩ :=
    onInputPipeChange_cases heq
  · simp only [sameClassification, Bool.and_eq_true, beq_iff_eq] at hsame
    refine ⟨_, _, env.whitelistWhisperEnable, env, hrunning, hconcurrent, hrefreshed, ?_⟩
    rw [hsame.1.1, hsame.1.2]
    rfl
  · exact ⟨_, _, c.isWhitelistWhisperEnable, env, hrunning, hconcurrent, hrefreshed, by simp; rfl⟩

lemma onInputPipeChange_plain (hp : h.env.Plain p)
    (heq : h.onInputPipeChange p mod kv pipes = some h') :
    h'.env.Plain p ∧ h'.env.otherConflict = h.env.otherConflict := by
  obtain ⟨_, _, _, env, -, -, hrefreshed, henv⟩ := onInputPipeChange_env heq
  rw [henv, hrefreshed.flags]
  exact ⟨⟨hp.build, hp.voip⟩, rfl⟩

lemma conflict_eq (hp : h.env.Plain p) : h.conflict p = (h.env.otherConflict ||
      (!h.env.audioConcurrentCapture && h.env.audioCaptureActive)) := hp.conflict_eq

end Helper

lemma methodTable_cases (old new : CaptureState) : ((methodTable old new).onlyParameter ∧
      (!new.concurrent && new.source) = (!old.concurrent && old.source)) ∨
    ((methodTable old new).updatesAll ∧ ¬ (old.concurrent = false ∧ new = ⟨true, true⟩)) ∨
    (methodTable old new = .doNoConcurrentStopAndConcurrentOpenSource ∧
      old.concurrent = false ∧ new = ⟨true, true⟩) := by
  obtain ⟨oc, os⟩ := old
  obtain ⟨nc, ns⟩ := new
  revert oc os nc ns
  decide

namespace Helper
variable {h h' : Helper M}

lemma onInputPipeChange_opens (hs : mod.Succeeds) (hready : h.Ready) (hp : h.env.Plain p)
    (ho : h.env.Opens p kv pipes) (heq : h.onInputPipeChange p mod kv pipes = some h') :
    h.Maps openedState h' ∧ h'.conflict p = h.env.otherConflict := by
  obtain ⟨hp', hother⟩ := onInputPipeChange_plain hp heq
  obtain ⟨c, env, hrunning, hconcurrent, hrefreshed, hcases⟩ := onInputPipeChange_cases heq
  have hstored : env.audioConcurrentCapture = false := by
    rw [hrefreshed.flags]
    exact ho.closed
  have hc : c.isConcurrent ∧ c.isSourceRunning :=
    ⟨(some.inj (ho.concurrent.symm.trans hconcurrent)).symm, hrunning.trans ho.running⟩
  rcases hcases with ⟨hsame, -⟩ | ⟨-, rfl⟩
  · simp [sameClassification, hc.1, hstored] at hsame
  have hm : methodTable env.captureState c.captureState =
      .doNoConcurrentStopAndConcurrentOpenSource := by
    have hnew : c.captureState = ⟨true, true⟩ := by simp [Classification.captureState, hc]
    rcases methodTable_cases env.captureState c.captureState with ⟨-, hno⟩ | ⟨-, hno⟩ | ⟨hm, -⟩
    · rw [Env.captureState, hstored, hnew]
      cases env.audioCaptureActive <;> rfl
    · exact absurd ⟨hstored, hnew⟩ hno
    · exact hm
  have hreadyp := ((reactionInvariant_ready mod).steady (p := p)).callbacks.firstProc hready
  have hmaps := executeForModels_opened (p := p) hs
    ((reactionInvariant_ready mod).env _ (storeClassification c env) hreadyp) hm
  refine ⟨fun k d' hd' => ?_, ?_⟩
  · simpa using hmaps k d' hd'
  · rw [conflict_eq hp', hother]
    simp [storeClassification, hc]

lemma onInputPipeChange_not_opens (hs : mod.Succeeds) (hready : h.Ready) (hp : h.env.Plain p)
    (hno : ¬ h.env.Opens p kv pipes) (heq : h.onInputPipeChange p mod kv pipes = some h') :
    ((∀ k, h'.find k = h.find k) ∧ h'.conflict p = h.conflict p) ∨ h'.Settled p := by
  obtain ⟨hp', hother⟩ := onInputPipeChange_plain hp heq
  obtain ⟨c, env, hrunning, hconcurrent, hrefreshed, hcases⟩ := onInputPipeChange_cases heq
  have hold : env.captureState = h.env.captureState := by
    rw [hrefreshed.flags]
    rfl
  rcases hcases with ⟨-, rfl⟩ | ⟨-, rfl⟩
  · refine .inl ⟨by simp, ?_⟩
    have hstored := CaptureState.mk.inj hold
    rw [conflict_eq hp', conflict_eq hp, hother]
    simp [hstored.1, hstored.2]
  have hreadyp := (reactionInvariant_ready mod).env _ (storeClassification c env)
    (((reactionInvariant_ready mod).steady (p := p)).callbacks.firstProc hready)
  rcases methodTable_cases env.captureState c.captureState with
    ⟨hm, hsrc⟩ | ⟨hm, -⟩ | ⟨-, hclosed, hnew⟩
  · refine .inl ⟨fun k => (executeForModels_onlyParameter hm k).trans (by simp), ?_⟩
    rw [conflict_eq hp', conflict_eq hp, hother]
    rw [hold] at hsrc
    simp only [executeForModels_env, setEnv_env, storeClassification]
    exact congrArg _ hsrc
  · exact .inr (executeForModels_settled hs hreadyp hm)
  · rw [hold] at hclosed
    obtain ⟨hconc, hrun⟩ := CaptureState.mk.inj hnew
    exact absurd ⟨hclosed, hrunning ▸ hrun, hconc ▸ hconcurrent⟩ hno

end Helper

def Event.store (p : Platform) (env : Env) : Event → Env
  | .onCallStateUpdated callState =>
    if Helper.callStateInRange p callState then
      { env with callActive := Helper.callStateActive p callState }
    else env
  | .onAudioSceneChange audioScene => { env with audioScene := audioScene }
  | .onHibernateStateUpdated isHibernate => { env with systemHibernate := isHibernate }
  | .onRendererStateChange infos =>
    { env with
      hasStreamBesidesVoip :=
        Helper.playsBesides p [.voiceCommunication, .videoCommunication] infos
      hasStreamBesidesVoice := Helper.playsBesides p [.voiceModemCommunication] infos }
  | .handleConcurrentList list _ =>
    clearConcurrentControlList (list == .whitelist) (list == .blacklist) env
  | .attachAudioEngineListener registered =>
    if env.isCapturerDetached then env
    else if !registered then { env with audioInputPipeCallback := true }
    else Helper.attachAbilities p { env with audioInputPipeCallback := true }
  | .detachAudioEngineListener => { env with isCapturerDetached := true }
  | _ => env

def Event.evaluates (p : Platform) (w : World M) : Event → Option InputPipes
  | .onCallStateUpdated callState =>
    if Helper.callStateInRange p callState &&
        w.helper.env.callActive != Helper.callStateActive p callState &&
        w.helper.env.audioInputPipeCallback
    then some w.pipes else none
  | .onInputPipeChange pipes => some pipes
  | .attachAudioEngineListener registered =>
    if !w.helper.env.isCapturerDetached && registered then some w.pipes else none
  | _ => none

structure Helper.Careful (p : Platform) (h h' : Helper M) : Prop where
  conflict : h'.conflict p = h.conflict p
  started : ∀ k d', h'.find k = some d' → d'.state = .started →
    (d'.requested ∧ h.conflict p = false) ∨
    ∃ d, h.find k = some d ∧ d.state = .started ∧ (d.requested → d'.requested)

lemma Helper.Careful.of_find {h h' : Helper M} (hconflict : h'.conflict p = h.conflict p)
    (hfind : ∀ k, h'.find k = h.find k) : h.Careful p h' :=
  ⟨hconflict, fun k d' hd' hst => .inr ⟨d', hfind k ▸ hd', hst, id⟩⟩

lemma step_evaluates_cases (hp : w.helper.env.Plain p) (he : e.evaluates p w = some pipes)
    (hstep : step p mod w e = some w') : w'.kv = w.kv ∧ w'.pipes = pipes ∧
    ∃ h, h.onInputPipeChange p mod w.kv pipes = some w'.helper ∧
      (h = w.helper.setEnv (e.store p w.helper.env) ∧
          (e.store p w.helper.env).otherConflict = w.helper.env.otherConflict ∧
          (e.store p w.helper.env).captureState = w.helper.env.captureState ∨
        h = w.helper.updateEnv p mod (e.store p w.helper.env) ∧ e.store p w.helper.env =
            { w.helper.env with callActive := !w.helper.env.callActive }) := by
  obtain ⟨-, hhandle⟩ := handle_of_step hstep
  cases e with
  | onCallStateUpdated callState =>
    simp only [Event.evaluates, Bool.and_eq_true, bne_iff_ne, ne_eq] at he
    split at he
    · rename_i hcond
      obtain ⟨⟨hrange, hchange⟩, hattached⟩ := hcond
      cases he
      obtain ⟨h', heq, rfl⟩ := map_eq_some_iff.1 hhandle
      have hstore : Event.store p w.helper.env (.onCallStateUpdated callState) =
          { w.helper.env with callActive := Helper.callStateActive p callState } := if_pos hrange
      refine ⟨rfl, rfl, _, ?_, .inr ⟨rfl, ?_⟩⟩
      · rw [hstore]
        simpa [Helper.onCallStateUpdated, hrange, hchange, hp.build, hp.voip, hattached,
          Helper.updateEnv, World.setHelper] using heq
      · rw [hstore]
        cases h1 : w.helper.env.callActive <;> cases h2 : Helper.callStateActive p callState <;>
          simp_all
    · cases he
  | onInputPipeChange pipes' =>
    cases he
    simp only [handle] at hhandle
    split at hhandle
    · obtain ⟨h', heq, rfl⟩ := map_eq_some_iff.1 hhandle
      exact ⟨rfl, rfl, w.helper, heq, .inl ⟨rfl, rfl, rfl⟩⟩
    · cases hhandle
  | attachAudioEngineListener registered =>
    simp only [Event.evaluates] at he
    split at he
    · rename_i hcond
      cases he
      simp only [Bool.and_eq_true, Bool.not_eq_true'] at hcond
      obtain ⟨h', heq, rfl⟩ := map_eq_some_iff.1 hhandle
      have hstore : Event.store p w.helper.env (.attachAudioEngineListener registered) =
          Helper.attachAbilities p { w.helper.env with audioInputPipeCallback := true } := by
        simp [Event.store, hcond]
      refine ⟨rfl, rfl, _, ?_, .inl ⟨rfl, by rw [hstore]; rfl, by rw [hstore]; rfl⟩⟩
      have hdetached : ¬ w.helper.env.isCapturerDetached := by simp [hcond.1]
      rw [hstore]
      simp only [Helper.attachAudioEngineListener, if_neg hdetached, hcond.2, Bool.not_true,
        Bool.false_eq_true, if_false] at heq
      exact heq
    · cases he
  | _ => cases he

def Env.Agree (env env' : Env) : Prop :=
  env' = { env with
    rendererStateMap := env'.rendererStateMap
    isFoldable := env'.isFoldable
    curFoldStatus := env'.curFoldStatus }

lemma Env.Agree.refl (env : Env) : env.Agree env := rfl

lemma Env.Agree.of_eq (h : env' = env) : env.Agree env' := h ▸ .refl env

lemma Env.Agree.trans {env'' : Env} (h : env.Agree env') (h' : env'.Agree env'') :
    env.Agree env'' := by
  unfold Env.Agree
  rw [h', h]

namespace Helper
variable {h h' : Helper M}

lemma conflict_of_agree (henv : h.env.Agree h'.env) : h'.conflict p = h.conflict p := by
  rw [conflict, henv]
  rfl

lemma startGenericRecognition_env (p : Platform) (mod : ConnectorModule M) (uuid : Int)
    (model : GenericTriggerModel) (callback : Option Callback) (h : Helper M) :
    (h.startGenericRecognition p mod uuid model callback).2.env = h.env := by
  have haccept : ((h.createTriggerModelData uuid).onCell uuid false
      (acceptRequest mod model callback)).2.env = h.env := onCell_env _ _ _ _
  simp only [startGenericRecognition]
  split
  · exact haccept
  split
  · exact haccept
  · exact (onCell_env _ _ _ _).trans haccept

lemma unloadGenericTriggerModel_env (mod : ConnectorModule M) (uuid : Int) (h : Helper M) :
    (h.unloadGenericTriggerModel mod uuid).env = h.env := by
  unfold unloadGenericTriggerModel
  split
  · rfl
  split
  · rfl
  · exact onCell_env _ _ _ _

lemma onRecognition_env (modelHandle : Int) (h : Helper M) :
    (h.onRecognition modelHandle).env = h.env := by
  unfold onRecognition
  split <;> rfl

lemma restartAllRecognition_env (p : Platform) (mod : ConnectorModule M) (h : Helper M) :
    (h.restartAllRecognition p mod).env = h.env := by
  have hstop : (h.stopAllRecognition p mod).env = h.env :=
    visitUntil_invariant (I := fun h' : Helper M => h'.env = h.env)
      (fun _ _ heq => (onCell_env _ _ _ _).trans heq) _ rfl
  exact visitUntil_invariant (I := fun h' : Helper M => h'.env = h.env)
    (fun _ _ heq => (onCell_env _ _ _ _).trans heq) _ hstop

lemma reportUsages_agree (mod : ConnectorModule M) (usages : List (Int × Bool)) (h : Helper M) :
    h.env.Agree (usages.foldl (fun h usage => h.reportUsage mod usage) h).env := by
  induction usages generalizing h with
  | nil => exact .refl _
  | cons usage usages ih =>
    refine Env.Agree.trans ?_ (ih (h.reportUsage mod usage))
    unfold reportUsage
    split <;> rfl

lemma reportUsages_find (mod : ConnectorModule M) (usages : List (Int × Bool)) (h : Helper M)
    (k : Int) : (usages.foldl (fun h usage => h.reportUsage mod usage) h).find k = h.find k := by
  induction usages generalizing h with
  | nil => rfl
  | cons usage usages ih =>
    refine (ih (h.reportUsage mod usage)).trans ?_
    unfold reportUsage
    split <;> rfl

lemma reevaluateForVoip_plain (hp : h.env.Plain p) :
    h.reevaluateForVoip p mod kv pipes = some h := by
  simp [reevaluateForVoip, hp.voip]

end Helper

lemma acceptRequest_not_started (hs : mod.Succeeds) (model : GenericTriggerModel)
    (callback : Option Callback) (hc : c.data.NeedsModule c.io) :
    (Helper.acceptRequest mod model callback c).2.data.state ≠ .started := by
  have hinit : (initRecognition mod (!c.data.sameModel model) c).2.data.state ≠ .started := by
    have hstop := stopRecognition_not_started hs hc
    simp only [initRecognition]
    split
    · rename_i hstate
      simp [hstate]
    split
    · exact ModelState.noConfusion
    · exact hstop
  simp only [Helper.acceptRequest]
  split
  · exact hinit
  obtain ⟨m, hm⟩ := TriggerModelData.setModel_eq
    (initRecognition mod (!c.data.sameModel model) c).2.data model
  rw [hm]
  cases callback <;> exact hinit

lemma acceptRequest_requested {model : GenericTriggerModel} {callback : Option Callback}
    (haccept : (Helper.acceptRequest mod model callback c).1) :
    (Helper.acceptRequest mod model callback c).2.data.requested := by
  simp only [Helper.acceptRequest] at haccept ⊢
  split at haccept
  · cases haccept
  rename_i hok
  rw [if_neg hok]
  rfl

lemma prepareAndStart_requested (mod : ConnectorModule M) (ctx : StartContext) (c : Cell M) :
    (Helper.prepareAndStart mod ctx c).2.data.requested = c.data.requested := by
  have hprep := acts_prepareForRecognition mod c
  simp only [Helper.prepareAndStart]
  split
  · exact hprep.requested
  · exact (hprep.trans (acts_startRecognition mod ctx _)).requested

lemma stopRequested_not_started (hs : mod.Succeeds) (hc : c.data.NeedsModule c.io) :
    (Helper.stopRequested mod c).2.data.state ≠ .started := by
  have hstop :=
    stopRecognition_not_started hs (c := { c with data := c.data.setRequested false }) hc
  simp only [Helper.stopRequested]
  split <;> exact hstop

namespace Helper.Careful
variable {h h' h'' : Helper M}

lemma refl (h : Helper M) : h.Careful p h := .of_find rfl fun _ => rfl

lemma trans (hc : h.Careful p h') (hc' : h'.Careful p h'') : h.Careful p h'' := by
  refine ⟨hc'.conflict.trans hc.conflict, fun k d'' hd'' hst => ?_⟩
  rcases hc'.started k d'' hd'' hst with ⟨hreq, hno⟩ | ⟨d', hd', hst', hreq⟩
  · exact .inl ⟨hreq, hc.conflict ▸ hno⟩
  rcases hc.started k d' hd' hst' with ⟨hreq', hno⟩ | ⟨d, hd, hst, hreq'⟩
  · exact .inl ⟨hreq hreq', hno⟩
  · exact .inr ⟨d, hd, hst, hreq ∘ hreq'⟩

lemma onCell {β : Type*} (uuid : Int) (absent : β) {f : Cell M → β × Cell M}
    (hf : ∀ d, h.find uuid = some d → (f ⟨d, h.io⟩).2.data.state = .started →
      ((f ⟨d, h.io⟩).2.data.requested ∧ h.conflict p = false) ∨
      (d.state = .started ∧ (d.requested → (f ⟨d, h.io⟩).2.data.requested))) :
    h.Careful p (h.onCell uuid absent f).2 := by
  refine ⟨by simp [Helper.conflict], fun k d' hd' hst => ?_⟩
  by_cases hk : k = uuid
  · subst hk
    cases hd : h.find k with
    | none => simp [onCell_none hd, hd] at hd'
    | some d =>
      rw [find_onCell_self hd] at hd'
      rw [← some.inj hd'] at hst ⊢
      exact (hf d hd hst).imp_right fun hd₁ => ⟨d, rfl, hd₁⟩
  · rw [find_onCell_ne hk] at hd'
    exact .inr ⟨d', hd', hst, id⟩

lemma startGenericRecognition (hs : mod.Succeeds) (hready : h.Ready) (uuid : Int)
    (model : GenericTriggerModel) (callback : Option Callback) :
    h.Careful p (h.startGenericRecognition p mod uuid model callback).2 := by
  have hcreate : h.Careful p (h.createTriggerModelData uuid) ∧
      (h.createTriggerModelData uuid).Ready := by
    refine ⟨⟨rfl, fun k d hd hst => ?_⟩, fun k d hd => ?_⟩
    · rcases Helper.find_createTriggerModelData hd with hold | ⟨-, rfl⟩
      · exact .inr ⟨d, hold, hst, id⟩
      · cases hst
    · rcases Helper.find_createTriggerModelData hd with hold | ⟨-, rfl⟩
      · exact hready k d hold
      · exact fun hne => absurd rfl hne
  have haccept : (h.createTriggerModelData uuid).Careful p
      ((h.createTriggerModelData uuid).onCell uuid false (acceptRequest mod model callback)).2 :=
    onCell uuid false fun d hd hst =>
      absurd hst (acceptRequest_not_started hs model callback (hcreate.2 uuid d hd))
  refine hcreate.1.trans ?_
  simp only [Helper.startGenericRecognition]
  split
  · exact haccept
  rename_i hok
  split
  · exact haccept
  rename_i hno
  refine haccept.trans (onCell uuid (-1) fun d hd _ => .inl ⟨?_, by simpa using hno⟩)
  rw [prepareAndStart_requested]
  -- the entry that is started is the one just accepted
  cases hfind : (h.createTriggerModelData uuid).find uuid with
  | none => simp [onCell_none hfind] at hok
  | some d₀ =>
    rw [find_onCell_self hfind] at hd
    rw [← some.inj hd]
    exact acceptRequest_requested (by simpa [onCell_some hfind] using hok)

lemma stopGenericRecognition (hs : mod.Succeeds) (hready : h.Ready) (uuid : Int) :
    h.Careful p (h.stopGenericRecognition mod uuid).2 :=
  onCell uuid (-1) fun d hd hst =>
    absurd hst (stopRequested_not_started hs (hready uuid d hd))

lemma unloadGenericTriggerModel (mod : ConnectorModule M) (uuid : Int) :
    h.Careful p (h.unloadGenericTriggerModel mod uuid) := by
  refine ⟨by rw [Helper.conflict, unloadGenericTriggerModel_env]; rfl, fun k d' hd' hst => ?_⟩
  unfold Helper.unloadGenericTriggerModel at hd'
  split at hd'
  · exact .inr ⟨d', hd', hst, id⟩
  split at hd'
  · exact .inr ⟨d', hd', hst, id⟩
  by_cases hk : k = uuid
  · subst hk
    simp [Helper.find] at hd'
  have hsame : h.find k = some d' := by
    rw [← find_onCell_ne hk () (stopAndUnload mod) h]
    simpa [Helper.find, OrderedMap.find?_erase, hk] using hd'
  exact .inr ⟨d', hsame, hst, id⟩

lemma onRecognition (h : Helper M) (modelHandle : Int) :
    h.Careful p (h.onRecognition modelHandle) := by
  refine ⟨by rw [Helper.conflict, onRecognition_env]; rfl, fun k d' hd' hst => ?_⟩
  rcases h.find_onRecognition modelHandle k with hsame | ⟨d, hd, hload⟩
  · exact .inr ⟨d', hsame ▸ hd', hst, id⟩
  · obtain rfl : d.setState .loaded = d' := some.inj (hload.symm.trans hd')
    cases hst

lemma restartAllRecognition (p : Platform) (mod : ConnectorModule M) (h : Helper M) :
    h.Careful p (h.restartAllRecognition p mod) := by
  have hstop : h.Careful p (h.stopAllRecognition p mod) := by
    refine visitUntil_invariant (fun uuid h' hc => hc.trans (onCell uuid true ?_)) _ (refl h)
    intro d _ hst
    have hop : ReactionOp mod (stopNeeded mod (h'.conflict p)) := .stop _
    have hreq := (hop.acts ⟨d, h'.io⟩).requested
    refine .inr ⟨?_, fun hd => hreq.trans hd⟩
    simp only [stopNeeded] at hst
    split at hst
    · exact hst
    rcases stopRecognition_cases mod ⟨d, h'.io⟩ with ⟨heq, -⟩ | ⟨hstate, -⟩
    · rwa [heq] at hst
    · exact hstate
  have hstart : (h.stopAllRecognition p mod).Careful p (h.restartAllRecognition p mod) := by
    refine visitUntil_invariant (fun uuid h' hc => hc.trans (onCell uuid true ?_)) _ (refl _)
    intro d _ hst
    have hop : ReactionOp mod (startNeeded mod (h'.startContext p) (h'.conflict p)) := .start _ _
    have hreq := (hop.acts ⟨d, h'.io⟩).requested
    by_cases hneed : (d.requested && !h'.conflict p)
    · rw [Bool.and_eq_true, Bool.not_eq_true'] at hneed
      exact .inl ⟨hreq.trans hneed.1, hneed.2⟩
    · refine .inr ⟨?_, fun hd => hreq.trans hd⟩
      simpa [startNeeded, hneed] using hst
  exact hstop.trans hstart

lemma setEnv {env : Env} (hconflict : (h.setEnv env).conflict p = h.conflict p)
    (hc : (h.setEnv env).Careful p h') : h.Careful p h' :=
  (of_find hconflict fun _ => rfl).trans hc

end Helper.Careful

structure Helper.Quiet (p : Platform) (mod : ConnectorModule M) (env : Env) (h h' : Helper M) :
    Prop where
  agree : env.Agree h'.env
  models : mod.Succeeds → h.Ready → h.Careful p h' ∨ h'.Settled p

namespace Helper.Quiet
variable {h h' : Helper M}

lemma careful {env : Env} (hagree : env.Agree h'.env) (hc : h.Careful p h') :
    Quiet p mod env h h' := ⟨hagree, fun _ _ => .inl hc⟩

lemma refl (h : Helper M) : Quiet p mod h.env h h := .careful (.refl _) (.refl h)

lemma updateEnv (p : Platform) (mod : ConnectorModule M) (h : Helper M) (env : Env) :
    Quiet p mod env h (h.updateEnv p mod env) :=
  ⟨.of_eq (onUpdateAllRecognitionState_env p mod _),
    fun hs hready => .inr (onUpdateAllRecognitionState_settled hs hready)⟩

lemma onCallStateUpdated (hp : h.env.Plain p) {callState : Int}
    (hno : (callStateInRange p callState && h.env.callActive != callStateActive p callState &&
      h.env.audioInputPipeCallback) = false)
    (heq : h.onCallStateUpdated p mod kv pipes callState = some h') :
    Quiet p mod ((Event.onCallStateUpdated callState).store p h.env) h h' := by
  simp only [Helper.onCallStateUpdated] at heq
  split at heq
  · rename_i hrange
    cases heq
    rw [Event.store, if_neg (by simpa using hrange)]
    exact refl h
  rename_i hrange
  have hrange : callStateInRange p callState := by simpa using hrange
  rw [Event.store, if_pos hrange]
  split at heq
  · rename_i hsame
    cases heq
    exact .careful (.of_eq (by rw [← hsame])) (.refl h)
  rename_i hchange
  -- with the listener attached the event would have evaluated the pipes
  have hcallback : ((h.updateEnv p mod { h.env with
      callActive := callStateActive p callState }).env.audioInputPipeCallback) = false := by
    rw [Helper.updateEnv, onUpdateAllRecognitionState_env]
    simpa [hrange, hchange] using hno
  simp only [hp.build, hcallback, Bool.not_true, Bool.not_false, Bool.false_eq_true,
    if_false, if_true] at heq
  cases heq
  exact updateEnv p mod h _

lemma onAudioSceneChange (hp : h.env.Plain p) {audioScene : AudioScene}
    (heq : h.onAudioSceneChange p mod kv pipes audioScene = some h') :
    Quiet p mod { h.env with audioScene := audioScene } h h' := by
  unfold Helper.onAudioSceneChange at heq
  split at heq
  · rename_i hsame
    cases heq
    exact .careful (.of_eq (by rw [← hsame])) (.refl h)
  have hplain : (h.updateEnv p mod { h.env with audioScene := audioScene }).env.Plain p :=
    hp.congr (by simp [Helper.updateEnv])
  rw [reevaluateForVoip_plain hplain] at heq
  cases heq
  exact updateEnv p mod h _

lemma onHibernateStateUpdated (h : Helper M) (isHibernate : Bool) :
    Quiet p mod { h.env with systemHibernate := isHibernate } h
      (h.onHibernateStateUpdated p mod isHibernate) := by
  unfold Helper.onHibernateStateUpdated
  split
  · rename_i hsame
    exact .careful (.of_eq (by rw [← hsame])) (.refl h)
  · exact updateEnv p mod h _

lemma onRendererStateChange (hp : h.env.Plain p) {infos : List (Option AudioRendererChangeInfo)}
    (heq : h.onRendererStateChange p mod kv pipes infos = some h') :
    Quiet p mod ((Event.onRendererStateChange infos).store p h.env) h h' := by
  simp only [Helper.onRendererStateChange] at heq
  have hagree := reportUsages_agree mod (rendererUsages infos).entries
    (h.setEnv ((Event.onRendererStateChange infos).store p h.env))
  have hvoip := congrArg Env.mVoipConcurrency hagree
  obtain rfl := some.inj ((reevaluateForVoip_plain (hp.congr hvoip)).symm.trans heq)
  -- the flags of the renderer report are not part of the conflict
  have hconflict : (h.setEnv ((Event.onRendererStateChange infos).store p h.env)).conflict p =
      h.conflict p := rfl
  refine .careful hagree (.of_find ((conflict_of_agree hagree).trans hconflict) fun k => ?_)
  exact reportUsages_find mod (rendererUsages infos).entries _ k

lemma attachAudioEngineListener {registered : Bool}
    (hno : (!h.env.isCapturerDetached && registered) = false)
    (heq : h.attachAudioEngineListener p mod kv pipes registered = some h') :
    Quiet p mod ((Event.attachAudioEngineListener registered).store p h.env) h h' := by
  simp only [Helper.attachAudioEngineListener] at heq
  rw [Event.store]
  split at heq
  · rename_i hdetached
    cases heq
    rw [if_pos hdetached]
    exact refl h
  rename_i hdetached
  have hreg : registered = false := by simpa [hdetached] using hno
  subst hreg
  cases heq
  rw [if_neg hdetached]
  exact .careful (.refl _) (.of_find rfl fun _ => rfl)

lemma restartAllRecognition {env : Env} (hagree : h.env.Agree env) :
    Quiet p mod h.env h ((h.setEnv env).restartAllRecognition p mod) := by
  refine .careful ?_ (.setEnv (conflict_of_agree hagree) (.restartAllRecognition p mod _))
  rw [restartAllRecognition_env]
  exact hagree

lemma onFoldStatusChanged (h : Helper M) (foldStatus : FoldStatus) :
    Quiet p mod h.env h (h.onFoldStatusChanged p mod foldStatus) := by
  unfold Helper.onFoldStatusChanged
  split
  · exact refl h
  · exact restartAllRecognition rfl

lemma attachFoldStatusListener (h : Helper M) (isFoldable : Bool) (foldStatus : FoldStatus) :
    Quiet p mod h.env h (h.attachFoldStatusListener p mod isFoldable foldStatus) := by
  simp only [Helper.attachFoldStatusListener]
  split
  · exact refl h
  split
  · exact .careful rfl (.of_find rfl fun _ => rfl)
  split
  · exact restartAllRecognition rfl
  · exact .careful rfl (.of_find rfl fun _ => rfl)

end Helper.Quiet

lemma step_not_evaluates (hp : w.helper.env.Plain p) (he : e.evaluates p w = none)
    (hstep : step p mod w e = some w') :
    Helper.Quiet p mod (e.store p w.helper.env) w.helper w'.helper := by
  obtain ⟨hbuild, hhandle⟩ := handle_of_step hstep
  cases e with
  | startGenericRecognition uuid model callback =>
    cases hhandle
    exact ⟨.of_eq (Helper.startGenericRecognition_env p mod uuid model callback _),
      fun hs hready => .inl (.startGenericRecognition hs hready uuid model callback)⟩
  | stopGenericRecognition uuid =>
    cases hhandle
    exact ⟨.of_eq (Helper.onCell_env _ _ _ _),
      fun hs hready => .inl (.stopGenericRecognition hs hready uuid)⟩
  | unloadGenericTriggerModel uuid =>
    cases hhandle
    exact .careful (.of_eq (Helper.unloadGenericTriggerModel_env mod uuid _))
      (.unloadGenericTriggerModel mod uuid)
  | onRecognition modelHandle =>
    simp only [handle] at hhandle
    split at hhandle
    · cases hhandle
      exact .careful (.of_eq (Helper.onRecognition_env modelHandle _))
        (.onRecognition _ modelHandle)
    · cases hhandle
  | setParameter key value | detachAudioEngineListener =>
    cases hhandle
    exact .careful (.refl _) (.of_find rfl fun _ => rfl)
  | onCallStateUpdated callState =>
    obtain ⟨h', heq, rfl⟩ := map_eq_some_iff.1 hhandle
    exact .onCallStateUpdated hp (by simpa [Event.evaluates] using he) heq
  | onAudioSceneChange audioScene =>
    obtain ⟨h', heq, rfl⟩ := map_eq_some_iff.1 hhandle
    exact .onAudioSceneChange hp heq
  | onHibernateStateUpdated isHibernate =>
    cases hhandle
    exact .onHibernateStateUpdated _ isHibernate
  | onCapturerStateChange isActive => simp [Event.inBuild, hp.build] at hbuild
  | onInputPipeChange pipes' => cases he
  | pipesMoved pipes' =>
    cases hhandle
    exact .refl _
  | onRendererStateChange infos =>
    obtain ⟨h', heq, rfl⟩ := map_eq_some_iff.1 hhandle
    exact .onRendererStateChange hp heq
  | handleConcurrentList list value =>
    cases hhandle
    cases list <;> exact .careful (.refl _) (.of_find rfl fun _ => rfl)
  | attachAudioEngineListener registered =>
    obtain ⟨h', heq, rfl⟩ := map_eq_some_iff.1 hhandle
    exact .attachAudioEngineListener (by simpa [Event.evaluates] using he) heq
  | onFoldStatusChanged foldStatus =>
    cases hhandle
    exact .onFoldStatusChanged _ foldStatus
  | attachFoldStatusListener isFoldable foldStatus =>
    cases hhandle
    exact .attachFoldStatusListener _ isFoldable foldStatus

lemma Event.store_plain (hp : env.Plain p) (e : Event) : (e.store p env).Plain p := by
  cases e with
  | onCallStateUpdated callState =>
    rw [Event.store]
    split
    · exact hp.congr rfl
    · exact hp
  | attachAudioEngineListener registered =>
    rw [Event.store]
    split
    · exact hp
    split
    · exact hp.congr rfl
    · exact ⟨hp.build, by simp [Helper.attachAbilities, hp.voip]⟩
  | handleConcurrentList list value => cases list <;> exact hp.congr rfl
  | _ => exact hp.congr rfl

structure World.Regular (p : Platform) (w : World M) : Prop where
  ready : w.helper.Ready
  plain : w.helper.env.Plain p

lemma step_evaluates (hw : w.Regular p) (he : e.evaluates p w = some pipes)
    (hstep : step p mod w e = some w') :
    ∃ h, h.onInputPipeChange p mod w.kv pipes = some w'.helper ∧ h.Ready ∧ h.env.Plain p ∧
      h.env = e.store p w.helper.env ∧
      (h = w.helper.setEnv (e.store p w.helper.env) ∧ h.conflict p = w.helper.conflict p ∧
          h.env.otherConflict = w.helper.env.otherConflict ∨
        h = w.helper.updateEnv p mod (e.store p w.helper.env) ∧ e.store p w.helper.env =
            { w.helper.env with callActive := !w.helper.env.callActive }) := by
  have hstore := e.store_plain hw.plain
  obtain ⟨-, -, h, heq, hcases⟩ := step_evaluates_cases hw.plain he hstep
  rcases hcases with ⟨rfl, hother, hcapture⟩ | ⟨rfl, hcall⟩
  · refine ⟨_, heq, hw.ready, hstore, rfl, .inl ⟨rfl, ?_, hother⟩⟩
    obtain ⟨hconcurrent, hactive⟩ := CaptureState.mk.inj hcapture
    rw [Helper.conflict_eq hstore, Helper.conflict_eq hw.plain]
    simp only [Helper.setEnv_env, hother, hconcurrent, hactive]
  have henv : (w.helper.updateEnv p mod (e.store p w.helper.env)).env = e.store p w.helper.env :=
    Helper.onUpdateAllRecognitionState_env p mod _
  have hI := Helper.reactionInvariant_ready mod
  exact ⟨_, heq, hI.steady.onUpdateAllRecognitionState (hI.env _ _ hw.ready),
    hstore.congr (by rw [henv]), henv, .inr ⟨rfl, hcall⟩⟩

lemma step_regular (hw : w.Regular p) (hstep : step p mod w e = some w') : w'.Regular p := by
  refine ⟨step_ready hw.ready hstep, ?_⟩
  cases he : e.evaluates p w with
  | none =>
    have hagree := (step_not_evaluates hw.plain he hstep).agree
    exact (e.store_plain hw.plain).congr (by rw [hagree])
  | some pipes =>
    obtain ⟨h, heq, -, hplain, -⟩ := step_evaluates hw he hstep
    exact (Helper.onInputPipeChange_plain hplain heq).1

lemma initial_regular (hbuild : p.build.recordWakeupConcurrent) (conn : M)
    (pipes : InputPipes) (kv : StoredLists) : (World.initial conn pipes kv).Regular p := by
  refine ⟨fun k d hd => ?_, hbuild, rfl⟩
  simp [World.initial, Helper.find] at hd

lemma run_regular (hbuild : p.build.recordWakeupConcurrent) {conn : M} {pipes : InputPipes}
    {kv : StoredLists} {es : List Event}
    (hrun : Transition.run (step p mod) (World.initial conn pipes kv) es = some w) : w.Regular p :=
  Transition.run_invariant_all (fun _ _ _ hw hstep => step_regular hw hstep)
    (initial_regular hbuild conn pipes kv) hrun

end IntellVoice.Trigger
