import IntellVoice.Trigger.Evaluation

/-! The build with concurrent recording. -/

namespace IntellVoice.Trigger
open Transition World Platform Helper
variable {M : Type*} {p : Platform} {mod : ConnectorModule M}

def Helper.Safe (p : Platform) (h : Helper M) : Prop := ∀ k d, h.find k = some d →
  d.state = .started → d.requested ∧ h.conflict p = false

/-- Where concurrent capture opens, each loaded model is requested and allowed. -/
def Event.OpensSafely (p : Platform) (w : World M) (e : Event) : Prop :=
  ∀ pipes, e.evaluates p w = some pipes → (e.store p w.helper.env).Opens p w.kv pipes →
    ∀ k d, w.helper.find k = some d → d.state = .loaded →
      d.requested ∧ (e.store p w.helper.env).otherConflict = false

variable {h : Helper M}

lemma Helper.Settled.safe (hset : h.Settled p) : h.Safe p :=
  fun k d hd => (hset k d hd).1

variable {h' : Helper M}

lemma Helper.Safe.careful (hsafe : h.Safe p) (hc : h.Careful p h') : h'.Safe p := by
  intro k d' hd' hst
  rw [hc.conflict]
  rcases hc.started k d' hd' hst with hgood | ⟨d, hd, hst, hreq⟩
  · exact hgood
  · obtain ⟨hreq', hno⟩ := hsafe k d hd hst
    exact ⟨hreq hreq', hno⟩

variable {requested : Bool} {g : Bool → ModelState → ModelState} {env : Env} {e : Event}
  {state : ModelState} {w : World M}

lemma openedState_eq_started :
    openedState requested state = .started ↔ state = .loaded ∨ state = .started := by
  cases state <;> simp [openedState]

lemma updatedState_eq_loaded {conflict hibernate : Bool}
    (h : updatedState conflict hibernate requested state = .loaded) :
    state = .loaded ∨ state = .started := by
  cases state <;> simp [updatedState] at h ⊢
  split at h <;> cases h

lemma Helper.Safe.opens (hsafe : h.Safe p) (hp : h.env.Plain p)
    (hother : env.otherConflict = h.env.otherConflict)
    (hloaded : ∀ k d, h.find k = some d → d.state = .loaded → d.requested ∧ env.otherConflict =
      false)
    (hmaps : Helper.Maps openedState h h') (hconflict : h'.conflict p = env.otherConflict) :
    h'.Safe p := by
  intro k d' hd' hst
  obtain ⟨d, hd, hreq, hstate⟩ := hmaps k d' hd'
  rw [hreq, hconflict]
  rcases openedState_eq_started.1 (hstate.symm.trans hst) with hload | hstart
  · exact hloaded k d hd hload
  obtain ⟨hreq', hno⟩ := hsafe k d hd hstart
  rw [conflict_eq hp, Bool.or_eq_false_iff] at hno
  exact ⟨hreq', hother.trans hno.1⟩

lemma Helper.Safe.opens_after_call (hs : mod.Succeeds) (hsafe : h.Safe p) (hready : h.Ready)
    (hp : h.env.Plain p) (henv : env = { h.env with callActive := !h.env.callActive })
    (hcall : env.callActive = false)
    (hloaded : ∀ k d, h.find k = some d → d.state = .loaded → d.requested ∧ env.otherConflict =
      false)
    (hmaps : Helper.Maps openedState (h.updateEnv p mod env) h')
    (hconflict : h'.conflict p = env.otherConflict) : h'.Safe p := by
  have hbusy : h.conflict p := by
    have hactive : h.env.callActive := by simpa [henv] using hcall
    simp [conflict_eq hp, Env.otherConflict, hactive]
  have hplain : (h.setEnv env).env.Plain p := hp.congr (by rw [henv]; rfl)
  have hupdate : (h.setEnv env).Maps _ (h.updateEnv p mod env) :=
    onUpdateAllRecognitionState_maps (p := p) hs hready
  intro k d' hd' hst
  obtain ⟨d₁, hd₁, hreq₁, hstate₁⟩ := hmaps k d' hd'
  obtain ⟨d, hd, hreq, hstate⟩ := hupdate k d₁ hd₁
  rw [hreq₁, hreq, hconflict]
  rcases openedState_eq_started.1 (hstate₁.symm.trans hst) with hload | hstart
  · rcases updatedState_eq_loaded (hstate.symm.trans hload) with hold | hold
    · exact hloaded k d hd hold
    · have hno := (hsafe k d hd hold).2
      simp [hbusy] at hno
  · obtain ⟨hreq', hno⟩ := updatedState_eq_started.1 (hstate.symm.trans hstart)
    rw [conflict_eq hplain, Bool.or_eq_false_iff] at hno
    exact ⟨hreq', hno.1⟩

lemma step_safe (hs : mod.Succeeds) {w' : World M} (hw : w.Regular p) (hsafe : w.helper.Safe p)
    (hopens : e.OpensSafely p w) (hstep : step p mod w e = some w') : w'.helper.Safe p := by
  cases he : e.evaluates p w with
  | none =>
    rcases (step_not_evaluates hw.plain he hstep).models hs hw.ready with hc | hset
    · exact hsafe.careful hc
    · exact hset.safe
  | some pipes =>
    obtain ⟨h, heq, hready, hplain, henv, hcases⟩ := step_evaluates hw he hstep
    by_cases ho : h.env.Opens p w.kv pipes
    · obtain ⟨hmaps, hconflict⟩ := onInputPipeChange_opens hs hready hplain ho heq
      have hcallActive := ho.callActive hplain
      rw [henv] at ho hconflict hcallActive
      rcases hcases with ⟨rfl, -, hother⟩ | ⟨rfl, hcall⟩
      · exact hsafe.opens hw.plain hother (hopens pipes he ho) hmaps hconflict
      · exact hsafe.opens_after_call hs hw.ready hw.plain hcall hcallActive (hopens pipes he ho)
          hmaps hconflict
    · have hsafe₁ : h.Safe p := by
        rcases hcases with ⟨rfl, hconflict, -⟩ | ⟨rfl, -⟩
        · exact hsafe.careful (.of_find hconflict fun _ => rfl)
        · exact Helper.Settled.safe (onUpdateAllRecognitionState_settled hs hw.ready)
      rcases onInputPipeChange_not_opens hs hready hplain ho heq with
        ⟨hfind, hconflict⟩ | hset
      · exact hsafe₁.careful (.of_find hconflict hfind)
      · exact hset.safe

theorem run_safe (hs : mod.Succeeds) (hbuild : p.build.recordWakeupConcurrent) (conn : M)
    (pipes : InputPipes) (kv : StoredLists) (es : List Event) {w : World M}
    (hopens : Along (step p mod) (fun w e _ => e.OpensSafely p w) (initial conn pipes kv) es)
    (hrun : run (step p mod) (initial conn pipes kv) es = some w) (uuid : Int)
    (d : TriggerModelData) (hd : w.helper.find uuid = some d) (hstarted : d.state = .started) :
    d.requested ∧ isConflictSceneActive p.build w.helper.env = false := by
  refine (run_invariant (I := fun w : World M => w.Regular p ∧ w.helper.Safe p)
    (fun w e w' hw hcond hstep => ⟨step_regular hw.1 hstep, step_safe hs hw.1 hw.2 hcond hstep⟩)
    ⟨initial_regular hbuild conn pipes kv, ?_⟩ hopens hrun).2 uuid d hd hstarted
  intro k d' hd'
  simp [initial, find] at hd'

theorem run_safe_ultrasonic_after_mic :
    let p := bare (.minimal true)
    ∃ (w : World Nat) (d : TriggerModelData),
      run (step p countingModule) (initial 0 (some []) {})
        [.attachAudioEngineListener true,
          .startGenericRecognition 1 (.voiceWakeup [7]) (some 0),
          .onInputPipeChange (.running .mic), .onInputPipeChange (.running .ultrasonic)] = some w ∧
      w.helper.find 1 = some d ∧ d.state = .started ∧
      d.requested ∧ isConflictSceneActive p.build w.helper.env = false := by
  refine ⟨_, _, rfl, rfl, rfl, run_safe (p := bare (.minimal true))
    countingModule_succeeds rfl 0 (some []) {} [.attachAudioEngineListener true,
      .startGenericRecognition 1 (.voiceWakeup [7]) (some 0),
      .onInputPipeChange (.running .mic), .onInputPipeChange (.running .ultrasonic)]
    ?_ rfl 1 _ rfl rfl⟩
  refine .of_step rfl (fun _ _ ho => (nomatch ho.closed)) ?_
  refine .of_step rfl (fun _ he => (nomatch he)) ?_
  refine .of_step rfl (fun _ _ ho => (nomatch ho.closed)) ?_
  -- the ultrasonic source is opened while the only model is requested
  refine .of_step rfl (fun _ _ _ k d hd _ => ?_) trivial
  have hentry := List.mem_singleton.1 (OrderedMap.find?_eq_some_iff.1 hd)
  exact ⟨(hentry ▸ rfl : (k, d).2.requested), rfl⟩

theorem open_source_starts_unrequested :
    let p := bare (.minimal true)
    ∃ (w : World Nat) (d : TriggerModelData),
      run (step p countingModule) (initial 0 (some []) {})
        [.attachAudioEngineListener true,
          .startGenericRecognition 1 (.voiceWakeup [7]) (some 0), .stopGenericRecognition 1,
          .onInputPipeChange (.running .mic), .onInputPipeChange (.running .ultrasonic)] = some w ∧
      w.helper.find 1 = some d ∧ d.state = .started ∧ d.requested = false :=
  ⟨_, _, rfl, rfl, rfl, rfl⟩

def Event.LeavesUnloaded (p : Platform) (w : World M) (e : Event) : Prop :=
  ∃ pipes, e.evaluates p w = some pipes ∧ (e.store p w.helper.env).Opens p w.kv pipes ∧
    (e.store p w.helper.env).audioCaptureActive ∧
    (e.store p w.helper.env).otherConflict = false ∧
    ∃ k d, w.helper.find k = some d ∧ d.requested ∧ d.state = .notLoaded

def Helper.AllRun (h : Helper M) : Prop :=
  ∀ k d, h.find k = some d → d.requested → d.state = .started

lemma Helper.Settled.allRun (hset : h.Settled p) (hno : h.conflict p = false) :
    h.AllRun := fun k d hd hreq => (hset k d hd).2 ⟨hreq, hno⟩

lemma Helper.Maps.comp {g' : Bool → ModelState → ModelState} {h₁ : Helper M}
    (hmaps : Helper.Maps g h h₁) (hmaps' : Helper.Maps g' h₁ h') :
    Helper.Maps (fun r s => g' r (g r s)) h h' := by
  intro k d' hd'
  obtain ⟨d₁, hd₁, hreq₁, hstate₁⟩ := hmaps' k d' hd'
  obtain ⟨d, hd, hreq, hstate⟩ := hmaps k d₁ hd₁
  exact ⟨d, hd, hreq₁.trans hreq, by rw [hstate₁, hstate, hreq]⟩

lemma Helper.Maps.allRun_iff (hmaps : Helper.Maps g h h') (hreacts : h.Reacts h')
    (hg : ∀ s, g true s = .started ↔ s ≠ .notLoaded) :
    h'.AllRun ↔ ¬ ∃ k d, h.find k = some d ∧ d.requested ∧ d.state = .notLoaded := by
  constructor
  · rintro hall ⟨k, d, hd, hreq, hstate⟩
    obtain ⟨d', hd', -, hreq', -⟩ := hreacts.data k d hd
    obtain ⟨d₁, hd₁, -, hstate₁⟩ := hmaps k d' hd'
    obtain rfl : d = d₁ := Option.some.inj (hd.symm.trans hd₁)
    have hstarted := hall k d' hd' (hreq'.trans hreq)
    rw [hstate₁, hreq, hg] at hstarted
    exact hstarted hstate
  · intro hnone k d' hd' hreq'
    obtain ⟨d, hd, hreq, hstate⟩ := hmaps k d' hd'
    have hreq₁ : d.requested := hreq.symm.trans hreq'
    rw [hstate, hreq₁, hg]
    exact fun hnot => hnone ⟨k, d, hd, hreq₁, hnot⟩

lemma Event.isReaction_of_evaluates {pipes : InputPipes} (he : e.evaluates p w = some pipes) :
    e.isReaction := by
  cases e <;> first | rfl | cases he

lemma openedState_started_iff (state : ModelState) :
    openedState true state = .started ↔ state ≠ .notLoaded := by
  cases state <;> simp [openedState]

lemma Helper.conflict_end_opens (hp : h.env.Plain p)
    (hclosed : h.env.audioConcurrentCapture = false) (hmaps : Helper.Maps openedState h h')
    (hreacts : h.Reacts h') (hconflict : h'.conflict p = h.env.otherConflict) :
    (h.conflict p → h'.conflict p = false → h'.AllRun) ↔
      ¬ (h.env.audioCaptureActive ∧ h.env.otherConflict = false ∧
        ∃ k d, h.find k = some d ∧ d.requested ∧ d.state = .notLoaded) := by
  have hall := hmaps.allRun_iff hreacts openedState_started_iff
  have hbefore : h.conflict p = (h.env.otherConflict || h.env.audioCaptureActive) := by
    simp [conflict_eq hp, hclosed]
  rw [hconflict, hbefore]
  by_cases hother : h.env.otherConflict
  · simp [hother]
  by_cases hactive : h.env.audioCaptureActive
  · simp only [hother, hactive, Bool.or_true, true_and, forall_const]
    exact hall
  · simp [hother, hactive]

lemma Helper.conflict_end_opens_after_call (hs : mod.Succeeds) (hready : h.Ready)
    (hp : h.env.Plain p) (henv : env = { h.env with callActive := false })
    (hactive : h.env.callActive) (hclosed : env.audioConcurrentCapture = false)
    (hmaps : Helper.Maps openedState (h.updateEnv p mod env) h') (hreacts : h.Reacts h')
    (hconflict : h'.conflict p = env.otherConflict) :
    (h.conflict p → h'.conflict p = false → h'.AllRun) ↔
      ¬ (env.audioCaptureActive ∧ env.otherConflict = false ∧
        ∃ k d, h.find k = some d ∧ d.requested ∧ d.state = .notLoaded) := by
  have hbefore : h.conflict p := by
    simp [conflict_eq hp, Env.otherConflict, hactive]
  have hplain : (h.setEnv env).env.Plain p := hp.congr (by rw [henv]; rfl)
  have hbetween : (h.setEnv env).conflict p = (env.otherConflict || env.audioCaptureActive) := by
    simp [conflict_eq hplain, hclosed]
  have hupdate : (h.setEnv env).Maps _ (h.updateEnv p mod env) :=
    onUpdateAllRecognitionState_maps (p := p) hs hready
  rw [hconflict, hbefore]
  by_cases hother : env.otherConflict
  · simp [hother]
  have hhibernate : env.systemHibernate = false := by
    simp [Env.otherConflict] at hother
    exact hother.1.2
  rw [Bool.not_eq_true] at hother
  by_cases hcapture : env.audioCaptureActive
  · -- the source still stands in the way, so the update loop only stops models
    have hcomp : h.Maps (fun r s => openedState r (updatedState true false r s)) h' := by
      have hcomp := hupdate.comp hmaps
      rw [hbetween, hcapture, setEnv_env, hhibernate, Bool.or_true] at hcomp
      exact hcomp
    have hall := hcomp.allRun_iff hreacts fun state => by cases state <;> decide
    simp only [hother, hcapture, true_and, forall_const]
    exact hall
  · -- the update loop has already started every requested model
    refine iff_of_true (fun _ _ k d' hd' hreq' => ?_) fun hbad => hcapture hbad.1
    obtain ⟨d, -, hreq, hstate⟩ := hupdate.comp hmaps k d' hd'
    have hrequested : d.requested := hreq.symm.trans hreq'
    rw [hstate, openedState_eq_started, updatedState_eq_started]
    refine .inr ⟨hrequested, ?_⟩
    simpa [hbetween, hother] using hcapture

theorem run_conflict_end_allRun (hs : mod.Succeeds)
    (hbuild : p.build.recordWakeupConcurrent) (conn : M) (pipes : InputPipes)
    (kv : StoredLists) (es : List Event) (e : Event) {w w' : World M}
    (hrun : run (step p mod) (initial conn pipes kv) es = some w)
    (hstep : step p mod w e = some w') :
    (isConflictSceneActive p.build w.helper.env →
      isConflictSceneActive p.build w'.helper.env = false →
      ∀ uuid d, w'.helper.find uuid = some d → d.requested → d.state = .started) ↔
    ¬ e.LeavesUnloaded p w := by
  have hw := run_regular hbuild hrun
  change (w.helper.conflict p → w'.helper.conflict p = false → w'.helper.AllRun) ↔ _
  cases he : e.evaluates p w with
  | none =>
    refine iff_of_true (fun hbefore hafter => ?_) fun ⟨_, he', _⟩ => by simp [he] at he'
    rcases (step_not_evaluates hw.plain he hstep).models hs hw.ready with hc | hset
    · simp [hc.conflict, hbefore] at hafter
    · exact hset.allRun hafter
  | some pipes =>
    obtain ⟨h, heq, hready, hplain, henv, hcases⟩ := step_evaluates hw he hstep
    have hreacts := step_reacts (Event.isReaction_of_evaluates he) hstep
    by_cases ho : h.env.Opens p w.kv pipes
    · obtain ⟨hmaps, hconflict⟩ := onInputPipeChange_opens hs hready hplain ho heq
      have hleaves : e.LeavesUnloaded p w ↔ (h.env.audioCaptureActive ∧
          h.env.otherConflict = false ∧
          ∃ k d, w.helper.find k = some d ∧ d.requested ∧ d.state = .notLoaded) := by
        rw [henv] at ho ⊢
        exact ⟨fun ⟨_, _, _, hbad⟩ => hbad, fun hbad => ⟨pipes, he, ho, hbad⟩⟩
      rw [hleaves]
      rcases hcases with ⟨rfl, hsame, -⟩ | ⟨rfl, hcall⟩
      · rw [← hsame]
        exact conflict_end_opens hplain ho.closed hmaps
          ⟨hreacts.absent, hreacts.data, hreacts.ready, hreacts.log⟩ hconflict
      have hcallActive := ho.callActive hplain
      have hclosed := ho.closed
      rw [henv] at hcallActive hclosed hconflict ⊢
      have hactive : w.helper.env.callActive := by simpa [hcall] using hcallActive
      exact conflict_end_opens_after_call hs hw.ready hw.plain
        (by rw [hcall, hactive]; rfl) hactive hclosed hmaps hreacts hconflict
    · refine iff_of_true (fun hbefore hafter => ?_) ?_
      · rcases onInputPipeChange_not_opens hs hready hplain ho heq with
          ⟨hfind, hconflict⟩ | hset
        · rcases hcases with ⟨rfl, hsame, -⟩ | ⟨rfl, -⟩
          · simp [hconflict, hsame, hbefore] at hafter
          have hset : Helper.Settled p (w.helper.updateEnv p mod (e.store p w.helper.env)) :=
            onUpdateAllRecognitionState_settled hs hw.ready
          intro k d hd
          exact hset.allRun (hconflict ▸ hafter) k d (hfind k ▸ hd)
        · exact hset.allRun hafter
      · rintro ⟨pipes', he', ho', -⟩
        obtain rfl : pipes = pipes' := Option.some.inj (he.symm.trans he')
        exact ho (henv ▸ ho')

theorem run_conflict_end_allRun_loaded :
    let p := bare (.minimal true)
    ∃ w w' : World Nat,
      run (step p countingModule) (initial 0 (some []) {})
        [.attachAudioEngineListener true,
          .startGenericRecognition 1 (.voiceWakeup [7]) (some 0),
          .onInputPipeChange (.running .mic)] = some w ∧
      step p countingModule w (.onInputPipeChange (.running .ultrasonic)) = some w' ∧
      isConflictSceneActive p.build w.helper.env ∧
      isConflictSceneActive p.build w'.helper.env = false ∧
      ∀ uuid d, w'.helper.find uuid = some d → d.requested → d.state = .started := by
  refine ⟨_, _, rfl, rfl, rfl, rfl, (run_conflict_end_allRun (p := bare (.minimal true))
    countingModule_succeeds rfl 0 (some []) {} [.attachAudioEngineListener true,
      .startGenericRecognition 1 (.voiceWakeup [7]) (some 0),
      .onInputPipeChange (.running .mic)] (.onInputPipeChange (.running .ultrasonic))
    rfl rfl).2 ?_ rfl rfl⟩
  rintro ⟨_, _, _, _, _, k, d, hd, -, hstate⟩
  have hentry := List.mem_singleton.1 (OrderedMap.find?_eq_some_iff.1 hd)
  have hloaded : (k, d).2.state = .loaded := hentry ▸ rfl
  cases hstate.symm.trans hloaded

theorem open_source_leaves_unloaded :
    let p := bare (.minimal true)
    ∃ (w w' : World Nat) (d : TriggerModelData),
      run (step p countingModule) (initial 0 (some []) {})
        [.attachAudioEngineListener true, .onInputPipeChange (.running .mic),
          .startGenericRecognition 1 (.voiceWakeup [7]) (some 0)] = some w ∧
      step p countingModule w (.onInputPipeChange (.running .ultrasonic)) = some w' ∧
      isConflictSceneActive p.build w.helper.env ∧
      isConflictSceneActive p.build w'.helper.env = false ∧
      w'.helper.find 1 = some d ∧ d.requested ∧ d.state = .notLoaded :=
  ⟨_, _, _, rfl, rfl, rfl, rfl, rfl, rfl, rfl⟩

end IntellVoice.Trigger
