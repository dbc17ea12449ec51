import IntellVoice.Trigger.Evaluation

/-! When the system hibernates every running model is stopped and unloaded. -/

namespace IntellVoice.Trigger
open Transition Effect TriggerModelData Helper
variable {M : Type*} {p : Platform} {mod : ConnectorModule M}

def Helper.Unloaded (h : Helper M) : Prop := ∀ k d, h.find k = some d → d.state = .notLoaded

structure Helper.Asleep (done : Int → List Effect) (h : Helper M) : Prop where
  hibernate : h.env.systemHibernate
  unloaded : h.Unloaded
  log : ∀ uuid, h.io.log.filter (loadsOrStarts uuid) = done uuid

lemma Helper.conflict_of_hibernate {h : Helper M} (hh : h.env.systemHibernate) : h.conflict p := by
  unfold Helper.conflict isConflictSceneActive
  split
  · split
    · simp [hh]
    · split <;> simp [hh]
  · simp [hh]

namespace Helper.Asleep
variable {done : Int → List Effect} {h : Helper M}

lemma onCell {β : Type*} (hh : h.Asleep done) (uuid : Int) (absent : β)
    {f : Cell M → β × Cell M} (hf : ∀ c : Cell M, c.data.state = .notLoaded →
      (f c).2.data.state = .notLoaded ∧ (f c).2.io = c.io) :
    (h.onCell uuid absent f).2.Asleep done := by
  cases hd : h.find uuid with
  | none =>
    rw [onCell_none hd]
    exact hh
  | some d =>
    obtain ⟨hstate, hio⟩ := hf ⟨d, h.io⟩ (hh.unloaded uuid d hd)
    refine ⟨by rw [onCell_env]; exact hh.hibernate, fun k d' hd' => ?_, fun u => ?_⟩
    · by_cases hk : k = uuid
      · subst hk
        rw [find_onCell_self hd] at hd'
        exact Option.some.inj hd' ▸ hstate
      · rw [find_onCell_ne hk] at hd'
        exact hh.unloaded k d' hd'
    · rw [io_onCell hd, hio]
      exact hh.log u

lemma setParameter (hh : h.Asleep done) (key value : String) :
    (h.setParameter mod key value).Asleep done := by
  refine ⟨hh.hibernate, hh.unloaded, fun u => ?_⟩
  change (h.io.setParameterForInputPipe mod key value).2.log.filter _ = _
  rcases h.io.log_setParameterForInputPipe mod key value with hlog | hlog <;> rw [hlog]
  · exact hh.log u
  · rw [← hh.log u]
    exact filter_append_of_not (by simp [loadsOrStarts])

lemma steadyInvariant (p : Platform) (mod : ConnectorModule M) (done : Int → List Effect) :
    SteadyInvariant p mod (Helper.Asleep done) where
  env _ _ hsame hh := ⟨hsame.trans hh.hibernate, hh.unloaded, hh.log⟩
  param _ key value hh := hh.setParameter key value
  update h uuid hh := by
    refine hh.onCell uuid true fun c hstate => ?_
    simp [updateRecognitionState, conflict_of_hibernate hh.hibernate, hstate]
  start h uuid hh := by
    refine hh.onCell uuid true fun c hstate => ?_
    simp [startNeeded, conflict_of_hibernate hh.hibernate, hstate]
  stop h uuid hh := by
    refine hh.onCell uuid true fun c hstate => ?_
    simp [stopNeeded, conflict_of_hibernate hh.hibernate, hstate]
  opened h uuid hh := by
    refine hh.onCell uuid true fun c hstate => ?_
    simp [startUnlessStarted, startRecognition, hstate]

lemma startGenericRecognition (hh : h.Asleep done) (uuid : Int) (model : GenericTriggerModel)
    (callback : Option Callback) :
    (h.startGenericRecognition p mod uuid model callback).2.Asleep done := by
  have hcreate : (h.createTriggerModelData uuid).Asleep done := by
    refine ⟨hh.hibernate, fun k d hd => ?_, hh.log⟩
    rcases find_createTriggerModelData hd with hold | ⟨-, rfl⟩
    · exact hh.unloaded k d hold
    · rfl
  have haccept := hcreate.onCell uuid false (f := acceptRequest mod model callback) (by
    intro c hstate
    obtain ⟨m, hm⟩ := setModel_eq c.data model
    cases callback <;>
      simp [acceptRequest, initRecognition, hstate, hm, setCallback,
        setRequested])
  simp only [Helper.startGenericRecognition]
  split
  · exact haccept
  · rw [if_pos (conflict_of_hibernate haccept.hibernate)]
    exact haccept

lemma stopGenericRecognition (hh : h.Asleep done) (uuid : Int) :
    (h.stopGenericRecognition mod uuid).2.Asleep done := by
  refine hh.onCell uuid (-1) fun c hstate => ?_
  simp [stopRequested, stopRecognition, setRequested,
    clearCallback, hstate]

lemma unloadGenericTriggerModel (hh : h.Asleep done) (uuid : Int) :
    h.unloadGenericTriggerModel mod uuid = h := by
  unfold Helper.unloadGenericTriggerModel
  split
  · rfl
  · rename_i d hd
    rw [if_pos (hh.unloaded uuid d hd)]

end Helper.Asleep

variable {e : Event} {w w' : World M}

lemma step_systemHibernate (he : e.isHibernation = false) (hstep : step p mod w e = some w') :
    w'.helper.env.systemHibernate = w.helper.env.systemHibernate := by
  obtain ⟨uuid, model, cb, -, rfl⟩ | ⟨uuid, -, rfl⟩ | ⟨uuid, -, rfl⟩ | ⟨handle, -, -, rfl⟩ | hre :=
    step_cases hstep
  · exact congrArg Env.systemHibernate (startGenericRecognition_env p mod uuid model cb _)
  · exact congrArg Env.systemHibernate (onCell_env _ _ _ _)
  · exact congrArg Env.systemHibernate (unloadGenericTriggerModel_env mod uuid _)
  · exact congrArg Env.systemHibernate (onRecognition_env handle _)
  · have hsteady : SteadyInvariant p mod fun h : Helper M =>
        h.env.systemHibernate = w.helper.env.systemHibernate := by
      refine ⟨fun _ _ hsame hh => hsame.trans hh, fun _ _ _ hh => hh, ?_, ?_, ?_, ?_⟩ <;>
        intro h uuid hh <;> simpa [Helper.updateModel] using hh
    exact step_steady hsteady hre he hstep rfl

/-- No model is loaded at hibernation, and none is recognized during it. -/
def Event.KeepsAsleep (w : World M) : Event → Prop
  | .onHibernateStateUpdated true => w.helper.env.systemHibernate = false →
    ∀ k d, w.helper.find k = some d → d.state ≠ .loaded
  | .onRecognition handle => w.helper.env.systemHibernate →
    ∀ k d, w.helper.find k = some d → d.modelHandle ≠ handle
  | _ => True

lemma step_asleep {done : Int → List Effect} (hw : w.helper.Asleep done) (he : e.KeepsAsleep w)
    (hstep : step p mod w e = some w') (hstill : w'.helper.env.systemHibernate) :
    w'.helper.Asleep done := by
  obtain ⟨uuid, model, cb, -, rfl⟩ | ⟨uuid, -, rfl⟩ | ⟨uuid, -, rfl⟩ |
    ⟨handle, rfl, -, rfl⟩ | hre :=
    step_cases hstep
  · exact hw.startGenericRecognition uuid model cb
  · exact hw.stopGenericRecognition uuid
  · rw [hw.unloadGenericTriggerModel uuid]
    exact hw
  · have hnone : w.helper.recognized handle = none := by
      cases hr : w.helper.recognized handle with
      | none => rfl
      | some found =>
        obtain ⟨hd, hhandle⟩ := find_of_recognized (k := found.1) (d := found.2) hr
        exact absurd hhandle (he hw.hibernate found.1 found.2 hd)
    rw [onRecognition_none hnone]
    exact hw
  · cases hsteady : e.isHibernation with
    | false => exact step_steady (Helper.Asleep.steadyInvariant p mod done) hre hsteady hstep hw
    | true =>
      obtain ⟨-, hhandle⟩ := handle_of_step hstep
      cases e with
      | onHibernateStateUpdated isHibernate =>
        cases hhandle
        cases isHibernate with
        | true =>
          have hsame : w.helper.onHibernateStateUpdated p mod true = w.helper := by
            simp [Helper.onHibernateStateUpdated, hw.hibernate]
          rw [hsame]
          exact hw
        | false => simp [World.setHelper, Helper.onHibernateStateUpdated, hw.hibernate,
            updateEnv] at hstill
      | _ => cases hsteady

lemma onHibernateStateUpdated_unloaded (hs : mod.Succeeds) {h : Helper M} (hready : h.Ready)
    (hawake : h.env.systemHibernate = false)
    (hloaded : ∀ k d, h.find k = some d → d.state ≠ .loaded) :
    (h.onHibernateStateUpdated p mod true).Unloaded := by
  intro k d' hd'
  have hconflict : (h.setEnv { h.env with systemHibernate := true }).conflict p :=
    conflict_of_hibernate rfl
  unfold Helper.onHibernateStateUpdated at hd'
  rw [if_neg (by simp [hawake])] at hd'
  obtain ⟨d, hd, -, hstate⟩ := onUpdateAllRecognitionState_maps (p := p) hs
    (h := h.setEnv { h.env with systemHibernate := true }) hready k d' hd'
  have hne := hloaded k d hd
  rw [hconflict] at hstate
  cases hst : d.state with
  | notLoaded | started => simpa [updatedState, hst] using hstate
  | loaded => exact absurd hst hne

lemma log_onRecognition_loadsOrStarts (h : Helper M) (handle uuid : Int) :
    (h.onRecognition handle).io.log.filter (loadsOrStarts uuid) =
      h.io.log.filter (loadsOrStarts uuid) := by
  cases hr : h.recognized handle with
  | none => rw [onRecognition_none hr]
  | some found =>
    rw [onRecognition_some (k := found.1) (d := found.2) hr]
    unfold Helper.reportDetection
    split
    · rfl
    · exact filter_append_of_not (by simp [loadsOrStarts])

lemma step_asleep_log {done : Int → List Effect} (hw : w.helper.Asleep done)
    (hstep : step p mod w e = some w') (hstill : w'.helper.env.systemHibernate) (uuid : Int) :
    w'.helper.io.log.filter (loadsOrStarts uuid) = done uuid := by
  cases e with
  | onRecognition handle =>
    obtain ⟨-, hhandle⟩ := handle_of_step hstep
    obtain ⟨-, hhandle⟩ := Option.ite_none_right_eq_some.1 hhandle
    cases hhandle
    exact (log_onRecognition_loadsOrStarts w.helper handle uuid).trans (hw.log uuid)
  | onHibernateStateUpdated isHibernate =>
    refine (step_asleep hw ?_ hstep hstill).log uuid
    cases isHibernate with
    | true => exact fun hawake => by simp [hw.hibernate] at hawake
    | false => trivial
  | _ =>
    refine (step_asleep hw ?_ hstep hstill).log uuid
    trivial

structure Helper.SleepsUnloaded (h : Helper M) : Prop where
  ready : h.Ready
  unloaded : h.env.systemHibernate → h.Unloaded

lemma step_sleepsUnloaded (hs : mod.Succeeds) (hw : w.helper.SleepsUnloaded) (he : e.KeepsAsleep w)
    (hstep : step p mod w e = some w') : w'.helper.SleepsUnloaded := by
  refine ⟨step_ready hw.ready hstep, fun hstill => ?_⟩
  cases hasleep : w.helper.env.systemHibernate with
  | true =>
    have hw' : w.helper.Asleep fun uuid => w.helper.io.log.filter (loadsOrStarts uuid) :=
      ⟨hasleep, hw.unloaded hasleep, fun _ => rfl⟩
    exact (step_asleep hw' he hstep hstill).unloaded
  | false =>
    cases hsteady : e.isHibernation with
    | false =>
      rw [step_systemHibernate hsteady hstep, hasleep] at hstill
      cases hstill
    | true =>
      obtain ⟨-, hhandle⟩ := handle_of_step hstep
      cases e with
      | onHibernateStateUpdated isHibernate =>
        cases hhandle
        cases isHibernate with
        | true => exact onHibernateStateUpdated_unloaded hs hw.ready hasleep (he hasleep)
        | false => simp [World.setHelper, Helper.onHibernateStateUpdated, hasleep] at hstill
      | _ => cases hsteady

lemma initial_sleepsUnloaded (conn : M) (pipes : InputPipes) (kv : StoredLists) :
    (World.initial conn pipes kv).helper.SleepsUnloaded := by
  have hfind : ∀ k, (World.initial conn pipes kv).helper.find k = none := fun _ => rfl
  refine ⟨fun k d hd => ?_, fun hfalse => ?_⟩
  · rw [hfind] at hd
    cases hd
  · cases hfalse

theorem run_hibernate_unloaded (hs : mod.Succeeds) (conn : M) (pipes : InputPipes)
    (kv : StoredLists) (es : List Event) {w : World M}
    (hkeeps : Along (step p mod) (fun w e _ => e.KeepsAsleep w) (.initial conn pipes kv) es)
    (hrun : run (step p mod) (.initial conn pipes kv) es = some w)
    (hhibernate : w.helper.env.systemHibernate) :
    (∀ k d, w.helper.find k = some d → d.state ≠ .loaded ∧ d.state ≠ .started) ∧
    ∀ e w', step p mod w e = some w' → w'.helper.env.systemHibernate →
      ∀ uuid, w'.helper.io.log.filter (loadsOrStarts uuid) =
        w.helper.io.log.filter (loadsOrStarts uuid) := by
  have hstep : ∀ (w : World M) e w', w.helper.SleepsUnloaded → e.KeepsAsleep w →
      step p mod w e = some w' → w'.helper.SleepsUnloaded := fun _ _ _ => step_sleepsUnloaded hs
  have hinitial := initial_sleepsUnloaded conn pipes kv
  have hunloaded := (run_invariant hstep hinitial hkeeps hrun).unloaded hhibernate
  refine ⟨fun k d hd => by simp [hunloaded k d hd], fun e w' hnext hstill uuid => ?_⟩
  have hasleep : w.helper.Asleep fun uuid => w.helper.io.log.filter (loadsOrStarts uuid) :=
    ⟨hhibernate, hunloaded, fun _ => rfl⟩
  exact step_asleep_log hasleep hnext hstill uuid

theorem run_hibernate_unloaded_running :
    let p := Platform.bare (.minimal true)
    ∃ w : World Nat, run (step p countingModule) (.initial 0 (some []) {})
        [.startGenericRecognition 1 (.voiceWakeup [7]) (some 0),
          .onHibernateStateUpdated true] = some w ∧
      ∀ k d, w.helper.find k = some d → d.state ≠ .loaded ∧ d.state ≠ .started := by
  refine ⟨_, rfl, (run_hibernate_unloaded (p := Platform.bare (.minimal true))
    countingModule_succeeds 0 (some []) {}
    [.startGenericRecognition 1 (.voiceWakeup [7]) (some 0), .onHibernateStateUpdated true]
    ?_ rfl rfl).1⟩
  refine .of_step rfl trivial ?_
  refine .of_step rfl (fun _ k d hd => ?_) trivial
  obtain ⟨rfl, rfl⟩ : k = 1 ∧ d = _ := by
    have hmem := OrderedMap.find?_eq_some_iff.1 hd
    simpa using List.mem_singleton.1 hmem
  decide

theorem hibernate_keeps_detected_model_loaded :
    let p := Platform.bare (.minimal true)
    ∃ w w' : World Nat, run (step p countingModule) (.initial 0 (some []) {})
        [.attachAudioEngineListener true, .startGenericRecognition 1 (.voiceWakeup [7]) (some 0),
          .onRecognition 1, .onInputPipeChange (.running .mic), .onHibernateStateUpdated true] =
          some w ∧
      step p countingModule w (.onInputPipeChange (.running .ultrasonic)) = some w' ∧
      w.helper.env.systemHibernate ∧ w'.helper.env.systemHibernate ∧
      (w.helper.find 1).map state = some .loaded ∧
      (w'.helper.find 1).map state = some .started :=
  ⟨_, _, rfl, rfl, rfl, rfl, rfl, rfl⟩

end IntellVoice.Trigger
