import IntellVoice.Trigger.Session

/-! `StopGenericRecognition` clears the callback after the session's stop. -/

namespace IntellVoice.Trigger
open Transition Effect Helper
variable {M H : Type*} {p : Platform} {mod : ConnectorModule M} {hal : Hal H}

structure Helper.Silenced (uuid : Int) (reported : List Effect) (h : Helper M) : Prop where
  keys : h.KeysAgree
  callback : ∀ d, h.find uuid = some d → d.callback = none
  log : h.io.log.filter (detects uuid) = reported

lemma Io.Acts.filter_detects {uuid k : Int} {io io' : Io M} (h : io.Acts k io') :
    io'.log.filter (detects uuid) = io.log.filter (detects uuid) := by
  obtain ⟨es, hlog, hes⟩ := h.log
  rw [hlog]
  exact filter_append_of_not fun e he => by simp [(hes e he uuid).2]

namespace Helper.Silenced
variable {uuid : Int} {reported : List Effect} {h h' : Helper M}

lemma reacts (hs : h.Silenced uuid reported) (hr : h.Reacts h') : h'.Silenced uuid reported where
  keys := hr.keysAgree hs.keys
  callback d' hd' := by
    cases hd : h.find uuid with
    | none => simp [hr.absent uuid hd] at hd'
    | some d =>
      obtain ⟨d₁, hd₁, -, -, hcb, -⟩ := hr.data uuid d hd
      obtain rfl : d₁ = d' := by simpa [hd₁] using hd'
      exact hcb.trans (hs.callback d hd)
  log := by
    obtain ⟨es, hlog, hes⟩ := hr.log
    rw [hlog, ← hs.log]
    exact filter_append_of_not fun e he => by simp [(hes e he uuid).1]

lemma serves {k : Int} (hs : h.Silenced uuid reported) (hserves : Helper.Serves k h h')
    (hne : uuid ≠ k) : h'.Silenced uuid reported where
  keys := hserves.keys
  callback d hd := hs.callback d (hserves.others uuid hne ▸ hd)
  log := hserves.io.filter_detects.trans hs.log

lemma stop (mod : ConnectorModule M) (hs : h.Silenced uuid reported) :
    (h.stopGenericRecognition mod uuid).2.Silenced uuid reported := by
  have hserves := Helper.Serves.stopGenericRecognition mod hs.keys uuid
  refine ⟨hserves.keys, fun d' hd' => ?_, hserves.io.filter_detects.trans hs.log⟩
  cases hd : h.find uuid with
  | none =>
    rw [stopGenericRecognition, onCell_none hd, hd] at hd'
    cases hd'
  | some d =>
    rw [stopGenericRecognition, find_onCell_self hd] at hd'
    rw [← Option.some.inj hd']
    have hacts := acts_stopRecognition mod ⟨d.setRequested false, h.io⟩
    simp only [stopRequested]
    split
    · exact hacts.callback.trans (hs.callback d hd)
    · rfl

lemma unload (mod : ConnectorModule M) (hs : h.Silenced uuid reported) :
    (h.unloadGenericTriggerModel mod uuid).Silenced uuid reported := by
  have hserves := Helper.Serves.unloadGenericTriggerModel mod hs.keys uuid
  refine ⟨hserves.keys, fun d' hd' => ?_, hserves.io.filter_detects.trans hs.log⟩
  unfold unloadGenericTriggerModel at hd'
  split at hd'
  · exact hs.callback d' hd'
  split at hd'
  · exact hs.callback d' hd'
  · simp [find] at hd'

lemma onRecognition (hs : h.Silenced uuid reported) (handle : Int) :
    (h.onRecognition handle).Silenced uuid reported := by
  refine ⟨hs.keys.onRecognition handle, fun d' hd' => ?_, ?_⟩
  · rcases h.find_onRecognition handle uuid with hsame | ⟨d, hd, hload⟩
    · exact hs.callback d' (hsame ▸ hd')
    · obtain rfl : d.setState .loaded = d' := Option.some.inj (hload.symm.trans hd')
      exact hs.callback d hd
  · rw [← hs.log]
    cases hr : h.recognized handle with
    | none => rw [onRecognition_none hr]
    | some found =>
      obtain ⟨k, d⟩ := found
      have hd := (find_of_recognized hr).1
      rw [onRecognition_some hr]
      unfold reportDetection
      split
      · rfl
      rename_i cb hcb
      have hne : d.uuid ≠ uuid := by
        intro heq
        have hk : k = uuid := (hs.keys k d hd).symm.trans heq
        rw [hs.callback d (hk ▸ hd)] at hcb
        cases hcb
      simp [Io.emit, List.filter_append, detects, hne]

end Helper.Silenced

lemma step_silenced {uuid : Int} {reported : List Effect} {w w' : World M} {e : Event}
    (hs : w.helper.Silenced uuid reported)
    (he : ∀ model callback, e ≠ .startGenericRecognition uuid model callback)
    (hstep : step p mod w e = some w') : w'.helper.Silenced uuid reported := by
  obtain ⟨k, model, cb, rfl, rfl⟩ | ⟨k, rfl, rfl⟩ | ⟨k, rfl, rfl⟩ | ⟨handle, rfl, -, rfl⟩ | hre :=
    step_cases hstep
  · have hne : uuid ≠ k := fun heq => he model cb (by rw [heq])
    exact hs.serves (.startGenericRecognition p mod hs.keys k model cb) hne
  · by_cases hk : uuid = k
    · exact hk ▸ hs.stop mod
    · exact hs.serves (.stopGenericRecognition mod hs.keys k) hk
  · by_cases hk : uuid = k
    · exact hk ▸ hs.unload mod
    · exact hs.serves (.unloadGenericTriggerModel mod hs.keys k) hk
  · exact hs.onRecognition handle
  · exact hs.reacts (step_reacts hre hstep)

def SystemEvent.starts (uuid : Int) : SystemEvent → Bool
  | .helper (.startGenericRecognition u _ _) => u == uuid
  | _ => false

lemma systemStep_silenced {uuid : Int} {reported : List Effect} {s s' : TriggerSystem H}
    {e : SystemEvent} (hs : s.helper.Silenced uuid reported) (he : e.starts uuid = false)
    (hstep : systemStep p hal s e = some s') : s'.helper.Silenced uuid reported := by
  obtain ⟨e', w', rfl, -, hw', rfl⟩ | ⟨handle, -, hworld, -⟩ |
    ⟨-, -, handle, rest, -, rfl⟩ | ⟨-, handle, -, rfl⟩ := systemStep_cases hstep
  · refine step_silenced hs (fun model cb heq => ?_) hw'
    rw [heq] at he
    simp [SystemEvent.starts] at he
  · have hhelper : s'.helper = s.helper := by rw [TriggerSystem.helper, hworld]; rfl
    exact hhelper ▸ hs
  · rcases TriggerSystem.process_cases { s with queue := rest } handle with hsame | ⟨-, hset⟩
    · rw [hsame]
      exact hs
    · rw [hset]
      exact ⟨hs.keys, hs.callback, hs.log⟩
  · exact hs.onRecognition handle

def TriggerSystem.CanStop (hal : Hal H) (uuid : Int) (s : TriggerSystem H) : Prop :=
  ∀ d, s.helper.find uuid = some d → Cell.Stoppable hal ⟨d, s.helper.io⟩

lemma stopRequested_of_canStop {s : TriggerSystem H} (hs : s.Sound) {uuid : Int}
    (hcan : s.CanStop hal uuid) {d : TriggerModelData} (hd : s.helper.find uuid = some d) :
    (stopRequested (sessionModule hal) ⟨d, s.helper.io⟩).2.data.callback = none := by
  have hstop : (stopRecognition (sessionModule hal) ⟨d.setRequested false, s.helper.io⟩).1 = 0 := by
    by_cases hstate : d.state = .started
    · obtain ⟨hactive, hzero⟩ := hcan d hd hstate
      have hready : s.helper.io.moduleReady := hs.holds.2 uuid d hd (by simp [hstate])
      have hstop : (s.helper.io.conn.stop hal d.modelHandle).1 = 0 :=
        TriggerSession.stop_eq_zero (hs.holds.1.1 hready) hactive hzero
      simp [stopRecognition, sessionModule, TriggerModelData.setRequested, hstate, hready, hstop]
    · simp [stopRecognition, TriggerModelData.setRequested, hstate]
  simp only [stopRequested]
  rw [if_neg (not_not.2 hstop)]
  rfl

theorem stop_run_no_detection (hal₀ : H) (pipes : InputPipes) (kv : StoredLists)
    (es es' : List SystemEvent) (uuid : Int) {s s' s'' : TriggerSystem H}
    (hrun : run (systemStep p hal) (.initial hal₀ pipes kv) es = some s)
    (hcan : s.CanStop hal uuid)
    (hstop : systemStep p hal s (.helper (.stopGenericRecognition uuid)) = some s')
    (hno : ∀ e ∈ es', e.starts uuid = false)
    (hrun' : run (systemStep p hal) s' es' = some s'') :
    s''.helper.io.log.filter (detects uuid) =
      s'.helper.io.log.filter (detects uuid) := by
  have hsound : s.Sound := run_invariant_all
    (fun _ _ _ hs hstep => systemStep_sound hs hstep) (TriggerSystem.initial_sound _ _ _) hrun
  obtain rfl : s.setHelper (s.helper.stopGenericRecognition (sessionModule hal) uuid).2 = s' :=
    Option.some.inj hstop
  have hserves := Helper.Serves.stopGenericRecognition (sessionModule hal) hsound.keys uuid
  have hsilenced : (s.helper.stopGenericRecognition (sessionModule hal) uuid).2.Silenced uuid
      ((s.helper.stopGenericRecognition (sessionModule hal) uuid).2.io.log.filter
        (detects uuid)) := by
    refine ⟨hserves.keys, fun d' hd' => ?_, rfl⟩
    cases hd : s.helper.find uuid with
    | none =>
      rw [stopGenericRecognition, onCell_none hd, hd] at hd'
      cases hd'
    | some d =>
      rw [stopGenericRecognition, find_onCell_self hd] at hd'
      rw [← Option.some.inj hd']
      exact stopRequested_of_canStop hsound hcan hd
  exact (run_invariant_mem (I := fun s : TriggerSystem H => s.helper.Silenced uuid _)
    (fun _ _ _ hs he hstep => systemStep_silenced hs he hstep) hsilenced hno hrun').log

theorem stop_run_no_detection_before_process :
    let p := Platform.bare (.minimal false)
    ∃ s s' s'' : TriggerSystem Nat,
      run (systemStep p countingHal) (.initial 0 (some []) {})
        [.helper (.startGenericRecognition 1 (.voiceWakeup [7]) (some 0)),
          .onRecognitionHdiEvent 1] = some s ∧
      systemStep p countingHal s (.helper (.stopGenericRecognition 1)) = some s' ∧
      run (systemStep p countingHal) s' [.processRecognitionHdiEvent] = some s'' ∧
      s''.helper.io.log.filter (detects 1) =
        s'.helper.io.log.filter (detects 1) :=
  ⟨_, _, _, rfl, rfl, rfl,
    stop_run_no_detection 0 (some []) {}
      [.helper (.startGenericRecognition 1 (.voiceWakeup [7]) (some 0)), .onRecognitionHdiEvent 1]
      [.processRecognitionHdiEvent] 1 rfl
      (by
        intro d hd _
        cases hd
        decide)
      rfl (by decide) rfl⟩

theorem stop_between_steps_detects :
    let p := Platform.bare (.minimal false)
    ∃ s s' s'' : TriggerSystem Nat,
      run (systemStep p countingHal) (.initial 0 (some []) {})
        [.helper (.startGenericRecognition 1 (.voiceWakeup [7]) (some 0)),
          .onRecognitionHdiEvent 1, .processRecognitionHdiEvent] = some s ∧
      systemStep p countingHal s (.helper (.stopGenericRecognition 1)) = some s' ∧
      run (systemStep p countingHal) s' [.deliver] = some s'' ∧
      s'.helper.io.log.filter (detects 1) = [] ∧
      s''.helper.io.log.filter (detects 1) = [.onGenericTriggerDetected 1 0 1] :=
  ⟨_, _, _, rfl, rfl, rfl, by decide, by decide⟩

end IntellVoice.Trigger
