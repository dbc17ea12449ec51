import IntellVoice.Trigger.Frame

/-! `UnloadGenericTriggerModel` leaves a model's pending request behind. -/

namespace IntellVoice.Trigger
open Transition Effect
variable {M : Type*} {p : Platform} {mod : ConnectorModule M}

structure Helper.Released (uuid : Int) (started : List Effect) (h : Helper M) : Prop where
  keys : h.KeysAgree
  quiet : ∀ d, h.find uuid = some d → d.Quiet
  log : h.io.log.filter (loadsOrStarts uuid) = started

def Event.keepsReleased (uuid : Int) : Event → Bool
  | .startGenericRecognition u _ _ => u != uuid
  | .onRecognition _ => false
  | _ => true

variable {h h' : Helper M} {k uuid : Int} {started : List Effect}

lemma Io.Acts.filter_ne {io io' : Io M} (h : io.Acts k io') (hne : uuid ≠ k) :
    io'.log.filter (loadsOrStarts uuid) = io.log.filter (loadsOrStarts uuid) := by
  obtain ⟨es, hlog, hes⟩ := h.log
  rw [hlog]
  exact filter_append_of_not fun e he hstart => hne ((hes e he uuid).1 hstart)

lemma Helper.Released.serves (hr : h.Released uuid started) (hs : Helper.Serves k h h')
    (hne : uuid ≠ k) : h'.Released uuid started where
  keys := hs.keys
  quiet d hd := hr.quiet d (hs.others uuid hne ▸ hd)
  log := (hs.io.filter_ne hne).trans hr.log

lemma Helper.Released.reacts (hr : h.Released uuid started) (hreacts : h.Reacts h') :
    h'.Released uuid started where
  keys := hreacts.keysAgree hr.keys
  quiet d' hd' := by
    cases hd : h.find uuid with
    | none => simp [hreacts.absent uuid hd] at hd'
    | some d =>
      obtain ⟨d₁, hd₁, -, -, -, hquiet⟩ := hreacts.data uuid d hd
      obtain rfl : d₁ = d' := by simpa [hd₁] using hd'
      exact hquiet (hr.quiet d hd) ▸ hr.quiet d hd
  log := by
    obtain ⟨es, hlog, hes⟩ := hreacts.log
    rw [hlog, ← hr.log]
    refine filter_append_of_not fun e he hstart => ?_
    obtain ⟨k, d, hd, hu, hnq⟩ := (hes e he uuid).2 hstart
    obtain rfl : k = uuid := (hr.keys k d hd).symm.trans hu
    exact hnq (hr.quiet d hd)

lemma Helper.Released.stop (hr : h.Released uuid started) :
    (h.stopGenericRecognition mod uuid).2.Released uuid started := by
  unfold Helper.stopGenericRecognition
  cases hd : h.find uuid with
  | none =>
    rw [Helper.onCell_none hd]
    exact hr
  | some d =>
    obtain ⟨hstate, hreq⟩ := hr.quiet d hd
    have hcell : Helper.stopRequested mod ⟨d, h.io⟩ =
        (0, ⟨(d.setRequested false).clearCallback, h.io⟩) := by
      simp [Helper.stopRequested, stopRecognition, TriggerModelData.setRequested, hstate]
    refine ⟨(Helper.Serves.stopGenericRecognition mod hr.keys uuid).keys, fun d' hd' => ?_, ?_⟩
    · rw [Helper.find_onCell_self hd, hcell] at hd'
      rw [← Option.some.inj hd']
      exact ⟨hstate, rfl⟩
    · rw [Helper.io_onCell hd, hcell]
      exact hr.log

lemma Helper.Released.unload (hr : h.Released uuid started) :
    (h.unloadGenericTriggerModel mod uuid).Released uuid started := by
  have hsame : h.unloadGenericTriggerModel mod uuid = h := by
    unfold Helper.unloadGenericTriggerModel
    split
    · rfl
    · rename_i d hd
      exact if_pos (hr.quiet d hd).1
  rwa [hsame]

lemma step_released {w w' : World M} {e : Event} (hr : w.helper.Released uuid started)
    (he : e.keepsReleased uuid) (hstep : step p mod w e = some w') :
    w'.helper.Released uuid started := by
  obtain ⟨k, model, cb, rfl, rfl⟩ | ⟨k, rfl, rfl⟩ | ⟨k, rfl, rfl⟩ | ⟨handle, rfl, -, rfl⟩ | hre :=
    step_cases hstep
  · have hne : uuid ≠ k := by simpa [Event.keepsReleased, ne_comm] using he
    exact hr.serves (.startGenericRecognition p mod hr.keys k model cb) hne
  · by_cases hk : uuid = k
    · exact hk ▸ hr.stop
    · exact hr.serves (.stopGenericRecognition mod hr.keys k) hk
  · by_cases hk : uuid = k
    · exact hk ▸ hr.unload
    · exact hr.serves (.unloadGenericTriggerModel mod hr.keys k) hk
  · cases he
  · exact hr.reacts (step_reacts hre hstep)

lemma released_of_unload (mod : ConnectorModule M) (hkeys : h.KeysAgree)
    (hpending : ∀ d, h.find uuid = some d → d.state = .notLoaded → d.requested = false) :
    (h.unloadGenericTriggerModel mod uuid).Released uuid
      ((h.unloadGenericTriggerModel mod uuid).io.log.filter (loadsOrStarts uuid)) := by
  refine ⟨(Helper.Serves.unloadGenericTriggerModel mod hkeys uuid).keys, fun d' hd' => ?_, rfl⟩
  unfold Helper.unloadGenericTriggerModel at hd'
  split at hd'
  · rename_i hnone
    simp [hnone] at hd'
  rename_i d hd
  split at hd'
  · rename_i hstate
    obtain rfl : d = d' := by simpa [hd] using hd'
    exact ⟨hstate, hpending d hd hstate⟩
  · simp [Helper.find] at hd'

theorem unload_run_no_restart (conn : M) (pipes : InputPipes) (kv : StoredLists)
    (es es' : List Event) (uuid : Int) {w w' w'' : World M}
    (hrun : run (step p mod) (World.initial conn pipes kv) es = some w)
    (hpending : ∀ d, w.helper.find uuid = some d → d.state = .notLoaded → d.requested = false)
    (hunload : step p mod w (.unloadGenericTriggerModel uuid) = some w')
    (hkeeps : ∀ e ∈ es', e.keepsReleased uuid)
    (hrun' : run (step p mod) w' es' = some w'') :
    w''.helper.io.log.filter (loadsOrStarts uuid) =
      w'.helper.io.log.filter (loadsOrStarts uuid) := by
  obtain rfl : w.setHelper (w.helper.unloadGenericTriggerModel mod uuid) = w' :=
    Option.some.inj hunload
  have hreleased := released_of_unload mod (run_keysAgree hrun) hpending
  exact (run_invariant_mem (I := fun w : World M => w.helper.Released uuid _)
    (fun _ _ _ hr he hstep => step_released hr he hstep) hreleased hkeeps hrun').log

theorem unload_run_no_restart_after_call :
    let p := Platform.bare (.minimal false)
    ∃ w w' w'' : World Nat,
      run (step p countingModule) (World.initial 0 (some []) {})
        [.startGenericRecognition 1 (.voiceWakeup [7]) (some 0)] = some w ∧
      step p countingModule w (.unloadGenericTriggerModel 1) = some w' ∧
      run (step p countingModule) w' [.onCallStateUpdated 0, .onCallStateUpdated 8] = some w'' ∧
      w''.helper.io.log.filter (loadsOrStarts 1) =
        w'.helper.io.log.filter (loadsOrStarts 1) :=
  ⟨_, _, _, rfl, rfl, rfl,
    unload_run_no_restart 0 (some []) {} [.startGenericRecognition 1 (.voiceWakeup [7]) (some 0)]
      [.onCallStateUpdated 0, .onCallStateUpdated 8] 1 rfl (by decide) rfl (by decide) rfl⟩

theorem unload_pending_restarts :
    let p := Platform.bare (.minimal false)
    ∃ w w' w'' : World Nat,
      run (step p countingModule) (World.initial 0 (some []) {})
        [.onAudioSceneChange .ringing,
          .startGenericRecognition 1 (.voiceWakeup [7]) (some 0)] = some w ∧
      step p countingModule w (.unloadGenericTriggerModel 1) = some w' ∧
      run (step p countingModule) w' [.onAudioSceneChange .default] = some w'' ∧
      w'.helper.io.log.filter (loadsOrStarts 1) = [] ∧
      w''.helper.io.log.filter (loadsOrStarts 1) = [.loadModel 1, .start 1 1] :=
  ⟨_, _, _, rfl, rfl, rfl, by decide, by decide⟩

end IntellVoice.Trigger
