import IntellVoice.Library.Run
import IntellVoice.Service.Engines
import IntellVoice.Trigger.Types

/-! `StartDetection` starts recognition at once when the audio HAL is ready. -/

namespace IntellVoice.Service
open Transition List

inductive StartPhase where
  | submitted
  | asking
  | sleeping
  | posted
deriving DecidableEq

structure StartTask where
  handle : Nat
  uuid : Int
  phase : StartPhase

structure Starter where
  querySwitchStatus : WakeupModel → Bool
  anyEngineExist : Bool := false
  audioHalReady : Bool := false
  detectors : Int → Bool := fun _ => false
  isStarted : Int → Bool := fun _ => false
  taskHandle : Int → Option Nat := fun _ => none
  tasks : List StartTask := []
  nextHandle : Nat := 0
  calls : List Int := []

namespace Starter

def querySwitchByUuid (s : Starter) (uuid : Int) : Bool :=
  if uuid = Trigger.voiceWakeupModelUuid then s.querySwitchStatus .voice
  else if uuid = Trigger.proximalWakeupModelUuid then s.querySwitchStatus .proximal
  else false

def triggerStartDetection (s : Starter) (uuid : Int) (recognition : Bool) : Int :=
  if !s.detectors uuid then -1
  else if s.audioHalReady then if recognition then 1 else -1
  else 0

def addStartDetectionTask (s : Starter) (uuid : Int) : Bool × Starter :=
  match s.taskHandle uuid with
  | some _ => (true, s)
  | none => (true, { s with
      taskHandle := fun u => if u = uuid then some s.nextHandle else s.taskHandle u
      tasks := s.tasks ++ [⟨s.nextHandle, uuid, .submitted⟩]
      nextHandle := s.nextHandle + 1 })

def answer (s : Starter) (uuid : Int) (recognition : Bool) : Bool × Starter :=
  if s.anyEngineExist then (false, s)
  else if !s.querySwitchByUuid uuid then (false, s)
  else if s.triggerStartDetection uuid recognition = 1 then
    (true, { s with isStarted := fun u => if u = uuid then true else s.isStarted u })
  else if s.triggerStartDetection uuid recognition = 0 then s.addStartDetectionTask uuid
  else (false, s)

def startDetection (s : Starter) (uuid : Int) (recognition : Bool) : Bool × Starter :=
  { s with calls := s.calls ++ [uuid] }.answer uuid recognition

def cancel (s : Starter) (handle : Nat) (cancelled : Bool) : Starter :=
  if cancelled then
    { s with tasks := s.tasks.filter fun t => !(t.handle == handle && t.phase == .submitted) }
  else s

def delStartDetectionTask (s : Starter) (uuid : Int) (cancelled : Bool) : Starter :=
  let s := match s.taskHandle uuid with
    | none => s
    | some handle => { s.cancel handle cancelled with
        taskHandle := fun u => if u = uuid then none else s.taskHandle u }
  { s with isStarted := fun u => if u = uuid then false else s.isStarted u }

def switchOffProc (s : Starter) (uuid : Int) (cancelled : Bool) : Starter :=
  if s.anyEngineExist then s
  else if s.querySwitchByUuid uuid then s
  else
    let s := s.delStartDetectionTask uuid cancelled
    { s with detectors := fun u => if u = uuid then false else s.detectors u }

def inPhase (s : Starter) (handle : Nat) (phase : StartPhase) : Option StartTask :=
  s.tasks.find? fun t => t.handle == handle && t.phase == phase

def setPhase (s : Starter) (handle : Nat) (phase : StartPhase) : Starter :=
  { s with tasks := s.tasks.map fun t => if t.handle = handle then { t with phase := phase }
    else t }

def finish (s : Starter) (handle : Nat) : Starter :=
  { s with tasks := s.tasks.filter fun t => t.handle != handle }

def lookAtSwitch (s : Starter) (t : StartTask) : Starter :=
  if s.querySwitchByUuid t.uuid then s.setPhase t.handle .asking else s.finish t.handle

def askHal (s : Starter) (t : StartTask) : Starter :=
  s.setPhase t.handle (if s.audioHalReady then .posted else .sleeping)

def callBack (s : Starter) (t : StartTask) (recognition : Bool) : Starter :=
  let s := s.finish t.handle
  if s.isStarted t.uuid then s else (s.startDetection t.uuid recognition).2

end Starter

inductive StartEvent where
  | setSwitch (model : WakeupModel) (status : Bool)
  | enginesChange (exist : Bool)
  | halChange (ready : Bool)
  | createDetector (uuid : Int)
  | startDetection (uuid : Int) (recognition : Bool)
  | switchOffProc (uuid : Int) (cancelled : Bool)
  | begin (handle : Nat)
  | ask (handle : Nat)
  | wake (handle : Nat)
  | callBack (handle : Nat) (recognition : Bool)

namespace Starter

def step (s : Starter) : StartEvent → Option Starter
  | .setSwitch model status =>
    some { s with
      querySwitchStatus := fun m => if m = model then status else s.querySwitchStatus m }
  | .enginesChange exist => some { s with anyEngineExist := exist }
  | .halChange ready => some { s with audioHalReady := ready }
  | .createDetector uuid =>
    some { s with detectors := fun u => if u = uuid then true else s.detectors u }
  | .startDetection uuid recognition => some (s.startDetection uuid recognition).2
  | .switchOffProc uuid cancelled => some (s.switchOffProc uuid cancelled)
  | .begin handle => (s.inPhase handle .submitted).map s.lookAtSwitch
  | .ask handle => (s.inPhase handle .asking).map s.askHal
  | .wake handle => (s.inPhase handle .sleeping).map s.lookAtSwitch
  | .callBack handle recognition =>
    (s.inPhase handle .posted).map fun t => s.callBack t recognition

end Starter

def StartTask.remaining (t : StartTask) (recognition : Bool) : List StartEvent :=
  match t.phase with
  | .submitted => [.begin t.handle, .ask t.handle, .callBack t.handle recognition]
  | .asking => [.ask t.handle, .callBack t.handle recognition]
  | .sleeping => [.wake t.handle, .ask t.handle, .callBack t.handle recognition]
  | .posted => [.callBack t.handle recognition]

namespace Starter

def clear (s : Starter) : Starter :=
  { s with querySwitchStatus := fun _ => true, anyEngineExist := false, audioHalReady := true }

def Promised (s : Starter) (uuid : Int) : Prop :=
  ∃ t ∈ s.tasks, t.uuid = uuid ∧ ∀ recognition, ∃ s',
    run step s.clear (t.remaining recognition) = some s' ∧ s'.calls = s.calls ++ [uuid]

def AnswerKept (s : Starter) (uuid : Int) (recognition : Bool) : Prop :=
  (s.startDetection uuid recognition).1 →
    s.triggerStartDetection uuid recognition = 1 ∨
      (s.startDetection uuid recognition).2.Promised uuid

structure Defers (s : Starter) (uuid : Int) : Prop where
  engines : s.anyEngineExist = false
  switch : s.querySwitchByUuid uuid
  detector : s.detectors uuid
  hal : s.audioHalReady = false

structure WellFormed (s : Starter) : Prop where
  nodup : (s.tasks.map StartTask.handle).Nodup
  fresh : ∀ t ∈ s.tasks, t.handle < s.nextHandle

variable {s s' : Starter} {uuid : Int}

section
variable (h : s.WellFormed)
include h

lemma WellFormed.congr (htasks : s'.tasks = s.tasks) (hnext : s'.nextHandle = s.nextHandle) :
    s'.WellFormed := by
  refine ⟨?_, ?_⟩
  · rw [htasks]
    exact h.nodup
  · rw [htasks, hnext]
    exact h.fresh

lemma WellFormed.filter (keep : StartTask → Bool) :
    { s with tasks := s.tasks.filter keep }.WellFormed := by
  refine ⟨?_, fun t ht => h.fresh t (mem_of_mem_filter ht)⟩
  exact h.nodup.sublist (filter_sublist.map _)

lemma WellFormed.setPhase (handle : Nat) (phase : StartPhase) :
    (s.setPhase handle phase).WellFormed := by
  -- a change of phase keeps the handle
  have hhandle : ∀ t : StartTask,
      (if t.handle = handle then { t with phase := phase } else t).handle = t.handle := by
    intro t
    split <;> rfl
  refine ⟨?_, fun t ht => ?_⟩
  · have hmap : (s.setPhase handle phase).tasks.map StartTask.handle =
        s.tasks.map StartTask.handle := by
      simp [Starter.setPhase, Function.comp_def, hhandle]
    rw [hmap]
    exact h.nodup
  · obtain ⟨t₀, ht₀, rfl⟩ := mem_map.1 ht
    rw [hhandle]
    exact h.fresh t₀ ht₀

lemma WellFormed.addStartDetectionTask (uuid : Int) :
    (s.addStartDetectionTask uuid).2.WellFormed := by
  unfold Starter.addStartDetectionTask
  split
  · exact h
  have hnot : s.nextHandle ∉ s.tasks.map StartTask.handle := by
    intro hmem
    obtain ⟨t, ht, heq⟩ := mem_map.1 hmem
    have := h.fresh t ht
    omega
  refine ⟨?_, ?_⟩
  · simp only [map_append, map_cons, map_nil]
    rw [nodup_append]
    refine ⟨h.nodup, by simp, ?_⟩
    intro a ha b hb heq
    rw [mem_singleton] at hb
    exact hnot (hb ▸ heq ▸ ha)
  · intro t ht
    rcases mem_append.1 ht with ht | ht
    · exact Nat.lt_succ_of_lt (h.fresh t ht)
    · rw [mem_singleton.1 ht]
      exact Nat.lt_succ_self _

lemma WellFormed.startDetection (uuid : Int) (recognition : Bool) :
    (s.startDetection uuid recognition).2.WellFormed := by
  have hcalled : { s with calls := s.calls ++ [uuid] }.WellFormed := h.congr rfl rfl
  unfold Starter.startDetection Starter.answer
  split
  · exact hcalled
  split
  · exact hcalled
  split
  · exact hcalled.congr rfl rfl
  split
  · exact hcalled.addStartDetectionTask uuid
  · exact hcalled

lemma WellFormed.switchOffProc (uuid : Int) (cancelled : Bool) :
    (s.switchOffProc uuid cancelled).WellFormed := by
  have hdel : (s.delStartDetectionTask uuid cancelled).WellFormed := by
    unfold Starter.delStartDetectionTask
    split
    · exact h.congr rfl rfl
    unfold Starter.cancel
    split
    · exact (h.filter _).congr rfl rfl
    · exact h.congr rfl rfl
  unfold Starter.switchOffProc
  split
  · exact h
  split
  · exact h
  · exact hdel.congr rfl rfl

lemma WellFormed.lookAtSwitch (t : StartTask) : (s.lookAtSwitch t).WellFormed := by
  unfold Starter.lookAtSwitch
  split
  · exact h.setPhase _ _
  · exact h.filter _

lemma WellFormed.callBack (t : StartTask) (recognition : Bool) :
    (s.callBack t recognition).WellFormed := by
  unfold Starter.callBack
  dsimp only
  split
  · exact h.filter _
  · exact (h.filter _).startDetection _ _

end

variable {e : StartEvent} {t : StartTask}

lemma step_wellFormed (h : s.WellFormed) (hstep : s.step e = some s') : s'.WellFormed := by
  cases e with
  | setSwitch model status | enginesChange exist | halChange ready | createDetector uuid =>
    cases hstep
    exact h.congr rfl rfl
  | startDetection uuid recognition =>
    cases hstep
    exact h.startDetection uuid recognition
  | switchOffProc uuid cancelled =>
    cases hstep
    exact h.switchOffProc uuid cancelled
  | begin handle | wake handle =>
    obtain ⟨t, -, rfl⟩ := Option.map_eq_some_iff.1 hstep
    exact h.lookAtSwitch t
  | ask handle =>
    obtain ⟨t, -, rfl⟩ := Option.map_eq_some_iff.1 hstep
    exact h.setPhase _ _
  | callBack handle recognition =>
    obtain ⟨t, -, rfl⟩ := Option.map_eq_some_iff.1 hstep
    exact h.callBack t recognition

lemma inPhase_of_mem (h : s.WellFormed) (ht : t ∈ s.tasks) :
    s.inPhase t.handle t.phase = some t := by
  unfold inPhase
  cases hfind : s.tasks.find? fun t' => t'.handle == t.handle && t'.phase == t.phase with
  | none =>
    have := find?_eq_none.1 hfind t ht
    simp at this
  | some t' =>
    have hmem := mem_of_find?_eq_some hfind
    have hsame := find?_some hfind
    simp only [Bool.and_eq_true, beq_iff_eq] at hsame
    rw [inj_on_of_nodup_map h.nodup hmem ht hsame.1]

lemma mem_setPhase (ht : t ∈ s.tasks) (phase : StartPhase) :
    { t with phase := phase } ∈ (s.setPhase t.handle phase).tasks :=
  mem_map.2 ⟨t, ht, if_pos rfl⟩

lemma calls_startDetection (s : Starter) (uuid : Int) (recognition : Bool) :
    (s.startDetection uuid recognition).2.calls = s.calls ++ [uuid] := by
  unfold startDetection answer
  split
  · rfl
  split
  · rfl
  split
  · rfl
  split
  · unfold addStartDetectionTask
    split <;> rfl
  · rfl

def callsOf (s : Starter) (uuid : Int) : List Int := if s.isStarted uuid then [] else [uuid]

lemma run_posted (h : s.WellFormed) (ht : t ∈ s.tasks) (hphase : t.phase = .posted)
    (recognition : Bool) : ∃ s', run step s [.callBack t.handle recognition] = some s' ∧
      s'.calls = s.calls ++ s.callsOf t.uuid := by
  have hfind := inPhase_of_mem h ht
  rw [hphase] at hfind
  refine ⟨s.callBack t recognition, by simp [step, hfind], ?_⟩
  unfold callBack callsOf
  by_cases hstarted : s.isStarted t.uuid
  · simp [finish, hstarted]
  · simp only [finish, hstarted, Bool.false_eq_true, if_false]
    exact calls_startDetection _ _ _

lemma run_asking (h : s.WellFormed) (ht : t ∈ s.tasks) (hphase : t.phase = .asking)
    (hhal : s.audioHalReady) (recognition : Bool) :
    ∃ s', run step s [.ask t.handle, .callBack t.handle recognition] = some s' ∧
      s'.calls = s.calls ++ s.callsOf t.uuid := by
  have hfind := inPhase_of_mem h ht
  rw [hphase] at hfind
  have hstep : s.step (.ask t.handle) = some (s.setPhase t.handle .posted) := by
    simp [step, hfind, askHal, hhal]
  obtain ⟨s', hrun, hcalls⟩ :=
    run_posted (h.setPhase t.handle .posted) (mem_setPhase ht .posted) rfl
    recognition
  exact ⟨s', run_cons_eq_some.2 ⟨_, hstep, hrun⟩, hcalls⟩

lemma run_looking (h : s.WellFormed) (ht : t ∈ s.tasks)
    (hswitch : s.querySwitchByUuid t.uuid) (hhal : s.audioHalReady)
    (hstep : s.step e = some (s.lookAtSwitch t)) (recognition : Bool) :
    ∃ s', run step s [e, .ask t.handle, .callBack t.handle recognition] = some s' ∧
      s'.calls = s.calls ++ s.callsOf t.uuid := by
  rw [lookAtSwitch, if_pos hswitch] at hstep
  obtain ⟨s', hrun, hcalls⟩ :=
    run_asking (h.setPhase t.handle .asking) (mem_setPhase ht .asking) rfl
    hhal recognition
  exact ⟨s', run_cons_eq_some.2 ⟨_, hstep, hrun⟩, hcalls⟩

lemma run_remaining (h : s.WellFormed) (ht : t ∈ s.tasks)
    (hswitch : s.querySwitchByUuid t.uuid) (hhal : s.audioHalReady)
    (recognition : Bool) : ∃ s', run step s (t.remaining recognition) = some s' ∧
      s'.calls = s.calls ++ s.callsOf t.uuid := by
  have hfind := inPhase_of_mem h ht
  unfold StartTask.remaining
  cases hphase : t.phase with
  | submitted | sleeping =>
    refine run_looking h ht hswitch hhal ?_ recognition
    simp [step, ← hphase, hfind]
  | asking => exact run_asking h ht hphase hhal recognition
  | posted => exact run_posted h ht hphase recognition

lemma querySwitchByUuid_clear (hswitch : s.querySwitchByUuid uuid) :
    s.clear.querySwitchByUuid uuid := by
  unfold querySwitchByUuid at hswitch ⊢
  split
  · rfl
  split
  · rfl
  · simp_all

lemma promised_iff (h : s.WellFormed) (hswitch : s.querySwitchByUuid uuid) :
    s.Promised uuid ↔ s.isStarted uuid = false ∧ ∃ t ∈ s.tasks, t.uuid = uuid := by
  have hclear : s.clear.WellFormed := h.congr rfl rfl
  constructor
  · rintro ⟨t, ht, rfl, hcalls⟩
    refine ⟨?_, t, ht, rfl⟩
    obtain ⟨s', hrun, hcalled⟩ := hcalls true
    obtain ⟨s'', hrun', hcalled'⟩ :=
      run_remaining (s := s.clear) hclear ht (querySwitchByUuid_clear hswitch) rfl true
    cases hrun.symm.trans hrun'
    -- a task that finds recognition started calls nothing
    by_contra hstarted
    have hnone : s.clear.callsOf t.uuid = [] := if_pos (by simpa [clear] using hstarted)
    rw [hcalled', hnone, append_nil] at hcalled
    simpa [clear] using congrArg length hcalled
  · rintro ⟨hstarted, t, ht, rfl⟩
    refine ⟨t, ht, rfl, fun recognition => ?_⟩
    obtain ⟨s', hrun, hcalled⟩ := run_remaining (s := s.clear) hclear ht
      (querySwitchByUuid_clear hswitch) rfl recognition
    refine ⟨s', hrun, hcalled.trans ?_⟩
    have hone : s.clear.callsOf t.uuid = [t.uuid] := if_neg (by simp [clear, hstarted])
    rw [hone]
    rfl

structure BooksRight (s : Starter) (uuid : Int) : Prop where
  isStarted : s.isStarted uuid = false
  taskHandle : s.taskHandle uuid = none ∨ ∃ t ∈ s.tasks, t.uuid = uuid

lemma startDetection_cases (s : Starter) (uuid : Int) (recognition : Bool) :
    (s.startDetection uuid recognition).1 = false ∧ ¬ s.Defers uuid ∨
    s.triggerStartDetection uuid recognition = 1 ∧ ¬ s.Defers uuid ∨
    s.Defers uuid ∧ s.triggerStartDetection uuid recognition ≠ 1 ∧
      s.startDetection uuid recognition =
        { s with calls := s.calls ++ [uuid] }.addStartDetectionTask uuid := by
  have htrigger : { s with calls := s.calls ++ [uuid] }.triggerStartDetection uuid recognition =
      s.triggerStartDetection uuid recognition := rfl
  have hquery : { s with calls := s.calls ++ [uuid] }.querySwitchByUuid uuid =
      s.querySwitchByUuid uuid := rfl
  have hzero : s.triggerStartDetection uuid recognition = 0 ↔
      s.detectors uuid ∧ s.audioHalReady = false := by
    unfold triggerStartDetection
    cases s.detectors uuid <;> cases s.audioHalReady <;> cases recognition <;> simp
  unfold startDetection answer
  simp only [htrigger, hquery]
  split
  · rename_i hengine
    exact .inl ⟨rfl, fun hd => absurd hd.engines (by simp [hengine])⟩
  rename_i hengine
  split
  · rename_i hswitch
    exact .inl ⟨rfl, fun hd => absurd hd.switch (by simpa using hswitch)⟩
  rename_i hswitch
  split
  · rename_i hone
    refine .inr (.inl ⟨hone, fun hd => ?_⟩)
    have := hzero.2 ⟨hd.detector, hd.hal⟩
    omega
  rename_i hone
  split
  · rename_i hdefer
    obtain ⟨hdetector, hhal⟩ := hzero.1 hdefer
    exact .inr (.inr ⟨⟨by simpa using hengine, by simpa using hswitch, hdetector, hhal⟩, hone,
      rfl⟩)
  · rename_i hno
    exact .inl ⟨rfl, fun hd => hno (hzero.2 ⟨hd.detector, hd.hal⟩)⟩

lemma answerKept_iff (h : s.WellFormed) (uuid : Int) (recognition : Bool) :
    s.AnswerKept uuid recognition ↔ (s.Defers uuid → s.BooksRight uuid) := by
  unfold AnswerKept
  rcases s.startDetection_cases uuid recognition with
    ⟨hfalse, hno⟩ | ⟨hone, hno⟩ | ⟨hdefers, hone, heq⟩
  · simp [hfalse, hno]
  · simp [hone, hno]
  · have hafter := h.startDetection uuid recognition
    have htrue : (s.startDetection uuid recognition).1 := by
      rw [heq]
      unfold addStartDetectionTask
      split <;> rfl
    have hswitch : (s.startDetection uuid recognition).2.querySwitchByUuid uuid := by
      rw [heq]
      unfold addStartDetectionTask
      split <;> exact hdefers.switch
    have hpromised := promised_iff hafter hswitch
    simp only [htrue, hone, false_or, forall_const, hdefers, hpromised]
    rw [heq]
    unfold addStartDetectionTask
    split
    · rename_i handle hhandle
      have hhandle' : s.taskHandle uuid = some handle := hhandle
      exact ⟨fun hp => ⟨hp.1, .inr hp.2⟩, fun hb => ⟨hb.isStarted, hb.taskHandle.resolve_left
        (by simp [hhandle'])⟩⟩
    · rename_i hhandle
      refine ⟨fun hp => ⟨hp.1, .inl hhandle⟩,
        fun hb => ⟨hb.isStarted, ⟨s.nextHandle, uuid, .submitted⟩, ?_, rfl⟩⟩
      exact mem_append_right _ (mem_singleton_self _)

def initial (switches : WakeupModel → Bool) : Starter where
  querySwitchStatus := switches

theorem run_answerKept_iff {switches : WakeupModel → Bool} {es : List StartEvent}
    (hrun : run step (initial switches) es = some s) (uuid : Int) (recognition : Bool) :
    s.AnswerKept uuid recognition ↔ (s.Defers uuid → s.BooksRight uuid) := by
  have hinitial : (initial switches).WellFormed := ⟨nodup_nil, fun _ ht => by cases ht⟩
  exact answerKept_iff (run_invariant_all (fun _ _ _ hs hstep => step_wellFormed hs hstep)
    hinitial hrun) uuid recognition

theorem run_answerKept_iff_twice :
    ∃ s, run step (initial fun _ => true)
        [.createDetector 1, .startDetection 1 true, .begin 0, .ask 0] = some s ∧
      s.Defers 1 ∧ s.AnswerKept 1 true := by
  obtain ⟨s, hrun⟩ : ∃ s, run step (initial fun _ => true)
      [.createDetector 1, .startDetection 1 true, .begin 0, .ask 0] = some s := ⟨_, rfl⟩
  have hdefers : s.Defers 1 := by cases hrun; exact ⟨rfl, rfl, rfl, rfl⟩
  have hbooks : s.BooksRight 1 := by
    cases hrun
    exact ⟨rfl, .inr ⟨⟨0, 1, .sleeping⟩, mem_singleton_self _, rfl⟩⟩
  exact ⟨s, hrun, hdefers, (run_answerKept_iff hrun 1 true).2 fun _ => hbooks⟩

theorem stale_handle_promises_nothing :
    ∃ s, run step (initial fun _ => true)
        [.createDetector 1, .startDetection 1 true, .begin 0, .halChange true, .ask 0,
          .callBack 0 true, .halChange false] = some s ∧ ¬ s.AnswerKept 1 true := by
  refine ⟨_, rfl, fun hkept => ?_⟩
  rcases hkept rfl with hone | ⟨t, ⟨⟩, -⟩
  exact absurd hone (by decide)

end Starter
end IntellVoice.Service
