import IntellVoice.Service.Flow

/-! `serviceUnloading_` is set when no engine is there and both switches are off. -/

namespace IntellVoice.Service
open Transition

namespace ServiceManager

def unloads (s : ServiceManager) : Nat := s.log.count .unloadSystemAbility

def unloadMark (s : ServiceManager) : Bool × Nat := (s.serviceUnloading, s.unloads)

variable (s : ServiceManager) (a : Answers)

lemma unloadMark_emit {e : Effect} (he : e ≠ .unloadSystemAbility) :
    (s.emit e).unloadMark = s.unloadMark := by
  simp [unloadMark, unloads, emit, List.count_append, he]

lemma unloadMark_detachEngine (type : EngineType) :
    (s.detachEngine type).unloadMark = s.unloadMark := by
  cases type with
  | update =>
    unfold detachEngine
    cases s.update with
    | none => rfl
    | some engine =>
      simp only
      split <;> rfl
  | _ => rfl

lemma unloadMark_foldl {α : Type} {f : ServiceManager → α → ServiceManager}
    (hf : ∀ s x, (f s x).unloadMark = s.unloadMark) (l : List α) :
    (l.foldl f s).unloadMark = s.unloadMark := by
  induction l generalizing s with
  | nil => rfl
  | cons x l ih => rw [List.foldl_cons, ih, hf]

lemma unloadMark_createEngineInner (type : EngineType) (param : String) (reEnroll : Bool) :
    (s.createEngineInner a type param reEnroll).2.unloadMark = s.unloadMark := by
  unfold createEngineInner
  split
  · rfl
  cases type with
  | update =>
    simp only
    split <;> rfl
  | _ => rfl

lemma unloadMark_createEngine (type : EngineType) (param : String) (reEnroll : Bool) :
    (s.createEngine a type param reEnroll).2.unloadMark = s.unloadMark := by
  unfold createEngine
  split
  · rfl
  rw [unloadMark_createEngineInner]
  -- an engine that is preempted is stopped, one that is replaced is detached
  have hpreempt : (s.handlePreemption type).unloadMark = s.unloadMark := by
    refine unloadMark_foldl s (fun s r => ?_) _
    split
    · exact unloadMark_emit s (by simp)
    · rfl
  have hreplace : ((s.handlePreemption type).handleReplace type).unloadMark = s.unloadMark := by
    rw [← hpreempt]
    refine unloadMark_foldl _ (fun s r => ?_) _
    split
    · exact unloadMark_detachEngine s _
    · rfl
  split
  · rw [unloadMark_emit _ (by simp), hreplace]
  · exact hreplace

lemma unloadMark_createOrResetWakeupEngine :
    (s.createOrResetWakeupEngine a).unloadMark = s.unloadMark := by
  unfold createOrResetWakeupEngine
  split
  · exact unloadMark_emit s (by simp)
  · exact unloadMark_createEngineInner s a .wakeup "" false

lemma unloadMark_startDetection (model : WakeupModel) :
    (s.startDetection model).unloadMark = s.unloadMark := by
  unfold startDetection
  split
  · rfl
  split
  · rfl
  · exact unloadMark_emit s (by simp)

lemma unloadMark_createDetector (model : WakeupModel) :
    (s.createDetector model).unloadMark = s.unloadMark :=
  unloadMark_emit s (e := .createDetector model) (by simp)

lemma unloadMark_createAndStartServiceObject (model : WakeupModel) (needResetAdapter : Bool) :
    (s.createAndStartServiceObject a model needResetAdapter).unloadMark = s.unloadMark := by
  have hemit : (s.emit (.createAndStartServiceObject model)).unloadMark = s.unloadMark :=
    unloadMark_emit s (by simp)
  unfold createAndStartServiceObject
  simp only
  rw [← hemit]
  -- from here on the effect is part of the state
  generalize s.emit (.createAndStartServiceObject model) = s
  split
  · exact unloadMark_emit s (by simp)
  split
  · rfl
  split
  · rfl
  rw [unloadMark_startDetection, unloadMark_createDetector]
  split
  · exact unloadMark_createOrResetWakeupEngine s a
  · exact unloadMark_createEngine s a .wakeup "" false

lemma unloadMark_switchOnProc (model : WakeupModel) (needUpdateAdapter : Bool) :
    (s.switchOnProc a model needUpdateAdapter).unloadMark = s.unloadMark := by
  unfold switchOnProc
  split
  · rfl
  split
  · rfl
  · exact unloadMark_createAndStartServiceObject s a model needUpdateAdapter

lemma unloadMark_switchOffProc (model : WakeupModel) :
    (s.switchOffProc model).unloadMark = s.unloadMark := by
  unfold switchOffProc
  split
  · rfl
  split
  · rfl
  · exact unloadMark_emit s (e := .releaseTriggerDetector model) (by simp)

/-! The update controller. -/

lemma unloadMark_onUpdateCompleteCallback (result : Int) :
    (s.onUpdateCompleteCallback result).unloadMark = s.unloadMark := by
  unfold onUpdateCompleteCallback
  split
  · rfl
  · exact unloadMark_emit s (by simp)

lemma unloadMark_releaseUpdateEngine : s.releaseUpdateEngine.unloadMark = s.unloadMark :=
  unloadMark_detachEngine s .update

lemma unloadMark_updateArbitration (priority : Int) :
    (s.updateArbitration priority).2.unloadMark = s.unloadMark := by
  unfold updateArbitration
  split
  · rfl
  split
  · rfl
  split
  · rfl
  · show (s.onUpdateCompleteCallback _).releaseUpdateEngine.unloadMark = s.unloadMark
    rw [unloadMark_releaseUpdateEngine, unloadMark_onUpdateCompleteCallback]

lemma unloadMark_createUpdateEngineUntilTime (strategy : UpdateStrategy) (reEnroll : Bool) :
    (s.createUpdateEngineUntilTime a strategy reEnroll).2.unloadMark = s.unloadMark := by
  unfold createUpdateEngineUntilTime
  split
  · rfl
  simp only
  split
  · exact unloadMark_updateArbitration s _
  have hcreate : ((s.updateArbitration strategy.priority).2.createUpdateEngine a strategy.param
      reEnroll).2.unloadMark = s.unloadMark := by
    rw [createUpdateEngine, unloadMark_createEngine, unloadMark_updateArbitration]
  split
  · exact hcreate
  · rw [← hcreate]
    split <;> rfl

lemma unloadMark_finishUpdate (result : UpdateState) :
    (s.finishUpdate a result).2.unloadMark = s.unloadMark := by
  have hstop : (s.setController { s.controller with updateResult := result }
      ).stopUpdateTimer.unloadMark = s.unloadMark := by
    unfold stopUpdateTimer
    split <;> rfl
  unfold finishUpdate
  simp only
  rw [← hstop]
  generalize (s.setController { s.controller with updateResult := result }).stopUpdateTimer = s
  -- the timer is started or not; the answer decides only which way the update is released
  have hstart : (if s.isNeedRetryUpdate a then s.startUpdateTimer else (false, s)).2.unloadMark =
      s.unloadMark := by
    split
    · unfold startUpdateTimer
      split
      · rfl
      · simp only
        split <;> rfl
    · rfl
  rw [← hstart]
  generalize (if s.isNeedRetryUpdate a then s.startUpdateTimer else (false, s)) = r
  split
  · exact unloadMark_releaseUpdateEngine _
  · rw [unloadMark_releaseUpdateEngine]
    exact unloadMark_onUpdateCompleteCallback _ _

lemma unloadMark_isNeedUpdateComplete (result : UpdateState) (param : String) :
    (s.isNeedUpdateComplete a result param).2.unloadMark = s.unloadMark := by
  show (s.updateCompleteProc a result param).2.unloadMark = s.unloadMark
  unfold updateCompleteProc
  split
  · rfl
  split
  · rfl
  · exact unloadMark_finishUpdate s a result

lemma unloadMark_abandonUpdate : s.abandonUpdate.unloadMark = s.unloadMark :=
  unloadMark_releaseUpdateEngine s.clearRetryState

lemma unloadMark_isNeedUpdateRetry : (s.isNeedUpdateRetry a).2.unloadMark = s.unloadMark := by
  show (s.updateRetryProc a).2.unloadMark = s.unloadMark
  unfold updateRetryProc
  split
  · rfl
  split
  · exact unloadMark_abandonUpdate s
  split
  · exact unloadMark_abandonUpdate s
  rename_i strategy _ _
  have hcreate : (s.createUpdateEngine a strategy.param false).2.unloadMark = s.unloadMark :=
    unloadMark_createEngine s a .update strategy.param false
  simp only
  rw [← hcreate]
  split
  · rfl
  · exact unloadMark_abandonUpdate _

lemma unloadMark_forceRelease : s.forceRelease.unloadMark = s.unloadMark := by
  unfold forceRelease
  split
  · rfl
  · exact unloadMark_abandonUpdate s

def MayUnload (s t : ServiceManager) : Prop :=
  t.unloadMark = s.unloadMark ∨ t.serviceUnloading ∧ t.unloads = s.unloads + 1

variable {s a} {t : ServiceManager}

lemma mayUnload_unloadIntellVoiceService (hst : t.unloadMark = s.unloadMark) :
    MayUnload s t.unloadIntellVoiceService := by
  unfold unloadIntellVoiceService
  split
  · exact .inl hst
  -- no engine and both switches off: the flag is set and the thread started
  have hunloads : t.unloads = s.unloads := congrArg Prod.snd hst
  refine .inr ⟨rfl, ?_⟩
  rw [← hunloads]
  exact List.count_append

lemma mayUnload_restoreDetection (hst : t.unloadMark = s.unloadMark) :
    MayUnload s (t.restoreDetection a) := by
  apply mayUnload_unloadIntellVoiceService
  rw [unloadMark_switchOnProc, unloadMark_switchOnProc, hst]

lemma mayUnload_releaseEngine {type : EngineType} (hrun : s.releaseEngine a type = some t) :
    MayUnload s t := by
  have hdetach := unloadMark_detachEngine s type
  unfold releaseEngine at hrun
  simp only at hrun
  -- only after an enrollment that failed does the release end with an unload
  generalize s.detachEngine type = d at hdetach hrun
  split at hrun
  · cases hrun
    exact .inl hdetach
  split at hrun
  · split at hrun
    · obtain ⟨queue, -, rfl⟩ := push?_spec hrun
      exact .inl hdetach
    cases hrun
    refine .inl ?_
    rw [unloadMark_switchOffProc, unloadMark_switchOnProc, unloadMark_switchOnProc, hdetach]
  · cases hrun
    apply mayUnload_unloadIntellVoiceService
    rw [unloadMark_switchOffProc, unloadMark_switchOnProc, unloadMark_switchOffProc,
      unloadMark_switchOnProc, hdetach]

lemma unloadMark_cloneUpdate (wakeupInfo : String) :
    (s.cloneUpdate a wakeupInfo).unloadMark = s.unloadMark := by
  unfold cloneUpdate
  split
  · rfl
  split
  · exact unloadMark_createEngine s a .implicitEnroll "" false
  split
  · rfl
  · exact unloadMark_createUpdateEngineUntilTime s a _ _

lemma mayUnload_runTask {task : Task} (hrun : s.runTask a task = some t)
    (htask : task ≠ .onIdle) : MayUnload s t := by
  cases task with
  | onIdle => exact absurd rfl htask
  | switchOn model needUpdateAdapter =>
    cases hrun
    exact .inl (unloadMark_switchOnProc s a model needUpdateAdapter)
  | switchOff model fromSwitch =>
    cases hrun
    refine .inl ?_
    rw [← unloadMark_switchOffProc s model]
    cases fromSwitch <;> rfl
  | unloadIntellVoiceService =>
    cases hrun
    exact mayUnload_unloadIntellVoiceService rfl
  | createEnrollEngine =>
    cases hrun
    refine .inl ?_
    rw [unloadMark_createEngine, unloadMark_emit _ (by simp), unloadMark_emit _ (by simp)]
  | releaseEngine type => exact mayUnload_releaseEngine hrun
  | silenceUpdate =>
    cases hrun
    refine .inl ?_
    split
    · rw [whisperVprUpdate, unloadMark_createUpdateEngineUntilTime,
        unloadMark_createUpdateEngineUntilTime]
    · exact unloadMark_createUpdateEngineUntilTime s a _ _
  | whisperVprUpdate =>
    cases hrun
    exact .inl (unloadMark_createUpdateEngineUntilTime s a _ _)
  | cloneUpdate wakeupInfo =>
    cases hrun
    exact .inl (unloadMark_cloneUpdate wakeupInfo)
  | createUpdateEngineUntilTime strategy reEnroll =>
    cases hrun
    exact .inl (unloadMark_createUpdateEngineUntilTime s a strategy reEnroll)
  | updateComplete result param =>
    have hcomplete := unloadMark_isNeedUpdateComplete s a result param
    simp only [runTask] at hrun
    split at hrun
    · cases hrun
      refine .inl ?_
      rw [whisperVprUpdate, unloadMark_createUpdateEngineUntilTime, hcomplete]
    cases hrun
    split
    · exact mayUnload_restoreDetection hcomplete
    · exact .inl hcomplete
  | updateRetry =>
    have hretry := unloadMark_isNeedUpdateRetry s a
    cases hrun
    split
    · exact mayUnload_restoreDetection hretry
    · exact .inl hretry
  | clearUserData =>
    cases hrun
    -- the update is released by force before the service unloads
    exact mayUnload_unloadIntellVoiceService (unloadMark_forceRelease s)

def executed (s : ServiceManager) : Event → Option Task
  | .execute _ _ => s.queue.items.head?
  | _ => none

lemma step_mayUnload {e : Event} (hstep : step s e = some t) :
    MayUnload s t ∨ t.unloads = s.unloads ∧
      (s.executed e = some .onIdle ∨ t.serviceUnloading = false) := by
  cases e with
  | request task =>
    obtain ⟨queue, -, rfl⟩ := push?_spec (request?_spec hstep).2
    exact .inl (.inl rfl)
  | setSwitch model status =>
    cases hstep
    exact .inl (.inl rfl)
  | observer pending =>
    obtain ⟨queue, -, rfl⟩ := step_observer hstep
    exact .inl (.inl rfl)
  | execute answers arrivals =>
    obtain ⟨task, rest, queue, versionDeleted, hitems, -, hrun⟩ := step_execute hstep
    by_cases htask : task = .onIdle
    · subst htask
      cases hrun
      exact .inr ⟨rfl, .inl (by simp [executed, hitems])⟩
    · -- what the others have queued in between is neither the flag nor a thread
      have hmay : MayUnload { s with queue, versionDeleted } t := mayUnload_runTask hrun htask
      exact .inl hmay
  | commitEnrollComplete type success | onTimerEvent =>
    simp only [step] at hstep
    split at hstep <;> cases hstep
    exact .inl (.inl rfl)
  | updateCommitComplete success =>
    obtain ⟨engine, -, rfl⟩ := Option.map_eq_some_iff.1 hstep
    exact .inl (.inl rfl)
  | onServiceActive =>
    cases hstep
    exact .inr ⟨rfl, .inr rfl⟩

def unlessUnloading (s : ServiceManager) (ret : Int) : Int := if s.serviceUnloading then -1 else ret

def handleDataClear (s : ServiceManager) (ret : Int) : Int := s.unlessUnloading ret

def handleCloneUpdate (s : ServiceManager) (ret : Int) : Int := s.unlessUnloading ret

lemma unlessUnloading_eq (h : s.serviceUnloading = false) (ret : Int) :
    s.unlessUnloading ret = ret := by
  rw [unlessUnloading, h]
  rfl

end ServiceManager

inductive UnloadRequest where
  | outstanding
  | accepted
  | failed
deriving DecidableEq

inductive UnloadSetter where
  | onIdle
  | request (id : Nat)

/-- The service, its unload requests and who set the flag. -/
structure UnloadingService where
  manager : ServiceManager
  requests : List UnloadRequest := []
  setter : Option UnloadSetter := none

inductive UnloadEvent where
  | service (e : Event)
  | unloadSystemAbility (id : Nat) (found : Bool) (ret : Int)

namespace UnloadingService

def served (s : UnloadingService) (e : Event) (m : ServiceManager) : UnloadingService :=
  if s.manager.unloads < m.unloads then
    ⟨m, s.requests ++ [.outstanding], some (.request s.requests.length)⟩
  else if s.manager.executed e = some .onIdle ∧ m.serviceUnloading = true then
    ⟨m, s.requests, some .onIdle⟩
  else { s with manager := m }

def answered (s : UnloadingService) (id : Nat) (r : UnloadRequest) : UnloadingService :=
  { s with requests := s.requests.set id r }

def step (s : UnloadingService) : UnloadEvent → Option UnloadingService
  | .service e => (Service.step s.manager e).map (s.served e)
  | .unloadSystemAbility id found ret =>
    if s.requests[id]? = some .outstanding then
      some (s.answered id (if found && ret == 0 then .accepted else .failed))
    else none

def initial (switchStatus : WakeupModel → Bool) : UnloadingService where
  manager := .initial switchStatus

def Underway (s : UnloadingService) : Prop :=
  s.setter = some .onIdle ∨
    ∃ id, s.setter = some (.request id) ∧
      (s.requests[id]? = some .outstanding ∨ s.requests[id]? = some .accepted)

structure Justified (s : UnloadingService) : Prop where
  underway : s.manager.serviceUnloading → s.Underway
  served : ∀ id, s.setter = some (.request id) → s.requests[id]? = some .failed →
    ∀ ret, s.manager.handleDataClear ret = ret ∧ s.manager.handleCloneUpdate ret = ret

def Met (s : UnloadingService) : UnloadEvent → Prop
  | .service _ => True
  | .unloadSystemAbility id found ret =>
    found ∧ ret = 0 ∨ s.manager.serviceUnloading = false ∨ s.setter ≠ some (.request id)

variable {s t : UnloadingService}

lemma justified_of_underway (h : s.manager.serviceUnloading → s.Underway) : s.Justified := by
  refine ⟨h, fun id hsetter hfailed ret => ?_⟩
  -- the second half follows from the first: a failed unload is not under way
  cases hflag : s.manager.serviceUnloading with
  | false =>
    exact ⟨ServiceManager.unlessUnloading_eq hflag ret, ServiceManager.unlessUnloading_eq hflag ret⟩
  | true =>
    rcases h hflag with hidle | ⟨id', hsetter', hrequest⟩
    · cases hidle.symm.trans hsetter
    cases hsetter.symm.trans hsetter'
    rw [hfailed] at hrequest
    rcases hrequest with hrequest | hrequest <;> cases hrequest

lemma underway_served {e : Event} {m : ServiceManager} (hstep : Service.step s.manager e = some m)
    (h : s.manager.serviceUnloading → s.Underway) (hflag : m.serviceUnloading) :
    (s.served e m).Underway := by
  unfold served
  split
  · -- a thread was started in this step: its request is outstanding
    exact .inr ⟨_, rfl, .inl (by simp)⟩
  rename_i hnot
  split
  · exact .inl rfl
  rename_i hidle
  refine h ?_
  rcases ServiceManager.step_mayUnload hstep with
    (hmark | ⟨-, hunloads⟩) | ⟨-, hexecuted | hcleared⟩
  · exact (congrArg Prod.fst hmark).symm.trans hflag
  · -- no thread was started, so the count cannot have grown
    omega
  · exact absurd ⟨hexecuted, hflag⟩ hidle
  · cases hcleared.symm.trans hflag

lemma manager_served (e : Event) (m : ServiceManager) : (s.served e m).manager = m := by
  unfold served
  split
  · rfl
  · split <;> rfl

variable {id : Nat} {e : UnloadEvent}

lemma requests_answered (hid : s.requests[id]? = some .outstanding) (r : UnloadRequest)
    (id' : Nat) :
    (s.answered id r).requests[id']? = if id' = id then some r else s.requests[id']? := by
  obtain ⟨hlt, -⟩ := List.getElem?_eq_some_iff.1 hid
  show (s.requests.set id r)[id']? = _
  rw [List.getElem?_set]
  by_cases heq : id' = id
  · rw [if_pos heq.symm, if_pos hlt, if_pos heq]
  · rw [if_neg (Ne.symm heq), if_neg heq]

lemma Underway.answered {r : UnloadRequest} (h : s.Underway)
    (hid : s.requests[id]? = some .outstanding)
    (hr : r = .accepted ∨ s.setter ≠ some (.request id)) :
    (s.answered id r).Underway := by
  rcases h with hidle | ⟨id', hsetter, hrequest⟩
  · exact .inl hidle
  refine .inr ⟨id', hsetter, ?_⟩
  rw [requests_answered hid]
  by_cases heq : id' = id
  · rw [if_pos heq]
    rcases hr with rfl | hother
    · exact .inr rfl
    · exact absurd (heq ▸ hsetter) hother
  · rw [if_neg heq]
    exact hrequest

lemma not_justified_failed (hid : s.requests[id]? = some .outstanding)
    (hflag : s.manager.serviceUnloading) (hsetter : s.setter = some (.request id)) :
    ¬ (s.answered id .failed).Justified := by
  intro hjustified
  rcases hjustified.underway hflag with hidle | ⟨id', hsetter', hrequest⟩
  · cases hsetter.symm.trans hidle
  cases hsetter.symm.trans hsetter'
  rw [requests_answered hid, if_pos rfl] at hrequest
  rcases hrequest with hrequest | hrequest <;> cases hrequest

lemma Met.carry (h : s.manager.serviceUnloading → s.Underway) (hmet : s.Met e)
    (hstep : s.step e = some t) (hflag : t.manager.serviceUnloading) : t.Underway := by
  cases e with
  | service e =>
    obtain ⟨m, hm, rfl⟩ := Option.map_eq_some_iff.1 hstep
    rw [manager_served] at hflag
    exact underway_served hm h hflag
  | unloadSystemAbility id found ret =>
    obtain ⟨hid, ⟨⟩⟩ := Option.ite_none_right_eq_some.1 hstep
    refine (h hflag).answered hid ?_
    -- accepted, without a flag to justify, or of no concern to the flag
    rcases hmet with ⟨rfl, rfl⟩ | hcleared | hother
    · exact .inl rfl
    · cases hcleared.symm.trans hflag
    · exact .inr hother

lemma Justified.met (h : t.Justified) (hstep : s.step e = some t) : s.Met e := by
  cases e with
  | service e => trivial
  | unloadSystemAbility id found ret =>
    obtain ⟨hid, ⟨⟩⟩ := Option.ite_none_right_eq_some.1 hstep
    by_cases hok : (found && ret == 0)
    · obtain ⟨hfound, hret⟩ := Bool.and_eq_true_iff.1 hok
      exact .inl ⟨hfound, beq_iff_eq.1 hret⟩
    rw [if_neg hok] at h
    cases hflag : s.manager.serviceUnloading with
    | false => exact .inr (.inl hflag)
    | true => exact .inr (.inr fun hsetter => not_justified_failed hid hflag hsetter h)

theorem run_justified_iff (switchStatus : WakeupModel → Bool) (es : List UnloadEvent) :
    Along step (fun _ _ t => t.Justified) (initial switchStatus) es ↔
      Along step (fun s e _ => s.Met e) (initial switchStatus) es := by
  -- the invariant is the first half of `Justified`, which is all a step needs of the past
  refine along_iff (I := fun s => s.manager.serviceUnloading → s.Underway)
    (P := fun _ => True) (fun s e t h _ hstep => ?_)
      (fun hflag => by cases hflag) fun _ _ => trivial
  constructor
  · exact ⟨fun hjustified => hjustified.met hstep,
      fun hmet => justified_of_underway fun hflag => hmet.carry h hstep hflag⟩
  · exact fun hmet hflag => hmet.carry h hstep hflag

theorem failed_unload_refuses :
    ¬ Along step (fun _ _ t => t.Justified) (initial fun _ => false)
      [.service (.request .unloadIntellVoiceService), .service (.execute {} []),
        .unloadSystemAbility 0 true 1] := by
  intro h
  have hfailed := (((h _ rfl).2 _ rfl).2 _ rfl).1
  have hanswer := (hfailed.served 0 rfl rfl 0).1
  exact absurd hanswer (by decide)

end UnloadingService
end IntellVoice.Service
