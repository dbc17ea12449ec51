import IntellVoice.Wakeup.Detection
import IntellVoice.Wakeup.Fallback
import IntellVoice.Wakeup.Registry

/-! `RefreshActiveDevice` chooses under the mutex and calls back outside it. -/

namespace IntellVoice.Wakeup
open Transition Utils List Option EngineDeviceManager

namespace EngineDeviceManager
variable {d d' : EngineDeviceManager}

def devices (d : EngineDeviceManager) : List WakeupDeviceDetail :=
  d.wakeupDevice :: defaultWakeupDevice :: d.deviceList

structure Identified (d : EngineDeviceManager) : Prop where
  known : ∀ x ∈ d.devices, x.object < d.objects
  unique : ∀ x ∈ d.devices, ∀ y ∈ d.devices, x.object = y.object → x = y

lemma identified_initial : initial.Identified where
  known := by decide
  unique := by decide

lemma Identified.of_subset (h : d.Identified) (hsub : ∀ x ∈ d'.devices, x ∈ d.devices)
    (hobjects : d'.objects = d.objects) : d'.Identified where
  known x hx := hobjects ▸ h.known x (hsub x hx)
  unique x hx y hy := h.unique x (hsub x hx) y (hsub y hy)

lemma Identified.filter (h : d.Identified) (p : WakeupDeviceDetail → Bool) :
    ({ d with deviceList := d.deviceList.filter p } : EngineDeviceManager).Identified := by
  refine h.of_subset (fun x hx => ?_) rfl
  simp only [devices, mem_cons, mem_filter] at hx ⊢
  tauto

variable {second : Bool} {macAddress serviceName : String}

lemma Identified.registerDevice {type : WakeupDeviceType} (h : d.Identified)
    (hd : d.registerDevice macAddress type serviceName second = some d') : d'.Identified := by
  unfold EngineDeviceManager.registerDevice at hd
  split at hd
  · cases hd
  cases hd
  -- the new device has a number of its own
  have hmem : ∀ {x : WakeupDeviceDetail} {device : WakeupDeviceDetail},
      x ∈ d.wakeupDevice :: defaultWakeupDevice ::
        (d.deviceList.filter (·.macAddress ≠ macAddress) ++ [device]) →
      x ∈ d.devices ∨ x = device := by
    intro x device hx
    simp only [devices, mem_cons, mem_append, mem_filter] at hx ⊢
    simp at hx
    tauto
  refine ⟨fun x hx => ?_, fun x hx y hy hobject => ?_⟩
  · show x.object < d.objects + 1
    rcases hmem hx with hold | rfl
    · have hlt := h.known x hold
      omega
    · exact Nat.lt_succ_self _
  · rcases hmem hx with hx | rfl <;> rcases hmem hy with hy | rfl
    · exact h.unique x hx y hy hobject
    · exact absurd hobject (Nat.ne_of_lt (h.known x hx))
    · exact absurd hobject.symm (Nat.ne_of_lt (h.known y hy))
    · rfl

lemma Identified.deregisterDevice (h : d.Identified)
    (hd : d.deregisterDevice macAddress = some d') :
    d'.Identified := by
  unfold EngineDeviceManager.deregisterDevice at hd
  split at hd
  · cases hd
  · cases hd
    exact h.filter _

lemma wakeupDevice_registerDevice {type : WakeupDeviceType}
    (hd : d.registerDevice macAddress type serviceName second = some d') :
    d'.wakeupDevice = d.wakeupDevice := by
  obtain ⟨-, ⟨⟩⟩ := ite_none_left_eq_some.1 hd
  rfl

lemma wakeupDevice_deregisterDevice (hd : d.deregisterDevice macAddress = some d') :
    d'.wakeupDevice = d.wakeupDevice := by
  obtain ⟨-, ⟨⟩⟩ := ite_none_left_eq_some.1 hd
  rfl

lemma Identified.updateAudioDevice (h : d.Identified) (desc : List AudioDeviceDescriptor) :
    (d.updateAudioDevice desc).Identified := by
  cases desc <;> exact ⟨h.known, h.unique⟩

lemma refreshWakeupDevice_mem (d : EngineDeviceManager) :
    d.refreshWakeupDevice.wakeupDevice ∈ d.devices := by
  unfold refreshWakeupDevice devices
  simp only
  split
  · exact mem_cons_of_mem _ (mem_cons_of_mem _ (mem_of_find?_eq_some ‹_›))
  cases hlast : d.deviceList.getLast? with
  | none => simp
  | some device =>
    exact mem_cons_of_mem _ (mem_cons_of_mem _ (mem_of_getLast? hlast))

lemma Identified.refreshWakeupDevice (h : d.Identified) : d.refreshWakeupDevice.Identified := by
  refine h.of_subset (fun x hx => ?_) rfl
  rcases mem_cons.1 hx with rfl | hrest
  · exact refreshWakeupDevice_mem d
  · exact mem_cons_of_mem _ hrest

end EngineDeviceManager

def DetectorEvent.call? : DetectorEvent → Option DeviceCall
  | .registerDevice macAddress type serviceName second =>
    some (.registerDevice macAddress type serviceName second)
  | .deregisterDevice macAddress => some (.deregisterDevice macAddress)
  | .removeByServiceName serviceName => some (.removeByServiceName serviceName)
  | .updateAudioDevice desc => some (.updateAudioDevice desc)
  | .refresh => some .refresh
  | _ => none

namespace Detector
variable {w v : Detector}

structure Holds (w : Detector) (r : Registry) : Prop where
  manager : r.manager = w.manager
  refreshes : r.refreshes = w.refreshes

lemma refreshes_advance {f g : Facade} {e : Facade.FacadeEvent} :
    (w.advance f g e).refreshes = w.refreshes := by
  unfold advance handleCloseWakeupSource
  repeat' split
  all_goals rfl

variable {e : DetectorEvent} {r : Registry}

lemma Holds.begin {task : ServiceTask} (h : w.Holds r) (hv : w.begin task = some v) :
    v.Holds r := by
  unfold Detector.begin at hv
  repeat' split at hv
  all_goals cases hv
  all_goals exact ⟨h.manager, h.refreshes⟩

lemma Holds.step_call {c : DeviceCall} (h : w.Holds r) (hcall : e.call? = some c)
    (hstep : w.step e = some v) : ∃ t, r.step c = some t ∧ v.Holds t := by
  obtain ⟨hmanager, hrefreshes⟩ := h
  cases e <;> cases hcall
  case registerDevice | deregisterDevice =>
    obtain ⟨d, hd, rfl⟩ := map_eq_some_iff.1 hstep
    rw [← hmanager] at hd
    exact ⟨_, map_eq_some_iff.2 ⟨d, hd, rfl⟩, rfl, congrArg (· + 1) hrefreshes⟩
  case removeByServiceName | updateAudioDevice =>
    cases hstep
    refine ⟨_, rfl, ?_, congrArg (· + 1) hrefreshes⟩
    rw [Registry.refreshActiveDevice, hmanager]
    rfl
  case refresh =>
    obtain ⟨hpending, ⟨⟩⟩ := ite_none_left_eq_some.1 hstep
    rw [← hrefreshes] at hpending
    refine ⟨_, if_neg hpending, ?_, congrArg (· - 1) hrefreshes⟩
    rw [hmanager]
    rfl

lemma Holds.step_other (h : w.Holds r) (hcall : e.call? = none) (hstep : w.step e = some v) :
    v.Holds r := by
  cases step_stepped hstep with
  | registerDevice | deregisterDevice | removeByServiceName | updateAudioDevice | refresh =>
    cases hcall
  | @take task queue _ _ hv =>
    have htaken : ({ w with queue } : Detector).Holds r := ⟨h.manager, h.refreshes⟩
    exact htaken.begin hv
  | facade =>
    exact ⟨h.manager.trans manager_advance.symm, h.refreshes.trans refreshes_advance.symm⟩
  | forgotten | notified | post | registered | uninitialized | uncreated | created | detect =>
    exact ⟨h.manager, h.refreshes⟩

lemma run_holds {es : List DetectorEvent} (h : w.Holds r) (hrun : run step w es = some v) :
    ∃ t, run Registry.step r (es.filterMap DetectorEvent.call?) = some t ∧ v.Holds t := by
  induction es generalizing w r with
  | nil =>
    cases hrun
    exact ⟨r, rfl, h⟩
  | cons e es ih =>
    obtain ⟨u, hu, hrest⟩ := run_cons_eq_some.1 hrun
    cases hcall : e.call? with
    | none =>
      rw [filterMap_cons_none hcall]
      exact ih (h.step_other hcall hu) hrest
    | some c =>
      obtain ⟨t, ht, hholds⟩ := h.step_call hcall hu
      obtain ⟨t', ht', hholds'⟩ := ih hholds hrest
      rw [filterMap_cons_some hcall]
      exact ⟨t', run_cons_eq_some.2 ⟨t, ht, ht'⟩, hholds'⟩

variable {f g : Facade} {n : Nat}

def pending (notices : List Notice) (n : Nat) : List WakeupDeviceDetail :=
  (notices.filter (·.engine = n)).map (·.device)

structure Quiet (w : Detector) : Prop where
  refreshes : w.refreshes = 0
  notices : w.notices = []
  facade : ∀ f, w.facade = some f → f.changing = none

/-- The notices of one engine are delivered in the order they were made. -/
def InOrder (w : Detector) : DetectorEvent → Prop
  | .notify index _ => ∀ notice, w.notices[index]? = some notice → w.engine = some notice.engine →
      ∀ earlier ∈ w.notices.take index, earlier.engine ≠ notice.engine
  | _ => True

def making (w : Detector) : Prop := w.executor = .initializing ∨ w.executor = .registered

structure Tracked (w : Detector) : Prop where
  manager : w.manager.Identified
  engine : ∀ n, w.engine = some n → n < w.engines
  notices : ∀ notice ∈ w.notices, notice.engine < w.engines
  making : w.making → w.facade = none
  registered : w.executor = .registered → w.engine ≠ none
  facade : ∀ f, w.facade = some f → w.engine ≠ none ∧ f.OneDevice
  last : ∀ n d, w.engine = some n → (pending w.notices n).getLast? = some d →
    d = w.manager.wakeupDevice
  next : ∀ n f, w.engine = some n → pending w.notices n = [] → w.facade = some f →
    f.nextDevice = some w.manager.wakeupDevice

lemma tracked_initial : Tracked {} where
  manager := identified_initial
  engine n hn := by cases hn
  notices notice hnotice := by cases hnotice
  making _ := rfl
  registered heq := by cases heq
  facade f hf := by cases hf
  last n d hn := by cases hn
  next n f hn := by cases hn

lemma Tracked.sameDevice (h : w.Tracked) (hquiet : w.Quiet) (hf : w.facade = some f) :
    f.wakeupDevice = some w.manager.wakeupDevice := by
  obtain ⟨n, hn⟩ := ne_none_iff_exists'.1 (h.facade f hf).1
  have hpending : pending w.notices n = [] := by rw [pending, hquiet.notices]; rfl
  have hnext := h.next n f hn hpending hf
  rw [Facade.nextDevice, hquiet.facade f hf] at hnext
  exact hnext

lemma Tracked.refreshActiveDevice (h : w.Tracked) {manager : EngineDeviceManager}
    (hmanager : manager.Identified) (hsame : manager.wakeupDevice = w.manager.wakeupDevice) :
    (w.refreshActiveDevice manager).Tracked where
  manager := hmanager
  engine := h.engine
  notices := h.notices
  making := h.making
  registered := h.registered
  facade := h.facade
  last n d hn hlast := (h.last n d hn hlast).trans hsame.symm
  next n f hn hpending hf := (h.next n f hn hpending hf).trans (congrArg some hsame.symm)

lemma Tracked.notifyCallbacksIfChanged (h : w.Tracked) : w.notifyCallbacksIfChanged.Tracked := by
  have hmanager := h.manager.refreshWakeupDevice
  by_cases hobject : w.manager.refreshWakeupDevice.wakeupDevice.object =
    w.manager.wakeupDevice.object
  · have hsame : w.manager.refreshWakeupDevice.wakeupDevice = w.manager.wakeupDevice :=
      h.manager.unique _ (refreshWakeupDevice_mem _) _ mem_cons_self hobject
    have hnotices : w.notifyCallbacksIfChanged.notices = w.notices := by
      simp [Detector.notifyCallbacksIfChanged, hobject]
    have hpending : ∀ n, pending w.notifyCallbacksIfChanged.notices n = pending w.notices n := by
      intro n
      rw [pending, hnotices, pending]
    refine ⟨hmanager, h.engine, hnotices ▸ h.notices, h.making, h.registered, h.facade, ?_, ?_⟩
    · intro n d hn hlast
      rw [hpending] at hlast
      exact (h.last n d hn hlast).trans hsame.symm
    · intro n f hn hnone hf
      rw [hpending] at hnone
      exact (h.next n f hn hnone hf).trans (congrArg some hsame.symm)
  · have hnotices : w.notifyCallbacksIfChanged.notices = w.notices ++
        (w.engine.map fun n => ⟨n, w.manager.refreshWakeupDevice.wakeupDevice⟩).toList := by
      simp [Detector.notifyCallbacksIfChanged, hobject]
    -- the new choice comes after all that are on their way
    have hpending : ∀ n, w.engine = some n → pending w.notifyCallbacksIfChanged.notices n =
        pending w.notices n ++ [w.manager.refreshWakeupDevice.wakeupDevice] := by
      intro n hn
      rw [pending, hnotices, hn]
      simp [pending]
    refine ⟨hmanager, h.engine, ?_, h.making, h.registered, h.facade, ?_, ?_⟩
    · intro notice hnotice
      rw [hnotices] at hnotice
      rcases mem_append.1 hnotice with hold | hnew
      · exact h.notices notice hold
      · obtain ⟨n, hn, rfl⟩ := map_eq_some_iff.1 (mem_toList.1 hnew)
        exact h.engine n hn
    · intro n d hn hlast
      rw [hpending n hn, getLast?_concat] at hlast
      exact (some.inj hlast).symm
    · intro n f hn hnone
      rw [hpending n hn] at hnone
      exact absurd hnone (append_ne_nil_of_right_ne_nil _ (cons_ne_nil _ _))

variable {queue : BoundedQueue ServiceTask Service.maxTaskNum} {executor : Executor}
  {notices : List Notice} {index : Nat} {notice : Notice}

lemma Tracked.setExecutor (h : w.Tracked) {detections : List (Option Answer)}
    (hmaking : executor = .initializing → w.facade = none) (hregistered : executor ≠ .registered) :
    ({ w with executor, queue, detections } : Detector).Tracked :=
  ⟨h.manager, h.engine, h.notices, fun hmake => hmaking (hmake.resolve_right hregistered),
    fun heq => absurd heq hregistered, h.facade, h.last, h.next⟩

lemma Tracked.setQueue (h : w.Tracked) : ({ w with queue } : Detector).Tracked :=
  ⟨h.manager, h.engine, h.notices, h.making, h.registered, h.facade, h.last, h.next⟩

lemma Tracked.not_making (h : w.Tracked) (hf : w.facade = some f) : ¬ w.making := by
  intro hmaking
  rw [h.making hmaking] at hf
  cases hf

lemma Tracked.setFacade (h : w.Tracked) (hf : w.facade = some f) (hsame : f.SameDevice g) :
    ({ w with facade := some g } : Detector).Tracked where
  manager := h.manager
  engine := h.engine
  notices := h.notices
  making hmaking := absurd hmaking (h.not_making hf)
  registered := h.registered
  facade f' hf' := by
    cases hf'
    exact ⟨(h.facade f hf).1, hsame.oneDevice⟩
  last := h.last
  next n f' hn hnone hf' := by
    cases hf'
    exact hsame.next.trans (h.next n f hn hnone hf)

lemma advance_eq (w : Detector) (f g : Facade) (e : Facade.FacadeEvent) :
    ∃ executor queue detections,
      w.advance f g e = { w with facade := some g, executor, queue, detections } ∧
      (executor = w.executor ∨ executor = .idle ∨ ∃ answer, executor = .detecting answer) := by
  unfold advance handleCloseWakeupSource
  cases hexec : w.executor
  all_goals
    simp only
    repeat' split
    all_goals exact ⟨_, _, _, rfl, by simp [hexec]⟩

lemma Tracked.advance (h : w.Tracked) {e : Facade.FacadeEvent} (hf : w.facade = some f)
    (he : ∀ info a, e ≠ .request (.deviceChange info a)) (hstep : f.step e = some g) :
    (w.advance f g e).Tracked := by
  obtain ⟨executor, queue, detections, heq, hexec⟩ := advance_eq w f g e
  rw [heq]
  have hsame := (h.facade f hf).2.step he hstep
  have hnot : ∀ st : Executor, st = .initializing ∨ st = .registered → executor ≠ st := by
    rintro st hst rfl
    rcases hexec with rfl | rfl | ⟨answer, rfl⟩
    · exact h.not_making hf hst
    · rcases hst with hst | hst <;> cases hst
    · rcases hst with hst | hst <;> cases hst
  exact (h.setFacade hf hsame).setExecutor (fun hinit => absurd hinit (hnot _ (.inl rfl)))
    (hnot _ (.inr rfl))

lemma Tracked.unregister (h : w.Tracked) (hregistered : executor ≠ .registered) :
    ({ w with executor, engine := none, facade := none } : Detector).Tracked where
  manager := h.manager
  engine n hn := by cases hn
  notices := h.notices
  making _ := rfl
  registered heq := absurd heq hregistered
  facade f hf := by cases hf
  last n d hn := by cases hn
  next n f hn := by cases hn

lemma Tracked.begin {task : ServiceTask} (h : w.Tracked) (hidle : w.executor = .idle)
    (hv : w.begin task = some v) : v.Tracked := by
  cases task with
  | onDetected uuid =>
    simp only [Detector.begin] at hv
    split at hv <;> cases hv
    · exact h.setQueue
    · exact h.setExecutor (fun heq => by cases heq) (fun heq => by cases heq)
  | createEngine =>
    simp only [Detector.begin] at hv
    split at hv <;> cases hv
    · exact h
    · exact h.setExecutor (fun _ => not_isSome_iff_eq_none.1 ‹_›) (fun heq => by cases heq)
  | releaseEngine =>
    simp only [Detector.begin] at hv
    split at hv
    · cases hv
      exact h
    · obtain ⟨-, ⟨⟩⟩ := ite_none_right_eq_some.1 hv
      exact h.unregister (fun heq => by cases hidle.symm.trans heq)
  | handleCloseWakeupSource | other =>
    cases hv
    exact h

lemma split_at (hnotice : notices[index]? = some notice) :
    notices = notices.take index ++ notice :: notices.drop (index + 1) := by
  obtain ⟨hindex, hget⟩ := List.getElem?_eq_some_iff.1 hnotice
  rw [← hget, List.getElem_cons_drop, take_append_drop]

lemma pending_eraseIdx (hnotice : notices[index]? = some notice)
    (hfirst : ∀ earlier ∈ notices.take index, earlier.engine ≠ notice.engine) :
    pending notices notice.engine =
      notice.device :: pending (notices.eraseIdx index) notice.engine := by
  have hnone : (notices.take index).filter (·.engine = notice.engine) = [] := by
    apply filter_eq_nil_iff.2
    intro earlier hearlier
    simpa using hfirst earlier hearlier
  unfold pending
  rw [eraseIdx_eq_take_drop_succ]
  conv_lhs => rw [split_at hnotice]
  simp [hnone]

lemma pending_eraseIdx_of_ne (hnotice : notices[index]? = some notice) (hne : notice.engine ≠ n) :
    pending (notices.eraseIdx index) n = pending notices n := by
  unfold pending
  rw [eraseIdx_eq_take_drop_succ]
  conv_rhs => rw [split_at hnotice]
  simp [hne]

lemma Tracked.eraseNotice (h : w.Tracked) (hnotice : w.notices[index]? = some notice)
    (hengine : w.engine ≠ some notice.engine) :
    ({ w with notices := w.notices.eraseIdx index } : Detector).Tracked := by
  have hpending : ∀ n, w.engine = some n →
      pending (w.notices.eraseIdx index) n = pending w.notices n := by
    intro n hn
    apply pending_eraseIdx_of_ne hnotice
    rintro rfl
    exact hengine hn
  refine ⟨h.manager, h.engine, fun n hn => h.notices n (mem_of_mem_eraseIdx hn),
    h.making, h.registered, h.facade, ?_, ?_⟩
  · intro n d hn hlast
    rw [hpending n hn] at hlast
    exact h.last n d hn hlast
  · intro n f hn hnone
    rw [hpending n hn] at hnone
    exact h.next n f hn hnone

lemma Tracked.notify (h : w.Tracked) {a : CreateAnswers} (hnotice : w.notices[index]? = some notice)
    (hengine : w.engine = some notice.engine)
    (hfirst : ∀ earlier ∈ w.notices.take index, earlier.engine ≠ notice.engine)
    (hf : w.facade = some f) (hstep : f.step (.request (.deviceChange notice.device a)) = some g) :
    ({ w with notices := w.notices.eraseIdx index, facade := some g } : Detector).Tracked := by
  obtain ⟨hone, hnext⟩ := Facade.step_deviceChange hstep
  have hpending := pending_eraseIdx hnotice hfirst
  refine ⟨h.manager, h.engine, fun n hn => h.notices n (mem_of_mem_eraseIdx hn),
    fun hmaking => absurd hmaking (h.not_making hf), h.registered, ?_, ?_, ?_⟩
  · rintro f' ⟨⟩
    exact ⟨(h.facade f hf).1, hone⟩
  · intro n d hn hlast
    obtain rfl := some.inj (hengine.symm.trans hn)
    refine h.last _ d hn ?_
    rw [hpending, getLast?_cons, hlast]
    rfl
  · rintro n f' hn hnone ⟨⟩
    obtain rfl := some.inj (hengine.symm.trans hn)
    -- it was the only one
    have hlast : (pending w.notices notice.engine).getLast? = some notice.device := by
      rw [hpending, hnone]
      rfl
    exact hnext.trans (congrArg some (h.last _ _ hn hlast))

lemma Tracked.register (h : w.Tracked) (hexec : w.executor = .initializing) :
    ({ w with executor := .registered, engine := some w.engines, engines := w.engines + 1 } :
      Detector).Tracked := by
  have hpending : pending w.notices w.engines = [] := by
    unfold pending
    rw [map_eq_nil_iff, filter_eq_nil_iff]
    intro notice hnotice
    have hlt := h.notices notice hnotice
    simp only [decide_eq_true_eq]
    omega
  have hfacade : w.facade = none := h.making (.inl hexec)
  refine ⟨h.manager, ?_, ?_, fun _ => hfacade, (fun _ hnone => by cases hnone), ?_, ?_, ?_⟩
  · rintro n ⟨⟩
    exact Nat.lt_succ_self _
  · intro notice hnotice
    have hlt := h.notices notice hnotice
    show notice.engine < w.engines + 1
    omega
  · intro f hf
    cases hfacade.symm.trans hf
  · rintro n d ⟨⟩ hlast
    have hlast : (pending w.notices w.engines).getLast? = some d := hlast
    rw [hpending] at hlast
    cases hlast
  · intro n f _ _ hf
    cases hfacade.symm.trans hf

lemma Tracked.createEngineImpl (h : w.Tracked) (hexec : w.executor = .registered)
    (type : ProcessType) (a : CreateAnswers) : ({ w with
        executor := .creating
        facade := some (Facade.initial type w.manager.wakeupDevice a) } : Detector).Tracked where
  manager := h.manager
  engine := h.engine
  notices := h.notices
  making hmaking := by rcases hmaking with heq | heq <;> cases heq
  registered heq := by cases heq
  facade f hf := by
    cases hf
    exact ⟨h.registered hexec, fun c hc => by cases hc⟩
  last := h.last
  next n f hn hnone hf := by
    cases hf
    rfl

lemma step_tracked {e : DetectorEvent} (h : w.Tracked) (horder : w.InOrder e)
    (hstep : w.step e = some v) : v.Tracked := by
  cases step_stepped hstep with
  | registerDevice hd =>
    exact h.refreshActiveDevice (h.manager.registerDevice hd)
      (wakeupDevice_registerDevice hd)
  | deregisterDevice hd =>
    exact h.refreshActiveDevice (h.manager.deregisterDevice hd)
      (wakeupDevice_deregisterDevice hd)
  | removeByServiceName => exact h.refreshActiveDevice (h.manager.filter _) rfl
  | updateAudioDevice desc =>
    exact h.refreshActiveDevice (h.manager.updateAudioDevice desc) (by cases desc <;> rfl)
  | refresh => exact h.notifyCallbacksIfChanged
  | forgotten hnotice hgone => exact h.eraseNotice hnotice hgone
  | @notified index a notice f g hnotice hengine hf hg =>
    exact h.notify hnotice hengine (horder notice hnotice hengine) hf hg
  | post task => exact h.setQueue
  | @take task queue _ hidle hv =>
    have htaken : ({ w with queue } : Detector).Tracked := h.setQueue
    exact htaken.begin hidle hv
  | registered hexec => exact h.register hexec
  | uninitialized => exact h.setExecutor (fun heq => by cases heq) (fun heq => by cases heq)
  | uncreated hexec =>
    have hnone : w.facade = none := h.making (.inr hexec)
    have hgone : ({ w with executor := .idle, engine := none, facade := none } :
        Detector).Tracked := h.unregister (fun heq => by cases heq)
    rw [← hnone] at hgone
    exact hgone
  | @created type a hexec => exact h.createEngineImpl hexec type a
  | detect _ hf hg =>
    have hsame := (h.facade _ hf).2.step (fun _ _ heq => by cases heq) hg
    exact (h.setFacade hf hsame).setExecutor (fun heq => by cases heq) (fun heq => by cases heq)
  | facade hf hothers hg =>
    refine h.advance hf ?_ hg
    rintro info a rfl
    cases hothers

theorem run_wakeupDevice {es : List DetectorEvent}
    (horder : Along step (fun w e _ => w.InOrder e) {} es) (hrun : run step {} es = some w)
    (hquiet : w.Quiet) (hf : w.facade = some f) :
    f.wakeupDevice = some w.manager.wakeupDevice := by
  have hstep : ∀ w e v, Tracked w → w.InOrder e → step w e = some v → v.Tracked :=
    fun _ _ _ h horder hs => step_tracked h horder hs
  have htracked : w.Tracked := run_invariant hstep tracked_initial horder hrun
  exact htracked.sameDevice hquiet hf

def headsetConnected : List DetectorEvent :=
  [.post .createEngine, .take, .initDefaultImpl true, .createEngineImpl .idle ⟨true, true, true⟩,
    .facade .proceed, .facade .proceed, .registerDevice "headset" .headset "service" true, .refresh,
    .updateAudioDevice [⟨false, "headset"⟩], .refresh]

theorem run_wakeupDevice_headset :
    ∃ w f, run step {} (headsetConnected ++ [.notify 0 ⟨true, true, true⟩, .facade .proceed]) =
      some w ∧
      w.Quiet ∧ w.facade = some f ∧ f.wakeupDevice = some w.manager.wakeupDevice := by
  let told : List DetectorEvent := [.notify 0 ⟨true, true, true⟩, .facade .proceed]
  have hquiet : ∃ w f, run step {} (headsetConnected ++ told) = some w ∧ w.Quiet ∧
      w.facade = some f := by
    refine ⟨_, _, rfl, ⟨rfl, rfl, ?_⟩, rfl⟩
    rintro f ⟨⟩
    rfl
  obtain ⟨w, f, hrun, hquiet, hf⟩ := hquiet
  refine ⟨w, f, hrun, hquiet, hf, run_wakeupDevice ?_ hrun hquiet hf⟩
  repeat' first
    | exact along_nil _
    | refine .of_step rfl trivial ?_
    | refine .of_step rfl (fun _ _ _ _ hearlier => by cases hearlier) ?_

theorem overtaken_notice_leaves_headset :
    ¬ ∀ es w f, run step {} es = some w → w.Quiet → w.facade = some f →
      f.wakeupDevice = some w.manager.wakeupDevice := by
  intro h
  let overtaken : List DetectorEvent :=
    [.updateAudioDevice [], .refresh, .notify 1 ⟨true, true, true⟩, .facade .proceed,
      .facade .proceed, .notify 0 ⟨true, true, true⟩, .facade .proceed]
  have hsame := h (headsetConnected ++ overtaken) _ _ rfl ⟨rfl, rfl, ?_⟩ rfl
  · exact absurd hsame (by decide)
  · rintro f ⟨⟩
    rfl

end Detector
end IntellVoice.Wakeup
