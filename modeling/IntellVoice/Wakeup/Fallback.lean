import IntellVoice.Wakeup.Exclusion

/-! The facade keeps the device beside the implementation made for it. -/

namespace IntellVoice.Wakeup
open Transition

def Command.device? : Command → Option WakeupDeviceDetail
  | .destroy info _ | .drop info _ | .create info _ => some info
  | _ => none

def Command.installs : Command → Bool
  | .destroy .. | .drop .. | .create .. | .init _ => true
  | _ => false

lemma Command.device?_of_installs {c : Command} (h : c.installs = false) : c.device? = none := by
  cases c <;> first | rfl | cases h

namespace Facade
variable {f g : Facade} {t : Target} {i : Impl} {c : Command} {rest : List Command}

def changing (f : Facade) : Option WakeupDeviceDetail := f.job.head?.bind Command.device?

def nextDevice (f : Facade) : Option WakeupDeviceDetail := f.changing <|> f.wakeupDevice

def OneDevice (f : Facade) : Prop := ∀ c ∈ f.job.tail, c.installs = false

def Installed (f : Facade) : Prop := ∀ c ∈ f.job, c.installs = false

lemma Installed.changing (h : f.Installed) : f.changing = none := by
  unfold Facade.changing
  cases hjob : f.job with
  | nil => rfl
  | cons c rest => exact Command.device?_of_installs (h c (by simp [hjob]))

lemma Installed.oneDevice (h : f.Installed) : f.OneDevice :=
  fun c hc => h c (List.mem_of_mem_tail hc)

structure Calm (f g : Facade) : Prop where
  installed : g.Installed
  wakeupDevice : g.wakeupDevice = f.wakeupDevice

variable {a : CreateAnswers} {st : EngineState} {e : FacadeEvent} {uuid : Int} {m : StateMsg}
  {info : WakeupDeviceDetail}

lemma wakeupDevice_onStateChange {type : ProcessType} :
    (f.onStateChange st type).wakeupDevice = f.wakeupDevice := by
  unfold onStateChange
  repeat' split
  all_goals rfl

lemma calm_called (hrest : ∀ c ∈ rest, c.installs = false) : f.Calm (f.called t i m rest) := by
  refine ⟨?_, by cases t <;> rfl⟩
  unfold Installed called
  simp only
  split
  · exact hrest
  · exact List.forall_mem_cons.2 ⟨rfl, hrest⟩

lemma Triggered.calm {macAddress : String} {a : StartAnswers}
    (htriggered : f.Triggered uuid macAddress a rest g) (hrest : ∀ c ∈ rest, c.installs = false) :
    f.Calm g := by
  cases htriggered with
  | closed | foreign | swallowed => exact ⟨hrest, rfl⟩
  | phone | accessory => exact ⟨List.forall_mem_cons.2 ⟨rfl, hrest⟩, rfl⟩

lemma Proceeded.calm (hproceeded : f.Proceeded c rest g) (hc : c.installs = false)
    (hrest : ∀ c ∈ rest, c.installs = false) : f.Calm g := by
  cases hproceeded with
  | handle | started => exact calm_called hrest
  | @refused i m =>
    have hcalled : f.Calm (f.called .phone i m rest) := calm_called hrest
    exact ⟨hcalled.installed, hcalled.wakeupDevice⟩
  | await | unrouted | unannounced => exact ⟨hrest, rfl⟩
  | routed | announce => exact ⟨List.forall_mem_cons.2 ⟨rfl, hrest⟩, rfl⟩
  | trigger htriggered => exact htriggered.calm hrest
  | destroy | drop | create | init | fallback => cases hc

lemma installed_handle (m m' : StateMsg) : ∀ c ∈ f.handle m m', c.installs = false := by
  unfold Facade.handle
  repeat' split
  all_goals simp [Command.installs]

lemma installed_saveCallback (cb : Option Nat) : ∀ c ∈ f.saveCallback cb, c.installs = false := by
  unfold saveCallback
  cases f.wakeupTarget <;> simp [Command.installs]

lemma Installed.step (h : f.Installed) (he : ∀ info a, e ≠ .request (.deviceChange info a))
    (hstep : f.step e = some g) : f.Calm g := by
  cases step_cases hstep with
  | handle => exact ⟨installed_handle _ _, rfl⟩
  | saveCallback => exact ⟨installed_saveCallback _, rfl⟩
  | trigger => exact ⟨by simp [Installed, Command.installs], rfl⟩
  | deviceChange => exact absurd rfl (he _ _)
  | @proceed c rest _ hjob hproceeded =>
    exact hproceeded.calm (h c (by simp [hjob])) fun c' hc' => h c' (by simp [hjob, hc'])
  | internal =>
    refine ⟨?_, wakeupDevice_setImpl⟩
    rw [Installed, job_setImpl]
    exact h
  | report =>
    refine ⟨?_, wakeupDevice_onStateChange.trans wakeupDevice_setImpl⟩
    rw [Installed, job_onStateChange, job_setImpl]
    exact h

structure SameDevice (f g : Facade) : Prop where
  oneDevice : g.OneDevice
  next : g.nextDevice = f.nextDevice

lemma Calm.sameDevice (h : f.Calm g) (hf : f.changing = none) : f.SameDevice g where
  oneDevice := h.installed.oneDevice
  next := by
    show (g.changing <|> g.wakeupDevice) = (f.changing <|> f.wakeupDevice)
    rw [hf, h.installed.changing, h.wakeupDevice]

lemma Created.sameDevice (hcreated : f.Created info a rest g) (hf : f.nextDevice = some info)
    (hrest : ∀ c ∈ rest, c.installs = false) : f.SameDevice g := by
  have hannounce : ∀ c ∈ Command.announce :: rest, c.installs = false :=
    List.forall_mem_cons.2 ⟨rfl, hrest⟩
  cases hcreated with
  | phone | failed => exact ⟨hrest, hf.symm⟩
  | accessory => exact ⟨hannounce, hf.symm⟩
  | unknown =>
    have hinstalled : Installed { f with wakeupDevice := some info, job := rest } := hrest
    refine ⟨hinstalled.oneDevice, ?_⟩
    rw [nextDevice, hinstalled.changing, hf]
    rfl

lemma Proceeded.sameDevice (hproceeded : f.Proceeded c rest g) (hjob : f.job = c :: rest)
    (hrest : ∀ c ∈ rest, c.installs = false) : f.SameDevice g := by
  have hchanging : f.changing = c.device? := by
    rw [changing, hjob, List.head?_cons, Option.bind_some]
  cases hc : c.installs with
  | false =>
    exact (hproceeded.calm hc hrest).sameDevice (hchanging.trans (c.device?_of_installs hc))
  | true =>
    have hnext : ∀ {info : WakeupDeviceDetail}, c.device? = some info →
      f.nextDevice = some info := by
      intro info hinfo
      rw [nextDevice, hchanging, hinfo]
      rfl
    cases hproceeded with
    | destroy | drop => exact ⟨hrest, (hnext rfl).symm⟩
    | create hcreated => exact hcreated.sameDevice (hnext rfl) hrest
    | init => exact (calm_called hrest).sameDevice hchanging
    | fallback =>
      have hcalm : f.Calm { f with wakeupImpl := .phone, job := rest } := ⟨hrest, rfl⟩
      exact hcalm.sameDevice hchanging
    | _ => cases hc

lemma OneDevice.of_job (h : f.OneDevice) (hjob : g.job = f.job)
    (hdevice : g.wakeupDevice = f.wakeupDevice) : f.SameDevice g where
  oneDevice := by
    rw [OneDevice, hjob]
    exact h
  next := by
    show (g.job.head?.bind _ <|> g.wakeupDevice) = (f.job.head?.bind _ <|> f.wakeupDevice)
    rw [hjob, hdevice]

lemma OneDevice.step (h : f.OneDevice) (he : ∀ info a, e ≠ .request (.deviceChange info a))
    (hstep : f.step e = some g) : f.SameDevice g := by
  have hidle : f.job = [] → f.SameDevice g := by
    intro hjob
    have hinstalled : f.Installed := by simp [Installed, hjob]
    exact (hinstalled.step he hstep).sameDevice hinstalled.changing
  cases step_cases hstep with
  | handle hjob | saveCallback hjob | trigger hjob => exact hidle hjob
  | deviceChange => exact absurd rfl (he _ _)
  | proceed hjob hproceeded =>
    refine hproceeded.sameDevice hjob fun c hc => h c ?_
    rw [hjob]
    exact hc
  | internal => exact h.of_job job_setImpl wakeupDevice_setImpl
  | report =>
    exact h.of_job (job_onStateChange.trans job_setImpl)
      (wakeupDevice_onStateChange.trans wakeupDevice_setImpl)

lemma step_deviceChange (hstep : f.step (.request (.deviceChange info a)) = some g) :
    g.OneDevice ∧ g.nextDevice = some info := by
  cases step_cases hstep with
  | deviceChange =>
    unfold OneDevice nextDevice changing updateWakeupEngineImpl
    split <;> exact ⟨by simp, rfl⟩

lemma run_oneDevice {es : List FacadeEvent} {type : ProcessType} {device : WakeupDeviceDetail}
    (hrun : run step (initial type device a) es = some f) : f.OneDevice := by
  have hstep : ∀ f e g, OneDevice f → step f e = some g → OneDevice g := by
    intro f e g h hs
    by_cases he : ∃ info a, e = .request (.deviceChange info a)
    · obtain ⟨info, a, rfl⟩ := he
      exact (step_deviceChange hs).1
    · exact (h.step (fun info a heq => he ⟨info, a, heq⟩) hs).oneDevice
  exact run_invariant_all hstep (fun c hc => by cases hc) hrun

structure FallenBack (device : Option WakeupDeviceDetail) (f : Facade) : Prop where
  wakeupImpl : f.wakeupImpl = .phone
  wakeupDevice : f.wakeupDevice = device
  installed : f.Installed

variable {device : Option WakeupDeviceDetail}

lemma target_of_phone (h : f.wakeupImpl = .phone) (hi : f.impl t = some i) : t = .phone := by
  cases t with
  | phone => rfl
  | accessory =>
    rw [impl_accessory, h] at hi
    cases hi

lemma wakeupImpl_called (h : f.wakeupImpl = .phone) (hi : f.impl t = some i) :
    (f.called t i m rest).wakeupImpl = .phone := by
  obtain rfl := target_of_phone h hi
  exact h

lemma wakeupImpl_onStateChange {type : ProcessType} :
    (f.onStateChange st type).wakeupImpl = f.wakeupImpl := by
  unfold onStateChange
  repeat' split
  all_goals rfl

lemma FallenBack.step (h : f.FallenBack device) (he : ∀ info a, e ≠ .request (.deviceChange info a))
    (hstep : f.step e = some g) : g.FallenBack device := by
  have hcalm := h.installed.step he hstep
  refine ⟨?_, hcalm.wakeupDevice.trans h.wakeupDevice, hcalm.installed⟩
  have hphone := h.wakeupImpl
  cases step_cases hstep with
  | handle | saveCallback | trigger => exact hphone
  | deviceChange => exact absurd rfl (he _ _)
  | @proceed c rest _ hjob hproceeded =>
    have hc : c.installs = false := h.installed c (by simp [hjob])
    cases hproceeded with
    | handle hi | started hi => exact wakeupImpl_called hphone hi
    | refused | await | unrouted | unannounced | routed | announce => exact hphone
    | trigger htriggered =>
      cases htriggered with
      | closed | foreign | swallowed | phone => exact hphone
      | accessory _ _ _ hwakeup => cases hphone.symm.trans hwakeup
    | destroy | drop | create | init | fallback => cases hc
  | internal hi =>
    obtain rfl := target_of_phone hphone hi
    exact hphone
  | report hi =>
    obtain rfl := target_of_phone hphone hi
    exact wakeupImpl_onStateChange.trans hphone

lemma OneDevice.fallenBack {ret : Int} {f' : Facade} (h : f.OneDevice)
    (hjob : f.job = .init m :: rest) (hcall : f.call .accessory m rest = some (ret, f'))
    (hret : ret ≠ 0) (hstep : f.step .proceed = some g) : g.FallenBack f.wakeupDevice := by
  have hrest : ∀ c ∈ rest, c.installs = false := by
    intro c hc
    apply h c
    rw [hjob]
    exact hc
  have hg : g = { f' with wakeupImpl := .phone, job := rest } := by
    have hproceed : f.proceed = some { f' with wakeupImpl := .phone, job := rest } := by
      simp [proceed, hjob, hcall, hret]
    exact Option.some.inj (hstep.symm.trans hproceed)
  obtain ⟨i, -, -, hr⟩ := call_eq_some hcall
  obtain ⟨-, rfl⟩ := Prod.mk.inj hr
  rw [hg]
  exact ⟨rfl, (calm_called hrest).wakeupDevice, hrest⟩

lemma FallenBack.trigger_iff {a : StartAnswers} (h : f.FallenBack device)
    (hjob : f.job = .trigger uuid defaultMacAddress a :: rest)
    (huuid : uuid ≠ proximalWakeupModelUuid) (hcheck : f.curState.inProcess = false) :
    f.step .proceed = some (f.startPhone uuid a rest) ↔
      device.map (·.macAddress) = some defaultMacAddress := by
  have hstep : f.step .proceed = some (f.onWakeupDetected uuid defaultMacAddress a rest) := by
    simp [Facade.step, proceed, hjob, onTriggerDetected, hcheck, huuid]
  rw [hstep, Option.some_inj]
  unfold onWakeupDetected
  rw [h.wakeupDevice]
  cases device with
  | none =>
    refine ⟨fun heq => ?_, fun heq => by cases heq⟩
    have hlist : rest = _ :: rest := congrArg Facade.job heq
    exact absurd hlist (List.cons_ne_self _ _).symm
  | some d =>
    by_cases hmac : defaultMacAddress = d.macAddress
    · simp [← hmac, h.wakeupImpl]
    -- device conflict
    simp only [hmac, ne_eq, not_false_iff, if_true, Option.map_some, Option.some_inj]
    refine ⟨fun heq => ?_, fun heq => absurd heq.symm hmac⟩
    have hlist : rest = _ :: rest := congrArg Facade.job heq
    exact absurd hlist (List.cons_ne_self _ _).symm

theorem run_fallback_iff (type : ProcessType) (device : WakeupDeviceDetail)
    (answers : CreateAnswers)
    (es es' : List FacadeEvent) {f f' g u : Facade} {m : StateMsg} {rest rest' : List Command}
    {ret : Int} {uuid : Int} {a : StartAnswers}
    (hrun : run step (initial type device answers) es = some f)
    (hjob : f.job = .init m :: rest) (hcall : f.call .accessory m rest = some (ret, f'))
    (hret : ret ≠ 0) (hinit : f.step .proceed = some g)
    (hrun' : run step g es' = some u)
    (hkept : ∀ e ∈ es', ∀ info a, e ≠ .request (.deviceChange info a))
    (htrigger : u.job = .trigger uuid defaultMacAddress a :: rest')
    (huuid : uuid ≠ proximalWakeupModelUuid) (hcheck : u.curState.inProcess = false) :
    u.step .proceed = some (u.startPhone uuid a rest') ↔
      f.wakeupDevice.map (·.macAddress) = some defaultMacAddress := by
  have hfallen : g.FallenBack f.wakeupDevice :=
    (run_oneDevice hrun).fallenBack hjob hcall hret hinit
  have hstep : ∀ h e k, FallenBack f.wakeupDevice h →
      (∀ info a, e ≠ .request (.deviceChange info a)) → step h e = some k →
      FallenBack f.wakeupDevice k := fun _ _ _ h he hs => h.step he hs
  have hafter : u.FallenBack f.wakeupDevice := run_invariant_mem hstep hfallen hkept hrun'
  exact hafter.trigger_iff htrigger huuid hcheck

def headset (macAddress : String) : WakeupDeviceDetail := { type := .headset, macAddress }

def initHeadset (macAddress : String) : Facade :=
  (initial .idle (headset macAddress) ⟨true, false, false⟩).createEngineImpl (headset macAddress)
    ⟨true, false, false⟩ []

def detection : List FacadeEvent :=
  [.proceed, .internal .phone (.initDone (some 0)), .report .phone,
    .request (.trigger 1 defaultMacAddress ⟨true, true, true⟩)]

theorem run_fallback_phone_address :
    ∃ g u, (initHeadset defaultMacAddress).step .proceed = some g ∧ run step g detection = some u ∧
      u.step .proceed = some (u.startPhone 1 ⟨true, true, true⟩ []) := by
  refine ⟨_, _, rfl, rfl, ?_⟩
  refine (run_fallback_iff .idle (headset defaultMacAddress) ⟨true, false, false⟩
    [.proceed] detection
    (f := initHeadset defaultMacAddress) rfl rfl rfl ?_ rfl rfl ?_ rfl ?_ rfl).2 rfl
  · decide
  · simp [detection]
  · decide

theorem fallback_refuses_detection :
    ∃ f' ret g u, run step (initial .idle (headset "headset") ⟨true, false, false⟩) [.proceed] =
        some (initHeadset "headset") ∧
      (initHeadset "headset").call .accessory (.init false false) [.announce] = some (ret, f') ∧
      ret ≠ 0 ∧ (initHeadset "headset").step .proceed = some g ∧ run step g detection = some u ∧
      u.job = [.trigger 1 defaultMacAddress ⟨true, true, true⟩] ∧ u.curState.inProcess = false ∧
      u.phone.state = .initialized ∧
      u.step .proceed ≠ some (u.startPhone 1 ⟨true, true, true⟩ []) := by
  refine ⟨_, _, _, _, rfl, rfl, by decide, rfl, rfl, rfl, rfl, rfl, fun heq => ?_⟩
  have hjob : some [] = some [_] := congrArg (Option.map Facade.job) heq
  cases hjob

end Facade
end IntellVoice.Wakeup
