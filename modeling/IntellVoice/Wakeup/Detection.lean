import IntellVoice.Service.Engines
import IntellVoice.Wakeup.DeviceManager
import IntellVoice.Wakeup.Engine
import IntellVoice.Wakeup.Exclusion

/-! When the trigger model has detected the wakeup word it stops. -/

namespace IntellVoice.Wakeup
open Transition Utils List Option Facade

inductive ServiceTask where
  | onDetected (uuid : Int)
  | handleCloseWakeupSource (isNeedStop : Bool)
  | createEngine
  | releaseEngine
  | other

inductive Answer where
  | recognizing
  | closed
deriving DecidableEq

inductive Executor where
  | idle
  | initializing
  | registered
  | creating
  | waiting (uuid : Int)
  | detecting (answer : Option Answer)

structure Notice where
  engine : Nat
  device : WakeupDeviceDetail

/-- The device manager, its notices and the wakeup engine they reach. -/
structure Detector where
  manager : EngineDeviceManager := .initial
  refreshes : Nat := 0
  notices : List Notice := []
  engine : Option Nat := none
  engines : Nat := 0
  facade : Option Facade := none
  queue : BoundedQueue ServiceTask Service.maxTaskNum := ∅
  executor : Executor := .idle
  detections : List (Option Answer) := []

inductive DetectorEvent where
  | registerDevice (macAddress : String) (type : WakeupDeviceType) (serviceName : String)
      (needSecondStageWakeup : Bool)
  | deregisterDevice (macAddress : String)
  | removeByServiceName (serviceName : String)
  | updateAudioDevice (desc : List AudioDeviceDescriptor)
  | refresh
  | notify (index : Nat) (answers : CreateAnswers)
  | post (task : ServiceTask)
  | take
  | initDefaultImpl (initialized : Bool)
  | createEngineImpl (type : ProcessType) (answers : CreateAnswers)
  | detect (answers : StartAnswers)
  | facade (e : Facade.FacadeEvent)

def voiceWakeupModelUuid : Int := 1

def Facade.FacadeEvent.fromOthers : Facade.FacadeEvent → Bool
  | .request (.deviceChange ..) => false
  | .request (.trigger uuid ..) => uuid = voiceWakeupModelUuid
  | _ => true

def Facade.opens (f g : Facade) : Bool :=
  match f.job with
  | .start t _ :: _ =>
    match f.impl t, g.impl t with
    | some i, some j => !i.data.audioSource && j.state = .recognizing && j.data.audioSource
    | _, _ => false
  | _ => false

namespace Detector

def refreshActiveDevice (w : Detector) (manager : EngineDeviceManager) : Detector :=
  { w with manager, refreshes := w.refreshes + 1 }

def notifyCallbacksIfChanged (w : Detector) : Detector :=
  let manager := w.manager.refreshWakeupDevice
  let calls :=
    if manager.wakeupDevice.object = w.manager.wakeupDevice.object then []
    else (w.engine.map fun engine => ⟨engine, manager.wakeupDevice⟩).toList
  { w with manager, refreshes := w.refreshes - 1, notices := w.notices ++ calls }

def handleCloseWakeupSource (w : Detector) : Detector :=
  { w with queue := w.queue.offer (.handleCloseWakeupSource true) }

def answers (w : Detector) (f g : Facade) : Facade.FacadeEvent → Option Answer
  | .proceed =>
    if f.closes < g.closes then if w.queue.isFull then none else some .closed
    else if f.opens g then some .recognizing else none
  | _ => none

def advance (w : Detector) (f g : Facade) (e : Facade.FacadeEvent) : Detector :=
  let posted := if f.closes < g.closes then w.handleCloseWakeupSource else w
  let moved := { posted with facade := some g }
  match w.executor with
  | .detecting answer =>
    let answer := answer <|> w.answers f g e
    if g.job.isEmpty then { moved with executor := .idle, detections := w.detections ++ [answer] }
    else { moved with executor := .detecting answer }
  | .creating => if g.job.isEmpty then { moved with executor := .idle } else moved
  | _ => moved

def begin (w : Detector) : ServiceTask → Option Detector
  | .onDetected uuid =>
    match w.facade with
    | none => some w.handleCloseWakeupSource
    | some _ => some { w with executor := .waiting uuid }
  | .createEngine => if w.facade.isSome then some w else some { w with executor := .initializing }
  | .releaseEngine =>
    match w.facade with
    | none => some w
    | some f => if f.job.isEmpty then some { w with facade := none, engine := none } else none
  | .handleCloseWakeupSource _ | .other => some w

def step (w : Detector) : DetectorEvent → Option Detector
  | .registerDevice macAddress type serviceName second =>
    (w.manager.registerDevice macAddress type serviceName second).map w.refreshActiveDevice
  | .deregisterDevice macAddress =>
    (w.manager.deregisterDevice macAddress).map w.refreshActiveDevice
  | .removeByServiceName serviceName =>
    some (w.refreshActiveDevice (w.manager.removeByServiceName serviceName))
  | .updateAudioDevice desc => some (w.refreshActiveDevice (w.manager.updateAudioDevice desc))
  | .refresh => if w.refreshes = 0 then none else some w.notifyCallbacksIfChanged
  | .notify index a =>
    match w.notices[index]? with
    | none => none
    | some notice =>
      let rest := { w with notices := w.notices.eraseIdx index }
      match w.facade with
      -- the engine of the notice is gone
      | none => if w.engine = some notice.engine then none else some rest
      | some f =>
        if w.engine = some notice.engine then
          (f.step (.request (.deviceChange notice.device a))).map fun g =>
            { rest with facade := some g }
        else some rest
  | .post task => some { w with queue := w.queue.offer task }
  | .take =>
    match w.executor, w.queue.pop? with
    | .idle, some (task, queue) => { w with queue }.begin task
    | _, _ => none
  | .initDefaultImpl initialized =>
    match w.executor with
    | .initializing =>
      if initialized then
        some { w with executor := .registered, engine := some w.engines, engines := w.engines + 1 }
      else some { w with executor := .idle }
    | _ => none
  | .createEngineImpl type a =>
    match w.executor with
    | .registered =>
      -- `CreateEngineImpl` fails for this type, and `Init` with it
      if w.manager.wakeupDevice.type = .glasses then
        some { w with executor := .idle, engine := none }
      else
        some { w with
          executor := .creating
          facade := some (initial type w.manager.wakeupDevice a) }
    | _ => none
  | .detect a =>
    match w.executor, w.facade with
    | .waiting uuid, some f =>
      (f.step (.request (.trigger uuid defaultMacAddress a))).map fun g =>
        { w with executor := .detecting none, facade := some g }
    | _, _ => none
  | .facade e =>
    match w.facade with
    | none => none
    | some f => if e.fromOthers then (f.step e).map fun g => w.advance f g e else none

inductive Stepped (w : Detector) : DetectorEvent → Detector → Prop
  | registerDevice {macAddress type serviceName second d}
      (hd : w.manager.registerDevice macAddress type serviceName second = some d) :
      Stepped w (.registerDevice macAddress type serviceName second) (w.refreshActiveDevice d)
  | deregisterDevice {macAddress d} (hd : w.manager.deregisterDevice macAddress = some d) :
      Stepped w (.deregisterDevice macAddress) (w.refreshActiveDevice d)
  | removeByServiceName (serviceName) : Stepped w (.removeByServiceName serviceName)
      (w.refreshActiveDevice (w.manager.removeByServiceName serviceName))
  | updateAudioDevice (desc) :
      Stepped w (.updateAudioDevice desc) (w.refreshActiveDevice (w.manager.updateAudioDevice desc))
  | refresh (hpending : w.refreshes ≠ 0) : Stepped w .refresh w.notifyCallbacksIfChanged
  | forgotten {index a notice} (hnotice : w.notices[index]? = some notice)
      (hgone : w.engine ≠ some notice.engine) :
      Stepped w (.notify index a) { w with notices := w.notices.eraseIdx index }
  | notified {index a notice f g} (hnotice : w.notices[index]? = some notice)
      (hengine : w.engine = some notice.engine) (hf : w.facade = some f)
      (hg : f.step (.request (.deviceChange notice.device a)) = some g) :
      Stepped w (.notify index a)
        { w with notices := w.notices.eraseIdx index, facade := some g }
  | post (task) : Stepped w (.post task) { w with queue := w.queue.offer task }
  | take {task queue v} (hidle : w.executor = .idle)
      (hv : { w with queue }.begin task = some v) : Stepped w .take v
  | registered (hexec : w.executor = .initializing) : Stepped w (.initDefaultImpl true)
      { w with executor := .registered, engine := some w.engines, engines := w.engines + 1 }
  | uninitialized (hexec : w.executor = .initializing) :
      Stepped w (.initDefaultImpl false) { w with executor := .idle }
  | uncreated {type a} (hexec : w.executor = .registered) :
      Stepped w (.createEngineImpl type a) { w with executor := .idle, engine := none }
  | created {type a} (hexec : w.executor = .registered) : Stepped w (.createEngineImpl type a)
      { w with
        executor := .creating
        facade := some (initial type w.manager.wakeupDevice a) }
  | detect {a uuid f g} (hexec : w.executor = .waiting uuid) (hf : w.facade = some f)
      (hg : f.step (.request (.trigger uuid defaultMacAddress a)) = some g) :
      Stepped w (.detect a) { w with executor := .detecting none, facade := some g }
  | facade {e f g} (hf : w.facade = some f) (hothers : e.fromOthers)
      (hg : f.step e = some g) : Stepped w (.facade e) (w.advance f g e)

lemma step_stepped {w v : Detector} {e : DetectorEvent} (hstep : w.step e = some v) :
    w.Stepped e v := by
  cases e with
  | registerDevice macAddress type serviceName second =>
    obtain ⟨d, hd, rfl⟩ := map_eq_some_iff.1 hstep
    exact .registerDevice hd
  | deregisterDevice macAddress =>
    obtain ⟨d, hd, rfl⟩ := map_eq_some_iff.1 hstep
    exact .deregisterDevice hd
  | removeByServiceName serviceName =>
    cases hstep
    exact .removeByServiceName serviceName
  | updateAudioDevice desc =>
    cases hstep
    exact .updateAudioDevice desc
  | refresh =>
    obtain ⟨hpending, ⟨⟩⟩ := ite_none_left_eq_some.1 hstep
    exact .refresh hpending
  | notify index a =>
    simp only [step] at hstep
    split at hstep
    · cases hstep
    rename_i notice hnotice
    split at hstep
    · obtain ⟨hgone, ⟨⟩⟩ := ite_none_left_eq_some.1 hstep
      exact .forgotten hnotice hgone
    rename_i f hf
    split at hstep
    · rename_i hengine
      obtain ⟨g, hg, rfl⟩ := map_eq_some_iff.1 hstep
      exact .notified hnotice hengine hf hg
    · rename_i hgone
      cases hstep
      exact .forgotten hnotice hgone
  | post task =>
    cases hstep
    exact .post task
  | take =>
    simp only [step] at hstep
    split at hstep
    · rename_i task queue hidle _
      exact .take hidle hstep
    · cases hstep
  | initDefaultImpl initialized =>
    simp only [step] at hstep
    split at hstep
    · rename_i hexec
      cases initialized <;> cases hstep
      · exact .uninitialized hexec
      · exact .registered hexec
    · cases hstep
  | createEngineImpl type a =>
    simp only [step] at hstep
    split at hstep
    · rename_i hexec
      split at hstep <;> cases hstep
      · exact .uncreated hexec
      · exact .created hexec
    · cases hstep
  | detect a =>
    simp only [step] at hstep
    split at hstep
    · rename_i uuid f hexec hf
      obtain ⟨g, hg, rfl⟩ := map_eq_some_iff.1 hstep
      exact .detect hexec hf hg
    · cases hstep
  | facade e =>
    simp only [step] at hstep
    split at hstep
    · cases hstep
    rename_i f hf
    obtain ⟨hothers, hmap⟩ := ite_none_right_eq_some.1 hstep
    obtain ⟨g, hg, rfl⟩ := map_eq_some_iff.1 hmap
    exact .facade hf hothers hg

end Detector

def Impl.Silent (i : Impl) : Prop := i.state.inProcess = false → i.data.audioSource = false

lemma Phone.Reaction.audioSource {s st : EngineState} {d d' : ImplData} {m : StateMsg}
    (h : Phone.Reaction s d m st d') (hsilent : s.inProcess = false → d.audioSource = false)
    (hst : st.inProcess = false) : d'.audioSource = false := by
  cases h with
  | none | setListener => exact hsilent hst
  | initDone => exact hsilent rfl
  | create _ _ _ haudio =>
    rw [haudio]
    exact hsilent rfl
  | start _ hnext _ haudio =>
    rcases hnext with rfl | rfl
    · -- a start that failed does not leave the source open
      rw [Bool.eq_false_iff]
      intro hopen
      rw [hsilent rfl] at haudio
      cases haudio rfl hopen
    · cases hst
  | recognized | startCapturer => cases hst
  | stop | failed | stopCapturer | release => rfl

lemma Impl.Silent.handle {i : Impl} (h : i.Silent) (hkind : i.kind = .phone) (m : StateMsg) :
    (i.handle m).2.Silent := by
  have hreaction := Phone.reaction i.state i.data m
  rw [← hkind] at hreaction
  exact hreaction.audioSource h

lemma Impl.start_phone {i : Impl} (hkind : i.kind = .phone) (uuid : Int)
    (started stopCallback sourceStarted : Bool) :
    let r := i.handle (.startRecognize (some uuid) started stopCallback sourceStarted)
    (r.1 = 0 ∧ i.state = .initialized ∧ r.2.state = .recognizing ∧ r.2.data.audioSource) ∨
      (r.1 ≠ 0 ∧ r.2.state = i.state) := by
  simp only [Impl.handle, hkind]
  cases hstate : i.state with
  | initialized =>
    rw [handleMsg_of_actions (f := Phone.handleStart) rfl]
    simp only [Phone.handleStart]
    repeat' split
    all_goals simp
  | _ =>
    refine .inr ⟨?_, rfl⟩
    show noProcessRet ≠ 0
    decide

def Command.Proper : Command → Prop
  | .destroy info _ | .drop info _ | .create info _ => info.Proper
  | _ => True

namespace Facade
variable {f g : Facade} {t : Target} {i j : Impl}

structure Attentive (f : Facade) : Prop where
  kind : f.phone.kind = .phone
  silent : f.phone.Silent
  device : ∀ d, f.wakeupDevice = some d → d.macAddress = defaultMacAddress → f.wakeupImpl = .phone
  proper : ∀ c ∈ f.job, c.Proper
  created : f.wakeupDevice = none → ∃ info a rest, f.job = .create info a :: rest

lemma Attentive.macAddress_ne (h : f.Attentive) (hi : f.impl .accessory = some i)
    {d : WakeupDeviceDetail} (hd : f.wakeupDevice = some d) : d.macAddress ≠ defaultMacAddress := by
  intro hmac
  have hclash := impl_accessory.1 hi
  rw [h.device d hd hmac] at hclash
  cases hclash

variable {e : FacadeEvent} {uuid : Int} {job rest : List Command} {a : StartAnswers}

lemma Attentive.setImpl (h : f.Attentive) (hi : f.impl t = some i) (hkind : j.kind = i.kind)
    (hsilent : t = .phone → j.Silent) (hjob : ∀ c ∈ job, c.Proper)
    (hcreated : f.wakeupDevice = none → ∃ info a rest, job = .create info a :: rest) :
    ({ f.setImpl t j with job } : Facade).Attentive where
  kind := by
    cases t with
    | phone =>
      cases hi
      exact hkind.trans h.kind
    | accessory => exact h.kind
  silent := by
    cases t with
    | phone => exact hsilent rfl
    | accessory => exact h.silent
  device d hd hmac := by
    have hd : f.wakeupDevice = some d := wakeupDevice_setImpl.symm.trans hd
    cases t with
    | phone => exact h.device d hd hmac
    | accessory => exact absurd hmac (h.macAddress_ne hi hd)
  proper := hjob
  created hnone := hcreated (wakeupDevice_setImpl.symm.trans hnone)

lemma Attentive.handle (h : f.Attentive) (hi : f.impl t = some i) (m : StateMsg)
    (hjob : ∀ c ∈ job, c.Proper)
    (hcreated : f.wakeupDevice = none → ∃ info a rest, job = .create info a :: rest) :
    ({ f.setImpl t (i.handle m).2 with job } : Facade).Attentive := by
  refine h.setImpl (j := (i.handle m).2) hi rfl (fun ht => ?_) hjob hcreated
  subst ht
  cases hi
  exact h.silent.handle h.kind m

lemma Attentive.calm (h : ({ f.setImpl t j with job := f.job } : Facade).Attentive) :
    (f.setImpl t j).Attentive := by
  cases t <;> exact h

lemma Attentive.setJob (h : f.Attentive) (hjob : ∀ c ∈ job, c.Proper)
    (hcreated : f.wakeupDevice = none → ∃ info a rest, job = .create info a :: rest) :
    ({ f with job } : Facade).Attentive :=
  ⟨h.kind, h.silent, h.device, hjob, hcreated⟩

lemma proper_await (hrest : ∀ c ∈ rest, c.Proper) (b : Bool) :
    ∀ c ∈ (if b then rest else .await t :: rest), c.Proper := by
  cases b with
  | true => exact hrest
  | false => exact forall_mem_cons.2 ⟨trivial, hrest⟩

lemma Attentive.triggered {macAddress : String} (h : f.Attentive) (hrest : ∀ c ∈ rest, c.Proper)
    (hdevice : f.wakeupDevice ≠ none) (htriggered : f.Triggered uuid macAddress a rest g) :
    g.Attentive := by
  have hstart : ∀ {t m}, ∀ c ∈ Command.start t m :: rest, c.Proper :=
    forall_mem_cons.2 ⟨trivial, hrest⟩
  cases htriggered with
  | closed | foreign | swallowed =>
    exact ⟨h.kind, h.silent, h.device, hrest, fun hnone => absurd hnone hdevice⟩
  | phone => exact ⟨h.kind, h.silent, h.device, hstart, fun hnone => absurd hnone hdevice⟩
  | @accessory i device _ _ _ hwakeup =>
    exact h.setImpl (t := .accessory) (j := i.prepare device) (impl_accessory.2 hwakeup)
      (by unfold Impl.prepare; split <;> rfl) (fun ht => by cases ht) hstart
      fun hnone => absurd hnone hdevice

lemma Attentive.create {info : WakeupDeviceDetail} {a : CreateAnswers} (h : f.Attentive)
    (hinfo : info.Proper) (hrest : ∀ c ∈ rest, c.Proper) (hcreated : f.Created info a rest g) :
    g.Attentive := by
  have hannounce : ∀ c ∈ Command.announce :: rest, c.Proper :=
    forall_mem_cons.2 ⟨trivial, hrest⟩
  have hknown : ∀ {p : Prop}, some info = none → p := fun hnone => by cases hnone
  cases hcreated with
  | phone => exact ⟨h.kind, h.silent, fun _ _ _ => rfl, hannounce, hknown⟩
  -- a device of another type has another address
  | accessory _ htype =>
    refine ⟨h.kind, h.silent, ?_, forall_mem_cons.2 ⟨trivial, hannounce⟩, hknown⟩
    rintro d ⟨⟩ hmac
    rw [hinfo hmac] at htype
    rcases htype with htype | htype <;> cases htype
  | failed htype =>
    refine ⟨h.kind, h.silent, ?_, hannounce, hknown⟩
    rintro d ⟨⟩ hmac
    rw [hinfo hmac] at htype
    rcases htype with htype | htype <;> cases htype
  | unknown htype =>
    refine ⟨h.kind, h.silent, ?_, hrest, hknown⟩
    rintro d ⟨⟩ hmac
    rw [hinfo hmac] at htype
    cases htype

lemma Attentive.closeWakeupSource (h : f.Attentive) : f.closeWakeupSource.Attentive :=
  ⟨h.kind, h.silent, h.device, h.proper, h.created⟩

lemma proceed_attentive {c : Command} (h : f.Attentive) (hjob : f.job = c :: rest)
    (hproceeded : f.Proceeded c rest g) : g.Attentive := by
  have hhead : c.Proper := h.proper c (by simp [hjob])
  have hrest : ∀ c' ∈ rest, c'.Proper := fun c' hc' => h.proper c' (by simp [hjob, hc'])
  -- every command but the first of `Init` finds a device
  have hknown : (∀ info a, c ≠ .create info a) → ∀ {p : Prop}, f.wakeupDevice = none → p := by
    intro hc p hnone
    obtain ⟨info, a, rest', heq⟩ := h.created hnone
    exact absurd (cons.inj (hjob.symm.trans heq)).1 (hc info a)
  cases hproceeded with
  | handle hi | started hi | init hi =>
    exact h.handle hi _ (proper_await hrest _) (hknown fun _ _ heq => by cases heq)
  | refused hi =>
    exact (h.handle hi _ (proper_await hrest _)
      (hknown fun _ _ heq => by cases heq)).closeWakeupSource
  | await | unrouted | unannounced =>
    exact h.setJob hrest (hknown fun _ _ heq => by cases heq)
  | routed | announce =>
    exact h.setJob (forall_mem_cons.2 ⟨trivial, hrest⟩) (hknown fun _ _ heq => by cases heq)
  | trigger htriggered =>
    exact h.triggered hrest (hknown fun _ _ heq => by cases heq) htriggered
  | destroy hi =>
    exact h.handle hi _ (forall_mem_cons.2 ⟨hhead, hrest⟩)
      (hknown fun _ _ heq => by cases heq)
  | drop hi =>
    exact ⟨h.kind, h.silent, fun d hd hmac => absurd hmac (h.macAddress_ne hi hd),
      forall_mem_cons.2 ⟨hhead, hrest⟩, hknown fun _ _ heq => by cases heq⟩
  | create hcreated => exact h.create hhead hrest hcreated
  | fallback hi =>
    exact ⟨h.kind, h.silent, fun _ _ _ => rfl, hrest, hknown fun _ _ heq => by cases heq⟩

lemma Attentive.onStateChange (h : f.Attentive) (st : EngineState) (type : ProcessType) :
    (f.onStateChange st type).Attentive := by
  unfold Facade.onStateChange
  repeat' split
  all_goals exact ⟨h.kind, h.silent, h.device, h.proper, h.created⟩

lemma proper_handle (m m' : StateMsg) : ∀ c ∈ f.handle m m', c.Proper := by
  unfold Facade.handle
  repeat' split
  all_goals simp [Command.Proper]

lemma proper_saveCallback (cb : Option Nat) : ∀ c ∈ f.saveCallback cb, c.Proper := by
  unfold saveCallback
  cases f.wakeupTarget <;> simp [Command.Proper]

lemma step_attentive (h : f.Attentive)
    (he : ∀ info a, e = .request (.deviceChange info a) → info.Proper) (hstep : f.step e = some g) :
    g.Attentive := by
  -- a request is accepted only after `Init`
  have hknown : f.job = [] → ∀ {p : Prop}, f.wakeupDevice = none → p := by
    intro hjob p hnone
    obtain ⟨info, a, rest, heq⟩ := h.created hnone
    rw [hjob] at heq
    cases heq
  cases step_cases hstep with
  | handle hjob => exact h.setJob (proper_handle _ _) (hknown hjob)
  | saveCallback hjob =>
    exact ⟨h.kind, h.silent, h.device, proper_saveCallback _, hknown hjob⟩
  | trigger hjob => exact h.setJob (by simp [Command.Proper]) (hknown hjob)
  | deviceChange hjob =>
    refine h.setJob ?_ (hknown hjob)
    unfold updateWakeupEngineImpl
    split <;> simpa [Command.Proper] using he _ _ rfl
  | proceed hjob hproceeded => exact proceed_attentive h hjob hproceeded
  | internal hi => exact .calm (h.handle hi _ h.proper h.created)
  | @report t i hi =>
    have hmoved : (f.setImpl t { i with reported := i.state }).Attentive := by
      refine .calm (h.setImpl (j := { i with reported := i.state }) hi rfl (fun ht => ?_) h.proper
        h.created)
      subst ht
      cases hi
      exact h.silent
    exact hmoved.onStateChange _ _

lemma attentive_initial {device : WakeupDeviceDetail} (hdevice : device.Proper)
    (type : ProcessType) (a : CreateAnswers) : (initial type device a).Attentive where
  kind := rfl
  silent _ := rfl
  device d hd := by cases hd
  proper c hc := by
    obtain rfl := mem_singleton.1 hc
    exact hdevice
  created _ := ⟨device, a, [], rfl⟩

def Carries (f : Facade) : Option Answer → Prop
  | none => (∃ uuid a, f.job = [.trigger uuid defaultMacAddress a]) ∨
      ∃ uuid started stopCallback sourceStarted,
        f.job = [.start .phone (.startRecognize (some uuid) started stopCallback sourceStarted)]
  | some _ => f.job = [.await .phone]

variable {answer : Option Answer}

lemma Carries.congr (h : f.Carries answer) (hjob : g.job = f.job) : g.Carries answer := by
  cases answer with
  | none =>
    unfold Carries
    rw [hjob]
    exact h
  | some answer => exact hjob.trans h

lemma Carries.job_ne_nil (h : f.Carries answer) : f.job ≠ [] := by
  intro hnil
  cases answer with
  | none =>
    rcases h with ⟨_, _, hjob⟩ | ⟨_, _, _, _, hjob⟩ <;>
    · rw [hnil] at hjob
      cases hjob
  | some answer =>
    have hjob : f.job = [.await .phone] := h
    rw [hnil] at hjob
    cases hjob

lemma step_job (hjob : f.job ≠ []) (hstep : f.step e = some g) :
    e = .proceed ∨ e ≠ .proceed ∧ g.job = f.job := by
  cases step_cases hstep with
  | handle hnil | saveCallback hnil | trigger hnil | deviceChange hnil => exact absurd hnil hjob
  | proceed => exact .inl rfl
  | internal => exact .inr ⟨(fun heq => by cases heq), job_setImpl⟩
  | report => exact .inr ⟨(fun heq => by cases heq), job_onStateChange.trans job_setImpl⟩

lemma Attentive.proceed_trigger (h : f.Attentive)
    (hjob : f.job = [.trigger uuid defaultMacAddress a]) (hstep : f.proceed = some g) :
    (f.closes < g.closes ∧ g.job = []) ∨
      (g.closes = f.closes ∧ f.opens g = false ∧ ∃ uuid started stopCallback sourceStarted,
        g.job = [.start .phone
          (.startRecognize (some uuid) started stopCallback sourceStarted)]) := by
  obtain ⟨c, rest, hjob', hproceeded⟩ := proceed_cases hstep
  obtain ⟨rfl, rfl⟩ := cons.inj (hjob.symm.trans hjob')
  have hdevice : ∀ {p : Prop}, f.wakeupDevice = none → p := by
    intro p hnone
    obtain ⟨_, _, _, heq⟩ := h.created hnone
    rw [hjob] at heq
    cases heq
  cases hproceeded with
  | trigger htriggered =>
    cases htriggered with
    | closed => exact .inl ⟨Nat.lt_succ_self _, rfl⟩
    | foreign hmac => exact absurd rfl hmac
    -- under the address of the phone `wakeupImpl_` is the phone's implementation
    | swallowed hnull =>
      cases hd : f.wakeupDevice with
      | none => exact hdevice hd
      | some device =>
        obtain ⟨hmac, hwakeup⟩ := hnull device hd
        rw [h.device device hd hmac.symm] at hwakeup
        cases hwakeup
    | phone => exact .inr ⟨rfl, by simp [opens, hjob], _, _, _, _, rfl⟩
    | accessory _ hd hmac hwakeup =>
      rw [h.device _ hd hmac.symm] at hwakeup
      cases hwakeup

lemma Attentive.proceed_start {started stopCallback sourceStarted : Bool} (h : f.Attentive)
    (hjob : f.job =
      [.start .phone (.startRecognize (some uuid) started stopCallback sourceStarted)])
    (hstep : f.proceed = some g) : (f.closes < g.closes ∧ g.job = []) ∨
      (g.closes = f.closes ∧ g.job = [.await .phone] ∧ f.opens g) := by
  obtain ⟨c, rest, hjob', hproceeded⟩ := proceed_cases hstep
  obtain ⟨rfl, rfl⟩ := cons.inj (hjob.symm.trans hjob')
  have hstart := Impl.start_phone h.kind uuid started stopCallback sourceStarted
  cases hproceeded with
  | refused hi hsettled hret =>
    cases hi
    obtain ⟨-, hsame⟩ := hstart.resolve_left fun hok => hret hok.1
    have hstays : (f.phone.handle (.startRecognize (some uuid) started stopCallback
        sourceStarted)).2.settled := by
      simpa [Impl.settled, hsame] using Impl.state_eq_reported hsettled
    refine .inl ⟨Nat.lt_succ_self _, ?_⟩
    show (if _ then [] else _) = []
    rw [if_pos hstays]
  | started hi hsettled hret =>
    cases hi
    obtain ⟨-, hstate, hrecognizing, hopen⟩ := hstart.resolve_right fun hno => hno.1 (hret rfl)
    have hsilent : f.phone.data.audioSource = false := h.silent (by rw [hstate]; rfl)
    -- a transition has begun, which the operation waits for
    have hmoves : (f.phone.handle (.startRecognize (some uuid) started stopCallback
        sourceStarted)).2.settled = false := by
      simp [Impl.settled, hrecognizing, ← Impl.state_eq_reported hsettled, hstate]
    refine .inr ⟨rfl, by simp [called, hmoves], ?_⟩
    simp [opens, hjob, impl, called, Facade.setImpl, hsilent, hrecognizing, hopen]

lemma proceed_await_phone (hjob : f.job = [.await .phone]) (hstep : f.proceed = some g) :
    g.job = [] := by
  obtain ⟨c, rest, hjob', hproceeded⟩ := proceed_cases hstep
  obtain ⟨rfl, rfl⟩ := cons.inj (hjob.symm.trans hjob')
  cases hproceeded
  rfl

end Facade

namespace Detector
variable {w v : Detector} {f g : Facade} {e : Facade.FacadeEvent}

structure Responsive (w : Detector) : Prop where
  manager : w.manager.Proper
  notices : ∀ notice ∈ w.notices, notice.device.Proper
  facade : ∀ f, w.facade = some f → f.Attentive
  carried : ∀ answer, w.executor = .detecting answer → ∃ f, w.facade = some f ∧ f.Carries answer
  answered : none ∉ w.detections

def Favourable (w : Detector) : DetectorEvent → Prop
  | .registerDevice macAddress type _ _ => macAddress = defaultMacAddress → type = .phone
  | .facade .proceed => w.executor = .detecting none → w.queue.isFull = false
  | _ => True

lemma manager_advance : (w.advance f g e).manager = w.manager := by
  unfold advance handleCloseWakeupSource
  repeat' split
  all_goals rfl

lemma notices_advance : (w.advance f g e).notices = w.notices := by
  unfold advance handleCloseWakeupSource
  repeat' split
  all_goals rfl

lemma facade_advance : (w.advance f g e).facade = some g := by
  unfold advance
  repeat' split
  all_goals rfl

lemma advance_of_ne (hexec : ∀ answer, w.executor ≠ .detecting answer) :
    (∀ answer, (w.advance f g e).executor ≠ .detecting answer) ∧
      (w.advance f g e).detections = w.detections := by
  unfold advance handleCloseWakeupSource
  cases hw : w.executor with
  | detecting answer => exact absurd hw (hexec answer)
  | creating =>
    simp only
    repeat' split
    all_goals simp [hw]
  | idle | initializing | registered | waiting =>
    simp only
    split
    all_goals simp [hw]

variable {answer : Option Answer}

lemma advance_detecting (hexec : w.executor = .detecting answer) : ((w.advance f g e).executor =
      if g.job.isEmpty then .idle else .detecting (answer <|> w.answers f g e)) ∧
    (w.advance f g e).detections =
      if g.job.isEmpty then w.detections ++ [answer <|> w.answers f g e] else w.detections := by
  unfold advance handleCloseWakeupSource
  simp only [hexec]
  repeat' split
  all_goals simp_all

lemma answers_proceed (hf : f.Attentive) (hcarries : f.Carries answer)
    (hroom : answer = none → w.queue.isFull = false) (hstep : f.step .proceed = some g) :
    (g.job = [] ∧ (answer <|> w.answers f g .proceed) ≠ none) ∨
      (g.job ≠ [] ∧ g.Carries (answer <|> w.answers f g .proceed)) := by
  cases answer with
  | some answer =>
    -- only the report was waited for
    exact .inl ⟨Facade.proceed_await_phone hcarries hstep, by simp⟩
  | none =>
    have hclosed : f.closes < g.closes → w.answers f g .proceed = some .closed := by
      intro hlt
      simp [answers, hlt, hroom rfl]
    rcases hcarries with ⟨uuid, a, hjob⟩ | ⟨uuid, started, stopCallback, sourceStarted, hjob⟩
    · rcases hf.proceed_trigger hjob hstep with ⟨hlt, hnil⟩ | ⟨hsame, hopens, hstart⟩
      · exact .inl ⟨hnil, by simp [hclosed hlt]⟩
      have hnext : g.Carries none := .inr hstart
      have hnone : w.answers f g .proceed = none := by simp [answers, hsame, hopens]
      refine .inr ⟨hnext.job_ne_nil, ?_⟩
      rw [hnone]
      exact hnext
    · rcases hf.proceed_start hjob hstep with ⟨hlt, hnil⟩ | ⟨hsame, hnext, hopens⟩
      · exact .inl ⟨hnil, by simp [hclosed hlt]⟩
      have hsome : w.answers f g .proceed = some .recognizing := by simp [answers, hsame, hopens]
      refine .inr ⟨by simp [hnext], ?_⟩
      rw [hsome]
      exact hnext

lemma advance_carried (hexec : w.executor = .detecting answer) (hf : f.Attentive)
    (hcarries : f.Carries answer) (hstep : f.step e = some g)
    (hroom : e = .proceed → answer = none → w.queue.isFull = false) :
    ((w.advance f g e).executor = .idle ∧
      ∃ a, (w.advance f g e).detections = w.detections ++ [some a]) ∨
    ∃ answer', (w.advance f g e).executor = .detecting answer' ∧ g.Carries answer' ∧
      (w.advance f g e).detections = w.detections := by
  obtain ⟨hexecutor, hdetections⟩ := advance_detecting (f := f) (g := g) (e := e) hexec
  rw [hexecutor, hdetections]
  rcases step_job hcarries.job_ne_nil hstep with rfl | ⟨hne, hjob⟩
  · rcases answers_proceed hf hcarries (hroom rfl) hstep with ⟨hnil, hanswer⟩ | ⟨hnonempty, hnext⟩
    · obtain ⟨a, ha⟩ := ne_none_iff_exists'.1 hanswer
      exact .inl ⟨by simp [hnil], a, by simp [hnil, ha]⟩
    · exact .inr ⟨_, by simp [hnonempty], hnext, by simp [hnonempty]⟩
  -- the operation waits meanwhile
  have hnone : w.answers f g e = none := by
    cases e with
    | proceed => exact absurd rfl hne
    | request | internal | report => rfl
  have hnonempty : g.job ≠ [] := hjob ▸ hcarries.job_ne_nil
  refine .inr ⟨answer, ?_, hcarries.congr hjob, by simp [hnonempty]⟩
  simp [hnonempty, hnone]

section
variable (h : w.Responsive)
include h

lemma Responsive.advance (hfacade : w.facade = some f) (hstep : f.step e = some g)
    (he : ∀ info a, e ≠ .request (.deviceChange info a))
    (hroom : e = .proceed → w.executor = .detecting none → w.queue.isFull = false) :
    (w.advance f g e).Responsive := by
  have hf := h.facade f hfacade
  have hg : g.Attentive :=
    step_attentive hf (fun info a heq => absurd heq (he info a)) hstep
  have hmanager : (w.advance f g e).manager.Proper := by
    rw [manager_advance]
    exact h.manager
  have hnotices : ∀ notice ∈ (w.advance f g e).notices, notice.device.Proper := by
    rw [notices_advance]
    exact h.notices
  have hattentive : ∀ f', (w.advance f g e).facade = some f' → f'.Attentive := by
    intro f' hf'
    obtain rfl := some.inj (facade_advance.symm.trans hf')
    exact hg
  by_cases hexec : ∃ answer, w.executor = .detecting answer
  · obtain ⟨answer, hexec⟩ := hexec
    obtain ⟨f', hf', hcarries⟩ := h.carried answer hexec
    obtain rfl := some.inj (hf'.symm.trans hfacade)
    rcases advance_carried hexec hf hcarries hstep (fun hp hnone => hroom hp (hnone ▸ hexec)) with
      ⟨hidle, a, hdetections⟩ | ⟨answer', hnext, hcarried, hdetections⟩
    · refine ⟨hmanager, hnotices, hattentive, fun answer heq => ?_, ?_⟩
      · rw [hidle] at heq
        cases heq
      · rw [hdetections]
        simpa using h.answered
    · refine ⟨hmanager, hnotices, hattentive, fun answer heq => ?_, hdetections ▸ h.answered⟩
      obtain ⟨rfl⟩ := hnext.symm.trans heq
      exact ⟨g, facade_advance, hcarried⟩
  · obtain ⟨hne, hdetections⟩ :=
      advance_of_ne (f := f) (g := g) (e := e) fun answer heq => hexec ⟨answer, heq⟩
    exact ⟨hmanager, hnotices, hattentive, fun answer heq => absurd heq (hne answer),
      hdetections ▸ h.answered⟩

lemma Responsive.refreshActiveDevice {manager : EngineDeviceManager} (hmanager : manager.Proper) :
    (w.refreshActiveDevice manager).Responsive :=
  ⟨hmanager, h.notices, h.facade, h.carried, h.answered⟩

lemma Responsive.notifyCallbacksIfChanged : w.notifyCallbacksIfChanged.Responsive := by
  have hmanager := h.manager.refreshWakeupDevice
  refine ⟨hmanager, fun notice hnotice => ?_, h.facade, h.carried, h.answered⟩
  rcases mem_append.1 hnotice with hold | hnew
  · exact h.notices notice hold
  split at hnew
  · cases hnew
  cases hengine : w.engine with
  | none => simp [hengine] at hnew
  | some engine =>
    simp only [hengine, map_some, toList_some, mem_singleton] at hnew
    rw [hnew]
    exact hmanager.chosen

lemma Responsive.of_executor (hmanager : v.manager = w.manager)
    (hnotices : ∀ notice ∈ v.notices, notice ∈ w.notices)
    (hfacade : ∀ f, v.facade = some f → f.Attentive)
    (hexec : ∀ answer, v.executor ≠ .detecting answer) (hdetections : v.detections = w.detections) :
    v.Responsive where
  manager := hmanager ▸ h.manager
  notices notice hnotice := h.notices notice (hnotices notice hnotice)
  facade := hfacade
  carried answer heq := absurd heq (hexec answer)
  answered := hdetections ▸ h.answered

lemma Responsive.begin {task : ServiceTask} (hidle : w.executor = .idle)
    (hv : w.begin task = some v) : v.Responsive := by
  have hexec : ∀ answer, w.executor ≠ .detecting answer := by simp [hidle]
  cases task with
  | onDetected uuid =>
    simp only [Detector.begin] at hv
    split at hv <;> cases hv
    · exact h.of_executor rfl (fun _ hn => hn) h.facade hexec rfl
    · exact h.of_executor rfl (fun _ hn => hn) h.facade (fun _ heq => by cases heq) rfl
  | createEngine =>
    simp only [Detector.begin] at hv
    split at hv <;> cases hv
    · exact h
    · exact h.of_executor rfl (fun _ hn => hn) h.facade (fun _ heq => by cases heq) rfl
  | releaseEngine =>
    simp only [Detector.begin] at hv
    split at hv
    · cases hv
      exact h
    · obtain ⟨-, ⟨⟩⟩ := ite_none_right_eq_some.1 hv
      exact h.of_executor rfl (fun _ hn => hn) (fun _ heq => by cases heq) hexec rfl
  | handleCloseWakeupSource | other =>
    cases hv
    exact h

lemma Responsive.notify {notice : Notice} {index : Nat} {a : CreateAnswers}
    (hnotice : w.notices[index]? = some notice) (hfacade : w.facade = some f)
    (hstep : f.step (.request (.deviceChange notice.device a)) = some g) :
    ({ w with notices := w.notices.eraseIdx index, facade := some g } : Detector).Responsive where
  manager := h.manager
  notices n hn := h.notices n (mem_of_mem_eraseIdx hn)
  facade f' hf' := by
    obtain rfl := some.inj hf'
    refine step_attentive (h.facade f hfacade) (fun info a heq => ?_) hstep
    cases heq
    exact h.notices notice (mem_of_getElem? hnotice)
  carried answer heq := by
    -- within a detection the mutex is taken
    obtain ⟨f', hf', hcarries⟩ := h.carried answer heq
    obtain rfl := some.inj (hf'.symm.trans hfacade)
    obtain ⟨-, hjob⟩ := (Facade.step_job hcarries.job_ne_nil hstep).resolve_left (by simp)
    exact ⟨g, rfl, hcarries.congr hjob⟩
  answered := h.answered

lemma Responsive.eraseNotice (index : Nat) :
    ({ w with notices := w.notices.eraseIdx index } : Detector).Responsive :=
  ⟨h.manager, fun n hn => h.notices n (mem_of_mem_eraseIdx hn), h.facade, h.carried, h.answered⟩

lemma Responsive.detect {uuid : Int} {a : StartAnswers} (hfacade : w.facade = some f)
    (hstep : f.step (.request (.trigger uuid defaultMacAddress a)) = some g) :
    ({ w with executor := .detecting none, facade := some g } : Detector).Responsive where
  manager := h.manager
  notices := h.notices
  facade f' hf' := by
    obtain rfl := some.inj hf'
    exact step_attentive (h.facade f hfacade) (fun _ _ heq => by cases heq) hstep
  carried answer heq := by
    cases heq
    cases step_cases hstep
    exact ⟨_, rfl, .inl ⟨uuid, a, rfl⟩⟩
  answered := h.answered

lemma step_responsive {e : DetectorEvent} (hfav : w.Favourable e) (hstep : w.step e = some v) :
    v.Responsive := by
  cases step_stepped hstep with
  | registerDevice hd => exact h.refreshActiveDevice (h.manager.registerDevice hfav hd)
  | deregisterDevice hd => exact h.refreshActiveDevice (h.manager.deregisterDevice hd)
  | removeByServiceName => exact h.refreshActiveDevice (h.manager.filter _)
  | updateAudioDevice desc => exact h.refreshActiveDevice (h.manager.updateAudioDevice desc)
  | refresh => exact h.notifyCallbacksIfChanged
  | @forgotten index => exact h.eraseNotice index
  | notified hnotice _ hf hg => exact h.notify hnotice hf hg
  | post task => exact ⟨h.manager, h.notices, h.facade, h.carried, h.answered⟩
  | @take task queue _ hidle hv =>
    have htaken : ({ w with queue } : Detector).Responsive :=
      ⟨h.manager, h.notices, h.facade, h.carried, h.answered⟩
    exact htaken.begin hidle hv
  | registered | uninitialized | uncreated =>
    exact h.of_executor rfl (fun _ hn => hn) h.facade (fun _ heq => by cases heq) rfl
  | @created type a =>
    refine h.of_executor rfl (fun _ hn => hn) (fun f hf => ?_) (fun _ heq => by cases heq) rfl
    obtain rfl := some.inj hf
    exact attentive_initial h.manager.chosen type a
  | detect _ hf hg => exact h.detect hf hg
  | facade hf hothers hg =>
    refine h.advance hf hg ?_ ?_
    · rintro info a rfl
      cases hothers
    · rintro rfl
      exact hfav

end

lemma responsive_initial : Responsive {} where
  manager := EngineDeviceManager.proper_initial
  notices notice hnotice := by cases hnotice
  facade f hf := by cases hf
  carried answer heq := by cases heq
  answered := by simp

def Finishes (w : Detector) : Prop :=
  ∃ es v, (∀ e ∈ es, e = .facade .proceed ∨ e = .facade (.report .phone)) ∧
    run step w es = some v ∧ v.executor = .idle

lemma Finishes.of_idle (h : w.executor = .idle) : w.Finishes :=
  ⟨[], w, by simp, rfl, h⟩

lemma step_facade (hfacade : w.facade = some f) (he : e.fromOthers)
    (hstep : f.step e = some g) : w.step (.facade e) = some (w.advance f g e) := by
  simp [step, hfacade, he, hstep]

lemma Finishes.of_step (hfacade : w.facade = some f)
    (he : e = .proceed ∨ e = .report .phone) (hstep : f.step e = some g)
    (h : (w.advance f g e).Finishes) : w.Finishes := by
  obtain ⟨es, v, hes, hrun, hidle⟩ := h
  have hothers : e.fromOthers := by rcases he with rfl | rfl <;> rfl
  refine ⟨.facade e :: es, v, forall_mem_cons.2 ⟨?_, hes⟩, ?_, hidle⟩
  · rcases he with rfl | rfl
    · exact .inl rfl
    · exact .inr rfl
  · rw [run_cons, step_facade hfacade hothers hstep]
    exact hrun

lemma Finishes.of_settled (hexec : w.executor = .detecting answer) (hfacade : w.facade = some f)
    (hf : f.Attentive) (hjob : f.job ≠ [])
    (h : ∀ (v : Detector) (g : Facade), v.executor = .detecting answer → v.facade = some g →
      g.Attentive → g.job = f.job → g.phone.settled → v.Finishes) : w.Finishes := by
  cases hsettled : f.phone.settled with
  | true => exact h w f hexec hfacade hf rfl hsettled
  | false =>
    let g := (f.setImpl .phone { f.phone with reported := f.phone.state }).onStateChange
      f.phone.state f.phone.processType
    have hstep : f.step (.report .phone) = some g := by
      simp [Facade.step, Facade.impl, hsettled, g]
    have hgjob : g.job = f.job := job_onStateChange.trans job_setImpl
    have hgphone : g.phone.settled := by
      have himpl : g.impl .phone = some { f.phone with reported := f.phone.state } :=
        impl_onStateChange.trans impl_setImpl_self
      rw [some.inj himpl]
      simp [Impl.settled]
    have hempty : g.job.isEmpty = false := by simpa [hgjob] using hjob
    refine .of_step hfacade (.inr rfl) hstep (h _ g ?_ facade_advance ?_ hgjob hgphone)
    · rw [(advance_detecting hexec).1, hempty]
      simp [answers]
    · exact step_attentive hf (fun _ _ heq => by cases heq) hstep

lemma finishes_await (hexec : w.executor = .detecting answer) (hfacade : w.facade = some f)
    (hf : f.Attentive) (hjob : f.job = [.await .phone]) : w.Finishes := by
  refine .of_settled hexec hfacade hf (by simp [hjob]) fun v g hv hg _ hgjob hsettled => ?_
  have hstep : g.step .proceed = some { g with job := [] } := by
    simp [Facade.step, Facade.proceed, hgjob, hjob, Facade.impl, hsettled]
  refine .of_step hg (.inl rfl) hstep (.of_idle ?_)
  rw [(advance_detecting hv).1]
  rfl

lemma finishes_start {uuid : Int} {started stopCallback sourceStarted : Bool}
    (hexec : w.executor = .detecting answer) (hfacade : w.facade = some f) (hf : f.Attentive)
    (hjob : f.job =
      [.start .phone (.startRecognize (some uuid) started stopCallback sourceStarted)])
    : w.Finishes := by
  refine .of_settled hexec hfacade hf (by simp [hjob]) fun v g hv hg hattentive hgjob hsettled => ?_
  obtain ⟨g', hstep⟩ : ∃ g', g.step .proceed = some g' := by
    simp [Facade.step, Facade.proceed, hgjob, hjob, Facade.call, Facade.impl, hsettled]
  have hattentive' := step_attentive hattentive (fun _ _ heq => by cases heq) hstep
  refine .of_step hg (.inl rfl) hstep ?_
  rcases hattentive.proceed_start (hgjob.trans hjob) hstep with ⟨-, hnil⟩ | ⟨-, hawait, -⟩
  · refine .of_idle ?_
    rw [(advance_detecting hv).1, hnil]
    rfl
  · have hv' := (advance_detecting (f := g) (g := g') (e := .proceed) hv).1
    rw [hawait] at hv'
    exact finishes_await hv' facade_advance hattentive' hawait

lemma Responsive.finishes (h : w.Responsive) (hexec : w.executor = .detecting answer) :
    w.Finishes := by
  obtain ⟨f, hfacade, hcarries⟩ := h.carried answer hexec
  have hf := h.facade f hfacade
  cases answer with
  | some answer => exact finishes_await hexec hfacade hf hcarries
  | none =>
    rcases hcarries with ⟨uuid, a, hjob⟩ | ⟨uuid, started, stopCallback, sourceStarted, hjob⟩
    · obtain ⟨g, hstep⟩ : ∃ g, f.step .proceed = some g := by
        simp [Facade.step, Facade.proceed, hjob]
      have hattentive := step_attentive hf (fun _ _ heq => by cases heq) hstep
      refine .of_step hfacade (.inl rfl) hstep ?_
      rcases hf.proceed_trigger hjob hstep with ⟨-, hnil⟩ | ⟨-, -, _, _, _, _, hstart⟩
      · refine .of_idle ?_
        rw [(advance_detecting hexec).1, hnil]
        rfl
      · have hgexec := (advance_detecting (f := f) (g := g) (e := .proceed) hexec).1
        rw [hstart] at hgexec
        exact finishes_start hgexec facade_advance hattentive hstart
    · exact finishes_start hexec hfacade hf hjob

theorem run_answered {es : List DetectorEvent}
    (hfav : Along step (fun w e _ => w.Favourable e) {} es) (hrun : run step {} es = some w) :
    none ∉ w.detections ∧ ∀ answer, w.executor = .detecting answer → w.Finishes := by
  have hstep : ∀ w e v, Responsive w → w.Favourable e → step w e = some v → v.Responsive :=
    fun _ _ _ h hf hs => step_responsive h hf hs
  have hresponsive : w.Responsive := run_invariant hstep responsive_initial hfav hrun
  exact ⟨hresponsive.answered, fun answer hexec => hresponsive.finishes hexec⟩

def engineReady : List DetectorEvent :=
  [.post .createEngine, .take, .initDefaultImpl true, .createEngineImpl .idle ⟨true, true, true⟩,
    .facade .proceed, .facade .proceed, .facade (.internal .phone (.initDone (some 0))),
    .facade (.report .phone)]

def twoDetections : List DetectorEvent :=
  engineReady ++
    [.post (.onDetected 1), .post (.onDetected 2), .take, .detect ⟨true, true, true⟩,
      .facade .proceed, .facade .proceed, .facade (.report .phone), .facade .proceed,
      .take, .detect ⟨true, true, true⟩, .facade .proceed]

theorem run_answered_twice :
    ∃ w, run step {} twoDetections = some w ∧
      w.detections = [some .recognizing, some .closed] ∧ none ∉ w.detections ∧
      ∀ answer, w.executor = .detecting answer → w.Finishes := by
  obtain ⟨w, hrun, hanswers⟩ : ∃ w, run step {} twoDetections = some w ∧
      w.detections = [some .recognizing, some .closed] := ⟨_, rfl, rfl⟩
  refine ⟨w, hrun, hanswers, run_answered ?_ hrun⟩
  repeat' first
    | exact along_nil _
    | refine .of_step rfl trivial ?_
    | refine .of_step rfl (fun _ => rfl) ?_

theorem headset_swallows_detection :
    ¬ ∀ es w, run step {} es = some w →
      none ∉ w.detections ∧ ∀ answer, w.executor = .detecting answer → w.Finishes := by
  intro h
  let swallowed : List DetectorEvent :=
    [.registerDevice defaultMacAddress .headset "s" true, .refresh, .notify 0 ⟨true, true, true⟩,
      .facade .proceed, .facade .proceed, .facade (.report .accessory), .facade .proceed,
      .facade .proceed, .post (.onDetected 1), .take, .detect ⟨true, true, true⟩, .facade .proceed,
      .facade .proceed]
  have hanswered := (h (engineReady ++ swallowed) _ rfl).1
  exact hanswered (by decide)

end Detector
end IntellVoice.Wakeup
