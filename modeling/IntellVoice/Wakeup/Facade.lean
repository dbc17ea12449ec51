import IntellVoice.Library.Run
import IntellVoice.Wakeup.Impl

/-! `WakeupEngineImplFacade` owns the phone's and an accessory's implementation. -/

namespace IntellVoice.Wakeup
open Transition Utils Option

inductive ProcessType where
  | idle
  | wakeupPhone
  | wakeupHeadset
  | wakeupGlasses
  | wispherPhone
  | other (value : Int)
deriving DecidableEq

def ImplKind.process : ImplKind → ProcessType
  | .phone => .wakeupPhone
  | .headset => .wakeupHeadset
  | .glasses => .wakeupGlasses

structure Impl where
  kind : ImplKind
  processType : ProcessType
  state : EngineState := .idle
  reported : EngineState := .idle
  data : ImplData := {}

namespace Impl

def settled (i : Impl) : Bool := i.state = i.reported

def handle (i : Impl) (m : StateMsg) : Int × Impl :=
  let (ret, st, d) := i.kind.machine.handleMsg i.state m i.data
  (ret, { i with state := st, data := d })

end Impl

inductive WakeupDeviceType where
  | phone
  | headset
  | glasses
  | aiGlasses
deriving DecidableEq

structure WakeupDeviceDetail where
  type : WakeupDeviceType
  macAddress : String
  needSecondStageWakeup : Bool := false
  serviceName : String := ""
  object : Nat := 0
deriving DecidableEq

def Impl.prepare (i : Impl) (device : WakeupDeviceDetail) : Impl :=
  match i.kind with
  | .glasses =>
    { i with data := { i.data with needSecondStageWakeup := device.needSecondStageWakeup } }
  | _ => i

def defaultMacAddress : String := "default_mac_address_phone"
def proximalWakeupModelUuid : Int := 2

inductive WakeupImpl where
  | null
  | phone
  | accessory (impl : Impl)

inductive Target where
  | phone
  | accessory
deriving DecidableEq

structure StartAnswers where
  started : Bool
  stopCallback : Bool
  sourceStarted : Bool

structure CreateAnswers where
  made : Bool
  created : Bool
  attached : Bool

def StateMsg.ofClient (m : StateMsg) : Bool :=
  match m.msgId with
  | .stopRecognize | .startCapturer | .read | .stopCapturer => true
  | .release | .releaseAdapter | .resetAdapter => true
  | .setParam | .getParam | .getWakeupPcm => true
  | _ => false

def StateMsg.ofThreads (m : StateMsg) : Bool :=
  match m.msgId with
  | .initDone | .recognizeComplete => true
  | .recognizingTimeout | .recognizeCompleteTimeout | .readCapturerTimeout => true
  | _ => false

inductive Command where
  | handle (t : Target) (m : StateMsg)
  | await (t : Target)
  | route (m m' : StateMsg)
  | trigger (uuid : Int) (macAddress : String) (answers : StartAnswers)
  | start (t : Target) (m : StateMsg)
  | destroy (info : WakeupDeviceDetail) (answers : CreateAnswers)
  | drop (info : WakeupDeviceDetail) (answers : CreateAnswers)
  | create (info : WakeupDeviceDetail) (answers : CreateAnswers)
  | init (m : StateMsg)
  | announce

/-- The wakeup engine that hands calls to its phone or accessory implementation. -/
structure Facade where
  phone : Impl
  wakeupImpl : WakeupImpl := .null
  wakeupDevice : Option WakeupDeviceDetail := none
  callback : Option Nat := none
  curState : EngineState := .idle
  curProcess : ProcessType := .idle
  job : List Command := []
  closes : Nat := 0

namespace Facade

def impl (f : Facade) : Target → Option Impl
  | .phone => some f.phone
  | .accessory =>
    match f.wakeupImpl with
    | .accessory i => some i
    | _ => none

def setImpl (f : Facade) (t : Target) (i : Impl) : Facade :=
  match t with
  | .phone => { f with phone := i }
  | .accessory => { f with wakeupImpl := .accessory i }

def wakeupTarget (f : Facade) : Option Target :=
  match f.wakeupImpl with
  | .null => none
  | .phone => some .phone
  | .accessory _ => some .accessory

def getCurrentImpl (f : Facade) : Option Target :=
  if f.curProcess = .wispherPhone then some .phone else f.wakeupTarget

def onStateChange (f : Facade) (nextState : EngineState) (type : ProcessType) : Facade :=
  if type = .idle then f
  -- process enter
  else if !f.curState.inProcess && nextState.inProcess then
    { f with curState := nextState, curProcess := type }
  -- in process
  else if f.curState.inProcess && f.curProcess = type then
    if nextState.inProcess then { f with curState := nextState }
    else { f with curState := .idle, curProcess := .idle }
  else f

def call (f : Facade) (t : Target) (m : StateMsg) (rest : List Command) : Option (Int × Facade) :=
  match f.impl t with
  | none => none
  | some i =>
    if i.settled then
      let (ret, i') := i.handle m
      some (ret, { f.setImpl t i' with job := if i'.settled then rest else .await t :: rest })
    else none

def closeWakeupSource (f : Facade) : Facade := { f with closes := f.closes + 1 }

def startPhone (f : Facade) (uuid : Int) (a : StartAnswers) (rest : List Command) : Facade :=
  -- `GetEventValue`
  let type := if uuid = proximalWakeupModelUuid then .wispherPhone else .wakeupPhone
  { f with
    phone := { f.phone with processType := type }
    job := .start .phone
      (.startRecognize (some uuid) a.started a.stopCallback a.sourceStarted) :: rest }

def startAccessory (f : Facade) (i : Impl) (device : WakeupDeviceDetail) (a : StartAnswers)
    (rest : List Command) : Facade :=
  { f with
    wakeupImpl := .accessory (i.prepare device)
    job := .start .accessory
      (.startRecognize none a.started a.stopCallback a.sourceStarted) :: rest }

def onWakeupDetected (f : Facade) (uuid : Int) (macAddress : String) (a : StartAnswers)
    (rest : List Command) : Facade :=
  match f.wakeupDevice with
  | none => { f with job := rest }
  | some device =>
    if macAddress ≠ device.macAddress then
      let f := { f with job := rest }
      if macAddress = defaultMacAddress then f.closeWakeupSource else f
    else
      match f.wakeupImpl with
      | .null => { f with job := rest }
      | .phone => f.startPhone uuid a rest
      | .accessory i => f.startAccessory i device a rest

def onTriggerDetected (f : Facade) (uuid : Int) (macAddress : String) (a : StartAnswers)
    (rest : List Command) : Facade :=
  -- `ProcessCheck`
  if f.curState.inProcess then
    let f := { f with job := rest }
    if macAddress = defaultMacAddress then f.closeWakeupSource else f
  -- `OnWispherDetected`
  else if uuid = proximalWakeupModelUuid then f.startPhone uuid a rest
  else f.onWakeupDetected uuid macAddress a rest

def newAccessory (k : ImplKind) : Impl where
  kind := k
  processType := k.process
  data := { needSecondStageWakeup := k == .headset }

def createEngineImpl (f : Facade) (info : WakeupDeviceDetail) (a : CreateAnswers)
    (rest : List Command) : Facade :=
  let f := { f with wakeupDevice := some info }
  let accessory (k : ImplKind) : Facade :=
    if a.made then
      { f with
        wakeupImpl := .accessory (newAccessory k)
        job := .init (.init a.created a.attached) :: .announce :: rest }
    else { f with wakeupImpl := .null, job := .announce :: rest }
  match info.type with
  | .phone => { f with wakeupImpl := .phone, job := .announce :: rest }
  | .headset => accessory .headset
  | .aiGlasses => accessory .glasses
  | .glasses => { f with job := rest }

def proceed (f : Facade) : Option Facade :=
  match f.job with
  | [] => none
  | .handle t m :: rest => (f.call t m rest).map (·.2)
  | .await t :: rest =>
    match f.impl t with
    | none => none
    | some i => if i.settled then some { f with job := rest } else none
  | .route m m' :: rest =>
    match f.getCurrentImpl with
    | none => some { f with job := rest }
    | some .phone => some { f with job := .handle .phone m :: rest }
    | some .accessory => some { f with job := .handle .accessory m' :: rest }
  | .trigger uuid macAddress a :: rest => some (f.onTriggerDetected uuid macAddress a rest)
  | .start t m :: rest =>
    (f.call t m rest).map fun (ret, f') =>
      -- only the phone's implementation answers for a start that failed
      if t = .phone ∧ ret ≠ 0 then f'.closeWakeupSource else f'
  | .destroy info a :: rest =>
    (f.call .accessory .release rest).map fun (_, f') => { f' with job := .drop info a :: rest }
  | .drop info a :: rest =>
    match f.impl .accessory with
    | none => none
    | some i =>
      if i.settled then some { f with wakeupImpl := .null, job := .create info a :: rest } else none
  | .create info a :: rest => some (f.createEngineImpl info a rest)
  | .init m :: rest =>
    (f.call .accessory m rest).map fun (ret, f') =>
      if ret ≠ 0 then { f' with wakeupImpl := .phone, job := rest } else f'
  | .announce :: rest =>
    match f.callback, f.wakeupTarget with
    | some cb, some t => some { f with job := .handle t (.setListener (some ⟨some cb⟩)) :: rest }
    | _, _ => some { f with job := rest }

inductive Request where
  | handle (m m' : StateMsg)
  | saveCallback (cb : Option Nat)
  | trigger (uuid : Int) (macAddress : String) (answers : StartAnswers)
  | deviceChange (info : WakeupDeviceDetail) (answers : CreateAnswers)

inductive FacadeEvent where
  | request (r : Request)
  | proceed
  | internal (t : Target) (m : StateMsg)
  | report (t : Target)

def handle (f : Facade) (m m' : StateMsg) : List Command :=
  match m.msgId with
  -- control cmd - current impl and phone impl
  | .setListener | .release | .releaseAdapter | .resetAdapter =>
    match f.wakeupImpl with
    | .accessory _ => [.handle .phone m, .handle .accessory m']
    | _ => [.handle .phone m]
  -- wakeup cmd - current impl
  | .startRecognize | .stopRecognize | .startCapturer | .read | .stopCapturer => [.route m m']
  -- other function cmd - phone impl
  | _ => [.handle .phone m]

def saveCallback (f : Facade) (cb : Option Nat) : List Command :=
  .handle .phone (.setListener (some ⟨cb⟩)) ::
    (f.wakeupTarget.map fun t => Command.handle t (.setListener (some ⟨cb⟩))).toList

def updateWakeupEngineImpl (f : Facade) (info : WakeupDeviceDetail) (a : CreateAnswers) :
    List Command :=
  match f.wakeupImpl with
  | .accessory _ => [.destroy info a]
  | _ => [.create info a]

def accept (f : Facade) : Request → Option Facade
  | .handle m m' =>
    if m.ofClient ∧ m'.msgId = m.msgId then some { f with job := f.handle m m' } else none
  | .saveCallback cb => some { f with callback := cb, job := f.saveCallback cb }
  | .trigger uuid macAddress a => some { f with job := [.trigger uuid macAddress a] }
  | .deviceChange info a => some { f with job := f.updateWakeupEngineImpl info a }

def step (f : Facade) : FacadeEvent → Option Facade
  | .request r => if f.job.isEmpty then f.accept r else none
  | .proceed => f.proceed
  | .internal t m =>
    match f.impl t with
    | none => none
    | some i => if m.ofThreads ∧ i.settled then some (f.setImpl t (i.handle m).2) else none
  | .report t =>
    match f.impl t with
    | none => none
    | some i =>
      if i.settled then none
      else some ((f.setImpl t { i with reported := i.state }).onStateChange i.state i.processType)

def initial (type : ProcessType) (device : WakeupDeviceDetail) (a : CreateAnswers) : Facade where
  phone :=
    { kind := .phone
      processType := type
      state := .initializing
      reported := .initializing
      data := { adapter := some 0, adapters := 1, callback := true } }
  job := [.create device a]

def called (f : Facade) (t : Target) (i : Impl) (m : StateMsg) (rest : List Command) : Facade :=
  { f.setImpl t (i.handle m).2 with
    job := if (i.handle m).2.settled then rest else .await t :: rest }

inductive Triggered (f : Facade) (uuid : Int) (macAddress : String) (a : StartAnswers)
    (rest : List Command) : Facade → Prop
  | closed (hmac : macAddress = defaultMacAddress) :
      Triggered f uuid macAddress a rest ({ f with job := rest } : Facade).closeWakeupSource
  | foreign (hmac : macAddress ≠ defaultMacAddress) :
      Triggered f uuid macAddress a rest { f with job := rest }
  | swallowed (hdevice : ∀ device, f.wakeupDevice = some device → macAddress = device.macAddress ∧
        f.wakeupImpl = .null) :
      Triggered f uuid macAddress a rest { f with job := rest }
  | phone (hcheck : f.curState.inProcess = false)
      (hphone : uuid = proximalWakeupModelUuid ∨
        uuid ≠ proximalWakeupModelUuid ∧ f.wakeupImpl = .phone) :
      Triggered f uuid macAddress a rest (f.startPhone uuid a rest)
  | accessory {i : Impl} {device : WakeupDeviceDetail} (hcheck : f.curState.inProcess = false)
      (hdevice : f.wakeupDevice = some device) (hmac : macAddress = device.macAddress)
      (hwakeup : f.wakeupImpl = .accessory i) :
      Triggered f uuid macAddress a rest (f.startAccessory i device a rest)

inductive Created (f : Facade) (info : WakeupDeviceDetail) (a : CreateAnswers)
    (rest : List Command) : Facade → Prop
  | phone (htype : info.type = .phone) :
      Created f info a rest
        { f with
          wakeupDevice := some info, wakeupImpl := .phone, job := .announce :: rest }
  | accessory {k : ImplKind} (hk : k = .headset ∨ k = .glasses)
      (htype : info.type = .headset ∨ info.type = .aiGlasses) :
      Created f info a rest
        { f with
          wakeupDevice := some info
          wakeupImpl := .accessory (newAccessory k)
          job := .init (.init a.created a.attached) :: .announce :: rest }
  | failed (htype : info.type = .headset ∨ info.type = .aiGlasses) :
      Created f info a rest
        { f with
          wakeupDevice := some info, wakeupImpl := .null, job := .announce :: rest }
  | unknown (htype : info.type = .glasses) :
      Created f info a rest { f with wakeupDevice := some info, job := rest }

inductive Proceeded (f : Facade) : Command → List Command → Facade → Prop
  | handle {t i m rest} (hi : f.impl t = some i) (hsettled : i.settled) :
      Proceeded f (.handle t m) rest (f.called t i m rest)
  | await {t i rest} (hi : f.impl t = some i) (hsettled : i.settled) :
      Proceeded f (.await t) rest { f with job := rest }
  | unrouted {m m' rest} (hcurrent : f.getCurrentImpl = none) :
      Proceeded f (.route m m') rest { f with job := rest }
  | routed {m m' t n rest} (hcurrent : f.getCurrentImpl = some t) (hn : n = m ∨ n = m') :
      Proceeded f (.route m m') rest { f with job := .handle t n :: rest }
  | trigger {uuid macAddress a rest g} (h : f.Triggered uuid macAddress a rest g) :
      Proceeded f (.trigger uuid macAddress a) rest g
  | started {t i m rest} (hi : f.impl t = some i) (hsettled : i.settled)
      (hret : t = .phone → (i.handle m).1 = 0) :
      Proceeded f (.start t m) rest (f.called t i m rest)
  | refused {i m rest} (hi : f.impl .phone = some i) (hsettled : i.settled)
      (hret : (i.handle m).1 ≠ 0) :
      Proceeded f (.start .phone m) rest (f.called .phone i m rest).closeWakeupSource
  | destroy {info a i rest} (hi : f.impl .accessory = some i) (hsettled : i.settled) :
      Proceeded f (.destroy info a) rest
        { f.setImpl .accessory (i.handle .release).2 with job := .drop info a :: rest }
  | drop {info a i rest} (hi : f.impl .accessory = some i) (hsettled : i.settled) :
      Proceeded f (.drop info a) rest
        { f with wakeupImpl := .null, job := .create info a :: rest }
  | create {info a rest g} (h : f.Created info a rest g) : Proceeded f (.create info a) rest g
  | init {m i rest} (hi : f.impl .accessory = some i) (hsettled : i.settled) :
      Proceeded f (.init m) rest (f.called .accessory i m rest)
  | fallback {m i rest} (hi : f.impl .accessory = some i) (hsettled : i.settled) :
      Proceeded f (.init m) rest
        { f.setImpl .accessory (i.handle m).2 with wakeupImpl := .phone, job := rest }
  | announce {t msg rest} :
      Proceeded f .announce rest { f with job := .handle t (.setListener msg) :: rest }
  | unannounced {rest} : Proceeded f .announce rest { f with job := rest }

inductive Stepped (f : Facade) : FacadeEvent → Facade → Prop
  | handle {m m'} (hjob : f.job = []) (hm : m.ofClient) (hm' : m'.msgId = m.msgId) :
      Stepped f (.request (.handle m m')) { f with job := f.handle m m' }
  | saveCallback {cb} (hjob : f.job = []) :
      Stepped f (.request (.saveCallback cb)) { f with callback := cb, job := f.saveCallback cb }
  | trigger {uuid macAddress a} (hjob : f.job = []) :
      Stepped f (.request (.trigger uuid macAddress a))
        { f with job := [.trigger uuid macAddress a] }
  | deviceChange {info a} (hjob : f.job = []) :
      Stepped f (.request (.deviceChange info a)) { f with job := f.updateWakeupEngineImpl info a }
  | proceed {c rest g} (hjob : f.job = c :: rest) (h : f.Proceeded c rest g) : Stepped f .proceed g
  | internal {t i m} (hi : f.impl t = some i) (hm : m.ofThreads)
      (hsettled : i.settled) : Stepped f (.internal t m) (f.setImpl t (i.handle m).2)
  | report {t i} (hi : f.impl t = some i) (hsettled : i.settled = false) :
      Stepped f (.report t)
        ((f.setImpl t { i with reported := i.state }).onStateChange i.state i.processType)

variable {f g : Facade}

lemma call_eq_some {t : Target} {m : StateMsg} {rest : List Command} {r : Int × Facade}
    (hcall : f.call t m rest = some r) :
    ∃ i, f.impl t = some i ∧ i.settled ∧ r = ((i.handle m).1, f.called t i m rest) := by
  unfold call at hcall
  split at hcall
  · cases hcall
  split at hcall
  · cases hcall
    exact ⟨_, ‹_›, ‹_›, rfl⟩
  · cases hcall

lemma triggered (f : Facade) (uuid : Int) (macAddress : String) (a : StartAnswers)
    (rest : List Command) :
    f.Triggered uuid macAddress a rest (f.onTriggerDetected uuid macAddress a rest) := by
  unfold onTriggerDetected
  split
  · split
    · exact .closed ‹_›
    · exact .foreign ‹_›
  have hcheck : f.curState.inProcess = false := Bool.eq_false_iff.2 ‹_›
  split
  · exact .phone hcheck (.inl ‹_›)
  unfold onWakeupDetected
  split
  · exact .swallowed fun device hdevice => by simp_all
  split
  · split
    · exact .closed ‹_›
    · exact .foreign ‹_›
  rename_i device hdevice hmac
  have hmac := not_not.1 hmac
  split
  · refine .swallowed fun device' hdevice' => ?_
    obtain rfl := some.inj (hdevice.symm.trans hdevice')
    exact ⟨hmac, ‹_›⟩
  · exact .phone hcheck (.inr ⟨‹_›, ‹_›⟩)
  · exact .accessory hcheck hdevice hmac ‹_›

lemma created (f : Facade) (info : WakeupDeviceDetail) (a : CreateAnswers) (rest : List Command) :
    f.Created info a rest (f.createEngineImpl info a rest) := by
  unfold createEngineImpl
  cases htype : info.type with
  | phone => exact .phone htype
  | glasses => exact .unknown htype
  | headset =>
    simp only
    split
    · exact .accessory (.inl rfl) (.inl htype)
    · exact .failed (.inl htype)
  | aiGlasses =>
    simp only
    split
    · exact .accessory (.inr rfl) (.inr htype)
    · exact .failed (.inr htype)

lemma proceed_cases (hstep : f.proceed = some g) :
    ∃ c rest, f.job = c :: rest ∧ f.Proceeded c rest g := by
  unfold proceed at hstep
  split at hstep
  · cases hstep
  · rename_i t m rest hjob
    obtain ⟨_, hcall, rfl⟩ := map_eq_some_iff.1 hstep
    obtain ⟨i, hi, hsettled, rfl⟩ := call_eq_some hcall
    exact ⟨_, rest, hjob, .handle hi hsettled⟩
  · split at hstep
    · cases hstep
    · obtain ⟨hsettled, ⟨⟩⟩ := ite_none_right_eq_some.1 hstep
      exact ⟨_, _, ‹_›, .await ‹_› hsettled⟩
  · split at hstep <;> cases hstep
    · exact ⟨_, _, ‹_›, .unrouted ‹_›⟩
    · exact ⟨_, _, ‹_›, .routed ‹_› (.inl rfl)⟩
    · exact ⟨_, _, ‹_›, .routed ‹_› (.inr rfl)⟩
  · cases hstep
    exact ⟨_, _, ‹_›, .trigger (triggered ..)⟩
  · rename_i t m rest hjob
    obtain ⟨_, hcall, rfl⟩ := map_eq_some_iff.1 hstep
    obtain ⟨i, hi, hsettled, rfl⟩ := call_eq_some hcall
    refine ⟨_, rest, hjob, ?_⟩
    by_cases hrefused : t = .phone ∧ (i.handle m).1 ≠ 0
    · simp only [hrefused]
      obtain ⟨rfl, hret⟩ := hrefused
      simpa [hret] using Proceeded.refused hi hsettled hret
    · simp only [hrefused, if_false]
      exact .started hi hsettled fun ht => not_not.1 fun hret => hrefused ⟨ht, hret⟩
  · rename_i info a rest hjob
    obtain ⟨_, hcall, rfl⟩ := map_eq_some_iff.1 hstep
    obtain ⟨i, hi, hsettled, rfl⟩ := call_eq_some hcall
    exact ⟨_, rest, hjob, .destroy hi hsettled⟩
  · split at hstep
    · cases hstep
    · obtain ⟨hsettled, ⟨⟩⟩ := ite_none_right_eq_some.1 hstep
      exact ⟨_, _, ‹_›, .drop ‹_› hsettled⟩
  · cases hstep
    exact ⟨_, _, ‹_›, .create (created ..)⟩
  · rename_i m rest hjob
    obtain ⟨_, hcall, rfl⟩ := map_eq_some_iff.1 hstep
    obtain ⟨i, hi, hsettled, rfl⟩ := call_eq_some hcall
    refine ⟨_, rest, hjob, ?_⟩
    simp only
    split
    · exact .fallback hi hsettled
    · exact .init hi hsettled
  · split at hstep <;> cases hstep
    · exact ⟨_, _, ‹_›, .announce⟩
    · exact ⟨_, _, ‹_›, .unannounced⟩

lemma step_cases {e : FacadeEvent} (hstep : f.step e = some g) : f.Stepped e g := by
  cases e with
  | request r =>
    obtain ⟨hempty, haccept⟩ := ite_none_right_eq_some.1 hstep
    have hjob := List.isEmpty_iff.1 hempty
    cases r with
    | handle m m' =>
      obtain ⟨⟨hm, hm'⟩, ⟨⟩⟩ := ite_none_right_eq_some.1 haccept
      exact .handle hjob hm hm'
    | saveCallback cb =>
      cases haccept
      exact .saveCallback hjob
    | trigger uuid macAddress a =>
      cases haccept
      exact .trigger hjob
    | deviceChange info a =>
      cases haccept
      exact .deviceChange hjob
  | proceed =>
    obtain ⟨c, rest, hjob, hproceeded⟩ := proceed_cases hstep
    exact .proceed hjob hproceeded
  | internal t m =>
    simp only [step] at hstep
    split at hstep
    · cases hstep
    · obtain ⟨⟨hm, hsettled⟩, ⟨⟩⟩ := ite_none_right_eq_some.1 hstep
      exact .internal ‹_› hm hsettled
  | report t =>
    simp only [step] at hstep
    split at hstep
    · cases hstep
    split at hstep
    · cases hstep
    · cases hstep
      exact .report ‹_› (Bool.eq_false_iff.2 ‹_›)

end Facade
end IntellVoice.Wakeup
