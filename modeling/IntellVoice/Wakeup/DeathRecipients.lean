import IntellVoice.Library.OrderedMap
import IntellVoice.Wakeup.DeviceManager

/-! An accessory is registered by the service that owns it. -/

namespace IntellVoice.Wakeup
open Transition OrderedMap

structure DeathRecipient where
  serviceName : String
  object : Nat
deriving DecidableEq

structure WakeupDeviceInfo where
  macAddress : String
  type : Option WakeupDeviceType
  serviceName : String
  needSecondStageWakeup : Bool := false

inductive AccessoryCall where
  | registering (info : WakeupDeviceInfo)
  | counting (serviceName : String)
  | removing (serviceName : String)

/-- The devices and the death recipients kept for their services. -/
structure Accessories where
  devices : EngineDeviceManager := .initial
  serviceDeathRecipientObj : OrderedMap String Nat := ∅
  serviceDeathRecipient : OrderedMap String (Option DeathRecipient) := ∅
  made : Nat := 0
  added : List (Nat × DeathRecipient) := []
  calls : Nat → Option AccessoryCall := fun _ => none

structure RecipientAnswers where
  permission : Bool
  allocated : Bool
  added : Bool

namespace Accessories
variable (s : Accessories)

def setCall (thread : Nat) (call : Option AccessoryCall) : Accessories :=
  { s with calls := Function.update s.calls thread call }

def registerDeviceDeathRecipient (serviceName : String) (object : Nat) (a : RecipientAnswers) :
    Bool × Accessories :=
  if serviceName = "" then (false, s)
  else
    let recipient : DeathRecipient := ⟨serviceName, s.made⟩
    let s := { s with
      serviceDeathRecipientObj := s.serviceDeathRecipientObj.set serviceName object
      serviceDeathRecipient :=
        s.serviceDeathRecipient.set serviceName (if a.allocated then some recipient else none)
      made := s.made + 1 }
    if !a.allocated then (false, s)
    else if !a.added then
      (false, { s with
        serviceDeathRecipientObj := s.serviceDeathRecipientObj.erase serviceName
        serviceDeathRecipient := s.serviceDeathRecipient.erase serviceName })
    else (true, { s with added := (object, recipient) :: s.added })

def deregisterDeviceDeathRecipient (serviceName : String) (removed : Bool) : Bool × Accessories :=
  if serviceName = "" then (false, s)
  else
    match s.serviceDeathRecipientObj.find? serviceName with
    | none => (false, s)
    | some object =>
      match s.serviceDeathRecipient.find? serviceName with
      | some (some recipient) =>
        if removed then
          (true, { s with
            serviceDeathRecipientObj := s.serviceDeathRecipientObj.erase serviceName
            serviceDeathRecipient := s.serviceDeathRecipient.erase serviceName
            added := s.added.erase (object, recipient) })
        else (false, s)
      | _ =>
        (false, { s with
          serviceDeathRecipientObj := s.serviceDeathRecipientObj.erase serviceName })

def registerDevice (info : WakeupDeviceInfo) : Accessories :=
  match info.type with
  | none => s
  | some type =>
    match s.devices.registerDevice info.macAddress type info.serviceName
        info.needSecondStageWakeup with
    | none => s
    | some devices => { s with devices := devices }

def serviceNameOf (macAddress : String) : String :=
  ((s.devices.deviceList.filter (·.macAddress = macAddress)).getLast?.map
    (·.serviceName)).getD ""

def countByServiceName (serviceName : String) : Nat :=
  s.devices.deviceList.countP (·.serviceName = serviceName)

def deviceServiceDie (recipient : DeathRecipient) : Accessories :=
  { s with devices := s.devices.removeByServiceName recipient.serviceName }

inductive Event where
  | registerDeviceInner (thread : Nat) (info : WakeupDeviceInfo) (object : Option Nat)
      (a : RecipientAnswers)
  | registerDeviceWakeupInfo (thread : Nat) (permission : Bool)
  | deregisterDeviceInner (thread : Nat) (macAddress : String) (permission : Bool)
  | countByServiceName (thread : Nat)
  | deregisterDeviceDeathRecipient (thread : Nat) (removed : Bool)

def step : Event → Option Accessories
  | .registerDeviceInner thread info object a =>
    match s.calls thread with
    | some _ => none
    | none =>
      match object with
      | none => some s
      | some object =>
        if !a.permission then some s
        else
          match s.registerDeviceDeathRecipient info.serviceName object a with
          | (false, s) => some s
          | (true, s) => some (s.setCall thread (some (.registering info)))
  | .registerDeviceWakeupInfo thread permission =>
    match s.calls thread with
    | some (.registering info) =>
      some ((if permission then s.registerDevice info else s).setCall thread none)
    | _ => none
  | .deregisterDeviceInner thread macAddress permission =>
    match s.calls thread with
    | some _ => none
    | none =>
      if !permission then some s
      else
        match s.devices.deregisterDevice macAddress with
        | none => some s
        | some devices =>
          some ({ s with devices := devices }.setCall thread
            (some (.counting (s.serviceNameOf macAddress))))
  | .countByServiceName thread =>
    match s.calls thread with
    | some (.counting serviceName) =>
      some (s.setCall thread
        (if s.countByServiceName serviceName = 0 then some (.removing serviceName) else none))
    | _ => none
  | .deregisterDeviceDeathRecipient thread removed =>
    match s.calls thread with
    | some (.removing serviceName) =>
      some ((s.deregisterDeviceDeathRecipient serviceName removed).2.setCall thread none)
    | _ => none

structure Records (serviceName : String) (object : Nat) (recipient : DeathRecipient) : Prop where
  obj : s.serviceDeathRecipientObj.find? serviceName = some object
  entry : s.serviceDeathRecipient.find? serviceName = some (some recipient)
  added : (object, recipient) ∈ s.added
  service : recipient.serviceName = serviceName

def Watches (serviceName : String) : Prop :=
  ∃ object recipient, s.Records serviceName object recipient

def DevicesWatched : Prop :=
  ∀ device ∈ s.devices.deviceList, device.object ≠ EngineDeviceManager.defaultWakeupDevice.object →
    ∃ object recipient, s.Records device.serviceName object recipient ∧
      device ∉ (s.deviceServiceDie recipient).devices.deviceList

def Needs (serviceName : String) : Prop :=
  (∃ device ∈ s.devices.deviceList,
    device.object ≠ EngineDeviceManager.defaultWakeupDevice.object ∧
      device.serviceName = serviceName) ∨
    ∃ thread info, s.calls thread = some (.registering info) ∧ info.serviceName = serviceName

/-- A service loses its death recipient only when no device needs it. -/
def Event.KeepsWatched : Event → Prop
  | .registerDeviceInner _ info object a =>
    a.permission → object ≠ none → (a.allocated && a.added) = false →
      ¬ s.Needs info.serviceName
  | .deregisterDeviceDeathRecipient thread removed =>
    removed → ∀ serviceName, s.calls thread = some (.removing serviceName) →
      ¬ s.Needs serviceName
  | _ => True

inductive Recorded (serviceName : String) (object : Nat) (a : RecipientAnswers) :
    Bool → Accessories → Prop
  | noName (hname : serviceName = "") : Recorded serviceName object a false s
  | notMade (hallocated : a.allocated = false) :
      Recorded serviceName object a false
        { s with
          serviceDeathRecipientObj := s.serviceDeathRecipientObj.set serviceName object
          serviceDeathRecipient := s.serviceDeathRecipient.set serviceName none
          made := s.made + 1 }
  | notAdded (hadded : a.added = false) :
      Recorded serviceName object a false
        { s with
          serviceDeathRecipientObj :=
            (s.serviceDeathRecipientObj.set serviceName object).erase serviceName
          serviceDeathRecipient :=
            (s.serviceDeathRecipient.set serviceName (some ⟨serviceName, s.made⟩)).erase serviceName
          made := s.made + 1 }
  | added (hallocated : a.allocated) (hadded : a.added) :
      Recorded serviceName object a true
        { s with
          serviceDeathRecipientObj := s.serviceDeathRecipientObj.set serviceName object
          serviceDeathRecipient :=
            s.serviceDeathRecipient.set serviceName (some ⟨serviceName, s.made⟩)
          made := s.made + 1
          added := (object, ⟨serviceName, s.made⟩) :: s.added }

inductive Removed (serviceName : String) (removed : Bool) : Accessories → Prop
  | kept : Removed serviceName removed s
  | noRecipient (hnone : ∀ recipient,
      s.serviceDeathRecipient.find? serviceName ≠ some (some recipient)) :
      Removed serviceName removed
        { s with
          serviceDeathRecipientObj := s.serviceDeathRecipientObj.erase serviceName }
  | removed (object : Nat) (recipient : DeathRecipient) (hremoved : removed)
      (hentry : s.serviceDeathRecipient.find? serviceName = some (some recipient)) :
      Removed serviceName removed
        { s with
          serviceDeathRecipientObj := s.serviceDeathRecipientObj.erase serviceName
          serviceDeathRecipient := s.serviceDeathRecipient.erase serviceName
          added := s.added.erase (object, recipient) }

variable {s} {t : Accessories} {name : String} {object : Nat} {a : RecipientAnswers}

variable {ok : Bool} {info : WakeupDeviceInfo}

lemma recorded_of_eq (h : s.registerDeviceDeathRecipient name object a = (ok, t)) :
    s.Recorded name object a ok t := by
  unfold registerDeviceDeathRecipient at h
  split at h
  · rename_i hname
    cases h
    exact .noName hname
  obtain ⟨permission, allocated, added⟩ := a
  cases allocated with
  | false =>
    cases h
    exact .notMade rfl
  | true =>
    cases added with
    | false =>
      cases h
      exact .notAdded rfl
    | true =>
      cases h
      exact .added rfl rfl

lemma removed_deregisterDeviceDeathRecipient (s : Accessories) (name : String) (removed : Bool) :
    s.Removed name removed (s.deregisterDeviceDeathRecipient name removed).2 := by
  unfold deregisterDeviceDeathRecipient
  split
  · exact .kept
  split
  · exact .kept
  rename_i object hobj
  split
  · rename_i recipient hentry
    cases removed with
    | false => exact .kept
    | true => exact .removed object recipient rfl hentry
  · rename_i hnone
    exact .noRecipient hnone

lemma Recorded.frame (h : s.Recorded name object a ok t) :
    t.devices = s.devices ∧ t.calls = s.calls := by
  cases h with
  | noName hname | notMade hallocated | notAdded hadded | added hallocated hadded =>
    exact ⟨rfl, rfl⟩

lemma Removed.frame {removed : Bool} (h : s.Removed name removed t) :
    t.devices = s.devices ∧ t.calls = s.calls := by
  cases h with
  | kept | noRecipient hnone | removed object recipient hremoved hentry => exact ⟨rfl, rfl⟩

def Owned (s : Accessories) : Prop :=
  ∀ name recipient, s.serviceDeathRecipient.find? name = some (some recipient) →
    recipient.serviceName = name

lemma Owned.set {recipients : OrderedMap String (Option DeathRecipient)}
    {entry : Option DeathRecipient} (h : s.Owned)
    (hentry : ∀ recipient, entry = some recipient → recipient.serviceName = name)
    (hrecipients : recipients = s.serviceDeathRecipient.set name entry) :
    ∀ other recipient, recipients.find? other = some (some recipient) →
      recipient.serviceName = other := by
  intro other recipient hfind
  rw [hrecipients, find?_set] at hfind
  split at hfind
  · rename_i hsame
    rw [hsame]
    exact hentry recipient (Option.some.inj hfind)
  · exact h other recipient hfind

variable {other : String}

lemma find?_of_erase {α : Type*} {m : OrderedMap String α} {a : α}
    (h : (m.erase name).find? other = some a) : m.find? other = some a := by
  rw [find?_erase] at h
  split at h
  · cases h
  · exact h

lemma Owned.recorded (h : s.Owned) (hrecorded : s.Recorded name object a ok t) : t.Owned := by
  have hnew : ∀ recipient, some (⟨name, s.made⟩ : DeathRecipient) = some recipient →
      recipient.serviceName = name := by
    intro recipient heq
    rw [← Option.some.inj heq]
  cases hrecorded with
  | noName hname => exact h
  | notMade hallocated => exact h.set (fun recipient heq => by cases heq) rfl
  | notAdded hadded =>
    intro other recipient hfind
    exact h.set hnew rfl other recipient (find?_of_erase hfind)
  | added hallocated hadded => exact h.set hnew rfl

lemma Owned.removed {removed : Bool} (h : s.Owned) (hremoved : s.Removed name removed t) :
    t.Owned := by
  cases hremoved with
  | kept | noRecipient hnone => exact h
  | removed object recipient htrue hentry =>
    intro other recipient' hfind
    exact h other recipient' (find?_of_erase hfind)

lemma Watches.congr (h : s.Watches name)
    (hobj : t.serviceDeathRecipientObj = s.serviceDeathRecipientObj)
    (hrecipient : t.serviceDeathRecipient = s.serviceDeathRecipient) (hadded : t.added = s.added) :
    t.Watches name := by
  obtain ⟨object, recipient, hrecords⟩ := h
  refine ⟨object, recipient, ?_, ?_, ?_, hrecords.service⟩
  · rw [hobj]
    exact hrecords.obj
  · rw [hrecipient]
    exact hrecords.entry
  · rw [hadded]
    exact hrecords.added

lemma Watches.recorded (h : s.Watches other) (hrecorded : s.Recorded name object a ok t)
    (hne : other ≠ name) : t.Watches other := by
  obtain ⟨object', recipient, hobj, hentry, hadded, hservice⟩ := h
  cases hrecorded with
  | noName hname => exact ⟨object', recipient, hobj, hentry, hadded, hservice⟩
  | notMade hallocated =>
    refine ⟨object', recipient, ?_, ?_, hadded, hservice⟩
    · rw [find?_set_ne _ _ hne, hobj]
    · rw [find?_set_ne _ _ hne, hentry]
  | notAdded hnot =>
    refine ⟨object', recipient, ?_, ?_, hadded, hservice⟩
    · rw [find?_erase, if_neg hne, find?_set_ne _ _ hne, hobj]
    · rw [find?_erase, if_neg hne, find?_set_ne _ _ hne, hentry]
  | added hallocated hyes =>
    refine ⟨object', recipient, ?_, ?_, List.mem_cons_of_mem _ hadded, hservice⟩
    · rw [find?_set_ne _ _ hne, hobj]
    · rw [find?_set_ne _ _ hne, hentry]

lemma Recorded.watches (h : s.Recorded name object a true t) : t.Watches name := by
  cases h with
  | added hallocated hadded =>
    exact ⟨object, ⟨name, s.made⟩, find?_set_self _ _ _, find?_set_self _ _ _,
      List.mem_cons_self, rfl⟩

lemma Watches.removed {removed : Bool} (h : s.Watches other) (howned : s.Owned)
    (hremoved : s.Removed name removed t) (hne : other ≠ name) : t.Watches other := by
  obtain ⟨object, recipient, hobj, hentry, hadded, hservice⟩ := h
  cases hremoved with
  | kept => exact ⟨object, recipient, hobj, hentry, hadded, hservice⟩
  | noRecipient hnone =>
    refine ⟨object, recipient, ?_, hentry, hadded, hservice⟩
    rw [find?_erase, if_neg hne, hobj]
  | removed object' recipient' htrue hentry' =>
    refine ⟨object, recipient, ?_, ?_, ?_, hservice⟩
    · rw [find?_erase, if_neg hne, hobj]
    · rw [find?_erase, if_neg hne, hentry]
    · apply (List.mem_erase_of_ne ?_).2 hadded
      intro heq
      cases heq
      exact hne (hservice.symm.trans (howned name recipient hentry'))

lemma Watches.not_removed {removed : Bool} (h : s.Watches name)
    (hremoved : s.Removed name removed t) (hfalse : removed ≠ true) : t.Watches name := by
  cases hremoved with
  | kept => exact h
  | noRecipient hnone =>
    obtain ⟨object, recipient, hobj, hentry, hadded, hservice⟩ := h
    exact absurd hentry (hnone recipient)
  | removed object recipient htrue hentry => exact absurd htrue hfalse

lemma Needs.congr (h : t.Needs name) (hdevices : t.devices = s.devices)
    (hcalls : t.calls = s.calls) : s.Needs name := by
  rw [Needs, hdevices, hcalls] at h
  exact h

variable {thread : Nat}

lemma Needs.of_setCall {call : Option AccessoryCall} (h : (s.setCall thread call).Needs name)
    (hcall : ∀ info, call ≠ some (.registering info)) : s.Needs name := by
  rcases h with hdevice | ⟨thread', info, hregistering, hname⟩
  · exact .inl hdevice
  by_cases hsame : thread' = thread
  · subst hsame
    exact absurd (by simpa [setCall] using hregistering) (hcall info)
  · exact .inr ⟨thread', info, by simpa [setCall, hsame] using hregistering, hname⟩

lemma Needs.of_registering (h : (s.setCall thread (some (.registering info))).Needs name) :
    s.Needs name ∨ name = info.serviceName := by
  rcases h with hdevice | ⟨thread', info', hregistering, hname⟩
  · exact .inl (.inl hdevice)
  by_cases hsame : thread' = thread
  · subst hsame
    have heq : info = info' := by simpa [setCall] using hregistering
    rw [heq]
    exact .inr hname.symm
  · exact .inl (.inr ⟨thread', info', by simpa [setCall, hsame] using hregistering, hname⟩)

lemma Needs.of_devices {devices : EngineDeviceManager}
    (h : ({ s with devices := devices } : Accessories).Needs name)
    (hdevices : ∀ device ∈ devices.deviceList,
      device ∈ s.devices.deviceList ∨ s.Needs device.serviceName) : s.Needs name := by
  rcases h with ⟨device, hdevice, hobject, hname⟩ | hcall
  · rcases hdevices device hdevice with hold | hneeds
    · exact .inl ⟨device, hold, hobject, hname⟩
    · rw [← hname]
      exact hneeds
  · exact .inr hcall

lemma Needs.of_registerDevice (hcall : s.calls thread = some (.registering info))
    (h : (s.registerDevice info).Needs name) : s.Needs name := by
  unfold registerDevice at h
  split at h
  · exact h
  rename_i type htype
  split at h
  · exact h
  rename_i devices hregister
  refine h.of_devices fun device hdevice => ?_
  obtain ⟨-, hdevices⟩ := Option.ite_none_left_eq_some.1 hregister
  cases hdevices
  rcases List.mem_append.1 hdevice with hold | hnew
  · exact .inl (List.mem_filter.1 hold).1
  · obtain rfl := List.mem_singleton.1 hnew
    exact .inr (.inr ⟨thread, info, hcall, rfl⟩)

lemma registerDevice_frame (s : Accessories) (info : WakeupDeviceInfo) :
    (s.registerDevice info).serviceDeathRecipientObj = s.serviceDeathRecipientObj ∧
      (s.registerDevice info).serviceDeathRecipient = s.serviceDeathRecipient ∧
      (s.registerDevice info).added = s.added := by
  unfold registerDevice
  split
  · exact ⟨rfl, rfl, rfl⟩
  · split <;> exact ⟨rfl, rfl, rfl⟩

structure NeedsWatched (s : Accessories) : Prop where
  owned : s.Owned
  watched : ∀ name, s.Needs name → s.Watches name

lemma NeedsWatched.devicesWatched (h : s.NeedsWatched) : s.DevicesWatched := by
  intro device hdevice hobject
  obtain ⟨object, recipient, hrecords⟩ :=
    h.watched device.serviceName (.inl ⟨device, hdevice, hobject, rfl⟩)
  refine ⟨object, recipient, hrecords, fun hmem => ?_⟩
  have hother := (List.mem_filter.1 hmem).2
  rw [hrecords.service] at hother
  simp at hother

lemma NeedsWatched.initial : NeedsWatched {} where
  owned name recipient hfind := by cases hfind
  watched name hneeds := by
    rcases hneeds with ⟨device, hdevice, hobject, -⟩ | ⟨thread, info, ⟨⟩, -⟩
    obtain rfl := List.mem_singleton.1 hdevice
    exact absurd rfl hobject

lemma NeedsWatched.of_needs (h : s.NeedsWatched)
    (hobj : t.serviceDeathRecipientObj = s.serviceDeathRecipientObj)
    (hrecipient : t.serviceDeathRecipient = s.serviceDeathRecipient) (hadded : t.added = s.added)
    (hneeds : ∀ name, t.Needs name → s.Needs name) : t.NeedsWatched where
  owned := by
    rw [Owned, hrecipient]
    exact h.owned
  watched name hname := (h.watched name (hneeds name hname)).congr hobj hrecipient hadded

lemma NeedsWatched.refused (h : s.NeedsWatched) (hrecorded : s.Recorded name object a false t)
    (hneeds : (a.allocated && a.added) = false → ¬ s.Needs name) : t.NeedsWatched := by
  obtain ⟨hdevices, hcalls⟩ := hrecorded.frame
  refine ⟨h.owned.recorded hrecorded, fun other hother => ?_⟩
  have hbefore := hother.congr hdevices hcalls
  by_cases hsame : other = name
  · subst hsame
    cases hrecorded with
    | noName hname => exact h.watched other hbefore
    | notMade hallocated => exact absurd hbefore (hneeds (by simp [hallocated]))
    | notAdded hadded => exact absurd hbefore (hneeds (by simp [hadded]))
  · exact (h.watched other hbefore).recorded hrecorded hsame

lemma NeedsWatched.registered (h : s.NeedsWatched)
    (hrecorded : s.Recorded info.serviceName object a true t) :
    (t.setCall thread (some (.registering info))).NeedsWatched := by
  obtain ⟨hdevices, hcalls⟩ := hrecorded.frame
  have howned : t.Owned := h.owned.recorded hrecorded
  refine ⟨howned, fun other hother => ?_⟩
  refine Watches.congr (s := t) ?_ rfl rfl rfl
  by_cases hsame : other = info.serviceName
  · rw [hsame]
    exact hrecorded.watches
  rcases hother.of_registering with hneeds | hname
  · exact (h.watched other (hneeds.congr hdevices hcalls)).recorded hrecorded hsame
  · exact absurd hname hsame

lemma NeedsWatched.removed {removed : Bool} (h : s.NeedsWatched)
    (hremoved : s.Removed name removed t) (hneeds : removed → ¬ s.Needs name) :
    (t.setCall thread none).NeedsWatched := by
  obtain ⟨hdevices, hcalls⟩ := hremoved.frame
  have howned : t.Owned := h.owned.removed hremoved
  refine ⟨howned, fun other hother => ?_⟩
  have hbefore := (hother.of_setCall (by simp)).congr hdevices hcalls
  have hwatched := h.watched other hbefore
  refine Watches.congr (s := t) ?_ rfl rfl rfl
  by_cases hsame : other = name
  · subst hsame
    exact hwatched.not_removed hremoved fun htrue => hneeds htrue hbefore
  · exact hwatched.removed h.owned hremoved hsame

lemma NeedsWatched.step {e : Event} (h : s.NeedsWatched) (hkeeps : e.KeepsWatched s)
    (hstep : s.step e = some t) : t.NeedsWatched := by
  cases e with
  | registerDeviceInner thread info object a =>
    simp only [Accessories.step] at hstep
    split at hstep
    · cases hstep
    split at hstep
    · cases hstep
      exact h
    rename_i object
    split at hstep
    · cases hstep
      exact h
    rename_i hpermission
    have hneeds := hkeeps (by simpa using hpermission) (by simp)
    split at hstep
    · rename_i t' hregister
      cases hstep
      exact h.refused (recorded_of_eq hregister) hneeds
    · rename_i t' hregister
      cases hstep
      exact h.registered (recorded_of_eq hregister)
  | registerDeviceWakeupInfo thread permission =>
    simp only [Accessories.step] at hstep
    split at hstep
    · rename_i info hcall
      cases hstep
      cases permission with
      | false =>
        exact h.of_needs rfl rfl rfl fun name hname => hname.of_setCall (by simp)
      | true =>
        obtain ⟨hobj, hrecipient, hadded⟩ := s.registerDevice_frame info
        refine h.of_needs hobj hrecipient hadded fun name hname => ?_
        exact Needs.of_registerDevice hcall (hname.of_setCall (by simp))
    · cases hstep
  | deregisterDeviceInner thread macAddress permission =>
    simp only [Accessories.step] at hstep
    split at hstep
    · cases hstep
    split at hstep
    · cases hstep
      exact h
    split at hstep
    · cases hstep
      exact h
    rename_i devices hderegister
    cases hstep
    refine h.of_needs rfl rfl rfl fun name hname => ?_
    refine (hname.of_setCall (by simp)).of_devices fun device hdevice => .inl ?_
    obtain ⟨-, hdevices⟩ := Option.ite_none_left_eq_some.1 hderegister
    cases hdevices
    exact (List.mem_filter.1 hdevice).1
  | countByServiceName thread =>
    simp only [Accessories.step] at hstep
    split at hstep
    · cases hstep
      refine h.of_needs rfl rfl rfl fun name hname => hname.of_setCall fun info => ?_
      split <;> simp
    · cases hstep
  | deregisterDeviceDeathRecipient thread removed =>
    simp only [Accessories.step] at hstep
    split at hstep
    · rename_i name hcall
      cases hstep
      exact h.removed (s.removed_deregisterDeviceDeathRecipient name removed)
        fun htrue => hkeeps htrue name hcall
    · cases hstep

theorem run_devices_watched (es : List Event) {s : Accessories}
    (hkeeps : Along Accessories.step (fun s e _ => e.KeepsWatched s) {} es)
    (hrun : run Accessories.step {} es = some s) : s.DevicesWatched := by
  have hstep : ∀ s e t, NeedsWatched s → Event.KeepsWatched s e → Accessories.step s e = some t →
      t.NeedsWatched := fun _ _ _ h hk hst => h.step hk hst
  exact (run_invariant hstep .initial hkeeps hrun).devicesWatched

def glassesOf (macAddress serviceName : String) : WakeupDeviceInfo :=
  ⟨macAddress, some .glasses, serviceName, true⟩

theorem run_devices_watched_two_devices :
    ∃ s, run Accessories.step {} [.registerDeviceInner 1 (glassesOf "a" "s") (some 7)
      ⟨true, true, true⟩,
        .registerDeviceWakeupInfo 1 true,
        .registerDeviceInner 2 (glassesOf "b" "s") (some 7) ⟨true, true, true⟩,
        .registerDeviceWakeupInfo 2 true, .deregisterDeviceInner 1 "a" true,
        .countByServiceName 1] = some s ∧
      s.devices.deviceList.length = 2 ∧ s.DevicesWatched := by
  refine ⟨_, rfl, rfl, run_devices_watched
    [.registerDeviceInner 1 (glassesOf "a" "s") (some 7) ⟨true, true, true⟩,
      .registerDeviceWakeupInfo 1 true,
      .registerDeviceInner 2 (glassesOf "b" "s") (some 7) ⟨true, true, true⟩,
      .registerDeviceWakeupInfo 2 true, .deregisterDeviceInner 1 "a" true, .countByServiceName 1]
    ?_ rfl⟩
  refine .of_step rfl ?_ (.of_step rfl trivial (.of_step rfl ?_ (.of_step rfl trivial
    (.of_step rfl trivial (.of_step rfl trivial trivial)))))
  all_goals
    intro _ _ hfailed
    cases hfailed

theorem second_registration_drops_recipient :
    ∃ s, run Accessories.step {} [.registerDeviceInner 1 (glassesOf "a" "s") (some 7)
      ⟨true, true, true⟩,
        .registerDeviceWakeupInfo 1 true,
        .registerDeviceInner 1 (glassesOf "b" "s") (some 7) ⟨true, true, false⟩] = some s ∧
      (∀ thread, s.calls thread = none) ∧
      s.devices.deviceList.map (·.serviceName) = [defaultServiceName, "s"] ∧
        ¬ s.DevicesWatched := by
  refine ⟨_, rfl, fun thread => ?_, rfl, fun h => ?_⟩
  · rcases thread with _ | _ | thread <;> rfl
  · obtain ⟨object, recipient, hrecords, -⟩ :=
      h _ (List.mem_cons_of_mem _ List.mem_cons_self) (by decide)
    cases hrecords.obj

end Accessories
end IntellVoice.Wakeup
