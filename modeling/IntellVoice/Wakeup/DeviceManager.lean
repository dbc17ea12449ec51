import IntellVoice.Wakeup.Facade

/-! `EngineDeviceManager` keeps the devices and chooses the wakeup device. -/

namespace IntellVoice.Wakeup

def defaultServiceName : String := "default_service_name_phone"

structure AudioDeviceDescriptor where
  speaker : Bool
  macAddress : String

structure EngineDeviceManager where
  deviceList : List WakeupDeviceDetail
  audioMacAddress : String
  wakeupDevice : WakeupDeviceDetail
  objects : Nat

namespace EngineDeviceManager

def defaultWakeupDevice : WakeupDeviceDetail where
  type := .phone
  macAddress := defaultMacAddress
  needSecondStageWakeup := true
  serviceName := defaultServiceName

def initial : EngineDeviceManager where
  deviceList := [defaultWakeupDevice]
  audioMacAddress := defaultMacAddress
  wakeupDevice := defaultWakeupDevice
  objects := 1

def registerDevice (d : EngineDeviceManager) (macAddress : String) (type : WakeupDeviceType)
    (serviceName : String) (needSecondStageWakeup : Bool) : Option EngineDeviceManager :=
  if macAddress = "" then none
  else
    let device : WakeupDeviceDetail :=
      { type, macAddress, needSecondStageWakeup, serviceName, object := d.objects }
    some { d with
      deviceList := d.deviceList.filter (·.macAddress ≠ macAddress) ++ [device]
      objects := d.objects + 1 }

def deregisterDevice (d : EngineDeviceManager) (macAddress : String) : Option EngineDeviceManager :=
  if macAddress = "" then none
  else some { d with deviceList := d.deviceList.filter (·.macAddress ≠ macAddress) }

def removeByServiceName (d : EngineDeviceManager) (serviceName : String) : EngineDeviceManager :=
  { d with deviceList := d.deviceList.filter (·.serviceName ≠ serviceName) }

def updateAudioDevice (d : EngineDeviceManager) (desc : List AudioDeviceDescriptor) :
    EngineDeviceManager :=
  match desc with
  | [] => { d with audioMacAddress := defaultMacAddress }
  | first :: _ =>
    { d with audioMacAddress := if first.speaker then defaultMacAddress else first.macAddress }

def refreshWakeupDevice (d : EngineDeviceManager) : EngineDeviceManager :=
  { d with
    wakeupDevice :=
      match d.deviceList.find? (·.macAddress = d.audioMacAddress) with
      | some device => device
      | none => d.deviceList.getLast?.getD defaultWakeupDevice }

end EngineDeviceManager

def WakeupDeviceDetail.Proper (d : WakeupDeviceDetail) : Prop :=
  d.macAddress = defaultMacAddress → d.type = .phone

namespace EngineDeviceManager
variable {d d' : EngineDeviceManager}

structure Proper (d : EngineDeviceManager) : Prop where
  listed : ∀ device ∈ d.deviceList, device.Proper
  chosen : d.wakeupDevice.Proper

lemma proper_defaultWakeupDevice : defaultWakeupDevice.Proper := fun _ => rfl

lemma proper_initial : initial.Proper where
  listed device hdevice := by
    obtain rfl := List.mem_singleton.1 hdevice
    exact proper_defaultWakeupDevice
  chosen := proper_defaultWakeupDevice

lemma Proper.filter (h : d.Proper) (p : WakeupDeviceDetail → Bool) :
    ({ d with deviceList := d.deviceList.filter p } : EngineDeviceManager).Proper where
  listed device hdevice := h.listed device (List.mem_filter.1 hdevice).1
  chosen := h.chosen

lemma Proper.registerDevice {macAddress serviceName : String} {type : WakeupDeviceType}
    {second : Bool} (h : d.Proper) (htype : macAddress = defaultMacAddress → type = .phone)
    (hd : d.registerDevice macAddress type serviceName second = some d') : d'.Proper := by
  unfold EngineDeviceManager.registerDevice at hd
  split at hd
  · cases hd
  cases hd
  refine ⟨fun device hdevice => ?_, h.chosen⟩
  rcases List.mem_append.1 hdevice with hold | hnew
  · exact h.listed device (List.mem_filter.1 hold).1
  · obtain rfl := List.mem_singleton.1 hnew
    exact htype

lemma Proper.deregisterDevice {macAddress : String} (h : d.Proper)
    (hd : d.deregisterDevice macAddress = some d') : d'.Proper := by
  unfold EngineDeviceManager.deregisterDevice at hd
  split at hd
  · cases hd
  · cases hd
    exact h.filter _

lemma Proper.updateAudioDevice (h : d.Proper) (desc : List AudioDeviceDescriptor) :
    (d.updateAudioDevice desc).Proper := by
  cases desc with
  | nil | cons first rest => exact ⟨h.listed, h.chosen⟩

lemma Proper.refreshWakeupDevice (h : d.Proper) : d.refreshWakeupDevice.Proper := by
  refine ⟨h.listed, ?_⟩
  unfold EngineDeviceManager.refreshWakeupDevice
  simp only
  split
  · exact h.listed _ (List.mem_of_find?_eq_some ‹_›)
  cases hlast : d.deviceList.getLast? with
  | none => exact proper_defaultWakeupDevice
  | some device => exact h.listed device (List.mem_of_getLast? hlast)

end EngineDeviceManager
end IntellVoice.Wakeup
