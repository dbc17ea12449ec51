import IntellVoice.Wakeup.DeviceManager

/-! Devices come and go, and the audio system tells which device it plays to. -/

namespace IntellVoice.Wakeup
open Transition List

inductive DeviceCall where
  | registerDevice (macAddress : String) (type : WakeupDeviceType) (serviceName : String)
      (needSecondStageWakeup : Bool)
  | deregisterDevice (macAddress : String)
  | removeByServiceName (serviceName : String)
  | updateAudioDevice (desc : List AudioDeviceDescriptor)
  | refresh

structure Registry where
  manager : EngineDeviceManager := .initial
  refreshes : Nat := 0
  output : List AudioDeviceDescriptor := []

namespace Registry

def refreshActiveDevice (r : Registry) (manager : EngineDeviceManager) : Registry :=
  { r with manager, refreshes := r.refreshes + 1 }

def step (r : Registry) : DeviceCall → Option Registry
  | .registerDevice macAddress type serviceName second =>
    (r.manager.registerDevice macAddress type serviceName second).map r.refreshActiveDevice
  | .deregisterDevice macAddress =>
    (r.manager.deregisterDevice macAddress).map r.refreshActiveDevice
  | .removeByServiceName serviceName =>
    some (r.refreshActiveDevice (r.manager.removeByServiceName serviceName))
  | .updateAudioDevice desc =>
    some { r.refreshActiveDevice (r.manager.updateAudioDevice desc) with output := desc }
  | .refresh =>
    if r.refreshes = 0 then none
    else some { r with manager := r.manager.refreshWakeupDevice, refreshes := r.refreshes - 1 }

def playsToSpeaker (r : Registry) : Bool :=
  match r.output with
  | [] => true
  | first :: _ => first.speaker

end Registry

namespace EngineDeviceManager
variable {d d' : EngineDeviceManager}

structure Sorted (d : EngineDeviceManager) : Prop where
  distinct : d.deviceList.Pairwise fun x y => x.macAddress ≠ y.macAddress
  ordered : d.deviceList.Pairwise fun x y => x.object < y.object
  known : ∀ x ∈ d.deviceList, x.object < d.objects

lemma sorted_initial : initial.Sorted where
  distinct := pairwise_singleton ..
  ordered := pairwise_singleton ..
  known x hx := by
    obtain rfl := mem_singleton.1 hx
    exact Nat.zero_lt_one

lemma Sorted.filter (h : d.Sorted) (p : WakeupDeviceDetail → Bool) :
    ({ d with deviceList := d.deviceList.filter p } : EngineDeviceManager).Sorted where
  distinct := h.distinct.sublist filter_sublist
  ordered := h.ordered.sublist filter_sublist
  known x hx := h.known x (mem_filter.1 hx).1

lemma Sorted.registerDevice {macAddress serviceName : String} {type : WakeupDeviceType}
    {second : Bool} (h : d.Sorted)
    (hd : d.registerDevice macAddress type serviceName second = some d') : d'.Sorted := by
  unfold EngineDeviceManager.registerDevice at hd
  split at hd
  · cases hd
  cases hd
  refine ⟨?_, ?_, ?_⟩
  · -- an earlier registration of the address is gone
    refine pairwise_append.2 ⟨(h.filter _).distinct, pairwise_singleton .., ?_⟩
    intro x hx y hy
    obtain rfl := mem_singleton.1 hy
    simpa using (mem_filter.1 hx).2
  · refine pairwise_append.2 ⟨(h.filter _).ordered, pairwise_singleton .., ?_⟩
    intro x hx y hy
    obtain rfl := mem_singleton.1 hy
    exact h.known x (mem_filter.1 hx).1
  · intro x hx
    show x.object < d.objects + 1
    rcases mem_append.1 hx with hold | hnew
    · have hlt := h.known x (mem_filter.1 hold).1
      omega
    · obtain rfl := mem_singleton.1 hnew
      exact Nat.lt_succ_self _

lemma Sorted.deregisterDevice {macAddress : String} (h : d.Sorted)
    (hd : d.deregisterDevice macAddress = some d') : d'.Sorted := by
  unfold EngineDeviceManager.deregisterDevice at hd
  split at hd
  · cases hd
  · cases hd
    exact h.filter _

lemma Sorted.updateAudioDevice (h : d.Sorted) (desc : List AudioDeviceDescriptor) :
    (d.updateAudioDevice desc).Sorted := by
  cases desc with
  | nil | cons first rest => exact ⟨h.distinct, h.ordered, h.known⟩

lemma Sorted.eq_of_macAddress (h : d.Sorted) {x y : WakeupDeviceDetail} (hx : x ∈ d.deviceList)
    (hy : y ∈ d.deviceList) (hmac : x.macAddress = y.macAddress) : x = y := by
  have hnodup : (d.deviceList.map (·.macAddress)).Nodup := pairwise_map.2 h.distinct
  exact inj_on_of_nodup_map hnodup hx hy hmac

def Current (d : EngineDeviceManager) : Prop := d.refreshWakeupDevice.wakeupDevice = d.wakeupDevice

lemma current_refreshWakeupDevice (d : EngineDeviceManager) : d.refreshWakeupDevice.Current := rfl

lemma Current.of_listed (h : d.Current) (hsorted : d.Sorted) {x : WakeupDeviceDetail}
    (hx : x ∈ d.deviceList) (hmac : x.macAddress = d.audioMacAddress) : d.wakeupDevice = x := by
  rw [← h]
  unfold refreshWakeupDevice
  cases hfind : d.deviceList.find? (·.macAddress = d.audioMacAddress) with
  | none => exact absurd hmac (by simpa using find?_eq_none.1 hfind x hx)
  | some y =>
    have hy := find?_some hfind
    exact hsorted.eq_of_macAddress (mem_of_find?_eq_some hfind) hx
      ((of_decide_eq_true hy).trans hmac.symm)

lemma Current.of_unlisted (h : d.Current)
    (hnone : ∀ x ∈ d.deviceList, x.macAddress ≠ d.audioMacAddress) {last : WakeupDeviceDetail}
    (hlast : d.deviceList.getLast? = some last) : d.wakeupDevice = last := by
  have hfind : d.deviceList.find? (·.macAddress = d.audioMacAddress) = none := by
    apply find?_eq_none.2
    intro x hx
    simpa using hnone x hx
  rw [← h]
  unfold refreshWakeupDevice
  simp only [hfind, hlast, Option.getD_some]

end EngineDeviceManager

def DeviceCall.SparesPhone : DeviceCall → Prop
  | .registerDevice macAddress _ _ _ => macAddress ≠ defaultMacAddress
  | .deregisterDevice macAddress => macAddress ≠ defaultMacAddress
  | .removeByServiceName serviceName => serviceName ≠ defaultServiceName
  | .updateAudioDevice _ => True
  | .refresh => True

namespace Registry
open EngineDeviceManager
variable {r t : Registry}

structure Chosen (r : Registry) : Prop where
  sorted : r.manager.Sorted
  playing : ∀ first rest, r.output = first :: rest → first.speaker = false →
    ∀ x ∈ r.manager.deviceList, x.macAddress = first.macAddress → r.manager.wakeupDevice = x
  last : ∀ first rest, r.output = first :: rest → first.speaker = false →
    (∀ x ∈ r.manager.deviceList, x.macAddress ≠ first.macAddress) →
    ∀ x, r.manager.deviceList.getLast? = some x → r.manager.wakeupDevice = x
  phone : r.playsToSpeaker → r.manager.wakeupDevice = defaultWakeupDevice

structure Kept (r : Registry) : Prop where
  sorted : r.manager.Sorted
  phone : defaultWakeupDevice ∈ r.manager.deviceList
  speaker : r.playsToSpeaker → r.manager.audioMacAddress = defaultMacAddress
  device : ∀ first rest, r.output = first :: rest → first.speaker = false →
    r.manager.audioMacAddress = first.macAddress
  current : r.refreshes = 0 → r.manager.Current

lemma Kept.chosen (h : r.Kept) (hquiet : r.refreshes = 0) : r.Chosen := by
  have hcurrent := h.current hquiet
  refine ⟨h.sorted, ?_, ?_, ?_⟩
  · intro first rest houtput hspeaker x hx hmac
    have haudio := h.device first rest houtput hspeaker
    exact hcurrent.of_listed h.sorted hx (hmac.trans haudio.symm)
  · intro first rest houtput hspeaker hnone x hlast
    have haudio := h.device first rest houtput hspeaker
    exact hcurrent.of_unlisted (fun y hy => haudio ▸ hnone y hy) hlast
  · intro hspeaker
    -- the phone is found in the list, under its own address
    exact hcurrent.of_listed h.sorted h.phone (h.speaker hspeaker).symm

lemma kept_initial : ({} : Registry).Kept where
  sorted := sorted_initial
  phone := mem_singleton.2 rfl
  speaker _ := rfl
  device _ _ houtput := by cases houtput
  current _ := rfl

lemma Kept.refreshActiveDevice (h : r.Kept) {manager : EngineDeviceManager}
    (hsorted : manager.Sorted) (hphone : defaultWakeupDevice ∈ manager.deviceList)
    (haudio : manager.audioMacAddress = r.manager.audioMacAddress) :
    (r.refreshActiveDevice manager).Kept where
  sorted := hsorted
  phone := hphone
  speaker hspeaker := haudio.trans (h.speaker hspeaker)
  device first rest houtput hspeaker := haudio.trans (h.device first rest houtput hspeaker)
  current hquiet := absurd hquiet (Nat.succ_ne_zero _)

lemma Kept.updateAudioDevice (h : r.Kept) (desc : List AudioDeviceDescriptor) :
    ({ r.refreshActiveDevice (r.manager.updateAudioDevice desc) with output := desc } :
      Registry).Kept where
  sorted := h.sorted.updateAudioDevice desc
  phone := by cases desc <;> exact h.phone
  speaker hspeaker := by
    cases desc with
    | nil => rfl
    | cons first rest => exact if_pos hspeaker
  device first rest houtput hspeaker := by
    cases houtput
    exact if_neg (Bool.eq_false_iff.1 hspeaker)
  current hquiet := absurd hquiet (Nat.succ_ne_zero _)

lemma Kept.step {c : DeviceCall} (h : r.Kept) (hspares : c.SparesPhone)
    (hstep : r.step c = some t) : t.Kept := by
  cases c with
  | registerDevice macAddress type serviceName second =>
    obtain ⟨manager, hd, rfl⟩ := Option.map_eq_some_iff.1 hstep
    have hsorted := h.sorted.registerDevice hd
    unfold EngineDeviceManager.registerDevice at hd
    split at hd
    · cases hd
    cases hd
    refine h.refreshActiveDevice hsorted
      (mem_append_left _ (mem_filter.2 ⟨h.phone, ?_⟩)) rfl
    exact decide_eq_true (Ne.symm hspares)
  | deregisterDevice macAddress =>
    obtain ⟨manager, hd, rfl⟩ := Option.map_eq_some_iff.1 hstep
    have hsorted := h.sorted.deregisterDevice hd
    unfold EngineDeviceManager.deregisterDevice at hd
    split at hd
    · cases hd
    cases hd
    refine h.refreshActiveDevice hsorted (mem_filter.2 ⟨h.phone, ?_⟩) rfl
    exact decide_eq_true (Ne.symm hspares)
  | removeByServiceName serviceName =>
    cases hstep
    refine h.refreshActiveDevice (h.sorted.filter _) ?_ rfl
    exact mem_filter.2 ⟨h.phone, decide_eq_true (Ne.symm hspares)⟩
  | updateAudioDevice desc =>
    cases hstep
    exact h.updateAudioDevice desc
  | refresh =>
    obtain ⟨-, ⟨⟩⟩ := Option.ite_none_left_eq_some.1 hstep
    exact ⟨⟨h.sorted.distinct, h.sorted.ordered, h.sorted.known⟩, h.phone, h.speaker, h.device,
      fun _ => current_refreshWakeupDevice _⟩

theorem run_chosen (cs : List DeviceCall) (r : Registry)
    (hspares : ∀ c ∈ cs, c.SparesPhone) (hrun : run step {} cs = some r)
    (hquiet : r.refreshes = 0) : r.Chosen := by
  have hstep : ∀ r c t, Kept r → c.SparesPhone → step r c = some t → Kept t :=
    fun _ _ _ h hspares hstep => h.step hspares hstep
  exact (run_invariant_mem hstep kept_initial hspares hrun).chosen hquiet

def headsetCalls : List DeviceCall :=
  [.registerDevice "headset" .headset "service" true, .updateAudioDevice [⟨false, "headset"⟩],
    .refresh, .refresh]

theorem run_chosen_headset :
    ∃ r, run step {} headsetCalls = some r ∧ r.refreshes = 0 ∧ r.Chosen := by
  have hspares : ∀ c ∈ headsetCalls, c.SparesPhone := by
    simp [headsetCalls, DeviceCall.SparesPhone, defaultMacAddress]
  exact ⟨_, rfl, rfl, run_chosen headsetCalls _ hspares rfl rfl⟩

theorem deregistered_phone_not_chosen :
    ∃ r, run step {} [.registerDevice "headset" .headset "service" true, .refresh,
        .deregisterDevice defaultMacAddress, .refresh] = some r ∧
      r.refreshes = 0 ∧ r.playsToSpeaker ∧ r.manager.wakeupDevice.type = .headset ∧
      ¬ r.Chosen := by
  refine ⟨_, rfl, rfl, rfl, rfl, fun h => ?_⟩
  have htype := congrArg WakeupDeviceDetail.type (h.phone rfl)
  cases htype

end Registry
end IntellVoice.Wakeup
