import IntellVoice.Library.Run
import IntellVoice.Trigger.Parameters

/-! The performance service reports fan records as a byte buffer. -/

namespace IntellVoice.Trigger
open Transition Option
variable {M : Type*} {mod : ConnectorModule M}

structure FanStatus where
  type : Nat
  data : Int

def perfReportLenMax : Nat := 512
def dataTypePower : Nat := 19
def dataTypePowerValOn : Int := 1

def fanStatusSize : Nat := 8

def uint32OfBytes (b₀ b₁ b₂ b₃ : UInt8) : Nat :=
  b₀.toNat + 256 * (b₁.toNat + 256 * (b₂.toNat + 256 * b₃.toNat))

def int32OfBytes (b₀ b₁ b₂ b₃ : UInt8) : Int :=
  let n := uint32OfBytes b₀ b₁ b₂ b₃
  if n < 2147483648 then n else n - 4294967296

def fanStatusArr : List UInt8 → List FanStatus
  | b₀ :: b₁ :: b₂ :: b₃ :: b₄ :: b₅ :: b₆ :: b₇ :: rest =>
    ⟨uint32OfBytes b₀ b₁ b₂ b₃, int32OfBytes b₄ b₅ b₆ b₇⟩ :: fanStatusArr rest
  | _ => []

def FanStatus.power (r : FanStatus) : Option Int :=
  if r.type = dataTypePower then some r.data else none

abbrev FanBuffer := Option (List UInt8)

def FanBuffer.records (buffer : FanBuffer) : List FanStatus :=
  match buffer with
  | none => []
  | some bytes => if bytes.length % fanStatusSize = 0 then fanStatusArr bytes else []

def FanBuffer.lastPower (buffer : FanBuffer) : Option Int :=
  History.latest FanStatus.power buffer.records

def FanBuffer.accepted (buffer : FanBuffer) : Bool :=
  match buffer with
  | none => false
  | some bytes =>
    bytes.length ≠ 0 && bytes.length ≤ perfReportLenMax && bytes.length % fanStatusSize = 0

structure FanListener (M : Type*) where
  fanRunning : Bool := false
  io : Io M
  received : Option Int := none

namespace FanListener

def sendFanStatus (mod : ConnectorModule M) (running : Bool) (s : FanListener M) : FanListener M :=
  { s with
    io := (s.io.setParameterForInputPipe mod "fan_status_change"
      (if running then "start" else "stop")).2 }

def handleFanStateChanged (mod : ConnectorModule M) (buffer : FanBuffer) (s : FanListener M) :
    FanListener M :=
  match buffer with
  | none => s
  | some bytes =>
    if bytes.length = 0 then s
    else if bytes.length > perfReportLenMax then s
    else if bytes.length % fanStatusSize ≠ 0 then s
    else
      let powerVal := ((fanStatusArr bytes).findSome? FanStatus.power).getD (-1)
      let curFanRunning := powerVal == dataTypePowerValOn
      if s.fanRunning = curFanRunning then s
      else { s with fanRunning := curFanRunning }.sendFanStatus mod curFanRunning

def syncFanState (mod : ConnectorModule M) (s : FanListener M) : FanListener M :=
  if !s.fanRunning then s else s.sendFanStatus mod true

end FanListener

inductive FanEvent (M : Type*) where
  | handleFanStateChanged (resId : Nat) (buffer : FanBuffer)
  | syncFanState
  | outside (conn : M)

namespace FanListener

def step (mod : ConnectorModule M) (s : FanListener M) : FanEvent M → Option (FanListener M)
  | .handleFanStateChanged _ buffer =>
    some { s.handleFanStateChanged mod buffer with received := buffer.lastPower.or s.received }
  | .syncFanState => some (s.syncFanState mod)
  | .outside conn => some { s with io := { s.io with conn := conn } }

def available (mod : ConnectorModule M) (s : FanListener M) : Prop := (s.io.getModule mod).1

def Agrees (mod : ConnectorModule M) (s : FanListener M) : Prop :=
  s.available mod → (s.io.lastParam "fan_status_change" = some "start" ↔
    s.received = some dataTypePowerValOn)

structure Regular (mod : ConnectorModule M) (s : FanListener M) (buffer : FanBuffer) : Prop where
  handled : buffer.lastPower ≠ none → buffer.accepted
  single : ∀ first last, buffer.records.findSome? FanStatus.power = some first →
    buffer.lastPower = some last → (first = dataTypePowerValOn ↔ last = dataTypePowerValOn)
  present : s.received = some dataTypePowerValOn → buffer.accepted → buffer.lastPower ≠ none
  found : ∀ last, buffer.lastPower = some last →
    ¬ (last = dataTypePowerValOn ↔ s.received = some dataTypePowerValOn) → s.available mod

structure InStep (s : FanListener M) : Prop where
  running : s.fanRunning ↔ s.received = some dataTypePowerValOn
  told : s.io.lastParam "fan_status_change" = some "start" ↔ s.fanRunning

variable {s t : FanListener M} {buffer : FanBuffer}

lemma handleFanStateChanged_of_not_accepted (hrefused : buffer.accepted = false) :
    s.handleFanStateChanged mod buffer = s := by
  unfold handleFanStateChanged
  cases buffer with
  | none => rfl
  | some bytes =>
    dsimp only
    split
    · rfl
    split
    · rfl
    split
    · rfl
    -- the three tests of the handler are those of `accepted`
    rename_i hnonempty hshort hwhole
    have haccepted : FanBuffer.accepted (some bytes) := by
      simp [FanBuffer.accepted, hnonempty, Nat.not_lt.1 hshort, Decidable.not_not.1 hwhole]
    rw [haccepted] at hrefused
    cases hrefused

lemma handleFanStateChanged_of_accepted (haccepted : buffer.accepted) :
    s.handleFanStateChanged mod buffer =
      let cur := (buffer.records.findSome? FanStatus.power).getD (-1) == dataTypePowerValOn
      if s.fanRunning = cur then s else { s with fanRunning := cur }.sendFanStatus mod cur := by
  cases buffer with
  | none => cases haccepted
  | some bytes =>
    obtain ⟨⟨hnonempty, hshort⟩, hwhole⟩ : (bytes.length ≠ 0 ∧ bytes.length ≤ perfReportLenMax) ∧
        bytes.length % fanStatusSize = 0 := by
      simpa [FanBuffer.accepted] using haccepted
    unfold handleFanStateChanged FanBuffer.records
    simp only [hnonempty, Nat.not_lt.2 hshort, hwhole, ne_eq, not_true_eq_false,
      if_false, if_true]

lemma told_sendFanStatus (havailable : s.available mod) (running : Bool) :
    (s.sendFanStatus mod running).io.lastParam "fan_status_change" = some "start" ↔
      running := by
  have hmodule : (s.io.getModule mod).1 := havailable
  show (s.io.setParameterForInputPipe mod _ _).2.lastParam _ = _ ↔ _
  rw [Io.lastParam_setParameter, if_pos hmodule]
  cases running <;> simp

lemma InStep.handleFanStateChanged (h : s.InStep) (hregular : s.Regular mod buffer) :
    ({ s.handleFanStateChanged mod buffer with received := buffer.lastPower.or s.received } :
      FanListener M).InStep := by
  cases haccepted : buffer.accepted with
  | false =>
    -- a report turned away has no power record, so nothing new was received
    have hnone : buffer.lastPower = none := by
      by_contra hpower
      have := hregular.handled hpower
      rw [haccepted] at this
      cases this
    rw [handleFanStateChanged_of_not_accepted haccepted, hnone, none_or]
    exact h
  | true =>
    rw [handleFanStateChanged_of_accepted haccepted]
    cases hlast : buffer.lastPower with
    | none =>
      -- no power record counts as "off", and off the fan is
      have hfirst : buffer.records.findSome? FanStatus.power = none :=
        List.findSome?_eq_none_iff.2 (History.latest_eq_none_iff.1 hlast)
      have hoff : s.fanRunning = false := by
        rw [← Bool.not_eq_true, h.running]
        exact fun hon => hregular.present hon haccepted hlast
      rw [hfirst, none_or, if_pos]
      · exact h
      · rw [hoff]
        decide
    | some last =>
      -- the handler takes the first power record, the fan's state is in the last
      obtain ⟨first, hfirst⟩ : ∃ first, buffer.records.findSome? FanStatus.power = some first := by
        by_contra hnone
        have hall := List.findSome?_eq_none_iff.1 (eq_none_iff_forall_ne_some.2
          fun first hfirst => hnone ⟨first, hfirst⟩)
        rw [FanBuffer.lastPower, History.latest_eq_none_iff.2 hall] at hlast
        cases hlast
      have hsingle := hregular.single first last hfirst hlast
      rw [hfirst, getD_some, some_or]
      dsimp only
      split
      · rename_i hsame
        refine ⟨?_, h.told⟩
        show s.fanRunning ↔ some last = some dataTypePowerValOn
        rw [hsame, beq_iff_eq, hsingle, some.injEq]
      rename_i hchange
      -- the stored state changes only if the fan does, and then there is a module
      have havailable : s.available mod := by
        refine hregular.found last hlast fun hunchanged => hchange ?_
        rw [Bool.eq_iff_iff, h.running, beq_iff_eq, hsingle, hunchanged]
      refine ⟨?_, told_sendFanStatus havailable _⟩
      show (first == dataTypePowerValOn) ↔ some last = some dataTypePowerValOn
      rw [beq_iff_eq, hsingle, some.injEq]

lemma InStep.syncFanState (h : s.InStep) : (s.syncFanState mod).InStep := by
  unfold FanListener.syncFanState
  split
  · exact h
  rename_i hrunning
  have hon : s.fanRunning := by simpa using hrunning
  refine ⟨h.running, iff_of_true ?_ hon⟩
  -- sent again or, without a module, as it was sent before
  show (s.io.setParameterForInputPipe mod _ _).2.lastParam _ = _
  rw [Io.lastParam_setParameter]
  split
  · rfl
  · exact h.told.2 hon

def Meets (mod : ConnectorModule M) (s : FanListener M) : FanEvent M → Prop
  | .handleFanStateChanged _ buffer => s.Regular mod buffer
  | _ => True

lemma step_inStep {e : FanEvent M} (h : s.InStep) (hmeets : s.Meets mod e)
    (hstep : s.step mod e = some t) : t.InStep := by
  cases e with
  | handleFanStateChanged resId buffer =>
    cases hstep
    exact h.handleFanStateChanged hmeets
  | syncFanState =>
    cases hstep
    exact h.syncFanState
  | outside conn =>
    cases hstep
    exact ⟨h.running, h.told⟩

theorem run_fan_agrees (mod : ConnectorModule M) (conn : M) (es : List (FanEvent M))
    (hregular : Along (step mod) (fun s e _ => s.Meets mod e) { io := { conn := conn } } es) :
    Along (step mod) (fun _ _ t => t.Agrees mod) { io := { conn := conn } } es := by
  refine along_of_invariant (I := InStep) (fun s e t h hmeets hstep => ?_) ?_ hregular
  · have ht := step_inStep h hmeets hstep
    exact ⟨ht, fun _ => ht.told.trans ht.running⟩
  · exact ⟨by simp, by simp [Io.lastParam]⟩

theorem run_fan_agrees_power :
    Along (step countingModule) (fun _ _ t => t.Agrees countingModule) { io := { conn := 0 } }
      [.handleFanStateChanged 4214 (some [19, 0, 0, 0, 1, 0, 0, 0]),
        .syncFanState,
        .handleFanStateChanged 4214 (some [7, 0, 0, 0, 5, 0, 0, 0, 19, 0, 0, 0, 0, 0, 0, 0])] := by
  apply run_fan_agrees
  have hsole : ∀ {first last b c : Int}, some b = some first → some b = some last →
      (first = c ↔ last = c) := by
    intro first last b c hfirst hlast
    rw [← some.inj hfirst, ← some.inj hlast]
  refine .of_step rfl ?_ (.of_step rfl trivial (.of_step rfl ?_ trivial))
  · exact ⟨fun _ => rfl, fun _ _ => hsole, fun h => (by cases h), fun _ _ _ => rfl⟩
  · exact ⟨fun _ => rfl, fun _ _ => hsole, fun _ _ h => (by cases h), fun _ _ _ => rfl⟩

theorem report_without_power_record :
    ¬ Along (step countingModule) (fun _ _ t => t.Agrees countingModule) { io := { conn := 0 } }
      [.handleFanStateChanged 4214 (some [19, 0, 0, 0, 1, 0, 0, 0]),
        .handleFanStateChanged 4214 (some [7, 0, 0, 0, 5, 0, 0, 0])] := by
  intro h
  have hagrees := ((h _ rfl).2 _ rfl).1 rfl
  exact absurd (hagrees.2 rfl) (by decide +kernel)

end FanListener
end IntellVoice.Trigger
