import Mathlib.Data.Int.Bitwise
import IntellVoice.Service.Parameters
import IntellVoice.Utils.Numerals

/-! `HandleInit` and `HandleResetAdapter` set parameters in own orders. -/

namespace IntellVoice.Wakeup
open Utils

inductive BusAnswer (α : Type*) where
  | noValue
  | badAnyCast
  | value (a : α)

def minSensibilityValue : Int := 1
def maxSensibilityValue : Int := 3
def threshOffst : Int := 3
def halFeatureKwsNodes900 : Int := 2

def isSupportNodes800 (dspFeature : String) : Bool :=
  if dspFeature = "" then false
  else
    match stringToInt dspFeature with
    | none => false
    | some feature => Int.land feature halFeatureKwsNodes900 == halFeatureKwsNodes900

structure Host where
  history : String → String
  wakeupFeature : BusAnswer String
  shortWordSwitch : BusAnswer Bool
  shortWordAbility : Bool
  wakeupConfig : String → Nat → String

def keyLanguage : String := "Language"
def keyArea : String := "Area"
def keyWakeupPhrase : String := "WakeupPhrase"
def keySensibility : String := "Sensibility"
def keyWakeupDspFeature : String := "WakeupDspFeature"
def keyWhisperVpr : String := "WhisperVpr"
def keyGetWakeupFeature : String := "wakeup_features"
def wakeupSensibility : String := "WAKEUP_SENSIBILITY"
def languageText : String := "language="
def areaText : String := "area="
def sensibilityText : String := "sensibility="

inductive Sent where
  | adapter (keyValueList : String)
  | trigger (key value : String)
deriving DecidableEq

namespace Host

def getDspSensibility (h : Host) (sensibility dspFeature : String) : String :=
  match stringToInt sensibility with
  | none => ""
  | some value =>
    if value < minSensibilityValue ∨ maxSensibilityValue < value then ""
    else
      let wakeupPhrase := h.history keyWakeupPhrase
      if wakeupPhrase = "" then ""
      else
        let index := if isSupportNodes800 dspFeature then value + threshOffst - 1 else value - 1
        h.wakeupConfig wakeupPhrase index.toNat

def setLanguage (h : Host) : List Sent :=
  let language := h.history keyLanguage
  if language = "" then [] else [.adapter (languageText ++ language)]

def setArea (h : Host) : List Sent :=
  let area := h.history keyArea
  if area = "" then [] else [.adapter (areaText ++ area)]

def setWhisperVpr (h : Host) : List Sent := [.adapter ("WhisperVpr=" ++ h.history keyWhisperVpr)]

def getSwitchStatus (h : Host) : Bool :=
  match h.shortWordSwitch with
  | .value on => on
  | _ => false

def setWakeupModel (h : Host) : List Sent :=
  if h.shortWordAbility && h.getSwitchStatus then [.adapter "WakeupMode=1"]
  else [.adapter "WakeupMode=0"]

def setSensibility (h : Host) : List Sent :=
  let sensibility := h.history keySensibility
  if sensibility = "" then []
  else
    match h.wakeupFeature with
    | .value features =>
      let value := h.getDspSensibility sensibility features
      if value = "" then []
      else [.trigger wakeupSensibility value, .adapter (sensibilityText ++ sensibility)]
    | _ => []

def setTriggerParameter (h : Host) : List Sent :=
  Service.triggerParams.flatMap fun param =>
    let value := h.history param
    if value = "" then [] else [.trigger param value]

def setImproveParam (_ : Host) : List Sent := [.adapter "userImproveOn=true"]

def store (h : Host) (features : String) : Host :=
  { h with history := Function.update h.history keyWakeupDspFeature features }

def setDspFeatures (h : Host) : List Sent × Host :=
  match h.wakeupFeature with
  | .value features =>
    if features = "" then
      let stored := h.history keyWakeupDspFeature
      if stored = "" then ([], h)
      else ([.adapter (keyGetWakeupFeature ++ "=" ++ stored)], h)
    else ([.adapter (keyGetWakeupFeature ++ "=" ++ features)], h.store features)
  | _ => ([], h)

end Host

namespace Phone

def initParameters (h : Host) : List Sent × Host :=
  let (features, h') := h.setDspFeatures
  (h.setWhisperVpr ++ h.setWakeupModel ++ h.setLanguage ++ h.setArea ++ h.setSensibility ++
    h.setTriggerParameter ++ h.setImproveParam ++ features, h')

def resetParameters (h : Host) : List Sent × Host :=
  let (features, h') := h.setDspFeatures
  (h.setWakeupModel ++ h.setWhisperVpr ++ h.setLanguage ++ h.setArea ++ h.setSensibility ++
    h.setImproveParam ++ features, h')

end Phone

namespace Headset

def modelPath : Sent := .adapter "model_path=/vendor/etc/audio/encoder.om"

def initParameters (h : Host) (msgBody : Option String) : List Sent :=
  h.setLanguage ++ h.setArea ++ [modelPath] ++
    (msgBody.map fun modelType => Sent.adapter ("modelType=" ++ modelType)).toList

def resetParameters (h : Host) : List Sent := h.setLanguage ++ h.setArea ++ [modelPath]

end Headset

def SameParameters (h after : Host) (modelType : Option String) : Prop :=
  (∀ text, .adapter text ∈ (Phone.resetParameters after).1 ↔
    .adapter text ∈ (Phone.initParameters h).1) ∧
  ∀ text, .adapter text ∈ Headset.resetParameters after ↔
    .adapter text ∈ Headset.initParameters h modelType

namespace Host
variable {h : Host}

lemma history_store (h : Host) (features key : String)
    (hkey : key ≠ keyWakeupDspFeature) : (h.store features).history key = h.history key :=
  Function.update_of_ne hkey _ _

@[simp]
lemma setLanguage_store (h : Host) (features : String) :
    (h.store features).setLanguage = h.setLanguage := by
  simp only [setLanguage, h.history_store features keyLanguage (by decide)]

@[simp]
lemma setArea_store (h : Host) (features : String) : (h.store features).setArea = h.setArea := by
  simp only [setArea, h.history_store features keyArea (by decide)]

@[simp]
lemma setWhisperVpr_store (h : Host) (features : String) :
    (h.store features).setWhisperVpr = h.setWhisperVpr := by
  simp only [setWhisperVpr, h.history_store features keyWhisperVpr (by decide)]

@[simp]
lemma setWakeupModel_store (h : Host) (features : String) :
    (h.store features).setWakeupModel = h.setWakeupModel := rfl

@[simp]
lemma setSensibility_store (h : Host) (features : String) :
    (h.store features).setSensibility = h.setSensibility := by
  have hvalue : ∀ sensibility dspFeature,
      (h.store features).getDspSensibility sensibility dspFeature =
        h.getDspSensibility sensibility dspFeature := by
    intro sensibility dspFeature
    simp only [getDspSensibility, h.history_store features keyWakeupPhrase (by decide)]
    rfl
  simp only [setSensibility, hvalue, h.history_store features keySensibility (by decide)]
  rfl

lemma setDspFeatures_cases (h : Host) :
    h.setDspFeatures.2 = h ∨ ∃ features, h.wakeupFeature = .value features ∧ features ≠ "" ∧
      h.setDspFeatures =
        ([.adapter (keyGetWakeupFeature ++ "=" ++ features)], h.store features) := by
  unfold setDspFeatures
  cases hfeature : h.wakeupFeature with
  | value features =>
    by_cases hempty : features = ""
    · simp only [hempty, if_true]
      left
      split <;> rfl
    · right
      exact ⟨features, rfl, hempty, by simp only [hempty, if_false]⟩
  | noValue | badAnyCast => exact .inl rfl

lemma setDspFeatures_again (h : Host) :
    h.setDspFeatures.2.setDspFeatures.1 = h.setDspFeatures.1 := by
  rcases h.setDspFeatures_cases with heq | ⟨features, hfeature, hne, heq⟩
  · rw [heq]
  have hfeature' : (h.store features).wakeupFeature = .value features := hfeature
  rw [heq]
  simp only [setDspFeatures, hfeature', hne, if_false]

lemma setTriggerParameter_adapter (h : Host) (text : String) :
    Sent.adapter text ∉ h.setTriggerParameter := by
  intro hsent
  obtain ⟨param, -, hparam⟩ := List.mem_flatMap.1 hsent
  dsimp only at hparam
  split at hparam
  · cases hparam
  · cases List.mem_singleton.1 hparam

end Host

lemma Phone.resetParameters_stored (h : Host) :
    (Phone.resetParameters (Phone.initParameters h).2).1 = (Phone.resetParameters h).1 := by
  have hagain := h.setDspFeatures_again
  show (Phone.resetParameters h.setDspFeatures.2).1 = _
  simp only [Phone.resetParameters, hagain]
  rcases h.setDspFeatures_cases with heq | ⟨features, -, -, heq⟩
  · rw [heq]
  rw [heq]
  simp only [Host.setWakeupModel_store, Host.setWhisperVpr_store, Host.setLanguage_store,
    Host.setArea_store, Host.setSensibility_store, Host.setImproveParam]

lemma Phone.mem_resetParameters (h : Host) (text : String) :
    .adapter text ∈ (Phone.resetParameters h).1 ↔ .adapter text ∈ (Phone.initParameters h).1 := by
  have htrigger := h.setTriggerParameter_adapter text
  simp only [Phone.resetParameters, Phone.initParameters, List.mem_append, htrigger, or_false]
  rw [or_comm (a := .adapter text ∈ h.setWakeupModel)]

lemma Headset.resetParameters_stored (h : Host) :
    Headset.resetParameters (Phone.initParameters h).2 = Headset.resetParameters h := by
  show Headset.resetParameters h.setDspFeatures.2 = _
  rcases h.setDspFeatures_cases with heq | ⟨features, -, -, heq⟩
  · rw [heq]
  · rw [heq]
    simp only [Headset.resetParameters, Host.setLanguage_store, Host.setArea_store]

lemma Headset.modelType_not_mem (h : Host) (modelType : String) :
    .adapter ("modelType=" ++ modelType) ∉ Headset.resetParameters h := by
  intro hsent
  rcases List.mem_append.1 hsent with hsent | hsent
  · rcases List.mem_append.1 hsent with hsent | hsent
    · dsimp only [Host.setLanguage] at hsent
      split at hsent
      · cases hsent
      have htext := Sent.adapter.inj (List.mem_singleton.1 hsent)
      have hchars := congrArg String.toList htext
      simp [languageText] at hchars
    dsimp only [Host.setArea] at hsent
    split at hsent
    · cases hsent
    have htext := Sent.adapter.inj (List.mem_singleton.1 hsent)
    have hchars := congrArg String.toList htext
    simp [areaText] at hchars
  · have htext := Sent.adapter.inj (List.mem_singleton.1 hsent)
    have hchars := congrArg String.toList htext
    simp at hchars

lemma Headset.mem_resetParameters_iff (h : Host) (modelType : Option String) :
    (∀ text, .adapter text ∈ Headset.resetParameters h ↔
      .adapter text ∈ Headset.initParameters h modelType) ↔ modelType = none := by
  constructor
  · intro hsame
    cases modelType with
    | none => rfl
    | some modelType =>
      have hsent : .adapter ("modelType=" ++ modelType) ∈
          Headset.initParameters h (some modelType) := by
        simp [Headset.initParameters]
      exact absurd ((hsame _).2 hsent) (Headset.modelType_not_mem h modelType)
  · rintro rfl text
    simp [Headset.initParameters, Headset.resetParameters]

theorem sameParameters_iff (h : Host) (modelType : Option String) :
    SameParameters h h modelType ∧ SameParameters h (Phone.initParameters h).2 modelType ↔
      modelType = none := by
  unfold SameParameters
  rw [Phone.resetParameters_stored, Headset.resetParameters_stored, and_self,
    Headset.mem_resetParameters_iff]
  exact and_iff_right (Phone.mem_resetParameters h)

theorem reset_without_modelType :
    let h : Host := ⟨fun _ => "", .noValue, .noValue, false, fun _ _ => ""⟩
    Sent.adapter "modelType=a" ∈ Headset.initParameters h (some "a") ∧
      Sent.adapter "modelType=a" ∉ Headset.resetParameters h ∧
      ¬ SameParameters h h (some "a") := by
  intro h
  have hsent : Sent.adapter "modelType=a" ∈ Headset.initParameters h (some "a") := by decide
  have hnot : Sent.adapter "modelType=a" ∉ Headset.resetParameters h := by decide
  exact ⟨hsent, hnot, fun hsame => hnot ((hsame.2 _).2 hsent)⟩

end IntellVoice.Wakeup
