import IntellVoice.Utils.Json
import IntellVoice.Wakeup.AdapterSettings

/-! A user's integer is looked for among thresholds, or a default is read. -/

namespace IntellVoice.Wakeup
open Utils

structure Numbers where
  isInt : String → Bool
  asInt : String → Option Int
  isSome_asInt : ∀ text, isInt text → (asInt text).isSome

namespace Numbers
variable (nums : Numbers)

def entryAt (index : Nat) : Json → Option Int
  | .arr items =>
    match items[index]? with
    | some (.number text) => if nums.isInt text then nums.asInt text else none
    | _ => none
  | _ => none

def asIntAt (index : Nat) : Json → Option Int
  | .null => some 0
  | .arr items =>
    match items[index]? with
    | none => some 0
    | some .null => some 0
    | some (.bool b) => some (if b then 1 else 0)
    | some (.number text) => nums.asInt text
    | some _ => none
  | _ => none

def defaultPhrases : List String := ["你好小E", "你好小易", "你好华为", "小艺小艺", "你好悠悠"]

def isDefaltPhrase (wakeupJson : Json) (wakeupPhrase : String) : Option Bool := do
  match ← wakeupJson.lookup "DefaultPhrase" with
  | some phrases => return (← phrases.lookup wakeupPhrase).isSome
  | none => return defaultPhrases.contains wakeupPhrase

def sensibilityParam (wakeupJson : Json) : Option (Option Json) := do
  match ← wakeupJson.lookup "SensibilityParams" with
  | some params => params.lookup "DspSentenceThresholds"
  | none => return none

def thresholdText (value : Option Int) : String :=
  match value with
  | none => ""
  | some n => toString n

def parseArray (param : Json) (name : String) (index : Nat) : Option String :=
  (param.lookup name).map fun array => thresholdText (array.bind (nums.entryAt index))

def parseDefaultDspSensibility (wakeupJson : Json) (wakeupPhrase : String) (index : Nat) :
    Option String := do
  if let some phrases := ← wakeupJson.lookup "DefaultPhrase" then
    if (← phrases.lookup wakeupPhrase).isSome then
      return ← nums.parseArray phrases wakeupPhrase index
  match ← sensibilityParam wakeupJson with
  | some param => nums.parseArray param "Default" index
  | none => return ""

def parseUser (index : Nat) (param : Json) : Option String := do
  match (← param.lookup "UserDefined").bind (nums.entryAt index) with
  | some _ => return toString (← nums.asIntAt index (← param.member "Default"))
  | none => return ""

def parseUserDspSensibility (wakeupJson : Json) (index : Nat) : Option String := do
  match ← sensibilityParam wakeupJson with
  | some param => nums.parseUser index param
  | none => return ""

def parseWakeupConfigDspSensibility (wakeupJson : Json) (wakeupPhrase : String) (index : Nat) :
    Option String := do
  if ← isDefaltPhrase wakeupJson wakeupPhrase then
    nums.parseDefaultDspSensibility wakeupJson wakeupPhrase index
  else nums.parseUserDspSensibility wakeupJson index

def getDspSensibility (wakeupJson : Json) (wakeupPhrase sensibility dspFeature : String) :
    Option String :=
  match stringToInt sensibility with
  | none => some ""
  | some value =>
    if value < minSensibilityValue ∨ maxSensibilityValue < value then some ""
    else if wakeupPhrase = "" then some ""
    else
      let index := if isSupportNodes800 dspFeature then value + threshOffst - 1 else value - 1
      nums.parseWakeupConfigDspSensibility wakeupJson wakeupPhrase index.toNat

lemma getDspSensibility_host (h : Host) (wakeupJson : Json) (sensibility dspFeature : String)
    (hconfig : ∀ phrase index, nums.parseWakeupConfigDspSensibility wakeupJson phrase index =
      some (h.wakeupConfig phrase index)) :
    nums.getDspSensibility wakeupJson (h.history keyWakeupPhrase) sensibility dspFeature =
      some (h.getDspSensibility sensibility dspFeature) := by
  unfold getDspSensibility Host.getDspSensibility
  cases stringToInt sensibility with
  | none => rfl
  | some value =>
    simp only [hconfig, ← apply_ite some]

def thresholds (wakeupJson : Json) (name : String) : Option Json :=
  ((wakeupJson.field? "SensibilityParams").bind (·.field? "DspSentenceThresholds")).bind
    (·.field? name)

def phraseThresholds (wakeupJson : Json) (wakeupPhrase : String) : Option Json :=
  match wakeupJson.field? "DefaultPhrase" with
  | some phrases =>
    (phrases.field? wakeupPhrase).or (thresholds wakeupJson "UserDefined")
  | none =>
    if defaultPhrases.contains wakeupPhrase then thresholds wakeupJson "Default"
    else thresholds wakeupJson "UserDefined"

def phraseThreshold (wakeupJson : Json) (wakeupPhrase : String) (index : Nat) : Option Int :=
  (phraseThresholds wakeupJson wakeupPhrase).bind (nums.entryAt index)

def IsUserPhrase (wakeupJson : Json) (wakeupPhrase : String) : Prop :=
  match wakeupJson.field? "DefaultPhrase" with
  | some phrases => phrases.field? wakeupPhrase = none
  | none => wakeupPhrase ∉ defaultPhrases

def ParamsReadable (wakeupJson : Json) : Prop :=
  ∀ params, wakeupJson.field? "SensibilityParams" = some params → params.HasMembers ∧
    ∀ param, params.field? "DspSentenceThresholds" = some param → param.HasMembers

structure Readable (wakeupJson : Json) (wakeupPhrase : String) : Prop where
  phrases : ∀ phrases, wakeupJson.field? "DefaultPhrase" = some phrases → phrases.HasMembers
  params : (wakeupJson.field? "DefaultPhrase").bind (·.field? wakeupPhrase) = none →
    ParamsReadable wakeupJson

def UserAgrees (wakeupJson : Json) (wakeupPhrase : String) (index : Nat) : Prop :=
  IsUserPhrase wakeupJson wakeupPhrase →
    ∀ n, (thresholds wakeupJson "UserDefined").bind (nums.entryAt index) = some n →
      nums.asIntAt index ((thresholds wakeupJson "Default").getD .null) = some n

variable {wakeupJson : Json} {wakeupPhrase : String} {index : Nat}

lemma toString_ne_empty (n : Int) : toString n ≠ "" := by
  intro h
  have hlist := congrArg String.toList h
  cases n with
  | ofNat m => exact Nat.toDigits_ne_nil (Nat.toList_repr.symm.trans hlist)
  | negSucc m => simp [toString, Int.repr] at hlist

lemma thresholdText_eq_empty {value : Option Int} : thresholdText value = "" ↔ value = none := by
  cases value with
  | none => simp [thresholdText]
  | some n => simpa [thresholdText] using toString_ne_empty n

section Params
variable {fields : List (String × Json)}

lemma parseUser_iff {param : Json} (hm : param.HasMembers) : nums.parseUser index param =
        some (thresholdText ((param.field? "UserDefined").bind (nums.entryAt index))) ↔
      ∀ n, (param.field? "UserDefined").bind (nums.entryAt index) = some n →
        nums.asIntAt index ((param.field? "Default").getD .null) = some n := by
  unfold parseUser
  rw [Json.lookup_eq hm, Json.member_eq hm]
  simp only [Option.bind_eq_bind, Option.bind_some]
  cases (param.field? "UserDefined").bind (nums.entryAt index) with
  | none => simp [thresholdText]
  | some n =>
    -- the integer is there: the text is that of the entry of the other array
    cases nums.asIntAt index ((param.field? "Default").getD .null) with
    | none => simp
    | some m => simp [thresholdText, toString, Int.repr_inj]

lemma sensibilityParam_cases (fields : List (String × Json)) :
    (sensibilityParam (.obj fields) = none ∧ ¬ ParamsReadable (.obj fields)) ∨
    (sensibilityParam (.obj fields) = some none ∧ ParamsReadable (.obj fields) ∧
      ∀ name, thresholds (.obj fields) name = none) ∨
    ∃ param, sensibilityParam (.obj fields) = some (some param) ∧
      (ParamsReadable (.obj fields) ↔ param.HasMembers) ∧
      ∀ name, thresholds (.obj fields) name = param.field? name := by
  unfold sensibilityParam ParamsReadable thresholds
  rw [Json.lookup_obj]
  cases (Json.obj fields).field? "SensibilityParams" with
  | none => simp
  | some params =>
    by_cases hm : params.HasMembers
    · simp only [Option.bind_eq_bind, Option.bind_some, Json.lookup_eq hm]
      cases ht : params.field? "DspSentenceThresholds" <;> simp [hm, ht]
    · simp [Json.lookup_eq_none hm, hm]

lemma parseDefaultDspSensibility_iff (wakeupPhrase : String)
    (hphrases : (Json.obj fields).field? "DefaultPhrase" = none) :
    nums.parseDefaultDspSensibility (.obj fields) wakeupPhrase index =
        some (thresholdText ((thresholds (.obj fields) "Default").bind (nums.entryAt index))) ↔
      ParamsReadable (.obj fields) := by
  unfold parseDefaultDspSensibility
  rw [Json.lookup_obj, hphrases]
  rcases sensibilityParam_cases fields with ⟨hp, hr⟩ | ⟨hp, hr, ht⟩ | ⟨param, hp, hr, ht⟩
  · simp [hp, hr]
  · simp [hp, hr, ht, thresholdText]
  by_cases hm : param.HasMembers
  · simp [hp, hr, ht, hm, parseArray, Json.lookup_eq hm]
  · simp [hp, hr, hm, parseArray, Json.lookup_eq_none hm]

lemma parseUserDspSensibility_iff (fields : List (String × Json)) (index : Nat) :
    nums.parseUserDspSensibility (.obj fields) index =
        some (thresholdText ((thresholds (.obj fields) "UserDefined").bind (nums.entryAt index))) ↔
      ParamsReadable (.obj fields) ∧
        ∀ n, (thresholds (.obj fields) "UserDefined").bind (nums.entryAt index) = some n →
          nums.asIntAt index ((thresholds (.obj fields) "Default").getD .null) = some n := by
  unfold parseUserDspSensibility
  rcases sensibilityParam_cases fields with ⟨hp, hr⟩ | ⟨hp, hr, ht⟩ | ⟨param, hp, hr, ht⟩
  · simp [hp, hr]
  · simp [hp, hr, ht, thresholdText]
  by_cases hm : param.HasMembers
  · simpa [hp, hr, ht, hm] using nums.parseUser_iff hm
  · simp [hp, hr, hm, parseUser, Json.lookup_eq_none hm]

end Params

lemma parseWakeupConfigDspSensibility_iff (fields : List (String × Json)) (wakeupPhrase : String)
    (index : Nat) : nums.parseWakeupConfigDspSensibility (.obj fields) wakeupPhrase index =
        some (thresholdText (nums.phraseThreshold (.obj fields) wakeupPhrase index)) ↔
      Readable (.obj fields) wakeupPhrase ∧ nums.UserAgrees (.obj fields) wakeupPhrase index := by
  have huser := nums.parseUserDspSensibility_iff fields index
  unfold parseWakeupConfigDspSensibility isDefaltPhrase phraseThreshold phraseThresholds UserAgrees
    IsUserPhrase
  rw [Json.lookup_obj]
  cases hd : (Json.obj fields).field? "DefaultPhrase" with
  | some phrases =>
    by_cases hm : phrases.HasMembers
    · have hphrases : ∀ p, (Json.obj fields).field? "DefaultPhrase" = some p → p.HasMembers :=
        fun p hp => Option.some.inj (hd.symm.trans hp) ▸ hm
      cases hw : phrases.field? wakeupPhrase with
      | some array =>
        -- the phrase has thresholds of its own
        have hread : Readable (.obj fields) wakeupPhrase := ⟨hphrases, by simp [hd, hw]⟩
        simp [parseDefaultDspSensibility, hd, Json.lookup_eq hm, hw, parseArray, hread]
      | none =>
        have hread : Readable (.obj fields) wakeupPhrase ↔ ParamsReadable (.obj fields) :=
          ⟨fun h => h.params (by simp [hd, hw]), fun h => ⟨hphrases, fun _ => h⟩⟩
        rw [hread]
        simpa [Json.lookup_eq hm, hw] using huser
    · have hread : ¬ Readable (.obj fields) wakeupPhrase := fun h => hm (h.phrases phrases hd)
      simp [Json.lookup_eq_none hm, hread]
  | none =>
    have hread : Readable (.obj fields) wakeupPhrase ↔ ParamsReadable (.obj fields) :=
      ⟨fun h => h.params (by simp [hd]), fun h => ⟨fun p hp => by simp [hd] at hp, fun _ => h⟩⟩
    rw [hread]
    by_cases hphrase : wakeupPhrase ∈ defaultPhrases
    · have hc : defaultPhrases.contains wakeupPhrase := List.contains_iff_mem.2 hphrase
      simpa [hc, hphrase] using nums.parseDefaultDspSensibility_iff wakeupPhrase hd
    · have hc : defaultPhrases.contains wakeupPhrase = false := by simpa using hphrase
      simpa [hc, hphrase] using huser

theorem getDspSensibility_iff (fields : List (String × Json))
    (wakeupPhrase sensibility dspFeature : String) (value : Int)
    (hsensibility : stringToInt sensibility = some value) (hmin : 1 ≤ value) (hmax : value ≤ 3) :
    let index := (if isSupportNodes800 dspFeature then value + 3 - 1 else value - 1).toNat
    let found := nums.phraseThreshold (.obj fields) wakeupPhrase index
    (thresholdText found = "" ↔ found = none) ∧
      (nums.getDspSensibility (.obj fields) wakeupPhrase sensibility dspFeature =
          some (thresholdText found) ↔
        (wakeupPhrase = "" ∧ found = none) ∨
          (wakeupPhrase ≠ "" ∧ Readable (.obj fields) wakeupPhrase ∧
            nums.UserAgrees (.obj fields) wakeupPhrase index)) := by
  intro index found
  refine ⟨thresholdText_eq_empty, ?_⟩
  by_cases hphrase : wakeupPhrase = ""
  · have hget : nums.getDspSensibility (.obj fields) wakeupPhrase sensibility dspFeature =
        some "" := by
      simp only [getDspSensibility, hsensibility, minSensibilityValue, maxSensibilityValue]
      rw [if_neg (by omega), if_pos hphrase]
    rw [hget, Option.some.injEq, eq_comm, thresholdText_eq_empty]
    simp [hphrase]
  have hget : nums.getDspSensibility (.obj fields) wakeupPhrase sensibility dspFeature =
      nums.parseWakeupConfigDspSensibility (.obj fields) wakeupPhrase index := by
    simp only [getDspSensibility, hsensibility, minSensibilityValue, maxSensibilityValue]
    rw [if_neg (by omega), if_neg hphrase]
    rfl
  rw [hget, nums.parseWakeupConfigDspSensibility_iff fields wakeupPhrase index]
  simp [hphrase]

def oneDigit : Numbers where
  isInt text := text.length = 1
  asInt text := some (text.toList.foldl (fun acc c => 10 * acc + (c.toNat - '0'.toNat : Nat)) 0)
  isSome_asInt _ _ := rfl

def threeNumbers (a b c : String) : Json := .arr [.number a, .number b, .number c]

def twoThresholds (user default : Json) : List (String × Json) :=
  [("SensibilityParams", .obj [("DspSentenceThresholds",
    .obj [("Default", default), ("UserDefined", user)])])]

theorem getDspSensibility_iff_equal :
    oneDigit.getDspSensibility (.obj (twoThresholds (threeNumbers "4" "5" "6")
      (threeNumbers "4" "2" "3"))) "phrase" "1" "" = some "4" :=
  (((oneDigit.getDspSensibility_iff _ "phrase" "1" "" 1 (by decide) (by decide)
    (by decide)).2).2 (.inr ⟨by decide, ⟨nofun, fun _ params hs => by
      cases hs
      exact ⟨Or.inr ⟨_, rfl⟩, fun param ht => by cases ht; exact Or.inr ⟨_, rfl⟩⟩⟩,
      fun _ n hn => hn⟩))

theorem getDspSensibility_user_gets_default :
    let doc := Json.obj (twoThresholds (threeNumbers "7" "8" "9") (threeNumbers "1" "2" "3"))
    oneDigit.phraseThreshold doc "phrase" 0 = some 7 ∧
      oneDigit.getDspSensibility doc "phrase" "1" "" = some "1" := by
  refine ⟨by decide, by decide⟩

end Numbers
end IntellVoice.Wakeup
