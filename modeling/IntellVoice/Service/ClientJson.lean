import IntellVoice.Implicit.Request
import IntellVoice.Trigger.Capture
import IntellVoice.Wakeup.Facade
import IntellVoice.Wakeup.Sensibility

/-! Four functions read a document that a client has written. -/

namespace IntellVoice
open Trigger Utils

namespace Utils.Json

def Converts {α : Type} (read : Json → Option α) (name : String) (j : Json) : Prop :=
  ∀ value, j.field? name = some value → (read value).isSome

def memberOr {α : Type} (read : Json → Option α) (name : String) (default : α) (j : Json) :
    Option α := do
  match ← j.lookup name with
  | some value => read value
  | none => return default

lemma isSome_memberOr {α : Type} (j : Json) (read : Json → Option α) (name : String) (default : α) :
    (j.memberOr read name default).isSome ↔ j.HasMembers ∧ j.Converts read name := by
  unfold memberOr Converts
  by_cases hm : j.HasMembers
  · rw [lookup_eq hm]
    cases j.field? name <;> simp [hm]
  · simp [lookup_eq_none hm, hm]

end Utils.Json

def isImplicitEnroll (p : Platform) (param : String) : Option Bool :=
  match p.parseJson param with
  | none => some false
  | some root => (root.memberOr Json.asString "implicit_enroll" "").map (· == "true")

def extractDeviceDetail (p : Platform) (macAddress : String) (type : Wakeup.WakeupDeviceType)
    (serviceName parameters : String) : Option (Wakeup.WakeupDeviceDetail × String) :=
  let deviceDetail : Wakeup.WakeupDeviceDetail := { type, macAddress, serviceName }
  match p.parseJson parameters with
  | none => some (deviceDetail, "default")
  | some root => do
    let needSecondStageWakeup ← root.memberOr Json.asBool "needSecondStageWakeup" false
    let modelType ← root.memberOr Json.asString "modelType" "default"
    return ({ deviceDetail with needSecondStageWakeup }, modelType)

def stringMember (root : Json) (name : String) : Option String :=
  match root.field? name with
  | some (.str s) => some s
  | _ => none

def intMember (nums : Wakeup.Numbers) (root : Json) (name : String) : Option Int :=
  match root.field? name with
  | some (.number text) => if nums.isInt text then nums.asInt text else none
  | _ => none

def Implicit.Parsed.ofDocument (nums : Wakeup.Numbers) : Option Json → Implicit.Parsed
  | none => .invalid
  | some .null => .members (stringMember .null) (intMember nums .null)
  | some (.obj fields) => .members (stringMember (.obj fields)) (intMember nums (.obj fields))
  | some _ => .noMembers

def checkParams (p : Platform) (nums : Wakeup.Numbers) (param : String)
    (f : Implicit.StartParams) : Option Bool × Implicit.StartParams :=
  Implicit.checkParams (.ofDocument nums (p.parseJson param)) f

variable (p : Platform)

lemma isSome_parseControlItems (items : List Json)
    (acc : Trigger.ControlList × List Trigger.SourceType) :
    (Trigger.parseControlItems p items acc).isSome ↔
      ∀ item ∈ items, item.HasMembers ∧ item.Converts Json.asString "bundleName" := by
  induction items generalizing acc with
  | nil => simp [Trigger.parseControlItems]
  | cons item rest ih =>
    unfold Trigger.parseControlItems
    by_cases hm : item.HasMembers
    · rw [Json.member_eq hm, Json.member_eq hm]
      have hconv : item.Converts Json.asString "bundleName" ↔
          (((item.field? "bundleName").getD .null).asString).isSome := by
        unfold Json.Converts
        cases item.field? "bundleName" <;> simp [Json.asString]
      cases hb : ((item.field? "bundleName").getD .null).asString with
      | none => simp [hconv, hb]
      | some bundleName => simp [hconv, hb, hm, ih]
    · have hnone : item.member "bundleName" = none := by
        by_contra hne
        exact hm (Json.hasMembers_of_member (Option.isSome_iff_ne_none.2 hne))
      simp [hnone, hm]

def storedText (kv : StoredLists) : ConcurrencyControlList → String
  | .whitelist => kv.concurrentWhiteList
  | .blacklist => kv.concurrentBlackList

lemma isSome_readControlList (value : String) : (Trigger.readControlList p value).isSome ↔
    (value ≠ "" → ∀ root, p.parseJson value = some root →
      ∀ item ∈ root.elements, item.HasMembers ∧ item.Converts Json.asString "bundleName") := by
  unfold Trigger.readControlList
  by_cases hempty : value = ""
  · simp [hempty]
  rw [if_neg (by simpa using hempty)]
  cases p.parseJson value with
  | none => simp
  | some root => simp [hempty, isSome_parseControlItems]

lemma isSome_checkParams_members (string : String → Option String) (int : String → Option Int)
    (f : Implicit.StartParams) : (Implicit.checkParams (.members string int) f).1.isSome := by
  unfold Implicit.checkParams
  dsimp only
  repeat' split
  all_goals rfl

theorem client_json_returns_iff (nums : Wakeup.Numbers) (text : String)
    (macAddress serviceName : String) (type : Wakeup.WakeupDeviceType) (f : Implicit.StartParams)
    (kv : StoredLists) (env : Env) (listType : ConcurrencyControlList) :
    ((isImplicitEnroll p text).isSome ↔ ∀ root, p.parseJson text = some root →
      root.HasMembers ∧ root.Converts Json.asString "implicit_enroll") ∧
    ((extractDeviceDetail p macAddress type serviceName text).isSome ↔
      ∀ root, p.parseJson text = some root → root.HasMembers ∧
        root.Converts Json.asBool "needSecondStageWakeup" ∧
        root.Converts Json.asString "modelType") ∧
    ((checkParams p nums text f).1.isSome ↔
      ∀ root, p.parseJson text = some root → root.HasMembers) ∧
    ((Trigger.setConcurrencyControlList p kv env listType).isSome ↔
      (storedText kv listType ≠ "" → ∀ root, p.parseJson (storedText kv listType) = some root →
        ∀ item ∈ root.elements, item.HasMembers ∧ item.Converts Json.asString "bundleName")) := by
  have hread := isSome_readControlList p
  refine ⟨?_, ?_, ?_, ?_⟩
  · unfold isImplicitEnroll
    cases p.parseJson text with
    | none => simp
    | some root => simp [Json.isSome_memberOr]
  · unfold extractDeviceDetail
    cases p.parseJson text with
    | none => simp
    | some root =>
      have hstage := root.isSome_memberOr Json.asBool "needSecondStageWakeup" false
      have hmodel := root.isSome_memberOr Json.asString "modelType" "default"
      simp only [Option.some.injEq, forall_eq']
      -- an exception at the first member leaves the second one unread
      cases hs : root.memberOr Json.asBool "needSecondStageWakeup" false with
      | none => simp_all
      | some needSecondStageWakeup =>
        cases hm : root.memberOr Json.asString "modelType" "default" with
        | none | some modelType => simp_all
  · unfold checkParams
    cases p.parseJson text with
    | none => simp [Implicit.Parsed.ofDocument, Implicit.checkParams]
    | some root =>
      have hno : (Implicit.checkParams .noMembers f).1 = none := rfl
      cases root <;> simp [Implicit.Parsed.ofDocument, Json.HasMembers, hno,
        isSome_checkParams_members]
  · cases listType with
    | whitelist =>
      simpa [storedText, Trigger.setConcurrencyControlList] using hread kv.concurrentWhiteList
    | blacklist =>
      simpa [storedText, Trigger.setConcurrencyControlList] using hread kv.concurrentBlackList

def platformReading (root : Json) : Platform :=
  { Platform.bare (Trigger.Build.minimal false) with parseJson := fun _ => some root }

theorem client_json_array_throws :
    let p := platformReading (.arr [.number "1"])
    isImplicitEnroll p "[1]" = none ∧
      extractDeviceDetail p "" .phone "" "[1]" = none ∧
      (checkParams p Wakeup.Numbers.oneDigit "[1]" {}).1 = none ∧
      Trigger.setConcurrencyControlList p ⟨"[1]", ""⟩ {} .whitelist = none := by
  refine ⟨rfl, rfl, rfl, ?_⟩
  simp [Trigger.setConcurrencyControlList, Trigger.readControlList, platformReading,
    Json.elements, Trigger.parseControlItems, Json.member]

theorem startEnroll_passes_iff (p : Platform)
    (hparse : ∀ text, (p.parseJson text).isSome → Utils.StringUtil.trim text.toList ≠ [])
    (wakeupInfo : String) (h : isImplicitEnroll p wakeupInfo = some true) :
    Implicit.requestOf (Implicit.startEnroll wakeupInfo) =
        some (.startRecognize (some (Implicit.trimmed wakeupInfo))) ↔
      ';' ∉ wakeupInfo.toList := by
  refine ⟨fun hrequest => (Implicit.whole_of_requestOf hrequest).1, fun hsep => ?_⟩
  rw [Implicit.requestOf_startEnroll hsep, if_neg]
  refine hparse wakeupInfo ?_
  unfold isImplicitEnroll at h
  cases hroot : p.parseJson wakeupInfo with
  | none => simp [hroot] at h
  | some root => rfl

def platformOf (text : String) : Platform :=
  { platformReading .null with
    parseJson := fun s => if s = text then some (.obj [("implicit_enroll", .str "true")])
      else none }

theorem startEnroll_passes_plain :
    let text := "\x7b\"implicit_enroll\":\"true\"\x7d"
    Implicit.requestOf (Implicit.startEnroll text) =
        some (.startRecognize (some (Implicit.trimmed text))) ↔ ';' ∉ text.toList :=
  startEnroll_passes_iff (platformOf "\x7b\"implicit_enroll\":\"true\"\x7d") (fun text h => by
    by_cases heq : text = "\x7b\"implicit_enroll\":\"true\"\x7d"
    · subst heq
      decide
    · simp [platformOf, heq] at h) _ (by simp [isImplicitEnroll, platformOf]; rfl)

theorem startEnroll_clears_data :
    let text := "\x7b\"implicit_enroll\":\"true\",\"a\":\";clear_data=1\"\x7d"
    isImplicitEnroll (platformOf text) text = some true ∧
      Implicit.requestOf (Implicit.startEnroll text) =
        some (.setParam (some (Implicit.startEnroll text))) := by
  exact ⟨by simp [isImplicitEnroll, platformOf]; rfl, rfl⟩

end IntellVoice
