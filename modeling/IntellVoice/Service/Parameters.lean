import IntellVoice.Enroll.Engine
import IntellVoice.Library.Loop

/-! `EngineSetParameter` and the enroll engine cut text into keys and values. -/

open Loop OrderedMap List

namespace IntellVoice.Enroll
open Utils

def HistoryKey.ofParameter (key : String) : Option HistoryKey :=
  if key = "wakeup_bundle_name" then some .wakeupEngineBundleName
  else if key = "wakeup_ability_name" then some .wakeupEngineAbilityName
  else if key = "language" then some .language
  else if key = "area" then some .area
  else if key = "Sensibility" then some .sensibility
  else none

def HistoryKey.write (p : String × String) : Option (HistoryKey × String) :=
  (HistoryKey.ofParameter p.1).map (·, p.2)

namespace Engine

def isWakeupName (key : String) : Bool :=
  key == "wakeup_bundle_name" || key == "wakeup_ability_name"

lemma setParameterInner_eq (l : List (String × String)) : setParameterInner l =
      ((upTo (fun p => isWakeupName p.1) l).filterMap HistoryKey.write,
        l.any fun p => isWakeupName p.1) := by
  induction l with
  | nil => rfl
  | cons p rest ih =>
    obtain ⟨key, value⟩ := p
    rw [setParameterInner, ih, upTo]
    -- in the order of the source: the two names return, the other three keys go on
    by_cases hbundle : key = "wakeup_bundle_name"
    · simp [hbundle, isWakeupName, HistoryKey.write, HistoryKey.ofParameter]
    by_cases hability : key = "wakeup_ability_name"
    · simp [hability, isWakeupName, HistoryKey.write, HistoryKey.ofParameter]
    have hname : isWakeupName key = false := by simp [isWakeupName, hbundle, hability]
    rw [if_neg hbundle, if_neg hability]
    simp only [hname, Bool.false_eq_true, if_false, any_cons, Bool.false_or,
      filterMap_cons, HistoryKey.write, HistoryKey.ofParameter, if_neg hbundle,
      if_neg hability]
    by_cases hlanguage : key = "language"
    · simp [hlanguage]
    by_cases harea : key = "area"
    · simp [harea]
    by_cases hsens : key = "Sensibility"
    · simp [hsens]
    · simp [hlanguage, harea, hsens]

lemma setParameter_history (s : Engine) (keyValueList : String) (ret : Int) :
    (s.setParameter keyValueList ret).2.history = s.history ++
        (setParameterInner (StringUtil.splitStringToKVPair keyValueList).entries).1 := by
  simp only [setParameter]
  split
  · rfl
  · split <;> rfl

lemma setParameter_answer {s : Engine} {keyValueList : String} (ret : Int) (hadapter : s.adapter) :
    (s.setParameter keyValueList ret).1 =
      if (setParameterInner (StringUtil.splitStringToKVPair keyValueList).entries).2 then 0
      else ret := by
  simp only [setParameter, hadapter]
  split <;> rfl

structure Applies (keyValueList : String) : Prop where
  stores : ∀ (s : Engine) (ret : Int) (key value : String) (h : HistoryKey),
    (StringUtil.splitStringToKVPair keyValueList).find? key = some value →
    HistoryKey.ofParameter key = some h →
    ∃ writes, (s.setParameter keyValueList ret).2.history = s.history ++ writes ∧
      (h, value) ∈ writes
  passesOn : (∃ key value, (StringUtil.splitStringToKVPair keyValueList).find? key = some value ∧
      HistoryKey.ofParameter key = none) →
    ∀ (s : Engine) (ret : Int), s.adapter → (s.setParameter keyValueList ret).1 = ret

variable {h : HistoryKey} {key : String}

lemma not_bundleName_lt (hkey : HistoryKey.ofParameter key = some h) :
    ¬ "wakeup_bundle_name" < key := by
  unfold HistoryKey.ofParameter at hkey
  split_ifs at hkey <;> subst key <;> decide

lemma eq_bundleName_of_lt (hkey : HistoryKey.ofParameter key = some h)
    (hlt : "wakeup_ability_name" < key) : key = "wakeup_bundle_name" := by
  unfold HistoryKey.ofParameter at hkey
  split_ifs at hkey with hbundle
  · exact hbundle
  all_goals
    subst key
    exact absurd hlt (by decide)

lemma ofParameter_bundleName (hkey : HistoryKey.ofParameter key = some .wakeupEngineBundleName) :
    key = "wakeup_bundle_name" := by
  unfold HistoryKey.ofParameter at hkey
  split_ifs at hkey with hbundle
  · exact hbundle
  all_goals cases hkey

lemma isWakeupName_iff :
    isWakeupName key ↔ key = "wakeup_bundle_name" ∨ key = "wakeup_ability_name" := by
  simp [isWakeupName]

lemma stores_iff (kvpairs : OrderedMap String String) :
    (∀ key value h, kvpairs.find? key = some value → HistoryKey.ofParameter key = some h →
      (h, value) ∈ (setParameterInner kvpairs.entries).1) ↔
    (kvpairs.find? "wakeup_ability_name" = none ∨ kvpairs.find? "wakeup_bundle_name" = none) := by
  rw [setParameterInner_eq]
  constructor
  · intro hstores
    by_contra hboth
    obtain ⟨hability, hbundle⟩ := not_or.1 hboth
    obtain ⟨ability, hability⟩ := Option.ne_none_iff_exists'.1 hability
    obtain ⟨bundle, hbundle⟩ := Option.ne_none_iff_exists'.1 hbundle
    obtain ⟨p, hp, hwrite⟩ := mem_filterMap.1 (hstores _ _ _ hbundle rfl)
    obtain ⟨h, hh, heq⟩ := Option.map_eq_some_iff.1 hwrite
    obtain rfl : h = .wakeupEngineBundleName := congrArg Prod.fst heq
    -- the loop returned at the ability name, which comes before the bundle name
    have hbefore := ((mem_upTo kvpairs.sorted).1 hp).2 _ (find?_eq_some_iff.1 hability)
    rw [ofParameter_bundleName hh] at hbefore
    have hlt : "wakeup_ability_name" < "wakeup_bundle_name" := by decide
    exact Bool.false_ne_true ((hbefore hlt).symm.trans rfl)
  · intro hone key value h hfind hkey
    refine mem_filterMap.2 ⟨(key, value), ?_, by simp [HistoryKey.write, hkey]⟩
    refine (mem_upTo kvpairs.sorted).2 ⟨find?_eq_some_iff.1 hfind, ?_⟩
    rintro ⟨early, v⟩ hearly hlt
    by_contra hname
    rw [Bool.not_eq_false, isWakeupName_iff] at hname
    have hearly := find?_eq_some_iff.2 hearly
    rcases hname with rfl | rfl
    · -- the map is sorted: what can be cut off is the bundle name, behind the ability name
      exact not_bundleName_lt hkey hlt
    obtain rfl := eq_bundleName_of_lt hkey hlt
    rcases hone with hnone | hnone
    · cases hnone.symm.trans hearly
    · cases hnone.symm.trans hfind

lemma inner_iff (kvpairs : OrderedMap String String) :
    (setParameterInner kvpairs.entries).2 = false ↔
      kvpairs.find? "wakeup_ability_name" = none ∧ kvpairs.find? "wakeup_bundle_name" = none := by
  have hfind : ∀ key : String,
      kvpairs.find? key = none ↔ ∀ value, (key, value) ∉ kvpairs.entries := by
    intro key
    simp only [Option.eq_none_iff_forall_ne_some, ne_eq, find?_eq_some_iff]
  rw [setParameterInner_eq, hfind, hfind, ← Bool.not_eq_true, any_eq_true]
  constructor
  · intro hnone
    exact ⟨fun value hmem => hnone ⟨_, hmem, isWakeupName_iff.2 (.inr rfl)⟩,
      fun value hmem => hnone ⟨_, hmem, isWakeupName_iff.2 (.inl rfl)⟩⟩
  · rintro ⟨hability, hbundle⟩ ⟨⟨key, value⟩, hmem, hname⟩
    rcases isWakeupName_iff.1 hname with hkey | hkey
    · exact hbundle value (hkey ▸ hmem)
    · exact hability value (hkey ▸ hmem)

lemma applies_iff (keyValueList : String) : Applies keyValueList ↔
      ((StringUtil.splitStringToKVPair keyValueList).find? "wakeup_ability_name" = none ∨
        (StringUtil.splitStringToKVPair keyValueList).find? "wakeup_bundle_name" = none) ∧
      ((∃ key value, (StringUtil.splitStringToKVPair keyValueList).find? key = some value ∧
          HistoryKey.ofParameter key = none) →
        (StringUtil.splitStringToKVPair keyValueList).find? "wakeup_ability_name" = none ∧
          (StringUtil.splitStringToKVPair keyValueList).find? "wakeup_bundle_name" = none) := by
  rw [← stores_iff, ← inner_iff]
  constructor
  · intro happlies
    constructor
    · intro key value h hfind hkey
      obtain ⟨writes, hwrites, hmem⟩ := happlies.stores {} 0 key value h hfind hkey
      rw [setParameter_history] at hwrites
      rw [append_cancel_left hwrites]
      exact hmem
    · -- an answer of the adapter other than zero tells whether the list came to it
      intro hother
      have hret := happlies.passesOn hother { adapter := true } 1 rfl
      rw [setParameter_answer 1 rfl] at hret
      by_contra hinner
      rw [if_pos (Bool.not_eq_false _ ▸ hinner)] at hret
      cases hret
  · rintro ⟨hstores, hpasses⟩
    constructor
    · intro s ret key value h hfind hkey
      exact ⟨_, setParameter_history s keyValueList ret, hstores key value h hfind hkey⟩
    · intro hother s ret hadapter
      rw [setParameter_answer ret hadapter, hpasses hother]
      rfl

end Engine
end IntellVoice.Enroll

namespace IntellVoice.Service
open Utils

inductive VoidHandler where
  | handleSensibility
  | handleWakeupBundleName
  | handleWakeupAbilityName
  | handleRecordStart
  | handleCountryInfo
  | handleWakeupScene
  | handleConcurrentWhiteList
  | handleConcurrentBlackList
  | handleTriggerParam
deriving DecidableEq

inductive AnswerHandler where
  | handleDataClear
  | handleEngineRelease
deriving DecidableEq

inductive HandlerRun where
  | void (handler : VoidHandler) (key value : String)
  | answer (handler : AnswerHandler) (key value : String)
deriving DecidableEq

namespace HandlerRun

def key : HandlerRun → String
  | void _ key _ => key
  | answer _ key _ => key

def value : HandlerRun → String
  | void _ _ value => value
  | answer _ _ value => value

end HandlerRun

def triggerParams : List String :=
  ["skipIntensityCheck", "skipTimingCheck", "skipTimingAccumulate", "sndIntensityThres",
    "dualMicBudget", "dualMicSuspen", "closeCountThres", "openCountThres"]

def handlerMap : OrderedMap String AnswerHandler :=
  ((∅ : OrderedMap String AnswerHandler).set "clear_data" .handleDataClear).set
    "engine_release" .handleEngineRelease

def voidHandlerMap (supportRecordWakeupConcurrent : Bool) : OrderedMap String VoidHandler :=
  let listed := [("Sensibility", VoidHandler.handleSensibility),
    ("wakeup_bundle_name", .handleWakeupBundleName),
    ("wakeup_ability_name", .handleWakeupAbilityName),
    ("record_start", .handleRecordStart),
    ("country", .handleCountryInfo),
    ("wakeup_scene", .handleWakeupScene)]
  let concurrent := if supportRecordWakeupConcurrent then
    [("concurrentWhiteList", VoidHandler.handleConcurrentWhiteList),
      ("concurrentBlackList", .handleConcurrentBlackList)] else []
  -- the parameters of the trigger are added last
  let params := triggerParams.map (·, VoidHandler.handleTriggerParam)
  (listed ++ concurrent ++ params).foldl (fun m p => m.set p.1 p.2) ∅

lemma handlerMap_isSome {key : String} :
    (handlerMap.find? key).isSome ↔ key = "clear_data" ∨ key = "engine_release" := by
  simp only [handlerMap, find?_set]
  split
  · simp [*]
  · split <;> simp [*]

section
variable (supportRecordWakeupConcurrent : Bool) (setClearData : String → Int)

def AnswerHandler.run (value : String) : AnswerHandler → Int
  | .handleDataClear => setClearData value
  | .handleEngineRelease => if value = "implicit_enroll" then 0 else -1

def setParameters : List (String × String) → Int × List HandlerRun
  | [] => (0, [])
  | (key, value) :: rest =>
    match handlerMap.find? key with
    -- the rest of the list is not looked at
    | some handler => (handler.run setClearData value, [.answer handler key value])
    | none =>
      match (voidHandlerMap supportRecordWakeupConcurrent).find? key with
      | some handler =>
        ((setParameters rest).1, .void handler key value :: (setParameters rest).2)
      | none => setParameters rest

def engineSetParameter (keyValueList : String) : Int × List HandlerRun :=
  setParameters supportRecordWakeupConcurrent setClearData
    (StringUtil.splitStringToKVPair keyValueList).entries

def handlerRun (p : String × String) : Option HandlerRun :=
  match handlerMap.find? p.1 with
  | some handler => some (.answer handler p.1 p.2)
  | none =>
    ((voidHandlerMap supportRecordWakeupConcurrent).find? p.1).map (.void · p.1 p.2)

def isRecognised (key : String) : Bool :=
  (handlerMap.find? key).isSome || ((voidHandlerMap supportRecordWakeupConcurrent).find? key).isSome

end

variable {concurrent : Bool} {setClearData : String → Int} {run : HandlerRun} {p : String × String}

lemma handlerRun_key (hrun : handlerRun concurrent p = some run) : (run.key, run.value) = p := by
  unfold handlerRun at hrun
  split at hrun
  · cases hrun
    rfl
  · obtain ⟨handler, -, rfl⟩ := Option.map_eq_some_iff.1 hrun
    rfl

lemma isSome_handlerRun (key value : String) :
    (handlerRun concurrent (key, value)).isSome = isRecognised concurrent key := by
  unfold handlerRun isRecognised
  cases handlerMap.find? key <;> simp

lemma setParameters_runs (l : List (String × String)) :
    (setParameters concurrent setClearData l).2 =
      (upTo (fun p => (handlerMap.find? p.1).isSome) l).filterMap (handlerRun concurrent) := by
  induction l with
  | nil => rfl
  | cons p rest ih =>
    obtain ⟨key, value⟩ := p
    rw [setParameters, upTo]
    cases hanswer : handlerMap.find? key with
    | some handler => simp [handlerRun, hanswer]
    | none =>
      cases hvoid : (voidHandlerMap concurrent).find? key with
      | some handler | none => simp [handlerRun, hanswer, hvoid, ih]

lemma filter_handlerRun {l : List (String × String)} (hl : l.Pairwise fun p q => p.1 < q.1)
    (hp : p ∈ l) (hrun : handlerRun concurrent p = some run) :
    (l.filterMap (handlerRun concurrent)).filter (·.key == p.1) = [run] := by
  have hkey : ∀ {q : String × String} {run' : HandlerRun},
      handlerRun concurrent q = some run' → run'.key = q.1 :=
    fun hrun' => congrArg Prod.fst (handlerRun_key hrun')
  induction l with
  | nil => cases hp
  | cons q rest ih =>
    obtain ⟨hq, hrest⟩ := pairwise_cons.1 hl
    rcases mem_cons.1 hp with rfl | hp
    · -- its own run comes first, and all later keys are larger
      rw [filterMap_cons_some hrun, filter_cons_of_pos (by simp [hkey hrun])]
      congr 1
      rw [filter_eq_nil_iff]
      intro run' hmem
      obtain ⟨q, hq', hrun'⟩ := mem_filterMap.1 hmem
      simp [hkey hrun', (hq q hq').ne']
    · rw [← ih hrest hp]
      cases hhead : handlerRun concurrent q with
      | none => rw [filterMap_cons_none hhead]
      | some run' =>
        rw [filterMap_cons_some hhead,
          filter_cons_of_neg (by simp [hkey hhead, (hq p hp).ne])]

def RunsEach (supportRecordWakeupConcurrent : Bool) (setClearData : String → Int)
    (keyValueList : String) : Prop :=
  ∀ key value run, (StringUtil.splitStringToKVPair keyValueList).find? key = some value →
    handlerRun supportRecordWakeupConcurrent (key, value) = some run →
    (engineSetParameter supportRecordWakeupConcurrent setClearData keyValueList).2.filter
      (·.key == key) = [run]

lemma runsEach_iff (concurrent : Bool) (setClearData : String → Int) (keyValueList : String) :
    RunsEach concurrent setClearData keyValueList ↔
      ∀ early late, early = "clear_data" ∨ early = "engine_release" →
        early ∈ (StringUtil.splitStringToKVPair keyValueList).keys →
        late ∈ (StringUtil.splitStringToKVPair keyValueList).keys →
        isRecognised concurrent late → ¬ early < late := by
  unfold RunsEach engineSetParameter
  rw [setParameters_runs]
  generalize StringUtil.splitStringToKVPair keyValueList = kvpairs
  have hsorted := kvpairs.sorted.sublist
    (upTo_sublist (fun p => (handlerMap.find? p.1).isSome) kvpairs.entries)
  constructor
  · intro hruns early late hearly hmem hlate hrec hlt
    obtain ⟨⟨key, value⟩, hp, rfl⟩ := mem_map.1 hlate
    obtain ⟨q, hq, rfl⟩ := mem_map.1 hmem
    rw [← isSome_handlerRun key value] at hrec
    obtain ⟨run, hrun⟩ := Option.isSome_iff_exists.1 hrec
    -- the run is there, so the loop came to the pair that it belongs to
    have hone := hruns key value run (find?_eq_some_iff.2 hp) hrun
    have hin := mem_of_mem_filter (hone ▸ mem_singleton_self run)
    obtain ⟨p, hp', hrun'⟩ := mem_filterMap.1 hin
    obtain rfl : p = (key, value) := (handlerRun_key hrun').symm.trans (handlerRun_key hrun)
    have hstop := ((mem_upTo kvpairs.sorted).1 hp').2 q hq hlt
    rw [handlerMap_isSome.2 hearly] at hstop
    cases hstop
  · intro hlist key value run hfind hrun
    have hp := find?_eq_some_iff.1 hfind
    refine filter_handlerRun hsorted ((mem_upTo kvpairs.sorted).2 ⟨hp, ?_⟩) hrun
    -- a pair that the loop returned at is one of the two keys of `handlerMap_`
    intro q hq hlt
    by_contra hstop
    refine hlist q.1 key (handlerMap_isSome.1 (Bool.not_eq_false _ ▸ hstop))
      (mem_map_of_mem hq) (mem_map_of_mem hp) ?_ hlt
    rw [← isSome_handlerRun key value, hrun]
    rfl

theorem parameters_applied_iff (supportRecordWakeupConcurrent : Bool) (setClearData : String → Int)
    (keyValueList : String) :
    RunsEach supportRecordWakeupConcurrent setClearData keyValueList ∧
        Enroll.Engine.Applies keyValueList ↔
      (∀ early late, early = "clear_data" ∨ early = "engine_release" →
        early ∈ (StringUtil.splitStringToKVPair keyValueList).keys →
        late ∈ (StringUtil.splitStringToKVPair keyValueList).keys →
        isRecognised supportRecordWakeupConcurrent late → ¬ early < late) ∧
      ((StringUtil.splitStringToKVPair keyValueList).find? "wakeup_ability_name" = none ∨
        (StringUtil.splitStringToKVPair keyValueList).find? "wakeup_bundle_name" = none) ∧
      ((∃ key value, (StringUtil.splitStringToKVPair keyValueList).find? key = some value ∧
          Enroll.HistoryKey.ofParameter key = none) →
        (StringUtil.splitStringToKVPair keyValueList).find? "wakeup_ability_name" = none ∧
          (StringUtil.splitStringToKVPair keyValueList).find? "wakeup_bundle_name" = none) :=
  and_congr (runsEach_iff _ _ _) (Enroll.Engine.applies_iff _)

theorem parameters_skipped :
    ¬ RunsEach true (fun _ => 0) "clear_data=1;wakeup_scene=voice" ∧
      ¬ Enroll.Engine.Applies "wakeup_ability_name=a;wakeup_bundle_name=b" := by
  constructor
  · intro h
    have hscene := h "wakeup_scene" "voice" (.void .handleWakeupScene "wakeup_scene" "voice")
      (by decide +kernel) (by decide +kernel)
    exact absurd hscene (by decide +kernel)
  · intro h
    obtain ⟨writes, hwrites, hmem⟩ := h.stores {} 0 "wakeup_bundle_name" "b"
      .wakeupEngineBundleName (by decide +kernel) (by decide +kernel)
    have hstored : (Enroll.Engine.setParameter {}
        "wakeup_ability_name=a;wakeup_bundle_name=b" 0).2.history =
        [(.wakeupEngineAbilityName, "a")] := by decide +kernel
    have heq : [(.wakeupEngineAbilityName, "a")] = writes := hstored.symm.trans hwrites
    rw [← heq] at hmem
    exact absurd hmem (by decide)

end IntellVoice.Service
