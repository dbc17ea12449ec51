import IntellVoice.Library.History
import IntellVoice.Trigger.CaptureMode

/-! The renderer callback tells the module which usages play. -/

namespace IntellVoice.Trigger
open Transition OrderedMap Platform List
variable {M : Type*} {p : Platform} {mod : ConnectorModule M}

abbrev RendererReport := List (Option AudioRendererChangeInfo)

def Plays (usage : Int) (infos : RendererReport) : Prop :=
  ∃ info, some info ∈ infos ∧ info.streamUsage = usage ∧ info.running

def Reported (usage : Int) (infos : RendererReport) : Prop :=
  ∃ info, some info ∈ infos ∧ info.streamUsage = usage

def Effect.streamMessage (usage : Int) : Effect → Option Bool
  | .setParams key value =>
    if value = toString usage then
      if key = "start_stream" then some true
      else if key = "stop_stream" then some false
      else none
    else none
  | _ => none

def Io.lastStreamMessage (usage : Int) (io : Io M) : Option Bool :=
  History.latest (Effect.streamMessage usage) io.log

structure RenderersAgree (p : Platform) (h : Helper M) (infos : RendererReport) : Prop where
  messages : ∀ usage, h.io.lastStreamMessage usage = some true ↔ Plays usage infos
  besidesVoip : h.env.hasStreamBesidesVoip ↔ ∃ info, some info ∈ infos ∧
    info.running ∧ p.streamUsageOf info.streamUsage ≠ .voiceCommunication ∧
    p.streamUsageOf info.streamUsage ≠ .videoCommunication
  besidesVoice : h.env.hasStreamBesidesVoice ↔ ∃ info, some info ∈ infos ∧
    info.running ∧ p.streamUsageOf info.streamUsage ≠ .voiceModemCommunication

lemma streamMessage_self (usage : Int) (playing : Bool) :
    (Effect.setParams (if playing then "start_stream" else "stop_stream")
      (toString usage)).streamMessage usage = some playing := by
  cases playing <;> simp [Effect.streamMessage]

lemma streamMessage_ne {usage other : Int} (hne : other ≠ usage) (key : String) :
    (Effect.setParams key (toString usage)).streamMessage other = none := by
  have hvalue : toString usage ≠ toString other := fun h => hne (Int.repr_injective h).symm
  exact if_neg hvalue

namespace Helper

lemma rendererUsages_concat_none (infos : RendererReport) :
    rendererUsages (infos ++ [none]) = rendererUsages infos := by
  simp [rendererUsages]

lemma rendererUsages_concat_some (infos : RendererReport) (info : AudioRendererChangeInfo) :
    rendererUsages (infos ++ [some info]) =
      if (rendererUsages infos).find? info.streamUsage = some true then rendererUsages infos
      else (rendererUsages infos).set info.streamUsage info.running := by
  rw [rendererUsages, foldl_append]
  rfl

variable {usage : Int} {info? : Option AudioRendererChangeInfo} {infos : RendererReport}

lemma plays_concat : Plays usage (infos ++ [info?]) ↔ Plays usage infos ∨
      ∃ info, info? = some info ∧ info.streamUsage = usage ∧ info.running := by
  simp only [Plays, mem_append, mem_singleton, or_and_right, exists_or,
    eq_comm (a := info?)]

lemma reported_concat : Reported usage (infos ++ [info?]) ↔ Reported usage infos ∨
      ∃ info, info? = some info ∧ info.streamUsage = usage := by
  simp only [Reported, mem_append, mem_singleton, or_and_right, exists_or,
    eq_comm (a := info?)]

lemma rendererUsages_find_true (usage : Int) (infos : RendererReport) :
    (rendererUsages infos).find? usage = some true ↔ Plays usage infos := by
  -- from the back, as the loop of the source goes on from the map it has
  induction infos using reverseRecOn with
  | nil => simp [rendererUsages, Plays]
  | append_singleton infos info? ih =>
    rw [plays_concat, ← ih]
    cases info? with
    | none => simp [rendererUsages_concat_none]
    | some info =>
      rw [rendererUsages_concat_some]
      by_cases hplays : (rendererUsages infos).find? info.streamUsage = some true
      · -- once a usage plays, later renderers of it are not looked at
        rw [if_pos hplays]
        refine ⟨.inl, ?_⟩
        rintro (hold | ⟨_, ⟨⟩, rfl, -⟩)
        · exact hold
        · exact hplays
      rw [if_neg hplays, find?_set]
      by_cases husage : usage = info.streamUsage
      · subst husage
        simp [hplays]
      · simp [husage, Ne.symm husage]

lemma rendererUsages_find_none (usage : Int) (infos : RendererReport) :
    (rendererUsages infos).find? usage = none ↔ ¬ Reported usage infos := by
  induction infos using reverseRecOn with
  | nil => simp [rendererUsages, Reported]
  | append_singleton infos info? ih =>
    rw [reported_concat, not_or, ← ih]
    cases info? with
    | none => simp [rendererUsages_concat_none]
    | some info =>
      rw [rendererUsages_concat_some]
      by_cases hplays : (rendererUsages infos).find? info.streamUsage = some true
      · rw [if_pos hplays]
        refine ⟨fun hnone => ⟨hnone, ?_⟩, And.left⟩
        rintro ⟨_, ⟨⟩, rfl⟩
        rw [hplays] at hnone
        cases hnone
      rw [if_neg hplays, find?_set]
      by_cases husage : usage = info.streamUsage
      · subst husage
        simp
      · simp [husage, Ne.symm husage]

lemma playsBesides_iff (usages : List StreamUsage) (infos : RendererReport) :
    playsBesides p usages infos ↔ ∃ info, some info ∈ infos ∧ info.running ∧
      p.streamUsageOf info.streamUsage ∉ usages := by
  unfold playsBesides
  rw [any_eq_true]
  constructor
  · rintro ⟨info?, hmem, hplays⟩
    cases info? with
    | none => cases hplays
    | some info => exact ⟨info, hmem, by simpa using hplays⟩
  · rintro ⟨info, hmem, hplays⟩
    exact ⟨some info, hmem, by simpa using hplays⟩

variable {h h' : Helper M}

def Tracked (h : Helper M) : Prop :=
  ∀ usage, h.io.lastStreamMessage usage = h.env.rendererStateMap.find? usage

lemma Tracked.reportUsage (hget : mod.Obtained) (ht : h.Tracked) (usage : Int × Bool) :
    (h.reportUsage mod usage).Tracked := by
  unfold Helper.reportUsage
  split
  · exact ht
  intro other
  have hlog : (h.io.setParameterForInputPipe mod
      (if usage.2 then "start_stream" else "stop_stream") (toString usage.1)).2.log =
      h.io.log ++ [.setParams (if usage.2 then "start_stream" else "stop_stream")
        (toString usage.1)] := Io.log_setParameter_obtained hget _ _ _
  refine (congrArg (History.latest (Effect.streamMessage other)) hlog).trans ?_
  show _ = (h.env.rendererStateMap.set usage.1 usage.2).find? other
  rw [History.latest_concat, find?_set]
  -- the message is about one usage and leaves those about the others the latest
  by_cases hother : other = usage.1
  · subst hother
    rw [streamMessage_self, if_pos rfl]
    rfl
  · rw [streamMessage_ne hother, if_neg hother]
    exact ht other

lemma rendererStateMap_reportUsage (h : Helper M) (usage : Int × Bool) (k : Int) :
    (h.reportUsage mod usage).env.rendererStateMap.find? k =
      (h.env.rendererStateMap.set usage.1 usage.2).find? k := by
  unfold Helper.reportUsage
  split
  · -- nothing is written, and nothing would have changed
    rename_i hsame
    rw [find?_set]
    split
    · rename_i hk
      rw [hk, hsame]
    · rfl
  · rfl

structure AfterReport (p : Platform) (h h' : Helper M) (infos : RendererReport) : Prop where
  tracked : h'.Tracked
  map : ∀ usage, h'.env.rendererStateMap.find? usage =
    ((rendererUsages infos).find? usage).or (h.env.rendererStateMap.find? usage)
  besidesVoip : h'.env.hasStreamBesidesVoip =
    playsBesides p [.voiceCommunication, .videoCommunication] infos
  besidesVoice : h'.env.hasStreamBesidesVoice = playsBesides p [.voiceModemCommunication] infos
  voip : h'.env.mVoipConcurrency = h.env.mVoipConcurrency

lemma reportUsages_after (hget : mod.Obtained) (usages : List (Int × Bool)) (h : Helper M)
    (ht : h.Tracked) : (usages.foldl (fun h usage => h.reportUsage mod usage) h).Tracked ∧
      ∀ k, (usages.foldl (fun h usage => h.reportUsage mod usage) h).env.rendererStateMap.find? k =
        (usages.foldl (fun m usage => m.set usage.1 usage.2) h.env.rendererStateMap).find? k := by
  induction usages generalizing h with
  | nil => exact ⟨ht, fun _ => rfl⟩
  | cons usage usages ih =>
    obtain ⟨htracked, hmap⟩ := ih (h.reportUsage mod usage) (ht.reportUsage hget usage)
    refine ⟨htracked, fun k => (hmap k).trans ?_⟩
    rw [foldl_cons, find?_foldl_set Prod.fst Prod.snd,
      find?_foldl_set Prod.fst Prod.snd, h.rendererStateMap_reportUsage usage k]

lemma onRendererStateChange_after (hget : mod.Obtained) (kv : StoredLists) (pipes : InputPipes)
    (infos : RendererReport) (ht : h.Tracked) (hvoip : h.env.mVoipConcurrency = false) :
    ∃ h', h.onRendererStateChange p mod kv pipes infos = some h' ∧ AfterReport p h h' infos := by
  have ht' : (h.setEnv ((Event.onRendererStateChange infos).store p h.env)).Tracked := ht
  have hagree := reportUsages_agree mod (rendererUsages infos).entries
    (h.setEnv ((Event.onRendererStateChange infos).store p h.env))
  obtain ⟨htracked, hmap⟩ := reportUsages_after hget (rendererUsages infos).entries _ ht'
  have hvoip' : ((rendererUsages infos).entries.foldl (fun h usage => h.reportUsage mod usage)
      (h.setEnv ((Event.onRendererStateChange infos).store p h.env))).env.mVoipConcurrency =
      false := by
    rw [hagree]
    exact hvoip
  refine ⟨_, ?_, htracked, fun usage => ?_, ?_, ?_, ?_⟩
  · -- the pipes are only looked at with voip concurrency
    show reevaluateForVoip p mod kv pipes ((rendererUsages infos).entries.foldl
      (fun h usage => h.reportUsage mod usage)
      (h.setEnv ((Event.onRendererStateChange infos).store p h.env))) = _
    simp only [reevaluateForVoip, hvoip', Bool.and_false, Bool.false_eq_true, if_false]
  · exact (hmap usage).trans (OrderedMap.find?_foldl_entries _ _ usage)
  · rw [hagree]
    rfl
  · rw [hagree]
    rfl
  · rw [hagree]
    rfl

lemma AfterReport.started_iff (ha : AfterReport p h h' infos) (usage : Int) :
    h'.io.lastStreamMessage usage = some true ↔ Plays usage infos ∨
      ¬ Reported usage infos ∧ h.env.rendererStateMap.find? usage = some true := by
  rw [ha.tracked usage, ha.map usage, ← rendererUsages_find_true, ← rendererUsages_find_none]
  -- a usage that the report does not list keeps its entry, whatever it was
  cases (rendererUsages infos).find? usage with
  | none => simp
  | some b => cases b <;> simp

lemma AfterReport.renderersAgree_iff (ha : AfterReport p h h' infos) : RenderersAgree p h' infos ↔
      ∀ usage, h.env.rendererStateMap.find? usage = some true → Reported usage infos := by
  have hbesides : ∀ usages : List StreamUsage, playsBesides p usages infos ↔
      ∃ info, some info ∈ infos ∧ info.running ∧
        p.streamUsageOf info.streamUsage ∉ usages := fun usages => playsBesides_iff usages infos
  constructor
  · intro hagree usage hstarted
    by_contra hmissing
    -- the module still takes it as playing, which the report does not say
    have hplays := (hagree.messages usage).1
      ((ha.started_iff usage).2 (.inr ⟨hmissing, hstarted⟩))
    obtain ⟨info, hinfo, husage, -⟩ := hplays
    exact hmissing ⟨info, hinfo, husage⟩
  · intro hreported
    refine ⟨fun usage => ?_, ?_, ?_⟩
    · rw [ha.started_iff usage]
      refine ⟨?_, .inl⟩
      rintro (hplays | ⟨hmissing, hstarted⟩)
      · exact hplays
      · exact absurd (hreported usage hstarted) hmissing
    · rw [ha.besidesVoip, hbesides]
      simp
    · rw [ha.besidesVoice, hbesides]
      simp

end Helper

def Relists (infos next : RendererReport) : Prop := ∀ usage, Plays usage infos → Reported usage next

private theorem renderers_along (hget : mod.Obtained) (reports : List RendererReport) (w : World M)
    (prev : RendererReport) (ht : w.helper.Tracked) (hvoip : w.helper.env.mVoipConcurrency = false)
    (hprev : ∀ usage, w.helper.env.rendererStateMap.find? usage = some true ↔ Plays usage prev) :
    Along (step p mod) (fun _ e w' => ∀ infos, e = .onRendererStateChange infos →
        RenderersAgree p w'.helper infos) w (reports.map .onRendererStateChange) ↔
      (prev :: reports).IsChain Relists := by
  -- `prev` is what the map remembers, the report before; at first there is none
  induction reports generalizing w prev with
  | nil => simp
  | cons infos reports ih =>
    obtain ⟨h', heq, ha⟩ :=
      Helper.onRendererStateChange_after (p := p) hget w.kv w.pipes infos ht hvoip
    have hstep : step p mod w (.onRendererStateChange infos) = some (w.setHelper h') := by
      simp [step, Event.inBuild, handle, heq]
    have hagree : RenderersAgree p h' infos ↔ Relists prev infos := by
      rw [ha.renderersAgree_iff]
      exact forall_congr' fun usage => by rw [hprev usage]
    rw [map_cons, along_cons, isChain_cons_cons]
    constructor
    · intro halong
      obtain ⟨hnow, hrest⟩ := halong _ hstep
      have hagreed := hnow infos rfl
      refine ⟨hagree.1 hagreed, (ih (w.setHelper h') infos ha.tracked ?_ fun usage => ?_).1 hrest⟩
      · exact ha.voip.trans hvoip
      · exact (ha.tracked usage ▸ hagreed.messages usage)
    · rintro ⟨hrelists, hchain⟩ t ht'
      obtain rfl : w.setHelper h' = t := Option.some.inj (hstep.symm.trans ht')
      have hagreed := hagree.2 hrelists
      refine ⟨?_, (ih (w.setHelper h') infos ha.tracked ?_ fun usage => ?_).2 hchain⟩
      · rintro _ ⟨⟩
        exact hagreed
      · exact ha.voip.trans hvoip
      · exact (ha.tracked usage ▸ hagreed.messages usage)

theorem run_renderersAgree_iff (p : Platform) (mod : ConnectorModule M) (hget : mod.Obtained)
    (conn : M) (pipes : InputPipes) (kv : StoredLists) (reports : List RendererReport) :
    Along (step p mod) (fun _ e w => ∀ infos, e = .onRendererStateChange infos →
        RenderersAgree p w.helper infos)
      (World.initial conn pipes kv) (reports.map .onRendererStateChange) ↔
      reports.IsChain Relists := by
  -- the empty map is that of a report without renderers
  have hnone : ∀ usage, ¬ Plays usage [] := by
    rintro usage ⟨info, hinfo, -⟩
    cases hinfo
  rw [renderers_along hget reports _ [] (fun _ => rfl) rfl fun usage => by
    simp [hnone usage, World.initial]]
  cases reports with
  | nil => simp
  | cons infos reports =>
    rw [isChain_cons_cons]
    exact and_iff_right fun usage hplays => absurd hplays (hnone usage)

theorem run_renderersAgree_stopped :
    Along (step (bare (Build.minimal true)) countingModule)
      (fun _ e w => ∀ infos, e = .onRendererStateChange infos →
        RenderersAgree (bare (Build.minimal true)) w.helper infos)
      (World.initial 0 none {})
      (map Event.onRendererStateChange
        [[some ⟨true, 1⟩, some ⟨false, 2⟩], [none, some ⟨false, 1⟩], []]) := by
  refine (run_renderersAgree_iff _ countingModule (fun _ => rfl) 0 none {} _).2 ?_
  simp only [isChain_cons_cons, isChain_singleton, and_true]
  constructor
  · rintro usage ⟨info, hinfo, husage, hrunning⟩
    refine ⟨⟨false, 1⟩, by decide, ?_⟩
    have hcases : info = ⟨true, 1⟩ ∨ info = ⟨false, 2⟩ := by simpa using hinfo
    rcases hcases with rfl | rfl
    · exact husage
    · cases hrunning
  · rintro usage ⟨info, hinfo, -, hrunning⟩
    obtain rfl : info = ⟨false, 1⟩ := by simpa using hinfo
    cases hrunning

theorem vanished_renderer_not_stopped :
    ¬ Along (step (bare (Build.minimal true)) countingModule)
      (fun _ e w => ∀ infos, e = .onRendererStateChange infos →
        RenderersAgree (bare (Build.minimal true)) w.helper infos)
      (World.initial 0 none {}) (map Event.onRendererStateChange [[some ⟨true, 1⟩], []]) := by
  intro h
  have hagree := ((h _ rfl).2 _ rfl).1 [] rfl
  obtain ⟨info, hinfo, -⟩ := (hagree.messages 1).1 (by decide +kernel)
  cases hinfo

end IntellVoice.Trigger
