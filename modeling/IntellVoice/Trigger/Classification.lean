import IntellVoice.Trigger.Capture

/-! `OnInputPipeChange` fills the control lists' caches as it classifies. -/

namespace IntellVoice.Trigger
open Option
variable {p : Platform} {kv : StoredLists}

structure Lists where
  white : Option (ControlList × List SourceType)
  black : Option ControlList

def Env.lists (p : Platform) (kv : StoredLists) (env : Env) : Lists where
  white :=
    if env.concurrentTypeSet.isEmpty || env.concurrentWhitelist.isEmpty then
      readControlList p kv.concurrentWhiteList
    else some (env.concurrentWhitelist, env.concurrentTypeSet)
  black :=
    if env.concurrentBlacklist.isEmpty then
      (readControlList p kv.concurrentBlackList).map Prod.fst
    else some env.concurrentBlacklist

structure Env.Refreshed (p : Platform) (kv : StoredLists) (env env' : Env) : Prop where
  flags : env' = { env with
    concurrentWhitelist := env'.concurrentWhitelist
    concurrentBlacklist := env'.concurrentBlacklist
    concurrentTypeSet := env'.concurrentTypeSet }
  lists : env'.lists p kv = env.lists p kv

lemma Env.Refreshed.refl (env : Env) : env.Refreshed p kv env := ⟨rfl, rfl⟩

variable {env env' : Env}

lemma Env.Refreshed.trans {env'' : Env} (h : env.Refreshed p kv env')
    (h' : env'.Refreshed p kv env'') : env.Refreshed p kv env'' := by
  refine ⟨?_, h'.lists.trans h.lists⟩
  rw [h'.flags, h.flags]

variable {b : Bool} {info : CapturerStreamInfo} {streams : List CapturerStreamInfo}
  {bundleName : String}

lemma checkInWhitelist_spec (h : checkInWhitelist p kv bundleName info env = some (b, env')) :
    ((env.lists p kv).white.map fun l => l.2.contains info.source && l.1.lists bundleName
      info.source) = some b ∧ env.Refreshed p kv env' := by
  unfold checkInWhitelist at h
  by_cases hempty : env.concurrentTypeSet.isEmpty || env.concurrentWhitelist.isEmpty
  · simp only [hempty, if_true, setConcurrencyControlList] at h
    cases hread : readControlList p kv.concurrentWhiteList with
    | none => simp [hread] at h
    | some l =>
      simp only [hread, map_some, bind_eq_bind, bind_some, pure_def,
        some.injEq, Prod.mk.injEq] at h
      obtain ⟨hb, rfl⟩ := h
      refine ⟨by simpa [Env.lists, hempty, hread] using hb, rfl, ?_⟩
      simp [Env.lists, hempty, hread]
  · simp only [hempty, Bool.false_eq_true, if_false, bind_eq_bind, bind_some,
      pure_def, some.injEq, Prod.mk.injEq] at h
    obtain ⟨hb, rfl⟩ := h
    exact ⟨by simpa [Env.lists, hempty] using hb, .refl env⟩

lemma checkBlacklistConflict_spec
    (h : checkBlacklistConflict p kv bundleName info env = some (b, env')) :
    (if env.mExtensionConcurrency then (env.lists p kv).black.map fun l =>
        l.lists bundleName info.source && info.state == .running
      else some false) = some b ∧ env.Refreshed p kv env' := by
  unfold checkBlacklistConflict at h
  by_cases hext : env.mExtensionConcurrency
  · simp only [hext, Bool.not_true, Bool.false_eq_true, if_false, if_true] at h ⊢
    by_cases hempty : env.concurrentBlacklist.isEmpty
    · simp only [hempty, if_true, setConcurrencyControlList] at h
      cases hread : readControlList p kv.concurrentBlackList with
      | none => simp [hread] at h
      | some l =>
        simp only [hread, map_some, bind_eq_bind, bind_some,
          pure_def, some.injEq, Prod.mk.injEq] at h
        obtain ⟨hb, rfl⟩ := h
        refine ⟨by simpa [Env.lists, hempty, hread] using hb, rfl, ?_⟩
        simp [Env.lists, hempty, hread]
    · simp only [hempty, Bool.false_eq_true, if_false, bind_eq_bind, bind_some,
        pure_def, some.injEq, Prod.mk.injEq] at h
      obtain ⟨hb, rfl⟩ := h
      exact ⟨by simpa [Env.lists, hempty] using hb, .refl env⟩
  · simp only [hext, Bool.not_false, if_true, some.injEq, Prod.mk.injEq] at h
    obtain ⟨hb, rfl⟩ := h
    exact ⟨by simp [hext, hb], .refl env⟩

structure StreamFlags where
  extension : Bool
  voip : Bool
  camera : Bool
  besidesVoip : Bool
  extensionTypes : List SourceType

def Env.streamFlags (env : Env) : StreamFlags where
  extension := env.mExtensionConcurrency
  voip := env.mVoipConcurrency
  camera := env.mCameraConcurrency
  besidesVoip := env.hasStreamBesidesVoip
  extensionTypes := env.extensionConcurrentTypeSet

def blackListed (lists : Lists) (flags : StreamFlags) (bundleName : String)
    (info : CapturerStreamInfo) : Option Bool :=
  if flags.extension then
    lists.black.map fun l => l.lists bundleName info.source && info.state == .running
  else some false

def whiteListed (lists : Lists) (bundleName : String) (info : CapturerStreamInfo) : Option Bool :=
  lists.white.map fun l => l.2.contains info.source && l.1.lists bundleName info.source

def voipOnly (flags : StreamFlags) (info : CapturerStreamInfo) : Bool :=
  flags.voip && info.state == .running && info.source == .voiceCommunication && flags.besidesVoip

def harmless (flags : StreamFlags) (info : CapturerStreamInfo) : Bool :=
  info.state != .running || info.mute || info.source == .ultrasonic ||
  (flags.extension && flags.extensionTypes.contains info.source) ||
  (flags.camera && info.source == .unprocessed && info.mixWithWakeUp)

def listedName (p : Platform) (info : CapturerStreamInfo) : String :=
  if (getBundleName p info.uid).isEmpty then "ERROR! CANT GET BUNDLENAME"
  else getBundleName p info.uid

def allConcurrent (p : Platform) (lists : Lists) (flags : StreamFlags) :
    List CapturerStreamInfo → Option Bool
  | [] => some true
  | info :: rest => do
    if ← blackListed lists flags (listedName p info) info then return false
    else if voipOnly flags info then return false
    else if harmless flags info then allConcurrent p lists flags rest
    else if flags.extension then return false
    else if ← whiteListed lists (listedName p info) info then allConcurrent p lists flags rest
    else return false

lemma streamsConcurrent_spec (h : streamsConcurrent p kv streams env = some (b, env')) :
    allConcurrent p (env.lists p kv) env.streamFlags streams = some b ∧
      env.Refreshed p kv env' := by
  induction streams generalizing env with
  | nil =>
    obtain ⟨rfl, rfl⟩ : true = b ∧ env = env' := by simpa [streamsConcurrent] using h
    exact ⟨rfl, .refl env⟩
  | cons info rest ih =>
    simp only [streamsConcurrent, bind_eq_bind, bind_eq_some_iff] at h
    obtain ⟨⟨conflict, env₁⟩, hblack, h⟩ := h
    obtain ⟨hblack, hr₁⟩ := checkBlacklistConflict_spec hblack
    have hflags : env₁.streamFlags = env.streamFlags := by rw [hr₁.flags]; rfl
    have hvoip : checkVoipOnly env₁ info = voipOnly env.streamFlags info := by
      rw [← hflags]; rfl
    have hharmless : checkSourceConcurrency env₁ info = harmless env.streamFlags info := by
      rw [← hflags]; rfl
    have hext : env₁.mExtensionConcurrency = env.streamFlags.extension := by
      rw [← hflags]; rfl
    have hblack' : blackListed (env.lists p kv) env.streamFlags (listedName p info) info =
        some conflict := hblack
    have htail : ∀ {env₂ : Env}, env.Refreshed p kv env₂ →
        streamsConcurrent p kv rest env₂ = some (b, env') →
        allConcurrent p (env.lists p kv) env.streamFlags rest = some b ∧
          env.Refreshed p kv env' := by
      intro env₂ hr hrest
      obtain ⟨hall, hr'⟩ := ih hrest
      have hflags₂ : env₂.streamFlags = env.streamFlags := by rw [hr.flags]; rfl
      rw [hr.lists, hflags₂] at hall
      exact ⟨hall, hr.trans hr'⟩
    simp only [hvoip, hharmless, hext] at h
    simp only [allConcurrent, hblack', bind_eq_bind, bind_some]
    split at h
    · obtain ⟨rfl, rfl⟩ : false = b ∧ env₁ = env' := by simpa using h
      exact ⟨by simp_all, hr₁⟩
    rename_i hconflict
    rw [if_neg hconflict]
    split at h
    · obtain ⟨rfl, rfl⟩ : false = b ∧ env₁ = env' := by simpa using h
      exact ⟨by simp_all, hr₁⟩
    rename_i hv
    rw [if_neg hv]
    split at h
    · rename_i hh
      rw [if_pos hh]
      exact htail hr₁ h
    rename_i hh
    rw [if_neg hh]
    split at h
    · obtain ⟨rfl, rfl⟩ : false = b ∧ env₁ = env' := by simpa using h
      exact ⟨by simp_all, hr₁⟩
    rename_i he
    rw [if_neg he]
    obtain ⟨⟨listed, env₂⟩, hwhite, h⟩ := bind_eq_some_iff.1 h
    obtain ⟨hwhite, hr₂⟩ := checkInWhitelist_spec hwhite
    rw [hr₁.lists] at hwhite
    have hwhite' : whiteListed (env.lists p kv) (listedName p info) info =
        some listed := hwhite
    simp only [hwhite', bind_some]
    dsimp only at h
    split at h
    · rename_i hl
      rw [if_pos hl]
      exact htail (hr₁.trans hr₂) h
    rename_i hl
    rw [if_neg hl]
    obtain ⟨rfl, rfl⟩ : false = b ∧ env₂ = env' := by simpa using h
    exact ⟨rfl, hr₁.trans hr₂⟩

lemma getWhisperEnable_refreshed (h : getWhisperEnable p kv streams env = some (b, env')) :
    env.Refreshed p kv env' := by
  induction streams generalizing env with
  | nil =>
    obtain ⟨rfl, rfl⟩ : true = b ∧ env = env' := by simpa [getWhisperEnable] using h
    exact .refl env
  | cons info rest ih =>
    simp only [getWhisperEnable, bind_eq_bind, bind_eq_some_iff] at h
    obtain ⟨⟨listed, env₁⟩, hwhite, h⟩ := h
    have hr := (checkInWhitelist_spec hwhite).2
    dsimp only at h
    split at h
    · exact hr.trans (ih h)
    split at h
    · exact hr.trans (ih h)
    · obtain ⟨rfl, rfl⟩ : false = b ∧ env₁ = env' := by simpa using h
      exact hr

def concurrentState (p : Platform) (lists : Lists) (env : Env)
    (streams : List CapturerStreamInfo) : Option Bool :=
  if checkCallConflict env || checkCallOnly env then some false
  else allConcurrent p lists env.streamFlags streams

lemma getConcurrentState_spec (h : getConcurrentState p kv streams env = some (b, env')) :
    concurrentState p (env.lists p kv) env streams = some b ∧ env.Refreshed p kv env' := by
  unfold getConcurrentState at h
  unfold concurrentState
  split at h
  · obtain ⟨rfl, rfl⟩ : false = b ∧ env = env' := by simpa using h
    exact ⟨by simp_all, .refl env⟩
  split at h
  · obtain ⟨rfl, rfl⟩ : false = b ∧ env = env' := by simpa using h
    exact ⟨by simp_all, .refl env⟩
  have hnone : ¬ (checkCallConflict env || checkCallOnly env) := by simp_all
  rw [if_neg hnone]
  exact streamsConcurrent_spec h

lemma classify_spec {pipes : InputPipes} {c : Classification}
    (h : classify p kv pipes env = some (c, env')) :
    c.isSourceRunning = isSourceRunning env (getPipeInfo p pipes) ∧
    concurrentState p (env.lists p kv) env (getPipeInfo p pipes) = some c.isConcurrent ∧
    env.Refreshed p kv env' := by
  simp only [classify, bind_eq_bind, bind_eq_some_iff] at h
  obtain ⟨⟨concurrent, env₁⟩, hstate, h⟩ := h
  obtain ⟨hconcurrent, hr₁⟩ := getConcurrentState_spec hstate
  dsimp only at h
  split at h
  · obtain ⟨⟨whisper, env₂⟩, hwhisper, h⟩ := bind_eq_some_iff.1 h
    obtain ⟨rfl, rfl⟩ : (⟨concurrent, _, whisper⟩ : Classification) = c ∧ env₂ = env' := by
      simpa using h
    exact ⟨rfl, hconcurrent, hr₁.trans (getWhisperEnable_refreshed hwhisper)⟩
  · obtain ⟨rfl, rfl⟩ : (⟨concurrent, _, true⟩ : Classification) = c ∧ env₁ = env' := by
      simpa using h
    exact ⟨rfl, hconcurrent, hr₁⟩

end IntellVoice.Trigger
