import IntellVoice.Trigger.Classification

/-! `GetPipeInfo` keeps, of several pipes with one route flag, only the last. -/

namespace IntellVoice.Trigger
open Platform OrderedMap
open Build (minimal)
variable {p : Platform} {kv : StoredLists}

def eligiblePipes (p : Platform) (pipes : InputPipes) : List AudioInputPipeInfo :=
  (pipes.getD []).filterMap fun pipe? =>
    pipe?.bind fun pipe =>
      if pipe.adapter ≠ .primary ∨ pipe.routeFlag = p.audioFlagNone ∨
          pipe.routeFlag = p.audioInputFlagOffload ∨ pipe.routeFlag = p.audioInputFlagWakeup
      then none else some pipe

def AudioInputPipeInfo.infos (pipe : AudioInputPipeInfo) : List CapturerStreamInfo :=
  pipe.streams.entries.map Prod.snd

def allStreams (p : Platform) (pipes : InputPipes) : List CapturerStreamInfo :=
  (eligiblePipes p pipes).flatMap AudioInputPipeInfo.infos

def Shown (p : Platform) (pipes : InputPipes) (info : CapturerStreamInfo) : Prop :=
  ∃ before pipe later, eligiblePipes p pipes = before ++ pipe :: later ∧
    (∀ other ∈ later, other.routeFlag ≠ pipe.routeFlag) ∧ info ∈ pipe.infos

variable {info : CapturerStreamInfo} {pipes : InputPipes}

lemma Shown.mem_allStreams (h : Shown p pipes info) : info ∈ allStreams p pipes := by
  obtain ⟨before, pipe, later, hsplit, -, hinfo⟩ := h
  refine List.mem_flatMap.2 ⟨pipe, ?_, hinfo⟩
  rw [hsplit]
  exact List.mem_append_right _ (.head _)

lemma mem_getPipeInfo : info ∈ getPipeInfo p pipes ↔ Shown p pipes info := by
  -- the map holds, under each flag, the streams of the last pipe with it
  have hfind : ∀ flag streams,
      (flag, streams) ∈ ((eligiblePipes p pipes).foldl
        (fun m pipe => m.set pipe.routeFlag pipe.streams)
        (∅ : OrderedMap Nat (OrderedMap Nat CapturerStreamInfo))).entries ↔
      ∃ pipe, ((eligiblePipes p pipes).reverse.find? fun pipe => pipe.routeFlag = flag) =
        some pipe ∧ pipe.streams = streams := by
    intro flag streams
    rw [← find?_eq_some_iff, find?_foldl_set]
    simp
  -- the last pipe with a flag is one that no later pipe with it follows
  have hlast : ∀ flag pipe,
      ((eligiblePipes p pipes).reverse.find? fun pipe => pipe.routeFlag = flag) = some pipe ↔
      pipe.routeFlag = flag ∧ ∃ before later, eligiblePipes p pipes = before ++ pipe :: later ∧
        ∀ other ∈ later, other.routeFlag ≠ flag := by
    intro flag pipe
    rw [List.find?_eq_some_iff_append, decide_eq_true_iff]
    refine and_congr_right fun _ => ?_
    constructor
    · rintro ⟨later, before, hsplit, hlater⟩
      refine ⟨before.reverse, later.reverse, ?_, fun other hother => ?_⟩
      · have hreverse := congrArg List.reverse hsplit
        simpa using hreverse
      · simpa using hlater other (List.mem_reverse.1 hother)
    · rintro ⟨before, later, hsplit, hlater⟩
      refine ⟨later.reverse, before.reverse, by simp [hsplit], fun other hother => ?_⟩
      simpa using hlater other (List.mem_reverse.1 hother)
  show info ∈ List.flatMap _ _ ↔ _
  rw [List.mem_flatMap]
  constructor
  · rintro ⟨⟨flag, streams⟩, hentry, hinfo⟩
    obtain ⟨pipe, hpipe, rfl⟩ := (hfind flag streams).1 hentry
    obtain ⟨rfl, before, later, hsplit, hlater⟩ := (hlast flag pipe).1 hpipe
    exact ⟨before, pipe, later, hsplit, hlater, hinfo⟩
  · rintro ⟨before, pipe, later, hsplit, hlater, hinfo⟩
    have hpipe := (hlast pipe.routeFlag pipe).2 ⟨rfl, before, later, hsplit, hlater⟩
    exact ⟨(pipe.routeFlag, pipe.streams), (hfind _ _).2 ⟨pipe, hpipe, rfl⟩, hinfo⟩

def callRuns (env : Env) : Prop := env.mCallConcurrency ∧ env.audioScene = .phoneCall
def MayRun (p : Platform) (lists : Lists) (flags : StreamFlags)
    (info : CapturerStreamInfo) : Prop :=
  blackListed lists flags (listedName p info) info ≠ some true ∧ voipOnly flags info = false ∧
    (harmless flags info ∨
      flags.extension = false ∧ whiteListed lists (listedName p info) info = some true)

structure Classification.Describes (c : Classification) (p : Platform) (lists : Lists) (env : Env)
    (Stream : CapturerStreamInfo → Prop) : Prop where
  running : c.isSourceRunning ↔ callRuns env ∨ ∃ info, Stream info ∧ info.state = .running
  concurrent : c.isConcurrent ↔ checkCallConflict env = false ∧ checkCallOnly env = false ∧
    ∀ info, Stream info → MayRun p lists env.streamFlags info

lemma allConcurrent_eq_some {lists : Lists} {flags : StreamFlags}
    {streams : List CapturerStreamInfo} {b : Bool}
    (h : allConcurrent p lists flags streams = some b) :
    b ↔ ∀ info ∈ streams, MayRun p lists flags info := by
  -- the cases are the returns of the loop body, in the order of the source
  induction streams with
  | nil =>
    cases h
    simp
  | cons info rest ih =>
    simp only [allConcurrent, Option.bind_eq_bind, Option.bind_eq_some_iff] at h
    obtain ⟨black, hblack, h⟩ := h
    rw [List.forall_mem_cons]
    cases black with
    | true =>
      cases h
      simp [MayRun, hblack]
    | false =>
      simp only [Bool.false_eq_true, if_false] at h
      by_cases hvoip : voipOnly flags info
      · rw [if_pos hvoip] at h
        cases h
        simp [MayRun, hvoip]
      rw [if_neg hvoip] at h
      by_cases hharmless : harmless flags info
      · rw [if_pos hharmless] at h
        simp [MayRun, hblack, hvoip, hharmless, ih h]
      rw [if_neg hharmless] at h
      by_cases hext : flags.extension
      · rw [if_pos hext] at h
        cases h
        simp [MayRun, hharmless, hext]
      rw [if_neg hext] at h
      obtain ⟨white, hwhite, h⟩ := Option.bind_eq_some_iff.1 h
      cases white with
      | true =>
        rw [if_pos rfl] at h
        simp [MayRun, hblack, hvoip, hharmless, hext, hwhite, ih h]
      | false =>
        cases h
        simp [MayRun, hharmless, hext, hwhite]

lemma classify_describes {env env' : Env} {c : Classification}
    (h : classify p kv pipes env = some (c, env')) :
    c.Describes p (env.lists p kv) env (Shown p pipes) := by
  obtain ⟨hrunning, hconcurrent, -⟩ := classify_spec h
  constructor
  · rw [hrunning, isSourceRunning, Bool.or_eq_true, Bool.and_eq_true, List.any_eq_true]
    simp only [beq_iff_eq, mem_getPipeInfo, callRuns]
  · unfold concurrentState at hconcurrent
    split at hconcurrent
    · rename_i hcall
      -- a call decides without a look at the streams
      rw [← Option.some.inj hconcurrent]
      rw [Bool.or_eq_true] at hcall
      rcases hcall with hcall | hcall <;> simp [hcall]
    rename_i hcall
    obtain ⟨hconflict, honly⟩ : checkCallConflict env = false ∧ checkCallOnly env = false := by
      simpa using hcall
    rw [allConcurrent_eq_some hconcurrent]
    simp only [mem_getPipeInfo, hconflict, honly, true_and]

structure NothingHidden (p : Platform) (lists : Lists) (env : Env) (pipes : InputPipes) : Prop where
  running : ∀ info ∈ allStreams p pipes, ¬ Shown p pipes info → info.state = .running →
    callRuns env ∨ ∃ info', Shown p pipes info' ∧ info'.state = .running
  concurrent : ∀ info ∈ allStreams p pipes, ¬ Shown p pipes info →
    ¬ MayRun p lists env.streamFlags info →
    checkCallConflict env ∨ checkCallOnly env ∨
      ∃ info', Shown p pipes info' ∧ ¬ MayRun p lists env.streamFlags info'

theorem classify_describes_allStreams_iff (p : Platform) (kv : StoredLists) (pipes : InputPipes)
    (env env' : Env) (c : Classification) (h : classify p kv pipes env = some (c, env')) :
    c.Describes p (env.lists p kv) env (· ∈ allStreams p pipes) ↔
      NothingHidden p (env.lists p kv) env pipes := by
  have hshown := classify_describes h
  constructor
  · intro hall
    refine ⟨fun info hinfo _ hrunning => ?_, fun info hinfo _ hbad => ?_⟩
    · exact hshown.running.1 (hall.running.2 (.inr ⟨info, hinfo, hrunning⟩))
    · -- otherwise nothing shown is in the way, `isConcurrent` is set, and it is said of all streams
      by_contra hnone
      simp only [not_or, not_exists, not_and, not_not, Bool.not_eq_true] at hnone
      obtain ⟨hconflict, honly, hmay⟩ := hnone
      have hconcurrent := hshown.concurrent.2 ⟨hconflict, honly, hmay⟩
      exact hbad ((hall.concurrent.1 hconcurrent).2.2 info hinfo)
  · intro hhidden
    constructor
    · rw [hshown.running]
      -- a stream shown is one of all the streams, so only a hidden one can make a difference
      refine or_congr_right' fun hcall => ⟨?_, ?_⟩
      · rintro ⟨info, hinfo, hrunning⟩
        exact ⟨info, hinfo.mem_allStreams, hrunning⟩
      · rintro ⟨info, hinfo, hrunning⟩
        by_cases hvisible : Shown p pipes info
        · exact ⟨info, hvisible, hrunning⟩
        · exact (hhidden.running info hinfo hvisible hrunning).resolve_left hcall
    · rw [hshown.concurrent]
      refine and_congr_right fun hconflict => and_congr_right fun honly =>
        ⟨fun hmay info hinfo => ?_, fun hmay info hinfo => hmay info hinfo.mem_allStreams⟩
      by_contra hbad
      by_cases hvisible : Shown p pipes info
      · exact hbad (hmay info hvisible)
      rcases hhidden.concurrent info hinfo hvisible hbad with
        hcall | hcall | ⟨info', hinfo', hbad'⟩
      · rw [hconflict] at hcall
        cases hcall
      · rw [honly] at hcall
        cases hcall
      · exact hbad' (hmay info' hinfo')

theorem classify_describes_allStreams_stopped :
    ∃ c env', classify (bare (minimal true)) {}
        (some [some ⟨.primary, 1, set ∅ 0 ⟨0, .mic, .other 0, false, false⟩⟩,
          some ⟨.primary, 1, set ∅ 0 ⟨0, .mic, .running, false, false⟩⟩]) {} =
          some (c, env') ∧
      c.isSourceRunning ∧
      c.Describes (bare (minimal true))
        (Env.lists (bare (minimal true)) {} {}) {}
        (· ∈ allStreams (bare (minimal true))
          (some [some ⟨.primary, 1, set ∅ 0 ⟨0, .mic, .other 0, false, false⟩⟩,
            some ⟨.primary, 1, set ∅ 0 ⟨0, .mic, .running, false, false⟩⟩])) := by
  refine ⟨_, _, rfl, rfl, (classify_describes_allStreams_iff _ _ _ _ _ _ rfl).2 ?_⟩
  have hshown : Shown (bare (minimal true))
      (some [some ⟨.primary, 1, set ∅ 0 ⟨0, .mic, .other 0, false, false⟩⟩,
        some ⟨.primary, 1, set ∅ 0 ⟨0, .mic, .running, false, false⟩⟩])
      ⟨0, .mic, .running, false, false⟩ := mem_getPipeInfo.1 (.head _)
  refine ⟨fun _ _ _ _ => .inr ⟨_, hshown, rfl⟩, fun _ _ _ _ => .inr (.inr ⟨_, hshown, ?_⟩)⟩
  rintro ⟨-, -, hharmless | ⟨-, hlisted⟩⟩
  · exact absurd hharmless (by decide)
  · exact absurd hlisted (by decide)

theorem hidden_microphone :
    ∃ c env', classify (bare (minimal true)) {}
        (some [some ⟨.primary, 1, set ∅ 0 ⟨0, .mic, .running, false, false⟩⟩,
          some ⟨.primary, 1, ∅⟩]) {} = some (c, env') ∧
      ¬ c.Describes (bare (minimal true))
        (Env.lists (bare (minimal true)) {} {}) {}
        (· ∈ allStreams (bare (minimal true))
          (some [some ⟨.primary, 1, set ∅ 0 ⟨0, .mic, .running, false, false⟩⟩,
            some ⟨.primary, 1, ∅⟩])) := by
  refine ⟨_, _, rfl, fun h => ?_⟩
  have hrunning := h.running.2 (.inr ⟨⟨0, .mic, .running, false, false⟩, .head _, rfl⟩)
  exact absurd hrunning (by decide)

end IntellVoice.Trigger
