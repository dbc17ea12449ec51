import IntellVoice.Wakeup.CloudReporter

/-! Of a detection the reporter keeps the hundred frames up to the end index. -/

namespace IntellVoice.Wakeup
open List

abbrev AudioStream := List (List UInt8 × List (List UInt8))

def AudioStream.frames (s : AudioStream) : List (List UInt8) := s.map Prod.fst

def AudioStream.audio (s : AudioStream) : List (List (List UInt8)) := s.map fun c => c.1 :: c.2

def frameWindow (first last : Nat) (frames : List (List UInt8)) : List (List UInt8) :=
  (frames.take (last + 1)).drop first

def LaterFramesFull (first last size : Nat) (frames : List (List UInt8)) : Prop :=
  ∀ k f, frames[k]? = some f → 2 ^ 32 ≤ k → first ≤ k % 2 ^ 32 → k % 2 ^ 32 ≤ last →
    minBufferSize * frameNumber < size + f.length

variable {first last : Nat} {frames : List (List UInt8)} {f : List UInt8}

lemma laterFramesFull_of_short (h : frames.length ≤ 2 ^ 32) (size : Nat) :
    LaterFramesFull first last size frames := by
  intro k f hk hlater
  have hlt := (List.getElem?_eq_some_iff.1 hk).1
  omega

lemma laterFramesFull_concat (size : Nat) : LaterFramesFull first last size (frames ++ [f]) ↔
      LaterFramesFull first last size frames ∧
        (2 ^ 32 ≤ frames.length → first ≤ frames.length % 2 ^ 32 →
          frames.length % 2 ^ 32 ≤ last → minBufferSize * frameNumber < size + f.length) := by
  constructor
  · intro h
    refine ⟨fun k g hk => h k g ?_, h frames.length f (by simp)⟩
    have hlt := (List.getElem?_eq_some_iff.1 hk).1
    rwa [List.getElem?_append_left hlt]
  · rintro ⟨h, hlast⟩ k g hk
    rcases Nat.lt_trichotomy k frames.length with hlt | rfl | hgt
    · rw [List.getElem?_append_left hlt] at hk
      exact h k g hk
    · rw [List.getElem?_concat_length, Option.some.injEq] at hk
      exact hk ▸ hlast
    · rw [List.getElem?_eq_none (by simp; omega)] at hk
      cases hk

lemma frameWindow_concat_of_mem (h : first ≤ frames.length) (hlast : frames.length ≤ last) :
    frameWindow first last (frames ++ [f]) = frameWindow first last frames ++ [f] := by
  unfold frameWindow
  rw [take_of_length_le (by simp; omega), take_of_length_le (by omega),
    drop_append_of_le_length h]

lemma frameWindow_concat_of_notMem (h : frames.length < first ∨ last < frames.length) :
    frameWindow first last (frames ++ [f]) = frameWindow first last frames := by
  unfold frameWindow
  rcases h with h | h
  · rw [drop_eq_nil_of_le (by simp; omega), drop_eq_nil_of_le (by simp; omega)]
  · rw [take_append_of_le_length (by omega)]

lemma frameWindow_room (hwindow : last < first + frameNumber)
    (hsize : ∀ g ∈ frames, g.length ≤ minBufferSize) (hlast : frames.length ≤ last)
    (hf : f.length ≤ minBufferSize) :
    (frameWindow first last frames).flatten.length + f.length ≤ minBufferSize * frameNumber := by
  have hsum : (frameWindow first last frames).flatten.length ≤
      (frameWindow first last frames).length * minBufferSize := by
    have hbound := sum_le_card_nsmul ((frameWindow first last frames).map length)
      minBufferSize fun n hn => by
        obtain ⟨g, hg, rfl⟩ := mem_map.1 hn
        exact hsize g (mem_of_mem_take (mem_of_mem_drop hg))
    rwa [length_map, smul_eq_mul, ← length_flatten] at hbound
  have hcount : (frameWindow first last frames).length ≤ frameNumber - 1 := by
    rw [frameWindow, length_drop, length_take]
    omega
  simp only [frameNumber, minBufferSize] at *
  omega

structure AccessoriesCloudReporter.Counts (r : AccessoriesCloudReporter) (first last n : Nat)
    (buffer : List UInt8) : Prop where
  pcm : r.mPcmBuffer = some buffer
  endIndex : r.endIndex = last
  beginIndex : r.beginIndex = first
  indexCount : r.indexCount = (n : Int).bmod (2 ^ 32)

namespace AccessoriesCloudReporter

lemma bmod_mem_iff (hlast : last < 2 ^ 31) (n : Nat) :
    (first : Int) ≤ (n : Int).bmod (2 ^ 32) ∧ (n : Int).bmod (2 ^ 32) ≤ last ↔
      first ≤ n % 2 ^ 32 ∧ n % 2 ^ 32 ≤ last := by
  rw [Int.bmod_def]
  omega

variable {r : AccessoriesCloudReporter} {e : Nat}

lemma Counts.writeStream {n : Nat} {buffer : List UInt8} (h : r.Counts first last n buffer)
    (hpos : 0 < last) (hlast : last < 2 ^ 31) (f : List UInt8) (others : List (List UInt8)) :
    (r.writeStream (f :: others)).Counts first last (n + 1)
      (if first ≤ n % 2 ^ 32 ∧ n % 2 ^ 32 ≤ last then pcmWrite buffer f else buffer) := by
  have hend : (last : Int) ≠ 0 := by omega
  have hwrite : r.writeStream (f :: others) = { r with
      mPcmBuffer := some (if first ≤ n % 2 ^ 32 ∧ n % 2 ^ 32 ≤ last then pcmWrite buffer f
        else buffer)
      indexCount := (r.indexCount + 1).bmod (2 ^ 32) } := by
    unfold AccessoriesCloudReporter.writeStream
    simp only [h.pcm, h.endIndex, hend, if_false, h.beginIndex, h.indexCount,
      bmod_mem_iff hlast n]
  rw [hwrite]
  refine ⟨rfl, h.endIndex, h.beginIndex, ?_⟩
  change (r.indexCount + 1).bmod (2 ^ 32) = _
  rw [h.indexCount, Int.bmod_add_bmod, Nat.cast_add, Nat.cast_one]

lemma Counts.stream (h : r.Counts first last 0 []) (hpos : 0 < last) (hlast : last < 2 ^ 31)
    (hwindow : last < first + frameNumber) (stream : AudioStream)
    (hsize : ∀ g ∈ stream.frames, 0 < g.length ∧ g.length ≤ minBufferSize) :
    ∃ buffer, (stream.audio.foldl AccessoriesCloudReporter.writeStream r).Counts first last
        stream.length buffer ∧
      (frameWindow first last stream.frames).flatten.length ≤ buffer.length ∧
      (buffer = (frameWindow first last stream.frames).flatten ↔ LaterFramesFull first last
        (frameWindow first last stream.frames).flatten.length stream.frames) := by
  induction stream using reverseRecOn with
  | nil =>
    refine ⟨[], h, by simp [AudioStream.frames, frameWindow], iff_of_true ?_ ?_⟩
    · simp [AudioStream.frames, frameWindow]
    · exact laterFramesFull_of_short (by simp [AudioStream.frames]) _
  | append_singleton stream c ih =>
    have hframes : AudioStream.frames (stream ++ [c]) = AudioStream.frames stream ++ [c.1] := by
      simp [AudioStream.frames]
    have hlength : (AudioStream.frames stream).length = stream.length := by
      simp [AudioStream.frames]
    rw [hframes] at hsize ⊢
    have hc := hsize c.1 (by simp)
    have hold := fun g hg => hsize g (mem_append_left _ hg)
    obtain ⟨buffer, hcounts, hle, hiff⟩ := ih hold
    have hnext := hcounts.writeStream hpos hlast c.1 c.2
    simp only [AudioStream.audio, map_append, map_cons, map_nil,
      foldl_append, foldl_cons, foldl_nil, length_append,
      length_singleton] at hnext ⊢
    refine ⟨_, hnext, ?_⟩
    generalize hframes' : AudioStream.frames stream = frames at *
    rw [← hlength, laterFramesFull_concat]
    by_cases hfirst : frames.length < 2 ^ 32
    · -- the count has not gone round: the buffer is the part of the window that has come
      have hbuffer := hiff.2 (laterFramesFull_of_short hfirst.le _)
      have hfull : ∀ size, LaterFramesFull first last size frames ∧ (2 ^ 32 ≤ frames.length →
          first ≤ frames.length → frames.length ≤ last →
          minBufferSize * frameNumber < size + c.1.length) := fun size =>
        ⟨laterFramesFull_of_short hfirst.le size, fun hle => absurd hfirst hle.not_gt⟩
      rw [Nat.mod_eq_of_lt hfirst]
      by_cases hin : first ≤ frames.length ∧ frames.length ≤ last
      · have hroom := frameWindow_room hwindow (fun g hg => (hold g hg).2) hin.2 hc.2
        have hkept : pcmWrite buffer c.1 =
            (frameWindow first last (frames ++ [c.1])).flatten := by
          rw [frameWindow_concat_of_mem hin.1 hin.2, pcmWrite, hbuffer,
            if_neg (by omega), flatten_append]
          simp
        rw [if_pos hin, hkept]
        exact ⟨le_rfl, iff_of_true rfl (hfull _)⟩
      · rw [if_neg hin, frameWindow_concat_of_notMem (by omega), hbuffer]
        exact ⟨le_rfl, iff_of_true rfl (hfull _)⟩
    · rw [frameWindow_concat_of_notMem (by omega)]
      by_cases hin : first ≤ frames.length % 2 ^ 32 ∧ frames.length % 2 ^ 32 ≤ last
      · rw [if_pos hin, pcmWrite]
        split
        · rename_i hno
          refine ⟨hle, hiff.trans ⟨fun hlater => ⟨hlater, fun _ _ _ => ?_⟩, fun hlater => hlater.1⟩⟩
          have hbuffer := hiff.2 hlater
          rw [hbuffer] at hno
          omega
        rename_i hroom
        rw [length_append]
        refine ⟨by omega, iff_of_false (fun heq => ?_) fun hlater => ?_⟩
        · have hlen := congrArg length heq
          rw [length_append] at hlen
          omega
        · have hbuffer := hiff.2 hlater.1
          have hfull := hlater.2 (by omega) hin.1 hin.2
          rw [hbuffer] at hroom
          omega
      · rw [if_neg hin]
        exact ⟨hle, hiff.trans ⟨fun hlater => ⟨hlater, fun _ h1 h2 => absurd ⟨h1, h2⟩ hin⟩,
          fun hlater => hlater.1⟩⟩

lemma setEndIndex_pos (r : AccessoriesCloudReporter) (hpos : 0 < e) (hlt : e < 2 ^ 31) :
    r.setEndIndex e = { r with endIndex := e, beginIndex := (e - 99 : Nat) } := by
  have hne : (e : Int) ≠ 0 := by omega
  have hmod : (e : Int) % 2 ^ 32 = e := by omega
  have hbegin : (if (e : Int) ≥ (100 : Nat) - 1 then ((e : Int) - ((100 : Nat) - 1)).bmod (2 ^ 32)
      else 0) = ((e - 99 : Nat) : Int) := by
    split
    · rw [Int.bmod_def]
      omega
    · omega
  simp only [setEndIndex, if_neg hne, hmod, frameNumber, hbegin]

lemma setEndIndex_frame (r : AccessoriesCloudReporter) (n : Int) :
    (r.setEndIndex n).mPcmBuffer = r.mPcmBuffer ∧ (r.setEndIndex n).indexCount = r.indexCount := by
  unfold setEndIndex
  split <;> exact ⟨rfl, rfl⟩

lemma foldl_setEndIndex_filter (r : AccessoriesCloudReporter) (ends : List Int) :
    (ends.filter (· ≠ 0)).foldl setEndIndex r = ends.foldl setEndIndex r := by
  rw [foldl_filter]
  congr 1
  funext r n
  by_cases hn : n = 0 <;> simp [setEndIndex, hn]

lemma counts_setEndIndices (r : AccessoriesCloudReporter) (hpcm : r.mPcmBuffer = some [])
    (hcount : r.indexCount = 0) {ends : List Int}
    (hlast : (ends.filter (· ≠ 0)).getLast? = some (e : Int)) (hpos : 0 < e) (hlt : e < 2 ^ 31) :
    (ends.foldl setEndIndex r).Counts (e - 99) e 0 [] := by
  obtain ⟨before, hends⟩ := getLast?_eq_some_iff.1 hlast
  have hframe : ∀ (l : List Int) (r : AccessoriesCloudReporter),
      (l.foldl setEndIndex r).mPcmBuffer = r.mPcmBuffer ∧
        (l.foldl setEndIndex r).indexCount = r.indexCount := by
    intro l
    induction l with
    | nil => exact fun _ => ⟨rfl, rfl⟩
    | cons n l ih =>
      intro r
      obtain ⟨hp, hc⟩ := ih (r.setEndIndex n)
      exact ⟨hp.trans (r.setEndIndex_frame n).1, hc.trans (r.setEndIndex_frame n).2⟩
  rw [← foldl_setEndIndex_filter, hends, foldl_concat, setEndIndex_pos _ hpos hlt]
  exact ⟨(hframe before r).1.trans hpcm, rfl, rfl, (hframe before r).2.trans hcount⟩

def started (a : InitAnswers) : AccessoriesCloudReporter where
  mReportDir := .root
  mReportPath := true
  mTimeStamp := a.time
  mPcmBuffer := if a.allocated then some [] else none

end AccessoriesCloudReporter

lemma ReportWorld.checkAndCreate_frame (w : ReportWorld) (d : ReportDir) (a : DirAnswer) :
    (w.checkAndCreate d a).reporter = w.reporter ∧ (w.checkAndCreate d a).entries = w.entries := by
  unfold checkAndCreate log
  split <;> exact ⟨rfl, rfl⟩

lemma ReportWorld.init_accepted (w : ReportWorld) (a : InitAnswers) (h : w.refused a = false) :
    (w.init a).reporter = .started a ∧ (w.init a).entries = w.entries := by
  simp only [refused, Bool.or_eq_false_iff, Bool.not_eq_false', beq_eq_false_iff_ne] at h
  obtain ⟨⟨⟨hinfo, hroot⟩, hsub⟩, hmany⟩ := h
  simp only [tooMany] at hmany
  simp only [init, hinfo, Bool.not_true, Bool.false_eq_true, if_false, if_neg hroot, if_neg hsub,
    tooMany, (checkAndCreate_frame _ _ _).1, (checkAndCreate_frame _ _ _).2, hmany]
  exact ⟨rfl, trivial⟩

def byteDetection (n : Nat) : Detection where
  init := { time := "1" }
  endIndices := [1]
  audio := AudioStream.audio (replicate n ([1], []))
  stop := {}

lemma begun_byteDetection (n : Nat) :
    ∃ buffer, ((({ entries := [] } : ReportWorld).begun (byteDetection n)).reporter.mPcmBuffer =
        some buffer) ∧
      (buffer = (frameWindow 0 1 (replicate n [1])).flatten ↔
        LaterFramesFull 0 1 (frameWindow 0 1 (replicate n [1])).flatten.length
          (replicate n [1])) := by
  have hinit := (({ entries := [] } : ReportWorld).init_accepted (byteDetection n).init rfl).1
  have hcounts := AccessoriesCloudReporter.counts_setEndIndices
    (({ entries := [] } : ReportWorld).init (byteDetection n).init).reporter
    (by rw [hinit]; rfl) (by rw [hinit]; rfl)
    (show ([(1 : Int)].filter (· ≠ 0)).getLast? = some ((1 : Nat) : Int) from rfl)
      (by decide) (by decide)
  have hframes : AudioStream.frames (replicate n ([1], [])) = replicate n [1] := by
    rw [AudioStream.frames, map_replicate]
  obtain ⟨buffer, hbuffer, -, hiff⟩ := hcounts.stream (by decide) (by decide) (by decide)
    (replicate n ([1], [])) (by
      intro g hg
      rw [hframes] at hg
      rw [eq_of_mem_replicate hg]
      decide)
  rw [hframes] at hiff
  exact ⟨buffer, hbuffer.pcm, hiff⟩

theorem saved_pcm_iff (w : ReportWorld) (d : Detection) (stream : AudioStream) (e : Nat)
    (haccepted : w.refused d.init = false) (hpcm : d.init.allocated)
    (hend : (d.endIndices.filter (· ≠ 0)).getLast? = some (e : Int)) (hpos : 0 < e)
    (hlt : e < 2 ^ 31) (haudio : d.audio = stream.audio)
    (hsize : ∀ g ∈ stream.frames, 1 ≤ g.length ∧ g.length ≤ 640) :
    let kept := (frameWindow (e - 99) e stream.frames).flatten
    (w.begun d).reporter.mPcmBuffer = some kept ↔
      LaterFramesFull (e - 99) e kept.length stream.frames := by
  intro kept
  have hinit := (({ w with effects := [] } : ReportWorld).init_accepted d.init haccepted).1
  have hcounts := AccessoriesCloudReporter.counts_setEndIndices
    (({ w with effects := [] } : ReportWorld).init d.init).reporter
    (by rw [hinit, AccessoriesCloudReporter.started, hpcm]; rfl) (by rw [hinit]; rfl) hend hpos hlt
  obtain ⟨buffer, hbuffer, -, hiff⟩ := hcounts.stream hpos hlt (by simp [frameNumber]; omega) stream
    hsize
  have hbegun : (w.begun d).reporter.mPcmBuffer = some buffer := by
    rw [← hbuffer.pcm, ← haudio]
    rfl
  rw [hbegun, Option.some.injEq]
  exact hiff

theorem saved_pcm_iff_three :
    (({ entries := [] } : ReportWorld).begun (byteDetection 3)).reporter.mPcmBuffer =
      some [1, 1] :=
  (saved_pcm_iff { entries := [] } (byteDetection 3) (replicate 3 ([1], [])) 1 rfl rfl rfl
    (by decide) (by decide) rfl (by decide)).2 (laterFramesFull_of_short (by decide) _)

theorem saved_pcm_after_wrap :
    (({ entries := [] } : ReportWorld).begun (byteDetection (2 ^ 32 + 1))).reporter.mPcmBuffer ≠
      some (frameWindow 0 1 (replicate (2 ^ 32 + 1) [1])).flatten := by
  obtain ⟨buffer, hbuffer, hiff⟩ := begun_byteDetection (2 ^ 32 + 1)
  rw [hbuffer]
  intro heq
  have hfull := hiff.1 (Option.some.inj heq) (2 ^ 32) [1]
    (List.getElem?_replicate_of_lt (by omega)) (by omega) (by omega) (by omega)
  have hkept : (frameWindow 0 1 (replicate (2 ^ 32 + 1) ([1] : List UInt8))).flatten.length =
      2 := by
    rw [frameWindow, take_replicate, drop_zero]
    rw [show min (1 + 1) (2 ^ 32 + 1) = 2 by omega]
    rfl
  rw [hkept] at hfull
  simp [minBufferSize, frameNumber] at hfull

end IntellVoice.Wakeup
