import IntellVoice.Library.Tiling
import IntellVoice.Offline.Frames

/-! `OfflineAudioProcessor` gives parts of recordings to an effect chain. -/

namespace IntellVoice.Offline
open List

def bytesPerFrame : Nat := 320
def offlineBytesMax16kMono : Nat := 5120

def einval : Int32 := 22
def enodev : Int32 := 19

def toU32 (n : Int) : Nat := (n % 2 ^ 32).toNat

structure CorpusBuffer where
  bytes : List UInt8
  isNull : Bool
  empty_of_null : isNull → bytes = []

def CorpusBuffer.empty : CorpusBuffer := ⟨[], true, fun _ => rfl⟩

structure ProcessCall where
  buffer : Nat
  offset : Nat
  size : Nat
  code : Int32
deriving DecidableEq

def processLoop (process : Nat → Int32) (buffer inputData maxProcessSize : Nat) :
    Nat → Nat → Nat → Nat → List ProcessCall × Int32
  | 0, _, _, _ => ([], 0)
  | fuel + 1, remainingSize, inOffset, sendCount =>
    if remainingSize > 0 then
      let currentProcessSize :=
        if remainingSize > maxProcessSize then maxProcessSize else remainingSize
      let code := process sendCount
      let call := ⟨buffer, inputData + inOffset, currentProcessSize, code⟩
      if code ≠ 0 then ([call], code)
      else
        let rest := processLoop process buffer inputData maxProcessSize fuel
          (remainingSize - currentProcessSize) (inOffset + currentProcessSize) (sendCount + 1)
        (call :: rest.1, rest.2)
    else ([], 0)

def processDataWithOfflineEffect (chain : Bool) (process : Nat → Int32) (buffer : Nat)
    (isNull : Bool) (inputData inputDataSize maxProcessSize : Nat) : List ProcessCall × Int32 :=
  if isNull then ([], -einval)
  else if inputDataSize = 0 then ([], 0)
  else if !chain then ([], -enodev)
  else processLoop process buffer inputData maxProcessSize inputDataSize inputDataSize 0 0

structure Corpus where
  buffers : List CorpusBuffer
  frameNumbers : List Int

structure CorpusPart where
  buffer : Nat
  first : Nat

def corpusParts : List CorpusPart := [⟨0, 0⟩, ⟨0, 2⟩, ⟨1, 4⟩, ⟨1, 6⟩, ⟨2, 8⟩, ⟨2, 10⟩]

lemma toU32_of_lt {n : Int} (hnonneg : 0 ≤ n) (hlt : n < 2 ^ 32) : (toU32 n : Int) = n := by
  rw [toU32, Int.emod_eq_of_lt hnonneg hlt, Int.toNat_of_nonneg hnonneg]

namespace Corpus

def buffer (c : Corpus) (k : Nat) : CorpusBuffer := c.buffers.getD k .empty

def frame (c : Corpus) (i : Nat) : Int := c.frameNumbers.getD i 0

-- `int` times `uint32_t` is unsigned; the difference may overflow, which the product does not see
def offset (c : Corpus) (part : CorpusPart) : Nat := toU32 (c.frame part.first * bytesPerFrame)

def size (c : Corpus) (part : CorpusPart) : Nat :=
  toU32 ((c.frame (part.first + 1) - c.frame part.first + 1) * bytesPerFrame)

def isNull (c : Corpus) (part : CorpusPart) : Bool :=
  (c.buffer part.buffer).isNull && c.offset part == 0

end Corpus

def processPart (chain : Bool) (process : Nat → Nat → Int32) (c : Corpus) (part : CorpusPart) :
    List ProcessCall × Int32 :=
  processDataWithOfflineEffect chain (process part.first) part.buffer (c.isNull part)
    (c.offset part) (c.size part) offlineBytesMax16kMono

def processRegistrationCorpusData (chain : Bool) (process : Nat → Nat → Int32) (c : Corpus) :
    List ProcessCall × Int32 :=
  if c.buffers.length < 4 then ([], -1)
  else if c.frameNumbers.length < 12 then ([], -1)
  else
    (corpusParts.flatMap fun part => (processPart chain process c part).1,
      corpusParts.foldl (fun total part => total + (processPart chain process c part).2) 0)

structure ReadAnswer where
  filesListCode : Int32
  fileCode : Int32
  buffer : CorpusBuffer

def ReadAnswer.code (a : ReadAnswer) : Int32 :=
  if a.filesListCode ≠ 0 then a.filesListCode else a.fileCode

def getWakeupBackupAudio (a : ReadAnswer) (buffer : CorpusBuffer) : Int32 × CorpusBuffer :=
  (a.code, if a.filesListCode ≠ 0 then buffer else a.buffer)

def readFiles : List ReadAnswer → Except Int32 (List CorpusBuffer)
  | [] => .ok []
  | a :: rest =>
    let read := getWakeupBackupAudio a .empty
    if read.1 ≠ 0 then .error read.1
    else
      match readFiles rest with
      | .error ret => .error ret
      | .ok buffers => .ok (read.2 :: buffers)

def readRound (answers : List ReadAnswer) (buffers : List CorpusBuffer) :
    Int32 × List CorpusBuffer :=
  (answers.foldl (fun ret a => ret + a.code) 0,
    zipWith (fun a buffer => (getWakeupBackupAudio a buffer).2) answers buffers)

structure ReadEnd where
  round : Nat
  ret : Int32
  buffers : List CorpusBuffer

def readRounds (reads : Nat → Fin 4 → ReadAnswer) :
    Nat → Nat → List CorpusBuffer → ReadEnd
  | 0, tryCount, buffers =>
    let round := readRound (ofFn (reads tryCount)) buffers
    ⟨tryCount, round.1, round.2⟩
  | left + 1, tryCount, buffers =>
    let round := readRound (ofFn (reads tryCount)) buffers
    if round.1 = 0 then ⟨tryCount, round.1, round.2⟩
    else readRounds reads left (tryCount + 1) round.2

def readFilesWhile (reads : Nat → Fin 4 → ReadAnswer) : ReadEnd :=
  readRounds reads 10 0 (replicate 4 .empty)

structure Processor where
  offlineEffectChain : Option Nat := none
  created : Nat := 0
  released : List Nat := []
deriving DecidableEq

structure InitAnswers where
  effectChains : List String
  create : String → Bool
  configure : Int32
  prepare : Int32
  getEffectBufferSize : Int32
  setParam : String → Int32

def chainNamePostEdit : String := "asr_tse_reg"

def InitAnswers.selectedChain (i : InitAnswers) : Option String :=
  i.effectChains.find? fun s => chainNamePostEdit.toList <:+: s.toList

namespace Processor

def createOfflineAudioEffectChain (p : Processor) (i : InitAnswers) : Int32 × Processor :=
  match i.selectedChain with
  | none => (-enodev, p)
  | some selectedChain =>
    -- the unique pointer drops the chain it had, without a call of `Release`
    if i.create selectedChain then
      (0, { p with offlineEffectChain := some p.created, created := p.created + 1 })
    else (-enodev, { p with offlineEffectChain := none })

def configureAudioStreamAndEffectChain (p : Processor) (i : InitAnswers) : Int32 :=
  if p.offlineEffectChain = none then -1
  else if i.configure ≠ 0 then i.configure
  else if i.prepare ≠ 0 then i.prepare
  else i.getEffectBufferSize

def frameNumbersParam (frameNumbers : List Int) : String :=
  "FRAME_NUMBERS:" ++ ",".intercalate (frameNumbers.map toString)

def setOfflineEffectChainParams (p : Processor) (i : InitAnswers) (frameNumbers : List Int) :
    Int32 :=
  if p.offlineEffectChain = none then -1 else i.setParam (frameNumbersParam frameNumbers)

def audioOfflineInit (p : Processor) (i : InitAnswers) (frameNumbers : List Int) :
    Int32 × Processor :=
  let created := p.createOfflineAudioEffectChain i
  if created.1 ≠ 0 then created
  else
    let configured := created.2.configureAudioStreamAndEffectChain i
    if configured ≠ 0 then (configured, created.2)
    else (created.2.setOfflineEffectChainParams i frameNumbers, created.2)

def releaseResources (p : Processor) : Processor :=
  match p.offlineEffectChain with
  | none => p
  | some chain => { p with offlineEffectChain := none, released := p.released ++ [chain] }

end Processor

structure Answers where
  reads : Nat → Fin 4 → ReadAnswer
  init : InitAnswers
  process : Nat → Nat → Int32

structure Outcome where
  ret : Int32
  calls : List ProcessCall
  processor : Processor

def prepareCorpus (p : Processor) (i : InitAnswers) (buffers : List CorpusBuffer) :
    Except (Int32 × Processor) (Corpus × Processor) :=
  let frameNumbers := parseFrameNumbers (buffers.getD 3 .empty).bytes
  if frameNumbers.length < 12 then .error (-1, p)
  else
    let init := p.audioOfflineInit i frameNumbers
    if init.1 ≠ 0 then .error init else .ok (⟨buffers, frameNumbers⟩, init.2)

def processOfflineAudio (p : Processor) (a : Answers) : Outcome :=
  match readFiles (ofFn (a.reads 0)) with
  | .error ret => ⟨ret, [], p⟩
  | .ok buffers =>
    match prepareCorpus p a.init buffers with
    | .error failed => ⟨failed.1, [], failed.2⟩
    | .ok ready =>
      let processed := processRegistrationCorpusData ready.2.offlineEffectChain.isSome a.process
        ready.1
      ⟨processed.2, processed.1, ready.2.releaseResources⟩

def processOfflineAudioWhile (p : Processor) (a : Answers) : Outcome :=
  let files := readFilesWhile a.reads
  if files.ret ≠ 0 then ⟨files.ret, [], p⟩
  else
    match prepareCorpus p a.init files.buffers with
    | .error failed => ⟨failed.1, [], failed.2⟩
    | .ok ready =>
      let processed := processRegistrationCorpusData ready.2.offlineEffectChain.isSome a.process
        ready.1
      -- the chain is not released when the processing failed
      if processed.2 ≠ 0 then ⟨processed.2, processed.1, ready.2⟩
      else ⟨processed.2, processed.1, ready.2.releaseResources⟩

inductive EntryPoint where
  | processOfflineAudio
  | processOfflineAudioWhile
deriving DecidableEq

def EntryPoint.call : EntryPoint → Processor → Answers → Outcome
  | .processOfflineAudio => Offline.processOfflineAudio
  | .processOfflineAudioWhile => Offline.processOfflineAudioWhile

def ProcessCall.chunk (c : ProcessCall) : Nat × Nat := (c.offset, c.size)

lemma processLoop_zero (process : Nat → Int32) (buffer inputData maxProcessSize : Nat)
    (fuel inOffset sendCount : Nat) :
    processLoop process buffer inputData maxProcessSize fuel 0 inOffset sendCount = ([], 0) := by
  cases fuel <;> rfl

lemma processLoop_tiles (process : Nat → Int32) (buffer inputData : Nat) {maxProcessSize : Nat}
    (hmax : 0 < maxProcessSize) {fuel remainingSize : Nat} (inOffset sendCount : Nat)
    (hpos : 0 < remainingSize) (hfuel : remainingSize ≤ fuel) {r : List ProcessCall × Int32}
    (hr : processLoop process buffer inputData maxProcessSize fuel remainingSize inOffset
      sendCount = r) :
    (∃ rest, Tiles maxProcessSize (inputData + inOffset + remainingSize) (inputData + inOffset)
      (r.1.map (·.chunk) ++ rest)) ∧
    (r.2 = 0 → Tiles maxProcessSize (inputData + inOffset + remainingSize) (inputData + inOffset)
      (r.1.map (·.chunk))) ∧ (r.2 = 0 ↔ ∀ c ∈ r.1, c.code = 0) ∧ ∀ c ∈ r.1, c.buffer = buffer := by
  induction fuel generalizing remainingSize inOffset sendCount r with
  | zero => omega
  | succ fuel ih =>
    rw [processLoop, if_pos hpos] at hr
    subst hr
    by_cases hlong : remainingSize > maxProcessSize
    · dsimp only
      rw [if_pos hlong]
      have hnext : inputData + inOffset + maxProcessSize <
          inputData + inOffset + remainingSize := by
        omega
      by_cases hcode : process sendCount = 0
      · rw [if_neg (not_not.2 hcode)]
        obtain ⟨⟨rest, hrest⟩, hall, hzero, hbuffer⟩ := ih (inOffset + maxProcessSize)
          (sendCount + 1) (by omega : 0 < remainingSize - maxProcessSize) (by omega) rfl
        have hend : inputData + (inOffset + maxProcessSize) + (remainingSize - maxProcessSize) =
            inputData + inOffset + remainingSize := by omega
        rw [hend, ← Nat.add_assoc] at hrest hall
        refine ⟨⟨rest, .cons hnext hrest⟩, fun h => .cons hnext (hall h), ?_, ?_⟩
        · rw [forall_mem_cons, hzero]
          exact (and_iff_right hcode).symm
        · exact forall_mem_cons.2 ⟨rfl, hbuffer⟩
      · rw [if_pos hcode]
        obtain ⟨rest, hrest⟩ := Tiles.exists_pieces hmax hnext
        refine ⟨⟨rest, .cons hnext hrest⟩, fun h => absurd h hcode, ?_, ?_⟩
        · rw [forall_mem_singleton]
        · exact forall_mem_singleton.2 rfl
    · dsimp only
      rw [if_neg hlong, Nat.sub_self, processLoop_zero]
      have hlast : Tiles maxProcessSize (inputData + inOffset + remainingSize)
          (inputData + inOffset) [(inputData + inOffset, remainingSize)] := by
        have h := Tiles.last (m := maxProcessSize) (o := inputData + inOffset)
          (n := inputData + inOffset + remainingSize) (by omega) (by omega)
        rwa [Nat.add_sub_cancel_left] at h
      by_cases hcode : process sendCount = 0
      · rw [if_neg (not_not.2 hcode)]
        refine ⟨⟨[], hlast⟩, fun _ => hlast, ?_, ?_⟩
        · exact iff_of_true rfl (forall_mem_singleton.2 hcode)
        · exact forall_mem_singleton.2 rfl
      · rw [if_pos hcode]
        refine ⟨⟨[], hlast⟩, fun h => absurd h hcode, ?_, ?_⟩
        · rw [forall_mem_singleton]
        · exact forall_mem_singleton.2 rfl

lemma processLoop_code {process : Nat → Int32} (h : ∀ i, process i = 0)
    (buffer inputData maxProcessSize fuel remainingSize inOffset sendCount : Nat) :
    (processLoop process buffer inputData maxProcessSize fuel remainingSize inOffset
      sendCount).2 = 0 := by
  induction fuel generalizing remainingSize inOffset sendCount with
  | zero => rfl
  | succ fuel ih =>
    rw [processLoop]
    split
    · dsimp only
      rw [if_neg (not_not.2 (h sendCount))]
      exact ih _ _ _
    · rfl

namespace Corpus

def Fits (c : Corpus) (part : CorpusPart) : Prop :=
  c.isNull part ∨ c.size part = 0 ∨
    c.offset part + c.size part ≤ (c.buffer part.buffer).bytes.length

lemma fits_of_frames {c : Corpus} {part : CorpusPart} (hfirst : 0 ≤ c.frame part.first)
    (horder : c.frame part.first ≤ c.frame (part.first + 1) + 1)
    (hin : (c.frame (part.first + 1) + 1) * bytesPerFrame ≤ (c.buffer part.buffer).bytes.length)
    (hlength : (c.buffer part.buffer).bytes.length < 2 ^ 32) : c.Fits part := by
  have hframe : (bytesPerFrame : Int) = 320 := rfl
  rw [hframe] at hin
  have hoffset : (c.offset part : Int) = c.frame part.first * 320 :=
    toU32_of_lt (Int.mul_nonneg hfirst (by decide)) (by rw [hframe]; omega)
  have hsize : (c.size part : Int) = (c.frame (part.first + 1) - c.frame part.first + 1) * 320 :=
    toU32_of_lt (Int.mul_nonneg (by omega) (by decide)) (by rw [hframe]; omega)
  right
  right
  omega

end Corpus

variable {process : Nat → Nat → Int32} {c : Corpus} {part : CorpusPart}

lemma processPart_of_isNull (h : c.isNull part) :
    processPart true process c part = ([], -einval) := by
  rw [processPart, processDataWithOfflineEffect, if_pos h]

lemma processPart_of_size_zero (h : ¬ c.isNull part) (hsize : c.size part = 0) :
    processPart true process c part = ([], 0) := by
  rw [processPart, processDataWithOfflineEffect, if_neg h, if_pos hsize]

lemma processPart_eq_loop (h : ¬ c.isNull part) (hsize : c.size part ≠ 0) :
    processPart true process c part =
      processLoop (process part.first) part.buffer (c.offset part) offlineBytesMax16kMono
        (c.size part) (c.size part) 0 0 := by
  rw [processPart, processDataWithOfflineEffect, if_neg h, if_neg hsize]
  rfl

lemma processPart_tiles (process : Nat → Nat → Int32) (h : ¬ c.isNull part)
    (hsize : c.size part ≠ 0) :
    (∃ rest, Tiles offlineBytesMax16kMono (c.offset part + c.size part) (c.offset part)
      ((processPart true process c part).1.map (·.chunk) ++ rest)) ∧
    ((processPart true process c part).2 = 0 →
      Tiles offlineBytesMax16kMono (c.offset part + c.size part) (c.offset part)
        ((processPart true process c part).1.map (·.chunk))) ∧
    ((processPart true process c part).2 = 0 ↔
      ∀ call ∈ (processPart true process c part).1, call.code = 0) ∧
    ∀ call ∈ (processPart true process c part).1, call.buffer = part.buffer := by
  have htiles := processLoop_tiles (process part.first) part.buffer (c.offset part)
    (by decide : 0 < offlineBytesMax16kMono) 0 0 (Nat.pos_of_ne_zero hsize) (Nat.le_refl _)
    (processPart_eq_loop h hsize).symm
  rwa [Nat.add_zero] at htiles

lemma inside_of_mem_processPart {call : ProcessCall}
    (hcall : call ∈ (processPart true process c part).1) :
    ¬ c.isNull part ∧ c.size part ≠ 0 ∧ call.buffer = part.buffer ∧ 1 ≤ call.size ∧
      call.size ≤ offlineBytesMax16kMono ∧
      call.offset + call.size ≤ c.offset part + c.size part := by
  by_cases hnull : c.isNull part
  · rw [processPart_of_isNull hnull] at hcall
    exact absurd hcall not_mem_nil
  by_cases hsize : c.size part = 0
  · rw [processPart_of_size_zero hnull hsize] at hcall
    exact absurd hcall not_mem_nil
  obtain ⟨⟨rest, hrest⟩, -, -, hbuffer⟩ := processPart_tiles process hnull hsize
  obtain ⟨-, hpos, hmax, hend⟩ := hrest.inside (by decide)
    (mem_append_left rest (mem_map_of_mem hcall))
  exact ⟨hnull, hsize, hbuffer call hcall, hpos, hmax, hend⟩

lemma exists_last_chunk (process : Nat → Nat → Int32) (h : ¬ c.isNull part)
    (hsize : c.size part ≠ 0) (hok : ∀ i, process part.first i = 0) :
    ∃ call ∈ (processPart true process c part).1,
      call.offset + call.size = c.offset part + c.size part := by
  obtain ⟨-, hall, -, -⟩ := processPart_tiles process h hsize
  have hcode : (processPart true process c part).2 = 0 := by
    rw [processPart_eq_loop h hsize]
    exact processLoop_code hok _ _ _ _ _ _ _
  obtain ⟨chunk, hchunk, hend⟩ := (hall hcode).exists_end
  obtain ⟨call, hcall, rfl⟩ := mem_map.1 hchunk
  exact ⟨call, hcall, hend⟩

lemma processPart_code : ((processPart true process c part).2 = 0 →
      ∀ call ∈ (processPart true process c part).1, call.code = 0) ∧
    ((∀ call ∈ (processPart true process c part).1, call.code = 0) →
      (processPart true process c part).2 = 0 ∨ (processPart true process c part).2 = -einval) := by
  by_cases hnull : c.isNull part
  · rw [processPart_of_isNull hnull]
    exact ⟨fun _ => nofun, fun _ => .inr rfl⟩
  by_cases hsize : c.size part = 0
  · rw [processPart_of_size_zero hnull hsize]
    exact ⟨fun _ => nofun, fun _ => .inl rfl⟩
  obtain ⟨-, -, hzero, -⟩ := processPart_tiles process hnull hsize
  exact ⟨hzero.1, fun h => .inl (hzero.2 h)⟩

def InitAnswers.createsChain (i : InitAnswers) : Bool := i.selectedChain.any i.create

def InitAnswers.Initialises (i : InitAnswers) (frameNumbers : List Int) : Prop :=
  i.configure = 0 ∧ i.prepare = 0 ∧ i.getEffectBufferSize = 0 ∧
    i.setParam (Processor.frameNumbersParam frameNumbers) = 0

instance (i : InitAnswers) (frameNumbers : List Int) : Decidable (i.Initialises frameNumbers) :=
  inferInstanceAs (Decidable (_ ∧ _ ∧ _ ∧ _))

namespace Processor

def withChain (p : Processor) : Processor :=
  { p with offlineEffectChain := some p.created, created := p.created + 1 }

variable {i : InitAnswers}

lemma createOfflineAudioEffectChain_of_creates (h : i.createsChain) (p : Processor) :
    p.createOfflineAudioEffectChain i = (0, p.withChain) := by
  unfold createOfflineAudioEffectChain
  unfold InitAnswers.createsChain at h
  cases hselected : i.selectedChain with
  | none =>
    rw [hselected] at h
    exact absurd h nofun
  | some selectedChain =>
    rw [hselected] at h
    exact if_pos h

lemma createOfflineAudioEffectChain_of_not_creates (h : ¬ i.createsChain) (p : Processor) :
    p.createOfflineAudioEffectChain i = (-enodev, p) ∨
      p.createOfflineAudioEffectChain i = (-enodev, { p with offlineEffectChain := none }) := by
  unfold createOfflineAudioEffectChain
  unfold InitAnswers.createsChain at h
  cases hselected : i.selectedChain with
  | none => exact .inl rfl
  | some selectedChain =>
    rw [hselected] at h
    exact .inr (if_neg h)

lemma audioOfflineInit_of_creates (h : i.createsChain) (p : Processor) (frameNumbers : List Int) :
    (p.audioOfflineInit i frameNumbers).2 = p.withChain ∧
      ((p.audioOfflineInit i frameNumbers).1 = 0 ↔ i.Initialises frameNumbers) := by
  unfold audioOfflineInit configureAudioStreamAndEffectChain setOfflineEffectChainParams
    InitAnswers.Initialises
  rw [createOfflineAudioEffectChain_of_creates h]
  dsimp only [withChain]
  by_cases hconfigure : i.configure = 0 <;> by_cases hprepare : i.prepare = 0 <;>
    by_cases hbuffer : i.getEffectBufferSize = 0 <;> simp [hconfigure, hprepare, hbuffer]

lemma audioOfflineInit_of_not_creates (h : ¬ i.createsChain) (p : Processor)
    (frameNumbers : List Int) : (p.audioOfflineInit i frameNumbers).1 ≠ 0 ∧
      ((p.audioOfflineInit i frameNumbers).2 = p ∨
        (p.audioOfflineInit i frameNumbers).2 = { p with offlineEffectChain := none }) := by
  have henodev : -enodev ≠ 0 := by decide
  unfold audioOfflineInit
  rcases createOfflineAudioEffectChain_of_not_creates h p with hfailed | hfailed
  · rw [hfailed]
    dsimp only
    rw [if_pos henodev]
    exact ⟨henodev, .inl rfl⟩
  · rw [hfailed]
    dsimp only
    rw [if_pos henodev]
    exact ⟨henodev, .inr rfl⟩

end Processor

namespace EntryPoint

def buffers : EntryPoint → Answers → Option (List CorpusBuffer)
  | .processOfflineAudio, a => (readFiles (ofFn (a.reads 0))).toOption
  | .processOfflineAudioWhile, a =>
    if (readFilesWhile a.reads).ret = 0 then some (readFilesWhile a.reads).buffers else none

def accepted (e : EntryPoint) (a : Answers) : Option Corpus :=
  (e.buffers a).bind fun buffers =>
    let frameNumbers := parseFrameNumbers (buffers.getD 3 .empty).bytes
    if frameNumbers.length < 12 then none else some ⟨buffers, frameNumbers⟩

inductive Ends (e : EntryPoint) (p : Processor) (a : Answers) : Outcome → Prop where
  | unread {ret : Int32} (haccepted : e.accepted a = none) (hret : ret ≠ 0) :
      Ends e p a ⟨ret, [], p⟩
  | uncreated {c : Corpus} {ret : Int32} {q : Processor} (haccepted : e.accepted a = some c)
      (hcreates : ¬ a.init.createsChain) (hret : ret ≠ 0)
      (hq : q = p ∨ q = { p with offlineEffectChain := none }) : Ends e p a ⟨ret, [], q⟩
  | uninitialised {c : Corpus} {ret : Int32} (haccepted : e.accepted a = some c)
      (hcreates : a.init.createsChain) (hinit : ¬ a.init.Initialises c.frameNumbers)
      (hret : ret ≠ 0) : Ends e p a ⟨ret, [], p.withChain⟩
  | processed {c : Corpus} {q : Processor} (haccepted : e.accepted a = some c)
      (hcreates : a.init.createsChain) (hinit : a.init.Initialises c.frameNumbers)
      (hq : q = if e = .processOfflineAudioWhile ∧
          (processRegistrationCorpusData true a.process c).2 ≠ 0 then p.withChain
        else p.withChain.releaseResources) :
      Ends e p a ⟨(processRegistrationCorpusData true a.process c).2,
        (processRegistrationCorpusData true a.process c).1, q⟩

lemma readFiles_ne_zero {answers : List ReadAnswer} {ret : Int32}
    (h : readFiles answers = .error ret) : ret ≠ 0 := by
  induction answers with
  | nil => exact absurd h nofun
  | cons a rest ih =>
    rw [readFiles] at h
    split at h
    · rename_i hne
      cases h
      exact hne
    split at h
    · rename_i hrest
      cases h
      exact ih hrest
    · exact absurd h nofun

lemma ends_of_buffers {e : EntryPoint} {p : Processor} {a : Answers} {bs : List CorpusBuffer}
    (hbuffers : e.buffers a = some bs) {o : Outcome}
    (hfailed : ∀ failed, prepareCorpus p a.init bs = .error failed → o = ⟨failed.1, [], failed.2⟩)
    (hready : ∀ c, prepareCorpus p a.init bs = .ok (c, p.withChain) →
      o = ⟨(processRegistrationCorpusData true a.process c).2,
        (processRegistrationCorpusData true a.process c).1, if e = .processOfflineAudioWhile ∧
            (processRegistrationCorpusData true a.process c).2 ≠ 0 then p.withChain
          else p.withChain.releaseResources⟩) : Ends e p a o := by
  unfold prepareCorpus at hfailed hready
  dsimp only at hfailed hready
  by_cases hshort : (parseFrameNumbers (bs.getD 3 .empty).bytes).length < 12
  · rw [if_pos hshort] at hfailed
    have haccepted : e.accepted a = none := by
      rw [accepted, hbuffers, Option.bind_some]
      exact if_pos hshort
    rw [hfailed _ rfl]
    exact .unread haccepted (by decide : (-1 : Int32) ≠ 0)
  rw [if_neg hshort] at hfailed hready
  have haccepted : e.accepted a = some ⟨bs, parseFrameNumbers (bs.getD 3 .empty).bytes⟩ := by
    rw [accepted, hbuffers, Option.bind_some]
    exact if_neg hshort
  by_cases hcreates : a.init.createsChain
  · obtain ⟨hchain, hcode⟩ := p.audioOfflineInit_of_creates hcreates
      (parseFrameNumbers (bs.getD 3 .empty).bytes)
    by_cases hinit : a.init.Initialises (parseFrameNumbers (bs.getD 3 .empty).bytes)
    · rw [if_neg (not_not.2 (hcode.2 hinit)), hchain] at hready
      rw [hready _ rfl]
      exact .processed haccepted hcreates hinit rfl
    have hret := mt hcode.1 hinit
    rw [if_pos hret] at hfailed
    rw [hfailed _ rfl, hchain]
    exact .uninitialised haccepted hcreates hinit hret
  · obtain ⟨hret, hq⟩ := p.audioOfflineInit_of_not_creates hcreates
      (parseFrameNumbers (bs.getD 3 .empty).bytes)
    rw [if_pos hret] at hfailed
    rw [hfailed _ rfl]
    exact .uncreated haccepted hcreates hret hq

lemma call_ends (e : EntryPoint) (p : Processor) (a : Answers) : Ends e p a (e.call p a) := by
  cases e with
  | processOfflineAudio =>
    dsimp only [call, Offline.processOfflineAudio]
    cases hread : readFiles (ofFn (a.reads 0)) with
    | error ret =>
      have haccepted : accepted .processOfflineAudio a = none := by
        rw [accepted, buffers, hread]
        rfl
      exact .unread haccepted (readFiles_ne_zero hread)
    | ok bs =>
      have hbuffers : buffers .processOfflineAudio a = some bs := by
        rw [buffers, hread]
        rfl
      refine ends_of_buffers (p := p) hbuffers ?_ ?_
      · intro failed h
        dsimp only
        rw [h]
      · intro c h
        dsimp only
        rw [h, if_neg (fun hboth => absurd hboth.1 nofun)]
        rfl
  | processOfflineAudioWhile =>
    dsimp only [call, Offline.processOfflineAudioWhile]
    by_cases hret : (readFilesWhile a.reads).ret = 0
    · have hbuffers : buffers .processOfflineAudioWhile a =
          some (readFilesWhile a.reads).buffers := if_pos hret
      rw [if_neg (not_not.2 hret)]
      refine ends_of_buffers (p := p) hbuffers ?_ ?_
      · intro failed h
        rw [h]
      · intro c h
        rw [h]
        by_cases hcode : (processRegistrationCorpusData true a.process c).2 = 0
        · rw [if_neg (fun hboth => absurd hcode hboth.2)]
          exact if_neg (not_not.2 hcode)
        · rw [if_pos ⟨rfl, hcode⟩]
          exact if_pos hcode
    · have haccepted : accepted .processOfflineAudioWhile a = none := by
        rw [accepted, buffers, if_neg hret]
        rfl
      rw [if_pos hret]
      exact .unread haccepted hret

end EntryPoint

lemma length_readFiles {answers : List ReadAnswer} {bs : List CorpusBuffer}
    (h : readFiles answers = .ok bs) : bs.length = answers.length := by
  induction answers generalizing bs with
  | nil =>
    cases h
    rfl
  | cons a rest ih =>
    rw [readFiles] at h
    split at h
    · exact absurd h nofun
    split at h
    · exact absurd h nofun
    rename_i buffers hrest
    cases h
    rw [length_cons, length_cons, ih hrest]

lemma readRounds_spec (reads : Nat → Fin 4 → ReadAnswer) (left tryCount : Nat)
    {bs : List CorpusBuffer} (h : bs.length = 4) {files : ReadEnd}
    (hfiles : readRounds reads left tryCount bs = files) : files.buffers.length = 4 ∧
      files.ret = (ofFn (reads files.round)).foldl (fun ret a => ret + a.code) 0 := by
  have hround : ∀ {k : Nat} {bs : List CorpusBuffer}, bs.length = 4 →
      (readRound (ofFn (reads k)) bs).2.length = 4 := by
    intro k bs h
    rw [readRound, length_zipWith, length_ofFn, h, Nat.min_self]
  induction left generalizing tryCount bs with
  | zero =>
    subst hfiles
    exact ⟨hround h, rfl⟩
  | succ left ih =>
    rw [readRounds] at hfiles
    split at hfiles
    · subst hfiles
      exact ⟨hround h, rfl⟩
    · exact ih (tryCount + 1) (hround h) hfiles

lemma readFilesWhile_spec (reads : Nat → Fin 4 → ReadAnswer) :
    (readFilesWhile reads).buffers.length = 4 ∧ (readFilesWhile reads).ret =
        (ofFn (reads (readFilesWhile reads).round)).foldl (fun ret a => ret + a.code) 0 :=
  readRounds_spec reads 10 0 length_replicate rfl

namespace EntryPoint

/-- The answers let the call get as far as the effect chain, with the corpus `c`. -/
def Processes (e : EntryPoint) (a : Answers) (c : Corpus) : Prop :=
  e.accepted a = some c ∧ a.init.createsChain ∧ a.init.Initialises c.frameNumbers

variable {a : Answers} {e : EntryPoint} {call : ProcessCall}

lemma processes_with {process : Nat → Nat → Int32} {c : Corpus} :
    e.Processes { a with process := process } c ↔ e.Processes a c := by
  cases e <;> exact Iff.rfl

lemma length_buffers {bs : List CorpusBuffer} (h : e.buffers a = some bs) : bs.length = 4 := by
  cases e with
  | processOfflineAudio =>
    rw [buffers] at h
    cases hread : readFiles (ofFn (a.reads 0)) with
    | error ret =>
      rw [hread] at h
      exact absurd h nofun
    | ok read =>
      rw [hread] at h
      cases h
      rw [length_readFiles hread, length_ofFn]
  | processOfflineAudioWhile =>
    rw [buffers] at h
    split at h
    · cases h
      exact (readFilesWhile_spec a.reads).1
    · exact absurd h nofun

lemma processRegistrationCorpusData_of_accepted {c : Corpus} (h : e.accepted a = some c)
    (process : Nat → Nat → Int32) : processRegistrationCorpusData true process c =
      (corpusParts.flatMap fun part => (processPart true process c part).1,
        corpusParts.foldl (fun total part => total + (processPart true process c part).2) 0) := by
  obtain ⟨bs, hbuffers, hc⟩ := Option.bind_eq_some_iff.1 h
  dsimp only at hc
  split at hc
  · exact absurd hc nofun
  rename_i hlong
  cases hc
  have hlength : ¬ bs.length < 4 := Nat.not_lt.2 (length_buffers hbuffers).ge
  rw [processRegistrationCorpusData, if_neg hlength, if_neg hlong]

lemma exists_part_of_mem_calls {p : Processor} (h : call ∈ (e.call p a).calls) :
    ∃ c, e.Processes a c ∧ ∃ part ∈ corpusParts, call ∈ (processPart true a.process c part).1 := by
  have hends := e.call_ends p a
  generalize e.call p a = o at hends h
  cases hends with
  | unread | uncreated | uninitialised => exact absurd h not_mem_nil
  | @processed c q haccepted hcreates hinit hq =>
    rw [processRegistrationCorpusData_of_accepted haccepted] at h
    obtain ⟨part, hpart, hcall⟩ := mem_flatMap.1 h
    exact ⟨c, ⟨haccepted, hcreates, hinit⟩, part, hpart, hcall⟩

lemma call_of_processes {c : Corpus} (h : e.Processes a c) (p : Processor) :
    (e.call p a).calls = (corpusParts.flatMap fun part => (processPart true a.process c part).1) ∧
      (e.call p a).ret =
        corpusParts.foldl (fun total part => total + (processPart true a.process c part).2) 0 := by
  obtain ⟨haccepted, hcreates, hinit⟩ := h
  have hends := e.call_ends p a
  generalize e.call p a = o at hends ⊢
  cases hends with
  | unread hnone => exact absurd (hnone.symm.trans haccepted) nofun
  | uncreated _ hnot => exact absurd hcreates hnot
  | uninitialised hsome _ hnot =>
    cases Option.some.inj (hsome.symm.trans haccepted)
    exact absurd hinit hnot
  | processed hsome =>
    cases Option.some.inj (hsome.symm.trans haccepted)
    rw [processRegistrationCorpusData_of_accepted haccepted]
    exact ⟨rfl, rfl⟩

lemma mem_calls_of_processes {c : Corpus} (h : e.Processes a c) (p : Processor) {part : CorpusPart}
    (hpart : part ∈ corpusParts) (hcall : call ∈ (processPart true a.process c part).1) :
    call ∈ (e.call p a).calls := by
  rw [(call_of_processes h p).1]
  exact mem_flatMap.2 ⟨part, hpart, hcall⟩

end EntryPoint

def Corpus.Contains (c : Corpus) (call : ProcessCall) : Prop :=
  call.offset + call.size ≤ (c.buffer call.buffer).bytes.length

theorem calls_inside_iff (e : EntryPoint) (p : Processor) (a : Answers) :
    (∀ call ∈ (e.call p a).calls, 1 ≤ call.size ∧ call.size ≤ offlineBytesMax16kMono) ∧
    ((∀ process, ∀ call ∈ (e.call p { a with process := process }).calls,
        ∃ c, e.Processes a c ∧ c.Contains call) ↔
      ∀ c, e.Processes a c → ∀ part ∈ corpusParts, c.Fits part) := by
  refine ⟨?_, ?_, ?_⟩
  · intro call hcall
    obtain ⟨c, -, part, -, hpart⟩ := EntryPoint.exists_part_of_mem_calls hcall
    obtain ⟨-, -, -, hpos, hmax, -⟩ := inside_of_mem_processPart hpart
    exact ⟨hpos, hmax⟩
  · intro hinside c hc part hpart
    by_cases hnull : c.isNull part
    · exact .inl hnull
    by_cases hsize : c.size part = 0
    · exact .inr (.inl hsize)
    -- without an error the last chunk ends where the part ends
    obtain ⟨call, hcall, hend⟩ := exists_last_chunk (fun _ _ => 0) hnull hsize fun _ => rfl
    have hmem := EntryPoint.mem_calls_of_processes (EntryPoint.processes_with.2 hc) p hpart hcall
    obtain ⟨c', hc', hcontains⟩ := hinside _ call hmem
    cases Option.some.inj (hc'.1.symm.trans hc.1)
    obtain ⟨-, -, hbuffer, -⟩ := inside_of_mem_processPart hcall
    rw [Corpus.Contains, hend, hbuffer] at hcontains
    exact .inr (.inr hcontains)
  · intro hfits process call hcall
    obtain ⟨c, hc, part, hpart, hmem⟩ := EntryPoint.exists_part_of_mem_calls hcall
    rw [EntryPoint.processes_with] at hc
    obtain ⟨hnull, hsize, hbuffer, -, -, hend⟩ := inside_of_mem_processPart hmem
    refine ⟨c, hc, ?_⟩
    rw [Corpus.Contains, hbuffer]
    rcases hfits c hc part hpart with hfit | hfit | hfit
    · exact absurd hfit hnull
    · exact absurd hfit hsize
    · exact hend.trans hfit

def sampleReads (sentences : List Sentence) (n : Nat) (_ : Nat) (i : Fin 4) : ReadAnswer :=
  ⟨0, 0, ⟨if i = 3 then bytesOf (fileText sentences) else replicate n 0, false, nofun⟩⟩

def sampleInit : InitAnswers := ⟨["asr_tse_reg"], fun _ => true, 0, 0, 0, fun _ => 0⟩

theorem short_recording_overrun :
    (sampleReads threeSentences 10 0 0).buffer.bytes.length = 10 ∧
      (processOfflineAudio {}
        ⟨sampleReads threeSentences 10, sampleInit, fun _ _ => 0⟩).calls.head? =
          some ⟨0, 320, 5120, 0⟩ := by
  decide +kernel

/-- Codes that are not all zero and add up to zero in `int32_t`. -/
def Cancels (codes : List Int32) : Prop := codes.foldl (· + ·) 0 = 0 ∧ ∃ code ∈ codes, code ≠ 0

/-- The codes of the four files in the last round. -/
def readCodes (reads : Nat → Fin 4 → ReadAnswer) : List Int32 :=
  (ofFn (reads (readFilesWhile reads).round)).map (·.code)

/-- The codes of the six parts of the corpus. -/
def partCodes (process : Nat → Nat → Int32) (c : Corpus) : List Int32 :=
  corpusParts.map fun part => (processPart true process c part).2

lemma forall_eq_zero_of_not_cancels {codes : List Int32} (h : ¬ Cancels codes)
    (hsum : codes.foldl (· + ·) 0 = 0) : ∀ code ∈ codes, code = 0 := by
  intro code hcode
  by_contra hne
  exact h ⟨hsum, code, hcode, hne⟩

lemma foldl_add_eq_zero {codes : List Int32} (h : ∀ code ∈ codes, code = 0) :
    codes.foldl (· + ·) 0 = 0 := by
  induction codes with
  | nil => rfl
  | cons code codes ih =>
    obtain ⟨rfl, hcodes⟩ := forall_mem_cons.1 h
    exact ih hcodes

lemma ret_readFilesWhile (reads : Nat → Fin 4 → ReadAnswer) :
    (readFilesWhile reads).ret = (readCodes reads).foldl (· + ·) 0 := by
  rw [readCodes, foldl_map]
  exact (readFilesWhile_spec reads).2

lemma forall_eq_zero_of_einval {f : CorpusPart → Int32}
    (hf : ∀ part ∈ corpusParts, f part = 0 ∨ f part = -einval)
    (hsum : (corpusParts.map f).foldl (· + ·) 0 = 0) : ∀ part ∈ corpusParts, f part = 0 := by
  have hsums : ∀ b₁ b₂ b₃ b₄ b₅ b₆ : Bool, ([b₁, b₂, b₃, b₄, b₅, b₆].map fun b =>
      bif b then -einval else 0).foldl (· + ·) 0 = 0 →
        (b₁ || b₂ || b₃ || b₄ || b₅ || b₆) = false := by decide +kernel
  have hmap : corpusParts.map f = (corpusParts.map fun part => decide (f part ≠ 0)).map
      fun b => bif b then -einval else 0 := by
    rw [map_map]
    refine map_congr_left fun part hpart => ?_
    rcases hf part hpart with h | h
    · simp [h]
    · have hne : -einval ≠ 0 := by decide
      simp [h, hne]
  rw [hmap] at hsum
  have hnone := hsums _ _ _ _ _ _ hsum
  simp only [Bool.or_eq_false_iff, decide_eq_false_iff_not, not_not] at hnone
  simp only [corpusParts, forall_mem_cons]
  tauto

lemma EntryPoint.processes_of_ret_zero {e : EntryPoint} {p : Processor} {a : Answers}
    (h : (e.call p a).ret = 0) :
    ∃ c, e.Processes a c ∧ (partCodes a.process c).foldl (· + ·) 0 = 0 := by
  have hends := e.call_ends p a
  generalize e.call p a = o at hends h
  cases hends with
  | unread _ hret | uncreated _ _ hret | uninitialised _ _ _ hret => exact absurd h hret
  | @processed c q haccepted hcreates hinit hq =>
    rw [processRegistrationCorpusData_of_accepted haccepted] at h
    refine ⟨c, ⟨haccepted, hcreates, hinit⟩, ?_⟩
    rw [partCodes, foldl_map]
    exact h

lemma readFilesWhile_ret_of_accepted {a : Answers} {c : Corpus}
    (h : EntryPoint.accepted .processOfflineAudioWhile a = some c) :
    (readFilesWhile a.reads).ret = 0 := by
  obtain ⟨bs, hbuffers, -⟩ := Option.bind_eq_some_iff.1 h
  by_contra hne
  rw [EntryPoint.buffers, if_neg hne] at hbuffers
  exact absurd hbuffers nofun

lemma partCodes_not_cancels_iff {process : Nat → Nat → Int32} {c : Corpus}
    (hsum : (partCodes process c).foldl (· + ·) 0 = 0) : ¬ Cancels (partCodes process c) ↔
      ∀ part ∈ corpusParts, ∀ call ∈ (processPart true process c part).1, call.code = 0 := by
  constructor
  · intro hnot part hpart
    have hzero := forall_eq_zero_of_not_cancels hnot hsum _ (mem_map_of_mem hpart)
    exact processPart_code.1 hzero
  · rintro hall ⟨-, code, hcode, hne⟩
    obtain ⟨part, hpart, rfl⟩ := mem_map.1 hcode
    have heinval := fun part hpart => processPart_code.2 (hall part hpart)
    exact hne (forall_eq_zero_of_einval heinval hsum part hpart)

lemma processOfflineAudioWhile_ret_eq_zero_iff (p : Processor) (a : Answers) :
    (processOfflineAudioWhile p a).ret = 0 ↔
      ∃ c, EntryPoint.Processes .processOfflineAudioWhile a c ∧
        (partCodes a.process c).foldl (· + ·) 0 = 0 := by
  refine ⟨EntryPoint.processes_of_ret_zero (e := .processOfflineAudioWhile), ?_⟩
  rintro ⟨c, hc, hsum⟩
  rw [partCodes, foldl_map] at hsum
  exact (EntryPoint.call_of_processes hc p).2.trans hsum

lemma readCodes_not_cancels_iff {a : Answers} {c : Corpus}
    (hc : EntryPoint.Processes .processOfflineAudioWhile a c) : ¬ Cancels (readCodes a.reads) ↔
      ∀ i, (a.reads (readFilesWhile a.reads).round i).code = 0 := by
  constructor
  · intro hnot i
    have hsum : (readCodes a.reads).foldl (· + ·) 0 = 0 := by
      rw [← ret_readFilesWhile]
      exact readFilesWhile_ret_of_accepted hc.1
    exact forall_eq_zero_of_not_cancels hnot hsum _
      (mem_map_of_mem (mem_ofFn.2 ⟨i, rfl⟩))
  · rintro hall ⟨-, code, hcode, hne⟩
    obtain ⟨answer, hanswer, rfl⟩ := mem_map.1 hcode
    obtain ⟨i, rfl⟩ := mem_ofFn.1 hanswer
    exact hne (hall i)

theorem processOfflineAudioWhile_reports_iff (p : Processor) (a : Answers) :
    ((processOfflineAudioWhile p a).ret = 0 →
      (∀ i, (a.reads (readFilesWhile a.reads).round i).code = 0) ∧
        ∀ call ∈ (processOfflineAudioWhile p a).calls, call.code = 0) ↔
    ∀ c, EntryPoint.Processes .processOfflineAudioWhile a c →
      ¬ Cancels (partCodes a.process c) ∧
        ((∀ code ∈ partCodes a.process c, code = 0) → ¬ Cancels (readCodes a.reads)) := by
  rw [processOfflineAudioWhile_ret_eq_zero_iff]
  have hentry : processOfflineAudioWhile p a = EntryPoint.call .processOfflineAudioWhile p a := rfl
  rw [hentry]
  constructor
  · intro hclaim c hc
    refine ⟨fun hcancels => ?_, fun hzero => ?_⟩
    · have hall := (hclaim ⟨c, hc, hcancels.1⟩).2
      refine (partCodes_not_cancels_iff hcancels.1).2 (fun part hpart call hcall => ?_) hcancels
      exact hall call (EntryPoint.mem_calls_of_processes hc p hpart hcall)
    · exact (readCodes_not_cancels_iff hc).2 (hclaim ⟨c, hc, foldl_add_eq_zero hzero⟩).1
  · rintro hanswers ⟨c, hc, hsum⟩
    obtain ⟨hparts, hreads⟩ := hanswers c hc
    refine ⟨(readCodes_not_cancels_iff hc).1
      (hreads (forall_eq_zero_of_not_cancels hparts hsum)), fun call hcall => ?_⟩
    obtain ⟨c', hc', part, hpart, hmem⟩ := EntryPoint.exists_part_of_mem_calls hcall
    cases Option.some.inj (hc'.1.symm.trans hc.1)
    exact (partCodes_not_cancels_iff hsum).1 hparts part hpart call hmem

theorem failed_parts_cancel :
    (processOfflineAudioWhile {} ⟨sampleReads threeSentences 30000, sampleInit, fun part _ =>
      if part = 0 then 1 else if part = 2 then -1 else 0⟩).ret = 0 ∧
    (processOfflineAudioWhile {} ⟨sampleReads threeSentences 30000, sampleInit, fun part _ =>
      if part = 0 then 1 else if part = 2 then -1 else 0⟩).calls.head? =
        some ⟨0, 320, 5120, 1⟩ := by
  decide +kernel

end IntellVoice.Offline
