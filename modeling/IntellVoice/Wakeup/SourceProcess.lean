import IntellVoice.Library.BoundedQueue
import IntellVoice.Library.Run

/-! `WakeupSourceProcess` has a queue of frames for each channel. -/

namespace IntellVoice.Wakeup
open Transition List

abbrev Frame := List UInt8

def maxCapacity : Nat := 500
def maxChannelCnt : Nat := 4
def frameCnt : Nat := 100

structure WakeupSourceProcess where
  readBufferPCM : Bool := false
  channelCnt : Nat := 0
  bufferQueue : List (BoundedQueue Frame maxCapacity) := []

namespace WakeupSourceProcess

def init (channelCnt : Nat) : WakeupSourceProcess :=
  { channelCnt, bufferQueue := replicate channelCnt {} }

variable (s : WakeupSourceProcess)

def writeChannelData (channelData : Frame) (channelId : Nat) :
    WakeupSourceProcess :=
  -- no array buffer is made of an empty frame
  if channelData = [] then s
  else { s with bufferQueue := s.bufferQueue.modify channelId (·.offer channelData) }

def write (audioData : List Frame) : WakeupSourceProcess :=
  if audioData.length ≠ s.channelCnt ∨ s.bufferQueue.length ≠ s.channelCnt then s
  else if s.channelCnt = 1 ∨ s.channelCnt = 4 then
    audioData.zipIdx.foldl (fun t d => t.writeChannelData d.1 d.2) s
  else s

def popLen (channelId maxLen : Nat) : WakeupSourceProcess :=
  { s with bufferQueue := s.bufferQueue.modify channelId (·.drop maxLen) }

def frames (channelId : Nat) : List Frame :=
  s.bufferQueue[channelId]?.elim [] (·.items)

def addMultiFrame (channelData : List UInt8) (channelId frameLen : Nat) :
    Nat × List UInt8 × WakeupSourceProcess :=
  let frameList := (s.frames channelId).take frameLen
  (frameList.length, channelData ++ frameList.flatten, s.popLen channelId frameLen)

def readBufferedData (channelData : List UInt8) (channelId : Nat) :
    List UInt8 × WakeupSourceProcess :=
  if channelId ≠ 0 then
    -- as many frames as channel 0 had
    let (frameLen, channelData, t) := s.addMultiFrame channelData 0 frameCnt
    (t.addMultiFrame channelData channelId frameLen).2
  else
    let (_, channelData, t) := s.addMultiFrame channelData channelId frameCnt
    (channelData ++ channelData, t)

def readChannelData (channelData : List UInt8) (channelId : Nat) :
    Bool × List UInt8 × WakeupSourceProcess :=
  if s.bufferQueue.length ≤ channelId then (false, channelData, s)
  else if s.readBufferPCM then
    let (channelData, t) := s.readBufferedData channelData channelId
    (true, channelData, { t with readBufferPCM := false })
  else
    match s.frames channelId with
    | [] => (false, channelData, s)
    | frame :: _ => (true, channelData ++ frame, s.popLen channelId 1)

def readChannels (s : WakeupSourceProcess) (data : List UInt8) :
    List Nat → Int × List UInt8 × WakeupSourceProcess
  | [] => (0, data, s)
  | i :: rest =>
    let (done, data, t) := s.readChannelData data i
    if done then t.readChannels data rest else (-1, data, t)

def selected (readChannel : BitVec 32) : List Nat :=
  (range maxChannelCnt).filter readChannel.getLsbD

def read (data : List UInt8) (readChannel : BitVec 32) :
    Int × List UInt8 × WakeupSourceProcess :=
  if readChannel = 0 ∨ 2 ^ maxChannelCnt ≤ readChannel.toInt then (-1, data, s)
  else s.readChannels data (selected readChannel)

inductive Call where
  | setReadBufferFlag (readBuffer : Bool)
  | write (audioData : List Frame)
  | read (data : List UInt8) (readChannel : BitVec 32)

def step : Call → Option WakeupSourceProcess
  | .setReadBufferFlag readBuffer => some { s with readBufferPCM := readBuffer }
  | .write audioData => some (s.write audioData)
  | .read data readChannel => some (s.read data readChannel).2.2

lemma frames_popLen (channelId n j : Nat) : (s.popLen channelId n).frames j =
      if channelId = j then (s.frames j).drop n else s.frames j := by
  unfold frames popLen
  rw [getElem?_modify]
  split
  · cases s.bufferQueue[j]? <;> simp [BoundedQueue.drop]
  · cases s.bufferQueue[j]? <;> rfl

lemma length_popLen (channelId n : Nat) :
    (s.popLen channelId n).bufferQueue.length = s.bufferQueue.length := length_modify ..

def Takes (t : WakeupSourceProcess) (n channelId : Nat) : Prop :=
  channelId < s.bufferQueue.length ∧ n ≤ (s.frames channelId).length ∧
    t.frames channelId = (s.frames channelId).drop n

variable {s t : WakeupSourceProcess} {data : List UInt8} {channelId n : Nat}

lemma Takes.unique {m : Nat} (hm : s.Takes t m channelId) (hn : s.Takes t n channelId) : m = n := by
  have hlength := congrArg length (hm.2.2.symm.trans hn.2.2)
  simp only [length_drop] at hlength
  have hle := hm.2.1
  have hle' := hn.2.1
  omega

lemma readChannels_takes {cs : List Nat} (hflag : s.readBufferPCM = false) (hnodup : cs.Nodup)
    (h : (s.readChannels data cs).1 = 0) : (∀ c ∈ cs, s.Takes (s.readChannels data cs).2.2 1 c) ∧
      ∀ c ∉ cs, (s.readChannels data cs).2.2.frames c = s.frames c := by
  induction cs generalizing s data with
  | nil => exact ⟨by simp, fun _ _ => rfl⟩
  | cons i rest ih =>
    obtain ⟨hi, hnodup⟩ := nodup_cons.1 hnodup
    by_cases hlength : s.bufferQueue.length ≤ i
    · simp [readChannels, readChannelData, hlength] at h
    cases hframes : s.frames i with
    | nil => simp [readChannels, readChannelData, hlength, hflag, hframes] at h
    | cons frame others =>
      simp only [readChannels, readChannelData, hlength, hflag, hframes, if_false, if_true,
        Bool.false_eq_true] at h ⊢
      obtain ⟨htaken, hkept⟩ := ih (s := s.popLen i 1) hflag hnodup h
      refine ⟨forall_mem_cons.2 ⟨?_, fun c hc => ?_⟩, fun c hc => ?_⟩
      · refine ⟨by omega, by simp [hframes], ?_⟩
        rw [hkept i hi, frames_popLen, if_pos rfl]
      · obtain ⟨hexists, hle, heq⟩ := htaken c hc
        have hne : i ≠ c := fun hic => hi (hic ▸ hc)
        rw [frames_popLen, if_neg hne] at hle heq
        exact ⟨length_popLen s i 1 ▸ hexists, hle, heq⟩
      · obtain ⟨hne, hc⟩ := not_or.1 fun hor => hc (mem_cons.2 hor)
        rw [hkept c hc, frames_popLen, if_neg (Ne.symm hne)]

def bufferedLen (s : WakeupSourceProcess) (channelId : Nat) : Nat :=
  min (min frameCnt (s.frames 0).length) (s.frames channelId).length

lemma readChannelData_buffered (data : List UInt8) (hflag : s.readBufferPCM)
    (hexists : channelId < s.bufferQueue.length) :
    ∃ data' t, s.readChannelData data channelId = (true, data', t) ∧ t.readBufferPCM = false ∧
      t.bufferQueue.length = s.bufferQueue.length ∧
      t.frames channelId = (s.frames channelId).drop (s.bufferedLen channelId) ∧
      ∀ c, c ≠ 0 → c ≠ channelId → t.frames c = s.frames c := by
  simp only [readChannelData, Nat.not_le.2 hexists, hflag, if_false, if_true]
  by_cases hfirst : channelId = 0
  · subst hfirst
    refine ⟨_, _, rfl, rfl, length_popLen .., ?_, fun c _ hne => ?_⟩
    · refine (frames_popLen ..).trans ((if_pos rfl).trans (drop_eq_drop_iff.2 ?_))
      simp [bufferedLen]
    · exact (frames_popLen ..).trans (if_neg hne.symm)
  simp only [readBufferedData, if_pos hfirst]
  refine ⟨_, _, rfl, rfl, (length_popLen ..).trans (length_popLen ..), ?_, fun c hzero hne => ?_⟩
  · refine (frames_popLen ..).trans ((if_pos rfl).trans ?_)
    simp only [addMultiFrame, frames_popLen, if_neg (Ne.symm hfirst)]
    refine drop_eq_drop_iff.2 ?_
    simp [bufferedLen]
  · refine (frames_popLen ..).trans ((if_neg hne.symm).trans ?_)
    exact (frames_popLen ..).trans (if_neg hzero.symm)

def Aligned (s : WakeupSourceProcess) (readChannel : BitVec 32)
    (r : Int × List UInt8 × WakeupSourceProcess) : Prop :=
  r.1 = 0 → (0 < readChannel.toInt ∧ readChannel.toInt < 2 ^ maxChannelCnt) ∧
    ∃ n, ∀ c ∈ selected readChannel, s.Takes r.2.2 n c

def Call.Aligned (s : WakeupSourceProcess) : Call → Prop
  | .read data readChannel => s.Aligned readChannel (s.read data readChannel)
  | _ => True

/-- The mask passes the check, every selected channel exists, and every one has a frame, except
that the buffered read of the first one may find none. -/
structure Ready (s : WakeupSourceProcess) (readChannel : BitVec 32) : Prop where
  mask : readChannel ≠ 0 ∧ readChannel.toInt < 2 ^ maxChannelCnt
  channels : ∀ c ∈ selected readChannel, c < s.bufferQueue.length
  frames : ∀ c ∈ (if s.readBufferPCM then (selected readChannel).tail else selected readChannel),
    s.frames c ≠ []

/-- A negative mask names a channel that is missing or empty, and a buffered read of several
channels takes one frame from the first of them. -/
def Call.Meets (s : WakeupSourceProcess) : Call → Prop
  | .read _ readChannel => (readChannel.toInt < 0 → ¬ s.Ready readChannel) ∧
      (s.readBufferPCM → s.Ready readChannel → ∀ c rest, selected readChannel = c :: rest →
        rest ≠ [] → s.bufferedLen c = 1)
  | _ => True

lemma lt_of_frames_ne_nil (h : s.frames channelId ≠ []) : channelId < s.bufferQueue.length := by
  by_contra hle
  rw [frames, getElem?_eq_none (Nat.not_lt.1 hle)] at h
  exact h rfl

lemma readChannels_eq_zero_iff {cs : List Nat} (hflag : s.readBufferPCM = false)
    (hnodup : cs.Nodup) : (s.readChannels data cs).1 = 0 ↔ ∀ c ∈ cs, s.frames c ≠ [] := by
  induction cs generalizing s data with
  | nil => simp [readChannels]
  | cons i rest ih =>
    obtain ⟨hi, hnodup⟩ := nodup_cons.1 hnodup
    cases hframes : s.frames i with
    | nil =>
      by_cases hlength : s.bufferQueue.length ≤ i <;>
        simp [readChannels, readChannelData, hlength, hflag, hframes]
    | cons frame others =>
      have hlength : ¬ s.bufferQueue.length ≤ i :=
        Nat.not_le.2 (lt_of_frames_ne_nil (by simp [hframes]))
      have hrest : ∀ c ∈ rest, ((s.popLen i 1).frames c ≠ [] ↔ s.frames c ≠ []) := by
        intro c hc
        have hne : i ≠ c := fun hic => hi (hic ▸ hc)
        rw [frames_popLen, if_neg hne]
      simp only [readChannels, readChannelData, hlength, hflag, hframes, if_false, if_true,
        Bool.false_eq_true]
      rw [ih (s := s.popLen i 1) hflag hnodup, forall_mem_cons, forall₂_congr hrest]
      simp [hframes]

lemma read_eq_zero_iff (s : WakeupSourceProcess) (data : List UInt8) (readChannel : BitVec 32) :
    (s.read data readChannel).1 = 0 ↔ s.Ready readChannel := by
  by_cases hmask : readChannel = 0 ∨ 2 ^ maxChannelCnt ≤ readChannel.toInt
  · rw [read, if_pos hmask]
    refine iff_of_false (by simp) fun hready => ?_
    rcases hmask with hzero | hle
    · exact hready.mask.1 hzero
    · exact absurd hready.mask.2 (not_lt.2 hle)
  obtain ⟨hzero, hlt⟩ := not_or.1 hmask
  rw [read, if_neg hmask]
  have hnodup : (selected readChannel).Nodup := nodup_range.filter _
  have hsorted : (selected readChannel).Pairwise (· < ·) := pairwise_lt_range.filter _
  have hready : s.Ready readChannel ↔ (∀ c ∈ selected readChannel, c < s.bufferQueue.length) ∧
      ∀ c ∈ (if s.readBufferPCM then (selected readChannel).tail else selected readChannel),
        s.frames c ≠ [] :=
    ⟨fun h => ⟨h.channels, h.frames⟩, fun h => ⟨⟨hzero, not_le.1 hlt⟩, h.1, h.2⟩⟩
  rw [hready]
  generalize selected readChannel = cs at *
  cases hflag : s.readBufferPCM with
  | false =>
    rw [readChannels_eq_zero_iff hflag hnodup]
    exact ⟨fun h => ⟨fun c hc => lt_of_frames_ne_nil (h c hc), h⟩, fun h => h.2⟩
  | true =>
    cases cs with
    | nil => simp [readChannels]
    | cons i rest =>
      obtain ⟨hi, hnodup⟩ := nodup_cons.1 hnodup
      by_cases hexists : s.bufferQueue.length ≤ i
      · refine iff_of_false (by simp [readChannels, readChannelData, hexists]) fun h => ?_
        exact absurd (h.1 i (by simp)) (Nat.not_lt.2 hexists)
      obtain ⟨data', t, hread, hcleared, -, -, hkept⟩ :=
        readChannelData_buffered data hflag (Nat.not_le.1 hexists)
      -- a later channel is not channel 0, so the buffered read left its queue alone
      have hrest : ∀ c ∈ rest, (t.frames c ≠ [] ↔ s.frames c ≠ []) := by
        intro c hc
        have hic := (pairwise_cons.1 hsorted).1 c hc
        rw [hkept c (by omega) (by omega)]
      simp only [readChannels, hread, if_true, tail_cons]
      rw [readChannels_eq_zero_iff hcleared hnodup, forall₂_congr hrest]
      refine ⟨fun h => ⟨forall_mem_cons.2 ⟨Nat.not_le.1 hexists, fun c hc => ?_⟩, h⟩,
        fun h => h.2⟩
      exact lt_of_frames_ne_nil (h c hc)

lemma read_aligned_iff (s : WakeupSourceProcess) (data : List UInt8) (readChannel : BitVec 32) :
    Call.Aligned s (.read data readChannel) ↔ Call.Meets s (.read data readChannel) := by
  have hmeets : Call.Meets s (.read data readChannel) ↔ ((s.read data readChannel).1 = 0 →
      0 ≤ readChannel.toInt ∧ (s.readBufferPCM → ∀ c rest, selected readChannel = c :: rest →
        rest ≠ [] → s.bufferedLen c = 1)) := by
    rw [read_eq_zero_iff]
    refine ⟨fun h hready => ⟨?_, fun hflag => h.2 hflag hready⟩,
      fun h => ⟨fun hneg hready => ?_, fun hflag hready => (h hready).2 hflag⟩⟩
    · exact not_lt.1 fun hneg => h.1 hneg hready
    · exact absurd (h hready).1 (not_le.2 hneg)
  rw [hmeets]
  refine forall_congr' fun h => ?_
  by_cases hmask : readChannel = 0 ∨ 2 ^ maxChannelCnt ≤ readChannel.toInt
  · rw [read, if_pos hmask] at h
    cases h
  obtain ⟨hzero, hlt⟩ := not_or.1 hmask
  simp only [read, if_neg hmask] at h ⊢
  have hpos : 0 < readChannel.toInt ∧ readChannel.toInt < 2 ^ maxChannelCnt ↔
      0 ≤ readChannel.toInt := by
    have hne : readChannel.toInt ≠ 0 := fun heq => hzero (BitVec.toInt_inj.1 heq)
    omega
  rw [hpos]
  refine and_congr_right fun _ => ?_
  have hnodup : (selected readChannel).Nodup := nodup_range.filter _
  have hsorted : (selected readChannel).Pairwise (· < ·) := pairwise_lt_range.filter _
  generalize selected readChannel = cs at *
  cases hflag : s.readBufferPCM with
  | false => exact iff_of_true ⟨1, (readChannels_takes hflag hnodup h).1⟩ fun h => (by cases h)
  | true =>
    cases cs with
    | nil => simp
    | cons i rest =>
      by_cases hexists : s.bufferQueue.length ≤ i
      · simp [readChannels, readChannelData, hexists] at h
      obtain ⟨data', t, hread, hcleared, hlength, hframes, hkept⟩ :=
        readChannelData_buffered data hflag (Nat.not_le.1 hexists)
      simp only [readChannels, hread, if_true] at h ⊢
      obtain ⟨hi, hnodup⟩ := nodup_cons.1 hnodup
      obtain ⟨htaken, hother⟩ := readChannels_takes hcleared hnodup h
      have hfirst : s.Takes (t.readChannels data' rest).2.2 (s.bufferedLen i) i :=
        ⟨Nat.not_le.1 hexists, Nat.min_le_right .., (hother i hi).trans hframes⟩
      -- a later channel is not channel 0, so the buffered read left its queue alone
      have hrest : ∀ c ∈ rest, s.Takes (t.readChannels data' rest).2.2 1 c := by
        intro c hc
        have hic := (pairwise_cons.1 hsorted).1 c hc
        obtain ⟨hc, hle, heq⟩ := htaken c hc
        rw [hkept c (by omega) (by omega)] at hle heq
        exact ⟨hlength ▸ hc, hle, heq⟩
      constructor
      · rintro ⟨n, hn⟩ - c others ⟨⟩ hne
        obtain ⟨d, hd⟩ := exists_mem_of_ne_nil _ hne
        exact (hfirst.unique (hn i (by simp))).trans ((hn d (by simp [hd])).unique (hrest d hd))
      · intro hone
        refine ⟨s.bufferedLen i, forall_mem_cons.2 ⟨hfirst, fun c hc => ?_⟩⟩
        rw [hone trivial i rest rfl (ne_nil_of_mem hc)]
        exact hrest c hc

theorem reads_aligned_iff (channelCnt : Nat) (calls : List Call) :
    Along step (fun s call _ => call.Aligned s) (init channelCnt) calls ↔
      Along step (fun s call _ => call.Meets s) (init channelCnt) calls := by
  refine along_iff (I := fun _ => True) (P := fun _ => True) ?_ trivial fun _ _ => trivial
  intro s call t _ _ _
  refine ⟨?_, fun _ => trivial⟩
  cases call with
  | read data readChannel => exact read_aligned_iff s data readChannel
  | _ => exact Iff.rfl

theorem buffered_read_misaligned :
    ∃ s t, run step (init 4) [.setReadBufferFlag true, .write [[1], [2], [3], [4]],
        .write [[5], [6], [7], [8]]] = some s ∧
      s.frames 0 = [[1], [5]] ∧ s.frames 1 = [[2], [6]] ∧
      s.read [] 3 = (0, [1, 5, 1, 5, 2], t) ∧ t.frames 0 = [] ∧ t.frames 1 = [[6]] :=
  ⟨_, _, rfl, rfl, rfl, rfl, rfl, rfl⟩

end WakeupSourceProcess
end IntellVoice.Wakeup
