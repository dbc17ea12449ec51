import Mathlib
/-! `DeinterleaveAudioData` cuts interleaved samples into bytes for each channel. -/

namespace IntellVoice.Utils
open List

abbrev Sample := BitVec 16

def sampleBytes (x : Sample) : List (BitVec 8) := [x.extractLsb' 0 8, x.extractLsb' 8 8]

def readChannel (buffer : List Sample) (channelCnt channelLen i : Nat) :
    Option (List (BitVec 8)) := do
  -- the index is an unsigned int
  let channelData ← (range channelLen).mapM fun j => buffer[(i + j * channelCnt) % 2 ^ 32]?
  return channelData.flatMap sampleBytes

def deinterleaveAudioData (buffer : List Sample) (channelCnt : BitVec 32)
    (audioData : List (List (BitVec 8))) : Option (Bool × List (List (BitVec 8))) :=
  if channelCnt = 0 then some (false, audioData)
  else do
    -- the division is unsigned, the outer loop's bound is signed
    let channelLen := buffer.length / channelCnt.toNat
    let items ← (range channelCnt.toInt.toNat).mapM
      (readChannel buffer channelCnt.toNat channelLen)
    return (true, audioData ++ items)

def interleave (channelLen : Nat) (items : List (List (BitVec 8))) : List (BitVec 8) :=
  (range channelLen).flatMap fun j => items.flatMap fun item => (item.drop (2 * j)).take 2

lemma mapM_eq_some {α β : Type} {f : α → Option β} {g : α → β} {l : List α}
    (h : ∀ x ∈ l, f x = some (g x)) : l.mapM f = some (l.map g) := by
  induction l with
  | nil => rfl
  | cons x l ih => simp [h x (by simp), ih fun y hy => h y (by simp [hy])]

lemma sampleBytes_at (xs : List Sample) (j : Nat) (h : j < xs.length) :
    ((xs.flatMap sampleBytes).drop (2 * j)).take 2 = sampleBytes xs[j] := by
  induction xs generalizing j with
  | nil => simp at h
  | cons x xs ih =>
    cases j with
    | zero => simp [sampleBytes]
    | succ j => simpa [sampleBytes, Nat.mul_succ] using ih j (by simpa using h)

lemma take_eq_rows (buffer : List Sample) (c n : Nat) (h : c * n ≤ buffer.length) :
    buffer.take (c * n) =
      (range n).flatMap fun j => (range c).map fun i => buffer.getD (i + j * c) 0 := by
  induction n with
  | zero => simp
  | succ n ih =>
    rw [Nat.mul_succ] at h
    rw [Nat.mul_succ, take_add, ih (by omega), range_succ, flatMap_append]
    congr 1
    refine ext_getElem (by simp; omega) fun i hi _ => ?_
    simp only [length_take, length_drop] at hi
    have hlt : i + n * c < buffer.length := by rw [Nat.mul_comm]; omega
    simp [getD_eq_getElem?_getD, Nat.mul_comm c n, Nat.add_comm (n * c), hlt]

lemma readChannel_eq {buffer : List Sample} (hsize : buffer.length < 2 ^ 32) {c n i : Nat}
    (hle : c * n ≤ buffer.length) (hi : i < c) :
    readChannel buffer c n i = some (((range n).map fun j =>
      buffer.getD (i + j * c) 0).flatMap sampleBytes) := by
  unfold readChannel
  rw [mapM_eq_some (g := fun j => buffer.getD (i + j * c) 0)]
  · rfl
  · intro j hj
    have hrow : c * j + c ≤ c * n := Nat.mul_le_mul_left c (mem_range.1 hj)
    have hlt : i + j * c < buffer.length := by rw [Nat.mul_comm j]; omega
    rw [Nat.mod_eq_of_lt (hlt.trans hsize)]
    simp [getD_eq_getElem?_getD, hlt]

theorem deinterleaveAudioData_lossless (buffer : List Sample) (hsize : buffer.length < 2 ^ 32)
    (channelCnt : BitVec 32) (hpos : 0 < channelCnt.toInt) (audioData : List (List (BitVec 8))) :
    ∃ items, deinterleaveAudioData buffer channelCnt audioData = some (true, audioData ++ items) ∧
      items.length = channelCnt.toNat ∧
      (∀ item ∈ items, item.length = 2 * (buffer.length / channelCnt.toNat)) ∧
      interleave (buffer.length / channelCnt.toNat) items =
        (buffer.take (channelCnt.toNat * (buffer.length / channelCnt.toNat))).flatMap
          sampleBytes := by
  have hzero : channelCnt ≠ 0 := by
    rintro rfl
    simp at hpos
  have hcnt : channelCnt.toInt.toNat = channelCnt.toNat := by
    rw [BitVec.toInt_eq_toNat_cond] at hpos ⊢
    split at hpos <;> omega
  have hle := Nat.mul_div_le buffer.length channelCnt.toNat
  rw [deinterleaveAudioData, if_neg hzero, hcnt]
  generalize channelCnt.toNat = c, buffer.length / channelCnt.toNat = n at *
  dsimp only
  rw [mapM_eq_some fun i hi => readChannel_eq hsize hle (mem_range.1 hi)]
  refine ⟨_, rfl, by simp, by simp [sampleBytes, Function.comp_def, Nat.mul_comm], ?_⟩
  rw [take_eq_rows buffer c n hle, interleave, flatMap_assoc]
  refine flatMap_congr fun j hj => ?_
  rw [flatMap_map, flatMap_map]
  refine flatMap_congr fun i _ => ?_
  rw [sampleBytes_at _ j (by simpa using hj)]
  simp

theorem deinterleaveAudioData_lossless_two :
    ∃ items, deinterleaveAudioData [1, 2, 3, 4, 5] 2 [] = some (true, [] ++ items) ∧
      items.length = 2 ∧ (∀ item ∈ items, item.length = 2 * (5 / 2)) ∧
      interleave (5 / 2) items = ([1, 2, 3, 4, 5].take (2 * (5 / 2))).flatMap sampleBytes :=
  deinterleaveAudioData_lossless [1, 2, 3, 4, 5] (by decide) 2 (by decide) []

end IntellVoice.Utils
