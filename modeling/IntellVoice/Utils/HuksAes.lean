import Mathlib.Data.Vector.Basic
import IntellVoice.Library.Tiling

/-! `HuksAesAdapter` encrypts a buffer with AES-GCM under a key that stays in HUKS. -/

namespace IntellVoice.Utils.HuksAes

abbrev Bytes := List UInt8

def maxUpdateSize : Nat := 64 * 1024
def maxOutdataSize : Nat := 128 * 1024
def nonceSize : Nat := 12
def aeadSize : Nat := 16

structure Huks (κ ς : Type) where
  initEncrypt : κ → (nonce : Bytes) → Option ς
  initDecrypt : κ → (nonce aead : Bytes) → Option ς
  update : ς → (inData : Bytes) → (room : Nat) → Option (ς × Bytes)
  finish : ς → (inData : Bytes) → (room : Nat) → Option Bytes

section
variable {κ ς : Type}

structure UpdateState (ς : Type) where
  session : ς
  inUpdateSize : Nat := 0
  outDataSegSize : Nat := maxOutdataSize
  out : Bytes := []
  outUpdateSize : Nat := 0

def segment (inData : Bytes) (offset size : Nat) : Bytes := (inData.drop offset).take size

structure EncryptAnswers (κ : Type) where
  existParamSet : Bool
  generatedKey : Option κ
  nonce : Option (Vector UInt8 nonceSize)
  encryptParamSet : Bool

structure DecryptAnswers where
  existParamSet : Bool
  decryptParamSet : Bool

inductive Streamed (huks : Huks κ ς) (s₀ : ς) : ς → Bytes → Bytes → Prop where
  | start : Streamed huks s₀ s₀ [] []
  | update {s s' : ς} {inData out seg bytes : Bytes} {room : Nat}
      (h : Streamed huks s₀ s inData out) (hroom : seg.length ≤ room)
      (hupdate : huks.update s seg room = some (s', bytes)) :
      Streamed huks s₀ s' (inData ++ seg) (out ++ bytes)

def Encrypted (huks : Huks κ ς) (key : κ) (nonce plain cipher tag : Bytes) : Prop :=
  ∃ (s₀ s : ς) (inData out last bytes : Bytes) (room : Nat),
    huks.initEncrypt key nonce = some s₀ ∧ Streamed huks s₀ s inData out ∧
      last.length + aeadSize ≤ room ∧ huks.finish s last room = some bytes ∧
      plain = inData ++ last ∧ cipher = out ++ bytes.take last.length ∧
      tag = bytes.drop last.length

structure AesGcm (huks : Huks κ ς) : Prop where
  length_update : ∀ {s s' : ς} {seg bytes : Bytes} {room : Nat}, seg.length ≤ room →
    huks.update s seg room = some (s', bytes) → bytes.length = seg.length
  length_finish : ∀ {key : κ} {nonce : Bytes} {s₀ s : ς} {inData out last bytes : Bytes}
    {room : Nat}, huks.initEncrypt key nonce = some s₀ → Streamed huks s₀ s inData out →
    last.length + aeadSize ≤ room → huks.finish s last room = some bytes →
    bytes.length = last.length + aeadSize
  inverts : ∀ {key : κ} {nonce plain cipher tag : Bytes},
    Encrypted huks key nonce plain cipher tag →
    ∀ {s₀ s : ς} {inData out last bytes : Bytes} {room : Nat},
    huks.initDecrypt key nonce tag = some s₀ → Streamed huks s₀ s inData out →
    last.length ≤ room → huks.finish s last room = some bytes → inData ++ last = cipher →
    out ++ bytes = plain

structure Succeeds (huks : Huks κ ς) : Prop where
  initEncrypt : ∀ key nonce, (huks.initEncrypt key nonce).isSome
  initDecrypt : ∀ key nonce aead, (huks.initDecrypt key nonce aead).isSome
  update : ∀ s seg room, seg.length ≤ room → (huks.update s seg room).isSome
  finishEncrypt : ∀ {key : κ} {nonce : Bytes} {s₀ s : ς} {inData out last : Bytes} {room : Nat},
    huks.initEncrypt key nonce = some s₀ → Streamed huks s₀ s inData out →
    last.length + aeadSize ≤ room → (huks.finish s last room).isSome
  finishDecrypt : ∀ {key : κ} {nonce plain cipher tag : Bytes},
    Encrypted huks key nonce plain cipher tag →
    ∀ {s₀ s : ς} {inData out last : Bytes} {room : Nat},
    huks.initDecrypt key nonce tag = some s₀ → Streamed huks s₀ s inData out →
    last.length ≤ room → inData ++ last = cipher → (huks.finish s last room).isSome

def EncryptAnswers.Succeeds (a : EncryptAnswers κ) (key : Option κ) : Prop :=
  a.existParamSet ∧ (key.or a.generatedKey).isSome ∧ a.nonce.isSome ∧ a.encryptParamSet

def DecryptAnswers.Succeeds (a : DecryptAnswers) : Prop := a.existParamSet ∧ a.decryptParamSet

variable {huks : Huks κ ς} {inData : Bytes} {outDataSize : Nat}

variable {cipher nonce plain tag : Bytes} {st : UpdateState ς} {key : κ} {s₀ : ς}

lemma Streamed.length_eq (hgcm : AesGcm huks) {s : ς} {inData out : Bytes}
    (h : Streamed huks s₀ s inData out) : out.length = inData.length := by
  induction h with
  | start => rfl
  | update h hroom hupdate ih =>
    rw [List.length_append, List.length_append, ih, hgcm.length_update hroom hupdate]

lemma Encrypted.length_eq (hgcm : AesGcm huks) (h : Encrypted huks key nonce plain cipher tag) :
    cipher.length = plain.length ∧ tag.length = aeadSize := by
  obtain ⟨s₀, s, inData, out, last, bytes, room, hinit, hstream, hroom, hfinish, rfl, rfl, rfl⟩ := h
  have hbytes := hgcm.length_finish hinit hstream hroom hfinish
  rw [List.length_append, List.length_append, List.length_take, List.length_drop,
    hstream.length_eq hgcm, hbytes]
  omega

structure Looping (huks : Huks κ ς) (s₀ : ς) (inData : Bytes) (st : UpdateState ς) : Prop where
  streamed : Streamed huks s₀ st.session (inData.take st.inUpdateSize) st.out
  outUpdateSize_eq : st.outUpdateSize = st.inUpdateSize
  lt : st.inUpdateSize < inData.length
  room : maxUpdateSize ≤ st.outDataSegSize

lemma length_segment {offset size : Nat} (h : offset + size ≤ inData.length) :
    (segment inData offset size).length = size := by
  rw [segment, List.length_take, List.length_drop]
  omega

lemma Looping.update (hgcm : AesGcm huks) (h : Looping huks s₀ inData st)
    (hnext : st.inUpdateSize + maxUpdateSize < inData.length) {session : ς} {bytes : Bytes}
    (hupdate : huks.update st.session
      (segment inData st.inUpdateSize maxUpdateSize) st.outDataSegSize = some (session, bytes)) :
    st.outUpdateSize + bytes.length = st.inUpdateSize + maxUpdateSize ∧ Looping huks s₀ inData
        ⟨session, st.inUpdateSize + maxUpdateSize, bytes.length, st.out ++ bytes,
          st.outUpdateSize + bytes.length⟩ := by
  have hseg := length_segment (Nat.le_of_lt hnext)
  have hroom : (segment inData st.inUpdateSize maxUpdateSize).length ≤ st.outDataSegSize := by
    rw [hseg]
    exact h.room
  have hbytes : bytes.length = maxUpdateSize := (hgcm.length_update hroom hupdate).trans hseg
  have hsize : st.outUpdateSize + bytes.length = st.inUpdateSize + maxUpdateSize := by
    rw [h.outUpdateSize_eq, hbytes]
  refine ⟨hsize, ?_, hsize, hnext, hbytes.ge⟩
  have htake : inData.take (st.inUpdateSize + maxUpdateSize) =
      inData.take st.inUpdateSize ++ segment inData st.inUpdateSize maxUpdateSize := List.take_add
  dsimp only
  rw [htake]
  exact h.streamed.update hroom hupdate

end

end IntellVoice.Utils.HuksAes
