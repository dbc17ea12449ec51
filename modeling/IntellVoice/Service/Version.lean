import IntellVoice.Utils.Numerals
import IntellVoice.Utils.Split

/-! `5.2.1` is saved as `050201` and compared as a number. -/

namespace IntellVoice.Service
open Utils StringUtil List

def padded (token : List Char) : List Char := if token.length = 1 then '0' :: token else token

structure Version where
  major : Digits
  minor : Digits
  patch : Digits

namespace Version

def text (v : Version) : List Char :=
  v.major.chars ++ '.' :: (v.minor.chars ++ '.' :: v.patch.chars)

def line (v : Version) (name : List Char) : List Char := name ++ 'v' :: '.' :: v.text

def Before (v w : Version) : Prop :=
  v.major.value < w.major.value ∨ v.major.value = w.major.value ∧
    (v.minor.value < w.minor.value ∨ v.minor.value = w.minor.value ∧
      v.patch.value < w.patch.value)

def Within (v : Version) (k : Nat) : Prop :=
  v.major.chars.length ≤ k ∧ v.minor.chars.length ≤ k ∧ v.patch.chars.length ≤ k

instance (v w : Version) : Decidable (v.Before w) := by unfold Before; infer_instance

instance (v : Version) (k : Nat) : Decidable (v.Within k) := by unfold Within; infer_instance

/-- A component of one digit is written with two. -/
def width (d : Digits) : Nat := max 2 d.chars.length

/-- The number that the components make when they are written one after the other. -/
def number (v : Version) : Nat :=
  v.major.value * 10 ^ (width v.minor + width v.patch) + v.minor.value * 10 ^ width v.patch +
    v.patch.value

/-- The number as an `int32_t`. -/
def narrowed (v : Version) : Int := (v.number : Int).bmod (2 ^ 32)

def FitsLong (v : Version) : Prop := (v.number : Int) < longMax

instance (v : Version) : Decidable v.FitsLong := by unfold FitsLong; infer_instance

/-- The two numbers are read and, once narrowed, in the order of the versions. -/
structure Comparable (saved cur : Version) : Prop where
  later : saved.Before cur → saved.FitsLong ∧ cur.FitsLong ∧ saved.narrowed < cur.narrowed
  notLater : ¬ saved.Before cur → saved.FitsLong → cur.FitsLong → cur.narrowed ≤ saved.narrowed

end Version

variable {name : List Char}

/-- A component as it is written into the number. -/
def paddedDigits (d : Digits) : Digits where
  chars := padded d.chars
  ne_nil := by
    unfold padded
    split
    · simp
    · exact d.ne_nil
  isDigit c hc := by
    unfold padded at hc
    split at hc
    · rcases mem_cons.1 hc with rfl | hc
      · rfl
      · exact d.isDigit c hc
    · exact d.isDigit c hc

namespace Version

def digits (v : Version) : Digits :=
  ((paddedDigits v.major).append (paddedDigits v.minor)).append (paddedDigits v.patch)

end Version

namespace Version
variable {saved cur : Version}

lemma mul_add_lt_iff {a b x y base : Nat} (hx : x < base) (hy : y < base) :
    a * base + x < b * base + y ↔ a < b ∨ a = b ∧ x < y := by
  rcases lt_trichotomy a b with h | rfl | h
  · have hmul := Nat.mul_le_mul_right base h
    rw [Nat.succ_mul] at hmul
    omega
  · omega
  · have hmul := Nat.mul_le_mul_right base h
    rw [Nat.succ_mul] at hmul
    omega

lemma mul_add_eq_iff {a b x y base : Nat} (hx : x < base) (hy : y < base) :
    a * base + x = b * base + y ↔ a = b ∧ x = y := by
  have hlt : a * base + x < b * base + y ↔ _ := mul_add_lt_iff hx hy
  have hgt : b * base + y < a * base + x ↔ _ := mul_add_lt_iff hy hx
  omega

lemma value_lt_width (d : Digits) : d.value < 10 ^ width d :=
  d.value_lt.trans_le (Nat.pow_le_pow_right (by decide) (Nat.le_max_right _ _))

lemma lt_longMax {n : Nat} (h : n < 2 ^ 31) : (n : Int) < longMax := by
  unfold longMax
  omega

lemma bmod_eq_self {n : Nat} (h : n < 2 ^ 31) : (n : Int).bmod (2 ^ 32) = n := by
  rw [Int.bmod_def]
  omega

/-- Where no number is narrowed and the components are written with as many digits, the numbers are
in the order of the versions. -/
lemma comparable_of_widths (hminor : width saved.minor = width cur.minor)
    (hpatch : width saved.patch = width cur.patch) (hsaved : saved.number < 2 ^ 31)
    (hcur : cur.number < 2 ^ 31) : saved.Comparable cur := by
  have hs : saved.narrowed = saved.number := bmod_eq_self hsaved
  have hc : cur.narrowed = cur.number := bmod_eq_self hcur
  have hnumber : ∀ v : Version, v.number =
      (v.major.value * 10 ^ width v.minor + v.minor.value) * 10 ^ width v.patch +
        v.patch.value := by
    intro v
    rw [number]
    ring
  have horder : saved.number < cur.number ↔ saved.Before cur := by
    have hsminor := hminor ▸ value_lt_width saved.minor
    have hspatch := hpatch ▸ value_lt_width saved.patch
    rw [hnumber, hnumber, hminor, hpatch, mul_add_lt_iff hspatch (value_lt_width cur.patch),
      mul_add_lt_iff hsminor (value_lt_width cur.minor),
      mul_add_eq_iff hsminor (value_lt_width cur.minor), Before]
    omega
  constructor
  · intro hbefore
    refine ⟨lt_longMax hsaved, lt_longMax hcur, ?_⟩
    rw [hs, hc]
    exact_mod_cast horder.2 hbefore
  · intro hnot _ _
    rw [hs, hc]
    exact_mod_cast not_lt.1 (mt horder.1 hnot)

lemma comparable_of_within_two (hsaved : saved.Within 2) (hcur : cur.Within 2) :
    saved.Comparable cur := by
  have hwidth : ∀ d : Digits, d.chars.length ≤ 2 → width d = 2 := fun d h => max_eq_left h
  have hsmall : ∀ v : Version, v.Within 2 → v.number < 2 ^ 31 := by
    intro v hv
    have hmajor := value_lt_width v.major
    have hminor := value_lt_width v.minor
    have hpatch := value_lt_width v.patch
    rw [hwidth _ hv.1] at hmajor
    rw [hwidth _ hv.2.1] at hminor
    rw [hwidth _ hv.2.2] at hpatch
    rw [number, hwidth _ hv.2.1, hwidth _ hv.2.2]
    omega
  refine comparable_of_widths ?_ ?_ (hsmall _ hsaved) (hsmall _ hcur)
  · rw [hwidth _ hsaved.2.1, hwidth _ hcur.2.1]
  · rw [hwidth _ hsaved.2.2, hwidth _ hcur.2.2]

end Version
end IntellVoice.Service
