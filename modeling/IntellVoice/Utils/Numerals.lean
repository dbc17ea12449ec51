import IntellVoice.Utils.StringUtil

/-! Decimal texts, as `std::stoi` and `StringUtil::StringToInt` read them. -/

namespace IntellVoice.Utils
open List StringUtil

/-- A text of decimal digits, leading zeros allowed. -/
structure Digits where
  chars : List Char
  ne_nil : chars ≠ []
  isDigit : ∀ c ∈ chars, c.isDigit

def Digits.value (digits : Digits) : Nat :=
  digits.chars.foldl (fun acc c => 10 * acc + (c.toNat - '0'.toNat)) 0

lemma foldl_cast (cs : List Char) (acc : Nat) :
    cs.foldl (fun (acc : Int) c => 10 * acc + (c.toNat - '0'.toNat : Nat)) acc =
      (cs.foldl (fun acc c => 10 * acc + (c.toNat - '0'.toNat)) acc : Nat) := by
  induction cs generalizing acc with
  | nil => rfl
  | cons c cs ih => exact ih (10 * acc + (c.toNat - '0'.toNat))

def Digits.ofNat (n : Nat) : Digits where
  chars := Nat.toDigits 10 n
  ne_nil := Nat.toDigits_ne_nil
  isDigit _ hc := Nat.isDigit_of_mem_toDigits (by decide) (by decide) hc

lemma Digits.value_ofNat (n : Nat) : (Digits.ofNat n).value = n := by
  have h := Nat.ofDigitChars_toDigits (b := 10) (n := n) (by decide) (by decide)
  rw [Nat.ofDigitChars_eq_foldl] at h
  exact h

def int32Min : Int := -2147483648
def int32Max : Int := 2147483647

namespace Digits

def append (d e : Digits) : Digits where
  chars := d.chars ++ e.chars
  ne_nil := by simp [d.ne_nil]
  isDigit c hc := (mem_append.1 hc).elim (d.isDigit c) (e.isDigit c)

lemma foldl_add (cs : List Char) (acc : Nat) :
    cs.foldl (fun acc c => 10 * acc + (c.toNat - '0'.toNat)) acc =
      acc * 10 ^ cs.length + cs.foldl (fun acc c => 10 * acc + (c.toNat - '0'.toNat)) 0 := by
  induction cs generalizing acc with
  | nil => simp
  | cons c cs ih =>
    rw [foldl_cons, ih, foldl_cons, ih (10 * 0 + _), length_cons]
    ring

lemma value_lt (d : Digits) : d.value < 10 ^ d.chars.length := by
  have hdigits : ∀ cs : List Char, (∀ c ∈ cs, c.isDigit) →
      cs.foldl (fun acc c => 10 * acc + (c.toNat - '0'.toNat)) 0 < 10 ^ cs.length := by
    intro cs
    induction cs with
    | nil => simp
    | cons c cs ih =>
      intro h
      obtain ⟨hc, hcs⟩ := forall_mem_cons.1 h
      have hlast := ih hcs
      simp only [Char.isDigit, Bool.and_eq_true, decide_eq_true_eq] at hc
      have hle : c.toNat - '0'.toNat ≤ 9 := by
        have hnine : c.toNat ≤ 57 := hc.2
        have hzero : '0'.toNat = 48 := rfl
        omega
      rw [foldl_cons, foldl_add, Nat.mul_zero, Nat.zero_add, length_cons, pow_succ]
      have hmul := Nat.mul_le_mul_right (10 ^ cs.length) hle
      omega
  exact hdigits d.chars d.isDigit

lemma exists_cons (d : Digits) : ∃ c cs, d.chars = c :: cs ∧ isBlank c = false ∧
    c ≠ '-' ∧ c ≠ '+' := by
  obtain ⟨c, cs, hchars⟩ := exists_cons_of_ne_nil d.ne_nil
  have hc : c.isDigit := d.isDigit c (hchars ▸ mem_cons_self)
  refine ⟨c, cs, hchars, ?_, ?_, ?_⟩
  · by_contra hblank
    simp only [StringUtil.isBlank, Bool.not_eq_false, contains_iff_mem] at hblank
    fin_cases hblank <;> simp at hc
  · rintro rfl
    simp at hc
  · rintro rfl
    simp at hc

lemma dropWhile_chars (d : Digits) : d.chars.dropWhile isBlank = d.chars := by
  obtain ⟨c, cs, hchars, hblank, -⟩ := d.exists_cons
  rw [hchars, dropWhile_cons_of_neg (by simp [hblank])]

end Digits

/-- `std::stoi`: `none` where it throws. -/
def stoi (s : String) : Option Int :=
  let body := s.toList.dropWhile isBlank
  let (negative, rest) :=
    match body with
    | '-' :: rest => (true, rest)
    | '+' :: rest => (false, rest)
    | rest => (false, rest)
  let digits := rest.takeWhile Char.isDigit
  if digits.isEmpty then none
  else
    let magnitude : Int := digits.foldl (fun acc c => 10 * acc + (c.toNat - '0'.toNat : Nat)) 0
    let value := if negative then -magnitude else magnitude
    if int32Min ≤ value ∧ value ≤ int32Max then some value else none

def longMax : Int := 2 ^ 63 - 1
def longMin : Int := -2 ^ 63

/-- `StringUtil::StringToInt`: the value is read as a `long` and narrowed. -/
def stringToInt (str : String) : Option Int :=
  -- a C string ends at its first NUL
  let body := (str.toList.takeWhile (· ≠ '\x00')).dropWhile isBlank
  let (negative, rest) :=
    match body with
    | '-' :: rest => (true, rest)
    | '+' :: rest => (false, rest)
    | rest => (false, rest)
  let digits := rest.takeWhile Char.isDigit
  let magnitude : Int := digits.foldl (fun acc c => 10 * acc + (c.toNat - '0'.toNat : Nat)) 0
  let conVal := if negative then -magnitude else magnitude
  if conVal ≥ longMax ∨ conVal ≤ longMin ∨ digits.isEmpty ∨ digits.length ≠ rest.length then none
  else some (conVal.bmod (2 ^ 32))

def unsign : List Char → Bool × List Char
  | '-' :: rest => (true, rest)
  | '+' :: rest => (false, rest)
  | rest => (false, rest)

def decimal (digits : List Char) : Int :=
  digits.foldl (fun acc c => 10 * acc + (c.toNat - '0'.toNat : Nat)) 0

def Numeral (str : List Char) (n : Int) : Prop :=
  let (negative, digits) := unsign (str.dropWhile isBlank)
  digits ≠ [] ∧ (∀ c ∈ digits, c.isDigit) ∧ n = if negative then -decimal digits else decimal digits

def FitsInt32 (n : Int) : Prop := -2 ^ 31 ≤ n ∧ n < 2 ^ 31

def InLong (n : Int) : Prop := longMin < n ∧ n < longMax

def cStr (str : String) : List Char := str.toList.takeWhile (· ≠ '\x00')

lemma stringToInt_eq_some {str : String} {v : Int} : stringToInt str = some v ↔
    ∃ n, Numeral (cStr str) n ∧ InLong n ∧ v = n.bmod (2 ^ 32) := by
  have heq : stringToInt str =
      let (negative, rest) := unsign ((cStr str).dropWhile isBlank)
      let digits := rest.takeWhile Char.isDigit
      let conVal := if negative then -decimal digits else decimal digits
      if conVal ≥ longMax ∨ conVal ≤ longMin ∨ digits.isEmpty ∨
        digits.length ≠ rest.length then none
      else some (conVal.bmod (2 ^ 32)) := rfl
  rw [heq]
  unfold Numeral
  obtain ⟨negative, rest⟩ := unsign ((cStr str).dropWhile isBlank)
  dsimp only
  by_cases hdigit : ∀ c ∈ rest, c.isDigit
  · rw [takeWhile_eq_self_iff.2 hdigit]
    simp only [Option.ite_none_left_eq_some, InLong]
    grind
  · have hlen : (rest.takeWhile Char.isDigit).length ≠ rest.length := fun hlen =>
      hdigit (takeWhile_eq_self_iff.1 ((List.takeWhile_prefix _).eq_of_length hlen))
    simp [hlen, hdigit]

lemma mem_unsign {c : Char} {body : List Char} (h : c ∈ body) (hminus : c ≠ '-') (hplus : c ≠ '+') :
    c ∈ (unsign body).2 := by
  unfold unsign
  split <;> simp_all

lemma Numeral.nul_notMem {str : List Char} {n : Int} (h : Numeral str n) : '\x00' ∉ str := by
  intro hmem
  have hbody := mem_dropWhile_of_mem (p := isBlank) hmem (by decide)
  have hdigit := h.2.1 _ (mem_unsign hbody (by decide) (by decide))
  simp at hdigit

lemma cStr_eq {str : String} (h : '\x00' ∉ str.toList) : cStr str = str.toList :=
  takeWhile_eq_self_iff.2 fun c hc => by
    simpa using fun heq : c = '\x00' => h (heq ▸ hc)

lemma FitsInt32.bmod_eq {n : Int} (h : FitsInt32 n) : n.bmod (2 ^ 32) = n := by
  unfold FitsInt32 at h
  rw [Int.bmod_def]
  omega

lemma Digits.unsign_chars (d : Digits) : unsign d.chars = (false, d.chars) := by
  obtain ⟨c, cs, hchars, -, hminus, hplus⟩ := d.exists_cons
  rw [hchars]
  unfold unsign
  split <;> simp_all

lemma Digits.numeral_iff (d : Digits) {n : Int} : Numeral d.chars n ↔ n = d.value := by
  have hvalue : decimal d.chars = d.value := foldl_cast d.chars 0
  rw [Numeral, d.dropWhile_chars, d.unsign_chars]
  simp only [Bool.false_eq_true, if_false, hvalue]
  exact ⟨fun h => h.2.2, fun h => ⟨d.ne_nil, d.isDigit, h⟩⟩

lemma Digits.stringToInt_eq_some (d : Digits) {v : Int} :
    stringToInt (String.ofList d.chars) = some v ↔
      (d.value : Int) < longMax ∧ v = (d.value : Int).bmod (2 ^ 32) := by
  have hnul : '\x00' ∉ (String.ofList d.chars).toList := by
    rw [String.toList_ofList]
    exact fun hmem => by simpa using d.isDigit _ hmem
  have hlong : longMin < (d.value : Int) := by
    unfold longMin
    omega
  rw [Utils.stringToInt_eq_some, cStr_eq hnul, String.toList_ofList]
  simp only [d.numeral_iff, exists_eq_left, InLong, hlong, true_and]

theorem stringToInt_exact_iff (str : String) :
    (∀ v, stringToInt str = some v ↔ Numeral str.toList v ∧ FitsInt32 v) ↔
      ∀ n, Numeral (cStr str) n → InLong n → '\x00' ∉ str.toList ∧ FitsInt32 n := by
  simp only [stringToInt_eq_some]
  constructor
  · intro h n hn hlong
    obtain ⟨hnum, hfits⟩ := (h _).1 ⟨n, hn, hlong, rfl⟩
    refine ⟨hnum.nul_notMem, ?_⟩
    rw [cStr_eq hnum.nul_notMem] at hn
    -- a text has one value: the narrowed one is it
    have hvalue : n.bmod (2 ^ 32) = n := hnum.2.2.trans hn.2.2.symm
    rwa [hvalue] at hfits
  · intro h v
    constructor
    · rintro ⟨n, hn, hlong, rfl⟩
      obtain ⟨hnul, hfits⟩ := h n hn hlong
      rw [hfits.bmod_eq]
      exact ⟨cStr_eq hnul ▸ hn, hfits⟩
    · rintro ⟨hnum, hfits⟩
      refine ⟨v, (cStr_eq hnum.nul_notMem).symm ▸ hnum, ?_, hfits.bmod_eq.symm⟩
      unfold FitsInt32 at hfits
      unfold InLong longMin longMax
      omega

theorem stringToInt_narrows :
    stringToInt "2147483648" = some (-2147483648) ∧ Numeral "2147483648".toList 2147483648 := by
  refine ⟨by decide +kernel, ?_⟩
  exact ⟨by decide, all_eq_true.1 (by decide +kernel), by decide +kernel⟩

end IntellVoice.Utils
