import IntellVoice.Utils.StringUtil

/-! `StringUtil::Split` scans a text with a 32-bit position. -/

namespace IntellVoice.Utils.StringUtil
open List

def find (str sep : List Char) (pos : Nat) : Option Nat :=
  (range' pos (str.length + 1 - pos)).find? fun i => sep.isPrefixOf (str.drop i)

def splitLoop (str sep : List Char) : Nat → Nat → List (List Char) → Option (List (List Char))
  | 0, _, _ => none
  | fuel + 1, startPos, res =>
    match find str sep startPos with
    | some findPos =>
      let part := (str.drop startPos).take ((findPos - startPos) % 2 ^ 32)
      splitLoop str sep fuel ((findPos + sep.length) % 2 ^ 32)
        (if findPos > startPos then res ++ [part] else res)
    | none => some (if startPos < str.length then res ++ [str.drop startPos] else res)

-- the pieces between the leftmost occurrences that do not overlap
inductive Parts (sep : List Char) : List Char → List (List Char) → Prop
  | last {str : List Char} (h : ¬ sep <:+: str) : Parts sep str [str]
  | cut {part rest : List Char} {parts : List (List Char)}
    (first : ∀ i < part.length, ¬ sep <+: (part ++ (sep ++ rest)).drop i)
    (h : Parts sep rest parts) : Parts sep (part ++ (sep ++ rest)) (part :: parts)

variable {str sep : List Char} {startPos findPos : Nat}

lemma find_eq_some (h : find str sep startPos = some findPos) :
    startPos ≤ findPos ∧ findPos + sep.length ≤ str.length ∧
      (∃ rest, str.drop findPos = sep ++ rest) ∧
      ∀ i, startPos ≤ i → i < findPos → ¬ sep <+: str.drop i := by
  obtain ⟨hsep, hmem, hfirst⟩ := find?_range'_eq_some.1 h
  obtain ⟨rest, hrest⟩ := isPrefixOf_iff_prefix.1 hsep
  have hlen := congrArg length hrest
  rw [mem_range'_1] at hmem
  simp only [length_append, length_drop] at hlen
  exact ⟨hmem.1, by omega, ⟨rest, hrest.symm⟩, fun i hle hlt hfront => by
    simpa [List.isPrefixOf_iff_prefix.2 hfront] using hfirst i hle hlt⟩

lemma not_infix_of_find (hpos : startPos ≤ str.length) (h : find str sep startPos = none) :
    ¬ sep <:+: str.drop startPos := by
  rintro ⟨before, after, heq⟩
  have hlen := congrArg length heq
  simp only [length_append, length_drop] at hlen
  have hnone := find?_eq_none.1 h (startPos + before.length)
    (mem_range'_1.2 ⟨by omega, by omega⟩)
  rw [← drop_drop, ← heq, append_assoc, drop_left,
    isPrefixOf_iff_prefix] at hnone
  exact hnone (prefix_append _ _)

lemma Parts.not_infix {parts : List (List Char)} (hsep : sep ≠ []) (h : Parts sep str parts) :
    ∀ part ∈ parts, ¬ sep <:+: part := by
  induction h with
  | last h => simpa using h
  | cut first h ih =>
    refine forall_mem_cons.2 ⟨?_, ih⟩
    rintro ⟨before, after, rfl⟩
    refine first before.length ?_ ?_
    · have := length_pos_of_ne_nil hsep
      simp only [length_append]
      omega
    · simp

lemma splitLoop_eq (hstr : str.length < 2 ^ 32) (hsep : sep ≠ []) (hpos : startPos ≤ str.length) :
    ∃ parts, Parts sep (str.drop startPos) parts ∧ ∀ fuel res, str.length - startPos < fuel →
      splitLoop str sep fuel startPos res = some (res ++ parts.filter (· ≠ [])) := by
  -- each turn of the loop moves the start past a separator
  induction hleft : str.length - startPos using Nat.strong_induction_on generalizing startPos with
  | _ left ih =>
    cases hfind : find str sep startPos with
    | none =>
      refine ⟨_, .last (not_infix_of_find hpos hfind), fun fuel res hfuel => ?_⟩
      obtain ⟨fuel, rfl⟩ := Nat.exists_eq_succ_of_ne_zero (Nat.ne_zero_of_lt hfuel)
      by_cases hend : startPos < str.length <;> simp [splitLoop, hfind, hend]
    | some findPos =>
      obtain ⟨hle, hbound, ⟨rest, hrest⟩, hfirst⟩ := find_eq_some hfind
      have hlen := length_pos_of_ne_nil hsep
      obtain ⟨parts, hparts, hloop⟩ := ih _ (by omega) hbound rfl
      obtain ⟨part, hpart⟩ : ∃ part, (str.drop startPos).take (findPos - startPos) = part :=
        ⟨_, rfl⟩
      have hcut : str.drop startPos = part ++ (sep ++ rest) := by
        rw [← hpart, ← hrest, ← Nat.add_sub_of_le hle, ← drop_drop, Nat.add_sub_cancel_left,
          take_append_drop]
      have hpartLen : part.length = findPos - startPos := by
        rw [← hpart, length_take, length_drop]
        omega
      rw [← drop_drop, hrest, drop_left] at hparts
      have hmod : (findPos - startPos) % 2 ^ 32 = findPos - startPos ∧
          (findPos + sep.length) % 2 ^ 32 = findPos + sep.length := by omega
      refine ⟨part :: parts, ?_, fun fuel res hfuel => ?_⟩
      · rw [hcut]
        refine .cut (fun i hi => ?_) hparts
        rw [← hcut, drop_drop]
        exact hfirst _ (by omega) (by omega)
      · obtain ⟨fuel, rfl⟩ := Nat.exists_eq_succ_of_ne_zero (Nat.ne_zero_of_lt hfuel)
        rw [splitLoop, hfind]
        dsimp only
        rw [hmod.1, hmod.2, hpart, hloop _ _ (by omega)]
        by_cases hgt : findPos > startPos
        · have hne : part ≠ [] := by
            rw [← length_pos_iff_ne_nil]
            omega
          simp [hgt, hne]
        · have hnil : part = [] := length_eq_zero_iff.1 (by omega)
          simp [hgt, hnil]

def pushPiece (piece : List Char) (rest : List (List Char)) : List (List Char) :=
  if piece = [] then rest else piece :: rest

/-- What the scan leaves of a text, for a separator of any length: `skip` counts the characters of
a separator that are still to be passed over. -/
def splitText (sep : List Char) : Nat → List Char → List Char → List (List Char)
  | _, piece, [] => pushPiece piece []
  | skip + 1, piece, _ :: rest => splitText sep skip piece rest
  | 0, piece, c :: rest =>
    if sep.isPrefixOf (c :: rest) then pushPiece piece (splitText sep (sep.length - 1) [] rest)
    else splitText sep 0 (piece ++ [c]) rest

lemma splitText_skip (sep piece passed rest : List Char) :
    splitText sep passed.length piece (passed ++ rest) = splitText sep 0 piece rest := by
  induction passed with
  | nil => rfl
  | cons c passed ih => exact ih

lemma splitText_last (h : ¬ sep <:+: str) (piece : List Char) :
    splitText sep 0 piece str = pushPiece (piece ++ str) [] := by
  induction str generalizing piece with
  | nil => simp [splitText]
  | cons c str ih =>
    have hfront : sep.isPrefixOf (c :: str) = false := by
      rw [Bool.eq_false_iff, ne_eq, isPrefixOf_iff_prefix]
      exact fun hfront => h hfront.isInfix
    rw [splitText, hfront, if_neg Bool.false_ne_true, ih fun hin => h (hin.trans
      (suffix_cons c str).isInfix)]
    simp

lemma splitText_cut (hsep : sep ≠ []) {part rest : List Char}
    (first : ∀ i < part.length, ¬ sep <+: (part ++ (sep ++ rest)).drop i) (piece : List Char) :
    splitText sep 0 piece (part ++ (sep ++ rest)) =
      pushPiece (piece ++ part) (splitText sep 0 [] rest) := by
  induction part generalizing piece with
  | nil =>
    obtain ⟨c, more, rfl⟩ := exists_cons_of_ne_nil hsep
    have hfront : (c :: more).isPrefixOf (c :: (more ++ rest)) :=
      isPrefixOf_iff_prefix.2 (prefix_append (c :: more) rest)
    rw [nil_append, cons_append, splitText, if_pos hfront, append_nil]
    exact congrArg (pushPiece piece) (splitText_skip (c :: more) [] more rest)
  | cons c part ih =>
    have hfront : sep.isPrefixOf (c :: (part ++ (sep ++ rest))) = false := by
      rw [Bool.eq_false_iff, ne_eq, isPrefixOf_iff_prefix]
      exact first 0 (by simp)
    rw [cons_append, splitText, hfront, if_neg Bool.false_ne_true,
      ih fun i hi => first (i + 1) (by simpa using hi)]
    simp

lemma Parts.splitText_eq {parts : List (List Char)} (hsep : sep ≠ []) (h : Parts sep str parts) :
    splitText sep 0 [] str = parts.filter (· ≠ []) := by
  induction h with
  | @last str hlast =>
    rw [splitText_last hlast, nil_append]
    by_cases hstr : str = [] <;> simp [pushPiece, hstr]
  | @cut part rest parts first _ ih =>
    rw [splitText_cut hsep first, ih, nil_append]
    by_cases hpart : part = [] <;> simp [pushPiece, hpart]

lemma splitFrom_eq_splitText (sep : Char) (piece str : List Char) :
    splitFrom sep piece str = splitText [sep] 0 piece str := by
  induction str generalizing piece with
  | nil => rfl
  | cons c str ih =>
    rw [splitFrom, splitText]
    by_cases hc : c = sep
    · simp [hc, ih, pushPiece]
    · simp [hc, ih, Ne.symm hc]

-- for a separator of one character the scan is `split`
lemma Parts.split_eq {sep : Char} {parts : List (List Char)} (h : Parts [sep] str parts) :
    split str sep = parts.filter (· ≠ []) := by
  rw [split, splitFrom_eq_splitText]
  exact h.splitText_eq (cons_ne_nil _ _)

theorem split_law (str sep : List Char) (hstr : str.length < 2 ^ 32) (hsep : sep ≠ []) :
    ∃ parts, Parts sep str parts ∧ (∀ part ∈ parts, ¬ sep <:+: part) ∧
      ∀ fuel > str.length, splitLoop str sep fuel 0 [] = some (parts.filter (· ≠ [])) := by
  obtain ⟨parts, hparts, hloop⟩ := splitLoop_eq hstr hsep (Nat.zero_le _)
  exact ⟨parts, hparts, Parts.not_infix hsep hparts, fun fuel hfuel => hloop fuel [] hfuel⟩

theorem split_law_overlapping :
    ∃ parts, Parts ['#', '#'] ['a', '#', '#', '#', 'b'] parts ∧
      (∀ part ∈ parts, ¬ ['#', '#'] <:+: part) ∧
      ∀ fuel > 5, splitLoop ['a', '#', '#', '#', 'b'] ['#', '#'] fuel 0 [] =
        some (parts.filter (· ≠ [])) :=
  split_law ['a', '#', '#', '#', 'b'] ['#', '#'] (by decide) (by decide)

end IntellVoice.Utils.StringUtil
