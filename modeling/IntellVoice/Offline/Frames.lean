import Mathlib.Data.List.Forall2
import IntellVoice.Utils.Numerals

/-! The fourth source file says where the words of each sentence are. -/

namespace IntellVoice.Offline
open Utils List StringUtil

inductive FrameKey where
  | beginFrameNo
  | endFrameNo
  | cmdBeginFrame
  | cmdEndFrame
deriving DecidableEq

def FrameKey.all : List FrameKey := [.beginFrameNo, .endFrameNo, .cmdBeginFrame, .cmdEndFrame]

def FrameKey.name : FrameKey → List Char
  | .beginFrameNo => "beginFrameNo".toList
  | .endFrameNo => "endFrameNo".toList
  | .cmdBeginFrame => "cmdBeginFrame".toList
  | .cmdEndFrame => "cmdEndFrame".toList

structure FrameEntry where
  key : FrameKey
  digits : Digits

def matchKey (s : List Char) : Option (FrameKey × List Char) :=
  FrameKey.all.findSome? fun key =>
    if key.name <+: s then some (key, s.drop key.name.length) else none

def matchDigits (s : List Char) : Option (Digits × List Char) :=
  if h : s.takeWhile Char.isDigit = [] then none
  else
    some (⟨s.takeWhile Char.isDigit, h, fun _ hc => mem_takeWhile_imp hc⟩,
      s.dropWhile Char.isDigit)

def matchEntry (s : List Char) : Option (FrameEntry × List Char) :=
  match matchKey s with
  | none => none
  | some (key, afterKey) =>
    match afterKey.dropWhile isBlank with
    | ':' :: afterColon =>
      (matchDigits (afterColon.dropWhile isBlank)).map fun r => (⟨key, r.1⟩, r.2)
    | _ => none

def lineEntries : Nat → List Char → List FrameEntry
  | 0, _ => []
  | _ + 1, [] => []
  | fuel + 1, c :: s =>
    match matchEntry (c :: s) with
    | some (entry, rest) => entry :: lineEntries fuel rest
    | none => lineEntries fuel s

def textOf (buffer4 : List UInt8) : List Char := buffer4.map fun b => Char.ofNat b.toNat

def fileEntries (text : List Char) : List FrameEntry :=
  (text.splitOn '\n').flatMap fun line =>
    if line.isEmpty then [] else lineEntries line.length line

def parseFrameNumbers (buffer4 : List UInt8) : List Int :=
  (fileEntries (textOf buffer4)).filterMap fun entry =>
    stoi (String.ofList entry.digits.chars)

variable {s rest : List Char}

variable {c : Char} {entry : FrameEntry} {key key' : FrameKey} {buffer4 : List UInt8} {m : Nat}

lemma matchKey_eq_some (h : matchKey s = some (key, rest)) : s = key.name ++ rest := by
  obtain ⟨key', -, hkey⟩ := exists_of_findSome?_eq_some h
  by_cases hp : key'.name <+: s
  · rw [if_pos hp] at hkey
    obtain ⟨rfl, rfl⟩ := Prod.mk.inj (Option.some.inj hkey)
    exact (prefix_append_drop hp)
  · rw [if_neg hp] at hkey
    exact absurd hkey nofun

lemma length_matchDigits {digits : Digits} (h : matchDigits s = some (digits, rest)) :
    rest.length ≤ s.length := by
  unfold matchDigits at h
  split at h
  · exact absurd h nofun
  · obtain ⟨-, rfl⟩ := Prod.mk.inj (Option.some.inj h)
    exact (dropWhile_sublist _).length_le

lemma length_matchEntry (h : matchEntry s = some (entry, rest)) : rest.length < s.length := by
  unfold matchEntry at h
  split at h
  · exact absurd h nofun
  rename_i key afterKey hkey
  split at h
  · rename_i afterColon hcolon
    obtain ⟨r, hdigits, hr⟩ := Option.map_eq_some_iff.1 h
    obtain ⟨-, rfl⟩ := Prod.mk.inj hr
    have hend := length_matchDigits hdigits
    have hblank : (afterColon.dropWhile isBlank).length ≤ afterColon.length :=
      (dropWhile_sublist _).length_le
    have hafter : (':' :: afterColon).length ≤ afterKey.length := by
      rw [← hcolon]
      exact (dropWhile_sublist _).length_le
    rw [matchKey_eq_some hkey, length_append]
    rw [length_cons] at hafter
    omega
  · exact absurd h nofun

lemma lineEntries_of_le {fuel : Nat} (h : s.length ≤ fuel) :
    lineEntries fuel s = lineEntries s.length s := by
  induction fuel using Nat.strongRecOn generalizing s with
  | ind fuel ih =>
    cases s with
    | nil => cases fuel <;> rfl
    | cons c s =>
      cases fuel with
      | zero => exact absurd h nofun
      | succ fuel =>
        have hs : s.length ≤ fuel := Nat.le_of_succ_le_succ h
        rw [length_cons, lineEntries, lineEntries]
        cases hmatch : matchEntry (c :: s) with
        | none => exact ih fuel (Nat.lt_succ_self _) hs
        | some r =>
          have hrest : r.2.length ≤ s.length := Nat.le_of_lt_succ (length_matchEntry hmatch)
          dsimp only
          rw [ih fuel (Nat.lt_succ_self _) (hrest.trans hs), ih s.length (by omega) hrest]

lemma lineEntries_of_match (h : matchEntry s = some (entry, rest)) :
    lineEntries s.length s = entry :: lineEntries rest.length rest := by
  have hlt := length_matchEntry h
  cases s with
  | nil => exact absurd hlt (Nat.not_lt_zero _)
  | cons c s =>
    rw [length_cons, lineEntries, h]
    dsimp only
    rw [lineEntries_of_le (Nat.le_of_lt_succ hlt)]

lemma lineEntries_of_no_match (h : matchEntry (c :: s) = none) :
    lineEntries (c :: s).length (c :: s) = lineEntries s.length s := by
  rw [length_cons, lineEntries, h]

def Filler (s : List Char) : Prop := ∀ c ∈ s, c ∉ ['b', 'e', 'c', '\n'] ∧ ¬ c.isDigit

def Blank (s : List Char) : Prop := ∀ c ∈ s, isBlank c ∧ c ≠ '\n'

structure WrittenEntry where
  lead : List Char
  entry : FrameEntry
  beforeColon : List Char
  afterColon : List Char
  filler : Filler lead
  blank_before : Blank beforeColon
  blank_after : Blank afterColon

def WrittenEntry.text (w : WrittenEntry) : List Char :=
  w.lead ++ (w.entry.key.name ++
    (w.beforeColon ++ ':' :: (w.afterColon ++ w.entry.digits.chars)))

structure WrittenLine where
  entries : List WrittenEntry
  trail : List Char
  filler : Filler trail

def WrittenLine.text (l : WrittenLine) : List Char := l.entries.flatMap (·.text) ++ l.trail

lemma FrameKey.take_name_injective (h : key.name.take 4 = key'.name.take 4) : key = key' := by
  revert h
  cases key <;> cases key' <;> decide +kernel

lemma FrameKey.four_le_length (key : FrameKey) : 4 ≤ key.name.length := by
  cases key <;> decide +kernel

lemma FrameKey.name_isPrefix_iff : key'.name <+: key.name ++ rest ↔ key' = key := by
  refine ⟨fun h => ?_, fun h => h ▸ prefix_append _ _⟩
  obtain ⟨t, ht⟩ := h
  apply take_name_injective
  have hfour := congrArg (take 4) ht
  rwa [take_append_of_le_length key'.four_le_length,
    take_append_of_le_length key.four_le_length] at hfour

lemma matchKey_name_append (key : FrameKey) (rest : List Char) :
    matchKey (key.name ++ rest) = some (key, rest) := by
  have hdrop : (key.name ++ rest).drop key.name.length = rest := drop_left
  unfold matchKey
  simp only [FrameKey.name_isPrefix_iff]
  cases key <;> simp only [FrameKey.all, findSome?_cons, reduceCtorEq, if_false, if_true, hdrop]

lemma FrameKey.head_name (key : FrameKey) :
    ∃ c rest, key.name = c :: rest ∧ c ∈ ['b', 'e', 'c'] := by
  cases key
  · exact ⟨'b', "eginFrameNo".toList, by decide +kernel, by decide⟩
  · exact ⟨'e', "ndFrameNo".toList, by decide +kernel, by decide⟩
  · exact ⟨'c', "mdBeginFrame".toList, by decide +kernel, by decide⟩
  · exact ⟨'c', "mdEndFrame".toList, by decide +kernel, by decide⟩

lemma matchKey_of_filler (hc : c ∉ ['b', 'e', 'c', '\n']) (s : List Char) :
    matchKey (c :: s) = none := by
  unfold matchKey
  rw [findSome?_eq_none_iff]
  intro key _
  refine if_neg fun hp => hc ?_
  obtain ⟨d, rest, hname, hd⟩ := key.head_name
  rw [hname, cons_prefix_cons] at hp
  rw [← hp.1]
  exact mem_of_mem_dropLast hd

def NoDigitAhead (rest : List Char) : Prop := rest.takeWhile Char.isDigit = []

lemma isBlank_of_isDigit (h : c.isDigit) : isBlank c = false := by
  by_contra hblank
  have hmem : c ∈ [' ', '\t', '\n', '\x0b', '\x0c', '\r'] :=
    contains_iff_mem.1 (Bool.of_not_eq_false hblank)
  simp only [mem_cons, not_mem_nil, or_false] at hmem
  rcases hmem with rfl | rfl | rfl | rfl | rfl | rfl <;> exact absurd h (by decide)

lemma matchDigits_append (digits : Digits) (h : NoDigitAhead rest) :
    matchDigits (digits.chars ++ rest) = some (digits, rest) := by
  have htake : (digits.chars ++ rest).takeWhile Char.isDigit = digits.chars := by
    rw [takeWhile_append_of_pos digits.isDigit, h, append_nil]
  have hdrop : (digits.chars ++ rest).dropWhile Char.isDigit = rest := by
    have hsplit := takeWhile_append_dropWhile (p := Char.isDigit) (l := rest)
    rw [h, nil_append] at hsplit
    rw [dropWhile_append_of_pos digits.isDigit, hsplit]
  unfold matchDigits
  rw [dif_neg (htake.trans_ne digits.ne_nil)]
  simp only [htake, hdrop]

lemma matchEntry_written (entry : FrameEntry) {beforeColon afterColon : List Char}
    (hbefore : Blank beforeColon) (hafter : Blank afterColon) (hrest : NoDigitAhead rest) :
    matchEntry (entry.key.name ++
      (beforeColon ++ ':' :: (afterColon ++ (entry.digits.chars ++ rest)))) =
        some (entry, rest) := by
  have hcolon : (beforeColon ++ ':' :: (afterColon ++ (entry.digits.chars ++ rest))).dropWhile
      isBlank = ':' :: (afterColon ++ (entry.digits.chars ++ rest)) := by
    rw [dropWhile_append_of_pos fun c hc => (hbefore c hc).1]
    rfl
  have hnumber : (afterColon ++ (entry.digits.chars ++ rest)).dropWhile isBlank =
      entry.digits.chars ++ rest := by
    rw [dropWhile_append_of_pos fun c hc => (hafter c hc).1]
    obtain ⟨c, cs, hchars⟩ := exists_cons_of_ne_nil entry.digits.ne_nil
    have hc : isBlank c = false :=
      isBlank_of_isDigit (entry.digits.isDigit c (hchars ▸ mem_cons_self))
    rw [hchars, cons_append, dropWhile_cons_of_neg (Bool.eq_false_iff.1 hc)]
  unfold matchEntry
  rw [matchKey_name_append]
  dsimp only
  rw [hcolon]
  change (matchDigits ((afterColon ++ (entry.digits.chars ++ rest)).dropWhile
    isBlank)).map _ = _
  rw [hnumber, matchDigits_append entry.digits hrest]
  rfl

lemma lineEntries_filler {lead : List Char} (h : Filler lead) (s : List Char) :
    lineEntries (lead ++ s).length (lead ++ s) = lineEntries s.length s := by
  induction lead with
  | nil => rfl
  | cons c lead ih =>
    have hnone : matchEntry (c :: (lead ++ s)) = none := by
      unfold matchEntry
      rw [matchKey_of_filler (h c mem_cons_self).1]
    rw [cons_append, lineEntries_of_no_match hnone]
    exact ih fun d hd => h d (mem_cons_of_mem c hd)

lemma noDigitAhead_written (entries : List WrittenEntry) {trail : List Char}
    (h : Filler trail) : NoDigitAhead (entries.flatMap (·.text) ++ trail) := by
  have hfiller : ∀ {s rest : List Char}, Filler s → NoDigitAhead rest →
    NoDigitAhead (s ++ rest) := by
    intro s rest hs hrest
    cases s with
    | nil => exact hrest
    | cons c s => exact takeWhile_cons_of_neg (hs c mem_cons_self).2
  cases entries with
  | nil =>
    have htrail := hfiller h (rfl : NoDigitAhead [])
    rwa [append_nil] at htrail
  | cons w entries =>
    have hname : ∀ rest, NoDigitAhead (w.entry.key.name ++ rest) := by
      intro rest
      obtain ⟨c, name, hname, hc⟩ := w.entry.key.head_name
      rw [hname]
      simp only [mem_cons, not_mem_nil, or_false] at hc
      rcases hc with rfl | rfl | rfl <;> exact takeWhile_cons_of_neg (by decide)
    rw [flatMap_cons, WrittenEntry.text, append_assoc, append_assoc]
    exact hfiller w.filler (by rw [append_assoc]; exact hname _)

lemma lineEntries_text (l : WrittenLine) :
    lineEntries l.text.length l.text = l.entries.map (·.entry) := by
  obtain ⟨entries, trail, htrail⟩ := l
  dsimp only [WrittenLine.text]
  induction entries with
  | nil =>
    have hnil := lineEntries_filler htrail []
    rwa [append_nil] at hnil
  | cons w entries ih =>
    have hmatch := matchEntry_written w.entry w.blank_before w.blank_after
      (noDigitAhead_written entries htrail)
    rw [flatMap_cons, append_assoc, WrittenEntry.text]
    simp only [append_assoc, cons_append]
    rw [lineEntries_filler w.filler, lineEntries_of_match hmatch, ih, map_cons]

lemma newline_notMem_text (l : WrittenLine) : '\n' ∉ l.text := by
  have hfiller : ∀ {s : List Char}, Filler s → '\n' ∉ s := by
    intro s hs hmem
    exact (hs '\n' hmem).1 (by decide)
  intro hmem
  rcases mem_append.1 hmem with hentry | htrail
  · obtain ⟨w, -, hw⟩ := mem_flatMap.1 hentry
    simp only [WrittenEntry.text, mem_append, mem_cons] at hw
    rcases hw with hlead | hname | hbefore | hcolon | hafter | hdigits
    · exact hfiller w.filler hlead
    · have hnames : ∀ key : FrameKey, '\n' ∉ key.name := by
        intro key
        cases key <;> decide +kernel
      exact hnames _ hname
    · exact (w.blank_before _ hbefore).2 rfl
    · exact absurd hcolon (by decide)
    · exact (w.blank_after _ hafter).2 rfl
    · exact absurd (w.entry.digits.isDigit _ hdigits) (by decide)
  · exact hfiller l.filler htrail

lemma fileEntries_text (lines : List WrittenLine) :
    fileEntries (['\n'].intercalate (lines.map (·.text))) =
      lines.flatMap fun l => l.entries.map (·.entry) := by
  cases lines with
  | nil => rfl
  | cons l lines =>
    have hlines : ∀ text ∈ (l :: lines).map (·.text), '\n' ∉ text := by
      intro text htext
      obtain ⟨l, -, rfl⟩ := mem_map.1 htext
      exact newline_notMem_text l
    have hsplit := splitOn_intercalate '\n' hlines (cons_ne_nil _ _)
    rw [fileEntries, hsplit, flatMap_map]
    refine flatMap_congr fun l _ => ?_
    rw [← lineEntries_text]
    cases l.text <;> rfl

def frameNumber (value : Nat) : Option Int :=
  if (value : Int) ≤ int32Max then some value else none

lemma stoi_digits (digits : Digits) :
    stoi (String.ofList digits.chars) = frameNumber digits.value := by
  obtain ⟨c, cs, hchars, -, hminus, hplus⟩ := digits.exists_cons
  have hdigits : (c :: cs).takeWhile Char.isDigit = c :: cs := by
    rw [← hchars]
    exact takeWhile_eq_self_iff.2 digits.isDigit
  have hvalue := foldl_cast (c :: cs) 0
  rw [Nat.cast_zero] at hvalue
  have hmin : ∀ value : Nat, int32Min ≤ (value : Int) := by
    intro value
    unfold int32Min
    omega
  unfold stoi frameNumber Digits.value
  rw [String.toList_ofList, digits.dropWhile_chars, hchars]
  dsimp only
  split
  · rename_i heq
    exact absurd (cons.inj heq).1 hminus
  · rename_i heq
    exact absurd (cons.inj heq).1 hplus
  rw [hdigits, if_neg (nofun : ¬ (c :: cs).isEmpty)]
  dsimp only
  rw [if_neg Bool.false_ne_true, hvalue]
  simp only [hmin, true_and]

lemma parseFrameNumbers_eq (buffer4 : List UInt8) : parseFrameNumbers buffer4 =
      ((fileEntries (textOf buffer4)).map (·.digits.value)).filterMap frameNumber := by
  rw [parseFrameNumbers, filterMap_map]
  exact filterMap_congr fun entry _ => stoi_digits entry.digits

structure Sentence where
  beginFrameNo : Nat
  endFrameNo : Nat
  cmdBeginFrame : Nat
  cmdEndFrame : Nat

def Sentence.value (s : Sentence) : FrameKey → Nat
  | .beginFrameNo => s.beginFrameNo
  | .endFrameNo => s.endFrameNo
  | .cmdBeginFrame => s.cmdBeginFrame
  | .cmdEndFrame => s.cmdEndFrame

def Sentence.values (s : Sentence) : List Nat := FrameKey.all.map s.value

structure Describes (buffer4 : List UInt8) (blocks : List (List (FrameKey × Nat)))
    (sentences : List Sentence) : Prop where
  entries_eq : (fileEntries (textOf buffer4)).map (fun entry => (entry.key, entry.digits.value)) =
    blocks.flatten
  perm : List.Forall₂ (fun block s => block.Perm (FrameKey.all.map fun key => (key, s.value key)))
    blocks sentences

def Aligned (frameNumbers : List Int) (sentences : List Sentence) : Prop :=
  ∀ s < 3, ∃ sentence, sentences[s]? = some sentence ∧
    (frameNumbers.drop (4 * s)).take 4 = sentence.values.map Nat.cast

lemma drop_take_flatten {α : Type*} {blocks : List (List α)}
    (h : ∀ block ∈ blocks, block.length = m) {s : Nat} {block : List α}
    (hs : blocks[s]? = some block) : (blocks.flatten.drop (m * s)).take m = block := by
  induction blocks generalizing s with
  | nil => exact absurd hs nofun
  | cons first blocks ih =>
    have hfirst : first.length = m := h first mem_cons_self
    cases s with
    | zero =>
      cases hs
      rw [Nat.mul_zero, drop_zero, flatten_cons, ← hfirst, take_left]
    | succ s =>
      rw [flatten_cons, Nat.mul_succ, Nat.add_comm, ← drop_drop, ← hfirst,
        drop_left, hfirst]
      exact ih (fun b hb => h b (mem_cons_of_mem _ hb)) hs

lemma take_flatten_of_length {α : Type*} {blocks : List (List α)}
    (h : ∀ block ∈ blocks, block.length = m) (n : Nat) :
    blocks.flatten.take (m * n) = (blocks.take n).flatten := by
  induction blocks generalizing n with
  | nil => rw [flatten_nil, take_nil, take_nil, flatten_nil]
  | cons first blocks ih =>
    have hfirst : first.length = m := h first mem_cons_self
    cases n with
    | zero => rfl
    | succ n =>
      rw [flatten_cons, Nat.mul_succ, Nat.add_comm, ← hfirst, take_length_add_append,
        hfirst, ih (fun b hb => h b (mem_cons_of_mem _ hb)), take_succ_cons,
        flatten_cons]

lemma take_filterMap_frameNumber {values : List Nat} {n : Nat} (hn : n ≤ values.length)
    (h : ∀ v ∈ values.take n, (v : Int) ≤ int32Max) :
    (values.filterMap frameNumber).take n = (values.take n).map Nat.cast := by
  have hkept : (values.take n).filterMap frameNumber = (values.take n).map Nat.cast := by
    rw [← filterMap_eq_map]
    exact filterMap_congr fun v hv => if_pos (h v hv)
  conv_lhs => rw [← take_append_drop n values, filterMap_append, hkept]
  apply take_left'
  rw [length_map, length_take, Nat.min_eq_left hn]

variable {blocks : List (List (FrameKey × Nat))} {sentences : List Sentence}

section
variable (h : Describes buffer4 blocks sentences)
include h

lemma Describes.length_block : ∀ block ∈ blocks, block.length = 4 := by
  intro block hblock
  obtain ⟨s, hs, rfl⟩ := List.getElem_of_mem hblock
  have hperm := (forall₂_iff_get.1 h.perm).2 s hs (h.perm.length_eq ▸ hs)
  exact hperm.length_eq

lemma Describes.perm_values {s : Nat} {block : List (FrameKey × Nat)} {sentence : Sentence}
    (hblock : blocks[s]? = some block) (hsentence : sentences[s]? = some sentence) :
    (block.map Prod.snd).Perm sentence.values := by
  obtain ⟨hs, rfl⟩ := List.getElem?_eq_some_iff.1 hblock
  obtain ⟨hs', rfl⟩ := List.getElem?_eq_some_iff.1 hsentence
  have hperm := ((forall₂_iff_get.1 h.perm).2 s hs hs').map Prod.snd
  rwa [map_map] at hperm

lemma Describes.parseFrameNumbers_eq :
    parseFrameNumbers buffer4 = (blocks.map (·.map Prod.snd)).flatten.filterMap frameNumber := by
  have hvalues := congrArg (map Prod.snd) h.entries_eq
  rw [map_map, map_flatten] at hvalues
  rw [Offline.parseFrameNumbers_eq, ← hvalues]
  rfl

lemma Describes.three_le_length (haccepted : 12 ≤ (parseFrameNumbers buffer4).length) :
    3 ≤ blocks.length := by
  have hall := take_flatten_of_length h.length_block blocks.length
  rw [take_length] at hall
  have hcount : blocks.flatten.length ≤ 4 * blocks.length := by
    rw [← hall]
    exact length_take_le _ _
  rw [h.parseFrameNumbers_eq, ← map_flatten] at haccepted
  have hkept := length_filterMap_le frameNumber (blocks.flatten.map Prod.snd)
  rw [length_map] at hkept
  omega

end

lemma le_int32Max_of_mem_filterMap {values : List Nat} {v : Nat}
    (h : (v : Int) ∈ values.filterMap frameNumber) : (v : Int) ≤ int32Max := by
  obtain ⟨w, -, hw⟩ := mem_filterMap.1 h
  unfold frameNumber at hw
  split at hw
  · rename_i hle
    rwa [← Option.some.inj hw]
  · exact absurd hw nofun

lemma Describes.take_drop_eq (h : Describes buffer4 blocks sentences)
    (haccepted : 12 ≤ (parseFrameNumbers buffer4).length)
    (hfits : ∀ (s : Nat) (sentence : Sentence), s < 3 → sentences[s]? = some sentence →
      ∀ v ∈ sentence.values, (v : Int) ≤ int32Max)
    {s : Nat} (hs : s < 3) {block : List (FrameKey × Nat)} (hblock : blocks[s]? = some block) :
    ((parseFrameNumbers buffer4).drop (4 * s)).take 4 = (block.map Prod.snd).map Nat.cast := by
  have hlength : ∀ values ∈ blocks.map (·.map Prod.snd), values.length = 4 := by
    intro values hvalues
    obtain ⟨b, hb, rfl⟩ := mem_map.1 hvalues
    rw [length_map]
    exact h.length_block b hb
  rw [h.parseFrameNumbers_eq] at haccepted ⊢
  have hlong := haccepted.trans (length_filterMap_le _ _)
  -- the first twelve numbers are those of the first three blocks, and none of them is dropped
  have hkept := take_filterMap_frameNumber (n := 12) hlong (by
    intro v hv
    rw [take_flatten_of_length hlength 3, mem_flatten] at hv
    obtain ⟨values, hvalues, hv⟩ := hv
    obtain ⟨i, hi, rfl⟩ := mem_take_iff_getElem.1 hvalues
    rw [length_map] at hi
    have hi' : i < sentences.length := by
      rw [← h.perm.length_eq]
      omega
    have hperm := h.perm_values (List.getElem?_eq_getElem (by omega : i < blocks.length))
      (List.getElem?_eq_getElem hi')
    rw [List.getElem_map] at hv
    exact hfits i _ (by omega) (List.getElem?_eq_getElem hi') v (hperm.mem_iff.1 hv))
  have hslice : ∀ {l : List Int}, (l.drop (4 * s)).take 4 = ((l.take 12).drop (4 * s)).take 4 := by
    intro l
    rw [drop_take, take_take, Nat.min_eq_left (by omega)]
  have hvalues : (blocks.map (·.map Prod.snd))[s]? = some (block.map Prod.snd) := by
    rw [List.getElem?_map, hblock, Option.map_some]
  rw [hslice, hkept, map_take, ← hslice, ← map_drop, ← map_take,
    drop_take_flatten hlength hvalues]

theorem parseFrameNumbers_aligned_iff (buffer4 : List UInt8)
    (blocks : List (List (FrameKey × Nat))) (sentences : List Sentence)
    (h : Describes buffer4 blocks sentences) (haccepted : 12 ≤ (parseFrameNumbers buffer4).length) :
    Aligned (parseFrameNumbers buffer4) sentences ↔
      ∀ (s : Nat) (block : List (FrameKey × Nat)) (sentence : Sentence), s < 3 →
        blocks[s]? = some block → sentences[s]? = some sentence →
        block.map Prod.snd = sentence.values ∧
          ∀ v ∈ sentence.values, (v : Int) ≤ int32Max := by
  constructor
  · intro haligned
    have hfits : ∀ (s : Nat) (sentence : Sentence), s < 3 → sentences[s]? = some sentence →
        ∀ v ∈ sentence.values, (v : Int) ≤ int32Max := by
      intro s sentence hs hsentence v hv
      obtain ⟨sentence', hsentence', hread⟩ := haligned s hs
      obtain rfl : sentence = sentence' := Option.some.inj (hsentence.symm.trans hsentence')
      have hmem : (v : Int) ∈ parseFrameNumbers buffer4 := by
        apply mem_of_mem_drop (i := 4 * s)
        apply mem_of_mem_take (i := 4)
        rw [hread]
        exact mem_map_of_mem hv
      rw [h.parseFrameNumbers_eq] at hmem
      exact le_int32Max_of_mem_filterMap hmem
    intro s block sentence hs hblock hsentence
    refine ⟨?_, hfits s sentence hs hsentence⟩
    obtain ⟨sentence', hsentence', hread⟩ := haligned s hs
    obtain rfl : sentence = sentence' := Option.some.inj (hsentence.symm.trans hsentence')
    rw [h.take_drop_eq haccepted hfits hs hblock] at hread
    exact (map_injective_iff.2 Nat.cast_injective) hread
  · intro hcond s hs
    have hblocks := h.three_le_length haccepted
    have hsentences := h.perm.length_eq ▸ hblocks
    have hblock := List.getElem?_eq_getElem (hs.trans_le hblocks)
    have hsentence := List.getElem?_eq_getElem (hs.trans_le hsentences)
    refine ⟨_, hsentence, ?_⟩
    rw [h.take_drop_eq haccepted ?_ hs hblock, (hcond s _ _ hs hblock hsentence).1]
    intro i sentence hi hsentence'
    have hblock' := List.getElem?_eq_getElem (hi.trans_le hblocks)
    exact (hcond i _ sentence hi hblock' hsentence').2

def Sentence.block (s : Sentence) : List (FrameKey × Nat) :=
  FrameKey.all.map fun key => (key, s.value key)

def FrameKey.written (key : FrameKey) (n : Nat) : WrittenEntry where
  lead := [' ']
  entry := ⟨key, .ofNat n⟩
  beforeColon := []
  afterColon := [' ']
  filler c hc := by
    obtain rfl := mem_singleton.1 hc
    decide
  blank_before := nofun
  blank_after c hc := by
    obtain rfl := mem_singleton.1 hc
    decide

def Sentence.line (s : Sentence) : WrittenLine where
  entries := FrameKey.all.map fun key => key.written (s.value key)
  trail := []
  filler := nofun

def fileText (sentences : List Sentence) : List Char :=
  ['\n'].intercalate ((sentences.map (·.line)).map (·.text))

def bytesOf (text : List Char) : List UInt8 := text.map fun c => c.toNat.toUInt8

lemma textOf_bytesOf {text : List Char} (h : ∀ c ∈ text, c.toNat < 256) :
    textOf (bytesOf text) = text := by
  rw [textOf, bytesOf, map_map]
  refine (map_congr_left fun c hc => ?_).trans (map_id text)
  have hmod : c.toNat.toUInt8.toNat = c.toNat := Nat.mod_eq_of_lt (h c hc)
  exact (congrArg Char.ofNat hmod).trans (Char.ofNat_toNat c)

lemma toNat_lt_of_mem_line (s : Sentence) (h : c ∈ s.line.text) : c.toNat < 256 := by
  have hname : ∀ key : FrameKey, ∀ c ∈ key.name, c.toNat < 256 := by
    intro key
    rw [← all_iff_forall_prop]
    cases key <;> decide +kernel
  rw [WrittenLine.text, Sentence.line, append_nil] at h
  obtain ⟨w, hw, hc⟩ := mem_flatMap.1 h
  obtain ⟨key, -, rfl⟩ := mem_map.1 hw
  simp only [WrittenEntry.text, FrameKey.written, mem_append, mem_cons, not_mem_nil,
    or_false, false_or] at hc
  rcases hc with rfl | hkey | rfl | rfl | hdigit
  · decide
  · exact hname key c hkey
  · decide
  · decide
  have hc := (Digits.ofNat (s.value key)).isDigit c hdigit
  simp only [Char.isDigit, Bool.and_eq_true, decide_eq_true_eq] at hc
  have hle : c.toNat ≤ '9'.toNat := hc.2
  exact Nat.lt_of_le_of_lt hle (by decide)

lemma mem_intercalate_newline {lines : List (List Char)} (h : c ∈ ['\n'].intercalate lines) :
    c = '\n' ∨ ∃ line ∈ lines, c ∈ line := by
  induction lines with
  | nil => exact absurd h (not_mem_nil)
  | cons line lines ih =>
    cases lines with
    | nil =>
      rw [intercalate_singleton] at h
      exact .inr ⟨line, mem_cons_self, h⟩
    | cons next lines =>
      rw [intercalate_cons_cons, append_assoc] at h
      rcases mem_append.1 h with hline | hrest
      · exact .inr ⟨line, mem_cons_self, hline⟩
      rcases mem_append.1 hrest with hsep | hrest
      · exact .inl (mem_singleton.1 hsep)
      rcases ih hrest with hnewline | ⟨l, hl, hc⟩
      · exact .inl hnewline
      · exact .inr ⟨l, mem_cons_of_mem _ hl, hc⟩

lemma toNat_lt_of_mem_fileText (sentences : List Sentence) (h : c ∈ fileText sentences) :
    c.toNat < 256 := by
  rcases mem_intercalate_newline h with rfl | ⟨line, hline, hc⟩
  · decide
  rw [map_map] at hline
  obtain ⟨s, -, rfl⟩ := mem_map.1 hline
  exact toNat_lt_of_mem_line s hc

lemma describes_fileText (sentences : List Sentence) :
    Describes (bytesOf (fileText sentences)) (sentences.map (·.block)) sentences := by
  refine ⟨?_, ?_⟩
  · have hblock : ∀ s : Sentence, (s.line.entries.map (·.entry)).map
        (fun entry => (entry.key, entry.digits.value)) = s.block := by
      intro s
      simp only [Sentence.line, FrameKey.written, map_map, Function.comp_def,
        Digits.value_ofNat, Sentence.block]
    rw [textOf_bytesOf fun c hc => toNat_lt_of_mem_fileText sentences hc, fileText,
      fileEntries_text, flatMap_map, map_flatMap, ← flatMap_def]
    exact flatMap_congr fun s _ => hblock s
  · rw [forall₂_map_left_iff]
    exact forall₂_same.2 fun _ _ => .refl _

def threeSentences : List Sentence := [⟨1, 20, 21, 40⟩, ⟨2, 30, 31, 60⟩, ⟨3, 40, 41, 80⟩]

theorem parseFrameNumbers_aligned_three :
    Aligned (parseFrameNumbers (bytesOf (fileText threeSentences))) threeSentences := by
  have hdescribes := describes_fileText threeSentences
  have haccepted : 12 ≤ (parseFrameNumbers (bytesOf (fileText threeSentences))).length := by
    rw [hdescribes.parseFrameNumbers_eq]
    decide
  refine (parseFrameNumbers_aligned_iff _ _ _ hdescribes haccepted).2 ?_
  intro s block sentence _ hblock hsentence
  rw [List.getElem?_map, hsentence] at hblock
  cases hblock
  have hsmall : ∀ sentence ∈ threeSentences, ∀ v ∈ sentence.values,
      (v : Int) ≤ int32Max := by decide
  exact ⟨rfl, hsmall sentence (mem_of_getElem? hsentence)⟩

def droppedSentences : List Sentence :=
  [⟨1, 99999999999, 21, 40⟩, ⟨2, 30, 31, 60⟩, ⟨3, 40, 41, 80⟩, ⟨4, 50, 51, 90⟩]

theorem dropped_number_misaligns :
    Describes (bytesOf (fileText droppedSentences)) (droppedSentences.map (·.block))
        droppedSentences ∧
      parseFrameNumbers (bytesOf (fileText droppedSentences)) =
        [1, 21, 40, 2, 30, 31, 60, 3, 40, 41, 80, 4, 50, 51, 90] ∧
      ¬ Aligned (parseFrameNumbers (bytesOf (fileText droppedSentences))) droppedSentences := by
  have hdescribes := describes_fileText droppedSentences
  have hparsed : parseFrameNumbers (bytesOf (fileText droppedSentences)) =
      [1, 21, 40, 2, 30, 31, 60, 3, 40, 41, 80, 4, 50, 51, 90] := by
    rw [hdescribes.parseFrameNumbers_eq]
    decide
  refine ⟨hdescribes, hparsed, ?_⟩
  intro haligned
  obtain ⟨sentence, hsentence, hread⟩ := haligned 0 (by decide)
  cases hsentence
  rw [hparsed] at hread
  exact absurd hread (by decide)

end IntellVoice.Offline
