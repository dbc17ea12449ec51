import IntellVoice.Library.OrderedMap

/-! Parameters are handed around as text of the form `key=value;key=value`. -/

namespace IntellVoice.Utils.StringUtil
open List

def isBlank (c : Char) : Bool := [' ', '\t', '\n', '\x0b', '\x0c', '\r'].contains c

def trimL (str : List Char) : List Char := str.dropWhile isBlank

def trimR (str : List Char) : List Char := str.rdropWhile isBlank

def trim (str : List Char) : List Char := trimR (trimL str)

def splitFrom (sep : Char) (piece : List Char) : List Char → List (List Char)
  | [] => if piece = [] then [] else [piece]
  | c :: rest =>
    if c = sep then
      if piece = [] then splitFrom sep [] rest else piece :: splitFrom sep [] rest
    else splitFrom sep (piece ++ [c]) rest

def split (str : List Char) (sep : Char) : List (List Char) := splitFrom sep [] str

def delimiterEqualSign : Char := '='

def splitLineToPair (line : List Char) : Option (List Char × List Char) :=
  match line.dropWhile (· ≠ delimiterEqualSign) with
  | [] => none
  | [_] => none
  | _ :: second =>
    let first := trim (line.takeWhile (· ≠ delimiterEqualSign))
    let second := trim second
    if first = [] ∨ second = [] then none else some (first, second)

def insertPair (kvpairs : OrderedMap String String) (line : List Char) : OrderedMap String String :=
  match splitLineToPair line with
  | none => kvpairs
  | some (key, value) => kvpairs.set (.ofList key) (.ofList value)

def splitStringToKVPair (inputStr : String) : OrderedMap String String :=
  (split inputStr.toList ';').foldl insertPair ∅

variable {str : List Char} {c sep : Char} {line : List Char} {inputStr : String}

lemma mem_of_mem_trim (h : c ∈ trim str) : c ∈ str :=
  (dropWhile_suffix _).subset ((List.rdropWhile_prefix _ _).subset h)

lemma mem_dropWhile_of_mem {p : Char → Bool} (h : c ∈ str) (hp : p c = false) :
    c ∈ str.dropWhile p := by
  rw [← takeWhile_append_dropWhile (p := p) (l := str), mem_append] at h
  rcases h with htaken | hrest
  · have hblank := mem_takeWhile_imp htaken
    rw [hp] at hblank
    cases hblank
  · exact hrest

lemma mem_trim (h : c ∈ str) (hc : isBlank c = false) : c ∈ trim str := by
  rw [trim, trimR, rdropWhile, mem_reverse]
  exact mem_dropWhile_of_mem (mem_reverse.2 (mem_dropWhile_of_mem h hc)) hc

lemma trimL_trimR (h : trimL str = str) : trimL (trimR str) = trimR str := by
  refine dropWhile_eq_self_iff.2 fun hlen => ?_
  have hfront : trimR str <+: str := rdropWhile_prefix _ _
  rw [hfront.getElem hlen]
  exact dropWhile_eq_self_iff.1 h (hlen.trans_le hfront.length_le)

lemma trim_trim (str : List Char) : trim (trim str) = trim str := by
  have h : trimL (trim str) = trim str := trimL_trimR (dropWhile_idempotent _ _)
  rw [trim, h]
  exact rdropWhile_idempotent _ _

lemma splitFrom_append (sep : Char) (piece rest : List Char) :
    splitFrom sep piece (str ++ sep :: rest) =
      splitFrom sep piece str ++ splitFrom sep [] rest := by
  induction str generalizing piece with
  | nil => by_cases hpiece : piece = [] <;> simp [splitFrom, hpiece]
  | cons c str ih =>
    rw [cons_append, splitFrom, splitFrom, ih, ih]
    split
    · split <;> rfl
    · rfl

lemma splitFrom_of_not_mem (h : sep ∉ str) (piece : List Char) :
    splitFrom sep piece str = if piece ++ str = [] then [] else [piece ++ str] := by
  induction str generalizing piece with
  | nil => simp [splitFrom]
  | cons c rest ih =>
    rw [mem_cons, not_or] at h
    rw [splitFrom, if_neg (Ne.symm h.1), ih h.2]
    simp

lemma split_of_not_mem (h : sep ∉ str) (hne : str ≠ []) : split str sep = [str] := by
  rw [split, splitFrom_of_not_mem h, nil_append, if_neg hne]

lemma not_mem_of_mem_splitFrom {piece : List Char} (hpiece : sep ∉ piece)
    (hline : line ∈ splitFrom sep piece str) : sep ∉ line := by
  induction str generalizing piece with
  | nil =>
    rw [splitFrom] at hline
    split at hline
    · cases hline
    · obtain rfl := mem_singleton.1 hline
      exact hpiece
  | cons c rest ih =>
    rw [splitFrom] at hline
    split at hline
    · split at hline
      · exact ih not_mem_nil hline
      rcases mem_cons.1 hline with rfl | hline
      · exact hpiece
      · exact ih not_mem_nil hline
    · rename_i hc
      refine ih ?_ hline
      rw [mem_append, mem_singleton, not_or]
      exact ⟨hpiece, Ne.symm hc⟩

variable {key value : List Char}

lemma splitLineToPair_append (hkey : delimiterEqualSign ∉ key) (hne : trim key ≠ []) :
    splitLineToPair (key ++ delimiterEqualSign :: value) =
      if trim value = [] then none else some (trim key, trim value) := by
  have hall : ∀ c ∈ key, decide (c ≠ delimiterEqualSign) := by
    intro c hc
    have hdiff : c ≠ delimiterEqualSign := fun heq => hkey (heq ▸ hc)
    simp [hdiff]
  have hdrop : (key ++ delimiterEqualSign :: value).dropWhile (· ≠ delimiterEqualSign) =
      delimiterEqualSign :: value := by
    rw [dropWhile_append_of_pos hall]
    simp
  have htake : (key ++ delimiterEqualSign :: value).takeWhile (· ≠ delimiterEqualSign) = key := by
    rw [takeWhile_append_of_pos hall]
    simp
  rw [splitLineToPair, hdrop, htake]
  cases value with
  | nil => simp [trim, trimL, trimR]
  | cons c rest => simp [hne]

lemma subset_of_splitLineToPair (h : splitLineToPair line = some (key, value)) : value ⊆ line := by
  unfold splitLineToPair at h
  split at h
  · cases h
  · cases h
  rename_i second hdrop
  dsimp only at h
  split at h
  · cases h
  cases h
  intro c hc
  have hmem : c ∈ line.dropWhile (· ≠ delimiterEqualSign) := by
    rw [hdrop]
    exact mem_cons_of_mem _ (mem_of_mem_trim hc)
  exact (dropWhile_suffix _).subset hmem

lemma find?_foldl_insertPair {lines : List (List Char)} {m : OrderedMap String String}
    {key value : String} (h : (lines.foldl insertPair m).find? key = some value) :
    m.find? key = some value ∨
      ∃ line ∈ lines, splitLineToPair line = some (key.toList, value.toList) := by
  induction lines generalizing m with
  | nil => exact .inl h
  | cons line rest ih =>
    rcases ih h with hfirst | ⟨line', hmem, hpair⟩
    · unfold insertPair at hfirst
      split at hfirst
      · exact .inl hfirst
      rename_i key' value' hpair
      by_cases hkey : key = .ofList key'
      · subst hkey
        rw [OrderedMap.find?_set_self] at hfirst
        obtain rfl := Option.some.inj hfirst
        exact .inr ⟨line, by simp, by simpa using hpair⟩
      · rw [OrderedMap.find?_set_ne _ _ hkey] at hfirst
        exact .inl hfirst
    · exact .inr ⟨line', mem_cons_of_mem _ hmem, hpair⟩

lemma not_mem_value {key value : String}
    (h : (splitStringToKVPair inputStr).find? key = some value) :
    ';' ∉ value.toList := by
  obtain ⟨line, hline, hpair⟩ := (find?_foldl_insertPair h).resolve_left (by simp)
  exact fun hmem => not_mem_of_mem_splitFrom not_mem_nil hline
    (subset_of_splitLineToPair hpair hmem)

lemma splitStringToKVPair_single (hinput : inputStr.toList = key ++ delimiterEqualSign :: value)
    (hkey : ';' ∉ key) (hkey' : delimiterEqualSign ∉ key) (hne : trim key ≠ [])
    (hvalue : ';' ∉ value) : splitStringToKVPair inputStr =
      if trim value = [] then ∅
      else OrderedMap.set ∅ (.ofList (trim key)) (.ofList (trim value)) := by
  have hsep : ';' ∉ key ++ delimiterEqualSign :: value := by
    rw [mem_append, mem_cons, not_or, not_or]
    exact ⟨hkey, by decide, hvalue⟩
  rw [splitStringToKVPair, hinput, split_of_not_mem hsep (by simp), foldl_cons, foldl_nil,
    insertPair, splitLineToPair_append hkey' hne]
  by_cases hblank : trim value = []
  · rw [if_pos hblank, if_pos hblank]
  · rw [if_neg hblank, if_neg hblank]

lemma find?_foldl_insertPair_or (lines : List (List Char)) (m : OrderedMap String String)
    (key : String) : (lines.foldl insertPair m).find? key =
      ((lines.foldl insertPair ∅).find? key).or (m.find? key) := by
  induction lines using reverseRecOn with
  | nil => rfl
  | append_singleton lines line ih =>
    rw [foldl_concat, foldl_concat, insertPair, insertPair]
    split
    · exact ih
    · rw [OrderedMap.find?_set, OrderedMap.find?_set, ih]
      split <;> rfl

theorem find?_splitStringToKVPair_append (first second key : String) :
    (splitStringToKVPair (first ++ ";" ++ second)).find? key =
      ((splitStringToKVPair second).find? key).or ((splitStringToKVPair first).find? key) := by
  have hinput : (first ++ ";" ++ second).toList = first.toList ++ ';' :: second.toList := by
    simp
  rw [splitStringToKVPair, hinput, split, splitFrom_append, foldl_append,
    find?_foldl_insertPair_or]
  rfl

end IntellVoice.Utils.StringUtil
