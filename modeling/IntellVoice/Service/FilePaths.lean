import Mathlib

/-! A client names the wakeup file it reads or writes by its path. -/

namespace IntellVoice.Service
open List

def wakeupFilePathPrefix : String := "/data/service/el0/intelligent_voice/wakeup"
def parentPathPrefix : String := "../"

def checkFilePath (filePath : String) : Bool :=
  wakeupFilePathPrefix.toList.isPrefixOf filePath.toList &&
    !decide (parentPathPrefix.toList <:+: filePath.toList)

def getWakeupSourceFile (filePath : String) : Option String :=
  if checkFilePath filePath then some filePath else none

def sendWakeupFile (filePath : String) (buffer : List UInt8) : Option (String × List UInt8) :=
  if checkFilePath filePath then some (filePath, buffer) else none

namespace FilePath

abbrev Component := List Char

def components (path : List Char) : List Component := path.splitOn '/'

def enter (dir : List Component) (c : Component) : List Component :=
  if c = [] ∨ c = ['.'] then dir else if c = ['.', '.'] then dir.tail else c :: dir

def resolve (path : List Char) : List Component := (components path).foldl enter []

def Confined (path : List Char) : Prop :=
  resolve wakeupFilePathPrefix.toList <:+ resolve path

instance (path : List Char) : Decidable (Confined path) := by unfold Confined; infer_instance

def IsName (c : Component) : Prop := c ≠ [] ∧ c ≠ ['.'] ∧ c ≠ ['.', '.']

instance (c : Component) : Decidable (IsName c) := by unfold IsName; infer_instance

lemma foldl_enter (dir : List Component) (cs : List Component) (h : ['.', '.'] ∉ cs) :
    cs.foldl enter dir = (cs.filter fun c => IsName c).reverse ++ dir := by
  induction cs generalizing dir with
  | nil => rfl
  | cons c cs ih =>
    obtain ⟨hc, hcs⟩ := not_or.1 (mt mem_cons.2 h)
    rw [foldl_cons, ih _ hcs]
    by_cases hskip : c = [] ∨ c = ['.']
    · have hname : ¬ IsName c := fun hn => hskip.elim hn.1 hn.2.1
      rw [enter, if_pos hskip, filter_cons_of_neg (by simpa using hname)]
    have hname : IsName c := ⟨fun h => hskip (.inl h), fun h => hskip (.inr h), Ne.symm hc⟩
    rw [enter, if_neg hskip, if_neg (Ne.symm hc), filter_cons_of_pos (by simpa using hname)]
    simp

variable {c : Component} {rest : List Char}

lemma infix_intercalate {x : Char} (cs : List Component) (h : c ∈ cs.dropLast) :
    (c ++ [x]) <:+: [x].intercalate cs := by
  induction cs with
  | nil => simp at h
  | cons a cs ih =>
    cases cs with
    | nil => simp at h
    | cons b cs =>
      rw [intercalate_cons_cons]
      rw [dropLast_cons_of_ne_nil (by simp)] at h
      rcases mem_cons.1 h with rfl | hmem
      · exact ⟨[], [x].intercalate (b :: cs), by simp⟩
      · exact (ih hmem).trans (suffix_append _ _).isInfix

lemma parent_notMem_dropLast {path : List Char} (h : ¬ parentPathPrefix.toList <:+: path) :
    ['.', '.'] ∉ (components path).dropLast := by
  intro hmem
  have hfound := infix_intercalate (x := '/') _ hmem
  rw [components, intercalate_splitOn] at hfound
  exact h hfound

def parentDir : List Char := "/data/service/el0/intelligent_voice".toList
def wakeupName : Component := "wakeup".toList

lemma toList_wakeupFilePathPrefix :
    wakeupFilePathPrefix.toList = parentDir ++ '/' :: wakeupName := rfl

lemma components_append_cons (a b : List Char) :
    components (a ++ '/' :: b) = components a ++ components b :=
  splitOnP_append_cons a b rfl

lemma components_name_append (rest : List Char) :
    components (wakeupName ++ rest) = (components rest).modifyHead (wakeupName ++ ·) := by
  have hcons : ∀ (c : Char) (l : List Char), c ≠ '/' →
      components (c :: l) = (components l).modifyHead (c :: ·) := by
    intro c l hc
    simp only [components, splitOn, splitOnP_cons_eq_if_modifyHead, beq_iff_eq, hc,
      if_false]
  have happend : ∀ name : Component, '/' ∉ name →
      components (name ++ rest) = (components rest).modifyHead (name ++ ·) := by
    intro name hname
    induction name with
    | nil => cases hcs : components rest <;> simp [hcs]
    | cons c name ih =>
      obtain ⟨hc, hmem⟩ := not_or.1 (mt mem_cons.2 hname)
      rw [cons_append, hcons c _ (Ne.symm hc), ih hmem]
      cases components rest <;> rfl
  exact happend wakeupName (by decide)

lemma head_components : (components rest).head? = some [] ↔ rest = [] ∨ rest.head? = some '/' := by
  cases rest with
  | nil => simp [components]
  | cons c rest =>
    by_cases hc : c = '/'
    · simp [components, splitOn, splitOnP_cons_eq_if_modifyHead, hc]
    have hne := splitOn_ne_nil '/' rest
    cases hcs : splitOnP (fun x => x == '/') rest with
    | nil => exact absurd hcs hne
    | cons a as =>
      simp [components, splitOn, splitOnP_cons_eq_if_modifyHead, hc, hcs]

lemma isName_wakeupName_append (r : Component) : IsName (wakeupName ++ r) := by
  have hcons : ∃ c d l, wakeupName ++ r = 'w' :: c :: d :: l := ⟨'a', 'k', _, rfl⟩
  obtain ⟨c, d, l, hl⟩ := hcons
  rw [hl]
  simp [IsName]

lemma enter_isName (h : IsName c) (dir : List Component) : enter dir c = c :: dir := by
  rw [enter, if_neg (not_or.2 ⟨h.1, h.2.1⟩), if_neg h.2.2]

lemma resolve_directory_append (rest : List Char) {r : Component} {rs : List Component}
    (h : components rest = r :: rs) : resolve (wakeupFilePathPrefix.toList ++ rest) =
      rs.foldl enter ((wakeupName ++ r) :: resolve parentDir) := by
  rw [resolve, toList_wakeupFilePathPrefix, append_assoc, cons_append,
    components_append_cons, components_name_append, h, foldl_append, modifyHead_cons,
    foldl_cons, enter_isName (isName_wakeupName_append r)]
  rfl

lemma resolve_directory :
    resolve wakeupFilePathPrefix.toList = wakeupName :: resolve parentDir := by
  rw [resolve, toList_wakeupFilePathPrefix, components_append_cons, foldl_append]
  rfl

lemma suffix_append_iff (inner : List Component) (r : Component) :
    resolve wakeupFilePathPrefix.toList <:+ inner ++ (wakeupName ++ r) :: resolve parentDir ↔
      r = [] := by
  rw [resolve_directory]
  constructor
  · intro h
    have hsuffix := suffix_of_suffix_length_le h (suffix_append inner _) (by simp)
    have heq := hsuffix.eq_of_length (by simp)
    simpa using heq
  · rintro rfl
    exact suffix_append inner _

lemma confined_append_iff (h : ¬ parentPathPrefix.toList <:+: wakeupFilePathPrefix.toList ++ rest) :
    Confined (wakeupFilePathPrefix.toList ++ rest) ↔ (rest = [] ∨ rest.head? = some '/') ∧
        ((components rest).getLast? = some ['.', '.'] → ∃ c ∈ components rest, IsName c) := by
  have hrest : ['.', '.'] ∉ (components rest).dropLast :=
    parent_notMem_dropLast fun hfound => h (hfound.trans (suffix_append _ _).isInfix)
  rw [← head_components]
  cases hcs : components rest with
  | nil => exact absurd hcs (splitOn_ne_nil '/' rest)
  | cons r rs =>
    rw [hcs] at hrest
    rw [Confined, resolve_directory_append rest hcs]
    rcases rs.eq_nil_or_concat with rfl | ⟨init, last, rfl⟩
    · have hiff := suffix_append_iff [] r
      simp only [nil_append] at hiff
      rw [foldl_nil, hiff]
      simp +contextual
    rw [concat_eq_append] at hrest ⊢
    rw [← cons_append, dropLast_concat] at hrest
    obtain ⟨-, hinit⟩ := not_or.1 (mt mem_cons.2 hrest)
    rw [foldl_concat, foldl_enter _ _ hinit, ← cons_append, getLast?_concat]
    by_cases hlast : last = ['.', '.']
    · -- the last step leaves the directory entered last
      subst hlast
      rw [enter, if_neg (by decide), if_pos rfl]
      cases hn : (init.filter fun c => IsName c).reverse with
      | nil =>
        have hout : ¬ resolve wakeupFilePathPrefix.toList <:+
            ([] ++ (wakeupName ++ r) :: resolve parentDir).tail := by
          intro hs
          have hlen := hs.length_le
          rw [resolve_directory] at hlen
          simp at hlen
        refine iff_of_false hout ?_
        rintro ⟨hr, hname⟩
        have hr : r = [] := by simpa using hr
        have hnone : ∀ c ∈ init, ¬ IsName c := by
          simpa using reverse_eq_nil_iff.1 hn
        obtain ⟨c, hc, hisName⟩ := hname rfl
        simp only [mem_append, mem_cons, not_mem_nil, or_false] at hc
        rcases hc with (rfl | hc) | rfl
        · exact hisName.1 hr
        · exact hnone c hc hisName
        · exact hisName.2.2 rfl
      | cons name names =>
        have hmem : name ∈ init ∧ IsName name := by
          have hmem : name ∈ (init.filter fun c => IsName c).reverse := by simp [hn]
          simpa using hmem
        rw [cons_append, tail_cons, suffix_append_iff]
        have hname : ∃ c ∈ r :: init ++ [['.', '.']], IsName c :=
          ⟨name, by simp [hmem.1], hmem.2⟩
        exact ⟨fun hr => ⟨by simp [hr], fun _ => hname⟩, fun hr => by simpa using hr.1⟩
    · have hinner : ∃ inner, enter ((init.filter fun c => IsName c).reverse ++
          (wakeupName ++ r) :: resolve parentDir) last =
            inner ++ (wakeupName ++ r) :: resolve parentDir := by
        unfold enter
        rw [if_neg hlast]
        split
        · exact ⟨_, rfl⟩
        · exact ⟨last :: _, rfl⟩
      obtain ⟨inner, hinner⟩ := hinner
      rw [hinner, suffix_append_iff]
      simp [hlast]

lemma checkFilePath_iff {filePath : String} : checkFilePath filePath ↔
    ∃ rest, filePath.toList = wakeupFilePathPrefix.toList ++ rest ∧
      ¬ parentPathPrefix.toList <:+: wakeupFilePathPrefix.toList ++ rest := by
  rw [checkFilePath, Bool.and_eq_true, isPrefixOf_iff_prefix]
  constructor
  · rintro ⟨⟨rest, hrest⟩, hparent⟩
    refine ⟨rest, hrest.symm, ?_⟩
    rw [hrest]
    simpa using hparent
  · rintro ⟨rest, hrest, hparent⟩
    rw [hrest]
    exact ⟨prefix_append _ _, by simpa using hparent⟩

theorem confined_iff (filePath : String) (buffer : List UInt8)
    (h : getWakeupSourceFile filePath = some filePath ∨
      sendWakeupFile filePath buffer = some (filePath, buffer)) :
    let rest := filePath.toList.drop wakeupFilePathPrefix.toList.length
    Confined filePath.toList ↔
      (rest = [] ∨ rest.head? = some '/') ∧
        ((components rest).getLast? = some ['.', '.'] → ∃ c ∈ components rest, IsName c) := by
  have hcheck : checkFilePath filePath := by
    unfold getWakeupSourceFile sendWakeupFile at h
    by_contra hnot
    simp [hnot] at h
  obtain ⟨rest, hrest, hparent⟩ := checkFilePath_iff.1 hcheck
  intro rest'
  have hdrop : rest' = rest := by simp only [rest', hrest, drop_left]
  rw [hdrop, hrest]
  exact confined_append_iff hparent

theorem confined_iff_inside :
    Confined "/data/service/el0/intelligent_voice/wakeup/a.wav".toList :=
  (confined_iff "/data/service/el0/intelligent_voice/wakeup/a.wav" [] (.inl (by decide))).2
    ⟨.inr (by decide), by decide⟩

theorem wakeup_files_outside :
    let sibling := "/data/service/el0/intelligent_voice/wakeup_x/a"
    let above := "/data/service/el0/intelligent_voice/wakeup/.."
    getWakeupSourceFile sibling = some sibling ∧ ¬ Confined sibling.toList ∧
      getWakeupSourceFile above = some above ∧ ¬ Confined above.toList := by
  decide

end FilePath
end IntellVoice.Service
