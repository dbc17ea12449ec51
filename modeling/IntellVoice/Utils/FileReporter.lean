import Mathlib

/-! `GetReportFiles` reads and removes directories chosen at random. -/

namespace IntellVoice.Utils.FileReporter
open List
open scoped List

def intellVoiceDefaultDataPath : String := "/data/service/el0/intell_voice/report"
def maxFileNum : Nat := 10000

def getDirFiles (entries : List String) : Option (List String) :=
  if entries.length > maxFileNum then none else some entries

def selectLoop (rd : Nat → Nat) :
    Nat → Nat → Nat → List String → List String → List String
  | 0, _, _, _, selectedFiles => selectedFiles
  | count + 1, i, last, reportDirs, selectedFiles =>
    let randomIndex := rd i
    selectLoop rd count (i + 1) (last - 1) (reportDirs.set randomIndex (reportDirs.getD last ""))
      (selectedFiles ++ [reportDirs.getD randomIndex ""])

def selectFiles (rd : Nat → Nat) (count : Nat) (reportDirs : List String) : List String :=
  if reportDirs.length > count then
    selectLoop rd count 0 (reportDirs.length - 1) reportDirs []
  else reportDirs

def filePath (entry : String) : String := intellVoiceDefaultDataPath ++ "/" ++ entry

def getReportFiles {α : Type} (getFileInfo : String → Option α) (rd : Nat → Nat) (count : Int)
    (entries : List String) : List α × List String :=
  if count ≤ 0 then ([], [])
  else
    match getDirFiles entries with
    | none => ([], [])
    | some reportDirs =>
      let paths := (selectFiles rd count.toNat reportDirs).map filePath
      (paths.filterMap getFileInfo, paths)

lemma cons_take_set_perm {α : Type} (l : List α) {r e : Nat} (hr : r ≤ e) (he : e < l.length) :
    l[r] :: (l.set r l[e]).take e ~ l.take (e + 1) := by
  have htake : l.take (e + 1) = l.take e ++ [l[e]] :=
    (take_append_getElem he).symm
  rw [htake]
  rcases Nat.eq_or_lt_of_le hr with rfl | hlt
  · rw [set_getElem_self]
    exact (perm_append_singleton _ _).symm
  have hlen : r < (l.take e).length := by simp; omega
  have hget : (l.take e)[r] = l[r] := getElem_take
  rw [take_set, ← hget]
  calc (l.take e)[r] :: (l.take e).set r l[e]
      ~ (l.take e)[r] :: l[e] :: (l.take e).eraseIdx r :=
        (set_perm_cons_eraseIdx hlen _).cons _
    _ ~ l[e] :: (l.take e)[r] :: (l.take e).eraseIdx r := List.Perm.swap _ _ _
    _ ~ l[e] :: l.take e := (getElem_cons_eraseIdx_perm hlen).cons _
    _ ~ l.take e ++ [l[e]] := (perm_append_singleton _ _).symm

lemma selectLoop_perm (rd : Nat → Nat) (count i e : Nat) (dirs selected : List String)
    (he : e < dirs.length) (hcount : count ≤ e) (hrd : ∀ k < count, rd (i + k) ≤ e - k) :
    ∃ left, selectLoop rd count i e dirs selected ++ left ~ selected ++ dirs.take (e + 1) ∧
      (selectLoop rd count i e dirs selected).length = selected.length + count := by
  induction count generalizing i e dirs selected with
  | zero => exact ⟨_, List.Perm.refl _, rfl⟩
  | succ count ih =>
    have hr : rd i ≤ e := hrd 0 (by omega)
    have hrlen : rd i < dirs.length := by omega
    obtain ⟨left, hperm, hlength⟩ := ih (i + 1) (e - 1)
      (dirs.set (rd i) (dirs.getD e "")) (selected ++ [dirs.getD (rd i) ""])
      (by rw [length_set]; omega) (by omega)
      (fun k hk => by
        have hrange := hrd (k + 1) (by omega)
        rw [show i + 1 + k = i + (k + 1) by omega]
        omega)
    rw [length_append, length_singleton] at hlength
    refine ⟨left, hperm.trans ?_, by rw [selectLoop, hlength]; omega⟩
    rw [getD_eq_getElem _ _ he, getD_eq_getElem _ _ hrlen, append_assoc,
      show e - 1 + 1 = e by omega]
    exact (cons_take_set_perm dirs hr he).append_left selected

lemma selectFiles_perm (rd : Nat → Nat) (count : Nat) (entries : List String)
    (hrd : ∀ k < count, rd k ≤ entries.length - 1 - k) :
    ∃ left, selectFiles rd count entries ++ left ~ entries ∧
      (selectFiles rd count entries).length = min count entries.length := by
  unfold selectFiles
  by_cases hmany : entries.length > count
  · rw [if_pos hmany]
    obtain ⟨left, hperm, hlength⟩ := selectLoop_perm rd count 0 (entries.length - 1) entries []
      (by omega) (by omega) (fun k hk => by rw [Nat.zero_add]; exact hrd k hk)
    refine ⟨left, ?_, by rw [hlength]; simp; omega⟩
    rwa [nil_append, show entries.length - 1 + 1 = entries.length by omega,
      take_length] at hperm
  · rw [if_neg hmany]
    exact ⟨[], by simp, by omega⟩

lemma filePath_injective : Function.Injective filePath := by
  intro a b h
  have hlist := congrArg String.toList h
  simp only [filePath, String.toList_append] at hlist
  exact String.toList_inj.1 (append_cancel_left hlist)

theorem getReportFiles_selects {α : Type} (getFileInfo : String → Option α) (rd : Nat → Nat)
    (count : Int) (entries : List String) (hnodup : entries.Nodup) (hlen : entries.length ≤ 10000)
    (hrd : ∀ k < count.toNat, rd k ≤ entries.length - 1 - k) :
    ∃ selected : List String, selected.Nodup ∧ (∀ entry ∈ selected, entry ∈ entries) ∧
      selected.length = min count.toNat entries.length ∧
      (getReportFiles getFileInfo rd count entries).2 = selected.map filePath ∧
      ∀ entry ∈ entries, entry ∉ selected →
        filePath entry ∉ (getReportFiles getFileInfo rd count entries).2 := by
  have hleave : ∀ selected : List String, ∀ entry ∉ selected,
      filePath entry ∉ selected.map filePath := by
    intro selected entry hentry hmem
    exact hentry ((mem_map_of_injective filePath_injective).1 hmem)
  unfold getReportFiles
  by_cases hcount : count ≤ 0
  · rw [if_pos hcount]
    exact ⟨[], nodup_nil, by simp, by simp; omega, rfl, by simp⟩
  rw [if_neg hcount, getDirFiles, if_neg (by rw [maxFileNum]; omega)]
  obtain ⟨left, hperm, hlength⟩ := selectFiles_perm rd count.toNat entries hrd
  have hall := hperm.nodup_iff.2 hnodup
  exact ⟨_, hall.of_append_left, fun entry he => hperm.subset (mem_append_left _ he),
    hlength, rfl, fun entry _ hnot => hleave _ entry hnot⟩

theorem getReportFiles_selects_two :
    ∃ selected : List String, selected.length = 2 ∧
      (getReportFiles (fun path => some path) (fun _ => 0) 2 ["a", "b", "c"]).2 =
        selected.map filePath :=
  have h := getReportFiles_selects (fun path => some path) (fun _ => 0) 2 ["a", "b", "c"]
    (by decide) (by decide) (fun _ _ => Nat.zero_le _)
  h.imp fun _ hs => ⟨hs.2.2.1, hs.2.2.2.1⟩

end IntellVoice.Utils.FileReporter
