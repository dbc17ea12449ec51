import IntellVoice.Service.Parameters

/-! `SetTriggerParameter` takes the trigger's parameters out of a text. -/

namespace IntellVoice.Wakeup
open Service Utils.StringUtil List

inductive TriggerWrite where
  | setStringKVPair (key value : String)
  | triggerSetParameter (key value : String)
deriving DecidableEq

def appendPair (newKeyValueList : String) (pair : String × String) : String :=
  (if newKeyValueList = "" then "" else newKeyValueList ++ ";") ++ pair.1 ++ "=" ++ pair.2

def renderPairs (pairs : List (String × String)) : String := pairs.foldl appendPair ""

def writes (pair : String × String) : List TriggerWrite :=
  [.setStringKVPair pair.1 pair.2, .triggerSetParameter pair.1 pair.2]

def setTriggerParameter (keyValueList : String) : List TriggerWrite × String :=
  let kvpairs := (splitStringToKVPair keyValueList).entries
  let processed := kvpairs.filter (·.1 ∈ triggerParams)
  let processedKeys := processed.map Prod.fst
  (processed.flatMap writes, renderPairs (kvpairs.filter (·.1 ∉ processedKeys)))

-- what lets a pair survive being rendered and parsed again
structure Clean (pair : String × String) : Prop where
  key : ';' ∉ pair.1.toList ∧ delimiterEqualSign ∉ pair.1.toList
  value : ';' ∉ pair.2.toList
  trimmed : trim pair.1.toList = pair.1.toList ∧ trim pair.2.toList = pair.2.toList
  nonempty : pair.1.toList ≠ [] ∧ pair.2.toList ≠ []

def pairLine (pair : String × String) : List Char :=
  pair.1.toList ++ delimiterEqualSign :: pair.2.toList

lemma clean_of_mem {keyValueList : String} {pair : String × String}
    (h : pair ∈ (splitStringToKVPair keyValueList).entries) : Clean pair := by
  obtain ⟨line, hline, hpair⟩ :=
    (find?_foldl_insertPair (OrderedMap.find?_eq_some_iff.2 h)).resolve_left (by simp)
  have hsep := not_mem_of_mem_splitFrom not_mem_nil hline
  have hvalue := subset_of_splitLineToPair hpair
  unfold splitLineToPair at hpair
  split at hpair
  · cases hpair
  · cases hpair
  dsimp only at hpair
  obtain ⟨hne, hpair⟩ := Option.ite_none_left_eq_some.1 hpair
  rw [not_or] at hne
  obtain ⟨hkey, hsecond⟩ := Prod.mk.inj (Option.some.inj hpair)
  rw [hkey, hsecond] at hne
  refine ⟨⟨fun hmem => hsep ?_, fun hmem => ?_⟩, fun hmem => hsep (hvalue hmem), ⟨?_, ?_⟩, hne⟩
  · exact (List.takeWhile_prefix _).subset (mem_of_mem_trim (hkey ▸ hmem))
  · have hne := mem_takeWhile_imp (mem_of_mem_trim (hkey ▸ hmem))
    simp at hne
  · rw [← hkey, trim_trim]
  · rw [← hsecond, trim_trim]

lemma split_renderPairs {pairs : List (String × String)} (h : ∀ pair ∈ pairs, Clean pair)
    (list : String) :
    split (pairs.foldl appendPair list).toList ';' =
      split list.toList ';' ++ pairs.map pairLine := by
  induction pairs generalizing list with
  | nil => simp
  | cons pair pairs ih =>
    rw [forall_mem_cons] at h
    have hline : split (pairLine pair) ';' = [pairLine pair] := by
      refine split_of_not_mem ?_ (by simp [pairLine])
      simp [pairLine, h.1.key.1, h.1.value, delimiterEqualSign]
    rw [foldl_cons, ih h.2, map_cons, append_cons]
    congr 1
    by_cases hlist : list = ""
    · have htext : (appendPair list pair).toList = pairLine pair := by
        simp [appendPair, pairLine, hlist, delimiterEqualSign]
      rw [htext, hline, hlist]
      rfl
    · have htext : (appendPair list pair).toList = list.toList ++ ';' :: pairLine pair := by
        simp [appendPair, pairLine, hlist, delimiterEqualSign]
      rw [htext, split, splitFrom_append, ← split, ← split, hline]

lemma splitStringToKVPair_renderPairs {m : OrderedMap String String}
    (h : ∀ pair ∈ m.entries, Clean pair) : splitStringToKVPair (renderPairs m.entries) = m := by
  have hinsert : ∀ pair ∈ m.entries, ∀ n, insertPair n (pairLine pair) = n.set pair.1 pair.2 := by
    intro pair hpair n
    have hclean := h pair hpair
    rw [insertPair, pairLine, splitLineToPair_append hclean.key.2 (by
      rw [hclean.trimmed.1]
      exact hclean.nonempty.1), hclean.trimmed.1, hclean.trimmed.2, if_neg hclean.nonempty.2]
    simp
  rw [splitStringToKVPair, renderPairs, split_renderPairs h]
  refine OrderedMap.ext_find? fun k => ?_
  rw [show split "".toList ';' = [] from rfl, nil_append, foldl_map,
    foldl_ext _ _ _ fun n pair hpair => hinsert pair hpair n, OrderedMap.find?_foldl_entries]
  simp

lemma count_writes (pairs : List (String × String)) (key value : String) :
    (pairs.flatMap writes).count (.setStringKVPair key value) = pairs.count (key, value) ∧
      (pairs.flatMap writes).count (.triggerSetParameter key value) = pairs.count (key, value) := by
  induction pairs with
  | nil => simp
  | cons pair pairs ih => simp_all [writes, count_cons, Prod.ext_iff]

theorem setTriggerParameter_pairs (keyValueList : String) :
    splitStringToKVPair (setTriggerParameter keyValueList).2 =
        (splitStringToKVPair keyValueList).discard (· ∈ triggerParams) ∧
      (∀ key value,
        let times := if key ∈ triggerParams ∧
          (splitStringToKVPair keyValueList).find? key = some value then 1 else 0
        (setTriggerParameter keyValueList).1.count (.setStringKVPair key value) = times ∧
          (setTriggerParameter keyValueList).1.count (.triggerSetParameter key value) = times) ∧
      splitStringToKVPair (renderPairs (splitStringToKVPair keyValueList).entries) =
        splitStringToKVPair keyValueList := by
  refine ⟨?_, fun key value => ?_, splitStringToKVPair_renderPairs fun pair => clean_of_mem⟩
  · have hrest : (splitStringToKVPair keyValueList).entries.filter (fun pair =>
        pair.1 ∉ ((splitStringToKVPair keyValueList).entries.filter (·.1 ∈ triggerParams)).map
          Prod.fst) =
        ((splitStringToKVPair keyValueList).discard (· ∈ triggerParams)).entries := by
      refine filter_congr fun pair hpair => ?_
      have hprocessed : (∃ value, (pair.1, value) ∈ (splitStringToKVPair keyValueList).entries) :=
        ⟨pair.2, hpair⟩
      simp [hprocessed]
    rw [setTriggerParameter, hrest]
    exact splitStringToKVPair_renderPairs fun pair hpair => clean_of_mem (mem_of_mem_filter hpair)
  · have hnodup : (splitStringToKVPair keyValueList).entries.Nodup :=
      (splitStringToKVPair keyValueList).sorted.imp fun hlt heq => hlt.ne (congrArg Prod.fst heq)
    have hcount := count_writes
      ((splitStringToKVPair keyValueList).entries.filter (·.1 ∈ triggerParams)) key value
    rw [(hnodup.filter _).count] at hcount
    simpa [setTriggerParameter, OrderedMap.find?_eq_some_iff, and_comm] using hcount

end IntellVoice.Wakeup
