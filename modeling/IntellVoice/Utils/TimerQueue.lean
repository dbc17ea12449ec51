import Mathlib.Data.List.Nodup
import IntellVoice.Utils.TimerMgr

/-! `SetTimer` puts an item in its place and marks the first free id. -/

namespace IntellVoice.Utils.TimerMgr
open List
variable {ι : Type*} {mgr mgr' : TimerMgr ι}

structure Accounted (mgr : TimerMgr ι) : Prop where
  sorted : mgr.itemQueue.Pairwise (·.tgtUs ≤ ·.tgtUs)
  distinct : (mgr.itemQueue.map (·.timerId)).Nodup
  used : ∀ i, i ∈ mgr.itemQueue.map (·.timerId) ↔ mgr.idFlags[i]? = some true

lemma accounted_replicate (n : Nat) :
    ({ idFlags := replicate n false } : TimerMgr ι).Accounted where
  sorted := .nil
  distinct := .nil
  used i := by
    show i ∈ [] ↔ (replicate n false)[i]? = some true
    simp [List.getElem?_replicate]

lemma insertItem_perm (item : TimerItem ι) (queue : List (TimerItem ι)) :
    (insertItem item queue).Perm (item :: queue) := by
  induction queue with
  | nil => exact .refl _
  | cons it rest ih =>
    unfold insertItem
    split
    · exact (ih.cons it).trans (.swap item it rest)
    · exact .refl _

variable {now : Int} {queue : List (TimerItem ι)} {timerId : Nat} {it item : TimerItem ι}

lemma mem_insertItem : it ∈ insertItem item queue ↔ it = item ∨ it ∈ queue := by
  rw [(insertItem_perm item queue).mem_iff, mem_cons]

lemma pairwise_insertItem (hsorted : queue.Pairwise (·.tgtUs ≤ ·.tgtUs)) :
    (insertItem item queue).Pairwise (·.tgtUs ≤ ·.tgtUs) := by
  induction queue with
  | nil => exact pairwise_singleton _ _
  | cons it rest ih =>
    obtain ⟨hfirst, hrest⟩ := pairwise_cons.1 hsorted
    unfold insertItem
    split
    · refine pairwise_cons.2 ⟨fun other hother => ?_, ih hrest⟩
      rcases mem_insertItem.1 hother with rfl | hother
      · omega
      · exact hfirst other hother
    -- the new item goes before the first one that does not expire earlier
    refine pairwise_cons.2 ⟨fun other hother => ?_, hsorted⟩
    rcases mem_cons.1 hother with rfl | hother
    · omega
    · have := hfirst other hother
      omega

lemma eraseItem_eq_eraseP (timerId : Nat) (queue : List (TimerItem ι)) :
    eraseItem timerId queue = queue.eraseP (·.timerId == timerId) := by
  induction queue with
  | nil => rfl
  | cons it rest ih =>
    unfold eraseItem
    split <;> rename_i hid <;> simp [hid, ih]

lemma eraseItem_sublist (timerId : Nat) (queue : List (TimerItem ι)) :
    (eraseItem timerId queue).Sublist queue := by
  rw [eraseItem_eq_eraseP]
  exact eraseP_sublist

lemma mem_eraseItem (hdistinct : (queue.map (·.timerId)).Nodup) :
    it ∈ eraseItem timerId queue ↔ it ∈ queue ∧ it.timerId ≠ timerId := by
  induction queue with
  | nil => simp [eraseItem]
  | cons first rest ih =>
    obtain ⟨hfirst, hrest⟩ := nodup_cons.1 hdistinct
    unfold eraseItem
    split
    · rename_i hid
      subst hid
      constructor
      · -- the loop breaks at the first match; the ids differ, so nothing else matches
        intro hit
        exact ⟨.tail _ hit, fun hsame => hfirst (mem_map.2 ⟨it, hit, hsame⟩)⟩
      · rintro ⟨hit, hother⟩
        rcases mem_cons.1 hit with rfl | hit
        · exact absurd rfl hother
        · exact hit
    · rename_i hid
      rw [mem_cons, mem_cons, ih hrest]
      constructor
      · rintro (rfl | ⟨hit, hother⟩)
        · exact ⟨.inl rfl, hid⟩
        · exact ⟨.inr hit, hother⟩
      · rintro ⟨rfl | hit, hother⟩
        · exact .inl rfl
        · exact .inr ⟨hit, hother⟩

lemma setTimer_cases (mgr : TimerMgr ι) (now : Int) (cfg : TimerCfg ι) :
    mgr.setTimer now cfg = (none, mgr) ∨ ∃ i, mgr.idFlags[i]? = some false ∧
        mgr.setTimer now cfg = (some i, { mgr with
          idFlags := mgr.idFlags.set i true
          itemQueue := insertItem
            ⟨i, cfg.type, cfg.cookie, now + cfg.delayUs⟩ mgr.itemQueue }) := by
  unfold setTimer
  split
  · exact .inl rfl
  unfold allocId
  -- no free flag is `INVALID_ID`, on which `SetTimer` gives up
  cases hfree : mgr.idFlags.findIdx? (· == false) with
  | none => exact .inl rfl
  | some i =>
    obtain ⟨hlt, hflag, -⟩ := findIdx?_eq_some_iff_getElem.1 hfree
    refine .inr ⟨i, ?_, rfl⟩
    rw [List.getElem?_eq_getElem hlt, eq_of_beq hflag]

lemma setTimer_isSome (now : Int) (cfg : TimerCfg ι) (hstarted : mgr.status = .started)
    (hfree : false ∈ mgr.idFlags) : (mgr.setTimer now cfg).1.isSome := by
  have hfound : (mgr.idFlags.findIdx? (· == false)).isSome := by
    rw [findIdx?_isSome]
    exact any_eq_true.2 ⟨false, hfree, rfl⟩
  obtain ⟨i, hi⟩ := Option.isSome_iff_exists.1 hfound
  simp only [setTimer, allocId, hstarted, hi, ne_eq, not_true_eq_false, if_false, Option.map_some,
    Option.isSome_some]

lemma killTimer_cases (mgr : TimerMgr ι) (timerId : Nat) :
    mgr.killTimer timerId = mgr ∧ timerId ∉ mgr.itemQueue.map (·.timerId) ∨
      timerId ∈ mgr.itemQueue.map (·.timerId) ∧ mgr.killTimer timerId = { mgr with
        idFlags := mgr.idFlags.set timerId false
        itemQueue := eraseItem timerId mgr.itemQueue } := by
  have hany : mgr.itemQueue.any (·.timerId == timerId) ↔
      timerId ∈ mgr.itemQueue.map (·.timerId) := by
    simp [any_eq_true]
  unfold killTimer
  split
  · rename_i hfound
    exact .inr ⟨hany.1 hfound, rfl⟩
  · rename_i hfound
    exact .inl ⟨rfl, fun hmem => hfound (hany.2 hmem)⟩

lemma resetSole_cases {delayUs : Int} {r : Option Nat}
    (hsole : mgr.resetSole now timerId delayUs = some (r, mgr')) : r = none ∧ mgr' = mgr ∨
      ∃ it, mgr.itemQueue = [it] ∧ it.timerId = timerId ∧ r = some timerId ∧
        mgr' = { mgr with itemQueue := [{ it with tgtUs := now + delayUs }] } := by
  unfold resetSole at hsole
  split at hsole
  · rename_i it hqueue
    split at hsole
    · cases hsole
      exact .inl ⟨rfl, rfl⟩
    rename_i hid
    cases hsole
    exact .inr ⟨it, hqueue, Decidable.not_not.1 hid, rfl, rfl⟩
  · cases hsole

lemma expire_cases (hexpire : mgr.expire now = some (it, mgr')) :
    it.tgtUs ≤ now ∧ ∃ rest, mgr.itemQueue = it :: rest ∧
      mgr' = { mgr with idFlags := mgr.idFlags.set it.timerId false, itemQueue := rest } := by
  obtain ⟨hdue, hqueue⟩ := expire_eq_some hexpire
  refine ⟨hdue, mgr'.itemQueue, hqueue, ?_⟩
  unfold expire at hexpire
  rw [hqueue] at hexpire
  simp only [Option.ite_none_left_eq_some, Option.some.injEq, Prod.mk.injEq] at hexpire
  exact hexpire.2.2.2.symm

namespace Accounted

lemma release (h : mgr.Accounted) {timerId : Nat} {queue : List (TimerItem ι)}
    (hsub : queue.Sublist mgr.itemQueue)
    (hmem : ∀ it, it ∈ queue ↔ it ∈ mgr.itemQueue ∧ it.timerId ≠ timerId) :
    ({ mgr with idFlags := mgr.idFlags.set timerId false, itemQueue := queue } :
      TimerMgr ι).Accounted where
  sorted := h.sorted.sublist hsub
  distinct := h.distinct.sublist (hsub.map _)
  used i := by
    have hids : i ∈ queue.map (·.timerId) ↔ i ∈ mgr.itemQueue.map (·.timerId) ∧ i ≠ timerId := by
      simp only [mem_map, hmem]
      constructor
      · rintro ⟨it, ⟨hit, hother⟩, rfl⟩
        exact ⟨⟨it, hit, rfl⟩, hother⟩
      · rintro ⟨⟨it, hit, rfl⟩, hother⟩
        exact ⟨it, ⟨hit, hother⟩, rfl⟩
    show i ∈ queue.map (·.timerId) ↔ (mgr.idFlags.set timerId false)[i]? = some true
    rw [hids, h.used i, List.getElem?_set]
    by_cases hi : timerId = i
    · subst hi
      simp
    · simp [hi, Ne.symm hi]

lemma setTimer (h : mgr.Accounted) (now : Int) (cfg : TimerCfg ι) :
    (mgr.setTimer now cfg).2.Accounted := by
  rcases mgr.setTimer_cases now cfg with heq | ⟨i, hfree, heq⟩
  · rw [heq]
    exact h
  rw [heq]
  have hlt : i < mgr.idFlags.length := (List.getElem?_eq_some_iff.1 hfree).1
  have hperm := (insertItem_perm ⟨i, cfg.type, cfg.cookie, now + cfg.delayUs⟩
    mgr.itemQueue).map (·.timerId)
  -- a free id is not the id of an item
  have hnew : i ∉ mgr.itemQueue.map (·.timerId) := by
    rw [h.used i, hfree]
    simp
  refine ⟨pairwise_insertItem h.sorted, hperm.nodup_iff.2 (.cons hnew h.distinct), fun j => ?_⟩
  show j ∈ (insertItem _ mgr.itemQueue).map (·.timerId) ↔ (mgr.idFlags.set i true)[j]? = some true
  rw [hperm.mem_iff, map_cons, mem_cons, h.used j, List.getElem?_set]
  by_cases hj : i = j
  · subst hj
    simp [hlt]
  · simp [hj, Ne.symm hj]

lemma killTimer (h : mgr.Accounted) (timerId : Nat) : (mgr.killTimer timerId).Accounted := by
  rcases mgr.killTimer_cases timerId with ⟨heq, -⟩ | ⟨-, heq⟩
  · rw [heq]
    exact h
  · rw [heq]
    exact h.release (eraseItem_sublist timerId mgr.itemQueue) fun _ => mem_eraseItem h.distinct

lemma resetSole (h : mgr.Accounted) {now : Int} {timerId : Nat} {delayUs : Int} {r : Option Nat}
    (hsole : mgr.resetSole now timerId delayUs = some (r, mgr')) : mgr'.Accounted := by
  rcases resetSole_cases hsole with ⟨-, rfl⟩ | ⟨it, hqueue, -, -, rfl⟩
  · exact h
  refine ⟨pairwise_singleton _ _, nodup_singleton _, fun i => ?_⟩
  -- the item keeps its id, so the marks are right as they are
  have hused := h.used i
  rw [hqueue] at hused
  exact hused

lemma expire (h : mgr.Accounted) {now : Int} {it : TimerItem ι}
    (hexpire : mgr.expire now = some (it, mgr')) : mgr'.Accounted := by
  obtain ⟨-, rest, hqueue, rfl⟩ := expire_cases hexpire
  have hfirst : it.timerId ∉ rest.map (·.timerId) := by
    have hdistinct := h.distinct
    rw [hqueue] at hdistinct
    exact (nodup_cons.1 hdistinct).1
  refine h.release (hqueue ▸ sublist_cons_self it rest) fun other => ?_
  rw [hqueue, mem_cons]
  constructor
  · intro hother
    exact ⟨.inr hother, fun hsame => hfirst (mem_map.2 ⟨other, hother, hsame⟩)⟩
  · rintro ⟨rfl | hother, hne⟩
    · exact absurd rfl hne
    · exact hother

end Accounted

structure Serving (mgr : TimerMgr ι) : Prop extends Accounted mgr where
  started : mgr.status = .started
  ids : 0 < mgr.idFlags.length

namespace Serving

lemma setTimer_of_nil (h : mgr.Serving) (hempty : mgr.itemQueue = []) (now : Int)
    (cfg : TimerCfg ι) : ∃ i, (mgr.setTimer now cfg).1 = some i ∧
      (mgr.setTimer now cfg).2.itemQueue = [⟨i, cfg.type, cfg.cookie, now + cfg.delayUs⟩] := by
  -- no item has id 0, so it is not marked
  have hflag : mgr.idFlags[0]? = some false := by
    have hused := h.used 0
    rw [hempty, List.getElem?_eq_getElem h.ids] at hused
    rw [List.getElem?_eq_getElem h.ids]
    simpa using hused
  have hset := setTimer_isSome now cfg h.started (mem_of_getElem? hflag)
  rcases mgr.setTimer_cases now cfg with heq | ⟨i, -, heq⟩
  · rw [heq] at hset
    cases hset
  refine ⟨i, by rw [heq], ?_⟩
  rw [heq]
  show insertItem _ mgr.itemQueue = _
  rw [hempty]
  rfl

lemma setTimer (h : mgr.Serving) (now : Int) (cfg : TimerCfg ι) :
    (mgr.setTimer now cfg).2.Serving := by
  refine ⟨h.toAccounted.setTimer now cfg, ?_, ?_⟩
  · rcases mgr.setTimer_cases now cfg with heq | ⟨i, -, heq⟩ <;> rw [heq] <;> exact h.started
  · rcases mgr.setTimer_cases now cfg with heq | ⟨i, -, heq⟩ <;> rw [heq]
    · exact h.ids
    show 0 < (mgr.idFlags.set i true).length
    rw [length_set]
    exact h.ids

lemma killTimer (h : mgr.Serving) (timerId : Nat) : (mgr.killTimer timerId).Serving := by
  refine ⟨h.toAccounted.killTimer timerId, ?_, ?_⟩
  · rcases mgr.killTimer_cases timerId with ⟨heq, -⟩ | ⟨-, heq⟩ <;> rw [heq] <;> exact h.started
  · rcases mgr.killTimer_cases timerId with ⟨heq, -⟩ | ⟨-, heq⟩ <;> rw [heq]
    · exact h.ids
    show 0 < (mgr.idFlags.set timerId false).length
    rw [length_set]
    exact h.ids

lemma resetSole (h : mgr.Serving) {now : Int} {timerId : Nat} {delayUs : Int} {r : Option Nat}
    (hsole : mgr.resetSole now timerId delayUs = some (r, mgr')) : mgr'.Serving := by
  have haccounted := h.toAccounted.resetSole hsole
  rcases resetSole_cases hsole with ⟨-, rfl⟩ | ⟨it, -, -, -, rfl⟩
  · exact h
  · exact ⟨haccounted, h.started, h.ids⟩

lemma expire (h : mgr.Serving) {now : Int} {it : TimerItem ι}
    (hexpire : mgr.expire now = some (it, mgr')) : mgr'.Serving := by
  have haccounted := h.toAccounted.expire hexpire
  obtain ⟨-, rest, -, rfl⟩ := expire_cases hexpire
  refine ⟨haccounted, h.started, ?_⟩
  show 0 < (mgr.idFlags.set it.timerId false).length
  rw [length_set]
  exact h.ids

end Serving
end IntellVoice.Utils.TimerMgr
