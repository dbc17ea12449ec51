import IntellVoice.Utils.TimerThread

/-! `ResetTimer` has a path of its own for a list of one timer. -/

namespace IntellVoice.Utils
open Transition List

namespace TimerMgr
variable {ι : Type*} {mgr : TimerMgr ι}

lemma eraseItem_eq_filter {timerId : Nat} {queue : List (TimerItem ι)}
    (hdistinct : (queue.map (·.timerId)).Nodup) :
    eraseItem timerId queue = queue.filter (·.timerId != timerId) := by
  induction queue with
  | nil => rfl
  | cons first rest ih =>
    obtain ⟨hfirst, hrest⟩ := nodup_cons.1 hdistinct
    unfold eraseItem
    split
    · rename_i hid
      -- nothing behind the first match has the id, so stopping there loses nothing
      have hothers : ∀ it ∈ rest, (it.timerId != timerId) := by
        intro it hit
        rw [bne_iff_ne, ← hid]
        exact fun hsame => hfirst (mem_map.2 ⟨it, hit, hsame⟩)
      rw [filter_cons_of_neg (by simp [hid]), filter_eq_self.2 hothers]
    · rename_i hid
      rw [filter_cons_of_pos (by simpa using hid), ih hrest]

lemma Accounted.itemQueue_killTimer (h : mgr.Accounted) (timerId : Nat) :
    (mgr.killTimer timerId).itemQueue = mgr.itemQueue.filter (·.timerId != timerId) := by
  rcases mgr.killTimer_cases timerId with ⟨heq, hnone⟩ | ⟨-, heq⟩
  · rw [heq, filter_eq_self.2]
    intro it hit
    rw [bne_iff_ne]
    exact fun hid => hnone (mem_map.2 ⟨it, hit, hid⟩)
  · rw [heq]
    exact eraseItem_eq_filter h.distinct

lemma free_killTimer (hfree : false ∈ mgr.idFlags) (timerId : Nat) :
    false ∈ (mgr.killTimer timerId).idFlags := by
  rcases mgr.killTimer_cases timerId with ⟨heq, -⟩ | ⟨-, heq⟩
  · rw [heq]
    exact hfree
  rw [heq]
  obtain ⟨i, hi, hflag⟩ := mem_iff_getElem.1 hfree
  refine mem_iff_getElem.2 ⟨i, by simpa using hi, ?_⟩
  simp [getElem_set, hflag]

@[simp]
lemma status_killTimer (mgr : TimerMgr ι) (timerId : Nat) :
    (mgr.killTimer timerId).status = mgr.status := by
  rcases mgr.killTimer_cases timerId with ⟨heq, -⟩ | ⟨-, heq⟩ <;> rw [heq]

@[simp]
lemma status_setTimer (mgr : TimerMgr ι) (now : Int) (cfg : TimerCfg ι) :
    (mgr.setTimer now cfg).2.status = mgr.status := by
  rcases mgr.setTimer_cases now cfg with heq | ⟨i, -, heq⟩ <;> rw [heq]

lemma Accounted.setTimer_perm (h : mgr.Accounted) (hstarted : mgr.status = .started)
    (hfree : false ∈ mgr.idFlags) (now : Int) (cfg : TimerCfg ι) :
    ∃ i, (mgr.setTimer now cfg).1 = some i ∧ i ∉ mgr.itemQueue.map (·.timerId) ∧
      (mgr.setTimer now cfg).2.itemQueue.Perm
        (⟨i, cfg.type, cfg.cookie, now + cfg.delayUs⟩ :: mgr.itemQueue) := by
  have hset := setTimer_isSome now cfg hstarted hfree
  rcases mgr.setTimer_cases now cfg with heq | ⟨i, hflag, heq⟩
  · rw [heq] at hset
    cases hset
  refine ⟨i, by rw [heq], ?_, ?_⟩
  · rw [h.used i, hflag]
    exact fun hused => nomatch hused
  · rw [heq]
    exact insertItem_perm _ _

end TimerMgr

namespace TimerSystem
variable {ι ο : Type*} {s t : TimerSystem ι ο}

@[simp]
lemma notify_mgr (s : TimerSystem ι ο) : s.notify.mgr = s.mgr := by
  unfold notify
  split <;> rfl

@[simp]
lemma notify_now (s : TimerSystem ι ο) : s.notify.now = s.now := by
  unfold notify
  split <;> rfl

def setTimerId (s : TimerSystem ι ο) (r : TimerRequest ι ο) : Option Nat :=
  match r.currObserver.or s.timerObserver with
  | none => none
  | some observer =>
    (s.mgr.setTimer s.now ⟨⟨r.type, observer, s.count⟩, r.delayUs, r.cookie⟩).1

def resetCall (s : TimerSystem ι ο) (timerId : Nat) (r : TimerRequest ι ο) (killUs setUs : Nat) :
    Option Nat × TimerSystem ι ο :=
  match s.mgr.resetSole s.now timerId r.delayUs with
  | some (none, _) => (none, s)
  | some (some i, mgr) =>
    let moved : TimerSystem ι ο :=
      { s with mgr, history := s.history ++ mgr.itemQueue.map targetRecord }
    (some i, moved.notify)
  | none =>
    let killed := { s with now := s.now + killUs }.killTimer timerId
    let later := { killed with now := killed.now + setUs }
    (later.setTimerId r, later.setTimer r)

lemma killTimer_resets (s : TimerSystem ι ο) (timerId : Nat)
    (resets : Nat → Option (ResetPart ι ο)) :
    { s with resets }.killTimer timerId = { s.killTimer timerId with resets } := by
  cases h : s.mgr.itemQueue.find? (·.timerId == timerId) <;> simp only [killTimer, h]

lemma notify_resets (s : TimerSystem ι ο) (resets : Nat → Option (ResetPart ι ο)) :
    { s with resets }.notify = { s.notify with resets } := by
  obtain ⟨now, mgr, observer, thread, before, count, history⟩ := s
  cases thread <;> rfl

lemma setTimer_resets (s : TimerSystem ι ο) (r : TimerRequest ι ο)
    (resets : Nat → Option (ResetPart ι ο)) :
    { s with resets }.setTimer r = { s.setTimer r with resets } := by
  unfold setTimer
  dsimp only
  cases r.currObserver.or s.timerObserver with
  | none => rfl
  | some observer =>
    dsimp only
    generalize s.mgr.setTimer s.now ⟨⟨r.type, observer, s.count⟩, r.delayUs, r.cookie⟩ = set
    obtain ⟨i, mgr⟩ := set
    cases i with
    | none => rfl
    | some i =>
      dsimp only
      split
      · rw [← notify_resets]
      · rfl

lemma resets_killTimer (s : TimerSystem ι ο) (timerId : Nat) :
    (s.killTimer timerId).resets = s.resets :=
  congrArg (·.resets) (killTimer_resets s timerId s.resets)

lemma resets_setTimer (s : TimerSystem ι ο) (r : TimerRequest ι ο) :
    (s.setTimer r).resets = s.resets :=
  congrArg (·.resets) (setTimer_resets s r s.resets)

variable {caller timerId : Nat} {it : TimerItem (TimerPurpose ι ο)} {r : TimerRequest ι ο}

lemma step_resetCall (hcaller : s.resets caller = none)
    {moved : Option Nat × TimerMgr (TimerPurpose ι ο)}
    (hsole : s.mgr.resetSole s.now timerId r.delayUs = some moved) (killUs setUs : Nat) :
    step s (.resetTimer caller timerId r) = some (s.resetCall timerId r killUs setUs).2 := by
  obtain ⟨i, mgr⟩ := moved
  cases i <;> simp only [step, hcaller, resetTimer, resetCall, hsole]

lemma run_resetCall (hcaller : s.resets caller = none)
    (hsole : s.mgr.resetSole s.now timerId r.delayUs = none) (killUs setUs : Nat) :
    run step s [.resetTimer caller timerId r, .tick killUs, .resume caller, .tick setUs,
        .resume caller] = some (s.resetCall timerId r killUs setUs).2 := by
  let killed := { s with now := s.now + killUs }.killTimer timerId
  let later := { killed with now := killed.now + setUs }
  have hkill := killTimer_resets { s with now := s.now + killUs } timerId
    (Function.update s.resets caller (some (.killing timerId r)))
  have hset := setTimer_resets later r (Function.update s.resets caller (some (.setting r)))
  have hcall : s.resetCall timerId r killUs setUs = (later.setTimerId r, later.setTimer r) := by
    simp only [resetCall, hsole]
    rfl
  -- nobody's entry changes but the caller's, which is gone again at the end
  have hresets : (later.setTimer r).resets = s.resets :=
    (resets_setTimer later r).trans (resets_killTimer { s with now := s.now + killUs } timerId)
  simp only [run_cons, run_nil, step, hcaller, resetTimer, hsole, Option.bind_some,
    Function.update_self, Function.update_idem]
  rw [hkill, hset, hcall, ← hcaller, Function.update_eq_self, ← hresets]

def ResetContract (s : TimerSystem ι ο) (timerId : Nat) (r : TimerRequest ι ο)
    (result : Option Nat × TimerSystem ι ο) : Prop :=
  ∃ item : TimerItem (TimerPurpose ι ο), result.1 = some item.timerId ∧
    item.type.type = r.type ∧ item.cookie = r.cookie ∧
    r.currObserver.or s.timerObserver = some item.type.observer ∧
    item.tgtUs = result.2.now + r.delayUs ∧
    result.2.mgr.itemQueue.Perm (item :: s.mgr.itemQueue.filter (·.timerId != timerId)) ∧
    ∀ other ∈ s.mgr.itemQueue, other.timerId ≠ timerId → other.timerId ≠ item.timerId

lemma setTimer_perm {observer : ο} (h : s.mgr.Accounted) (hstarted : s.mgr.status = .started)
    (hfree : false ∈ s.mgr.idFlags)
    (hobserver : r.currObserver.or s.timerObserver = some observer) :
    ∃ i, s.setTimerId r = some i ∧ i ∉ s.mgr.itemQueue.map (·.timerId) ∧
      (s.setTimer r).now = s.now ∧ (s.setTimer r).mgr.itemQueue.Perm
        (⟨i, ⟨r.type, observer, s.count⟩, r.cookie, s.now + r.delayUs⟩ :: s.mgr.itemQueue) := by
  obtain ⟨i, hid, hnew, hperm⟩ :=
    h.setTimer_perm hstarted hfree s.now ⟨⟨r.type, observer, s.count⟩, r.delayUs, r.cookie⟩
  have hset : (s.setTimer r).now = s.now ∧ (s.setTimer r).mgr =
      (s.mgr.setTimer s.now ⟨⟨r.type, observer, s.count⟩, r.delayUs, r.cookie⟩).2 := by
    obtain ⟨mgr, hpair⟩ : ∃ mgr, s.mgr.setTimer s.now
        ⟨⟨r.type, observer, s.count⟩, r.delayUs, r.cookie⟩ = (some i, mgr) := ⟨_, Prod.ext hid rfl⟩
    simp only [setTimer, hobserver, hpair]
    cases s.mgr.needNotify (s.now + r.delayUs)
    · exact ⟨rfl, rfl⟩
    · exact ⟨notify_now _, notify_mgr _⟩
  refine ⟨i, ?_, hnew, hset.1, ?_⟩
  · simp only [setTimerId, hobserver]
    exact hid
  · rw [hset.2]
    exact hperm

lemma killTimer_mgr (s : TimerSystem ι ο) (timerId : Nat) :
    (s.killTimer timerId).mgr = s.mgr.killTimer timerId := by
  unfold killTimer
  split
  · rename_i hnone
    rcases s.mgr.killTimer_cases timerId with ⟨heq, -⟩ | ⟨hmem, -⟩
    · exact heq.symm
    · obtain ⟨it, hit, hid⟩ := mem_map.1 hmem
      exact absurd (beq_iff_eq.2 hid) (find?_eq_none.1 hnone it hit)
  · rfl

lemma killTimer_timerObserver (s : TimerSystem ι ο) (timerId : Nat) :
    (s.killTimer timerId).timerObserver = s.timerObserver := by
  unfold killTimer
  split <;> rfl

lemma resetContract_of_killed (h : s.mgr.Accounted) (hstarted : s.mgr.status = .started)
    (hfree : false ∈ s.mgr.idFlags) (hsole : s.mgr.resetSole s.now timerId r.delayUs = none)
    (killUs setUs : Nat) : s.ResetContract timerId r (s.resetCall timerId r killUs setUs) ↔
      (r.currObserver.or s.timerObserver).isSome := by
  let killed := { s with now := s.now + killUs }.killTimer timerId
  let later := { killed with now := killed.now + setUs }
  have hcall : s.resetCall timerId r killUs setUs = (later.setTimerId r, later.setTimer r) := by
    simp only [resetCall, hsole]
    rfl
  have hmgr : later.mgr = s.mgr.killTimer timerId :=
    killTimer_mgr { s with now := s.now + killUs } timerId
  constructor
  · rintro ⟨item, -, -, -, hobserver, -⟩
    rw [hobserver]
    rfl
  · intro hsome
    obtain ⟨observer, hobserver⟩ := Option.isSome_iff_exists.1 hsome
    have hlater : r.currObserver.or later.timerObserver = some observer := by
      rw [← hobserver]
      exact congrArg _ (killTimer_timerObserver { s with now := s.now + killUs } timerId)
    obtain ⟨i, hid, hnew, hnow, hperm⟩ := setTimer_perm (s := later) (hmgr ▸ h.killTimer timerId)
      (by rw [hmgr, TimerMgr.status_killTimer, hstarted])
      (hmgr ▸ TimerMgr.free_killTimer hfree timerId) hlater
    rw [hmgr, h.itemQueue_killTimer timerId] at hnew hperm
    rw [hcall]
    refine ⟨_, hid, rfl, rfl, hobserver, ?_, hperm, ?_⟩
    · rw [hnow]
    · -- the id is free after the kill, so no timer that is left has it
      intro other hother hne hsame
      exact hnew (mem_map.2 ⟨other, mem_filter.2 ⟨hother, bne_iff_ne.2 hne⟩, hsame⟩)

lemma resetCall_other (hqueue : s.mgr.itemQueue = [it]) (hid : it.timerId ≠ timerId)
    (r : TimerRequest ι ο) (killUs setUs : Nat) :
    s.resetCall timerId r killUs setUs = (none, s) := by
  simp only [resetCall, TimerMgr.resetSole, hqueue, ne_eq, hid, not_false_eq_true, if_true]

lemma resetCall_moved (hqueue : s.mgr.itemQueue = [it]) (r : TimerRequest ι ο)
    (killUs setUs : Nat) :
    (s.resetCall it.timerId r killUs setUs).1 = some it.timerId ∧
      (s.resetCall it.timerId r killUs setUs).2.now = s.now ∧
      (s.resetCall it.timerId r killUs setUs).2.mgr.itemQueue =
        [{ it with tgtUs := s.now + r.delayUs }] := by
  simp only [resetCall, TimerMgr.resetSole, hqueue, ne_eq, not_true_eq_false, if_false, notify_now,
    notify_mgr, and_self]

lemma resetContract_of_sole (hqueue : s.mgr.itemQueue = [it]) (r : TimerRequest ι ο)
    (killUs setUs : Nat) : s.ResetContract timerId r (s.resetCall timerId r killUs setUs) ↔
      it.timerId = timerId ∧ it.type.type = r.type ∧ it.cookie = r.cookie ∧
        r.currObserver.or s.timerObserver = some it.type.observer := by
  by_cases hid : it.timerId = timerId
  · subst hid
    obtain ⟨hreturn, hnow, hmoved⟩ := resetCall_moved hqueue r killUs setUs
    -- the only timer has the id, so nothing else has to be there
    have hothers : s.mgr.itemQueue.filter (·.timerId != it.timerId) = [] := by
      simp [hqueue]
    unfold ResetContract
    rw [hreturn, hnow, hmoved, hothers]
    constructor
    · rintro ⟨item, -, htype, hcookie, hobserver, -, hperm, -⟩
      obtain rfl := perm_singleton.1 hperm.symm |> singleton_inj.1
      exact ⟨rfl, htype, hcookie, hobserver⟩
    · rintro ⟨-, htype, hcookie, hobserver⟩
      refine ⟨{ it with tgtUs := s.now + r.delayUs }, rfl, htype, hcookie, hobserver, rfl, .refl _,
        ?_⟩
      intro other hother hne
      rw [hqueue, mem_singleton] at hother
      exact absurd (congrArg _ hother) hne
  · rw [resetCall_other hqueue hid]
    constructor
    · rintro ⟨item, hreturn, -⟩
      cases hreturn
    · exact fun hsame => absurd hsame.1 hid

@[simp]
lemma setTimer_status (s : TimerSystem ι ο) (r : TimerRequest ι ο) :
    (s.setTimer r).mgr.status = s.mgr.status := by
  unfold setTimer
  split
  · rfl
  rename_i observer _
  have hkept := s.mgr.status_setTimer s.now ⟨⟨r.type, observer, s.count⟩, r.delayUs, r.cookie⟩
  split
  · rfl
  rename_i mgr heq
  rw [heq] at hkept
  dsimp only
  split
  · rw [notify_mgr]
    exact hkept
  · exact hkept

@[simp]
lemma killTimer_status (s : TimerSystem ι ο) (timerId : Nat) :
    (s.killTimer timerId).mgr.status = s.mgr.status := by
  rw [killTimer_mgr, TimerMgr.status_killTimer]

lemma resetTimer_status (s : TimerSystem ι ο) (caller timerId : Nat) (r : TimerRequest ι ο) :
    (s.resetTimer caller timerId r).mgr.status = s.mgr.status := by
  unfold resetTimer
  split
  · rfl
  · rename_i hsole
    rcases TimerMgr.resetSole_cases hsole with ⟨⟨⟩, -⟩ | ⟨it, -, -, -, rfl⟩
    rw [notify_mgr]
  · rfl

lemma turn_status (s : TimerSystem ι ο) : s.turn.mgr.status = s.mgr.status := by
  unfold turn
  split
  · rfl
  split
  · rfl
  split
  · rfl
  rename_i hexpire
  obtain ⟨-, rest, -, rfl⟩ := TimerMgr.expire_cases hexpire
  rfl

lemma step_status {e : TimerAction ι ο} (hstep : step s e = some t) :
    t.mgr.status = s.mgr.status := by
  cases e with
  | tick us =>
    cases hstep
    rfl
  | setTimer r =>
    cases hstep
    exact setTimer_status s r
  | killTimer timerId =>
    cases hstep
    exact killTimer_status s timerId
  | resetTimer caller timerId r =>
    cases hcaller : s.resets caller with
    | none =>
      simp only [step, hcaller, Option.some.injEq] at hstep
      rw [← hstep, resetTimer_status]
    | some part => simp [step, hcaller] at hstep
  | resume caller =>
    cases hcaller : s.resets caller with
    | none => simp [step, hcaller] at hstep
    | some part =>
      cases part with
      | killing timerId r =>
        simp only [step, hcaller, Option.some.injEq] at hstep
        rw [← hstep]
        exact killTimer_status s timerId
      | setting r =>
        simp only [step, hcaller, Option.some.injEq] at hstep
        rw [← hstep]
        exact setTimer_status s r
  | turn =>
    cases hthread : s.thread with
    | ready =>
      simp only [step, hthread, Option.some.injEq] at hstep
      rw [← hstep, turn_status]
    | _ => simp [step, hthread] at hstep
  | wake =>
    cases hthread : s.thread with
    | sleeping wakeUp notified =>
      simp only [step, hthread, Option.some.injEq] at hstep
      rw [← hstep]
    | _ => simp [step, hthread] at hstep
  | notifyObserver =>
    cases hthread : s.thread with
    | calling item =>
      simp only [step, hthread, Option.some.injEq] at hstep
      rw [← hstep]
    | _ => simp [step, hthread] at hstep

theorem run_resetTimer_iff (maxTimerNum : Nat) (observer : Option ο) (es : List (TimerAction ι ο))
    (s : TimerSystem ι ο) (hrun : run step (started maxTimerNum observer) es = some s)
    (hfree : false ∈ s.mgr.idFlags) (timerId : Nat) (r : TimerRequest ι ο) (killUs setUs : Nat) :
    s.ResetContract timerId r (s.resetCall timerId r killUs setUs) ↔
      (r.currObserver.or s.timerObserver).isSome ∧
        ∀ it, s.mgr.itemQueue = [it] →
          it.timerId = timerId ∧ it.type.type = r.type ∧ it.cookie = r.cookie ∧
            r.currObserver.or s.timerObserver = some it.type.observer := by
  have hsound : s.Sound :=
    run_invariant_all (fun _ _ _ h hstep => step_sound h hstep)
      ⟨booked_started maxTimerNum observer, wakesInTime_of_awake fun _ heq => by cases heq⟩ hrun
  have hstarted : s.mgr.status = .started :=
    run_invariant_all (I := fun s : TimerSystem ι ο => s.mgr.status = .started)
      (fun _ _ _ h hstep => (step_status hstep).trans h) rfl hrun
  by_cases hsole : ∃ it, s.mgr.itemQueue = [it]
  · obtain ⟨it, hqueue⟩ := hsole
    rw [resetContract_of_sole hqueue]
    constructor
    · intro hsame
      refine ⟨by rw [hsame.2.2.2]; rfl, ?_⟩
      intro it' hqueue'
      obtain rfl := singleton_inj.1 (hqueue.symm.trans hqueue')
      exact hsame
    · rintro ⟨-, hsame⟩
      exact hsame it hqueue
  · have hnone : s.mgr.resetSole s.now timerId r.delayUs = none := by
      unfold TimerMgr.resetSole
      split
      · rename_i it hqueue
        exact absurd ⟨it, hqueue⟩ hsole
      · rfl
    rw [resetContract_of_killed hsound.accounted hstarted hfree hnone]
    constructor
    · intro hobserver
      exact ⟨hobserver, fun it hqueue => absurd ⟨it, hqueue⟩ hsole⟩
    · exact fun h => h.1

theorem run_resetTimer_two :
    ∃ s : TimerSystem Nat Nat, run step (started 10 (some 1)) [.setTimer ⟨1, 50, 0, none⟩,
        .setTimer ⟨2, 70, 0, none⟩] = some s ∧
      s.ResetContract 0 ⟨1, 90, 5, some 2⟩ (s.resetCall 0 ⟨1, 90, 5, some 2⟩ 3 4) := by
  refine ⟨_, rfl, (run_resetTimer_iff 10 (some 1) [.setTimer ⟨1, 50, 0, none⟩,
    .setTimer ⟨2, 70, 0, none⟩] _ rfl (by decide) 0 ⟨1, 90, 5, some 2⟩ 3 4).2 ⟨rfl, ?_⟩⟩
  intro it hqueue
  cases hqueue

theorem reset_of_sole_timer :
    ∃ s : TimerSystem Nat Nat, run step (started 10 (some 1)) [.setTimer ⟨1, 50, 0, none⟩] =
      some s ∧
      ¬ s.ResetContract 0 ⟨2, 90, 5, none⟩ (s.resetCall 0 ⟨2, 90, 5, none⟩ 3 4) ∧
      (s.resetCall 7 ⟨2, 90, 5, none⟩ 3 4).1 = none ∧
      ¬ s.ResetContract 7 ⟨2, 90, 5, none⟩ (s.resetCall 7 ⟨2, 90, 5, none⟩ 3 4) := by
  refine ⟨_, rfl, ?_, rfl, ?_⟩
  all_goals
    rw [resetContract_of_sole rfl]
    decide

end TimerSystem
end IntellVoice.Utils
