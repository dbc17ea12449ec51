import IntellVoice.Service.AttemptSteps

/-! An accepted update is tried once and then as often as its strategy allows. -/

namespace IntellVoice.Service
open Transition List

def creations (engines : List EngineRecord) (k : Nat) : Nat :=
  engines.countP fun record => record.attempt = some k

structure Thrifty (accepted : List Acceptance) (engines : List EngineRecord) : Prop where
  records : ∀ record ∈ engines, ∃ k q, record.attempt = some k ∧ accepted[k]? = some q ∧
    record.param = q.strategy.param ∧ record.reEnroll = q.reEnroll
  bound : ∀ k q, accepted[k]? = some q → (creations engines k : Int) ≤ 1 + q.strategy.retryTimes

namespace Thrifty
variable {accepted : List Acceptance} {engines : List EngineRecord}

lemma creations_next (h : Thrifty accepted engines) : creations engines accepted.length = 0 := by
  apply countP_eq_zero.2
  intro record hrecord hattempt
  obtain ⟨k, q, hk, hq, _⟩ := h.records record hrecord
  have hnext : k = accepted.length := by simpa [hk] using hattempt
  have hlt : k < accepted.length := (List.getElem?_eq_some_iff.1 hq).1
  omega

lemma accept {q : Acceptance} (h : Thrifty accepted engines) (hq : 0 ≤ q.strategy.retryTimes) :
    Thrifty (accepted ++ [q]) engines := by
  refine ⟨fun record hrecord => ?_, fun k q' hk => ?_⟩
  · obtain ⟨k, q', hattempt, hk, hmade⟩ := h.records record hrecord
    have hlt : k < accepted.length := (List.getElem?_eq_some_iff.1 hk).1
    exact ⟨k, q', hattempt, (List.getElem?_append_left hlt).trans hk, hmade⟩
  · by_cases hlt : k < accepted.length
    · rw [List.getElem?_append_left hlt] at hk
      exact h.bound k q' hk
    -- only the request itself is beyond the others
    have hend : k < (accepted ++ [q]).length := (List.getElem?_eq_some_iff.1 hk).1
    obtain rfl : k = accepted.length := by
      rw [length_append, length_singleton] at hend
      omega
    rw [List.getElem?_concat_length] at hk
    cases hk
    rw [h.creations_next]
    show (0 : Int) ≤ 1 + q.strategy.retryTimes
    omega

lemma creations_append (engines : List EngineRecord) (record : EngineRecord) (k : Nat) :
    creations (engines ++ [record]) k =
      creations engines k + if record.attempt = some k then 1 else 0 := by
  simp [creations, countP_append, countP_singleton]

lemma make {k : Nat} {q : Acceptance} (h : Thrifty accepted engines) (hk : accepted[k]? = some q)
    (hroom : (creations engines k : Int) ≤ q.strategy.retryTimes) :
    Thrifty accepted (engines ++ [⟨some k, q.strategy.param, q.reEnroll⟩]) := by
  refine ⟨fun record hrecord => ?_, fun j q' hj => ?_⟩
  · rcases mem_append.1 hrecord with hold | hnew
    · exact h.records record hold
    · rw [mem_singleton.1 hnew]
      exact ⟨k, q, rfl, hk, rfl, rfl⟩
  · rw [creations_append]
    have hbound := h.bound j q' hj
    by_cases hkj : k = j
    · subst hkj
      cases hk.symm.trans hj
      rw [if_pos rfl]
      omega
    · rw [if_neg (by simpa using hkj)]
      exact hbound

end Thrifty

namespace Attempts
variable {w t u : Attempts} {a : Answers}

def underWay (w : Attempts) : Nat := w.tasks.count .updateRetry + w.base.timer.itemQueue.length

structure Covered (inHand k : Nat) (q : Acceptance) (w : Attempts) : Prop where
  limit : w.base.controller.retryTimesLimit = q.strategy.retryTimes
  retryTimes : w.base.controller.retryTimes ≤ q.strategy.retryTimes
  retries : (w.underWay + inHand : Int) ≤ w.base.controller.retryTimes
  budget : (creations w.engines k + w.underWay + inHand : Int) ≤ 1 + w.base.controller.retryTimes

structure Budgeted (inHand : Nat) (w : Attempts) : Prop where
  faithful : w.Faithful
  thrifty : Thrifty w.accepted w.engines
  covered : ∀ k q, w.held = some k → w.accepted[k]? = some q → w.Covered inHand k q

/-- A request finds no stray retry and allows the retries counted so far. -/
def KeepsBudget (w : Attempts) : Event → Prop
  | .execute a _ => ∀ task ∈ w.base.queue.items.head?,
      (∀ q ∈ task.requests a ++ task.followUp a, 0 ≤ q.strategy.retryTimes ∧
        .updateRetry ∉ w.base.queue.items) ∧
      (∀ q ∈ task.requests a, w.base.controller.isUpdating →
        w.base.controller.curPriority = q.strategy.priority →
          w.base.controller.retryTimes ≤ q.strategy.retryTimes) ∧
      (task = .updateRetry → ∀ k q, w.held = some k → w.accepted[k]? = some q → q.reEnroll = false)
  | _ => True

lemma Detached.count_eq (h : w.Detached t) :
    t.tasks.count .updateRetry = w.tasks.count .updateRetry := by
  cases h with
  | absent _ _ _ htasks | silent _ _ _ htasks => rw [htasks]
  | posts _ _ _ _ htasks => simp [htasks]

lemma Installed.creations_le {attempt : Option Nat} {param : String} {reEnroll : Bool}
    (h : Installed attempt param reEnroll w t) (k : Nat) :
    creations t.engines k ≤ creations w.engines k + 1 := by
  cases h with
  | present _ _ _ hengines =>
    rw [hengines]
    omega
  | made _ _ _ hengines =>
    rw [hengines, Thrifty.creations_append]
    split <;> omega

lemma Installed.thrifty {k : Nat} {q : Acceptance} {accepted : List Acceptance}
    (h : Installed (some k) q.strategy.param q.reEnroll w t) (hw : Thrifty accepted w.engines)
    (hk : accepted[k]? = some q) (hroom : (creations w.engines k : Int) ≤ q.strategy.retryTimes) :
    Thrifty accepted t.engines := by
  cases h with
  | present _ _ _ hengines =>
    rw [hengines]
    exact hw
  | made _ _ _ hengines =>
    rw [hengines]
    exact hw.make hk hroom

namespace Budgeted
variable {m n : Nat}

lemma of_le (h : Budgeted n w) (hfaithful : t.Faithful) (hengines : t.engines = w.engines)
    (haccepted : t.accepted = w.accepted) (hheld : t.held = w.held)
    (hlimit : t.base.controller.retryTimesLimit = w.base.controller.retryTimesLimit)
    (hretryTimes : t.base.controller.retryTimes = w.base.controller.retryTimes)
    (hle : t.underWay + m ≤ w.underWay + n) : Budgeted m t := by
  refine ⟨hfaithful, by rw [hengines, haccepted]; exact h.thrifty, fun k q hk hq => ?_⟩
  obtain ⟨hl, hr, hretries, hbudget⟩ := h.covered k q (hheld ▸ hk) (haccepted ▸ hq)
  refine ⟨hlimit.trans hl, hretryTimes.trans_le hr, ?_, ?_⟩
  · omega
  · rw [hengines]
    omega

lemma nothing_in_hand (h : Budgeted n w) : Budgeted 0 w :=
  h.of_le h.faithful rfl rfl rfl rfl rfl (Nat.le_add_right ..)

lemma same (h : Budgeted n w) (hsame : w.Same t) : Budgeted n t := by
  refine h.of_le (h.faithful.same hsame) ?_ ?_ ?_ ?_ ?_ ?_
  · rw [hsame.ledger]
  · rw [hsame.ledger]
  · rw [hsame.ledger]
  · rw [hsame.controller]
  · rw [hsame.controller]
  · rw [underWay, underWay, hsame.tasks, hsame.timer]

lemma of_idle (h : Budgeted n w) (hfaithful : t.Faithful) (hheld : t.held = none)
    (hengines : t.engines = w.engines) (haccepted : t.accepted = w.accepted) : Budgeted m t := by
  refine ⟨hfaithful, by rw [hengines, haccepted]; exact h.thrifty, fun k q hk => ?_⟩
  simp [hheld] at hk

lemma dropped {called : Bool} (h : Budgeted n w) (hdropped : w.Dropped called t) : Budgeted m t :=
  h.of_idle (h.faithful.dropped hdropped) hdropped.held hdropped.engines hdropped.accepted

variable {q : Acceptance} {r : Bool × Attempts} {task : Task}

lemma begun (h : Budgeted n w) (hbegun : w.Begun q.strategy q.reEnroll t)
    (hretries : (w.underWay : Int) ≤ w.base.controller.retryTimes)
    (hretryTimes : w.base.controller.retryTimes ≤ q.strategy.retryTimes) : Budgeted 0 t := by
  have hnonneg : 0 ≤ q.strategy.retryTimes := by omega
  have hnext : t.accepted[w.accepted.length]? = some q := by simp [hbegun.accepted]
  have hnone := h.thrifty.creations_next
  have haccepted : Thrifty t.accepted w.engines := by
    rw [hbegun.accepted]
    exact h.thrifty.accept hnonneg
  have hunderWay : t.underWay = w.underWay := by
    rw [underWay, underWay, hbegun.tasks, hbegun.itemQueue]
  refine ⟨h.faithful.begun hbegun, hbegun.installed.thrifty haccepted hnext (by omega),
    fun k q' hk hq => ?_⟩
  obtain rfl : w.accepted.length = k := Option.some.inj (hbegun.held.symm.trans hk)
  cases hnext.symm.trans hq
  have hmade := hbegun.installed.creations_le w.accepted.length
  have hkept : t.base.controller.retryTimes = w.base.controller.retryTimes := by
    rw [hbegun.controller]
  refine ⟨by rw [hbegun.controller], hkept.trans_le hretryTimes, ?_, ?_⟩
  all_goals omega

lemma idle_underWay (h : w.Faithful) (hheld : w.held = none) :
    w.underWay = w.tasks.count .updateRetry ∧ w.base.controller.retryTimes = 0 := by
  obtain ⟨hcontroller, hitems, _⟩ := h.idle hheld
  refine ⟨?_, ?_⟩
  · rw [underWay, hitems, length_nil, Nat.add_zero]
  · rw [hcontroller]

lemma begun_idle (h : Budgeted n w) (hheld : w.held = none)
    (hbegun : w.Begun q.strategy q.reEnroll t) (hnonneg : 0 ≤ q.strategy.retryTimes)
    (hcount : w.tasks.count .updateRetry = 0) : Budgeted 0 t := by
  obtain ⟨hunderWay, hretryTimes⟩ := idle_underWay h.faithful hheld
  refine h.begun hbegun ?_ ?_
  · rw [hunderWay, hcount, hretryTimes]
    rfl
  · rw [hretryTimes]
    exact hnonneg

lemma requested (h : Budgeted 0 w) (hnonneg : 0 ≤ q.strategy.retryTimes)
    (hcount : w.tasks.count .updateRetry = 0)
    (hequal : w.base.controller.isUpdating → w.base.controller.curPriority = q.strategy.priority →
      w.base.controller.retryTimes ≤ q.strategy.retryTimes)
    (hr : Requested q.strategy q.reEnroll w r) : Budgeted 0 r.2 := by
  cases hr with
  | refused hsame => exact h.same hsame
  | dropped _ _ hdropped hsame => exact (h.dropped hdropped).same hsame
  | begun hpriority hbegun =>
    cases hheld : w.held with
    | none => exact h.begun_idle hheld hbegun hnonneg hcount
    | some k =>
      obtain ⟨running, hrunning, _, hupdating, _⟩ := h.faithful.held k hheld
      have hretries := (h.covered k running hheld hrunning).retries
      exact h.begun hbegun (by simpa using hretries) (hequal hupdating (hpriority hupdating))
  | replaced _ _ hdropped hbegun =>
    refine begun_idle (n := 0) (h.dropped hdropped) hdropped.held hbegun hnonneg ?_
    rw [hdropped.detached.count_eq, hcount]

lemma removed (h : Budgeted n w) (hremoved : w.Removed t) : Budgeted n t := by
  refine h.of_le (h.faithful.removed hremoved) hremoved.engines hremoved.accepted
    hremoved.held ?_ ?_ ?_
  · rw [hremoved.controller]
  · rw [hremoved.controller]
  · rw [underWay, underWay, hremoved.detached.count_eq, hremoved.timer]

lemma completed {result : UpdateState} {param : String} (h : Budgeted 0 w)
    (hr : Completed result param w r) : Budgeted 0 r.2 := by
  have hfaithful := h.faithful.completed hr
  cases hr with
  | ignored => exact h
  | @retry i t _ _ hrearmed =>
    refine ⟨hfaithful, ?_, fun k q hk hq => ?_⟩
    · show Thrifty t.accepted t.engines
      rw [hrearmed.accepted, hrearmed.engines]
      exact h.thrifty
    · obtain ⟨hlimit, hretryTimes, hretries, hbudget⟩ :=
        h.covered k q (hrearmed.held ▸ hk) (hrearmed.accepted ▸ hq)
      have hlt := hrearmed.retryTimes
      have hmore : t.base.controller.retryTimes = w.base.controller.retryTimes + 1 := by
        rw [hrearmed.controller]
      -- the timer that was there is gone or it is none of the pending ones
      have hitems : t.base.timer.itemQueue.length ≤ w.base.timer.itemQueue.length + 1 := by
        rw [hrearmed.itemQueue, length_append, length_singleton]
        cases w.base.controller.timerId with
        | none => exact le_rfl
        | some j => exact Nat.add_le_add_right (length_erase_le ..) 1
      have hcount := hrearmed.detached.count_eq
      have hunderWay : t.underWay ≤ w.underWay + 1 := by
        unfold underWay
        omega
      refine ⟨?_, ?_, ?_, ?_⟩
      · rw [show t.base.controller = _ from hrearmed.controller]
        exact hlimit
      · show t.base.controller.retryTimes ≤ _
        omega
      · show (t.underWay + 0 : Int) ≤ t.base.controller.retryTimes
        omega
      · show (creations t.engines k + t.underWay + 0 : Int) ≤ 1 + t.base.controller.retryTimes
        rw [hrearmed.engines]
        omega
  | ended _ _ hdropped => exact h.dropped hdropped

lemma retried (h : Budgeted 1 w) (hr : Retried a w r)
    (hreEnroll : ∀ k q, w.held = some k → w.accepted[k]? = some q → q.reEnroll = false) :
    Budgeted 0 r.2 := by
  have hfaithful := h.faithful.retried hr
  cases hr with
  | forced => exact h.nothing_in_hand
  | @again strategy t _ hstrategy hresumed =>
    obtain ⟨k, q, hheld, hq, rfl⟩ := h.faithful.exists_held hstrategy
    obtain ⟨hlimit, hretryTimes, hretries, hbudget⟩ := h.covered k q hheld hq
    have hinstalled : Installed (some k) q.strategy.param q.reEnroll w t := by
      rw [← hheld, hreEnroll k q hheld hq]
      exact hresumed.installed
    have hunderWay : t.underWay = w.underWay := by
      rw [underWay, underWay, hresumed.tasks, hresumed.timer]
    refine ⟨hfaithful, ?_, fun k' q' hk' hq' => ?_⟩
    · show Thrifty t.accepted t.engines
      rw [hresumed.accepted]
      exact hinstalled.thrifty h.thrifty hq (by omega)
    · obtain rfl : k = k' := Option.some.inj (hheld.symm.trans (hresumed.held.symm.trans hk'))
      have hq' : t.accepted[k]? = some q' := hq'
      rw [hresumed.accepted] at hq'
      cases hq.symm.trans hq'
      have hmade := hinstalled.creations_le k
      have hcontroller : t.base.controller = { w.base.controller with timerId := none } :=
        hresumed.controller
      have hkept : t.base.controller.retryTimes = w.base.controller.retryTimes := by
        rw [hcontroller]
      refine ⟨?_, ?_, ?_, ?_⟩
      · show t.base.controller.retryTimesLimit = _
        rw [hcontroller]
        exact hlimit
      · exact hkept.trans_le hretryTimes
      · show (t.underWay + 0 : Int) ≤ t.base.controller.retryTimes
        omega
      · show (creations t.engines k + t.underWay + 0 : Int) ≤ 1 + t.base.controller.retryTimes
        omega
  | abandoned _ _ hdropped => exact h.dropped hdropped

lemma taken (h : Budgeted 0 w) (htaken : w.Taken task t) :
    Budgeted (if task = .updateRetry then 1 else 0) t := by
  refine h.of_le (h.faithful.taken htaken) ?_ ?_ ?_ ?_ ?_ ?_
  · rw [htaken.ledger]
  · rw [htaken.ledger]
  · rw [htaken.ledger]
  · rw [htaken.controller]
  · rw [htaken.controller]
  · have hcount : t.tasks.count .updateRetry + (if task = .updateRetry then 1 else 0) =
        w.tasks.count .updateRetry := by
      rw [htaken.tasks]
      by_cases htask : task = .updateRetry
      · subst htask
        simp [Task.isMessage]
      rw [if_neg htask, Nat.add_zero]
      split
      · rw [count_cons_of_ne htask]
      · rfl
    rw [underWay, underWay, htaken.timer]
    omega

lemma posted {source : Source} (h : Budgeted 0 w) (hfaithful : t.Faithful)
    (hposted : w.Posted task source t)
    (hitems : t.base.timer.itemQueue.length +
      (if task = .updateRetry then 1 else 0) ≤ w.base.timer.itemQueue.length) :
    Budgeted 0 t := by
  refine h.of_le hfaithful ?_ ?_ ?_ ?_ ?_ ?_
  · rw [hposted.ledger]
  · rw [hposted.ledger]
  · rw [hposted.ledger]
  · rw [hposted.controller]
  · rw [hposted.controller]
  · have hcount : t.tasks.count .updateRetry ≤
        w.tasks.count .updateRetry + (if task = .updateRetry then 1 else 0) := by
      rcases hposted.queued with ⟨htasks, -⟩ | ⟨htasks, -⟩
      · rw [htasks]
        exact Nat.le_add_right ..
      · simp [htasks, count_append, count_singleton]
    unfold underWay
    omega

lemma step {e : Event} (h : Budgeted 0 w) (hkeeps : w.KeepsBudget e) (hstep : w.step e = some t) :
    Budgeted 0 t := by
  have hfaithful := h.faithful.step hstep
  cases step_stepped hstep with
  | other hsame => exact h.same hsame
  | reported _ _ _ htimer hposted => exact h.posted hfaithful hposted (by simp [htimer])
  | due hitems htimer _ hposted => exact h.posted hfaithful hposted (by simp [htimer, hitems])
  | @executed a arrivals task u htaken hran =>
    have hu := h.taken htaken
    obtain ⟨hrequests, hequal, hretry⟩ := hkeeps task htaken.head
    rw [← htaken.controller] at hequal
    have hnone : ∀ q ∈ task.requests a ++ task.followUp a, u.tasks.count .updateRetry = 0 :=
      fun q hq => count_eq_zero.2 fun hin => (hrequests q hq).2 (htaken.mem_queue hin)
    have hnonneg : ∀ q ∈ task.requests a ++ task.followUp a, 0 ≤ q.strategy.retryTimes :=
      fun q hq => (hrequests q hq).1
    cases hran with
    | other _ hsame => exact hu.nothing_in_hand.same hsame
    | removed _ hremoved => exact hu.nothing_in_hand.removed hremoved
    | @requested _ q r _ hin hr =>
      have hq := mem_append_left (task.followUp a) hin
      exact hu.nothing_in_hand.requested (hnonneg q hq) (hnone q hq) (hequal q hin) hr
    | @whispered v r hin hfirst hr =>
      have hsilence : ⟨silenceUpdateStrategy, false⟩ ∈ Task.requests a .silenceUpdate := by
        simp [Task.requests]
      have hcount := hnone _ (mem_append_left _ hsilence)
      have hv : Budgeted 0 v := hu.nothing_in_hand.requested
        (q := ⟨silenceUpdateStrategy, false⟩) (by decide) hcount (hequal _ hsilence) hfirst
      refine hv.requested (q := ⟨whisperUpdateStrategy, false⟩) (by decide) ?_ ?_ hr
      · cases hfirst with
        | refused hsame => rw [hsame.tasks, hcount]
        | dropped _ _ hdropped hsame => rw [hsame.tasks, hdropped.detached.count_eq, hcount]
      · -- the update that runs is the one that the silence update did not replace
        intro hupdating
        cases hfirst with
        | refused hsame =>
          rw [hsame.controller] at hupdating ⊢
          exact hequal _ hin hupdating
        | dropped _ _ hdropped hsame =>
          rw [hsame.controller, hdropped.controller] at hupdating
          cases hupdating
    | completed hr hsame => exact (hu.nothing_in_hand.completed hr).same hsame
    | @followed result param v q r hr hin hwhisper =>
      have hq : q ∈ Task.requests a (.updateComplete result param) ++ Task.followUp a _ :=
        mem_append_right _ hin
      cases hr with
      | ended _ _ hdropped =>
        refine requested (hu.dropped hdropped) (hnonneg q hq) ?_ ?_ hwhisper
        · rw [hdropped.detached.count_eq, hnone q hq]
        · rw [hdropped.controller]
          intro hupdating
          cases hupdating
    | retried hr hsame =>
      refine (retried hu hr fun k q => ?_).same hsame
      rw [htaken.ledger]
      exact hretry rfl k q
    | forced hforced hsame =>
      exact (hu.of_idle (m := 0) (h.faithful.taken htaken |>.forced hforced) hforced.held
        hforced.engines hforced.accepted).same hsame

end Budgeted

theorem run_retries_bounded (switchStatus : WakeupModel → Bool) (es : List Event)
    (hkeeps : Along step (fun w e _ => w.KeepsBudget e) { base := .initial switchStatus } es)
    (hrun : run step { base := .initial switchStatus } es = some w) :
    ∀ k q, w.accepted[k]? = some q →
      (w.engines.countP (fun record => record.attempt = some k) : Int) ≤ 1 + q.strategy.retryTimes ∧
      ∀ record ∈ w.engines, record.attempt = some k →
        record.param = q.strategy.param ∧ record.reEnroll = q.reEnroll := by
  have hinitial : Budgeted 0 { base := .initial switchStatus } :=
    ⟨.initial switchStatus, ⟨by simp, by simp⟩, by simp⟩
  have h := (run_invariant (fun _ _ _ h hk hstep => h.step hk hstep) hinitial hkeeps hrun).thrifty
  intro k q hk
  refine ⟨h.bound k q hk, fun record hrecord hattempt => ?_⟩
  obtain ⟨j, made, hj, hmade, hparam, hreEnroll⟩ := h.records record hrecord
  obtain rfl : j = k := Option.some.inj (hj.symm.trans hattempt)
  cases hk.symm.trans hmade
  exact ⟨hparam, hreEnroll⟩

theorem run_retries_bounded_silence :
    ∃ w : Attempts, run step { base := .initial fun _ => true }
        [.request .silenceUpdate, .execute {} [], .updateCommitComplete false, .execute {} [],
          .onTimerEvent, .execute {} []] = some w ∧
      w.accepted[0]? = some ⟨silenceUpdateStrategy, false⟩ ∧ w.engines.length = 2 ∧
      (w.engines.countP (fun record => record.attempt = some 0) : Int) ≤
        1 + silenceUpdateStrategy.retryTimes ∧
      ∀ record ∈ w.engines, record.attempt = some 0 →
        record.param = silenceUpdateStrategy.param ∧ record.reEnroll = false := by
  refine ⟨_, rfl, rfl, rfl, run_retries_bounded (fun _ => true) [.request .silenceUpdate,
    .execute {} [], .updateCommitComplete false, .execute {} [], .onTimerEvent, .execute {} []] ?_
    rfl 0 ⟨silenceUpdateStrategy, false⟩ rfl⟩
  refine .of_step rfl trivial (.of_step rfl ?_ (.of_step rfl trivial (.of_step rfl ?_
    (.of_step rfl trivial (.of_step rfl ?_ (along_nil _))))))
  · rintro _ ⟨⟩
    exact ⟨by decide, fun _ _ h => (by cases h), fun h => (by cases h)⟩
  · rintro _ ⟨⟩
    exact ⟨by decide, by decide, fun h => (by cases h)⟩
  · rintro _ ⟨⟩
    refine ⟨by decide, by decide, fun _ k q hk hq => ?_⟩
    cases hk
    cases hq
    rfl

theorem whisper_retried_without_reEnroll :
    ∃ w : Attempts, run step { base := .initial fun _ => true }
        [.request .silenceUpdate, .execute {} [], .updateCommitComplete true,
          .execute { whisperVprConfig := true } [], .updateCommitComplete false, .execute {} [],
          .onTimerEvent, .execute {} []] = some w ∧
      w.accepted[1]? = some ⟨whisperUpdateStrategy, true⟩ ∧ w.held = some 1 ∧
      w.engines[2]? = some ⟨some 1, whisperVprUpdateParam, false⟩ :=
  ⟨_, rfl, rfl, rfl, rfl⟩

end Attempts
end IntellVoice.Service
