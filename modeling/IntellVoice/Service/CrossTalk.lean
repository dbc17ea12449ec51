import IntellVoice.Service.AttemptSteps

/-! A completion carries its engine's parameter, a retry carries nothing. -/

namespace IntellVoice.Service
open Transition

def Task.concerns (param : String) : Task → Bool
  | .updateComplete _ p => p == param
  | .updateRetry => true
  | _ => false

namespace Attempts

def mailFor (w : Attempts) (param : String) : List (Task × Source) :=
  (w.tasks.zip w.messages).filter fun message => message.1.concerns param

def Silent (w : Attempts) : Prop :=
  ∀ e, w.base.update = some e → e.updateResult ≠ .default

structure Bare (param : String) (w : Attempts) : Prop where
  silent : w.Silent
  mail : w.mailFor param = []
  items : w.base.timer.itemQueue = []

inductive Phase (k : Nat) (param : String) (w : Attempts) : Prop
  | working {e} (hupdate : w.base.update = some e) (hparam : e.param = param)
      (hresult : e.updateResult = .default) (hattempt : w.engine.attempt = some k)
      (hmail : w.mailFor param = []) (hitems : w.base.timer.itemQueue = [])
  | reported {result source} (hsilent : w.Silent)
      (hmail : w.mailFor param = [(.updateComplete result param, source)])
      (hattempt : source.attempt = some k) (hengine : w.base.update = none ∨ w.engine = source)
      (hitems : w.base.timer.itemQueue = [])
  | armed {i} (hupdate : w.base.update = none) (hmail : w.mailFor param = [])
      (hitems : w.base.timer.itemQueue = [i]) (howner : w.timerOwner i = some k)
  | due {source} (hupdate : w.base.update = none)
      (hmail : w.mailFor param = [(.updateRetry, source)])
      (hattempt : source.attempt = some k) (hitems : w.base.timer.itemQueue = [])
  | spent (hbare : w.Bare param)

structure Owned (w : Attempts) : Prop where
  faithful : w.Faithful
  length : w.tasks.length = w.messages.length
  phase : ∀ k q, w.held = some k → w.accepted[k]? = some q → w.Phase k q.strategy.param

def Apart (w : Attempts) (q : Acceptance) : Prop :=
  (w.base.controller.isUpdating ∧ q.strategy.priority < w.base.controller.curPriority) ∨
  ((w.base.controller.isUpdating → w.base.controller.curPriority < q.strategy.priority ∧
      w.base.controller.updateStrategy.map UpdateStrategy.param ≠ some q.strategy.param) ∧
    w.mailFor q.strategy.param = [])

/-- A request meets no mail for its own param, and an engine reports once. -/
def KeepsApart (w : Attempts) : Event → Prop
  | .execute a _ => ∀ task ∈ w.base.queue.items.head?,
      (∀ q ∈ task.requests a, w.Apart q) ∧
      (∀ q ∈ task.followUp a, w.mailFor q.strategy.param = [])
  | .updateCommitComplete _ => ∀ e, w.base.update = some e → e.updateResult = .default
  | _ => True

def Affected (w t : Attempts) : Prop :=
  t.base.controller ≠ w.base.controller ∨ t.callbacks ≠ w.callbacks ∨ t.engine ≠ w.engine ∨
    t.engines ≠ w.engines

def OwnEffect (w : Attempts) (e : Event) (t : Attempts) : Prop :=
  match e with
  | .execute _ _ => ∀ task, w.base.queue.items.head? = some task → task.isMessage →
      ∃ source, w.messages.head? = some source ∧ (w.Affected t →
        w.held.isSome ∧ w.held = source.attempt ∧ (w.engine = {} ∨ w.engine = source))
  | _ => True

variable {w t u : Attempts} {a : Answers} {k : Nat} {param : String} {task : Task}

lemma mailFor_append {source : Source} (hlength : w.tasks.length = w.messages.length)
    (htasks : t.tasks = w.tasks ++ [task]) (hmessages : t.messages = w.messages ++ [source]) :
    t.mailFor param = w.mailFor param ++ if task.concerns param then [(task, source)] else [] := by
  rw [mailFor, htasks, hmessages, List.zip_append hlength, List.filter_append]
  simp only [List.zip_cons_cons, List.zip_nil_right, List.filter_cons, List.filter_nil]
  rfl

lemma mailFor_congr (htasks : t.tasks = w.tasks) (hmessages : t.messages = w.messages) :
    t.mailFor param = w.mailFor param := by
  rw [mailFor, mailFor, htasks, hmessages]

lemma Detached.length_eq (h : w.Detached t) (hlength : w.tasks.length = w.messages.length) :
    t.tasks.length = t.messages.length := by
  cases h with
  | absent _ _ _ htasks hmessages | silent _ _ _ htasks hmessages => rw [htasks, hmessages, hlength]
  | posts _ _ _ _ htasks hmessages => simp [htasks, hmessages, hlength]

lemma Detached.mailFor_eq (h : w.Detached t) (hlength : w.tasks.length = w.messages.length)
    (hother : ∀ e, w.base.update = some e → e.updateResult = .default → e.param ≠ param) :
    t.mailFor param = w.mailFor param := by
  cases h with
  | absent _ _ _ htasks hmessages | silent _ _ _ htasks hmessages =>
    exact mailFor_congr htasks hmessages
  | posts hbefore hresult _ _ htasks hmessages =>
    have hne := hother _ hbefore hresult
    simp [mailFor_append hlength htasks hmessages, Task.concerns, hne]

lemma Detached.silent_after (h : w.Detached t) : t.Silent := by
  intro e he
  simp [h.update_eq] at he

lemma concerns_isMessage (h : task.concerns param) : task.isMessage := by
  cases task with
  | updateComplete | updateRetry => rfl
  | _ => cases h

section
variable (h : w.Taken task t)
include h

lemma Taken.of_not_message (hmessage : task.isMessage = false) :
    t.tasks = w.tasks ∧ t.messages = w.messages := by
  have htasks := h.tasks
  have hmessages := h.messages
  rw [hmessage] at htasks hmessages
  exact ⟨htasks.symm, hmessages⟩

lemma Taken.of_message (hmessage : task.isMessage) (hlength : w.tasks.length = w.messages.length) :
    ∃ source, w.messages = source :: t.messages ∧ w.tasks = task :: t.tasks := by
  have htasks := h.tasks
  have hmessages := h.messages
  rw [hmessage, if_pos rfl] at htasks hmessages
  cases hw : w.messages with
  | nil => simp [htasks, hw] at hlength
  | cons source rest =>
    rw [hw, List.tail_cons] at hmessages
    exact ⟨source, by rw [hmessages], htasks⟩

lemma Taken.length_eq (hlength : w.tasks.length = w.messages.length) :
    t.tasks.length = t.messages.length := by
  cases hmessage : task.isMessage with
  | false =>
    obtain ⟨htasks, hmessages⟩ := h.of_not_message hmessage
    rw [htasks, hmessages, hlength]
  | true =>
    obtain ⟨source, hmessages, htasks⟩ := h.of_message hmessage hlength
    simpa [htasks, hmessages] using hlength

lemma Taken.mailFor_other (hlength : w.tasks.length = w.messages.length)
    (hother : task.concerns param = false) : t.mailFor param = w.mailFor param := by
  cases hmessage : task.isMessage with
  | false =>
    obtain ⟨htasks, hmessages⟩ := h.of_not_message hmessage
    exact mailFor_congr htasks hmessages
  | true =>
    obtain ⟨source, hmessages, htasks⟩ := h.of_message hmessage hlength
    simp [mailFor, htasks, hmessages, hother]

lemma Taken.mailFor_own (hlength : w.tasks.length = w.messages.length)
    (hown : task.concerns param) :
    ∃ source, w.messages.head? = some source ∧
      w.mailFor param = (task, source) :: t.mailFor param := by
  obtain ⟨source, hmessages, htasks⟩ := h.of_message (concerns_isMessage hown) hlength
  exact ⟨source, by rw [hmessages, List.head?_cons], by simp [mailFor, htasks, hmessages, hown]⟩

lemma Taken.mailFor_nil (hlength : w.tasks.length = w.messages.length)
    (hnone : w.mailFor param = []) : t.mailFor param = [] := by
  cases hconcerns : task.concerns param with
  | false => exact (h.mailFor_other hlength hconcerns).trans hnone
  | true =>
    obtain ⟨_, _, hmail⟩ := h.mailFor_own hlength hconcerns
    simp [hmail] at hnone

end

lemma mem_followUp {result : UpdateState} {q : Acceptance}
    (hin : q ∈ Task.followUp a (.updateComplete result param)) :
    q = ⟨whisperUpdateStrategy, true⟩ ∧ param ≠ whisperVprUpdateParam := by
  simp only [Task.followUp] at hin
  split at hin
  · rename_i hconfig
    rw [Bool.and_eq_true, bne_iff_ne] at hconfig
    exact ⟨List.mem_singleton.1 hin, hconfig.2⟩
  · cases hin

namespace Phase

lemma congr (h : w.Phase k param) (hupdate : t.base.update = w.base.update)
    (hengine : t.engine = w.engine) (howner : t.timerOwner = w.timerOwner)
    (hmail : t.mailFor param = w.mailFor param)
    (hitems : t.base.timer.itemQueue = w.base.timer.itemQueue) : t.Phase k param := by
  have hsilent : w.Silent → t.Silent := by
    intro hw
    rw [Silent, hupdate]
    exact hw
  cases h with
  | working hsome hparam hresult hattempt hnone hempty =>
    exact .working (hupdate.trans hsome) hparam hresult (by rw [hengine, hattempt])
      (hmail.trans hnone) (hitems.trans hempty)
  | reported hw hone hattempt hsource hempty =>
    refine .reported (hsilent hw) (hmail.trans hone) hattempt ?_ (hitems.trans hempty)
    rw [hupdate, hengine]
    exact hsource
  | armed habsent hnone hone hi =>
    exact .armed (hupdate.trans habsent) (hmail.trans hnone) (hitems.trans hone)
      (by rw [howner, hi])
  | due habsent hone hattempt hempty =>
    exact .due (hupdate.trans habsent) (hmail.trans hone) hattempt (hitems.trans hempty)
  | spent hbare =>
    exact .spent ⟨hsilent hbare.silent, hmail.trans hbare.mail, hitems.trans hbare.items⟩

lemma param_eq (h : w.Phase k param) {e : UpdateEngine} (hupdate : w.base.update = some e)
    (hresult : e.updateResult = .default) : e.param = param := by
  cases h with
  | working hsome hparam =>
    cases hupdate.symm.trans hsome
    exact hparam
  | reported hsilent => exact absurd hresult (hsilent e hupdate)
  | armed habsent | due habsent => simp [habsent] at hupdate
  | spent hbare => exact absurd hresult (hbare.silent e hupdate)

lemma removed (h : w.Phase k param) (hlength : w.tasks.length = w.messages.length)
    (hremoved : w.Removed t) : t.Phase k param := by
  have hdetached := hremoved.detached
  have hgone := hdetached.update_eq
  have hitems : t.base.timer.itemQueue = w.base.timer.itemQueue := by rw [hremoved.timer]
  cases h with
  | working hupdate hparam hresult hattempt hnone hempty =>
    cases hdetached with
    | absent hbefore => simp [hbefore] at hupdate
    | silent _ _ _ htasks hmessages =>
      exact .spent ⟨hremoved.detached.silent_after, (mailFor_congr htasks hmessages).trans hnone,
        hitems.trans hempty⟩
    | posts hbefore _ _ _ htasks hmessages =>
      cases hupdate.symm.trans hbefore
      have hone : t.mailFor param = [(.updateComplete .default param, w.engine)] := by
        rw [mailFor_append hlength htasks hmessages, hnone, hparam]
        simp [Task.concerns]
      exact .reported hremoved.detached.silent_after hone hattempt (.inl hgone)
        (hitems.trans hempty)
  | reported hsilent hone hattempt _ hempty =>
    have hmail : t.mailFor param = w.mailFor param := hdetached.mailFor_eq hlength
      fun e he hresult => absurd hresult (hsilent e he)
    exact .reported hdetached.silent_after (hmail.trans hone) hattempt (.inl hgone)
      (hitems.trans hempty)
  | armed habsent hnone hone hi =>
    have hmail : t.mailFor param = w.mailFor param := hdetached.mailFor_eq hlength
      fun e he => absurd he (by simp [habsent])
    exact .armed hgone (hmail.trans hnone) (hitems.trans hone) (by rw [hremoved.timerOwner, hi])
  | due habsent hone hattempt hempty =>
    have hmail : t.mailFor param = w.mailFor param := hdetached.mailFor_eq hlength
      fun e he => absurd he (by simp [habsent])
    exact .due hgone (hmail.trans hone) hattempt (hitems.trans hempty)
  | spent hbare =>
    have hmail : t.mailFor param = w.mailFor param := hdetached.mailFor_eq hlength
      fun e he hresult => absurd hresult (hbare.silent e he)
    exact .spent ⟨hdetached.silent_after, hmail.trans hbare.mail, hitems.trans hbare.items⟩

end Phase

namespace Owned

lemma same (h : w.Owned) (hsame : w.Same t) : t.Owned := by
  refine ⟨h.faithful.same hsame, ?_, fun k q hk hq => ?_⟩
  · rw [hsame.tasks, hsame.ledger]
    exact h.length
  · rw [hsame.ledger] at hk hq
    refine (h.phase k q hk hq).congr hsame.update ?_ ?_ ?_ ?_
    · rw [hsame.ledger]
    · rw [hsame.ledger]
    · exact mailFor_congr hsame.tasks (by rw [hsame.ledger])
    · rw [hsame.timer]

lemma of_idle (hfaithful : t.Faithful) (hheld : t.held = none)
    (hlength : t.tasks.length = t.messages.length) : t.Owned := by
  refine ⟨hfaithful, hlength, fun k q hk => ?_⟩
  simp [hheld] at hk

variable {q : Acceptance} {called : Bool} {r : Bool × Attempts} {result : UpdateState}

section
variable (h : w.Owned)
include h

lemma dropped (hdropped : w.Dropped called t) : t.Owned :=
  .of_idle (h.faithful.dropped hdropped) hdropped.held (hdropped.detached.length_eq h.length)

lemma removed (hremoved : w.Removed t) : t.Owned := by
  refine ⟨h.faithful.removed hremoved, hremoved.detached.length_eq h.length, fun k q hk hq => ?_⟩
  rw [hremoved.held] at hk
  rw [hremoved.accepted] at hq
  exact (h.phase k q hk hq).removed h.length hremoved

lemma begun (hheld : w.held = none) (hmail : w.mailFor q.strategy.param = [])
    (hbegun : w.Begun q.strategy q.reEnroll t) : t.Owned := by
  obtain ⟨-, hitems, habsent⟩ := h.faithful.idle hheld
  refine ⟨h.faithful.begun hbegun, ?_, fun k q' hk hq => ?_⟩
  · rw [hbegun.tasks, hbegun.messages, h.length]
  · obtain rfl : w.accepted.length = k := Option.some.inj (hbegun.held.symm.trans hk)
    obtain rfl : q = q' := by simpa [hbegun.accepted] using hq
    cases hbegun.installed with
    | present hbefore => simp [habsent] at hbefore
    | made _ hupdate hengine =>
      refine .working hupdate rfl rfl (by rw [hengine]) ?_ (hbegun.itemQueue.trans hitems)
      exact (mailFor_congr hbegun.tasks hbegun.messages).trans hmail

lemma dropped_mailFor (hdropped : w.Dropped called t)
    (hparam : w.base.controller.updateStrategy.map UpdateStrategy.param ≠ some param) :
    t.mailFor param = w.mailFor param := by
  refine hdropped.detached.mailFor_eq h.length fun e he hresult => ?_
  cases hheld : w.held with
  | none => simp [(h.faithful.idle hheld).2.2] at he
  | some k =>
    obtain ⟨q, hq, hstrategy, _⟩ := h.faithful.held k hheld
    rw [(h.phase k q hheld hq).param_eq he hresult]
    intro heq
    simp [hstrategy, heq] at hparam

lemma requested (hapart : w.Apart q) (hr : Requested q.strategy q.reEnroll w r) : r.2.Owned := by
  cases hr with
  | refused hsame => exact h.same hsame
  | dropped _ _ hdropped hsame => exact (h.dropped hdropped).same hsame
  | begun hpriority hbegun =>
    rcases hapart with ⟨hupdating, hlt⟩ | ⟨hother, hmail⟩
    · have hequal := hpriority hupdating
      omega
    -- an update that runs would have the priority of the request
    refine h.begun (h.faithful.held_eq_none hpriority fun hupdating => ?_) hmail hbegun
    have hlt := (hother hupdating).1
    omega
  | replaced hupdating hlt hdropped hbegun =>
    rcases hapart with ⟨-, hgt⟩ | ⟨hother, hmail⟩
    · omega
    · refine (h.dropped hdropped).begun hdropped.held ?_ hbegun
      rw [h.dropped_mailFor hdropped (hother hupdating).2, hmail]

lemma apart_whisper (hapart : w.Apart ⟨whisperUpdateStrategy, false⟩)
    (hfirst : Requested silenceUpdateStrategy false w (false, t)) :
    t.Apart ⟨whisperUpdateStrategy, false⟩ := by
  cases hfirst with
  | refused hsame =>
    rw [Apart, hsame.controller, mailFor_congr hsame.tasks (by rw [hsame.ledger])]
    exact hapart
  | @dropped u _ hupdating hlt hdropped hsame =>
    rcases hapart with ⟨-, hgt⟩ | ⟨hother, hmail⟩
    · -- what gave way to a silence update does not outrank a whisper update
      have hrank : silenceUpdateStrategy.priority < whisperUpdateStrategy.priority := by decide
      have hgt : whisperUpdateStrategy.priority < w.base.controller.curPriority := hgt
      omega
    refine .inr ⟨?_, ?_⟩
    · rw [hsame.controller, hdropped.controller]
      intro hidle
      cases hidle
    · rw [mailFor_congr hsame.tasks (by rw [hsame.ledger]),
        h.dropped_mailFor hdropped (hother hupdating).2, hmail]

lemma own {task : Task} (htaken : w.Taken task t) (hheld : w.held = some k)
    (hq : w.accepted[k]? = some q) (hown : task.concerns q.strategy.param) :
    ∃ source, w.messages.head? = some source ∧ source.attempt = some k ∧
      (w.engine = {} ∨ w.engine = source) ∧ t.Bare q.strategy.param ∧
      (task = .updateRetry → t.base.update = none) := by
  obtain ⟨source, hhead, hmail⟩ := htaken.mailFor_own h.length hown
  have hitems : t.base.timer.itemQueue = w.base.timer.itemQueue := by rw [htaken.timer]
  cases h.phase k q hheld hq with
  | working _ _ _ _ hnone | armed _ hnone => simp [hmail] at hnone
  | spent hbare =>
    have hnone := hbare.mail
    simp [hmail] at hnone
  | reported hsilent hone hattempt hengine hempty =>
    rw [hmail] at hone
    obtain ⟨⟨rfl, rfl⟩, hnone⟩ : (task = _ ∧ source = _) ∧ t.mailFor q.strategy.param = [] := by
      simpa using hone
    refine ⟨source, hhead, hattempt, hengine.imp_left h.faithful.absent, ⟨?_, hnone, ?_⟩, ?_⟩
    · rw [Silent, htaken.update]
      exact hsilent
    · exact hitems.trans hempty
    · intro hretry
      cases hretry
  | due habsent hone hattempt hempty =>
    rw [hmail] at hone
    obtain ⟨⟨rfl, rfl⟩, hnone⟩ : (task = _ ∧ source = _) ∧ t.mailFor q.strategy.param = [] := by
      simpa using hone
    have hgone : t.base.update = none := htaken.update.trans habsent
    refine ⟨source, hhead, hattempt, .inl (h.faithful.absent habsent), ⟨?_, hnone, ?_⟩,
      fun _ => hgone⟩
    · intro e he
      simp [hgone] at he
    · exact hitems.trans hempty

lemma taken {task : Task} (htaken : w.Taken task t) : t.Owned := by
  refine ⟨h.faithful.taken htaken, htaken.length_eq h.length, fun k q hk hq => ?_⟩
  rw [htaken.ledger] at hk hq
  cases hconcerns : task.concerns q.strategy.param with
  | true =>
    obtain ⟨_, _, _, _, hbare, _⟩ := h.own htaken hk hq hconcerns
    exact .spent hbare
  | false =>
    refine (h.phase k q hk hq).congr htaken.update ?_ ?_
      (htaken.mailFor_other h.length hconcerns) ?_
    · rw [htaken.ledger]
    · rw [htaken.ledger]
    · rw [htaken.timer]

lemma completed
    (hbare : ∀ k q, w.held = some k → w.accepted[k]? = some q → q.strategy.param = param →
      w.Bare param)
    (hr : Completed result param w r) : r.2.Owned := by
  have hfaithful := h.faithful.completed hr
  cases hr with
  | ignored => exact h
  | @retry i t _ hparam hrearmed =>
    refine ⟨hfaithful, hrearmed.detached.length_eq h.length, fun k q hk hq => ?_⟩
    have hk : w.held = some k := hrearmed.held.symm.trans hk
    have hq : w.accepted[k]? = some q := hrearmed.accepted ▸ hq
    obtain ⟨q', hq', hstrategy, _⟩ := h.faithful.held k hk
    cases hq.symm.trans hq'
    rw [hstrategy, Option.map_some, Option.some.injEq] at hparam
    have hw := hbare k q hk hq hparam
    rw [← hparam] at hw
    have hmail : t.mailFor q.strategy.param = w.mailFor q.strategy.param :=
      hrearmed.detached.mailFor_eq h.length fun e he hresult => absurd hresult (hw.silent e he)
    have hitems : t.base.timer.itemQueue = [i] := by
      rw [hrearmed.itemQueue, hw.items]
      cases w.base.controller.timerId <;> rfl
    refine .armed hrearmed.detached.update_eq (hmail.trans hw.mail) hitems ?_
    show t.timerOwner i = some k
    rw [hrearmed.timerOwner]
    simpa using hk
  | ended _ _ hdropped => exact h.dropped hdropped

lemma retried
    (hbare : ∀ k q, w.held = some k → w.accepted[k]? = some q → w.Bare q.strategy.param ∧
      w.base.update = none)
    (hr : Retried a w r) : r.2.Owned := by
  have hfaithful := h.faithful.retried hr
  cases hr with
  | forced => exact h
  | @again strategy t _ hstrategy hresumed =>
    refine ⟨hfaithful, ?_, fun k q hk hq => ?_⟩
    · show t.tasks.length = t.messages.length
      rw [hresumed.tasks, hresumed.messages, h.length]
    · have hk : w.held = some k := hresumed.held.symm.trans hk
      have hq : w.accepted[k]? = some q := hresumed.accepted ▸ hq
      obtain ⟨q', hq', hheld, _⟩ := h.faithful.held k hk
      cases hq.symm.trans hq'
      obtain rfl : strategy = q.strategy := Option.some.inj (hstrategy.symm.trans hheld)
      obtain ⟨hw, habsent⟩ := hbare k q hk hq
      cases hresumed.installed with
      | present hbefore => simp [habsent] at hbefore
      | made _ hupdate hengine =>
        refine .working hupdate rfl rfl ?_ ?_ ?_
        · rw [hengine, hk]
        · exact (mailFor_congr hresumed.tasks hresumed.messages).trans hw.mail
        · exact (congrArg TimerMgr.itemQueue hresumed.timer).trans hw.items
  | abandoned _ _ hdropped => exact h.dropped hdropped

lemma posted_length {task : Task} {source : Source} (hposted : w.Posted task source t) :
    t.tasks.length = t.messages.length := by
  rcases hposted.queued with ⟨htasks, hmessages⟩ | ⟨htasks, hmessages⟩
  · rw [htasks, hmessages, h.length]
  · simp [htasks, hmessages, h.length]

lemma reported {e : UpdateEngine} (hfaithful : t.Faithful) (hbefore : w.base.update = some e)
    (hdefault : e.updateResult = .default) (hresult : result ≠ .default)
    (hupdate : t.base.update = some { e with updateResult := result })
    (htimer : t.base.timer = w.base.timer)
    (hposted : w.Posted (.updateComplete result e.param) w.engine t) : t.Owned := by
  refine ⟨hfaithful, h.posted_length hposted, fun k q hk hq => ?_⟩
  rw [hposted.ledger] at hk hq
  have hsilent : t.Silent := by
    intro e' he'
    cases hupdate.symm.trans he'
    exact hresult
  cases h.phase k q hk hq with
  | working hsome hparam _ hattempt hnone hempty =>
    cases hbefore.symm.trans hsome
    have hitems : t.base.timer.itemQueue = [] := by rw [htimer, hempty]
    rcases hposted.queued with ⟨htasks, hmessages⟩ | ⟨htasks, hmessages⟩
    · exact .spent ⟨hsilent, (mailFor_congr htasks hmessages).trans hnone, hitems⟩
    have hone : t.mailFor q.strategy.param =
        [(.updateComplete result q.strategy.param, w.engine)] := by
      rw [mailFor_append h.length htasks hmessages, hnone, hparam]
      simp [Task.concerns]
    refine .reported hsilent hone hattempt (.inr ?_) hitems
    rw [hposted.ledger]
  | reported hw => exact absurd hdefault (hw e hbefore)
  | armed habsent | due habsent => simp [habsent] at hbefore
  | spent hbare => exact absurd hdefault (hbare.silent e hbefore)

lemma due {i : Nat} {rest : List Nat} (hfaithful : t.Faithful)
    (hitems : w.base.timer.itemQueue = i :: rest)
    (htimer : t.base.timer = { w.base.timer with itemQueue := rest })
    (hupdate : t.base.update = w.base.update)
    (hposted : w.Posted .updateRetry ⟨w.timerOwner i, none⟩ t) : t.Owned := by
  refine ⟨hfaithful, h.posted_length hposted, fun k q hk hq => ?_⟩
  rw [hposted.ledger] at hk hq
  cases h.phase k q hk hq with
  | working _ _ _ _ _ hempty | reported _ _ _ _ hempty | due _ _ _ hempty => simp [hempty] at hitems
  | spent hbare =>
    have hempty := hbare.items
    simp [hempty] at hitems
  | @armed j habsent hnone hone howner =>
    obtain ⟨rfl, rfl⟩ : j = i ∧ [] = rest := by simpa [hone] using hitems
    have hgone : t.base.update = none := hupdate.trans habsent
    have hempty : t.base.timer.itemQueue = [] := by rw [htimer]
    rcases hposted.queued with ⟨htasks, hmessages⟩ | ⟨htasks, hmessages⟩
    · refine .spent ⟨fun e he => ?_, (mailFor_congr htasks hmessages).trans hnone, hempty⟩
      simp [hgone] at he
    have hmail : t.mailFor q.strategy.param = [(.updateRetry, ⟨w.timerOwner j, none⟩)] := by
      rw [mailFor_append h.length htasks hmessages, hnone]
      rfl
    exact .due hgone hmail howner hempty

lemma ran {task : Task} (htaken : w.Taken task u) (hran : u.Ran a task t)
    (hrequests : ∀ q ∈ task.requests a, w.Apart q)
    (hfollowUp : ∀ q ∈ task.followUp a, w.mailFor q.strategy.param = []) : t.Owned := by
  have hu := h.taken htaken
  have hapart : ∀ q ∈ task.requests a, u.Apart q := by
    intro q hq
    rw [Apart, htaken.controller]
    exact (hrequests q hq).imp_right fun hother => ⟨hother.1, htaken.mailFor_nil h.length hother.2⟩
  cases hran with
  | other _ hsame => exact hu.same hsame
  | removed _ hremoved => exact hu.removed hremoved
  | @requested _ q _ _ hin hr => exact hu.requested (hapart q hin) hr
  | @whispered v r hin hfirst hr =>
    have hv : v.Owned := hu.requested (q := ⟨silenceUpdateStrategy, false⟩)
      (hapart _ (by simp [Task.requests])) hfirst
    exact hv.requested (q := ⟨whisperUpdateStrategy, false⟩)
      (hu.apart_whisper (hapart _ hin) hfirst) hr
  | completed hr hsame =>
    refine (hu.completed (fun k q hk hq hparam => ?_) hr).same hsame
    rw [htaken.ledger] at hk hq
    obtain ⟨_, _, _, _, hbare, _⟩ := h.own htaken hk hq (by simp [Task.concerns, hparam])
    exact hparam ▸ hbare
  | @followed result param v q r hr hin hwhisper =>
    obtain ⟨rfl, hne⟩ := mem_followUp hin
    cases hr with
    | ended _ hparam hdropped =>
      refine requested (q := ⟨whisperUpdateStrategy, true⟩) (hu.dropped hdropped) (.inr ⟨?_, ?_⟩)
        hwhisper
      · rw [hdropped.controller]
        intro hupdating
        cases hupdating
      · rw [hu.dropped_mailFor hdropped]
        · exact htaken.mailFor_nil h.length (hfollowUp _ hin)
        · rw [hparam, ne_eq, Option.some.injEq]
          exact hne
  | retried hr hsame =>
    refine (hu.retried (fun k q hk hq => ?_) hr).same hsame
    rw [htaken.ledger] at hk hq
    obtain ⟨_, _, _, _, hbare, habsent⟩ := h.own htaken hk hq rfl
    exact ⟨hbare, habsent rfl⟩
  | forced hforced hsame =>
    exact (of_idle (hu.faithful.forced hforced) hforced.held
      (hforced.detached.length_eq hu.length)).same hsame

lemma step {e : Event} (hkeeps : w.KeepsApart e) (hstep : w.step e = some t) : t.Owned := by
  have hfaithful := h.faithful.step hstep
  cases step_stepped hstep with
  | other hsame => exact h.same hsame
  | executed htaken hran =>
    obtain ⟨hrequests, hfollowUp⟩ := hkeeps _ htaken.head
    exact h.ran htaken hran hrequests hfollowUp
  | reported hbefore hresult hupdate htimer hposted =>
    exact h.reported hfaithful hbefore (hkeeps _ hbefore) hresult hupdate htimer hposted
  | due hitems htimer hupdate hposted => exact h.due hfaithful hitems htimer hupdate hposted

end
end Owned

lemma Same.not_affected (h : w.Same t) : ¬ w.Affected t := by
  rintro (hne | hne | hne | hne)
  · exact hne h.controller
  · exact hne (by rw [h.ledger])
  · exact hne (by rw [h.ledger])
  · exact hne (by rw [h.ledger])

lemma Faithful.dropped_not_affected (h : w.Faithful) (hheld : w.held = none)
    (hdropped : w.Dropped false t) : ¬ w.Affected t := by
  obtain ⟨hcontroller, -, habsent⟩ := h.idle hheld
  rintro (hne | hne | hne | hne)
  · exact hne (hdropped.controller.trans hcontroller.symm)
  · exact hne hdropped.callbacks
  · exact hne ((hdropped.detached.engine_eq h.absent).trans (h.absent habsent).symm)
  · exact hne hdropped.engines

lemma Same.affected (h : t.Same u) (haffected : w.Affected u) : w.Affected t := by
  rw [Affected, h.controller, h.ledger] at haffected
  exact haffected

lemma Taken.affected (h : w.Taken task u) (haffected : w.Affected t) : u.Affected t := by
  rw [Affected, h.controller, h.ledger]
  exact haffected

lemma Ran.concerns (h : w.Faithful) (hran : w.Ran a task t) (hmessage : task.isMessage)
    (haffected : w.Affected t) :
    ∃ k q, w.held = some k ∧ w.accepted[k]? = some q ∧ task.concerns q.strategy.param := by
  -- a completion is taken up for its parameter
  have hcompletion : ∀ {result : UpdateState} {param : String},
      w.base.controller.updateStrategy.map UpdateStrategy.param = some param →
      ∃ k q, w.held = some k ∧ w.accepted[k]? = some q ∧
        Task.concerns q.strategy.param (.updateComplete result param) := by
    intro result param hparam
    obtain ⟨strategy, hstrategy, rfl⟩ := Option.map_eq_some_iff.1 hparam
    obtain ⟨k, q, hk, hq, rfl⟩ := h.exists_held hstrategy
    exact ⟨k, q, hk, hq, by simp [Task.concerns]⟩
  cases hran with
  | other hnot | removed hnot | requested hnot => simp [hmessage] at hnot
  | whispered | forced => cases hmessage
  | completed hr hsame =>
    cases hr with
    | ignored => exact absurd haffected hsame.not_affected
    | retry _ hparam | ended _ hparam => exact hcompletion hparam
  | followed hr =>
    cases hr with
    | ended _ hparam => exact hcompletion hparam
  | retried hr hsame =>
    cases hr with
    | forced => exact absurd haffected hsame.not_affected
    | again _ hstrategy =>
      obtain ⟨k, q, hk, hq, _⟩ := h.exists_held hstrategy
      exact ⟨k, q, hk, hq, rfl⟩
    | abandoned _ _ hdropped =>
      cases hheld : w.held with
      | none => exact absurd (hsame.affected haffected) (h.dropped_not_affected hheld hdropped)
      | some k =>
        obtain ⟨q, hq, _⟩ := h.held k hheld
        exact ⟨k, q, rfl, hq, rfl⟩

lemma Owned.ownEffect {e : Event} (h : w.Owned) (hstep : w.step e = some t) : w.OwnEffect e t := by
  cases e with
  | execute answers arrivals =>
    intro task hhead hmessage
    obtain ⟨taken, u, htaken, hrun⟩ := step_execute hstep
    obtain rfl : taken = task := Option.some.inj (htaken.head.symm.trans hhead)
    obtain ⟨source, hmessages, -⟩ := htaken.of_message hmessage h.length
    have hfirst : w.messages.head? = some source := by rw [hmessages, List.head?_cons]
    refine ⟨source, hfirst, fun haffected => ?_⟩
    obtain ⟨k, q, hk, hq, hconcerns⟩ :=
      (runTask_ran hrun).concerns (h.faithful.taken htaken) hmessage
      (htaken.affected haffected)
    rw [htaken.ledger] at hk hq
    obtain ⟨source', hfirst', hattempt, hengine, _⟩ := h.own htaken hk hq hconcerns
    obtain rfl : source = source' := Option.some.inj (hfirst.symm.trans hfirst')
    exact ⟨by rw [hk]; rfl, hk.trans hattempt.symm, hengine⟩
  | _ => trivial

theorem run_own_effects (switchStatus : WakeupModel → Bool) (es : List Event)
    (hkeeps : Along step (fun w e _ => w.KeepsApart e) { base := .initial switchStatus } es) :
    Along step OwnEffect { base := .initial switchStatus } es := by
  have hinitial : Owned { base := .initial switchStatus } :=
    .of_idle (.initial switchStatus) rfl rfl
  refine along_of_invariant (fun w e t h hk hstep => ?_) hinitial hkeeps
  exact ⟨h.step hk hstep, h.ownEffect hstep⟩

theorem run_own_effects_retry :
    (run step { base := .initial fun _ => true }
        [.request .silenceUpdate, .execute {} [], .updateCommitComplete false, .execute {} [],
          .onTimerEvent, .execute {} []]).isSome ∧
      Along step OwnEffect { base := .initial fun _ => true }
        [.request .silenceUpdate, .execute {} [], .updateCommitComplete false, .execute {} [],
          .onTimerEvent, .execute {} []] := by
  refine ⟨rfl, run_own_effects (fun _ => true) _ ?_⟩
  refine .of_step rfl trivial (.of_step rfl ?_ (.of_step rfl ?_ (.of_step rfl ?_
    (.of_step rfl trivial (.of_step rfl ?_ (along_nil _))))))
  · rintro _ ⟨⟩
    refine ⟨fun q hq => .inr ⟨fun h => (by cases h), rfl⟩, fun q hq => (by cases hq)⟩
  · intro e he
    cases he
    rfl
  · rintro _ ⟨⟩
    exact ⟨fun q hq => (by cases hq), fun q hq => (by cases hq)⟩
  · rintro _ ⟨⟩
    exact ⟨fun q hq => (by cases hq), fun q hq => (by cases hq)⟩

theorem dropped_update_disturbs_next :
    ∃ w t : Attempts, run step { base := .initial fun _ => true }
        [.request (.cloneUpdate "a"), .execute { versionUpdate := false } [],
          .request .clearUserData, .request (.cloneUpdate "a"),
          .execute { versionUpdate := false } [], .execute { versionUpdate := false } []] = some w ∧
      w.step (.execute { versionUpdate := false } []) = some t ∧
      w.messages.head? = some ⟨some 0, some 0⟩ ∧ w.held = some 1 ∧ w.engine = ⟨some 1, some 1⟩ ∧
      t.engine = {} ∧ t.held = none ∧
      t.base.log.count (.onUpdateCompleteCallback "a" 1) = 1 ∧
      ¬ w.OwnEffect (.execute { versionUpdate := false } []) t := by
  refine ⟨_, _, rfl, rfl, rfl, rfl, rfl, rfl, rfl, rfl, fun hown => ?_⟩
  obtain ⟨source, hsource, heffect⟩ := hown _ rfl rfl
  cases hsource
  obtain ⟨-, hheld, -⟩ := heffect (.inr (.inr (.inl (by decide))))
  exact absurd hheld (by decide)

end Attempts
end IntellVoice.Service
