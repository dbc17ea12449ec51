import IntellVoice.Service.AttemptSteps

/-! A client with an accepted update waits for its callback. -/

namespace IntellVoice.Service
open Transition

structure AnsweredOnce (n : Nat) (pending : Option Nat) (answers : List Nat) : Prop where
  bound : ∀ k ∈ answers, k < n
  count : ∀ k < n, answers.count k = if pending = some k then 0 else 1

namespace AnsweredOnce
variable {n : Nat} {pending : Option Nat} {answers : List Nat}

lemma answer (h : AnsweredOnce n pending answers) (hpending : ∀ k, pending = some k → k < n) :
    AnsweredOnce n none (answers ++ pending.toList) := by
  cases pending with
  | none =>
    rw [Option.toList_none, List.append_nil]
    exact h
  | some j =>
    refine ⟨fun k hk => ?_, fun k hk => ?_⟩
    · rcases List.mem_append.1 hk with hold | hnew
      · exact h.bound k hold
      · exact hpending k (by simpa using (List.mem_singleton.1 hnew).symm)
    · have hcount := h.count k hk
      by_cases hj : j = k
      · subst hj
        simpa using hcount
      have hzero : [j].count k = 0 := List.count_eq_zero.2 (by simpa using fun e => hj e.symm)
      rw [if_neg (by simpa using hj)] at hcount
      simp [List.count_append, hcount, hzero]

lemma accept (h : AnsweredOnce n none answers) : AnsweredOnce (n + 1) (some n) answers := by
  refine ⟨fun k hk => Nat.lt_succ_of_lt (h.bound k hk), fun k hk => ?_⟩
  rcases Nat.lt_succ_iff_lt_or_eq.1 hk with hlt | rfl
  · have hne : n ≠ k := by omega
    rw [if_neg (by simpa using hne)]
    exact h.count k hlt
  · rw [if_pos rfl, List.count_eq_zero]
    exact fun hin => Nat.lt_irrefl k (h.bound k hin)

end AnsweredOnce

namespace Attempts
variable {w t u : Attempts} {a : Answers}

/-- No request replaces its equal, no retry is abandoned, no update is cleared. -/
def KeepsPromises (w : Attempts) : Event → Prop
  | .execute a _ => ∀ task ∈ w.base.queue.items.head?,
      (w.base.controller.isUpdating →
        ∀ q ∈ task.requests a, w.base.controller.curPriority ≠ q.strategy.priority) ∧
      (task = .updateRetry → ∀ strategy, w.base.controller.updateStrategy = some strategy →
        strategy.updateRestrain a = false ∧ w.base.enroll = false ∧
          (w.base.update = none → a.updateCreated strategy.param)) ∧
      (task = .clearUserData → w.base.controller.isUpdating = false)
  | _ => True

structure Answered (w : Attempts) : Prop where
  faithful : w.Faithful
  once : AnsweredOnce w.accepted.length w.held w.callbacks

namespace Answered

lemma of_ledger (h : w.Answered) (hfaithful : t.Faithful) (haccepted : t.accepted = w.accepted)
    (hheld : t.held = w.held) (hcallbacks : t.callbacks = w.callbacks) : t.Answered := by
  refine ⟨hfaithful, ?_⟩
  rw [haccepted, hheld, hcallbacks]
  exact h.once

lemma same (h : w.Answered) (hsame : w.Same t) : t.Answered :=
  h.of_ledger (h.faithful.same hsame) (by rw [hsame.ledger]) (by rw [hsame.ledger])
    (by rw [hsame.ledger])

lemma held_lt (h : w.Answered) (k : Nat) (hk : w.held = some k) : k < w.accepted.length := by
  obtain ⟨q, hq, _⟩ := h.faithful.held k hk
  exact (List.getElem?_eq_some_iff.1 hq).1

lemma dropped (h : w.Answered) (hdropped : w.Dropped true t) : t.Answered := by
  refine ⟨h.faithful.dropped hdropped, ?_⟩
  rw [hdropped.accepted, hdropped.held, hdropped.callbacks]
  exact h.once.answer h.held_lt

variable {reEnroll : Bool} {r : Bool × Attempts} {strategy : UpdateStrategy}

lemma begun (h : w.Answered) (hnone : w.held = none) (hbegun : w.Begun strategy reEnroll t) :
    t.Answered := by
  refine ⟨h.faithful.begun hbegun, ?_⟩
  rw [hbegun.accepted, hbegun.held, hbegun.callbacks, List.length_append, List.length_singleton]
  exact (hnone ▸ h.once).accept

lemma requested (h : w.Answered)
    (hpriority : w.base.controller.isUpdating → w.base.controller.curPriority ≠ strategy.priority)
    (hr : Requested strategy reEnroll w r) : r.2.Answered := by
  cases hr with
  | refused hsame => exact h.same hsame
  | dropped _ _ hdropped hsame => exact (h.dropped hdropped).same hsame
  | begun hequal hbegun =>
    -- an update that runs would have the priority of the request
    exact h.begun (h.faithful.held_eq_none hequal hpriority) hbegun
  | replaced _ _ hdropped hbegun => exact (h.dropped hdropped).begun hdropped.held hbegun

lemma completed {result : UpdateState} {param : String} (h : w.Answered)
    (hr : Completed result param w r) : r.2.Answered := by
  have hfaithful := h.faithful.completed hr
  cases hr with
  | ignored => exact h
  | retry _ _ hrearmed =>
    exact h.of_ledger hfaithful hrearmed.accepted hrearmed.held hrearmed.callbacks
  | ended _ _ hdropped => exact h.dropped hdropped

lemma retried (h : w.Answered) (hr : Retried a w r)
    (hretry : ∀ strategy, w.base.controller.updateStrategy = some strategy →
      strategy.updateRestrain a = false ∧ w.base.enroll = false ∧
    (w.base.update = none → a.updateCreated strategy.param)) :
    r.2.Answered := by
  have hfaithful := h.faithful.retried hr
  cases hr with
  | forced => exact h
  | again _ _ hresumed =>
    exact h.of_ledger hfaithful hresumed.accepted hresumed.held hresumed.callbacks
  | abandoned _ hwhy hdropped =>
    -- there is nothing to retry: a strategy that is held would have its engine
    have hnone : w.held = none := by
      cases hheld : w.held with
      | none => rfl
      | some k =>
        obtain ⟨q, _, hstrategy, _⟩ := h.faithful.held k hheld
        obtain ⟨hpass, henroll, hcreated⟩ := hretry q.strategy hstrategy
        rcases hwhy q.strategy hstrategy with hrestrain | hexists | ⟨habsent, hfailed⟩
        · simp [hpass] at hrestrain
        · simp [henroll] at hexists
        · simp [hcreated habsent] at hfailed
    exact h.of_ledger hfaithful hdropped.accepted
      (hdropped.held.trans hnone.symm) hdropped.callbacks

lemma step {e : Event} (h : w.Answered) (hkeeps : w.KeepsPromises e)
    (hstep : w.step e = some t) : t.Answered := by
  have hfaithful := h.faithful.step hstep
  cases step_stepped hstep with
  | other hsame => exact h.same hsame
  | reported _ _ _ _ hposted | due _ _ _ hposted =>
    exact h.of_ledger hfaithful (by rw [hposted.ledger]) (by rw [hposted.ledger])
      (by rw [hposted.ledger])
  | @executed a arrivals task u htaken hran =>
    have hu : u.Answered := h.of_ledger (h.faithful.taken htaken) (by rw [htaken.ledger])
      (by rw [htaken.ledger]) (by rw [htaken.ledger])
    obtain ⟨hrequests, hretry, hclear⟩ := hkeeps task htaken.head
    rw [← htaken.controller] at hrequests hclear
    cases hran with
    | other _ hsame => exact hu.same hsame
    | removed _ hremoved =>
      exact hu.of_ledger hfaithful hremoved.accepted hremoved.held hremoved.callbacks
    | requested _ hin hr => exact hu.requested (fun hupdating => hrequests hupdating _ hin) hr
    | whispered hin hfirst hr =>
      have hsilence := hu.requested
        (fun hupdating => hrequests hupdating _ (List.mem_cons_self ..)) hfirst
      refine hsilence.requested (fun hupdating => ?_) hr
      -- the update that runs is the one that the silence update did not replace
      cases hfirst with
      | refused hsame =>
        rw [hsame.controller] at hupdating ⊢
        exact hrequests hupdating _ hin
      | dropped _ _ hdropped hsame =>
        rw [hsame.controller, hdropped.controller] at hupdating
        cases hupdating
    | completed hr hsame => exact (hu.completed hr).same hsame
    | followed hr _ hwhisper =>
      refine (hu.completed hr).requested (fun hupdating => ?_) hwhisper
      cases hr with
      | ended _ _ hdropped =>
        rw [hdropped.controller] at hupdating
        cases hupdating
    | retried hr hsame =>
      refine (hu.retried hr fun strategy hstrategy => ?_).same hsame
      rw [htaken.controller] at hstrategy
      rw [htaken.enroll, htaken.update]
      exact hretry rfl strategy hstrategy
    | forced hforced => simp [hforced.updating] at hclear

end Answered

theorem run_answered_once (switchStatus : WakeupModel → Bool) (es : List Event)
    (hkeeps : Along step (fun w e _ => w.KeepsPromises e) { base := .initial switchStatus } es)
    (hrun : run step { base := .initial switchStatus } es = some w) :
    ∀ k < w.accepted.length, w.callbacks.count k = if w.held = some k then 0 else 1 := by
  have hinitial : Answered { base := .initial switchStatus } :=
    ⟨.initial switchStatus, ⟨by simp, by simp⟩⟩
  exact (run_invariant (fun _ _ _ h hk hstep => h.step hk hstep) hinitial hkeeps hrun).once.count

theorem run_answered_once_replaced :
    ∃ w : Attempts, run step { base := .initial fun _ => true }
        [.request (.cloneUpdate "a"), .execute {} [], .request .silenceUpdate, .execute {} [],
          .execute {} [], .updateCommitComplete true, .execute {} []] = some w ∧
      w.accepted.length = 2 ∧ w.held = none ∧
      ∀ k < w.accepted.length, w.callbacks.count k = if w.held = some k then 0 else 1 := by
  refine ⟨_, rfl, rfl, rfl, run_answered_once (fun _ => true) [.request (.cloneUpdate "a"),
    .execute {} [], .request .silenceUpdate, .execute {} [], .execute {} [],
    .updateCommitComplete true, .execute {} []] ?_ rfl⟩
  refine .of_step rfl trivial (.of_step rfl ?_ (.of_step rfl trivial (.of_step rfl ?_
    (.of_step rfl ?_ (.of_step rfl trivial (.of_step rfl ?_ (along_nil _)))))))
  · rintro _ ⟨⟩
    exact ⟨fun h => (by cases h), fun h => (by cases h), fun h => (by cases h)⟩
  · rintro _ ⟨⟩
    exact ⟨fun _ => (by decide), fun h => (by cases h), fun h => (by cases h)⟩
  · rintro _ ⟨⟩
    exact ⟨fun _ => (by decide), fun h => (by cases h), fun h => (by cases h)⟩
  · rintro _ ⟨⟩
    exact ⟨fun _ => (by decide), fun h => (by cases h), fun h => (by cases h)⟩

theorem cleared_update_not_answered :
    ∃ w : Attempts, run step { base := .initial fun _ => true }
        [.request .silenceUpdate, .execute {} [], .request .clearUserData, .execute {} []] =
          some w ∧
      w.accepted = [⟨silenceUpdateStrategy, false⟩] ∧ w.held = none ∧
      w.base.controller.updateStrategy = none ∧ w.callbacks.count 0 = 0 :=
  ⟨_, rfl, rfl, rfl, rfl, rfl⟩

end Attempts
end IntellVoice.Service
