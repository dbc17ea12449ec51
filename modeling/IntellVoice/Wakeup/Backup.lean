import IntellVoice.Wakeup.Engine

/-! `WakeupAdapterListener` keeps an event for the next callback when none is set. -/

namespace IntellVoice.Wakeup
open Transition Utils List

def WakeupAdapterListener.total (l : WakeupAdapterListener) (n : Nat) : Nat :=
  (l.delivered.map (·.2.report.serial)).count n +
    (l.historyEvent.toList.map (·.report.serial)).count n

def StateMsg.brings (m : StateMsg) (n : Nat) : Nat :=
  match m with
  | .recognizeComplete (some e) => [e.report.serial].count n
  | _ => 0

namespace WakeupAdapterListener
variable (l : WakeupAdapterListener)

lemma total_setCallback (cb : Option Nat) (n : Nat) : (l.setCallback cb).total n = l.total n := by
  obtain ⟨cb', history, delivered⟩ := l
  cases cb with
  | none => rfl
  | some c =>
    cases history with
    | none => rfl
    | some e => simp [setCallback, total]

lemma total_clearBackupEvent (n : Nat) : l.clearBackupEvent.total n ≤ l.total n := by
  simp [clearBackupEvent, total]

lemma total_notify (e : CallBackEvent) (n : Nat) :
    (l.notify e).total n ≤ l.total n + [e.report.serial].count n := by
  obtain ⟨cb, history, delivered⟩ := l
  cases cb with
  | none =>
    simp only [notify, backupCallBackEvent]
    split
    · simp only [total, Option.toList_some, map_singleton]
      omega
    · exact Nat.le_add_right _ _
  | some c =>
    simp only [notify]
    split
    · simp only [total, Option.toList_none, map_append, map_nil, map_cons,
        count_append, count_nil]
      omega
    · simp only [total, Option.toList_none, map_nil, count_nil]
      omega

lemma historyEvent_notify_of_cb {e : CallBackEvent} (hcb : l.cb ≠ none) :
    (l.notify e).historyEvent = none := by
  obtain ⟨cb, history, delivered⟩ := l
  cases cb with
  | none => exact absurd rfl hcb
  | some c =>
    simp only [notify]
    split <;> rfl

lemma historyEvent_notify {e e' : CallBackEvent} (hnone : l.historyEvent = none)
    (hkept : (l.notify e).historyEvent = some e') : e' = e := by
  obtain ⟨cb, history, delivered⟩ := l
  cases cb with
  | none =>
    simp only [notify, backupCallBackEvent] at hkept
    split at hkept
    · exact (Option.some.inj hkept).symm
    · exact absurd (hnone.symm.trans hkept) (by simp)
  | some c =>
    rw [historyEvent_notify_of_cb _ (by simp)] at hkept
    cases hkept

lemma historyEvent_setCallback {cb : Option Nat} {e : CallBackEvent}
    (hkept : (l.setCallback cb).historyEvent = some e) : l.historyEvent = some e := by
  obtain ⟨cb', history, delivered⟩ := l
  cases cb with
  | none => exact hkept
  | some c =>
    cases history with
    | none => exact hkept
    | some e' => cases hkept

end WakeupAdapterListener

lemma Phone.total_reaction {s st : EngineState} {d d' : ImplData} {m : StateMsg}
    (hreaction : Reaction s d m st d') (n : Nat) :
    d'.listener.total n ≤ d.listener.total n + m.brings n := by
  cases hreaction with
  | setListener msg => exact le_of_eq (d.listener.total_setCallback msg.callback n)
  | create _ _ hlistener | start _ _ hlistener =>
    rw [hlistener]
    exact Nat.le_add_right _ _
  | failed | recognized => exact d.listener.total_notify _ n
  | stopCapturer => exact (d.listener.total_clearBackupEvent n).trans (Nat.le_add_right _ _)
  -- the listener is left alone
  | none | initDone | stop | startCapturer | release => exact Nat.le_add_right _ _

def EngineTask.serial : EngineTask → Nat
  | .onInitDone _ report => report.serial
  | .onWakeupRecognition _ _ report => report.serial

namespace Engine
variable {s t : Engine}

def total (s : Engine) (n : Nat) : Nat :=
  s.data.listener.total n + (s.pending.map EngineTask.serial).count n

def Single (s : Engine) : Prop := ∀ n, s.total n ≤ if n < s.reports then 1 else 0

variable {e : EngineInput} {st : EngineState} {m : StateMsg}

lemma Single.react (h : s.Single) (hm : ∀ n, m.brings n = 0) : (s.react m).Single := by
  intro n
  have hreaction := Phone.total_reaction (s.reaction_react m) n
  have hn := h n
  simp only [total, pending_react, hm n] at hn hreaction ⊢
  exact le_trans (by omega) hn

lemma brings_msg (task : EngineTask) (n : Nat) : task.msg.brings n ≤ [task.serial].count n := by
  cases task with
  | onInitDone result report => exact Nat.zero_le _
  | onWakeupRecognition result info report => exact le_rfl

lemma Single.execute (h : s.Single) {task : EngineTask} (hhand : s.inHand = some task) :
    ({ s with inHand := none }.react task.msg).Single := by
  intro n
  have hreaction : _ ≤ s.data.listener.total n + _ :=
    Phone.total_reaction (reaction_react (s := { s with inHand := none }) task.msg) n
  have hn := h n
  have hbrings := brings_msg task n
  -- what the task held before is what its message brings
  simp only [total, pending_execute hhand, map_cons, count_cons] at hn
  simp only [count_singleton] at hbrings
  simp only [total, pending_react]
  refine le_trans ?_ hn
  omega

lemma Single.onWakeupEvent (h : s.Single) (adapter : Nat) (msgId : EngineMessageType)
    (result : Int) (info : String) : (s.onWakeupEvent adapter msgId result info).Single := by
  have hdata : (s.onWakeupEvent adapter msgId result info).data = s.data := by
    cases msgId <;> rfl
  have hreports : (s.onWakeupEvent adapter msgId result info).reports = s.reports + 1 := by
    cases msgId <;> rfl
  intro n
  have hn := h n
  unfold total at hn ⊢
  rw [hdata, hreports]
  rcases s.pending_onWakeupEvent adapter msgId result info with hsame | ⟨task, hnew, htask⟩
  · rw [hsame]
    split <;> split at hn <;> omega
  have hserial : task.serial = s.reports := by
    rcases htask with rfl | rfl <;> rfl
  rw [hnew, map_append, map_singleton, count_append, hserial, count_singleton]
  -- the new report has a number that no other has
  by_cases hfresh : n = s.reports
  · subst hfresh
    simp only [Nat.lt_irrefl, if_false] at hn
    simp
    omega
  · have : ¬ s.reports = n := fun h => hfresh h.symm
    simp only [beq_iff_eq, this, if_false]
    split <;> split at hn <;> omega

lemma ofFacade_brings (hm : m.ofFacade) (n : Nat) : m.brings n = 0 := by
  cases m with
  | recognizeComplete e => cases hm
  | _ => rfl

lemma isTimeout_brings (hm : m.isTimeout) (n : Nat) : m.brings n = 0 := by
  cases m with
  | recognizeComplete e => cases hm
  | _ => rfl

lemma step_single (h : s.Single) (hstep : s.step e = some t) : t.Single := by
  cases step_cases hstep with
  | handle hm => exact h.react (ofFacade_brings hm)
  | timeout hm => exact h.react (isTimeout_brings hm)
  | report => exact h.onWakeupEvent _ _ _ _
  | take hhand hpop =>
    intro n
    have hn := h n
    simp only [total, pending_take hhand hpop] at hn ⊢
    exact hn
  | execute hhand => exact h.execute hhand

lemma Single.nodup_delivered (h : s.Single) :
    (s.data.listener.delivered.map (·.2.report.serial)).Nodup := by
  apply nodup_iff_count_le_one.2
  intro n
  have hn := h n
  unfold total WakeupAdapterListener.total at hn
  split at hn <;> omega

def ReplaysAlive (s : Engine) (e : EngineInput) : Prop :=
  ∀ cb event, e = .handle (.setListener (some ⟨some cb⟩)) →
    s.data.listener.historyEvent = some event → s.wakeup = some event.report.serial

def Watched (s : Engine) : EngineInput → Prop
  | .handle m =>
    m.msgId = .release ∨ m.msgId = .releaseAdapter → s.data.listener.historyEvent = none
  | .execute => ∀ result info report,
      s.inHand = some (.onWakeupRecognition result info report) → s.state = .recognizing →
        result ≠ 0 → s.data.listener.cb ≠ none
  | _ => True

def KeepsAlive (s : Engine) : Prop :=
  ∀ event, s.data.listener.historyEvent = some event →
    (s.state = .recognized ∨ s.state = .readCapturer) ∧ s.wakeup = some event.report.serial

lemma wakeupAfter_of_alive (hs : s.state = .recognized ∨ s.state = .readCapturer)
    (hst : st = .recognized ∨ st = .readCapturer) : s.wakeupAfter m st = s.wakeup := by
  unfold wakeupAfter
  rw [if_pos hst]
  rcases hs with hs | hs <;> rw [hs]

lemma KeepsAlive.historyEvent_eq_none (h : s.KeepsAlive) (hr : s.state ≠ .recognized)
    (hc : s.state ≠ .readCapturer) : s.data.listener.historyEvent = none := by
  cases hevent : s.data.listener.historyEvent with
  | none => rfl
  | some event => exact absurd (h event hevent).1 (by simp [hr, hc])

lemma KeepsAlive.of_reaction {st' : EngineState} {d d' : ImplData} (h : s.KeepsAlive)
    (hreaction : Phone.Reaction st d m st' d') (hs : s.state = st) (hsd : s.data = d)
    (ht : t.state = st') (htd : t.data = d') (hwakeup : t.wakeup = s.wakeupAfter m t.state)
    (hrelease : m.msgId = .release ∨ m.msgId = .releaseAdapter → s.data.listener.historyEvent =
      none)
    (hfailed : ∀ e, m = .recognizeComplete (some e) → s.state = .recognizing → e.result ≠ 0 →
      s.data.listener.cb ≠ none) :
    t.KeepsAlive := by
  -- the event was kept before and the engine has stayed where its wakeup is alive
  have hstayed : ∀ event, s.data.listener.historyEvent = some event →
      (s.state = .recognized ∨ s.state = .readCapturer →
        t.state = .recognized ∨ t.state = .readCapturer) →
      (t.state = .recognized ∨ t.state = .readCapturer) ∧
        t.wakeup = some event.report.serial := by
    intro event hevent hstays
    obtain ⟨hwas, halive⟩ := h event hevent
    refine ⟨hstays hwas, ?_⟩
    rw [hwakeup, wakeupAfter_of_alive hwas (hstays hwas), halive]
  intro event hkept
  rw [htd] at hkept
  cases hreaction with
  | none =>
    rw [← hsd] at hkept
    exact hstayed event hkept fun hwas => by rwa [ht, ← hs]
  | setListener msg =>
    rw [← hsd] at hkept
    exact hstayed event (s.data.listener.historyEvent_setCallback hkept)
      fun hwas => by rwa [ht, ← hs]
  | create _ _ hlistener | start _ _ hlistener =>
    rw [hlistener, ← hsd, h.historyEvent_eq_none (by simp [hs]) (by simp [hs])] at hkept
    cases hkept
  | initDone =>
    rw [← hsd, h.historyEvent_eq_none (by simp [hs]) (by simp [hs])] at hkept
    cases hkept
  | stop =>
    have hnone := h.historyEvent_eq_none (by simp [hs]) (by simp [hs])
    rw [hsd] at hnone
    exact absurd (hnone.symm.trans hkept) (by simp)
  | @failed _ e hresult =>
    rw [← hsd] at hkept
    have hnone := s.data.listener.historyEvent_notify_of_cb (e := e) (hfailed e rfl hs hresult)
    exact absurd (hnone.symm.trans hkept) (by simp)
  | @recognized _ e =>
    rw [← hsd] at hkept
    obtain rfl : event = e := s.data.listener.historyEvent_notify
      (h.historyEvent_eq_none (by simp [hs]) (by simp [hs])) hkept
    refine ⟨.inl ht, ?_⟩
    rw [hwakeup, ht]
    simp [wakeupAfter, hs]
  | startCapturer =>
    rw [← hsd] at hkept
    exact hstayed event hkept fun _ => .inr ht
  | stopCapturer => cases hkept
  | release hm =>
    have hnone := hrelease hm
    rw [hsd] at hnone
    exact absurd (hnone.symm.trans hkept) (by simp)

lemma KeepsAlive.react (h : s.KeepsAlive)
    (hrelease : m.msgId = .release ∨ m.msgId = .releaseAdapter → s.data.listener.historyEvent =
      none)
    (hfailed : ∀ e, m = .recognizeComplete (some e) → s.state = .recognizing → e.result ≠ 0 →
      s.data.listener.cb ≠ none) :
    (s.react m).KeepsAlive :=
  h.of_reaction (s.reaction_react m) rfl rfl rfl rfl rfl hrelease hfailed

lemma step_keepsAlive (h : s.KeepsAlive) (hwatched : s.Watched e) (hstep : s.step e = some t) :
    t.KeepsAlive := by
  cases step_cases hstep with
  | @handle m hm =>
    refine h.react hwatched fun e he => ?_
    subst he
    cases hm
  | @timeout m hm =>
    refine h.react (fun hr => ?_) fun e he => ?_
    · cases m <;> simp_all [StateMsg.isTimeout, StateMsg.msgId]
    · subst he
      cases hm
  | @report adapter msgId result info =>
    cases msgId <;> exact h
  | take => exact h
  | @execute task hhand =>
    have hrest : ({ s with inHand := none } : Engine).KeepsAlive := h
    cases task with
    | onInitDone result report =>
      exact hrest.react (fun hr => by rcases hr with hr | hr <;> cases hr) fun e he => by cases he
    | onWakeupRecognition result info report =>
      refine hrest.react
        (fun hr => by rcases hr with hr | hr <;> cases hr) fun e he hs hresult => ?_
      cases he
      exact hwatched result info report hhand hs hresult

theorem run_replaysAlive (es : List EngineInput)
    (hwatched : Along step (fun s e _ => s.Watched e) {} es) :
    Along step (fun s e t => s.ReplaysAlive e ∧
      (t.data.listener.delivered.map (·.2.report.serial)).Nodup) {} es := by
  have hstep : ∀ s e t, (KeepsAlive s ∧ Single s) → s.Watched e → step s e = some t →
      (t.KeepsAlive ∧ t.Single) ∧ s.ReplaysAlive e ∧
        (t.data.listener.delivered.map (·.2.report.serial)).Nodup := by
    intro s e t h hw ht
    have hsingle := step_single h.2 ht
    exact ⟨⟨step_keepsAlive h.1 hw ht, hsingle⟩, fun _ event _ hevent => (h.1 event hevent).2,
      hsingle.nodup_delivered⟩
  have hinitial : KeepsAlive {} ∧ Single {} := by
    constructor
    · intro event hevent
      cases hevent
    · intro n
      exact Nat.zero_le _
  exact along_of_invariant hstep hinitial hwatched

theorem run_replaysAlive_late_client :
    Along step (fun s e t => s.ReplaysAlive e ∧
        (t.data.listener.delivered.map (·.2.report.serial)).Nodup) {}
      [.handle (.init true true), .report 0 .initDone 0 "", .take, .execute,
        .handle (.startRecognize (some 1) true true true), .report 0 .recognizeComplete 0 "",
        .take, .execute, .handle (.setListener (some ⟨some 7⟩))] := by
  apply run_replaysAlive
  have hkind : ∀ {m : StateMsg}, m.msgId ≠ .release → m.msgId ≠ .releaseAdapter →
      m.msgId = .release ∨ m.msgId = .releaseAdapter → False := fun h h' => by simp [h, h']
  refine .of_step rfl (fun hm => (hkind (by decide) (by decide) hm).elim) ?_
  refine .of_step rfl trivial (.of_step rfl trivial (.of_step rfl (fun _ _ _ hhand => ?_) ?_))
  · cases hhand
  refine .of_step rfl (fun hm => (hkind (by decide) (by decide) hm).elim) ?_
  refine .of_step rfl trivial (.of_step rfl trivial (.of_step rfl (fun _ _ _ hhand _ hr => ?_) ?_))
  · cases hhand
    exact absurd rfl hr
  exact .of_step rfl (fun hm => (hkind (by decide) (by decide) hm).elim) trivial

theorem failed_event_outlives_wakeup :
    ¬ Along step (fun s e t => s.ReplaysAlive e ∧
        (t.data.listener.delivered.map (·.2.report.serial)).Nodup) {}
      [.handle (.init true true), .report 0 .initDone 0 "", .take, .execute,
        .handle (.startRecognize (some 1) true true true), .report 0 .recognizeComplete 1 "",
        .take, .execute, .handle (.setListener (some ⟨some 7⟩))] := by
  intro h
  have hlast := (h _ rfl).2
  iterate 7 replace hlast := (hlast _ rfl).2
  have halive := (hlast _ rfl).1.1 7 _ rfl rfl
  cases halive

end Engine
end IntellVoice.Wakeup
