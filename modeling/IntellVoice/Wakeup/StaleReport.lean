import IntellVoice.Wakeup.Engine

/-! A report is current if it is of this adapter and of this recognition. -/

namespace IntellVoice.Wakeup.Engine
open Transition Utils
variable {s t : Engine}

structure ActsOnCurrent (s : Engine) (e : EngineInput) (t : Engine) : Prop where
  initialized : s.state = .initializing → t.state = .initialized →
    ∃ result report, e = .execute ∧ s.inHand = some (.onInitDone result report) ∧
      s.data.adapter = some report.adapter
  recognized : s.state = .recognizing → ∀ result info report, e = .execute →
    s.inHand = some (.onWakeupRecognition result info report) →
      s.data.adapter = some report.adapter ∧ report.starts = s.data.starts

def NoInitDone (s : Engine) : Prop := ∀ result report, .onInitDone result report ∉ s.pending

def NoRecognition (s : Engine) : Prop :=
  ∀ result info report, .onWakeupRecognition result info report ∉ s.pending

def Settled (s : Engine) : EngineInput → Prop
  | .report adapter _ _ _ => s.data.adapter = some adapter
  | .handle m =>
    (s.state = .idle → m.msgId = .init ∨ m.msgId = .resetAdapter → s.NoInitDone) ∧
      (s.state = .initialized → m.msgId = .startRecognize → s.NoRecognition)
  | _ => True

structure Current (s : Engine) : Prop where
  initDone : s.state = .initializing → ∀ result report,
    .onInitDone result report ∈ s.pending → s.data.adapter = some report.adapter
  recognition : s.state = .recognizing → ∀ result info report,
    .onWakeupRecognition result info report ∈ s.pending →
      s.data.adapter = some report.adapter ∧ report.starts = s.data.starts

variable {e : EngineInput} {st : EngineState} {m : StateMsg}

lemma Current.of_state (hst : s.state = st) (hi : st ≠ .initializing) (hr : st ≠ .recognizing) :
    s.Current :=
  ⟨fun h => absurd (hst.symm.trans h) hi, fun h => absurd (hst.symm.trans h) hr⟩

lemma Current.of_reaction {st' : EngineState} {d d' : ImplData} (h : s.Current)
    (hreaction : Phone.Reaction st d m st' d') (hs : s.state = st) (hsd : s.data = d)
    (ht : t.state = st') (htd : t.data = d') (hpending : t.pending = s.pending)
    (hcreate : s.state = .idle → m.msgId = .init ∨ m.msgId = .resetAdapter → s.NoInitDone)
    (hstart : s.state = .initialized → m.msgId = .startRecognize → s.NoRecognition) :
    t.Current := by
  cases hreaction with
  | none | setListener =>
    constructor
    · rw [ht, ← hs, htd, ← hsd, hpending]
      exact h.initDone
    · rw [ht, ← hs, htd, ← hsd, hpending]
      exact h.recognition
  | create hm hst _ =>
    rcases hst with rfl | rfl
    · exact Current.of_state ht (by decide) (by decide)
    -- a new adapter: what waits would be taken for its own
    refine ⟨fun _ result report hmem => ?_, fun hrecognizing => ?_⟩
    · exact absurd (hpending ▸ hmem) (hcreate hs hm result report)
    · rw [ht] at hrecognizing
      cases hrecognizing
  | start hm hst _ =>
    rcases hst with rfl | rfl
    · exact Current.of_state ht (by decide) (by decide)
    -- a new recognition: likewise
    refine ⟨fun hinitializing => ?_, fun _ result info report hmem => ?_⟩
    · rw [ht] at hinitializing
      cases hinitializing
    · exact absurd (hpending ▸ hmem) (hstart hs hm result info report)
  | initDone | stop | failed | recognized | startCapturer | stopCapturer | release =>
    exact Current.of_state ht (by decide) (by decide)

lemma Current.react (h : s.Current)
    (hcreate : s.state = .idle → m.msgId = .init ∨ m.msgId = .resetAdapter → s.NoInitDone)
    (hstart : s.state = .initialized → m.msgId = .startRecognize → s.NoRecognition) :
    (s.react m).Current :=
  h.of_reaction (reaction_react m) rfl rfl rfl rfl (pending_react m) hcreate hstart

lemma Current.of_pending (h : s.Current) (hstate : t.state = s.state) (hdata : t.data = s.data)
    (hpending : ∀ task ∈ t.pending, task ∈ s.pending) : t.Current := by
  constructor
  · rw [hstate, hdata]
    exact fun hs result report hmem => h.initDone hs result report (hpending _ hmem)
  · rw [hstate, hdata]
    exact fun hs result info report hmem => h.recognition hs result info report (hpending _ hmem)

lemma Current.onWakeupEvent (h : s.Current) {adapter : Nat} (hheld : s.data.adapter = some adapter)
    (msgId : EngineMessageType) (result : Int) (info : String) :
    (s.onWakeupEvent adapter msgId result info).Current := by
  have hstate : (s.onWakeupEvent adapter msgId result info).state = s.state := by
    cases msgId <;> rfl
  have hdata : (s.onWakeupEvent adapter msgId result info).data = s.data := by
    cases msgId <;> rfl
  rcases s.pending_onWakeupEvent adapter msgId result info with hsame | ⟨task, hnew, htask⟩
  · exact h.of_pending hstate hdata fun task hmem => hsame ▸ hmem
  constructor
  · rw [hstate, hdata, hnew]
    intro hs result' report hmem
    rcases List.mem_append.1 hmem with hold | hlast
    · exact h.initDone hs result' report hold
    obtain rfl := List.mem_singleton.1 hlast
    rcases htask with heq | heq <;> cases heq
    exact hheld
  · rw [hstate, hdata, hnew]
    intro hs result' info' report hmem
    rcases List.mem_append.1 hmem with hold | hlast
    · exact h.recognition hs result' info' report hold
    obtain rfl := List.mem_singleton.1 hlast
    rcases htask with heq | heq <;> cases heq
    exact ⟨hheld, rfl⟩

lemma isTimeout_not_create (hm : m.isTimeout) :
    ¬ (m.msgId = .init ∨ m.msgId = .resetAdapter) ∧ m.msgId ≠ .startRecognize := by
  cases m <;> simp_all [StateMsg.isTimeout, StateMsg.msgId]

lemma task_not_create (task : EngineTask) :
    ¬ (task.msg.msgId = .init ∨ task.msg.msgId = .resetAdapter) ∧
      task.msg.msgId ≠ .startRecognize := by
  cases task <;> simp [EngineTask.msg, StateMsg.msgId]

lemma step_current (h : s.Current) (hsettled : s.Settled e) (hstep : s.step e = some t) :
    t.Current := by
  cases step_cases hstep with
  | handle hm => exact h.react hsettled.1 hsettled.2
  | timeout hm =>
    exact h.react (fun _ hc => absurd hc (isTimeout_not_create hm).1)
      fun _ hc => absurd hc (isTimeout_not_create hm).2
  | report => exact h.onWakeupEvent hsettled _ _ _
  | take hhand hpop =>
    exact h.of_pending rfl rfl fun task hmem => pending_take hhand hpop ▸ hmem
  | @execute task hhand =>
    -- first the task leaves the hand of the executor, then its message is handled
    have hrest : ({ s with inHand := none } : Engine).Current := by
      refine h.of_pending rfl rfl fun task' hmem => ?_
      rw [pending_execute hhand]
      exact List.mem_cons_of_mem _ hmem
    exact hrest.react (fun _ hc => absurd hc (task_not_create task).1)
      fun _ hc => absurd hc (task_not_create task).2

lemma initDone_of_initialized (hs : s.state = .initializing)
    (ht : (s.react m).state = .initialized) :
    m = .initDone (some 0) := by
  have hreaction := s.reaction_react m
  rw [hs, ht] at hreaction
  -- the data is not an index the cases can be solved for
  generalize (s.react m).data = d' at hreaction
  cases hreaction with
  | initDone => rfl
  | stopCapturer hcapturing => rcases hcapturing with h | h <;> cases h

lemma step_actsOnCurrent (h : s.Current) (hstep : s.step e = some t) :
    s.ActsOnCurrent e t where
  initialized hs ht := by
    cases step_cases hstep with
    -- `INIT_DONE` comes from neither the facade nor the timer thread
    | handle hm =>
      obtain rfl := initDone_of_initialized hs ht
      cases hm
    | timeout hm =>
      obtain rfl := initDone_of_initialized hs ht
      cases hm
    | report =>
      rename_i msgId _ _
      cases msgId <;> exact absurd (hs.symm.trans ht) (by decide)
    | take => exact absurd (hs.symm.trans ht) (by decide)
    | @execute task hhand =>
      have hmsg : task.msg = .initDone (some 0) :=
        initDone_of_initialized (s := { s with inHand := none }) hs ht
      cases task with
      | onInitDone result report =>
        refine ⟨result, report, rfl, hhand, h.initDone hs result report ?_⟩
        rw [pending_execute hhand]
        exact List.mem_cons_self
      | onWakeupRecognition result info report => cases hmsg
  recognized hs result info report he hhand := by
    apply h.recognition hs result info report
    rw [pending_execute hhand]
    exact List.mem_cons_self

theorem run_actsOnCurrent (es : List EngineInput)
    (hsettled : Along step (fun s e _ => s.Settled e) {} es) :
    Along step (fun s e t => s.ActsOnCurrent e t) {} es := by
  have hstep : ∀ s e t, Current s → s.Settled e → step s e = some t →
      t.Current ∧ s.ActsOnCurrent e t :=
    fun _ _ _ h hs ht => ⟨step_current h hs ht, step_actsOnCurrent h ht⟩
  exact along_of_invariant hstep (Current.of_state rfl (by decide) (by decide)) hsettled

theorem run_actsOnCurrent_recognized :
    Along step (fun s e t => s.ActsOnCurrent e t) {}
      [.handle (.init true true), .report 0 .initDone 0 "", .take, .execute,
        .handle (.startRecognize (some 1) true true true), .report 0 .recognizeComplete 0 "",
        .take, .execute] := by
  apply run_actsOnCurrent
  refine .of_step rfl ⟨fun _ _ _ _ hmem => ?_, fun hs => by cases hs⟩ ?_
  · cases hmem
  refine .of_step rfl rfl (.of_step rfl trivial (.of_step rfl trivial ?_))
  refine .of_step rfl ⟨fun hs => (by cases hs), fun _ _ _ _ _ hmem => ?_⟩ ?_
  · cases hmem
  exact .of_step rfl rfl (.of_step rfl trivial (.of_step rfl trivial trivial))

theorem initDone_of_released_adapter :
    ¬ Along step (fun s e t => s.ActsOnCurrent e t) {}
      [.handle (.init true true), .report 0 .initDone 0 "", .handle .releaseAdapter,
        .handle (.resetAdapter true true), .take, .execute] := by
  intro h
  have hlast := (h _ rfl).2
  iterate 4 replace hlast := (hlast _ rfl).2
  obtain ⟨result, report, -, hhand, hadapter⟩ := (hlast _ rfl).1.initialized rfl rfl
  cases hhand
  exact absurd hadapter (by decide)

end IntellVoice.Wakeup.Engine
