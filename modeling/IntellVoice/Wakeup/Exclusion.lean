import IntellVoice.Wakeup.Facade

/-! At most one implementation is in a process, and the facade knows which. -/

namespace IntellVoice.Wakeup
open Transition Utils Option

lemma ImplKind.handleMsg_release (k : ImplKind) (s : EngineState) (d : ImplData) :
    (k.machine.handleMsg s .release d).2.1 = .idle := by
  cases k <;> cases s <;> rfl

lemma nextState_handleInitDone {m : StateMsg} {s st : EngineState} {d : ImplData}
    (hnext : (Shared.handleInitDone m s d).1.nextState = some st) : st = .initialized := by
  unfold Shared.handleInitDone at hnext
  split at hnext
  · split at hnext
    · cases hnext
    · exact (some.inj hnext).symm
  · cases hnext

lemma ImplKind.nextState_handle {k : ImplKind} {s st : EngineState} {m : StateMsg} {d : ImplData}
    (hm : m.msgId ≠ .startRecognize) (hs : s.inProcess = false)
    (hnext : (k.machine.handle s m d).1.nextState = some st) : st.inProcess = false := by
  cases m with
  | startRecognize => exact absurd rfl hm
  | setListener msg => cases msg <;> cases k <;> cases s <;> cases hnext
  | init created attached | resetAdapter created attached =>
    cases created <;> cases attached <;> cases s <;>
      first
        | (cases hs; done)
        | (cases k <;> cases hnext <;> rfl)
  | initDone result =>
    cases s with
    | initializing =>
      cases k with
      | phone | headset => exact nextState_handleInitDone hnext ▸ rfl
      | glasses => cases hnext
    | idle | initialized => cases k <;> cases hnext
    | _ => cases hs
  | _ =>
    cases s <;>
      first
        | (cases hs; done)
        | (cases k <;> cases hnext <;> rfl)

namespace Impl
variable {i : Impl} {m : StateMsg}

def Active (i : Impl) : Prop := i.state.inProcess ∨ i.reported.inProcess

lemma inProcess_handle (hm : m.msgId ≠ .startRecognize)
    (h : (i.handle m).2.state.inProcess) : i.state.inProcess := by
  cases hs : i.state.inProcess with
  | true => rfl
  | false =>
    rcases i.kind.machine.handleMsg_state i.state m i.data with hstay | hnext
    · rw [← hs, ← hstay]
      exact h
    · have := ImplKind.nextState_handle hm hs hnext
      exact absurd h (by simp [handle, this])

@[simp] lemma reported_handle : (i.handle m).2.reported = i.reported := rfl

variable {device : WakeupDeviceDetail}

lemma reported_prepare : (i.prepare device).reported = i.reported := by
  unfold prepare
  split <;> rfl

lemma processType_prepare : (i.prepare device).processType = i.processType := by
  unfold prepare
  split <;> rfl

lemma active_prepare : (i.prepare device).Active ↔ i.Active := by
  unfold prepare
  split <;> rfl

lemma state_eq_reported (h : i.settled) : i.state = i.reported := by
  simpa [settled] using h

end Impl

def Command.Plain : Command → Prop
  | .handle _ m => m.msgId ≠ .startRecognize
  | .route m m' => m.msgId ≠ .startRecognize ∧ m'.msgId ≠ .startRecognize
  | .await _ | .trigger .. | .announce => True
  | .start .. | .destroy .. | .drop .. | .create .. | .init _ => False

namespace Facade
variable {f g : Facade} {t : Target} {i j : Impl}

def Exclusive (f : Facade) : Prop :=
  ∀ t i t' i', f.impl t = some i → f.impl t' = some i' →
    i.state.inProcess → i'.state.inProcess → t = t'

def Settled (f : Facade) : Prop := ∀ t i, f.impl t = some i → i.settled

def Agrees (f : Facade) : Prop :=
  (f.curState.inProcess ↔ ∃ t i, f.impl t = some i ∧ i.state.inProcess) ∧
    ∀ t i, f.impl t = some i → i.state.inProcess →
      f.curState = i.state ∧ f.curProcess = i.processType

def Quiet (f : Facade) : Prop := ∀ t i, f.impl t = some i → ¬ i.Active

structure Distinct (f : Facade) : Prop where
  phoneType : f.phone.processType ≠ .wakeupHeadset ∧ f.phone.processType ≠ .wakeupGlasses
  accessoryType : ∀ i, f.impl .accessory = some i →
    i.processType = .wakeupHeadset ∨ i.processType = .wakeupGlasses
  named : ∀ t i, f.impl t = some i → i.Active → i.processType ≠ .idle
  alone : ∀ t i t' i', f.impl t = some i → f.impl t' = some i' → i.Active → i'.Active → t = t'

structure Informed (f : Facade) : Prop extends Distinct f where
  summary : ∀ t i, f.impl t = some i → i.reported.inProcess →
    f.curState = i.reported ∧ f.curProcess = i.processType
  told : f.curState.inProcess → ∃ t i, f.impl t = some i ∧ i.reported.inProcess

lemma impl_congr (hphone : g.phone = f.phone) (hwakeup : g.wakeupImpl = f.wakeupImpl)
    (t : Target) : g.impl t = f.impl t := by
  cases t with
  | phone => exact congrArg some hphone
  | accessory => simp only [impl, hwakeup]

lemma Distinct.congr (h : f.Distinct) (hphone : g.phone = f.phone)
    (hwakeup : g.wakeupImpl = f.wakeupImpl) : g.Distinct := by
  have himpl := impl_congr hphone hwakeup
  constructor
  · rw [hphone]
    exact h.phoneType
  · simp only [himpl]
    exact h.accessoryType
  · simp only [himpl]
    exact h.named
  · simp only [himpl]
    exact h.alone

lemma Informed.congr (h : f.Informed) (hphone : g.phone = f.phone)
    (hwakeup : g.wakeupImpl = f.wakeupImpl) (hstate : g.curState = f.curState)
    (hprocess : g.curProcess = f.curProcess) : g.Informed := by
  have himpl := impl_congr hphone hwakeup
  refine { h.toDistinct.congr hphone hwakeup with summary := ?_, told := ?_ }
  · simp only [himpl, hstate, hprocess]
    exact h.summary
  · simp only [himpl, hstate]
    exact h.told

lemma impl_accessory : f.impl .accessory = some i ↔ f.wakeupImpl = .accessory i := by
  cases hwakeup : f.wakeupImpl <;> simp [impl, hwakeup]

@[simp] lemma impl_setImpl_self : (f.setImpl t i).impl t = some i := by
  cases t <;> rfl

variable {c : Command} {a : CreateAnswers} {t' : Target} {info : WakeupDeviceDetail}
  {w : WakeupImpl}

lemma impl_setImpl_ne (hne : t' ≠ t) : (f.setImpl t i).impl t' = f.impl t' := by
  cases t <;> cases t'
  · exact absurd rfl hne
  · rfl
  · rfl
  · exact absurd rfl hne

lemma impl_setImpl {k : Impl} (hk : (f.setImpl t j).impl t' = some k) :
    t' = t ∧ k = j ∨ t' ≠ t ∧ f.impl t' = some k := by
  by_cases hne : t' = t
  · subst hne
    rw [impl_setImpl_self] at hk
    exact .inl ⟨rfl, (some.inj hk).symm⟩
  · rw [impl_setImpl_ne hne] at hk
    exact .inr ⟨hne, hk⟩

@[simp] lemma curState_setImpl : (f.setImpl t i).curState = f.curState := by cases t <;> rfl

@[simp] lemma curProcess_setImpl : (f.setImpl t i).curProcess = f.curProcess := by cases t <;> rfl

@[simp] lemma job_setImpl : (f.setImpl t i).job = f.job := by cases t <;> rfl

@[simp] lemma wakeupDevice_setImpl : (f.setImpl t i).wakeupDevice = f.wakeupDevice := by
  cases t <;> rfl

lemma Distinct.setImpl (h : f.Distinct) (hi : f.impl t = some i)
    (htype : j.processType = i.processType) (hnamed : j.Active → j.processType ≠ .idle)
    (halone : j.Active → ∀ t' i', t' ≠ t → f.impl t' = some i' → ¬ i'.Active) :
    (f.setImpl t j).Distinct where
  phoneType := by
    cases t with
    | accessory => exact h.phoneType
    | phone =>
      cases hi
      show j.processType ≠ _ ∧ j.processType ≠ _
      rw [htype]
      exact h.phoneType
  accessoryType k hk := by
    rcases impl_setImpl hk with ⟨rfl, rfl⟩ | ⟨-, hk⟩
    · rw [htype]
      exact h.accessoryType i hi
    · exact h.accessoryType k hk
  named t' k hk hactive := by
    rcases impl_setImpl hk with ⟨rfl, rfl⟩ | ⟨-, hk⟩
    · exact hnamed hactive
    · exact h.named t' k hk hactive
  alone t' k t'' k' hk hk' hactive hactive' := by
    -- the one that moves and the others, on both sides
    rcases impl_setImpl hk with ⟨rfl, rfl⟩ | ⟨hne, hold⟩ <;>
      rcases impl_setImpl hk' with ⟨rfl, rfl⟩ | ⟨hne', hold'⟩
    · rfl
    · exact absurd hactive' (halone hactive t'' k' hne' hold')
    · exact absurd hactive (halone hactive' t' k hne hold)
    · exact h.alone t' k t'' k' hold hold' hactive hactive'

lemma Informed.setImpl (h : f.Informed) (hi : f.impl t = some i)
    (hreported : j.reported = i.reported) (htype : j.processType = i.processType)
    (hnamed : j.Active → j.processType ≠ .idle)
    (halone : j.Active → ∀ t' i', t' ≠ t → f.impl t' = some i' → ¬ i'.Active) :
    (f.setImpl t j).Informed where
  toDistinct := h.toDistinct.setImpl hi htype hnamed halone
  summary t' k hk hprocess := by
    rw [curState_setImpl, curProcess_setImpl]
    rcases impl_setImpl hk with ⟨rfl, rfl⟩ | ⟨-, hk⟩
    · rw [hreported, htype]
      rw [hreported] at hprocess
      exact h.summary _ i hi hprocess
    · exact h.summary t' k hk hprocess
  told hcur := by
    rw [curState_setImpl] at hcur
    obtain ⟨t', k, hk, hprocess⟩ := h.told hcur
    by_cases hne : t' = t
    · subst hne
      obtain rfl : k = i := some.inj (hk.symm.trans hi)
      exact ⟨t', j, impl_setImpl_self, hreported ▸ hprocess⟩
    · exact ⟨t', k, (impl_setImpl_ne hne).trans hk, hprocess⟩

variable {m : StateMsg}

lemma Informed.handle (h : f.Informed) (hi : f.impl t = some i) (hm : m.msgId ≠ .startRecognize) :
    (f.setImpl t (i.handle m).2).Informed := by
  have hactive : (i.handle m).2.Active → i.Active :=
    fun ha => ha.imp_left (Impl.inProcess_handle hm)
  exact h.setImpl hi rfl rfl (fun ha => h.named t i hi (hactive ha))
    fun ha t' i' hne hi' ha' => hne (h.alone t' i' t i hi' hi ha' (hactive ha))

lemma Informed.start (h : f.Informed) (hi : f.impl t = some i) (m : StateMsg)
    (hquiet : f.Quiet) (hnamed : i.processType ≠ .idle) : (f.setImpl t (i.handle m).2).Informed :=
  h.setImpl hi rfl rfl (fun _ => hnamed) fun _ t' i' _ hi' => hquiet t' i' hi'

variable {st : EngineState} {type : ProcessType}

lemma onStateChange_enter (htype : type ≠ .idle) (hcur : f.curState.inProcess = false)
    (hst : st.inProcess) :
    f.onStateChange st type = { f with curState := st, curProcess := type } := by
  simp [onStateChange, htype, hcur, hst]

lemma onStateChange_within (htype : type ≠ .idle) (hcur : f.curState.inProcess)
    (hprocess : f.curProcess = type) (hst : st.inProcess) :
    f.onStateChange st type = { f with curState := st } := by
  simp [onStateChange, htype, hcur, hprocess, hst]

lemma onStateChange_exit (htype : type ≠ .idle) (hcur : f.curState.inProcess)
    (hprocess : f.curProcess = type) (hst : st.inProcess = false) :
    f.onStateChange st type = { f with curState := .idle, curProcess := .idle } := by
  simp [onStateChange, htype, hcur, hprocess, hst]

lemma onStateChange_outside (hprocess : f.curState.inProcess → f.curProcess ≠ type)
    (hst : st.inProcess = false) : f.onStateChange st type = f := by
  cases hcur : f.curState.inProcess with
  | false => simp [onStateChange, hcur, hst]
  | true => simp [onStateChange, hcur, hprocess hcur, hst]

lemma Distinct.processType_ne {i' : Impl} (h : f.Distinct) (hi : f.impl t = some i)
    (hi' : f.impl t' = some i') (hne : t' ≠ t) : i'.processType ≠ i.processType := by
  have hphone := h.phoneType
  -- one of the two is the phone's, the other that of an accessory
  cases t <;> cases t'
  · exact absurd rfl hne
  · cases hi
    rcases h.accessoryType i' hi' with hacc | hacc
    · exact fun heq => hphone.1 (heq ▸ hacc)
    · exact fun heq => hphone.2 (heq ▸ hacc)
  · cases hi'
    rcases h.accessoryType i hi with hacc | hacc
    · exact fun heq => hphone.1 (heq.trans hacc)
    · exact fun heq => hphone.2 (heq.trans hacc)
  · exact absurd rfl hne

lemma Distinct.report (h : f.Distinct) (hi : f.impl t = some i) :
    (f.setImpl t { i with reported := i.state }).Distinct := by
  have hactive : Impl.Active { i with reported := i.state } → i.Active :=
    fun ha => .inl (ha.elim id id)
  exact h.setImpl hi rfl (fun ha => h.named t i hi (hactive ha))
    fun ha t' i' hne hi' ha' => hne (h.alone t' i' t i hi' hi ha' (hactive ha))

lemma Informed.report_sole (h : f.Informed) (hi : f.impl t = some i)
    (hsole : ∀ t' k, t' ≠ t → f.impl t' = some k → ¬ k.reported.inProcess)
    (hstate : i.state.inProcess → st = i.state ∧ type = i.processType)
    (hout : i.state.inProcess = false → st.inProcess = false) :
    ({ f.setImpl t { i with reported := i.state } with curState := st, curProcess := type } :
      Facade).Informed := by
  refine { (h.toDistinct.report hi).congr rfl rfl with summary := ?_, told := ?_ }
  · intro t' k hk hp
    rcases impl_setImpl hk with ⟨-, rfl⟩ | ⟨hne, hold⟩
    · exact hstate hp
    · exact absurd hp (hsole t' k hne hold)
  · intro hcur
    cases hst : i.state.inProcess with
    | true => exact ⟨t, _, impl_setImpl_self, hst⟩
    | false =>
      rw [hout hst] at hcur
      cases hcur

lemma Informed.report_outside (h : f.Informed) (hi : f.impl t = some i)
    (hold : ¬ i.reported.inProcess) (hst : i.state.inProcess = false) :
    (f.setImpl t { i with reported := i.state }).Informed := by
  refine { h.toDistinct.report hi with summary := ?_, told := ?_ }
  · intro t' k hk hp
    rw [curState_setImpl, curProcess_setImpl]
    rcases impl_setImpl hk with ⟨-, rfl⟩ | ⟨-, hk'⟩
    · exact absurd hp (by simp [hst])
    · exact h.summary t' k hk' hp
  · rw [curState_setImpl]
    intro hcur
    obtain ⟨t', k, hk, hp⟩ := h.told hcur
    refine ⟨t', k, (impl_setImpl_ne ?_).trans hk, hp⟩
    rintro rfl
    obtain rfl := some.inj (hk.symm.trans hi)
    exact hold hp

lemma Informed.curProcess_ne (h : f.Informed) (hi : f.impl t = some i)
    (hold : ¬ i.reported.inProcess) (hcur : f.curState.inProcess) :
    f.curProcess ≠ i.processType := by
  obtain ⟨t', k, hk, hp⟩ := h.told hcur
  rw [(h.summary t' k hk hp).2]
  refine h.processType_ne hi hk ?_
  rintro rfl
  obtain rfl := some.inj (hk.symm.trans hi)
  exact hold hp

lemma Informed.curState_of_entering (h : f.Informed) (hi : f.impl t = some i)
    (hold : ¬ i.reported.inProcess) (hst : i.state.inProcess) : f.curState.inProcess = false := by
  rw [Bool.eq_false_iff]
  intro hcur
  obtain ⟨t', k, hk, hp⟩ := h.told hcur
  obtain rfl := h.alone t' k t i hk hi (.inr hp) (.inl hst)
  obtain rfl := some.inj (hk.symm.trans hi)
  exact hold hp

lemma Informed.report (h : f.Informed) (hi : f.impl t = some i) :
    ((f.setImpl t { i with reported := i.state }).onStateChange i.state
      i.processType).Informed := by
  have hsole : i.Active → ∀ t' k, t' ≠ t → f.impl t' = some k → ¬ k.reported.inProcess :=
    fun ha t' k hne hk hp => hne (h.alone t' k t i hk hi (.inr hp) ha)
  by_cases hold : i.reported.inProcess
  · -- the implementation was in the process that goes on
    obtain ⟨hcur, hprocess⟩ := h.summary t i hi hold
    have hnamed := h.named t i hi (.inr hold)
    have hinside : (f.setImpl t { i with reported := i.state }).curState.inProcess := by
      rw [curState_setImpl, hcur]
      exact hold
    have hsame : (f.setImpl t { i with reported := i.state }).curProcess = i.processType := by
      rw [curProcess_setImpl, hprocess]
    cases hst : i.state.inProcess with
    | true =>
      rw [onStateChange_within hnamed hinside hsame hst]
      apply h.report_sole hi (hsole (.inr hold))
      · exact fun _ => ⟨rfl, hsame⟩
      · exact id
    | false =>
      rw [onStateChange_exit hnamed hinside hsame hst]
      apply h.report_sole hi (hsole (.inr hold))
      · rw [hst]
        intro hno
        cases hno
      · exact fun _ => rfl
  · cases hst : i.state.inProcess with
    | true =>
      have houtside : (f.setImpl t { i with reported := i.state }).curState.inProcess = false := by
        rw [curState_setImpl]
        exact h.curState_of_entering hi hold hst
      rw [onStateChange_enter (h.named t i hi (.inl hst)) houtside hst]
      apply h.report_sole hi (hsole (.inl hst))
      · exact fun _ => ⟨rfl, rfl⟩
      · exact id
    | false =>
      have hforeign : (f.setImpl t { i with reported := i.state }).curState.inProcess →
          (f.setImpl t { i with reported := i.state }).curProcess ≠ i.processType := by
        rw [curState_setImpl, curProcess_setImpl]
        exact h.curProcess_ne hi hold
      rw [onStateChange_outside hforeign hst]
      exact h.report_outside hi hold hst

def HeadInvariant (f : Facade) : Command → Prop
  | .start t _ => f.Quiet ∧ ∀ i, f.impl t = some i → i.processType ≠ .idle
  | .destroy .. => True
  | .drop .. => ∀ i, f.impl .accessory = some i → i.state.inProcess = false
  | .create .. => f.impl .accessory = none
  | .init m => m.msgId ≠ .startRecognize ∧ ∀ i, f.impl .accessory = some i → ¬ i.Active
  | c => c.Plain

structure Lawful (f : Facade) : Prop extends Informed f where
  entering : ∀ t i, f.impl t = some i → i.state.inProcess → i.reported.inProcess = false →
    ∃ rest, f.job = .await t :: rest
  head : ∀ c rest, f.job = c :: rest → f.HeadInvariant c
  tail : ∀ c rest, f.job = c :: rest → ∀ c' ∈ rest, c'.Plain

def Reported (f : Facade) : Prop :=
  ∀ t i, f.impl t = some i → i.state.inProcess → i.reported.inProcess

lemma HeadInvariant.of_plain (hc : c.Plain) : f.HeadInvariant c := by
  cases c with
  | start | drop | create | init => exact hc.elim
  | destroy => trivial
  | handle | await | route | trigger | announce => exact hc

lemma Lawful.of_plain (h : f.Informed) (hreported : f.Reported) (hjob : ∀ c ∈ f.job, c.Plain) :
    f.Lawful where
  toInformed := h
  entering t i hi hstate hnot := by
    rw [hreported t i hi hstate] at hnot
    cases hnot
  head c rest hc := .of_plain (hjob c (by simp [hc]))
  tail c rest hc c' hc' := hjob c' (by simp [hc, hc'])

lemma Lawful.reported (h : f.Lawful) (hjob : ∀ t rest, f.job ≠ .await t :: rest) : f.Reported := by
  intro t i hi hstate
  cases hreported : i.reported.inProcess with
  | true => rfl
  | false =>
    obtain ⟨rest, hrest⟩ := h.entering t i hi hstate hreported
    exact absurd hrest (hjob t rest)

lemma Reported.congr (h : f.Reported) (hphone : g.phone = f.phone)
    (hwakeup : g.wakeupImpl = f.wakeupImpl) : g.Reported := by
  intro t i hi
  rw [impl_congr hphone hwakeup] at hi
  exact h t i hi

lemma HeadInvariant.congr (h : f.HeadInvariant c) (hphone : g.phone = f.phone)
    (hwakeup : g.wakeupImpl = f.wakeupImpl) : g.HeadInvariant c := by
  have himpl := impl_congr hphone hwakeup
  cases c with
  | start t m =>
    refine ⟨fun t' i hi => h.1 t' i ?_, fun i hi => h.2 i ?_⟩
    all_goals rwa [himpl] at hi
  | drop info a => exact fun i hi => h i (himpl _ ▸ hi)
  | create info a => exact (himpl _).trans h
  | init m => exact ⟨h.1, fun i hi => h.2 i (himpl _ ▸ hi)⟩
  | destroy | handle | await | route | trigger | announce => exact h

variable {rest : List Command}

lemma Lawful.of_head (h : f.Informed) (hreported : f.Reported) (hhead : f.HeadInvariant c)
    (hrest : ∀ c' ∈ rest, c'.Plain) : ({ f with job := c :: rest } : Facade).Lawful where
  toInformed := h.congr rfl rfl rfl rfl
  entering t i hi hstate hnot := by
    rw [hreported.congr rfl rfl t i hi hstate] at hnot
    cases hnot
  head c' rest' hc := by
    obtain ⟨rfl, -⟩ := List.cons.inj hc
    exact hhead.congr rfl rfl
  tail c' rest' hc := by
    obtain ⟨-, rfl⟩ := List.cons.inj hc
    exact hrest

lemma Lawful.quiet (h : f.Lawful) (hreported : f.Reported)
    (hcheck : f.curState.inProcess = false) : f.Quiet := by
  intro t i hi hactive
  -- an active implementation has said so, and then `curState_` is above `INITIALIZED`
  have htold : i.reported.inProcess := hactive.elim (hreported t i hi) id
  rw [(h.summary t i hi htold).1, htold] at hcheck
  cases hcheck

lemma Reported.handle (h : f.Reported) (hi : f.impl t = some i) (hm : m.msgId ≠ .startRecognize) :
    (f.setImpl t (i.handle m).2).Reported := by
  intro t' k hk hstate
  rcases impl_setImpl hk with ⟨rfl, rfl⟩ | ⟨-, hold⟩
  · exact h _ i hi (Impl.inProcess_handle hm hstate)
  · exact h t' k hold hstate

variable {job : List Command}

lemma Lawful.handle (h : f.Lawful) (hreported : f.Reported) (hi : f.impl t = some i)
    (hm : m.msgId ≠ .startRecognize) (hjob : ∀ c ∈ job, c.Plain) :
    ({ f.setImpl t (i.handle m).2 with job } : Facade).Lawful :=
  .of_plain ((h.toInformed.handle hi hm).congr rfl rfl rfl rfl)
    ((hreported.handle hi hm).congr rfl rfl) hjob

lemma Lawful.setJob (h : f.Lawful) (hreported : f.Reported) (hjob : ∀ c ∈ job, c.Plain) :
    ({ f with job } : Facade).Lawful :=
  .of_plain (h.toInformed.congr rfl rfl rfl rfl) (hreported.congr rfl rfl) hjob

lemma plain_await (hrest : ∀ c ∈ rest, c.Plain) (b : Bool) :
    ∀ c ∈ (if b then rest else .await t :: rest), c.Plain := by
  cases b with
  | true => exact hrest
  | false => exact List.forall_mem_cons.2 ⟨trivial, hrest⟩

lemma Lawful.reported_of_head (h : f.Lawful) (hjob : f.job = c :: rest) (hc : ∀ t, c ≠ .await t) :
    f.Reported :=
  h.reported fun t _ heq => hc t (List.cons.inj (hjob.symm.trans heq)).1

lemma Lawful.proceed_handle (h : f.Lawful) (hjob : f.job = .handle t m :: rest)
    (hi : f.impl t = some i) : (f.called t i m rest).Lawful := by
  have hreported := h.reported_of_head hjob fun t heq => by cases heq
  exact h.handle hreported hi (h.head _ _ hjob) (plain_await (h.tail _ _ hjob) _)

lemma Lawful.proceed_await (h : f.Lawful) (hjob : f.job = .await t :: rest)
    (hi : f.impl t = some i) (hsettled : i.settled) : ({ f with job := rest } : Facade).Lawful := by
  refine h.setJob (fun t' k hk hstate => ?_) (h.tail _ _ hjob)
  cases hreported : k.reported.inProcess with
  | true => rfl
  | false =>
    -- it would be the one that is waited for, which has reported
    obtain ⟨_, hwaits⟩ := h.entering t' k hk hstate hreported
    obtain ⟨⟨rfl⟩, -⟩ := List.cons.inj (hjob.symm.trans hwaits)
    obtain rfl := some.inj (hk.symm.trans hi)
    rw [← Impl.state_eq_reported hsettled, hstate] at hreported
    cases hreported

lemma Informed.setProcessType (h : f.Informed) (hquiet : f.Quiet)
    (htype : type = .wispherPhone ∨ type = .wakeupPhone) :
    ({ f with phone := { f.phone with processType := type } } : Facade).Informed := by
  have hquiet' : ({ f with phone := { f.phone with processType := type } } : Facade).Quiet := by
    intro t i hi
    cases t with
    | phone =>
      cases hi
      exact hquiet .phone f.phone rfl
    | accessory => exact hquiet .accessory i hi
  have hnone : ∀ t i, ({ f with phone := { f.phone with processType := type } } : Facade).impl t =
      some i → i.reported.inProcess → False := fun t i hi hp => hquiet' t i hi (.inr hp)
  constructor
  · constructor
    · show type ≠ _ ∧ type ≠ _
      rcases htype with rfl | rfl <;> decide
    · exact h.accessoryType
    · exact fun t i hi ha => absurd ha (hquiet' t i hi)
    · exact fun t i _ _ hi _ ha _ => absurd ha (hquiet' t i hi)
  · exact fun t i hi hp => (hnone t i hi hp).elim
  · intro hcur
    obtain ⟨t, i, hi, hp⟩ := h.told hcur
    exact absurd (.inr hp) (hquiet t i hi)

lemma Lawful.of_start (h : f.Informed) (hquiet : f.Quiet)
    (hnamed : ∀ i, f.impl t = some i → i.processType ≠ .idle) (hrest : ∀ c ∈ rest, c.Plain) :
    ({ f with job := .start t m :: rest } : Facade).Lawful :=
  .of_head h (fun t' i hi hstate => absurd (.inl hstate) (hquiet t' i hi)) ⟨hquiet, hnamed⟩ hrest

lemma Lawful.startPhone (h : f.Informed) (hquiet : f.Quiet) (uuid : Int) (a : StartAnswers)
    (hrest : ∀ c ∈ rest, c.Plain) : (f.startPhone uuid a rest).Lawful := by
  have htype : (if uuid = proximalWakeupModelUuid then ProcessType.wispherPhone else .wakeupPhone) =
      .wispherPhone ∨ (if uuid = proximalWakeupModelUuid then ProcessType.wispherPhone
        else .wakeupPhone) = .wakeupPhone := by
    split
    · exact .inl rfl
    · exact .inr rfl
  refine Lawful.of_start (f := { f with phone := { f.phone with processType := _ } })
    (h.setProcessType hquiet htype) ?_ ?_ hrest
  · intro t i hi
    cases t with
    | phone =>
      cases hi
      exact hquiet .phone f.phone rfl
    | accessory => exact hquiet .accessory i hi
  · rintro i ⟨⟩
    show (if _ then _ else _) ≠ _
    split <;> decide

lemma Lawful.startAccessory (h : f.Informed) (hquiet : f.Quiet) (hi : f.wakeupImpl = .accessory i)
    (device : WakeupDeviceDetail) (a : StartAnswers) (hrest : ∀ c ∈ rest, c.Plain) :
    (f.startAccessory i device a rest).Lawful := by
  have himpl : f.impl .accessory = some i := impl_accessory.2 hi
  have hidle : ¬ (i.prepare device).Active := by
    rw [Impl.active_prepare]
    exact hquiet .accessory i himpl
  refine Lawful.of_start (f := f.setImpl .accessory (i.prepare device)) ?_ ?_ ?_ hrest
  · exact h.setImpl himpl Impl.reported_prepare Impl.processType_prepare (fun ha => absurd ha hidle)
      fun ha => absurd ha hidle
  · intro t k hk
    rcases impl_setImpl hk with ⟨rfl, rfl⟩ | ⟨-, hold⟩
    · exact hidle
    · exact hquiet t k hold
  · intro k hk
    obtain rfl := some.inj (impl_setImpl_self.symm.trans hk)
    rw [Impl.processType_prepare]
    rcases h.accessoryType i himpl with heq | heq <;> simp [heq]

lemma Lawful.closeWakeupSource (h : f.Lawful) : f.closeWakeupSource.Lawful where
  toInformed := h.toInformed.congr rfl rfl rfl rfl
  entering := h.entering
  head c rest hc := (h.head c rest hc).congr rfl rfl
  tail := h.tail

lemma Lawful.triggered {uuid : Int} {macAddress : String} {a : StartAnswers} (h : f.Lawful)
    (hreported : f.Reported) (hrest : ∀ c ∈ rest, c.Plain)
    (htriggered : f.Triggered uuid macAddress a rest g) : g.Lawful := by
  have hdone : ({ f with job := rest } : Facade).Lawful := h.setJob hreported hrest
  cases htriggered with
  | closed => exact hdone.closeWakeupSource
  | foreign | swallowed => exact hdone
  | phone hcheck =>
    exact Lawful.startPhone h.toInformed (h.quiet hreported hcheck) uuid a hrest
  | accessory hcheck _ _ hwakeup =>
    exact Lawful.startAccessory h.toInformed (h.quiet hreported hcheck) hwakeup _ a hrest

lemma Lawful.proceed_start (h : f.Lawful) (hjob : f.job = .start t m :: rest)
    (hi : f.impl t = some i) : (f.called t i m rest).Lawful := by
  obtain ⟨hquiet, hnamed⟩ : f.Quiet ∧ ∀ i, f.impl t = some i → i.processType ≠ .idle :=
    h.head _ _ hjob
  have hrest := h.tail _ _ hjob
  have hinformed := h.toInformed.start hi m hquiet (hnamed i hi)
  have hothers : ∀ t' k, (f.setImpl t (i.handle m).2).impl t' = some k →
      k.state.inProcess → t' = t ∧ k = (i.handle m).2 := by
    intro t' k hk hstate
    rcases impl_setImpl hk with hself | ⟨-, hold⟩
    · exact hself
    · exact absurd (.inl hstate) (hquiet t' k hold)
  unfold called
  cases hsettled : (i.handle m).2.settled with
  | true =>
    -- the start failed: nothing has moved
    refine .of_plain (hinformed.congr rfl rfl rfl rfl) (fun t' k hk hstate => ?_) hrest
    obtain ⟨-, rfl⟩ := hothers t' k hk hstate
    rwa [← Impl.state_eq_reported hsettled]
  | false =>
    -- it moved: the operation waits for the report before anything else
    refine
      { toInformed := hinformed.congr rfl rfl rfl rfl
        entering := fun t' k hk hstate _ => ?_
        head := ?_
        tail := ?_ }
    · obtain ⟨rfl, -⟩ := hothers t' k hk hstate
      exact ⟨rest, rfl⟩
    · intro c rest' hc
      obtain ⟨rfl, -⟩ := List.cons.inj hc
      trivial
    · intro c rest' hc
      obtain ⟨-, rfl⟩ := List.cons.inj hc
      exact hrest

lemma Informed.setWakeupImpl (h : f.Informed) (hidle : ∀ i, f.impl .accessory = some i → ¬ i.Active)
    (hw : ∀ i, w = .accessory i → (¬ i.Active) ∧
      (i.processType = .wakeupHeadset ∨ i.processType = .wakeupGlasses)) :
    ({ f with wakeupImpl := w } : Facade).Informed := by
  have hcases : ∀ t i, ({ f with wakeupImpl := w } : Facade).impl t = some i →
      t = .phone ∧ i = f.phone ∨ t = .accessory ∧ w = .accessory i := by
    intro t i hi
    cases t with
    | phone => exact .inl ⟨rfl, (some.inj hi).symm⟩
    | accessory =>
      cases w with
      | null | phone => cases hi
      | accessory k => exact .inr ⟨rfl, congrArg _ (some.inj hi)⟩
  -- whoever is active afterwards is the phone's implementation, which has not changed
  have hphone : ∀ t i, ({ f with wakeupImpl := w } : Facade).impl t = some i → i.Active →
      t = .phone ∧ i = f.phone := by
    intro t i hi hactive
    rcases hcases t i hi with hself | ⟨-, hacc⟩
    · exact hself
    · exact absurd hactive (hw i hacc).1
  constructor
  · constructor
    · exact h.phoneType
    · intro i hi
      rcases hcases _ i hi with ⟨⟨⟩, -⟩ | ⟨-, hacc⟩
      exact (hw i hacc).2
    · intro t i hi hactive
      obtain ⟨rfl, rfl⟩ := hphone t i hi hactive
      exact h.named .phone f.phone rfl hactive
    · intro t i t' i' hi hi' hactive hactive'
      obtain ⟨rfl, -⟩ := hphone t i hi hactive
      obtain ⟨rfl, -⟩ := hphone t' i' hi' hactive'
      rfl
  · intro t i hi hp
    obtain ⟨rfl, rfl⟩ := hphone t i hi (.inr hp)
    exact h.summary .phone f.phone rfl hp
  · intro hcur
    obtain ⟨t, i, hi, hp⟩ := h.told hcur
    cases t with
    | phone => exact ⟨.phone, f.phone, rfl, some.inj hi ▸ hp⟩
    | accessory => exact absurd (.inr hp) (hidle i hi)

lemma Reported.setWakeupImpl (h : f.Reported) (hw : ∀ i, w = .accessory i → ¬ i.Active) :
    ({ f with wakeupImpl := w } : Facade).Reported := by
  intro t i hi hstate
  cases t with
  | phone => exact h .phone i hi hstate
  | accessory =>
    cases w with
    | null | phone => cases hi
    | accessory k =>
      cases hi
      exact absurd (.inl hstate) (hw i rfl)

lemma Lawful.of_setWakeupImpl (h : f.Informed) (hreported : f.Reported)
    (hidle : ∀ i, f.impl .accessory = some i → ¬ i.Active) (hw : ∀ i, w ≠ .accessory i)
    (hjob : ∀ c ∈ job, c.Plain) : ({ f with wakeupImpl := w, job } : Facade).Lawful :=
  .of_plain
    ((h.setWakeupImpl hidle fun i hi => absurd hi (hw i)).congr rfl rfl rfl rfl)
    ((hreported.setWakeupImpl fun i hi => absurd hi (hw i)).congr rfl rfl) hjob

lemma Lawful.proceed_destroy (h : f.Lawful) (hjob : f.job = .destroy info a :: rest)
    (hi : f.impl .accessory = some i) :
    ({ f.setImpl .accessory (i.handle .release).2 with job := .drop info a :: rest } :
      Facade).Lawful := by
  have hreported := h.reported_of_head hjob fun t heq => by cases heq
  have hrelease : StateMsg.release.msgId ≠ .startRecognize := by decide
  have hout : (i.handle .release).2.state.inProcess = false := by
    show (i.kind.machine.handleMsg i.state .release i.data).2.1.inProcess = false
    rw [ImplKind.handleMsg_release]
    rfl
  refine .of_head (f := f.setImpl .accessory (i.handle .release).2)
    (h.toInformed.handle hi hrelease)
    (hreported.handle hi hrelease) (fun k hk => ?_) (h.tail _ _ hjob)
  obtain rfl := some.inj (impl_setImpl_self.symm.trans hk)
  exact hout

lemma Lawful.proceed_drop (h : f.Lawful) (hjob : f.job = .drop info a :: rest)
    (hi : f.impl .accessory = some i) (hsettled : i.settled) :
    ({ f with wakeupImpl := .null, job := .create info a :: rest } : Facade).Lawful := by
  have hreported := h.reported_of_head hjob fun t heq => by cases heq
  have hout : i.state.inProcess = false := h.head _ _ hjob i hi
  have hidle : ∀ k, f.impl .accessory = some k → ¬ k.Active := by
    intro k hk
    obtain rfl := some.inj (hk.symm.trans hi)
    simp [Impl.Active, ← Impl.state_eq_reported hsettled, hout]
  exact .of_head (f := { f with wakeupImpl := .null })
    (h.toInformed.setWakeupImpl hidle fun _ heq => by cases heq)
    (hreported.setWakeupImpl fun _ heq => by cases heq) rfl (h.tail _ _ hjob)

lemma not_active_newAccessory (k : ImplKind) : ¬ (newAccessory k).Active := by
  rintro (h | h) <;> cases h

lemma Lawful.of_newAccessory {k : ImplKind} (hk : k = .headset ∨ k = .glasses)
    (hm : m.msgId ≠ .startRecognize) (h : f.Informed) (hreported : f.Reported)
    (hnone : f.impl .accessory = none) (hrest : ∀ c ∈ rest, c.Plain) :
    ({ f with wakeupImpl := .accessory (newAccessory k), job := .init m :: rest } :
      Facade).Lawful := by
  have hnew : ∀ i, WakeupImpl.accessory (newAccessory k) = .accessory i → (¬ i.Active) ∧
      (i.processType = .wakeupHeadset ∨ i.processType = .wakeupGlasses) := by
    rintro i ⟨⟩
    refine ⟨not_active_newAccessory k, ?_⟩
    rcases hk with rfl | rfl
    · exact .inl rfl
    · exact .inr rfl
  refine .of_head (f := { f with wakeupImpl := .accessory (newAccessory k) })
    (h.setWakeupImpl (fun i hi => ?_) hnew) (hreported.setWakeupImpl fun i hi => (hnew i hi).1)
    ⟨hm, fun i hi => ?_⟩ hrest
  · rw [hnone] at hi
    cases hi
  · cases hi
    exact not_active_newAccessory k

lemma Lawful.proceed_create (h : f.Lawful) (hjob : f.job = .create info a :: rest)
    (hcreated : f.Created info a rest g) : g.Lawful := by
  have hreported := h.reported_of_head hjob fun t heq => by cases heq
  have hnone : f.impl .accessory = none := h.head _ _ hjob
  have hrest := h.tail _ _ hjob
  have hannounce : ∀ c ∈ Command.announce :: rest, c.Plain :=
    List.forall_mem_cons.2 ⟨trivial, hrest⟩
  have hidle : ∀ i, f.impl .accessory = some i → ¬ i.Active := by
    intro i hi
    rw [hnone] at hi
    cases hi
  -- the device is stored first
  have hinformed : ({ f with wakeupDevice := some info } : Facade).Informed :=
    h.toInformed.congr rfl rfl rfl rfl
  have hstored : ({ f with wakeupDevice := some info } : Facade).Reported := hreported.congr rfl rfl
  cases hcreated with
  | phone | failed =>
    exact .of_setWakeupImpl hinformed hstored hidle (fun _ heq => by cases heq) hannounce
  | accessory hk =>
    exact .of_newAccessory hk (by simp [StateMsg.msgId]) hinformed hstored hnone hannounce
  | unknown => exact .of_plain (hinformed.congr rfl rfl rfl rfl) (hstored.congr rfl rfl) hrest

lemma Lawful.proceed_init (h : f.Lawful) (hjob : f.job = .init m :: rest)
    (hi : f.impl .accessory = some i) : (f.called .accessory i m rest).Lawful := by
  have hreported := h.reported_of_head hjob fun t heq => by cases heq
  have hhead : f.HeadInvariant (.init m) := h.head _ _ hjob
  exact h.handle hreported hi hhead.1 (plain_await (h.tail _ _ hjob) _)

lemma Lawful.proceed_fallback (h : f.Lawful) (hjob : f.job = .init m :: rest)
    (hi : f.impl .accessory = some i) :
    ({ f.setImpl .accessory (i.handle m).2 with wakeupImpl := .phone, job := rest } :
      Facade).Lawful := by
  have hreported := h.reported_of_head hjob fun t heq => by cases heq
  obtain ⟨hm, hidle⟩ : m.msgId ≠ .startRecognize ∧ ∀ i, f.impl .accessory = some i → ¬ i.Active :=
    h.head _ _ hjob
  refine .of_setWakeupImpl (f := f.setImpl .accessory (i.handle m).2)
    (h.toInformed.handle hi hm) (hreported.handle hi hm) (fun k hk hactive => ?_)
    (fun _ heq => by cases heq) (h.tail _ _ hjob)
  obtain rfl := some.inj (impl_setImpl_self.symm.trans hk)
  exact hidle i hi (hactive.imp_left (Impl.inProcess_handle hm))

lemma proceed_lawful (h : f.Lawful) (hjob : f.job = c :: rest) (hproceeded : f.Proceeded c rest g) :
    g.Lawful := by
  have hrest := h.tail _ _ hjob
  have hhead := h.head _ _ hjob
  cases hproceeded with
  | handle hi => exact h.proceed_handle hjob hi
  | await hi hsettled => exact h.proceed_await hjob hi hsettled
  | unrouted | unannounced =>
    exact h.setJob (h.reported_of_head hjob fun _ heq => by cases heq) hrest
  | routed _ hn =>
    refine h.setJob (h.reported_of_head hjob fun _ heq => by cases heq)
      (List.forall_mem_cons.2 ⟨?_, hrest⟩)
    rcases hn with rfl | rfl
    · exact hhead.1
    · exact hhead.2
  | trigger htriggered =>
    exact h.triggered (h.reported_of_head hjob fun _ heq => by cases heq) hrest htriggered
  | started hi => exact h.proceed_start hjob hi
  | refused hi => exact (h.proceed_start hjob hi).closeWakeupSource
  | destroy hi => exact h.proceed_destroy hjob hi
  | drop hi hsettled => exact h.proceed_drop hjob hi hsettled
  | create hcreated => exact h.proceed_create hjob hcreated
  | init hi => exact h.proceed_init hjob hi
  | fallback hi => exact h.proceed_fallback hjob hi
  | announce =>
    exact h.setJob (h.reported_of_head hjob fun _ heq => by cases heq)
      (List.forall_mem_cons.2 ⟨by simp [StateMsg.msgId, Command.Plain], hrest⟩)

lemma ofClient_ne (hm : m.ofClient) : m.msgId ≠ .startRecognize := by
  intro heq
  simp [StateMsg.ofClient, heq] at hm

lemma ofThreads_ne (hm : m.ofThreads) : m.msgId ≠ .startRecognize := by
  intro heq
  simp [StateMsg.ofThreads, heq] at hm

lemma plain_handle {m' : StateMsg} (hm : m.msgId ≠ .startRecognize)
    (hm' : m'.msgId ≠ .startRecognize) : ∀ c ∈ f.handle m m', c.Plain := by
  unfold Facade.handle
  repeat' split
  all_goals simp [Command.Plain, hm, hm']

lemma plain_saveCallback (cb : Option Nat) : ∀ c ∈ f.saveCallback cb, c.Plain := by
  unfold saveCallback
  cases f.wakeupTarget <;> simp [Command.Plain, StateMsg.msgId]

lemma Lawful.deviceChange (h : f.Lawful) (hreported : f.Reported) (info : WakeupDeviceDetail)
    (a : CreateAnswers) : ({ f with job := f.updateWakeupEngineImpl info a } : Facade).Lawful := by
  unfold updateWakeupEngineImpl
  split
  · exact .of_head h.toInformed hreported trivial (by simp)
  · exact .of_head h.toInformed hreported (by simp_all [HeadInvariant, impl]) (by simp)

lemma HeadInvariant.mono (h : f.HeadInvariant c)
    (hcalm : ∀ t k, g.impl t = some k → ∃ i, f.impl t = some i ∧ k.processType = i.processType ∧
      (k.state.inProcess → i.state.inProcess) ∧ (k.Active → i.Active)) :
    g.HeadInvariant c := by
  cases c with
  | start t m =>
    constructor
    · intro t' k hk hactive
      obtain ⟨i, hi, -, -, hcalmer⟩ := hcalm t' k hk
      exact h.1 t' i hi (hcalmer hactive)
    · intro k hk
      obtain ⟨i, hi, htype, -⟩ := hcalm t k hk
      rw [htype]
      exact h.2 i hi
  | drop info a =>
    intro k hk
    obtain ⟨i, hi, -, hstate, -⟩ := hcalm _ k hk
    have hout := h i hi
    rw [Bool.eq_false_iff] at hout ⊢
    exact fun hin => hout (hstate hin)
  | create info a =>
    -- no implementation appears by itself
    have hnone : f.impl .accessory = none := h
    show g.impl .accessory = none
    cases hg : g.impl .accessory with
    | none => rfl
    | some k =>
      obtain ⟨i, hi, -⟩ := hcalm _ k hg
      rw [hnone] at hi
      cases hi
  | init m =>
    refine ⟨h.1, fun k hk hactive => ?_⟩
    obtain ⟨i, hi, -, -, hcalmer⟩ := hcalm _ k hk
    exact h.2 i hi (hcalmer hactive)
  | destroy | handle | await | route | trigger | announce => exact h

lemma Lawful.calm (h : f.Lawful) (hinformed : g.Informed) (hjob : g.job = f.job)
    (hcalm : ∀ t k, g.impl t = some k → ∃ i, f.impl t = some i ∧ k.processType = i.processType ∧
      (k.state.inProcess → i.state.inProcess) ∧ (k.Active → i.Active) ∧
      (i.reported.inProcess → k.state.inProcess → k.reported.inProcess)) : g.Lawful where
  toInformed := hinformed
  entering t k hk hstate hnot := by
    obtain ⟨i, hi, -, hstate', -, hreported⟩ := hcalm t k hk
    rw [hjob]
    refine h.entering t i hi (hstate' hstate) (Bool.eq_false_iff.2 fun htold => ?_)
    rw [hreported htold hstate] at hnot
    cases hnot
  head c rest hc := by
    refine (h.head c rest (hjob ▸ hc)).mono fun t k hk => ?_
    obtain ⟨i, hi, htype, hstate, hactive, -⟩ := hcalm t k hk
    exact ⟨i, hi, htype, hstate, hactive⟩
  tail c rest hc := h.tail c rest (hjob ▸ hc)

lemma internal_lawful (h : f.Lawful) (hi : f.impl t = some i) (hm : m.ofThreads) :
    (f.setImpl t (i.handle m).2).Lawful := by
  have hne := ofThreads_ne hm
  refine h.calm (h.toInformed.handle hi hne) job_setImpl fun t' k hk => ?_
  rcases impl_setImpl hk with ⟨rfl, rfl⟩ | ⟨-, hold⟩
  · exact ⟨i, hi, rfl, Impl.inProcess_handle hne,
      fun ha => ha.imp_left (Impl.inProcess_handle hne), fun htold _ => htold⟩
  · exact ⟨k, hold, rfl, id, id, fun htold _ => htold⟩

lemma impl_onStateChange : (f.onStateChange st type).impl t = f.impl t := by
  apply impl_congr <;>
  · unfold onStateChange
    repeat' split
    all_goals rfl

lemma job_onStateChange : (f.onStateChange st type).job = f.job := by
  unfold onStateChange
  repeat' split
  all_goals rfl

lemma report_lawful (h : f.Lawful) (hi : f.impl t = some i) :
    ((f.setImpl t { i with reported := i.state }).onStateChange i.state i.processType).Lawful := by
  refine h.calm (h.toInformed.report hi) (job_onStateChange.trans job_setImpl) fun t' k hk => ?_
  rw [impl_onStateChange] at hk
  rcases impl_setImpl hk with ⟨rfl, rfl⟩ | ⟨-, hold⟩
  · exact ⟨i, hi, rfl, id, fun ha => .inl (ha.elim id id), fun _ hstate => hstate⟩
  · exact ⟨k, hold, rfl, id, id, fun htold _ => htold⟩

lemma step_lawful {e : FacadeEvent} (h : f.Lawful) (hstep : f.step e = some g) : g.Lawful := by
  have hfree : f.job = [] → f.Reported := by
    intro hjob
    refine h.reported fun t rest heq => ?_
    rw [hjob] at heq
    cases heq
  cases step_cases hstep with
  | handle hjob hm hm' =>
    exact h.setJob (hfree hjob) (plain_handle (ofClient_ne hm) (hm' ▸ ofClient_ne hm))
  | saveCallback hjob =>
    exact .of_plain (h.toInformed.congr rfl rfl rfl rfl) ((hfree hjob).congr rfl rfl)
      (plain_saveCallback _)
  | trigger hjob => exact h.setJob (hfree hjob) (by simp [Command.Plain])
  | deviceChange hjob => exact h.deviceChange (hfree hjob) _ _
  | proceed hjob hproceeded => exact proceed_lawful h hjob hproceeded
  | internal hi hm => exact internal_lawful h hi hm
  | report hi => exact report_lawful h hi

lemma lawful_initial (hheadset : type ≠ .wakeupHeadset) (hglasses : type ≠ .wakeupGlasses)
    (device : WakeupDeviceDetail) (a : CreateAnswers) : (initial type device a).Lawful := by
  -- the phone's implementation is in `INITIALIZING` and there is no other
  have hquiet : (initial type device a).Quiet := by
    intro t i hi
    cases t with
    | phone =>
      cases hi
      rintro (h | h) <;> cases h
    | accessory => cases hi
  refine .of_head (f := { initial type device a with job := [] }) ?_
    (fun t i hi hstate => absurd (.inl hstate) (hquiet t i hi)) rfl (by simp)
  constructor
  · constructor
    · exact ⟨hheadset, hglasses⟩
    · intro i hi
      cases hi
    · exact fun t i hi ha => absurd ha (hquiet t i hi)
    · exact fun t i _ _ hi _ ha _ => absurd ha (hquiet t i hi)
  · exact fun t i hi hp => absurd (.inr hp) (hquiet t i hi)
  · intro hcur
    cases hcur

lemma Lawful.exclusive (h : f.Lawful) : f.Exclusive :=
  fun t i t' i' hi hi' hstate hstate' => h.alone t i t' i' hi hi' (.inl hstate) (.inl hstate')

lemma Lawful.agrees (h : f.Lawful) (hsettled : f.Settled) : f.Agrees := by
  have hsame : ∀ t i, f.impl t = some i → i.state = i.reported :=
    fun t i hi => Impl.state_eq_reported (hsettled t i hi)
  refine ⟨⟨fun hcur => ?_, fun ⟨t, i, hi, hstate⟩ => ?_⟩, fun t i hi hstate => ?_⟩
  · obtain ⟨t, i, hi, hp⟩ := h.told hcur
    exact ⟨t, i, hi, hsame t i hi ▸ hp⟩
  · have hp : i.reported.inProcess := hsame t i hi ▸ hstate
    rwa [(h.summary t i hi hp).1]
  · have hp : i.reported.inProcess := hsame t i hi ▸ hstate
    rw [hsame t i hi]
    exact h.summary t i hi hp

theorem run_exclusive {type : ProcessType} (hheadset : type ≠ .wakeupHeadset)
    (hglasses : type ≠ .wakeupGlasses) (device : WakeupDeviceDetail) (a : CreateAnswers)
    {es : List FacadeEvent} (hrun : run step (initial type device a) es = some f) :
    f.Exclusive ∧ (f.Settled → f.Agrees) := by
  have hlawful : f.Lawful := run_invariant_all (fun _ _ _ h hstep => step_lawful h hstep)
    (lawful_initial hheadset hglasses device a) hrun
  exact ⟨hlawful.exclusive, hlawful.agrees⟩

def headsetDevice : WakeupDeviceDetail :=
  { type := .headset, macAddress := "11:22", needSecondStageWakeup := true, object := 1 }

def headsetWakeup : List FacadeEvent :=
  [.proceed, .proceed, .report .accessory, .proceed, .proceed,
    .internal .accessory (.initDone (some 0)), .report .accessory,
    .request (.trigger 1 "11:22" ⟨true, true, true⟩), .proceed, .proceed, .report .accessory,
    .proceed]

theorem run_exclusive_headset :
    ∃ f, run step (initial .idle headsetDevice ⟨true, true, true⟩) headsetWakeup = some f ∧
      f.curState = .recognizing ∧ f.Exclusive ∧ (f.Settled → f.Agrees) := by
  obtain ⟨f, hrun, hstate⟩ : ∃ f, run step (initial .idle headsetDevice ⟨true, true, true⟩)
      headsetWakeup = some f ∧ f.curState = .recognizing := ⟨_, rfl, rfl⟩
  have hidle : ProcessType.idle ≠ .wakeupHeadset ∧ ProcessType.idle ≠ .wakeupGlasses := by decide
  exact ⟨f, hrun, hstate, run_exclusive hidle.1 hidle.2 _ _ hrun⟩

theorem phone_report_ends_headset_wakeup :
    ¬ ∀ es f, run step (initial .wakeupHeadset headsetDevice ⟨true, true, true⟩) es = some f →
      f.Exclusive ∧ (f.Settled → f.Agrees) := by
  intro h
  let whisper : List FacadeEvent := [.internal .phone (.initDone (some 0)), .report .phone,
    .request (.trigger proximalWakeupModelUuid defaultMacAddress ⟨true, true, true⟩), .proceed,
    .proceed]
  have hexclusive := (h (headsetWakeup ++ whisper) _ rfl).1
  have hsame := hexclusive .phone _ .accessory _ rfl rfl rfl rfl
  cases hsame

end Facade
end IntellVoice.Wakeup
