import IntellVoice.Wakeup.Exclusion

/-! `CreateOrResetWakeupEngine` has the adapters released and created again. -/

namespace IntellVoice.Wakeup
open Transition Utils Option

structure ResetAnswers where
  created : Bool
  attached : Bool
  accessoryCreated : Bool
  accessoryAttached : Bool

structure PhoneReset where
  before : Impl
  after : Impl
  ret : Int

inductive ResetCall where
  | none
  | called
  | releasing
  | released
  | resetting (before : Facade) (answers : ResetAnswers) (phone : Option PhoneReset) (ret : Int)

structure ResetReturn where
  before : Facade
  answers : ResetAnswers
  phone : Option PhoneReset
  returned : Bool

structure EngineManager where
  facade : Facade
  call : ResetCall := .none
  returns : List ResetReturn := []

inductive ManagerEvent where
  | facade (e : Facade.FacadeEvent)
  | createOrResetWakeupEngine
  | releaseAdapter
  | resetAdapter (answers : ResetAnswers)
  | proceed

namespace ResetAnswers

def phoneMsg (a : ResetAnswers) : StateMsg := .resetAdapter a.created a.attached

def accessoryMsg (a : ResetAnswers) : StateMsg :=
  .resetAdapter a.accessoryCreated a.accessoryAttached

end ResetAnswers

namespace EngineManager
variable (s : EngineManager)

def note (f : Facade) (phone : Option PhoneReset) (ret : Int) : Option PhoneReset × Int :=
  match f.job with
  | .handle .phone m :: _ =>
    (some ⟨f.phone, (f.phone.handle m).2, (f.phone.handle m).1⟩, ret)
  | .handle .accessory m :: _ =>
    match f.impl .accessory with
    | some i => (phone, (i.handle m).1)
    | none => (phone, ret)
  | _ => (phone, ret)

def proceeded (g : Facade) : EngineManager :=
  match s.call with
  | .releasing => { s with facade := g, call := if g.job.isEmpty then .released else .releasing }
  | .resetting before answers phone ret =>
    let (phone, ret) := note s.facade phone ret
    if g.job.isEmpty then
      ⟨g, .none, s.returns ++ [⟨before, answers, phone, ret == 0⟩]⟩
    else { s with facade := g, call := .resetting before answers phone ret }
  | _ => { s with facade := g }

def step (s : EngineManager) : ManagerEvent → Option EngineManager
  -- the holder of the mutex moves by `proceed` below, which also keeps the returned value
  | .facade .proceed => none
  | .facade e => (s.facade.step e).map fun g => { s with facade := g }
  | .createOrResetWakeupEngine =>
    match s.call with
    | .none => some { s with call := .called }
    | _ => none
  | .releaseAdapter =>
    match s.call with
    | .called =>
      (s.facade.step (.request (.handle .releaseAdapter .releaseAdapter))).map fun g =>
        { s with facade := g, call := .releasing }
    | _ => none
  | .resetAdapter a =>
    match s.call with
    | .released =>
      (s.facade.step (.request (.handle a.phoneMsg a.accessoryMsg))).map fun g =>
        { s with facade := g, call := .resetting s.facade a none 0 }
    | _ => none
  | .proceed => s.facade.proceed.map s.proceeded

def initial (type : ProcessType) (device : WakeupDeviceDetail) (a : CreateAnswers) :
    EngineManager where
  facade := .initial type device a

end EngineManager

lemma nextState_recognizeComplete {event : Option CallBackEvent} {s st : EngineState}
    {d : ImplData} {handler : ImplHandler} (hhandler : handler = Shared.handleRecognizeComplete ∨
      handler = Glasses.handleRecognizeComplete)
    (hnext : (handler (.recognizeComplete event) s d).1.nextState = some st) : st ≠ .idle := by
  cases event with
  | none => rcases hhandler with rfl | rfl <;> cases hnext
  | some e =>
    rcases hhandler with rfl | rfl
    -- on to `INITIALIZED` after a failure and to `RECOGNIZED` otherwise, with either handler
    all_goals
      simp only [Shared.handleRecognizeComplete, Glasses.handleRecognizeComplete] at hnext
      split at hnext <;> cases hnext <;> decide

lemma ImplKind.nextState_ofThreads {k : ImplKind} {s st : EngineState} {m : StateMsg}
    {d : ImplData} (hm : m.ofThreads)
    (hnext : (k.machine.handle s m d).1.nextState = some st) : s ≠ .idle ∧ st ≠ .idle := by
  cases m with
  | initDone result =>
    cases s with
    | initializing =>
      cases k with
      | phone | headset => exact ⟨by decide, nextState_handleInitDone hnext ▸ by decide⟩
      | glasses => cases hnext
    | _ => cases k <;> cases hnext
  | recognizeComplete event =>
    cases s with
    | recognizing =>
      cases k with
      | phone | headset => exact ⟨by decide, nextState_recognizeComplete (.inl rfl) hnext⟩
      | glasses => exact ⟨by decide, nextState_recognizeComplete (.inr rfl) hnext⟩
    | _ => cases k <;> cases hnext
  | recognizingTimeout | recognizeCompleteTimeout | readCapturerTimeout =>
    cases s <;> cases k <;> cases hnext <;> decide
  | _ => cases hm

namespace Impl

def Resets (i : Impl) (created attached : Bool) : Prop :=
  i.state = .idle ∧ (i.kind = .glasses ∨ created ∧ attached)

variable {i j : Impl}

lemma ret_resetAdapter_idle (hs : i.state = .idle) (created attached : Bool) :
    (i.handle (.resetAdapter created attached)).1 =
      if i.kind = .glasses ∨ created ∧ attached then 0 else -1 := by
  obtain ⟨kind, processType, state, reported, data⟩ := i
  cases hs
  cases kind <;> cases created <;> cases attached <;> rfl

lemma ret_resetAdapter_of_ne (hs : i.state ≠ .idle) (created attached : Bool) :
    (i.handle (.resetAdapter created attached)).1 = noProcessRet := by
  obtain ⟨kind, processType, state, reported, data⟩ := i
  cases state with
  | idle => exact absurd rfl hs
  | _ => cases kind <;> rfl

lemma ret_resetAdapter_iff (i : Impl) (created attached : Bool) :
    (i.handle (.resetAdapter created attached)).1 = 0 ↔ i.Resets created attached := by
  unfold Resets
  by_cases hs : i.state = .idle
  · rw [ret_resetAdapter_idle hs]
    split <;> simp [*]
  · rw [ret_resetAdapter_of_ne hs]
    simp [hs, noProcessRet]

lemma handle_resetAdapter_phone (hkind : i.kind = .phone) {created attached : Bool}
    (h : i.Resets created attached) :
    (i.handle (.resetAdapter created attached)).2.state = .initializing ∧
      (i.handle (.resetAdapter created attached)).2.data.adapter = some i.data.adapters := by
  obtain ⟨kind, processType, state, reported, data⟩ := i
  cases hkind
  obtain ⟨hs, hglasses | ⟨rfl, rfl⟩⟩ := h
  · cases hglasses
  · cases hs
    exact ⟨rfl, rfl⟩

lemma idle_handle_ofThreads {m : StateMsg} (hm : m.ofThreads) :
    (i.handle m).2.state = .idle ↔ i.state = .idle := by
  rcases i.kind.machine.handleMsg_state i.state m i.data with hstay | hnext
  · show (i.kind.machine.handleMsg i.state m i.data).2.1 = .idle ↔ _
    rw [hstay]
  -- a change of state through the threads starts outside `IDLE` and ends outside
  obtain ⟨hs, hst⟩ := ImplKind.nextState_ofThreads hm hnext
  exact iff_of_false hst hs

def Alike (i j : Impl) : Prop := j.kind = i.kind ∧ (j.state = .idle ↔ i.state = .idle)

lemma Alike.refl (i : Impl) : i.Alike i := ⟨rfl, Iff.rfl⟩

lemma Alike.trans {k : Impl} (hij : i.Alike j) (hjk : j.Alike k) : i.Alike k :=
  ⟨hjk.1.trans hij.1, hjk.2.trans hij.2⟩

lemma Alike.resets (h : i.Alike j) (created attached : Bool) :
    j.Resets created attached ↔ i.Resets created attached := by
  unfold Resets
  rw [h.1, h.2]

end Impl

namespace Facade
variable {f g : Facade}

def Alike (f g : Facade) : Prop := ∀ t i, f.impl t = some i → ∃ j, g.impl t = some j ∧ i.Alike j

lemma Alike.refl (f : Facade) : f.Alike f := fun _ i hi => ⟨i, hi, .refl i⟩

lemma Alike.trans {e f g : Facade} (hef : e.Alike f) (hfg : f.Alike g) : e.Alike g := by
  intro t i hi
  obtain ⟨j, hj, hij⟩ := hef t i hi
  obtain ⟨k, hk, hjk⟩ := hfg t j hj
  exact ⟨k, hk, hij.trans hjk⟩

lemma alike_setImpl {t : Target} {i j : Impl} (hi : f.impl t = some i) (hij : i.Alike j) :
    f.Alike (f.setImpl t j) := by
  intro t' i' hi'
  by_cases ht : t' = t
  · subst ht
    obtain rfl := some.inj (hi.symm.trans hi')
    exact ⟨j, impl_setImpl_self, hij⟩
  · exact ⟨i', (impl_setImpl_ne ht).trans hi', .refl i'⟩

lemma Stepped.alike {e : FacadeEvent} (h : f.Stepped e g) (hjob : f.job ≠ [])
    (he : e ≠ .proceed) : g.job = f.job ∧ f.Alike g := by
  cases h with
  | handle hempty | saveCallback hempty | trigger hempty | deviceChange hempty =>
    -- these take `deviceMutex_`, which the operation holds
    exact absurd hempty hjob
  | proceed => exact absurd rfl he
  -- a thread of an implementation, which works without the mutex
  | internal hi hm =>
    exact ⟨job_setImpl, alike_setImpl hi ⟨rfl, Impl.idle_handle_ofThreads hm⟩⟩
  | @report t i hi =>
    refine ⟨job_onStateChange.trans job_setImpl, fun t' i' hi' => ?_⟩
    rw [impl_onStateChange]
    have hreported : i.Alike { i with reported := i.state } := ⟨rfl, Iff.rfl⟩
    exact alike_setImpl hi hreported t' i' hi'

lemma Stepped.kind {e : FacadeEvent} (h : f.Stepped e g) : g.phone.kind = f.phone.kind := by
  have hset : ∀ {t : Target} {i j : Impl}, f.impl t = some i → j.kind = i.kind →
      (f.setImpl t j).phone.kind = f.phone.kind := by
    intro t i j hi hkind
    cases t with
    | phone =>
      cases hi
      exact hkind
    | accessory => rfl
  cases h with
  | handle | saveCallback | trigger | deviceChange => rfl
  | proceed _ hproceeded =>
    cases hproceeded with
    | handle hi | started hi | destroy hi | init hi | fallback hi | refused hi => exact hset hi rfl
    | await | unrouted | routed | drop | announce | unannounced => rfl
    | trigger htriggered => cases htriggered <;> rfl
    | create hcreated => cases hcreated <;> rfl
  | internal hi => exact hset hi rfl
  | @report t i hi =>
    unfold onStateChange
    repeat' split
    all_goals exact hset hi rfl

end Facade

def PhoneReset.Back (p : PhoneReset) : Prop :=
  p.before.state = .idle ∧ p.after.state ≠ .idle ∧
    p.after.data.adapter = some p.before.data.adapters

structure PhoneReset.Of (p : PhoneReset) (before : Facade) (a : ResetAnswers) : Prop where
  ret : p.ret = 0 ↔ before.phone.Resets a.created a.attached
  back : p.ret = 0 → p.Back

def Facade.AccessoryResets (f : Facade) (a : ResetAnswers) : Prop :=
  ∀ i, f.impl .accessory = some i → i.Resets a.accessoryCreated a.accessoryAttached

structure Finished (before : Facade) (a : ResetAnswers) (phone : Option PhoneReset) (ret : Int) :
    Prop where
  phone : ∃ p, phone = some p ∧ p.Of before a
  ret : ret = 0 ↔ before.AccessoryResets a

inductive Resetting (before : Facade) (a : ResetAnswers) :
    Facade → Option PhoneReset → Int → Prop
  | asked {f} (halike : before.Alike f) (hjob : f.job = before.handle a.phoneMsg a.accessoryMsg) :
      Resetting before a f none 0
  | phone {f p i j} (hp : p.Of before a) (hi : before.impl .accessory = some i)
      (hj : f.impl .accessory = some j) (hij : i.Alike j) {wait : List Command}
      (hwait : wait = [] ∨ wait = [.await .phone])
      (hjob : f.job = wait ++ [.handle .accessory a.accessoryMsg]) :
      Resetting before a f (some p) 0
  | last {f phone ret t} (hfinished : Finished before a phone ret) (hjob : f.job = [.await t]) :
      Resetting before a f phone ret

namespace Resetting
variable {before f g : Facade} {a : ResetAnswers} {phone : Option PhoneReset} {ret : Int}

lemma handle_reset (f : Facade) (a : ResetAnswers) :
    f.handle a.phoneMsg a.accessoryMsg = .handle .phone a.phoneMsg ::
      ((f.impl .accessory).map fun _ => Command.handle .accessory a.accessoryMsg).toList := by
  unfold Facade.handle ResetAnswers.phoneMsg Facade.impl
  cases f.wakeupImpl <;> rfl

lemma job_ne_nil (h : Resetting before a f phone ret) : f.job ≠ [] := by
  cases h with
  | asked _ hjob =>
    rw [hjob, handle_reset]
    exact List.cons_ne_nil _ _
  | phone _ _ _ _ _ hjob =>
    rw [hjob]
    exact List.append_ne_nil_of_right_ne_nil _ (List.cons_ne_nil _ _)
  | last _ hjob =>
    rw [hjob]
    exact List.cons_ne_nil _ _

lemma other (h : Resetting before a f phone ret) (hjob' : g.job = f.job) (hfg : f.Alike g) :
    Resetting before a g phone ret := by
  cases h with
  | asked halike hjob => exact .asked (halike.trans hfg) (hjob'.trans hjob)
  | phone hp hi hj hij hwait hjob =>
    obtain ⟨k, hk, hjk⟩ := hfg _ _ hj
    exact .phone hp hi hk (hij.trans hjk) hwait (hjob'.trans hjob)
  | last hfinished hjob => exact .last hfinished (hjob'.trans hjob)

variable {i : Impl} {r : Option PhoneReset × Int} {t : Target}

lemma phoneReset_of (hkind : before.phone.kind = .phone) (halike : before.phone.Alike i) :
    PhoneReset.Of ⟨i, (i.handle a.phoneMsg).2, (i.handle a.phoneMsg).1⟩ before a := by
  have hret : (i.handle a.phoneMsg).1 = 0 ↔ i.Resets a.created a.attached :=
    i.ret_resetAdapter_iff _ _
  constructor
  · rw [hret]
    exact halike.resets _ _
  · intro hzero
    have hresets := hret.1 hzero
    obtain ⟨hstate, hadapter⟩ :=
      Impl.handle_resetAdapter_phone (halike.1.trans hkind) hresets
    exact ⟨hresets.1, by rw [ResetAnswers.phoneMsg, hstate]; decide, hadapter⟩

def Continues (before : Facade) (a : ResetAnswers) (g : Facade) (r : Option PhoneReset × Int) :
    Prop :=
  if g.job.isEmpty then Finished before a r.1 r.2 else Resetting before a g r.1 r.2

lemma Continues.finished (h : Finished before a r.1 r.2) (hjob : g.job = [] ∨ g.job = [.await t]) :
    Continues before a g r := by
  unfold Continues
  rcases hjob with hjob | hjob
  · rw [if_pos (by simp [hjob])]
    exact h
  · rw [if_neg (by simp [hjob])]
    exact .last h hjob

lemma Continues.resetting (h : Resetting before a g r.1 r.2) : Continues before a g r := by
  unfold Continues
  rw [if_neg (by simpa using h.job_ne_nil)]
  exact h

lemma job_called (f : Facade) (t : Target) (i : Impl) (m : StateMsg) (rest : List Command) :
    (f.called t i m rest).job = rest ∨ (f.called t i m rest).job = .await t :: rest := by
  unfold Facade.called
  cases (i.handle m).2.settled
  · exact .inr rfl
  · exact .inl rfl

lemma proceed_asked (hkind : before.phone.kind = .phone) (halike : before.Alike f)
    (hjob : f.job = before.handle a.phoneMsg a.accessoryMsg) (hstep : f.proceed = some g) :
    Continues before a g (EngineManager.note f none 0) := by
  rw [handle_reset] at hjob
  obtain ⟨c, rest, hjob', hproceeded⟩ := Facade.proceed_cases hstep
  obtain ⟨rfl, rfl⟩ := List.cons.inj (hjob'.symm.trans hjob)
  -- what the phone returns is noted; the result of `Handle` stays zero
  have hnote : EngineManager.note f none 0 =
      (some ⟨f.phone, (f.phone.handle a.phoneMsg).2, (f.phone.handle a.phoneMsg).1⟩, 0) := by
    simp only [EngineManager.note, hjob]
  obtain ⟨i, hi, hphone⟩ := halike .phone _ rfl
  cases hi
  have hof := phoneReset_of (a := a) hkind hphone
  rw [hnote]
  cases hproceeded with
  | @handle _ i _ _ hi =>
    cases hi
    cases hacc : before.impl .accessory with
    | none =>
      -- no accessory: zero is returned whatever the phone did
      have hret : (0 : Int) = 0 ↔ before.AccessoryResets a :=
        iff_of_true rfl fun i hi => (by rw [hacc] at hi; cases hi)
      exact .finished ⟨⟨_, rfl, hof⟩, hret⟩ (job_called f .phone f.phone a.phoneMsg [])
    | some i =>
      obtain ⟨j, hj, hij⟩ := halike .accessory i hacc
      apply Continues.resetting
      rcases job_called f .phone f.phone a.phoneMsg [.handle .accessory a.accessoryMsg] with
        hrest | hrest
      · exact .phone hof hacc hj hij (.inl rfl) hrest
      · exact .phone hof hacc hj hij (.inr rfl) hrest

lemma proceed_accessory {p : PhoneReset} {j : Impl} (hp : p.Of before a)
    (hi : before.impl .accessory = some i) (hj : f.impl .accessory = some j) (hij : i.Alike j)
    (hjob : f.job = [.handle .accessory a.accessoryMsg]) (hstep : f.proceed = some g) :
    Continues before a g (EngineManager.note f (some p) 0) := by
  obtain ⟨c, rest, hjob', hproceeded⟩ := Facade.proceed_cases hstep
  obtain ⟨rfl, rfl⟩ := List.cons.inj (hjob'.symm.trans hjob)
  have hnote : EngineManager.note f (some p) 0 = (some p, (j.handle a.accessoryMsg).1) := by
    simp only [EngineManager.note, hjob, hj]
  rw [hnote]
  cases hproceeded with
  | @handle _ k _ _ hk =>
    obtain rfl := some.inj (hj.symm.trans hk)
    refine .finished ⟨⟨p, rfl, hp⟩, ?_⟩ (job_called f .accessory j a.accessoryMsg [])
    show (j.handle a.accessoryMsg).1 = 0 ↔ before.AccessoryResets a
    rw [ResetAnswers.accessoryMsg, j.ret_resetAdapter_iff, hij.resets]
    constructor
    · intro h i' hi'
      obtain rfl := some.inj (hi.symm.trans hi')
      exact h
    · exact fun h => h i hi

lemma proceed_await {rest : List Command} (hjob : f.job = .await t :: rest)
    (hstep : f.proceed = some g) :
    g = { f with job := rest } ∧ ∀ phone ret, EngineManager.note f phone ret = (phone, ret) := by
  obtain ⟨c, rest, hjob', hproceeded⟩ := Facade.proceed_cases hstep
  obtain ⟨rfl, rfl⟩ := List.cons.inj (hjob'.symm.trans hjob)
  refine ⟨?_, fun phone ret => by simp only [EngineManager.note, hjob]⟩
  cases hproceeded
  rfl

lemma proceed (h : Resetting before a f phone ret) (hkind : before.phone.kind = .phone)
    (hstep : f.proceed = some g) : Continues before a g (EngineManager.note f phone ret) := by
  cases h with
  | asked halike hjob => exact proceed_asked hkind halike hjob hstep
  | phone hp hi hj hij hwait hjob =>
    -- the accessory is next, or the phone has not reported yet
    rcases hwait with rfl | rfl
    · exact proceed_accessory hp hi hj hij hjob hstep
    obtain ⟨rfl, hnote⟩ := proceed_await hjob hstep
    rw [hnote]
    exact .resetting (.phone hp hi hj hij (.inl rfl) rfl)
  | last hfinished hjob =>
    obtain ⟨rfl, hnote⟩ := proceed_await hjob hstep
    rw [hnote]
    exact .finished hfinished (t := .phone) (.inl rfl)

end Resetting

def ResetReturn.Truthful (r : ResetReturn) : Prop :=
  r.returned → ∃ p, r.phone = some p ∧ p.ret = 0 ∧ p.Back

def ResetReturn.Covered (r : ResetReturn) : Prop :=
  (r.before.phone.state = .idle ∧ r.answers.created ∧ r.answers.attached) ∨
    ∃ i, r.before.impl .accessory = some i ∧
      ¬ i.Resets r.answers.accessoryCreated r.answers.accessoryAttached

lemma Finished.truthful_iff {r : ResetReturn} {ret : Int}
    (h : Finished r.before r.answers r.phone ret) (hkind : r.before.phone.kind = .phone)
    (hreturned : r.returned = (ret == 0)) : r.Truthful ↔ r.Covered := by
  obtain ⟨p, hphone, hof⟩ := h.phone
  have hresets : p.ret = 0 ↔
      r.before.phone.state = .idle ∧ r.answers.created ∧ r.answers.attached := by
    rw [hof.ret]
    simp [Impl.Resets, hkind]
  unfold ResetReturn.Truthful ResetReturn.Covered
  rw [← hresets, hreturned, beq_iff_eq]
  -- `true` is returned exactly when every accessory has been reset
  by_cases hret : ret = 0
  · have hall := h.ret.1 hret
    constructor
    · intro htruthful
      obtain ⟨q, hq, hzero, -⟩ := htruthful hret
      obtain rfl := some.inj (hphone.symm.trans hq)
      exact .inl hzero
    · rintro (hzero | ⟨i, hi, hnot⟩) -
      · exact ⟨p, hphone, hzero, hof.back hzero⟩
      · exact absurd (hall i hi) hnot
  · have hsome : ∃ i, r.before.impl .accessory = some i ∧
        ¬ i.Resets r.answers.accessoryCreated r.answers.accessoryAttached := by
      by_contra hnone
      refine hret (h.ret.2 fun i hi => ?_)
      by_contra hnot
      exact hnone ⟨i, hi, hnot⟩
    exact iff_of_true (fun hzero => absurd hzero hret) (.inr hsome)

namespace EngineManager

structure Sound (s : EngineManager) : Prop where
  kind : s.facade.phone.kind = .phone
  call : ∀ before a phone ret, s.call = .resetting before a phone ret →
    before.phone.kind = .phone ∧ Resetting before a s.facade phone ret
  returns : ∀ r ∈ s.returns, r.Truthful ↔ r.Covered

variable {s t : EngineManager}

lemma Sound.facade {e : Facade.FacadeEvent} {g : Facade} (h : s.Sound) (he : e ≠ .proceed)
    (hstep : s.facade.step e = some g) : Sound { s with facade := g } where
  kind := (Facade.step_cases hstep).kind.trans h.kind
  call before a phone ret hcall := by
    obtain ⟨hkind, hresetting⟩ := h.call before a phone ret hcall
    obtain ⟨hjob, halike⟩ := (Facade.step_cases hstep).alike hresetting.job_ne_nil he
    exact ⟨hkind, hresetting.other hjob halike⟩
  returns := h.returns

lemma Sound.proceed {g : Facade} (h : s.Sound) (hstep : s.facade.proceed = some g) :
    (s.proceeded g).Sound := by
  have hkind : g.phone.kind = .phone :=
    (Facade.step_cases (e := .proceed) hstep).kind.trans h.kind
  unfold proceeded
  cases hcall : s.call with
  | resetting before a phone ret =>
    obtain ⟨hbefore, hresetting⟩ := h.call before a phone ret hcall
    have hcontinues := hresetting.proceed hbefore hstep
    unfold Resetting.Continues at hcontinues
    simp only
    generalize note s.facade phone ret = r at hcontinues ⊢
    split
    · rename_i hempty
      rw [if_pos hempty] at hcontinues
      refine ⟨hkind, fun _ _ _ _ hnone => (by cases hnone), ?_⟩
      intro r' hr'
      -- the call returns, and its entry is the last one
      rcases List.mem_append.1 hr' with hold | hnew
      · exact h.returns r' hold
      · obtain rfl := List.mem_singleton.1 hnew
        exact hcontinues.truthful_iff hbefore rfl
    · rename_i hempty
      rw [if_neg hempty] at hcontinues
      refine ⟨hkind, fun before' a' phone' ret' heq => ?_, h.returns⟩
      cases heq
      exact ⟨hbefore, hcontinues⟩
  | releasing =>
    refine ⟨hkind, fun _ _ _ _ hresetting => ?_, h.returns⟩
    simp only at hresetting
    split at hresetting <;> cases hresetting
  | none | called | released =>
    exact ⟨hkind, fun _ _ _ _ hresetting => (by cases hresetting), h.returns⟩

lemma Sound.advance (h : s.Sound) {call : ResetCall}
    (hcall : ∀ before a phone ret, call ≠ .resetting before a phone ret) : Sound { s with call } :=
  ⟨h.kind, fun before a phone ret heq => absurd heq (hcall before a phone ret), h.returns⟩

lemma Sound.resetAdapter {a : ResetAnswers} {g : Facade} (h : s.Sound)
    (hstep : s.facade.step (.request (.handle a.phoneMsg a.accessoryMsg)) = some g) :
    Sound { s with facade := g, call := .resetting s.facade a none 0 } := by
  have hstepped := Facade.step_cases hstep
  refine ⟨hstepped.kind.trans h.kind, fun before a' phone ret heq => ?_, h.returns⟩
  cases heq
  refine ⟨h.kind, ?_⟩
  cases hstepped with
  -- the facade is free, so `Handle` starts with both messages before it
  | handle => exact .asked (Facade.Alike.refl s.facade) rfl

lemma Sound.step {e : ManagerEvent} (h : s.Sound) (hstep : s.step e = some t) : t.Sound := by
  cases e with
  | facade e =>
    cases e with
    | proceed => cases hstep
    | request | internal | report =>
      obtain ⟨g, hg, rfl⟩ := map_eq_some_iff.1 hstep
      exact h.facade (fun he => by cases he) hg
  | createOrResetWakeupEngine =>
    simp only [EngineManager.step] at hstep
    split at hstep <;> cases hstep
    exact h.advance fun _ _ _ _ => ResetCall.noConfusion
  | releaseAdapter =>
    simp only [EngineManager.step] at hstep
    split at hstep
    · obtain ⟨g, hg, rfl⟩ := map_eq_some_iff.1 hstep
      have hfacade := h.facade (fun he => by cases he) hg
      exact hfacade.advance fun _ _ _ _ => ResetCall.noConfusion
    · cases hstep
  | resetAdapter a =>
    simp only [EngineManager.step] at hstep
    split at hstep
    · obtain ⟨g, hg, rfl⟩ := map_eq_some_iff.1 hstep
      exact h.resetAdapter hg
    · cases hstep
  | proceed =>
    obtain ⟨g, hg, rfl⟩ := map_eq_some_iff.1 hstep
    exact h.proceed hg

theorem run_truthful_iff (type : ProcessType) (device : WakeupDeviceDetail) (a : CreateAnswers)
    (es : List ManagerEvent) {s : EngineManager}
    (hrun : run step (initial type device a) es = some s) :
    ∀ r ∈ s.returns, r.Truthful ↔ r.Covered := by
  have hinitial : (initial type device a).Sound :=
    ⟨rfl, fun _ _ _ _ hcall => (by cases hcall), fun _ hr => (by cases hr)⟩
  have hsound : s.Sound := run_invariant_all (fun _ _ _ h hstep => h.step hstep) hinitial hrun
  exact hsound.returns

lemma exists_return {s₀ : EngineManager} {es : List ManagerEvent}
    {P : ResetReturn → Prop} (returned : Bool) (ret : Option Int)
    (hreturns : (run step s₀ es).map (fun s => s.returns.map fun r =>
      (r.returned, r.phone.map PhoneReset.ret)) = some [(returned, ret)])
    (hP : ∀ s r, run step s₀ es = some s → r ∈ s.returns → r.returned = returned →
      r.phone.map PhoneReset.ret = ret → P r) :
    ∃ s, run step s₀ es = some s ∧ ∃ r ∈ s.returns, P r := by
  obtain ⟨s, hrun, hmap⟩ := map_eq_some_iff.1 hreturns
  obtain ⟨r, hr, heq⟩ := List.mem_map.1 (hmap ▸ List.mem_singleton_self (returned, ret))
  obtain ⟨hreturned, hret⟩ := Prod.mk.inj heq
  exact ⟨s, hrun, r, hr, hP s r hrun hr hreturned hret⟩

theorem run_truthful_phone : ∃ s, run step
    (initial .wakeupPhone ⟨.phone, defaultMacAddress, false, "", 0⟩ ⟨true, true, true⟩)
      [.proceed, .proceed, .createOrResetWakeupEngine, .releaseAdapter, .proceed,
        .facade (.report .phone), .proceed, .resetAdapter ⟨true, true, false, false⟩, .proceed,
        .facade (.report .phone), .proceed] = some s ∧
    ∃ r ∈ s.returns, r.returned ∧ (r.Truthful ↔ r.Covered) := by
  refine exists_return true (some 0) rfl fun s r hrun hr hreturned _ => ?_
  exact ⟨hreturned, run_truthful_iff _ _ _ _ hrun r hr⟩

theorem failed_reset_returns_true : ∃ s, run step
    (initial .wakeupPhone ⟨.phone, defaultMacAddress, false, "", 0⟩ ⟨true, true, true⟩)
      [.proceed, .proceed, .createOrResetWakeupEngine, .releaseAdapter, .proceed,
        .facade (.report .phone), .proceed, .resetAdapter ⟨false, false, false, false⟩,
        .proceed] = some s ∧
    ∃ r ∈ s.returns, r.returned ∧ ¬ r.Truthful := by
  refine exists_return true (some (-1)) rfl fun s r _ _ hreturned hphone => ?_
  refine ⟨hreturned, fun htruthful => ?_⟩
  obtain ⟨p, hp, hzero, -⟩ := htruthful hreturned
  rw [hp, map_some, hzero] at hphone
  cases hphone

end EngineManager
end IntellVoice.Wakeup
