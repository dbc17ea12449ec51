import IntellVoice.Wakeup.Exclusion

/-! The facade asks `GetCurrentImpl` anew for each command of a wakeup. -/

namespace IntellVoice.Wakeup
open Transition Utils

def StateMsg.isWakeupCmd (m : StateMsg) : Bool :=
  match m.msgId with
  | .stopRecognize | .startCapturer | .read | .stopCapturer => true
  | _ => false

def Command.Unrouted : Command → Prop
  | .handle _ m => m.isWakeupCmd = false
  | .route .. | .start .. => False
  | _ => True

namespace Facade
variable {f g : Facade} {t : Target} {i j : Impl}

def Owner (f : Facade) (t : Target) : Prop :=
  ∃ i, f.impl t = some i ∧ i.reported.inProcess ∧ i.processType = f.curProcess

def Dispatches (f : Facade) (e : FacadeEvent) : Prop :=
  e = .proceed → f.curState.inProcess →
    (∀ m m' rest, f.job = .route m m' :: rest → ∃ t, f.getCurrentImpl = some t ∧ f.Owner t) ∧
    ∀ t m rest, f.job = .handle t m :: rest → m.isWakeupCmd → f.Owner t

/-- No accessory takes over while the phone handles a wakeup. -/
def KeepsDevice (f : Facade) (e : FacadeEvent) : Prop :=
  e = .proceed → ∀ info a rest, f.job = .create info a :: rest →
    info.type = .headset ∨ info.type = .aiGlasses →
      ¬ (f.curState.inProcess ∧ f.curProcess = .wakeupPhone)

def Entitled (f : Facade) : Prop :=
  f.phone.processType = .wispherPhone ∨
    f.phone.processType = .wakeupPhone ∧ f.wakeupImpl = .phone

def DispatchHead (f : Facade) : Command → Prop
  | .handle t m => m.isWakeupCmd → ∀ t' i, f.impl t' = some i → i.Active → t' = t
  | .start .phone _ => f.Entitled
  | _ => True

structure Dispatching (f : Facade) : Prop extends Lawful f where
  owns : f.phone.Active → f.Entitled
  next : ∀ c rest, f.job = c :: rest → f.DispatchHead c
  behind : ∀ c rest, f.job = c :: rest → ∀ c' ∈ rest, c'.Unrouted

variable {c : Command} {m : StateMsg}

lemma DispatchHead.of_unrouted (hc : c.Unrouted) : f.DispatchHead c := by
  cases c with
  | handle t m =>
    intro hm
    rw [show m.isWakeupCmd = false from hc] at hm
    cases hm
  | route | start => exact hc.elim
  | await | trigger | destroy | drop | create | init | announce => trivial

lemma Dispatching.of_unrouted (h : f.Lawful) (howns : f.phone.Active → f.Entitled)
    (hjob : ∀ c ∈ f.job, c.Unrouted) : f.Dispatching where
  toLawful := h
  owns := howns
  next c rest hc := .of_unrouted (hjob c (by simp [hc]))
  behind c rest hc c' hc' := hjob c' (by simp [hc, hc'])

variable {rest : List Command}

lemma Dispatching.of_next (h : f.Lawful) (howns : f.phone.Active → f.Entitled)
    (hjob : f.job = c :: rest) (hnext : f.DispatchHead c) (hrest : ∀ c' ∈ rest, c'.Unrouted) :
    f.Dispatching where
  toLawful := h
  owns := howns
  next c' rest' hc := by
    obtain ⟨rfl, -⟩ := List.cons.inj (hjob.symm.trans hc)
    exact hnext
  behind c' rest' hc := by
    obtain ⟨-, rfl⟩ := List.cons.inj (hjob.symm.trans hc)
    exact hrest

lemma Entitled.of_accessory (h : f.Entitled) (hi : f.impl .accessory = some i) :
    f.phone.processType = .wispherPhone := by
  refine h.resolve_right fun hphone => ?_
  have hclash := impl_accessory.1 hi
  rw [hphone.2] at hclash
  cases hclash

lemma Entitled.setImpl (h : f.Entitled) (hi : f.impl t = some i)
    (htype : j.processType = i.processType) : (f.setImpl t j).Entitled := by
  cases t with
  | phone =>
    cases hi
    show j.processType = _ ∨ j.processType = _ ∧ f.wakeupImpl = _
    rw [htype]
    exact h
  | accessory => exact .inl (h.of_accessory hi)

lemma phone_active_handle (hm : m.msgId ≠ .startRecognize) (hi : f.impl t = some i)
    (hactive : (f.setImpl t (i.handle m).2).phone.Active) : f.phone.Active := by
  cases t with
  | phone =>
    cases hi
    exact hactive.imp_left (Impl.inProcess_handle hm)
  | accessory => exact hactive

lemma Dispatching.owns_handle (h : f.Dispatching) (hm : m.msgId ≠ .startRecognize)
    (hi : f.impl t = some i) (hactive : (f.setImpl t (i.handle m).2).phone.Active) :
    (f.setImpl t (i.handle m).2).Entitled :=
  (h.owns (phone_active_handle hm hi hactive)).setImpl hi rfl

lemma Dispatching.getCurrentImpl (h : f.Dispatching) (hi : f.impl t = some i)
    (hreported : i.reported.inProcess) : f.getCurrentImpl = some t := by
  obtain ⟨-, hprocess⟩ := h.summary t i hi hreported
  unfold Facade.getCurrentImpl
  cases t with
  | phone =>
    -- for a whisper the device does not matter
    cases hi
    rcases h.owns (.inr hreported) with hwispher | ⟨hwakeup, hphone⟩
    · rw [hprocess, if_pos hwispher]
    · rw [hprocess, hwakeup, if_neg (by decide), wakeupTarget, hphone]
  | accessory =>
    -- an accessory's process is no whisper, and its implementation is the one in `wakeupImpl_`
    have hne : i.processType ≠ .wispherPhone := by
      rcases h.accessoryType i hi with heq | heq <;> rw [heq] <;> decide
    rw [hprocess, if_neg hne, wakeupTarget, impl_accessory.1 hi]

lemma DispatchHead.routed (h : f.Dispatching) (hreported : f.Reported)
    (hcurrent : f.getCurrentImpl = some t) (m : StateMsg) : f.DispatchHead (.handle t m) := by
  intro _ t' i hi hactive
  have htold : i.reported.inProcess := hactive.elim (hreported t' i hi) id
  exact Option.some.inj ((h.getCurrentImpl hi htold).symm.trans hcurrent)

lemma unrouted_handle {m' : StateMsg} (hm' : m'.msgId = m.msgId) :
    (∀ c ∈ f.handle m m', c.Unrouted) ∨ f.handle m m' = [.route m m'] := by
  unfold Facade.handle
  split
  -- the commands of a wakeup; then those to the phone's implementation; then those to both
  case h_5 | h_6 | h_7 | h_8 | h_9 => exact .inr rfl
  case h_10 =>
    left
    simp_all [Command.Unrouted, StateMsg.isWakeupCmd]
  all_goals
    left
    split <;> simp_all [Command.Unrouted, StateMsg.isWakeupCmd]

lemma unrouted_saveCallback (cb : Option Nat) : ∀ c ∈ f.saveCallback cb, c.Unrouted := by
  unfold saveCallback
  cases f.wakeupTarget <;> simp [Command.Unrouted, StateMsg.isWakeupCmd, StateMsg.msgId]

lemma unrouted_await (hrest : ∀ c ∈ rest, c.Unrouted) (b : Bool) :
    ∀ c ∈ (if b then rest else .await t :: rest), c.Unrouted := by
  cases b with
  | true => exact hrest
  | false => exact List.forall_mem_cons.2 ⟨trivial, hrest⟩

section
variable (h : f.Dispatching)
include h

lemma Dispatching.called (hlawful : (f.called t i m rest).Lawful) (hi : f.impl t = some i)
    (hm : m.msgId ≠ .startRecognize) (hrest : ∀ c ∈ rest, c.Unrouted) :
    (f.called t i m rest).Dispatching :=
  .of_unrouted hlawful (h.owns_handle hm hi) (unrouted_await hrest _)

lemma Dispatching.started (hjob : f.job = .start t m :: rest) (hi : f.impl t = some i) :
    (f.called t i m rest).Dispatching := by
  refine .of_unrouted (h.toLawful.proceed_start hjob hi) (fun hactive => ?_)
    (unrouted_await (h.behind _ _ hjob) _)
  cases t with
  | phone =>
    have hentitled : f.Entitled := h.next _ _ hjob
    exact hentitled.setImpl hi rfl
  | accessory =>
    obtain ⟨hquiet, -⟩ : f.Quiet ∧ _ := h.head _ _ hjob
    exact absurd hactive (hquiet .phone f.phone rfl)

lemma Dispatching.triggered {uuid : Int} {macAddress : String} {a : StartAnswers}
    (hreported : f.Reported) (hlawful : g.Lawful) (hrest : ∀ c ∈ rest, c.Unrouted)
    (htriggered : f.Triggered uuid macAddress a rest g) : g.Dispatching := by
  cases htriggered with
  | closed | foreign | swallowed => exact .of_unrouted hlawful h.owns hrest
  | phone hcheck hphone =>
    have hentitled : (f.startPhone uuid a rest).Entitled := by
      rcases hphone with hwispher | ⟨hne, hwakeup⟩
      · exact .inl (if_pos hwispher)
      · exact .inr ⟨if_neg hne, hwakeup⟩
    exact .of_next hlawful (fun _ => hentitled) rfl hentitled hrest
  | accessory hcheck =>
    have hquiet := h.toLawful.quiet hreported hcheck
    exact .of_next hlawful (fun hactive => absurd hactive (hquiet .phone f.phone rfl)) rfl trivial
      hrest

lemma Dispatching.created {info : WakeupDeviceDetail} {a : CreateAnswers}
    (hjob : f.job = .create info a :: rest) (hkeeps : f.KeepsDevice .proceed) (hlawful : g.Lawful)
    (hcreated : f.Created info a rest g) : g.Dispatching := by
  have hreported := h.toLawful.reported_of_head hjob fun _ heq => by cases heq
  have hrest := h.behind _ _ hjob
  have hannounce : ∀ c ∈ Command.announce :: rest, c.Unrouted :=
    List.forall_mem_cons.2 ⟨trivial, hrest⟩
  have hwispher : info.type = .headset ∨ info.type = .aiGlasses → f.phone.Active →
      f.phone.processType = .wispherPhone := by
    intro htype hactive
    have htold : f.phone.reported.inProcess :=
      hactive.elim (hreported .phone f.phone rfl) id
    obtain ⟨hstate, hprocess⟩ := h.summary .phone f.phone rfl htold
    refine (h.owns hactive).resolve_right fun hphone => ?_
    -- a wakeup of the phone would be the process that goes on
    apply hkeeps rfl info a rest hjob htype
    rw [hstate, hprocess]
    exact ⟨htold, hphone.1⟩
  cases hcreated with
  | phone =>
    refine .of_unrouted hlawful (fun hactive => ?_) hannounce
    exact (h.owns hactive).imp_right fun hphone => ⟨hphone.1, rfl⟩
  | accessory _ htype =>
    exact .of_next hlawful (fun hactive => .inl (hwispher htype hactive)) rfl trivial hannounce
  | failed htype =>
    exact .of_unrouted hlawful (fun hactive => .inl (hwispher htype hactive)) hannounce
  | unknown => exact .of_unrouted hlawful h.owns hrest

lemma proceed_dispatching (hkeeps : f.KeepsDevice .proceed) (hjob : f.job = c :: rest)
    (hproceeded : f.Proceeded c rest g) : g.Dispatching := by
  have hlawful := proceed_lawful h.toLawful hjob hproceeded
  have hrest := h.behind _ _ hjob
  have hhead := h.head _ _ hjob
  cases hproceeded with
  | handle hi => exact h.called hlawful hi hhead hrest
  | await | unrouted | unannounced => exact .of_unrouted hlawful h.owns hrest
  | routed hcurrent =>
    have hreported := h.toLawful.reported_of_head hjob fun _ heq => by cases heq
    exact .of_next hlawful h.owns rfl (DispatchHead.routed h hreported hcurrent _) hrest
  | trigger htriggered =>
    have hreported := h.toLawful.reported_of_head hjob fun _ heq => by cases heq
    exact h.triggered hreported hlawful hrest htriggered
  | started hi => exact h.started hjob hi
  | refused hi =>
    have hstarted := h.started hjob hi
    exact ⟨hlawful, hstarted.owns, hstarted.next, hstarted.behind⟩
  | destroy hi =>
    exact .of_next hlawful (h.owns_handle (by decide) hi) rfl trivial hrest
  | drop hi =>
    -- while there was an accessory the phone could only be whispered to
    refine .of_next hlawful (fun hactive => ?_) rfl trivial hrest
    exact .inl ((h.owns hactive).of_accessory hi)
  | create hcreated => exact h.created hjob hkeeps hlawful hcreated
  | init hi => exact h.called hlawful hi hhead.1 hrest
  | fallback hi =>
    refine .of_unrouted hlawful (fun hactive => ?_) hrest
    exact .inl ((h.owns hactive).of_accessory hi)
  | announce =>
    refine .of_unrouted hlawful h.owns (List.forall_mem_cons.2 ⟨?_, hrest⟩)
    simp [Command.Unrouted, StateMsg.isWakeupCmd, StateMsg.msgId]

lemma Dispatching.calm (hlawful : g.Lawful) (hjob : g.job = f.job)
    (hentitled : f.Entitled → g.Entitled)
    (hcalm : ∀ t k, g.impl t = some k → k.Active → ∃ i, f.impl t = some i ∧ i.Active) :
    g.Dispatching where
  toLawful := hlawful
  owns hactive := by
    obtain ⟨i, ⟨⟩, hold⟩ := hcalm .phone g.phone rfl hactive
    exact hentitled (h.owns hold)
  next c rest hc := by
    have hnext := h.next c rest (hjob ▸ hc)
    cases c with
    | handle t m =>
      intro hm t' k hk hactive
      obtain ⟨i, hi, hold⟩ := hcalm t' k hk hactive
      exact hnext hm t' i hi hold
    | start t m =>
      cases t with
      | phone => exact hentitled hnext
      | accessory => trivial
    | await | route | trigger | destroy | drop | create | init | announce => trivial
  behind c rest hc := h.behind c rest (hjob ▸ hc)

lemma step_dispatching {e : FacadeEvent} (hkeeps : f.KeepsDevice e) (hstep : f.step e = some g) :
    g.Dispatching := by
  have hlawful := step_lawful h.toLawful hstep
  cases step_cases hstep with
  | handle _ _ hm' =>
    rcases unrouted_handle (f := f) hm' with hunrouted | hroute
    · exact .of_unrouted hlawful h.owns hunrouted
    · exact .of_next hlawful h.owns hroute trivial (by simp)
  | saveCallback => exact .of_unrouted hlawful h.owns (unrouted_saveCallback _)
  | trigger => exact .of_unrouted hlawful h.owns (by simp [Command.Unrouted])
  | deviceChange =>
    refine .of_unrouted hlawful h.owns ?_
    show ∀ c ∈ f.updateWakeupEngineImpl _ _, c.Unrouted
    unfold updateWakeupEngineImpl
    split <;> simp [Command.Unrouted]
  | proceed hjob hproceeded => exact proceed_dispatching h hkeeps hjob hproceeded
  | internal hi hm =>
    refine h.calm hlawful job_setImpl
      (fun hentitled => hentitled.setImpl hi rfl) fun t' k hk ha => ?_
    rcases impl_setImpl hk with ⟨rfl, rfl⟩ | ⟨-, hold⟩
    · exact ⟨_, hi, ha.imp_left (Impl.inProcess_handle (ofThreads_ne hm))⟩
    · exact ⟨k, hold, ha⟩
  | @report t i hi =>
    refine h.calm hlawful (job_onStateChange.trans job_setImpl) (fun hentitled => ?_)
      fun t' k hk ha => ?_
    · have hset := hentitled.setImpl (j := { i with reported := i.state }) hi rfl
      unfold onStateChange
      repeat' split
      all_goals exact hset
    · rw [impl_onStateChange] at hk
      rcases impl_setImpl hk with ⟨rfl, rfl⟩ | ⟨-, hold⟩
      · exact ⟨i, hi, .inl (ha.elim id id)⟩
      · exact ⟨k, hold, ha⟩

lemma Dispatching.dispatches (e : FacadeEvent) : f.Dispatches e := by
  intro _ hcur
  obtain ⟨t, i, hi, hreported⟩ := h.told hcur
  have howner : f.Owner t := ⟨i, hi, hreported, (h.summary t i hi hreported).2.symm⟩
  constructor
  · intro _ _ _ _
    exact ⟨t, h.getCurrentImpl hi hreported, howner⟩
  · intro t' m rest hjob hm
    obtain rfl : t = t' := h.next _ _ hjob hm t i hi (.inr hreported)
    exact howner

end

lemma dispatching_initial {type : ProcessType} (hheadset : type ≠ .wakeupHeadset)
    (hglasses : type ≠ .wakeupGlasses) (device : WakeupDeviceDetail) (a : CreateAnswers) :
    (initial type device a).Dispatching := by
  refine .of_next (lawful_initial hheadset hglasses device a) (fun hactive => ?_) rfl trivial
    (by simp)
  rcases hactive with h | h <;> cases h

theorem run_dispatches {type : ProcessType} (hheadset : type ≠ .wakeupHeadset)
    (hglasses : type ≠ .wakeupGlasses) (device : WakeupDeviceDetail) (a : CreateAnswers)
    {es : List FacadeEvent}
    (hkeeps : Along step (fun f e _ => f.KeepsDevice e) (initial type device a) es) :
    Along step (fun f e _ => f.Dispatches e) (initial type device a) es := by
  have hstep : ∀ f e g, Dispatching f → f.KeepsDevice e → step f e = some g →
      g.Dispatching ∧ f.Dispatches e :=
    fun f e g h hk hg => ⟨step_dispatching h hk hg, h.dispatches e⟩
  exact along_of_invariant hstep (dispatching_initial hheadset hglasses device a) hkeeps

def phoneWakeup : List FacadeEvent :=
  [.proceed, .proceed, .internal .phone (.initDone (some 0)), .report .phone,
    .request (.trigger 1 defaultMacAddress ⟨true, true, true⟩), .proceed, .proceed, .report .phone,
    .proceed]

def phoneDevice : WakeupDeviceDetail :=
  { type := .phone, macAddress := defaultMacAddress, needSecondStageWakeup := true }

theorem run_dispatches_phone :
    Along step (fun f e _ => f.Dispatches e) (initial .idle phoneDevice ⟨true, true, true⟩)
      (phoneWakeup ++ [.request (.handle .stopRecognize .stopRecognize), .proceed, .proceed]) := by
  have hidle : ProcessType.idle ≠ .wakeupHeadset ∧ ProcessType.idle ≠ .wakeupGlasses := by decide
  apply run_dispatches hidle.1 hidle.2
  have hnone : ∀ {f : Facade} {e : FacadeEvent}, (∀ info a rest, f.job ≠ .create info a :: rest) →
      f.KeepsDevice e := fun hne _ info a rest hjob => absurd hjob (hne info a rest)
  -- the first step creates what belongs to the phone
  refine .of_step rfl (fun _ info a rest hjob htype => ?_) ?_
  · cases hjob
    rcases htype with h | h <;> cases h
  repeat' first
    | exact trivial
    | refine .of_step rfl (hnone fun _ _ _ hjob => by cases hjob) ?_

theorem headset_takes_stop_of_phone :
    ¬ Along step (fun f e _ => f.Dispatches e) (initial .idle phoneDevice ⟨true, true, true⟩)
      (phoneWakeup ++
        [.request (.deviceChange headsetDevice ⟨true, true, true⟩), .proceed, .proceed,
          .report .accessory, .proceed, .proceed,
          .request (.handle .stopRecognize .stopRecognize), .proceed, .proceed]) := by
  intro h
  have hlast := (h _ rfl).2
  iterate 15 replace hlast := (hlast _ rfl).2
  obtain ⟨t, hcurrent, i, hi, hreported, -⟩ := ((hlast _ rfl).1 rfl rfl).1 _ _ _ rfl
  cases hcurrent
  cases hi
  cases hreported

end Facade
end IntellVoice.Wakeup
