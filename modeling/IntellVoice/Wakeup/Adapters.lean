import IntellVoice.Library.Run
import IntellVoice.Wakeup.Impl

/-! Phone and headset get their adapter from a host manager and return it. -/

namespace IntellVoice.Wakeup
open Transition Utils

structure AdapterData where
  impl : ImplData := {}
  released : List Nat := []

structure AdapterMsg where
  msg : StateMsg
  callbackSet : Bool := true

abbrev AdapterHandler := Handler EngineState AdapterMsg AdapterData

abbrev AdapterActions := StateActions EngineState EngineEvent AdapterMsg AdapterData

namespace Adapters

def createAdapterInner (d : AdapterData) (created : Bool) : AdapterData :=
  { d with impl := d.impl.createAdapterInner created }

def releaseAdapterInner (d : AdapterData) : AdapterData :=
  { impl := d.impl.releaseAdapterInner, released := d.released ++ d.impl.adapter.toList }

def handleInit : AdapterHandler
  | ⟨.init created attached, callbackSet⟩, _, d =>
    let d := createAdapterInner d created
    if !created then ({ ret := -1 }, d)
    else
      let d := { d with impl := { d.impl with callback := callbackSet } }
      if !callbackSet then ({ ret := -1 }, d)
      else if attached then ({ nextState := some .initializing }, d)
      else ({ ret := -1 }, d)
  | _, _, d => ({ ret := -1 }, d)

def handleResetAdapter : AdapterHandler
  | ⟨.resetAdapter created attached, _⟩, _, d =>
    let d := createAdapterInner d created
    if !created then ({ ret := -1 }, d)
    else if attached then ({ nextState := some .initializing }, d)
    else ({ ret := -1 }, releaseAdapterInner d)
  | _, _, d => ({ ret := -1 }, d)

def handleRelease : AdapterHandler
  | _, _, d =>
    let d := { d with impl := d.impl.stopAudioSource }
    ({ nextState := some .idle }, if d.impl.adapter.isSome then releaseAdapterInner d else d)

def lift (handler : ImplHandler) : AdapterHandler
  | m, s, d =>
    let (o, impl) := handler m.msg s d.impl
    (o, { d with impl })

def initStates (k : ImplKind) (s : EngineState) : AdapterActions where
  cfg := (k.initStates s).cfg
  actions event := ((k.initStates s).actions event).map fun handler =>
    match event with
    | .init => handleInit
    | .resetAdapter => handleResetAdapter
    | .release | .releaseAdapter => handleRelease
    | _ => lift handler

def machine (k : ImplKind) : ModuleStates EngineState EngineEvent AdapterMsg AdapterData where
  defaultState := .idle
  states s := some (initStates k s)
  msgId m := m.msg.msgId

end Adapters

inductive Phase where
  | created
  | inUse
  | dropped
deriving DecidableEq

structure Lifetime where
  phase : Phase := .created
  state : EngineState := .idle
  data : AdapterData := {}

inductive LifetimeEvent where
  | init (created callbackSet attached : Bool)
  | handle (m : AdapterMsg)
  | destroy
  | drop

namespace Lifetime

def handle (k : ImplKind) (w : Lifetime) (m : AdapterMsg) : Int × Lifetime :=
  let (ret, state, data) := (Adapters.machine k).handleMsg w.state m w.data
  (ret, { w with state, data })

def step (k : ImplKind) (w : Lifetime) : LifetimeEvent → Option Lifetime
  | .init created callbackSet attached =>
    if w.phase = .created then
      let (ret, w) := w.handle k ⟨.init created attached, callbackSet⟩
      some { w with phase := if ret = 0 then .inUse else .dropped }
    else none
  | .handle m => if w.phase = .inUse then some (w.handle k m).2 else none
  | .destroy =>
    if w.phase = .inUse then some { (w.handle k ⟨.release, true⟩).2 with phase := .dropped }
    else none
  | .drop => if w.phase = .inUse ∧ k = .phone then some { w with phase := .dropped } else none

end Lifetime

def AdapterMsg.Clean (m : AdapterMsg) (s : EngineState) : Prop :=
  ∀ attached, s = .idle → m.msg = .init true attached → m.callbackSet ∧ attached

namespace Adapters

inductive Reaction :
    EngineState → AdapterData → AdapterMsg → EngineState → AdapterData → Prop
  | other {s d m st d'} (hclean : m.Clean s) (hst : st = .idle ↔ s = .idle)
      (hadapter : d'.impl.adapter = d.impl.adapter) (hadapters : d'.impl.adapters = d.impl.adapters)
      (hreleased : d'.released = d.released) : Reaction s d m st d'
  | none {d m d'} (hclean : m.Clean .idle) (hadapter : d'.impl.adapter = none)
      (hadapters : d'.impl.adapters = d.impl.adapters) (hreleased : d'.released = d.released) :
      Reaction .idle d m .idle d'
  | obtained {d m d'} (hclean : m.Clean .idle) (hadapter : d'.impl.adapter = some d.impl.adapters)
      (hadapters : d'.impl.adapters = d.impl.adapters + 1) (hreleased : d'.released = d.released) :
      Reaction .idle d m .initializing d'
  | leaked {d m d'} (hclean : ¬ m.Clean .idle)
      (hadapter : d'.impl.adapter = some d.impl.adapters) : Reaction .idle d m .idle d'
  | returned {d m d'} (hclean : m.Clean .idle) (hadapter : d'.impl.adapter = none)
      (hadapters : d'.impl.adapters = d.impl.adapters + 1)
      (hreleased : d'.released = d.released ++ [d.impl.adapters]) : Reaction .idle d m .idle d'
  | released {s d m d'} (hclean : m.Clean s) (hadapter : d'.impl.adapter = none)
      (hadapters : d'.impl.adapters = d.impl.adapters)
      (hreleased : d'.released = d.released ++ d.impl.adapter.toList) : Reaction s d m .idle d'

variable {k : ImplKind} {s : EngineState} {d : AdapterData} {m : AdapterMsg}

def erase (r : Outcome EngineState × AdapterData) : Outcome EngineState × ImplData :=
  (r.1, r.2.impl)

lemma handle_impl (hk : k = .phone ∨ k = .headset) (s : EngineState) (msg : StateMsg)
    (d : AdapterData) : erase ((machine k).handle s ⟨msg, true⟩ d) =
      k.machine.handle s msg d.impl := by
  cases msg with
  | init created attached | resetAdapter created attached =>
    rcases hk with rfl | rfl <;> cases s <;> cases created <;> cases attached <;> rfl
  | release | releaseAdapter =>
    obtain ⟨⟨adapter⟩, released⟩ := d
    rcases hk with rfl | rfl <;> cases s <;> cases adapter <;> rfl
  -- the other handlers are lifted
  | _ => rcases hk with rfl | rfl <;> cases s <;> rfl

lemma reaction_init (k : ImplKind) (d : AdapterData) (created attached callbackSet : Bool) :
    let m : AdapterMsg := ⟨.init created attached, callbackSet⟩
    Reaction .idle d m ((machine k).handleMsg .idle m d).2.1
      ((machine k).handleMsg .idle m d).2.2 := by
  intro m
  have hhandle : (machine k).handle .idle m d = handleInit m .idle d := by
    cases k <;> rfl
  simp only [ModuleStates.handleMsg, hhandle]
  cases created with
  | false =>
    refine .none ?_ rfl rfl rfl
    intro _ _ hmsg
    cases hmsg
  | true =>
    by_cases hgood : callbackSet ∧ attached
    · obtain ⟨rfl, rfl⟩ := hgood
      refine .obtained ?_ rfl rfl rfl
      intro _ _ hmsg
      cases hmsg
      exact ⟨rfl, rfl⟩
    have hleaked : ¬ m.Clean .idle := fun hclean => hgood (hclean attached rfl rfl)
    cases callbackSet with
    | false => exact .leaked hleaked rfl
    | true =>
      cases attached with
      | false => exact .leaked hleaked rfl
      | true => exact absurd ⟨rfl, rfl⟩ hgood

lemma reaction_resetAdapter (k : ImplKind) (d : AdapterData) (created attached callbackSet : Bool) :
    let m : AdapterMsg := ⟨.resetAdapter created attached, callbackSet⟩
    Reaction .idle d m ((machine k).handleMsg .idle m d).2.1
      ((machine k).handleMsg .idle m d).2.2 := by
  intro m
  have hhandle : (machine k).handle .idle m d = handleResetAdapter m .idle d := by
    cases k <;> rfl
  have hclean : m.Clean .idle := by
    intro _ _ hmsg
    cases hmsg
  simp only [ModuleStates.handleMsg, hhandle]
  cases created with
  | false => exact .none hclean rfl rfl rfl
  | true =>
    cases attached with
    | false => exact .returned hclean rfl rfl rfl
    | true => exact .obtained hclean rfl rfl rfl

lemma reaction_of_none (hactions : (initStates k s).actions m.msg.msgId = none)
    (hclean : m.Clean s) :
    Reaction s d m ((machine k).handleMsg s m d).2.1 ((machine k).handleMsg s m d).2.2 := by
  simp only [ModuleStates.handleMsg, (machine k).handle_of_none rfl hactions d]
  exact .other hclean Iff.rfl rfl rfl rfl

lemma reaction_of_release (hactions : (initStates k s).actions m.msg.msgId = some handleRelease)
    (hclean : m.Clean s) (hs : s ≠ .idle) :
    Reaction s d m ((machine k).handleMsg s m d).2.1 ((machine k).handleMsg s m d).2.2 := by
  have hgoes : (machine k).next s { nextState := some .idle } = some .idle := by
    simp [ModuleStates.next, machine, hs]
  simp only [ModuleStates.handleMsg, (machine k).handle_of_actions rfl hactions d,
    handleRelease, hgoes,
    Option.getD_some]
  cases hadapter : d.impl.adapter with
  | none =>
    refine .released hclean ?_ ?_ ?_ <;> simp [ImplData.stopAudioSource, hadapter]
  | some n =>
    refine .released hclean ?_ ?_ ?_ <;>
      simp [ImplData.stopAudioSource, hadapter, releaseAdapterInner, ImplData.releaseAdapterInner]

structure Untouched (s : EngineState) (d : ImplData)
    (r : Outcome EngineState × ImplData) : Prop where
  next : ∀ st, r.1.nextState = some st → st ≠ .idle ∧ s ≠ .idle
  adapter : r.2.adapter = d.adapter
  adapters : r.2.adapters = d.adapters

lemma untouched_stay {d : ImplData} {r : Outcome EngineState × ImplData}
    (hnext : r.1.nextState = none) (hadapter : r.2.adapter = d.adapter)
    (hadapters : r.2.adapters = d.adapters) : Untouched s d r where
  next st hst := by
    rw [hnext] at hst
    cases hst
  adapter := hadapter
  adapters := hadapters

lemma untouched_goto {d d' : ImplData} {st : EngineState} (hst : st ≠ .idle) (hs : s ≠ .idle)
    (hadapter : d'.adapter = d.adapter) (hadapters : d'.adapters = d.adapters) :
    Untouched s d (goto st d') where
  next st' h := by
    cases h
    exact ⟨hst, hs⟩
  adapter := hadapter
  adapters := hadapters

lemma reaction_of_lift {f : ImplHandler}
    (hactions : (initStates k s).actions m.msg.msgId = some (lift f)) (hclean : m.Clean s)
    (hf : Untouched s d.impl (f m.msg s d.impl)) :
    Reaction s d m ((machine k).handleMsg s m d).2.1 ((machine k).handleMsg s m d).2.2 := by
  have hhandle : (machine k).handle s m d = lift f m s d :=
    (machine k).handle_of_actions rfl hactions d
  have hstate := (machine k).handleMsg_state s m d
  rw [hhandle] at hstate
  have hdata : ((machine k).handleMsg s m d).2.2 = (lift f m s d).2 := by
    simp only [ModuleStates.handleMsg, hhandle]
  rw [hdata]
  refine .other hclean ?_ hf.adapter hf.adapters rfl
  rcases hstate with hsame | hasked
  · rw [hsame]
  · obtain ⟨hst, hs⟩ := hf.next _ hasked
    exact ⟨fun h => absurd h hst, fun h => absurd h hs⟩

lemma untouched_handleStart (d : ImplData) (uuid : Option Int)
    (started stopCallback sourceStarted : Bool) :
    let m : StateMsg := .startRecognize uuid started stopCallback sourceStarted
    Untouched .initialized d (Phone.handleStart m .initialized d) ∧
      Untouched .initialized d (Headset.handleStart m .initialized d) := by
  constructor
  · cases uuid with
    | none => exact untouched_stay rfl rfl rfl
    | some uuid =>
      simp only [Phone.handleStart]
      repeat' split
      all_goals first
        | exact untouched_stay rfl rfl rfl
        | exact untouched_goto (by decide) (by decide) rfl rfl
  · simp only [Headset.handleStart]
    repeat' split
    all_goals first
      | exact untouched_stay rfl rfl rfl
      | exact untouched_goto (by decide) (by decide) rfl rfl

lemma untouched_handleInitDone (d : ImplData) (result : Option Int) :
    Untouched .initializing d (Shared.handleInitDone (.initDone result) .initializing d) := by
  cases result with
  | none => exact untouched_stay rfl rfl rfl
  | some result =>
    simp only [Shared.handleInitDone]
    split
    · exact untouched_stay rfl rfl rfl
    · exact untouched_goto (by decide) (by decide) rfl rfl

lemma untouched_handleRecognizeComplete (d : ImplData) (event : Option CallBackEvent) :
    Untouched .recognizing d
      (Shared.handleRecognizeComplete (.recognizeComplete event) .recognizing d) := by
  cases event with
  | none => exact untouched_stay rfl rfl rfl
  | some event =>
    simp only [Shared.handleRecognizeComplete]
    split <;> exact untouched_goto (by decide) (by decide) rfl rfl

lemma untouched_handleStartCapturer (d : ImplData) (permission : Int) (channels : Option Int)
    (recorded : Bool) :
    let m : StateMsg := .startCapturer permission channels recorded
    Untouched .recognized d (Phone.handleStartCapturer m .recognized d) ∧
      Untouched .recognized d (Shared.handleStartCapturer m .recognized d) := by
  constructor
  · simp only [Phone.handleStartCapturer]
    repeat' split
    all_goals first
      | exact untouched_stay rfl rfl rfl
      | exact untouched_goto (by decide) (by decide) rfl rfl
  · cases channels with
    | none => exact untouched_stay rfl rfl rfl
    | some channels => exact untouched_goto (by decide) (by decide) rfl rfl

lemma untouched_handleRead (d : ImplData) (ret : Option Int) :
    Untouched .readCapturer d (Shared.handleRead (.read ret) .readCapturer d) := by
  cases ret with
  | none => exact untouched_stay rfl rfl rfl
  | some ret =>
    simp only [Shared.handleRead]
    split <;> exact untouched_stay rfl rfl rfl

lemma reaction (hk : k = .phone ∨ k = .headset) (s : EngineState) (d : AdapterData)
    (m : AdapterMsg) :
    Reaction s d m ((machine k).handleMsg s m d).2.1 ((machine k).handleMsg s m d).2.2 := by
  obtain ⟨msg, callbackSet⟩ := m
  have hclean (hne : msg.msgId ≠ .init) : (⟨msg, callbackSet⟩ : AdapterMsg).Clean s := by
    intro attached _ hmsg
    exact absurd (congrArg StateMsg.msgId hmsg) hne
  cases msg with
  | init created attached =>
    cases s with
    | idle => exact reaction_init k d created attached callbackSet
    | _ => rcases hk with rfl | rfl <;> exact reaction_of_none rfl fun _ h => by cases h
  | resetAdapter created attached =>
    cases s with
    | idle => exact reaction_resetAdapter k d created attached callbackSet
    | _ => rcases hk with rfl | rfl <;> exact reaction_of_none rfl (hclean fun h => by cases h)
  | release | releaseAdapter =>
    cases s with
    | idle => rcases hk with rfl | rfl <;> exact reaction_of_none rfl (hclean fun h => by cases h)
    | _ =>
      rcases hk with rfl | rfl <;>
        exact reaction_of_release rfl (hclean fun h => by cases h) fun h => by cases h
  | setListener msg =>
    refine reaction_of_lift (f := Shared.handleSetListener) (by cases k <;> cases s <;> rfl)
      (hclean fun h => by cases h) ?_
    cases msg <;> exact untouched_stay rfl rfl rfl
  | initDone result =>
    cases s with
    | initializing =>
      rcases hk with rfl | rfl <;>
        exact reaction_of_lift rfl (hclean fun h => by cases h) (untouched_handleInitDone ..)
    | _ => rcases hk with rfl | rfl <;> exact reaction_of_none rfl (hclean fun h => by cases h)
  | startRecognize uuid started stopCallback sourceStarted =>
    cases s with
    | initialized =>
      rcases hk with rfl | rfl
      · exact reaction_of_lift rfl (hclean fun h => by cases h) (untouched_handleStart ..).1
      · exact reaction_of_lift rfl (hclean fun h => by cases h) (untouched_handleStart ..).2
    | _ => rcases hk with rfl | rfl <;> exact reaction_of_none rfl (hclean fun h => by cases h)
  | recognizeComplete event =>
    cases s with
    | recognizing =>
      rcases hk with rfl | rfl <;>
        exact reaction_of_lift rfl
          (hclean fun h => by cases h) (untouched_handleRecognizeComplete ..)
    | _ => rcases hk with rfl | rfl <;> exact reaction_of_none rfl (hclean fun h => by cases h)
  | startCapturer permission channels recorded =>
    cases s with
    | recognized =>
      rcases hk with rfl | rfl
      · exact reaction_of_lift rfl (hclean fun h => by cases h) (untouched_handleStartCapturer ..).1
      · exact reaction_of_lift rfl (hclean fun h => by cases h) (untouched_handleStartCapturer ..).2
    | _ => rcases hk with rfl | rfl <;> exact reaction_of_none rfl (hclean fun h => by cases h)
  | read ret =>
    cases s with
    | readCapturer =>
      rcases hk with rfl | rfl <;>
        exact reaction_of_lift rfl (hclean fun h => by cases h) (untouched_handleRead ..)
    | _ => rcases hk with rfl | rfl <;> exact reaction_of_none rfl (hclean fun h => by cases h)
  | stopRecognize | recognizingTimeout | stopCapturer | readCapturerTimeout
  | recognizeCompleteTimeout | setParam | getParam | getWakeupPcm | none =>
    rcases hk with rfl | rfl <;> cases s <;> first
      | exact reaction_of_none rfl (hclean fun h => by cases h)
      | exact reaction_of_lift rfl (hclean fun h => by cases h) (untouched_stay rfl rfl rfl)
      | exact reaction_of_lift rfl (hclean fun h => by cases h)
          (untouched_goto (by decide) (by decide) rfl rfl)

end Adapters

def LifetimeEvent.Clean (w : Lifetime) : LifetimeEvent → Prop
  | .init created callbackSet attached => created → callbackSet ∧ attached
  | .handle m => m.Clean w.state
  | .destroy => True
  | .drop => w.state = .idle

namespace Lifetime
variable {k : ImplKind} {w : Lifetime}

structure Managed (w : Lifetime) : Prop where
  held : w.data.impl.adapter.isSome ↔ w.state ≠ .idle
  once : ∀ n, w.data.released.count n =
    if n < w.data.impl.adapters ∧ w.data.impl.adapter ≠ some n then 1 else 0
  known : ∀ n, w.data.impl.adapter = some n → n < w.data.impl.adapters
  dropped : w.phase = .dropped → w.data.impl.adapter = none

def Ordered (w v : Lifetime) : Prop :=
  v.data.impl.adapters ≠ w.data.impl.adapters → w.data.impl.adapter = none

lemma Managed.adapter_eq_none (h : w.Managed) (hs : w.state = .idle) :
    w.data.impl.adapter = none := by
  by_contra hsome
  exact h.held.1 (Option.isSome_iff_ne_none.2 hsome) hs

lemma Managed.handle (h : w.Managed) (hphase : w.phase ≠ .dropped)
    (hk : k = .phone ∨ k = .headset) (m : AdapterMsg) :
    m.Clean w.state ∧ (w.handle k m).2.Managed ∧ w.Ordered (w.handle k m).2 ∨
      ¬ m.Clean w.state ∧ (w.handle k m).2.state = .idle ∧
        (w.handle k m).2.data.impl.adapter ≠ none := by
  have hreaction := Adapters.reaction hk w.state w.data m
  obtain ⟨phase, s, d⟩ := w
  change Adapters.Reaction s d m _ _ at hreaction
  unfold Ordered
  simp only [Lifetime.handle] at hphase ⊢
  generalize ((Adapters.machine k).handleMsg s m d).2.1 = st at hreaction ⊢
  generalize ((Adapters.machine k).handleMsg s m d).2.2 = d' at hreaction ⊢
  have hdropped : phase = .dropped → d'.impl.adapter = none := fun hp => absurd hp hphase
  cases hreaction with
  | other hclean hst hadapter hadapters hreleased =>
    refine .inl ⟨hclean, ⟨?_, ?_, ?_, hdropped⟩, fun hne => absurd hadapters hne⟩
    · rw [hadapter, ne_eq, hst]
      exact h.held
    · intro n
      rw [hreleased, hadapter, hadapters]
      exact h.once n
    · rw [hadapter, hadapters]
      exact h.known
  | none hclean hadapter hadapters hreleased =>
    have hnone : d.impl.adapter = none := h.adapter_eq_none rfl
    refine .inl ⟨hclean, ⟨?_, ?_, ?_, hdropped⟩, fun _ => hnone⟩
    · simp [hadapter]
    · intro n
      have hbefore := h.once n
      rw [hnone] at hbefore
      rw [hreleased, hadapter, hadapters]
      exact hbefore
    · simp [hadapter]
  | obtained hclean hadapter hadapters hreleased =>
    have hnone : d.impl.adapter = none := h.adapter_eq_none rfl
    refine .inl ⟨hclean, ⟨?_, ?_, ?_, hdropped⟩, fun _ => hnone⟩
    · simp [hadapter]
    · -- the new adapter is the only one that was not released
      intro n
      have hbefore := h.once n
      simp only [hnone, ne_eq, reduceCtorEq, not_false_eq_true, and_true] at hbefore
      simp only [hreleased, hadapter, hadapters, hbefore, Option.some.injEq, ne_eq]
      split <;> split <;> omega
    · intro n hn
      rw [hadapter] at hn
      cases hn
      rw [hadapters]
      exact Nat.lt_succ_self _
  | leaked hclean hadapter => exact .inr ⟨hclean, rfl, by simp [hadapter]⟩
  | returned hclean hadapter hadapters hreleased =>
    have hnone : d.impl.adapter = none := h.adapter_eq_none rfl
    refine .inl ⟨hclean, ⟨?_, ?_, ?_, hdropped⟩, fun _ => hnone⟩
    · simp [hadapter]
    · intro n
      have hbefore := h.once n
      simp only [hnone, ne_eq, reduceCtorEq, not_false_eq_true, and_true] at hbefore
      simp only [hreleased, hadapter, hadapters, List.count_append, hbefore, List.count_singleton,
        beq_iff_eq, ne_eq, reduceCtorEq, not_false_eq_true, and_true]
      split <;> split <;> split <;> omega
    · simp [hadapter]
  | released hclean hadapter hadapters hreleased =>
    refine .inl ⟨hclean, ⟨?_, ?_, ?_, hdropped⟩, fun hne => absurd hadapters hne⟩
    · simp [hadapter]
    · intro n
      have hbefore := h.once n
      cases hheld : d.impl.adapter with
      | none =>
        rw [hheld] at hbefore
        rw [hreleased, hadapter, hadapters, hheld, Option.toList_none, List.append_nil]
        exact hbefore
      | some a =>
        have hknown : a < d.impl.adapters := h.known a hheld
        simp only [hheld, Option.some.injEq, ne_eq] at hbefore
        simp only [hreleased, hadapter, hadapters, hheld, Option.toList_some, List.count_append,
          hbefore, List.count_singleton, beq_iff_eq, ne_eq, reduceCtorEq, not_false_eq_true,
          and_true]
        split <;> split <;> split <;> omega
    · simp [hadapter]

lemma handle_release_state (hk : k = .phone ∨ k = .headset) :
    (w.handle k ⟨.release, true⟩).2.state = .idle := by
  obtain ⟨phase, s, d⟩ := w
  rcases hk with rfl | rfl <;> cases s <;> rfl

def Fresh (w : Lifetime) : Prop := w.phase = .created → w.state = .idle

lemma Managed.init (h : w.Managed) (hfresh : w.Fresh) (hk : k = .phone ∨ k = .headset)
    (hphase : w.phase = .created) (created callbackSet attached : Bool) :
    let r := w.handle k ⟨.init created attached, callbackSet⟩
    let v : Lifetime := { r.2 with phase := if r.1 = 0 then .inUse else .dropped }
    v.Managed ∧ w.Ordered v ↔ (created → callbackSet ∧ attached) := by
  intro r v
  have hidle := hfresh hphase
  have hiff : AdapterMsg.Clean ⟨.init created attached, callbackSet⟩ w.state ↔
      (created → callbackSet ∧ attached) := by
    constructor
    · intro hclean hcreated
      subst hcreated
      exact hclean attached hidle rfl
    · intro hclean attached' _ hmsg
      cases hmsg
      exact hclean rfl
  rw [← hiff]
  rcases h.handle (by rw [hphase]; decide) hk ⟨.init created attached, callbackSet⟩ with
    ⟨hclean, hnext, hordered⟩ | ⟨hleaks, hstate, hadapter⟩
  · refine ⟨fun _ => hclean, fun _ => ⟨⟨hnext.held, hnext.once, hnext.known, fun hdropped => ?_⟩,
      hordered⟩⟩
    -- a failed `INIT` leaves the implementation in `IDLE`
    have hret : r.1 ≠ 0 := fun hret => by simp [v, hret] at hdropped
    have hsame : r.2.state = w.state := (Adapters.machine k).handleMsg_state_of_ret hret
    exact hnext.adapter_eq_none (hsame.trans hidle)
  · refine ⟨fun hmanaged => ?_, fun hclean => absurd hclean hleaks⟩
    exact absurd (hmanaged.1.adapter_eq_none hstate) hadapter

def Owes (w : Lifetime) (e : LifetimeEvent) (v : Lifetime) : Prop :=
  (v.Managed ∧ w.Ordered v ↔ e.Clean w) ∧ (e.Clean w → v.Managed ∧ v.Fresh)

lemma Managed.init_owes (h : w.Managed) (hfresh : w.Fresh) (hk : k = .phone ∨ k = .headset)
    (hphase : w.phase = .created) (created callbackSet attached : Bool) :
    let r := w.handle k ⟨.init created attached, callbackSet⟩
    w.Owes (.init created callbackSet attached)
      { r.2 with phase := if r.1 = 0 then .inUse else .dropped } := by
  intro r
  have hiff := h.init hfresh hk hphase created callbackSet attached
  refine ⟨hiff, fun hclean => ⟨(hiff.2 hclean).1, fun hcreated => ?_⟩⟩
  have hphase' : ∀ ret : Int, (if ret = 0 then Phase.inUse else .dropped) ≠ .created := by
    intro ret
    split <;> decide
  exact absurd hcreated (hphase' _)

lemma Managed.handle_owes (h : w.Managed) (hk : k = .phone ∨ k = .headset)
    (hphase : w.phase = .inUse) (m : AdapterMsg) : w.Owes (.handle m) (w.handle k m).2 := by
  have hlive : w.phase ≠ .dropped := by rw [hphase]; decide
  rcases h.handle hlive hk m with ⟨hclean, hnext, hordered⟩ | ⟨hleaks, hstate, hadapter⟩
  · refine ⟨⟨fun _ => hclean, fun _ => ⟨hnext, hordered⟩⟩, fun _ => ⟨hnext, fun hcreated => ?_⟩⟩
    have hphase' : (w.handle k m).2.phase = .inUse := hphase
    rw [hphase'] at hcreated
    cases hcreated
  · refine ⟨⟨fun hmanaged => ?_, fun hclean => absurd hclean hleaks⟩,
      fun hclean => absurd hclean hleaks⟩
    exact absurd (hmanaged.1.adapter_eq_none hstate) hadapter

lemma Managed.destroy_owes (h : w.Managed) (hk : k = .phone ∨ k = .headset)
    (hphase : w.phase = .inUse) :
    w.Owes .destroy { (w.handle k ⟨.release, true⟩).2 with phase := .dropped } := by
  have hlive : w.phase ≠ .dropped := by rw [hphase]; decide
  rcases h.handle hlive hk ⟨.release, true⟩ with ⟨hclean, hnext, hordered⟩ | ⟨hleaks, -, -⟩
  · have hnone := hnext.adapter_eq_none (handle_release_state hk)
    have hmanaged : Managed { (w.handle k ⟨.release, true⟩).2 with phase := .dropped } :=
      ⟨hnext.held, hnext.once, hnext.known, fun _ => hnone⟩
    exact ⟨⟨fun _ => trivial, fun _ => ⟨hmanaged, hordered⟩⟩,
      fun _ => ⟨hmanaged, fun hcreated => (by cases hcreated)⟩⟩
  · exact absurd (fun _ _ hmsg => (by cases hmsg)) hleaks

lemma Managed.drop_owes (h : w.Managed) : w.Owes .drop { w with phase := .dropped } := by
  have hmanaged (hs : w.state = .idle) : Managed { w with phase := .dropped } :=
    ⟨h.held, h.once, h.known, fun _ => h.adapter_eq_none hs⟩
  refine ⟨⟨fun hnext => ?_, fun hs => ⟨hmanaged hs, fun hne => absurd rfl hne⟩⟩,
    fun hs => ⟨hmanaged hs, fun hcreated => (by cases hcreated)⟩⟩
  by_contra hs
  have hsome := h.held.2 hs
  rw [hnext.1.dropped rfl] at hsome
  cases hsome

lemma Managed.step {e : LifetimeEvent} {v : Lifetime} (h : w.Managed) (hfresh : w.Fresh)
    (hk : k = .phone ∨ k = .headset) (hstep : step k w e = some v) : w.Owes e v := by
  cases e with
  | init created callbackSet attached =>
    obtain ⟨hphase, ⟨⟩⟩ := Option.ite_none_right_eq_some.1 hstep
    exact h.init_owes hfresh hk hphase created callbackSet attached
  | handle m =>
    obtain ⟨hphase, ⟨⟩⟩ := Option.ite_none_right_eq_some.1 hstep
    exact h.handle_owes hk hphase m
  | destroy =>
    obtain ⟨hphase, ⟨⟩⟩ := Option.ite_none_right_eq_some.1 hstep
    exact h.destroy_owes hk hphase
  | drop =>
    obtain ⟨-, ⟨⟩⟩ := Option.ite_none_right_eq_some.1 hstep
    exact h.drop_owes

lemma Managed.initial : Managed {} where
  held := by decide
  once n := by simp
  known n hn := by cases hn
  dropped hdropped := by cases hdropped

theorem run_managed_iff (k : ImplKind) (hk : k = .phone ∨ k = .headset) (es : List LifetimeEvent) :
    Along (step k) (fun w _ v => v.Managed ∧ w.Ordered v) {} es ↔
      Along (step k) (fun w e _ => e.Clean w) {} es := by
  have hstep : ∀ w e v, (Managed w ∧ Fresh w) → True → step k w e = some v → w.Owes e v :=
    fun _ _ _ h _ hst => h.1.step h.2 hk hst
  exact along_iff (P := fun _ => True) hstep ⟨.initial, fun _ => rfl⟩ fun _ _ => trivial

theorem run_managed_phone :
    Along (step .phone) (fun w _ v => v.Managed ∧ w.Ordered v) {} [.init true true true,
      .handle ⟨.initDone (some 0), true⟩, .handle ⟨.releaseAdapter, true⟩,
      .handle ⟨.resetAdapter true true, true⟩, .destroy] := by
  apply (run_managed_iff .phone (.inl rfl) _).2
  refine .of_step rfl (fun _ => ⟨rfl, rfl⟩) ?_
  refine .of_step rfl (fun _ _ hmsg => (by cases hmsg)) ?_
  refine .of_step rfl (fun _ _ hmsg => (by cases hmsg)) ?_
  refine .of_step rfl (fun _ _ hmsg => (by cases hmsg)) ?_
  exact .of_step rfl trivial (along_nil _)

theorem init_failure_leaks_adapter :
    ¬ Along (step .headset) (fun w _ v => v.Managed ∧ w.Ordered v) {} [.init true true false] := by
  intro h
  have hmanaged := (h _ rfl).1.1
  cases hmanaged.dropped rfl

end Lifetime
end IntellVoice.Wakeup
