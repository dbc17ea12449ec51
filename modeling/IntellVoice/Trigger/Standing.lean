import IntellVoice.Trigger.Frame

/-! What every primitive operation keeps is kept by every step of a run. -/

namespace IntellVoice.Trigger
open Transition Helper
variable {M : Type*} {p : Platform} {mod : ConnectorModule M}

structure DemandInvariant (mod : ConnectorModule M) (J : Cell M → Prop) : Prop extends
    OperationInvariant mod J where
  setModel : ∀ c model, J c → J { c with data := c.data.setModel model }
  setCallback : ∀ c callback, J c → J { c with data := c.data.setCallback callback }
  setRequested : ∀ c requested, J c → J { c with data := c.data.setRequested requested }
  clearCallback : ∀ c, J c → J { c with data := c.data.clearCallback }
  clear : ∀ c, J c → J { c with data := c.data.clear }

namespace DemandInvariant
variable {J : Cell M → Prop} {c : Cell M}

lemma acceptRequest (hJ : DemandInvariant mod J) (model : GenericTriggerModel)
    (callback : Option Callback) (hc : J c) : J (acceptRequest mod model callback c).2 := by
  have hinit : J (initRecognition mod (!c.data.sameModel model) c).2 := by
    simp only [initRecognition]
    split
    · exact hc
    split
    · exact hJ.clear _ (hJ.unload _ (hJ.stop c hc))
    · exact hJ.stop c hc
  simp only [Helper.acceptRequest]
  split
  · exact hinit
  · exact hJ.setRequested _ true (hJ.setCallback _ callback (hJ.setModel _ model hinit))

lemma prepareAndStart (hJ : DemandInvariant mod J) (ctx : StartContext) (hc : J c) :
    J (prepareAndStart mod ctx c).2 := by
  have hprep := hJ.prepareForRecognition hc
  simp only [Helper.prepareAndStart]
  split
  · exact hprep
  · exact hJ.startRecognition _ ctx hprep

lemma stopRequested (hJ : DemandInvariant mod J) (hc : J c) : J (stopRequested mod c).2 := by
  have hstop := hJ.stop _ (hJ.setRequested c false hc)
  simp only [Helper.stopRequested]
  split
  · exact hstop
  · exact hJ.clearCallback _ hstop

lemma stopAndUnload (hJ : DemandInvariant mod J) (hc : J c) :
    J (stopAndUnload mod c).2 := hJ.unload _ (hJ.stop c hc)

end DemandInvariant

structure RequestInvariant (mod : ConnectorModule M) (J : Cell M → Prop) : Prop extends
    CellInvariant mod J where
  setCallback : ∀ c callback, J c → J { c with data := c.data.setCallback callback }
  setRequested : ∀ c requested, J c → J { c with data := c.data.setRequested requested }
  clearCallback : ∀ c, J c → J { c with data := c.data.clearCallback }
  clear : ∀ c, J c → J { c with data := c.data.clear }

lemma RequestInvariant.demand {J : Cell M → Prop} (hJ : RequestInvariant mod J) :
    DemandInvariant mod J :=
  { hJ.toCellInvariant.operation with
    setModel := hJ.setModel
    setCallback := hJ.setCallback
    setRequested := hJ.setRequested
    clearCallback := hJ.clearCallback
    clear := hJ.clear }

lemma RequestInvariant.and {J J' : Cell M → Prop} (hJ : RequestInvariant mod J)
    (hJ' : RequestInvariant mod J') :
    RequestInvariant mod fun c => J c ∧ J' c where
  getModule c hc := ⟨hJ.getModule c hc.1, hJ'.getModule c hc.2⟩
  setParams c key value hc := ⟨hJ.setParams c key value hc.1, hJ'.setParams c key value hc.2⟩
  emit c e he hc := ⟨hJ.emit c e he hc.1, hJ'.emit c e he hc.2⟩
  setModel c model hc := ⟨hJ.setModel c model hc.1, hJ'.setModel c model hc.2⟩
  load c hc := ⟨hJ.load c hc.1, hJ'.load c hc.2⟩
  unload c hc := ⟨hJ.unload c hc.1, hJ'.unload c hc.2⟩
  stop c hc := ⟨hJ.stop c hc.1, hJ'.stop c hc.2⟩
  start c hs hc := ⟨hJ.start c hs hc.1, hJ'.start c hs hc.2⟩
  setCallback c callback hc := ⟨hJ.setCallback c callback hc.1, hJ'.setCallback c callback hc.2⟩
  setRequested c b hc := ⟨hJ.setRequested c b hc.1, hJ'.setRequested c b hc.2⟩
  clearCallback c hc := ⟨hJ.clearCallback c hc.1, hJ'.clearCallback c hc.2⟩
  clear c hc := ⟨hJ.clear c hc.1, hJ'.clear c hc.2⟩

structure StandingInvariant (mod : ConnectorModule M) (K : Io M → Prop)
    (J : TriggerModelData → Io M → Prop) : Prop where
  request : RequestInvariant mod fun c => K c.io ∧ J c.data c.io
  other : ∀ d io io', (io.moduleReady → io'.moduleReady) → J d io → J d io'
  fresh : ∀ uuid io, J { uuid := uuid } io
  recognized : ∀ d io, io.moduleReady → J d io → J (d.setState .loaded) io
  emit : ∀ io e, K io → K (io.emit e)

namespace StandingInvariant
variable {K : Io M → Prop} {J : TriggerModelData → Io M → Prop}

def Holds (K : Io M → Prop) (J : TriggerModelData → Io M → Prop) (h : Helper M) : Prop :=
  K h.io ∧ ∀ k d, h.find k = some d → J d h.io

section
variable (hS : StandingInvariant mod K J)
include hS

variable {h : Helper M}

lemma onCell {β : Type*} (hh : Holds K J h) (uuid : Int) (absent : β) {f : Cell M → β × Cell M}
    (hready : ∀ c : Cell M, c.io.moduleReady → (f c).2.io.moduleReady)
    (hf : ∀ c : Cell M, K c.io ∧ J c.data c.io → K (f c).2.io ∧ J (f c).2.data (f c).2.io) :
    Holds K J (h.onCell uuid absent f).2 := by
  cases hd : h.find uuid with
  | none =>
    rw [onCell_none hd]
    exact hh
  | some d =>
    obtain ⟨hK, hJ⟩ := hf ⟨d, h.io⟩ ⟨hh.1, hh.2 uuid d hd⟩
    refine ⟨by rw [io_onCell hd]; exact hK, fun k d' hd' => ?_⟩
    rw [io_onCell hd]
    by_cases hk : k = uuid
    · subst hk
      rw [find_onCell_self hd] at hd'
      exact Option.some.inj hd' ▸ hJ
    · rw [find_onCell_ne hk] at hd'
      exact hS.other d' h.io _ (hready ⟨d, h.io⟩) (hh.2 k d' hd')

lemma reactionInvariant : ReactionInvariant mod (Holds K J) where
  env h env hh := hh
  param h key value hh := by
    refine ⟨(hS.request.setParams ⟨{ uuid := 0 }, h.io⟩ key value ⟨hh.1, hS.fresh _ _⟩).1, ?_⟩
    exact fun k d hd => hS.other d h.io _
      (h.io.ready_setParameterForInputPipe mod key value) (hh.2 k d hd)
  cell h uuid f hf hh := hS.onCell hh uuid true (fun c => (hf.acts c).io.ready)
    fun _ hc => hf.cellInvariant hS.request.toCellInvariant hc

lemma startGenericRecognition (hh : Holds K J h) (uuid : Int) (model : GenericTriggerModel)
    (callback : Option Callback) :
    Holds K J (h.startGenericRecognition p mod uuid model callback).2 := by
  have hcreate : Holds K J (h.createTriggerModelData uuid) := by
    refine ⟨hh.1, fun k d hd => ?_⟩
    rcases find_createTriggerModelData hd with hold | ⟨rfl, rfl⟩
    · exact hh.2 k d hold
    · exact hS.fresh k h.io
  have haccept := hS.onCell hcreate uuid false
    (fun c => (serves_acceptRequest mod model callback c).io.ready)
    (fun _ hc => hS.request.demand.acceptRequest model callback hc)
  simp only [Helper.startGenericRecognition]
  split
  · exact haccept
  split
  · exact haccept
  · exact hS.onCell haccept uuid (-1) (fun c => (serves_prepareAndStart mod _ c).io.ready)
      (fun _ hc => hS.request.demand.prepareAndStart _ hc)

lemma unloadGenericTriggerModel (hh : Holds K J h) (uuid : Int) :
    Holds K J (h.unloadGenericTriggerModel mod uuid) := by
  unfold Helper.unloadGenericTriggerModel
  split
  · exact hh
  split
  · exact hh
  have hunload := hS.onCell hh uuid () (fun c => (serves_stopAndUnload mod c).io.ready)
    (fun _ hc => hS.request.demand.stopAndUnload hc)
  refine ⟨hunload.1, fun k d hd => hunload.2 k d ?_⟩
  have herase := OrderedMap.find?_erase (h.onCell uuid () (stopAndUnload mod)
    ).2.modelDataMap uuid k
  rw [find, herase] at hd
  split at hd
  · cases hd
  · exact hd

lemma onRecognition (hh : Holds K J h) (hready : h.io.moduleReady) (handle : Int) :
    Holds K J (h.onRecognition handle) := by
  cases hr : h.recognized handle with
  | none =>
    rw [onRecognition_none hr]
    exact hh
  | some e =>
    obtain ⟨k', d'⟩ := e
    have hio : K (reportDetection handle d' h.io) ∧
        (h.io.moduleReady → (reportDetection handle d' h.io).moduleReady) := by
      unfold reportDetection
      split
      · exact ⟨hh.1, id⟩
      · exact ⟨hS.emit _ _ hh.1, id⟩
    have hd' := (find_of_recognized hr).1
    rw [onRecognition_some hr]
    refine ⟨hio.1, fun k d hd => ?_⟩
    by_cases hk : k = k'
    · subst hk
      rw [find, OrderedMap.find?_set_self] at hd
      rw [← Option.some.inj hd]
      exact hS.other _ h.io _ hio.2 (hS.recognized d' h.io hready (hh.2 k d' hd'))
    · rw [find, OrderedMap.find?_set_ne _ _ hk] at hd
      exact hS.other d h.io _ hio.2 (hh.2 k d hd)

lemma step {w w' : World M} {e : Event} (hw : Holds K J w.helper)
    (hstep : step p mod w e = some w') :
    Holds K J w'.helper := by
  obtain ⟨uuid, model, cb, -, rfl⟩ | ⟨uuid, -, rfl⟩ | ⟨uuid, -, rfl⟩ |
    ⟨handle, -, hready, rfl⟩ | he := step_cases hstep
  · exact hS.startGenericRecognition hw uuid model cb
  · exact hS.onCell hw uuid (-1) (fun c => (serves_stopRequested mod c).io.ready)
      (fun _ hc => hS.request.demand.stopRequested hc)
  · exact hS.unloadGenericTriggerModel hw uuid
  · exact hS.onRecognition hw hready handle
  · exact step_reaction hS.reactionInvariant he hstep hw

end
end StandingInvariant

def TriggerModelData.NeedsModule (d : TriggerModelData) (io : Io M) : Prop :=
  d.state ≠ .notLoaded → io.moduleReady

lemma NeedsModule.mono {d d' : TriggerModelData} {io io' : Io M}
    (hstate : d'.state = d.state ∨ d'.state = .notLoaded)
    (hready : io.moduleReady → io'.moduleReady) (hd : d.NeedsModule io) : d'.NeedsModule io' := by
  intro hne
  rcases hstate with heq | heq
  · exact hready (hd (heq ▸ hne))
  · exact absurd heq hne

lemma needsModule_loadModel (mod : ConnectorModule M) {c : Cell M} (hc : c.data.NeedsModule c.io) :
    (loadModel mod c).2.data.NeedsModule (loadModel mod c).2.io := by
  rcases loadModel_cases mod c with heq | ⟨-, hready, ⟨-, heq⟩ | ⟨-, heq⟩⟩ <;> rw [heq]
  · exact hc
  · exact fun _ => hready
  · exact fun _ => hready

lemma needsModule_unloadModel (mod : ConnectorModule M) {c : Cell M}
    (hc : c.data.NeedsModule c.io) :
    (unloadModel mod c).2.data.NeedsModule (unloadModel mod c).2.io := by
  rcases unloadModel_cases mod c with ⟨heq, -⟩ | ⟨-, hready, heq⟩ <;> rw [heq]
  · exact hc
  · exact fun _ => hready

lemma needsModule_stopRecognition (mod : ConnectorModule M) {c : Cell M}
    (hc : c.data.NeedsModule c.io) :
    (stopRecognition mod c).2.data.NeedsModule (stopRecognition mod c).2.io := by
  rcases stopRecognition_cases mod c with ⟨heq, -⟩ | ⟨-, hready, ⟨-, heq⟩ | ⟨-, heq⟩⟩ <;> rw [heq]
  · exact hc
  · exact fun _ => hready
  · exact fun _ => hready

lemma needsModule_callStart (mod : ConnectorModule M) {c : Cell M} (hc : c.Startable) :
    (callStart mod c).2.data.NeedsModule (callStart mod c).2.io := by
  rcases callStart_cases mod c with ⟨-, heq⟩ | ⟨-, heq⟩ <;> rw [heq] <;> exact fun _ => hc.1

lemma requestInvariant_needsModule (mod : ConnectorModule M) :
    RequestInvariant mod fun c : Cell M => c.data.NeedsModule c.io where
  getModule c hc := NeedsModule.mono (.inl rfl) (Io.acts_getModule mod 0 c.io).ready hc
  setParams c key value hc :=
    NeedsModule.mono (.inl rfl) (c.io.ready_setParameterForInputPipe mod key value) hc
  emit _ _ _ hc := hc
  setModel c model hc := by
    obtain ⟨m, hm⟩ := TriggerModelData.setModel_eq c.data model
    rw [hm]
    exact hc
  load _ hc := needsModule_loadModel mod hc
  unload _ hc := needsModule_unloadModel mod hc
  stop _ hc := needsModule_stopRecognition mod hc
  start _ hc _ := needsModule_callStart mod hc
  setCallback _ callback hc := by
    cases callback <;> exact hc
  setRequested _ _ hc := hc
  clearCallback _ hc := hc
  clear _ hc := NeedsModule.mono (.inr rfl) id hc

lemma standingInvariant_needsModule {K : Io M → Prop}
    (hK : RequestInvariant mod fun c => K c.io) (hemit : ∀ io e, K io → K (io.emit e)) :
    StandingInvariant mod K TriggerModelData.NeedsModule where
  request := hK.and (requestInvariant_needsModule mod)
  other _ _ _ hready hd := NeedsModule.mono (.inl rfl) hready hd
  fresh _ _ hne := absurd rfl hne
  recognized _ _ hready _ := fun _ => hready
  emit := hemit

lemma requestInvariant_true (mod : ConnectorModule M) :
    RequestInvariant mod fun _ : Cell M => True := by
  constructor
  · constructor <;> intros <;> trivial
  all_goals intros; trivial

theorem run_models_backed (conn : M) (pipes : InputPipes) (kv : StoredLists) (es : List Event)
    {w : World M} (hrun : run (step p mod) (World.initial conn pipes kv) es = some w) {k : Int}
    {d : TriggerModelData} (hd : w.helper.find k = some d) :
    d.uuid = k ∧ (d.state ≠ .notLoaded → w.helper.io.moduleReady) := by
  have hS := standingInvariant_needsModule (K := fun _ => True) (requestInvariant_true mod)
    (fun _ _ h => h)
  refine ⟨run_keysAgree hrun k d hd,
    (run_invariant_all (fun _ _ _ hw hstep => hS.step hw hstep) ⟨trivial, ?_⟩ hrun).2 k d hd⟩
  intro k' d' hd'
  simp [World.initial, find] at hd'

theorem run_models_backed_started :
    let p := Platform.bare (.minimal false)
    let es : List Event := [.startGenericRecognition 1 (.voiceWakeup [7]) (some 0)]
    ∃ (w : World Nat) (d : TriggerModelData),
      run (step p countingModule) (World.initial 0 (some []) {}) es = some w ∧
      w.helper.find 1 = some d ∧ d.state = .started ∧ d.uuid = 1 ∧ w.helper.io.moduleReady := by
  intro p es
  have h := @run_models_backed Nat p countingModule 0 (some []) {} es _ rfl 1 _ rfl
  exact ⟨_, _, rfl, rfl, rfl, h.1, h.2 (by decide)⟩

end IntellVoice.Trigger
