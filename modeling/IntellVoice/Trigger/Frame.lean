import IntellVoice.Library.Run
import IntellVoice.Trigger.Reaction

/-! Reactions change no request or callback and report no detection. -/

namespace IntellVoice.Trigger
open Transition
variable {M : Type*} {p : Platform} {mod : ConnectorModule M}

def TriggerModelData.Quiet (d : TriggerModelData) : Prop :=
  d.state = .notLoaded ∧ d.requested = false

lemma filter_append_of_not {q : Effect → Bool} {l es : List Effect}
    (hes : ∀ e ∈ es, ¬ q e) : (l ++ es).filter q = l.filter q := by
  rw [List.filter_append, List.filter_eq_nil_iff.2 hes, List.append_nil]

variable {c c' : Cell M} {f : Cell M → Bool × Cell M} {e : Event} {h : Helper M} {handle k : Int}
  {d : TriggerModelData} {w w' : World M}

lemma ReactionOp.acts (hf : ReactionOp mod f) (c : Cell M) :
    c.Acts (f c).2 := hf.cellInvariant (cellInvariant_acts mod c) (.refl c)

lemma ReactionOp.quiet (hf : ReactionOp mod f) (hc : c.data.Quiet) : (f c).2 = c := by
  obtain ⟨hstate, hreq⟩ := hc
  cases hf with
  | update ctx conflict hibernate => simp [updateRecognitionState, hstate, hreq]
  | start ctx conflict => simp [startNeeded, hreq]
  | stop conflict => simp [stopNeeded, hreq]
  | «open» ctx => simp [Helper.startUnlessStarted, startRecognition, hstate]

structure Helper.Reacts (h h' : Helper M) : Prop where
  absent : ∀ k, h.find k = none → h'.find k = none
  data : ∀ k d, h.find k = some d → ∃ d', h'.find k = some d' ∧ d'.uuid = d.uuid ∧
    d'.requested = d.requested ∧ d'.callback = d.callback ∧ (d.Quiet → d' = d)
  ready : h.io.moduleReady → h'.io.moduleReady
  log : ∃ es, h'.io.log = h.io.log ++ es ∧ ∀ e ∈ es, ∀ u, e.detects u = false ∧
    (e.loadsOrStarts u → ∃ k d, h.find k = some d ∧ d.uuid = u ∧ ¬ d.Quiet)

namespace Helper.Reacts

lemma refl (h : Helper M) : h.Reacts h :=
  ⟨fun _ hk => hk, fun _ d hd => ⟨d, hd, rfl, rfl, rfl, fun _ => rfl⟩, id, [], by simp, by simp⟩

lemma trans {h h' h'' : Helper M} (hr : h.Reacts h') (hr' : h'.Reacts h'') : h.Reacts h'' := by
  refine ⟨fun k hk => hr'.absent k (hr.absent k hk), fun k d hd => ?_, hr'.ready ∘ hr.ready, ?_⟩
  · obtain ⟨d', hd', hu, hq, hc, hquiet⟩ := hr.data k d hd
    obtain ⟨d'', hd'', hu', hq', hc', hquiet'⟩ := hr'.data k d' hd'
    refine ⟨d'', hd'', hu'.trans hu, hq'.trans hq, hc'.trans hc, fun hd => ?_⟩
    have heq := hquiet hd
    rw [hquiet' (heq ▸ hd), heq]
  · obtain ⟨es, hlog, hes⟩ := hr.log
    obtain ⟨es', hlog', hes'⟩ := hr'.log
    refine ⟨es ++ es', by simp [hlog', hlog], fun e he u => ?_⟩
    rcases List.mem_append.1 he with he | he
    · exact hes e he u
    refine ⟨(hes' e he u).1, fun hstart => ?_⟩
    obtain ⟨k, d', hd', hu, hnq⟩ := (hes' e he u).2 hstart
    -- the model was already there, under the same name and no more quiet than now
    cases hd : h.find k with
    | none => simp [hr.absent k hd] at hd'
    | some d =>
      obtain ⟨d₁, hd₁, hu₁, -, -, hquiet⟩ := hr.data k d hd
      obtain rfl : d₁ = d' := by simpa [hd₁] using hd'
      exact ⟨k, d, hd, hu₁ ▸ hu, fun hq => hnq (hquiet hq ▸ hq)⟩

lemma setEnv (h : Helper M) (env : Env) : h.Reacts (h.setEnv env) := ⟨
  fun _ hk => hk, fun _ d hd => ⟨d, hd, rfl, rfl, rfl, fun _ => rfl⟩, id, [], by simp, by simp⟩

lemma setParameter (h : Helper M) (key value : String) :
    h.Reacts (h.setParameter mod key value) := by
  refine ⟨fun _ hk => hk, fun _ d hd => ⟨d, hd, rfl, rfl, rfl, fun _ => rfl⟩,
    h.io.ready_setParameterForInputPipe mod key value, ?_⟩
  rcases h.io.log_setParameterForInputPipe mod key value with hlog | hlog
  · exact ⟨[], by simpa [Helper.setParameter] using hlog, by simp⟩
  · exact ⟨_, hlog, by simp [Effect.detects, Effect.loadsOrStarts]⟩

lemma onCell (h : Helper M) (uuid : Int) {f : Cell M → Bool × Cell M} (hf : ReactionOp mod f) :
    h.Reacts (h.onCell uuid true f).2 := by
  cases hd : h.find uuid with
  | none =>
    rw [onCell_none hd]
    exact refl h
  | some d =>
    have hacts := hf.acts ⟨d, h.io⟩
    refine ⟨fun k hk => ?_, fun k d₁ hd₁ => ?_, ?_, ?_⟩
    · have hne : k ≠ uuid := fun heq => by simp [heq, hd] at hk
      rw [find_onCell_ne hne, hk]
    · by_cases hk : k = uuid
      · subst hk
        obtain rfl : d = d₁ := by simpa [hd] using hd₁
        refine ⟨_, find_onCell_self hd true f, hacts.uuid, hacts.requested, hacts.callback,
          fun hq => ?_⟩
        rw [hf.quiet (c := ⟨d, h.io⟩) hq]
      · exact ⟨d₁, by rw [find_onCell_ne hk, hd₁], rfl, rfl, rfl, fun _ => rfl⟩
    · rw [io_onCell hd]
      exact hacts.io.ready
    · rw [io_onCell hd]
      by_cases hq : d.Quiet
      · rw [hf.quiet (c := ⟨d, h.io⟩) hq]
        exact ⟨[], by simp, by simp⟩
      obtain ⟨es, hlog, hes⟩ := hacts.io.log
      refine ⟨es, hlog, fun e he u => ⟨(hes e he u).2, fun hstart => ?_⟩⟩
      exact ⟨uuid, d, hd, ((hes e he u).1 hstart).symm, hq⟩

end Helper.Reacts

lemma reactionInvariant_reacts (mod : ConnectorModule M) (h : Helper M) :
    ReactionInvariant mod h.Reacts where
  env h' env hr := hr.trans (.setEnv h' env)
  param h' key value hr := hr.trans (.setParameter h' key value)
  cell h' uuid _ hf hr := hr.trans (.onCell h' uuid hf)

lemma step_reacts (he : e.isReaction) (hstep : step p mod w e = some w') :
    w.helper.Reacts w'.helper :=
  step_reaction (reactionInvariant_reacts mod w.helper) he hstep (.refl _)

def Helper.KeysAgree (h : Helper M) : Prop := ∀ k d, h.find k = some d → d.uuid = k

structure Cell.Serves (c c' : Cell M) : Prop where
  uuid : c'.data.uuid = c.data.uuid
  io : c.io.Acts c.data.uuid c'.io

lemma Cell.Acts.serves (h : c.Acts c') : c.Serves c' := ⟨h.uuid, h.io⟩

lemma Cell.Serves.trans {c'' : Cell M} (h : c.Serves c') (h' : c'.Serves c'') :
    c.Serves c'' := ⟨h'.uuid.trans h.uuid, h.io.trans (h.uuid ▸ h'.io)⟩

lemma Cell.serves_data (hd : d.uuid = c.data.uuid) :
    c.Serves { c with data := d } := ⟨hd, .refl _ _⟩

lemma serves_initRecognition (mod : ConnectorModule M) (unload : Bool) (c : Cell M) :
    c.Serves (initRecognition mod unload c).2 := by
  have hstop := acts_stopRecognition mod c
  simp only [initRecognition]
  split
  · exact (Cell.Acts.refl c).serves
  split
  · exact (hstop.trans (acts_unloadModel mod _)).serves.trans (Cell.serves_data rfl)
  · exact hstop.serves

lemma serves_acceptRequest (mod : ConnectorModule M) (model : GenericTriggerModel)
    (callback : Option Callback) (c : Cell M) :
    c.Serves (Helper.acceptRequest mod model callback c).2 := by
  have hinit := serves_initRecognition mod (!c.data.sameModel model) c
  simp only [Helper.acceptRequest]
  split
  · exact hinit
  refine hinit.trans (Cell.serves_data ?_)
  obtain ⟨m, hm⟩ := TriggerModelData.setModel_eq
    (initRecognition mod (!c.data.sameModel model) c).2.data model
  rw [hm]
  cases callback <;> rfl

lemma serves_prepareAndStart (mod : ConnectorModule M) (ctx : StartContext) (c : Cell M) :
    c.Serves (Helper.prepareAndStart mod ctx c).2 := by
  have hprep := acts_prepareForRecognition mod c
  simp only [Helper.prepareAndStart]
  split
  · exact hprep.serves
  · exact (hprep.trans (acts_startRecognition mod ctx _)).serves

lemma serves_stopRequested (mod : ConnectorModule M) (c : Cell M) :
    c.Serves (Helper.stopRequested mod c).2 := by
  have hreq : c.Serves { c with data := c.data.setRequested false } := Cell.serves_data rfl
  have hstop := hreq.trans (acts_stopRecognition mod _).serves
  simp only [Helper.stopRequested]
  split
  · exact hstop
  · exact hstop.trans (Cell.serves_data rfl)

lemma serves_stopAndUnload (mod : ConnectorModule M) (c : Cell M) :
    c.Serves (Helper.stopAndUnload mod c).2 :=
  ((acts_stopRecognition mod c).trans (acts_unloadModel mod _)).serves

structure Helper.Serves (uuid : Int) (h h' : Helper M) : Prop where
  keys : h'.KeysAgree
  others : ∀ k, k ≠ uuid → h'.find k = h.find k
  io : h.io.Acts uuid h'.io

namespace Helper.Serves
variable {h : Helper M}

lemma refl (hkeys : h.KeysAgree) (uuid : Int) : Helper.Serves uuid h h :=
  ⟨hkeys, fun _ _ => rfl, .refl _ _⟩

lemma trans {uuid : Int} {h' h'' : Helper M} (hs : Helper.Serves uuid h h')
    (hs' : Helper.Serves uuid h' h'') : Helper.Serves uuid h h'' :=
  ⟨hs'.keys, fun k hk => (hs'.others k hk).trans (hs.others k hk), hs.io.trans hs'.io⟩

lemma onCell {β : Type*} (hkeys : h.KeysAgree) (uuid : Int) (absent : β) {f : Cell M → β × Cell M}
    (hf : ∀ c : Cell M, c.Serves (f c).2) : Helper.Serves uuid h (h.onCell uuid absent f).2 := by
  cases hd : h.find uuid with
  | none =>
    rw [onCell_none hd]
    exact refl hkeys uuid
  | some d =>
    have hserves := hf ⟨d, h.io⟩
    have huuid : d.uuid = uuid := hkeys uuid d hd
    refine ⟨fun k d' hd' => ?_, fun k hk => find_onCell_ne hk absent f h, ?_⟩
    · by_cases hk : k = uuid
      · subst hk
        rw [find_onCell_self hd] at hd'
        rw [← Option.some.inj hd', hserves.uuid, huuid]
      · rw [find_onCell_ne hk] at hd'
        exact hkeys k d' hd'
    · rw [io_onCell hd]
      exact huuid ▸ hserves.io

lemma createTriggerModelData (hkeys : h.KeysAgree) (uuid : Int) :
    Helper.Serves uuid h (h.createTriggerModelData uuid) := by
  refine ⟨fun k d hd => ?_, fun k hk => find_createTriggerModelData_ne hk h, .refl _ _⟩
  rcases find_createTriggerModelData hd with hold | ⟨rfl, rfl⟩
  · exact hkeys k d hold
  · rfl

lemma startGenericRecognition (p : Platform) (mod : ConnectorModule M) (hkeys : h.KeysAgree)
    (uuid : Int) (model : GenericTriggerModel) (callback : Option Callback) :
    Helper.Serves uuid h (h.startGenericRecognition p mod uuid model callback).2 := by
  have hcreate := createTriggerModelData hkeys uuid
  have haccept := hcreate.trans
    (onCell hcreate.keys uuid false (serves_acceptRequest mod model callback))
  simp only [Helper.startGenericRecognition]
  split
  · exact haccept
  split
  · exact haccept
  · exact haccept.trans (onCell haccept.keys uuid (-1) (serves_prepareAndStart mod _))

lemma stopGenericRecognition (mod : ConnectorModule M) (hkeys : h.KeysAgree) (uuid : Int) :
    Helper.Serves uuid h (h.stopGenericRecognition mod uuid).2 :=
  onCell hkeys uuid (-1) (serves_stopRequested mod)

lemma erase (hkeys : h.KeysAgree) (uuid : Int) :
    Helper.Serves uuid h { h with modelDataMap := h.modelDataMap.erase uuid } := by
  have hfind : ∀ k, k ≠ uuid → (h.modelDataMap.erase uuid).find? k = h.find k := by
    intro k hk
    simp [OrderedMap.find?_erase, hk, Helper.find]
  refine ⟨fun k d hd => ?_, hfind, .refl _ _⟩
  by_cases hk : k = uuid
  · subst hk
    simp [Helper.find] at hd
  · exact hkeys k d (hfind k hk ▸ hd)

lemma unloadGenericTriggerModel (mod : ConnectorModule M) (hkeys : h.KeysAgree) (uuid : Int) :
    Helper.Serves uuid h (h.unloadGenericTriggerModel mod uuid) := by
  unfold Helper.unloadGenericTriggerModel
  split
  · exact refl hkeys uuid
  split
  · exact refl hkeys uuid
  · have hunload := onCell hkeys uuid () (serves_stopAndUnload mod)
    exact hunload.trans (erase hunload.keys uuid)

end Helper.Serves

lemma Helper.find_of_recognized (hr : h.recognized handle = some (k, d)) :
    h.find k = some d ∧ d.modelHandle = handle := by
  refine ⟨OrderedMap.find?_eq_some_iff.2 (List.mem_of_find?_eq_some hr), ?_⟩
  simpa using List.find?_some hr

lemma Helper.onRecognition_none (hr : h.recognized handle = none) : h.onRecognition handle = h := by
  simp [Helper.onRecognition, hr]

lemma Helper.onRecognition_some (hr : h.recognized handle = some (k, d)) : h.onRecognition handle =
      { h with modelDataMap := h.modelDataMap.set k (d.setState .loaded),
               io := Helper.reportDetection handle d h.io } := by
  simp [Helper.onRecognition, hr]

lemma Helper.find_onRecognition (handle k : Int) : (h.onRecognition handle).find k = h.find k ∨
      ∃ d, h.find k = some d ∧ (h.onRecognition handle).find k = some (d.setState .loaded) := by
  cases hr : h.recognized handle with
  | none => exact .inl (by rw [onRecognition_none hr])
  | some e =>
    obtain ⟨k', d⟩ := e
    rw [onRecognition_some hr]
    by_cases hk : k = k'
    · subst hk
      exact .inr ⟨d, (find_of_recognized hr).1, OrderedMap.find?_set_self _ _ _⟩
    · exact .inl (OrderedMap.find?_set_ne _ _ hk)

lemma Helper.KeysAgree.onRecognition (hkeys : h.KeysAgree) (handle : Int) :
    (h.onRecognition handle).KeysAgree := by
  intro k d' hd'
  rcases h.find_onRecognition handle k with hsame | ⟨d, hd, hload⟩
  · exact hkeys k d' (hsame ▸ hd')
  · obtain rfl : d.setState .loaded = d' := Option.some.inj (hload.symm.trans hd')
    exact hkeys k d hd

lemma Helper.Reacts.keysAgree {h' : Helper M} (hr : h.Reacts h') (hkeys : h.KeysAgree) :
    h'.KeysAgree := by
  intro k d' hd'
  cases hd : h.find k with
  | none => simp [hr.absent k hd] at hd'
  | some d =>
    obtain ⟨d₁, hd₁, hu, -⟩ := hr.data k d hd
    obtain rfl : d₁ = d' := by simpa [hd₁] using hd'
    exact hu.trans (hkeys k d hd)

lemma step_keysAgree (hkeys : w.helper.KeysAgree) (hstep : step p mod w e = some w') :
    w'.helper.KeysAgree := by
  obtain ⟨uuid, model, cb, -, rfl⟩ | ⟨uuid, -, rfl⟩ | ⟨uuid, -, rfl⟩ | ⟨handle, -, -, rfl⟩ | he :=
    step_cases hstep
  · exact (Helper.Serves.startGenericRecognition p mod hkeys uuid model cb).keys
  · exact (Helper.Serves.stopGenericRecognition mod hkeys uuid).keys
  · exact (Helper.Serves.unloadGenericTriggerModel mod hkeys uuid).keys
  · exact hkeys.onRecognition handle
  · exact (step_reacts he hstep).keysAgree hkeys

lemma run_keysAgree {conn : M} {pipes : InputPipes} {kv : StoredLists} {es : List Event}
    (hrun : run (step p mod) (World.initial conn pipes kv) es = some w) : w.helper.KeysAgree := by
  refine run_invariant_all (I := fun w => w.helper.KeysAgree)
    (fun w e w' hkeys hstep => step_keysAgree hkeys hstep) ?_ hrun
  intro k d hd
  simp [World.initial, Helper.find] at hd

end IntellVoice.Trigger
