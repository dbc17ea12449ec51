import IntellVoice.Trigger.Standing

/-! When the module carries out every call, each operation does what it says. -/

namespace IntellVoice.Trigger
open Loop TriggerModelData
variable {M : Type*} {p : Platform} {mod : ConnectorModule M}

lemma getModule_succeeds (hs : mod.Succeeds) (io : Io M) :
    (io.getModule mod).1 ∧ (io.getModule mod).2.moduleReady := by
  unfold Io.getModule
  split
  · exact ⟨rfl, ‹_›⟩
  · exact ⟨hs.getConnectorModule _, hs.getConnectorModule _⟩

variable {c : Cell M}

lemma loadModel_succeeds (hs : mod.Succeeds) (hready : c.io.moduleReady) :
    (loadModel mod c).1 = 0 ∧ (loadModel mod c).2.io.moduleReady ∧ (loadModel mod c).2.data.state =
        if c.data.state = .notLoaded then .loaded else c.data.state := by
  have hload := hs.loadModel c.data.model c.io.conn
  by_cases hstate : c.data.state = .notLoaded
  · simp [loadModel, hstate, hready, hload, Io.call, setState]
  · simp [loadModel, hstate, hready]

lemma prepareForRecognition_succeeds (hs : mod.Succeeds) (c : Cell M) :
    (prepareForRecognition mod c).1 = 0 ∧ (prepareForRecognition mod c).2.io.moduleReady ∧
      (prepareForRecognition mod c).2.data.state =
        if c.data.state = .notLoaded then .loaded else c.data.state := by
  obtain ⟨hget, hready⟩ := getModule_succeeds hs c.io
  obtain ⟨hzero, hready', hstate⟩ := loadModel_succeeds hs
    (c := { c with io := (c.io.getModule mod).2 }) hready
  simp [prepareForRecognition, hget, hzero, hready', hstate]

lemma startRecognition_succeeds (hs : mod.Succeeds) (ctx : StartContext) (hready : c.io.moduleReady)
    (hstate : c.data.state = .loaded) : (startRecognition mod ctx c).1 = 0 ∧
      (startRecognition mod ctx c).2.data.state = .started := by
  have hstart := hs.start (beforeStart mod ctx c).data.modelHandle (beforeStart mod ctx c).io.conn
  simp [startRecognition, hstate, hready, callStart, hstart, setState]

lemma startRecognition_idle (ctx : StartContext) (hstate : c.data.state ≠ .loaded) :
    startRecognition mod ctx c = (0, c) := by
  simp [startRecognition, hstate]

lemma prepareAndStart_succeeds (hs : mod.Succeeds) (ctx : StartContext)
    (hstate : c.data.state ≠ .started) :
    (startRecognition mod ctx (prepareForRecognition mod c).2).2.data.state = .started := by
  obtain ⟨-, hready, hprep⟩ := prepareForRecognition_succeeds hs c
  refine (startRecognition_succeeds hs ctx hready ?_).2
  rw [hprep]
  cases h : c.data.state with
  | notLoaded | loaded => rfl
  | started => exact absurd h hstate

lemma stopRecognition_succeeds (hs : mod.Succeeds) (hc : c.data.NeedsModule c.io) :
    (stopRecognition mod c).1 = 0 ∧ (stopRecognition mod c).2.data.state =
      if c.data.state = .started then .loaded else c.data.state := by
  have hstop := hs.stop c.data.modelHandle c.io.conn
  by_cases hstate : c.data.state = .started
  · have hready : c.io.moduleReady := hc (by simp [hstate])
    simp [stopRecognition, hstate, hready, hstop, setState]
  · simp [stopRecognition, hstate]

lemma stopRecognition_not_started (hs : mod.Succeeds) (hc : c.data.NeedsModule c.io) :
    (stopRecognition mod c).2.data.state ≠ .started := by
  rw [(stopRecognition_succeeds hs hc).2]
  split
  · exact ModelState.noConfusion
  · assumption

def updatedState (conflict hibernate requested : Bool) (state : ModelState) : ModelState :=
  if requested && !conflict then .started
  else if state = .started then if hibernate then .notLoaded else .loaded
  else state

def openedState (_requested : Bool) (state : ModelState) : ModelState :=
  if state = .loaded then .started else state

lemma updatedState_idem (conflict hibernate requested : Bool) (state : ModelState) :
    updatedState conflict hibernate requested (updatedState conflict hibernate requested state) =
      updatedState conflict hibernate requested state := by
  revert conflict hibernate requested
  cases state <;> decide

lemma openedState_idem (requested : Bool) (state : ModelState) :
    openedState requested (openedState requested state) = openedState requested state := by
  cases state <;> rfl

lemma updatedState_eq_started {conflict hibernate requested : Bool} {state : ModelState} :
    updatedState conflict hibernate requested state = .started ↔ requested ∧ conflict = false := by
  revert conflict hibernate requested
  cases state <;> decide

lemma stopAndUnload_succeeds (hs : mod.Succeeds) (hc : c.data.NeedsModule c.io)
    (hstate : c.data.state = .started) :
    (unloadModel mod (stopRecognition mod c).2).2.data.state = .notLoaded := by
  have hready : c.io.moduleReady := hc (by simp [hstate])
  have hstop := hs.stop c.data.modelHandle c.io.conn
  simp [stopRecognition, unloadModel, hstate, hready, hstop, Io.call, setState]

lemma updateRecognitionState_succeeds (hs : mod.Succeeds) (ctx : StartContext)
    (conflict hibernate : Bool) (hc : c.data.NeedsModule c.io) :
    (updateRecognitionState mod ctx conflict hibernate c).1 ∧
      (updateRecognitionState mod ctx conflict hibernate c).2.data.state =
        updatedState conflict hibernate c.data.requested c.data.state := by
  have hprep := (prepareForRecognition_succeeds hs c).1
  simp only [updateRecognitionState, updatedState]
  by_cases hneed : (c.data.requested && !conflict)
  · rw [if_pos hneed, if_pos hneed, if_neg (not_not.2 hprep), hneed]
    by_cases hstate : c.data.state = .started
    · simp [hstate]
    · simp [hstate, prepareAndStart_succeeds hs ctx hstate]
  rw [if_neg hneed, if_neg hneed]
  rw [Bool.not_eq_true] at hneed
  by_cases hstate : c.data.state = .started
  · have hstop := (stopRecognition_succeeds hs hc).2
    have hunload := stopAndUnload_succeeds hs hc hstate
    cases hibernate <;> simp [hneed, hstate, hstop, hunload]
  · simp [hneed, hstate]

lemma startUnlessStarted_succeeds (hs : mod.Succeeds) (ctx : StartContext)
    (hc : c.data.NeedsModule c.io) : (Helper.startUnlessStarted mod ctx c).2.data.state =
      openedState c.data.requested c.data.state := by
  unfold Helper.startUnlessStarted openedState
  by_cases hstate : c.data.state = .loaded
  · have hready : c.io.moduleReady := hc (by simp [hstate])
    simp [hstate, (startRecognition_succeeds hs ctx hready hstate).2]
  · simp [hstate, startRecognition_idle ctx hstate]

namespace Helper
variable {h : Helper M}

def Ready (h : Helper M) : Prop := ∀ k d, h.find k = some d → d.NeedsModule h.io

lemma reactionInvariant_ready (mod : ConnectorModule M) :
    ReactionInvariant mod (Helper.Ready (M := M)) := by
  have hS := standingInvariant_needsModule (K := fun _ => True) (requestInvariant_true mod)
    (fun _ _ h => h)
  have hR := hS.reactionInvariant
  exact ⟨fun h env hh => (hR.env h env ⟨trivial, hh⟩).2,
    fun h key value hh => (hR.param h key value ⟨trivial, hh⟩).2,
    fun h uuid f hf hh => (hR.cell h uuid f hf ⟨trivial, hh⟩).2⟩

@[simp] lemma setParameter_env (mod : ConnectorModule M) (key value : String) (h : Helper M) :
    (h.setParameter mod key value).env = h.env := rfl

@[simp] lemma setParameter_find (mod : ConnectorModule M) (key value : String) (h : Helper M)
    (k : Int) : (h.setParameter mod key value).find k = h.find k := rfl

@[simp] lemma onUpdateAllRecognitionState_env (p : Platform) (mod : ConnectorModule M)
    (h : Helper M) : (h.onUpdateAllRecognitionState p mod).env = h.env :=
  visitUntil_invariant (I := fun h' : Helper M => h'.env = h.env)
    (fun _ _ heq => (onCell_env _ _ _ _).trans heq) _ rfl

@[simp] lemma startLoaded_env (p : Platform) (mod : ConnectorModule M) (modelData : Option Int)
    (h : Helper M) : (h.startLoaded p mod modelData).env = h.env := by
  cases modelData with
  | none => rfl
  | some uuid => exact onCell_env _ _ _ _

@[simp] lemma executeStateTransition_env (p : Platform) (mod : ConnectorModule M)
    (old new : CaptureState) (modelData : Option Int) (h : Helper M) :
    (h.executeStateTransition p mod old new modelData).env = h.env := by
  unfold executeStateTransition
  split <;> (try split) <;> simp

@[simp] lemma executeForModels_env (p : Platform) (mod : ConnectorModule M)
    (old new : CaptureState) (h : Helper M) : (h.executeForModels p mod old new).env = h.env := by
  unfold executeForModels
  split
  · simp
  · exact visitUntil_invariant (I := fun h' : Helper M => h'.env = h.env)
      (fun _ _ heq => (executeStateTransition_env _ _ _ _ _ _).trans heq) _ rfl

def Maps (g : Bool → ModelState → ModelState) (h h' : Helper M) : Prop :=
  ∀ k d', h'.find k = some d' →
    ∃ d, h.find k = some d ∧ d'.requested = d.requested ∧ d'.state = g d.requested d.state

variable {g : Bool → ModelState → ModelState}

lemma forModels_maps {f : Int → Helper M → Bool × Helper M} (hidem : ∀ r s, g r (g r s) = g r s)
    (hcont : ∀ k h', h'.Ready → h'.env = h.env → (f k h').1)
    (hnext : ∀ k h', h'.Ready → h'.env = h.env → (f k h').2.Ready ∧ (f k h').2.env = h.env)
    (hother : ∀ k k' h', k' ≠ k → (f k h').2.find k' = h'.find k')
    (hself : ∀ k h' d', h'.Ready → h'.env = h.env → (f k h').2.find k = some d' →
      ∃ d, h'.find k = some d ∧ d'.requested = d.requested ∧ d'.state = g d.requested d.state)
    (hready : h.Ready) : h.Maps g (h.forModels f) := by
  -- a model is as it was, or already where `g` brings it
  let I : Helper M → Prop := fun h' => (h'.Ready ∧ h'.env = h.env) ∧
    ∀ k d', h'.find k = some d' → ∃ d, h.find k = some d ∧ d'.requested = d.requested ∧
      (d'.state = d.state ∨ d'.state = g d.requested d.state)
  let Q : Int → Helper M → Prop := fun k h' => ∀ d', h'.find k = some d' →
    ∃ d, h.find k = some d ∧ d'.requested = d.requested ∧ d'.state = g d.requested d.state
  have hvisit : ∀ k h', I h' → Q k (f k h').2 := by
    intro k h' hI d' hd'
    obtain ⟨d₁, hd₁, hreq₁, hst₁⟩ := hself k h' d' hI.1.1 hI.1.2 hd'
    obtain ⟨d, hd, hreq, hst⟩ := hI.2 k d₁ hd₁
    refine ⟨d, hd, hreq₁.trans hreq, ?_⟩
    rw [hst₁, hreq]
    rcases hst with hst | hst <;> rw [hst]
    exact hidem _ _
  have hkeep : ∀ k k' h', I h' → Q k' h' → Q k' (f k h').2 := by
    intro k k' h' hI hQ
    by_cases hk : k' = k
    · exact hk ▸ hvisit k h' hI
    intro d' hd'
    rw [hother k k' h' hk] at hd'
    exact hQ d' hd'
  have hI : ∀ k h', I h' → I (f k h').2 := by
    intro k h' hI
    refine ⟨hnext k h' hI.1.1 hI.1.2, fun k' d' hd' => ?_⟩
    by_cases hk : k' = k
    · subst hk
      obtain ⟨d, hd, hreq, hst⟩ := hvisit k' h' hI d' hd'
      exact ⟨d, hd, hreq, .inr hst⟩
    · rw [hother k k' h' hk] at hd'
      exact hI.2 k' d' hd'
  have hinit : I h := ⟨⟨hready, rfl⟩, fun k d hd => ⟨d, hd, rfl, .inl rfl⟩⟩
  intro k d' hd'
  obtain ⟨d, hd, -⟩ := (visitUntil_invariant hI h.modelDataMap.keys hinit).2 k d' hd'
  exact visitUntil_each (fun k h' hI => hcont k h' hI.1.1 hI.1.2) hI hvisit hkeep
    h.modelDataMap.keys hinit k (OrderedMap.mem_keys.2 ⟨d, hd⟩) d' hd'

lemma onCell_maps {f : Cell M → Bool × Cell M} {k : Int} (hf : ReactionOp mod f)
    (hg : ∀ c : Cell M, c.data.NeedsModule c.io →
      (f c).2.data.state = g c.data.requested c.data.state)
    (hready : h.Ready) {d' : TriggerModelData} (hd' : (h.onCell k true f).2.find k = some d') :
    ∃ d, h.find k = some d ∧ d'.requested = d.requested ∧ d'.state = g d.requested d.state := by
  cases hk : h.find k with
  | none => simp [onCell_none hk, hk] at hd'
  | some d =>
    rw [find_onCell_self hk] at hd'
    rw [← Option.some.inj hd']
    exact ⟨d, rfl, (hf.acts ⟨d, h.io⟩).requested, hg ⟨d, h.io⟩ (hready k d hk)⟩

lemma onUpdateAllRecognitionState_maps (hs : mod.Succeeds) (hready : h.Ready) :
    h.Maps (updatedState (h.conflict p) h.env.systemHibernate)
      (h.onUpdateAllRecognitionState p mod) := by
  have hsame : ∀ h' : Helper M, h'.env = h.env →
      h'.conflict p = h.conflict p ∧ h'.env.systemHibernate = h.env.systemHibernate :=
    fun h' henv => by simp [conflict, henv]
  refine forModels_maps (updatedState_idem _ _) ?_ ?_ ?_ ?_ hready
  · intro k h' hr henv
    cases hk : h'.find k with
    | none => rw [updateModel, onCell_none hk]
    | some d =>
      rw [updateModel, onCell_some hk]
      exact (updateRecognitionState_succeeds hs _ _ _ (c := ⟨d, h'.io⟩) (hr k d hk)).1
  · intro k h' hr henv
    exact ⟨(reactionInvariant_ready mod).cell h' k _ (.update _ _ _) hr,
      (onCell_env _ _ _ _).trans henv⟩
  · exact fun k k' h' hk => find_onCell_ne hk _ _ _
  · intro k h' d' hr henv hd'
    obtain ⟨hconflict, hhibernate⟩ := hsame h' henv
    rw [updateModel, hconflict, hhibernate] at hd'
    exact onCell_maps (.update _ _ _)
      (fun c hc => (updateRecognitionState_succeeds hs _ _ _ hc).2) hr hd'

def Settled (p : Platform) (h : Helper M) : Prop := ∀ k d, h.find k = some d →
  (d.state = .started ↔ d.requested ∧ h.conflict p = false)

lemma onUpdateAllRecognitionState_settled (hs : mod.Succeeds) (hready : h.Ready) :
    (h.onUpdateAllRecognitionState p mod).Settled p := by
  intro k d' hd'
  obtain ⟨d, -, hreq, hst⟩ := onUpdateAllRecognitionState_maps hs hready k d' hd'
  have hconflict : (h.onUpdateAllRecognitionState p mod).conflict p = h.conflict p := by
    simp [conflict]
  rw [hst, hreq, hconflict]
  exact updatedState_eq_started

end Helper

def CaptureMethod.onlyParameter : CaptureMethod → Bool
  | .sameState => true
  | .doConcurrentCloseSource => true
  | .doConcurrentOpenSource => true
  | _ => false

def CaptureMethod.updatesAll : CaptureMethod → Bool
  | .doNoConcurrentStopSource => true
  | .doNoConcurrentOpenSource => true
  | .doConcurrentStopAndNoConcurrentOpenSource => true
  | _ => false

namespace Helper
variable {h : Helper M} {old new : CaptureState}

lemma executeStateTransition_onlyParameter (hm : (methodTable old new).onlyParameter)
    (modelData : Option Int) (k : Int) :
    (h.executeStateTransition p mod old new modelData).find k = h.find k := by
  unfold executeStateTransition
  generalize methodTable old new = m at hm
  cases m with
  | sameState =>
    dsimp only
    split <;> rfl
  | doConcurrentCloseSource | doConcurrentOpenSource => rfl
  | _ => cases hm

lemma executeStateTransition_settled (hs : mod.Succeeds) (hready : h.Ready)
    (hm : (methodTable old new).updatesAll) (modelData : Option Int) :
    (h.executeStateTransition p mod old new modelData).Settled p := by
  unfold executeStateTransition
  generalize methodTable old new = m at hm
  cases m with
  | doNoConcurrentStopSource | doNoConcurrentOpenSource =>
    exact onUpdateAllRecognitionState_settled hs hready
  | doConcurrentStopAndNoConcurrentOpenSource =>
    exact onUpdateAllRecognitionState_settled hs ((reactionInvariant_ready mod).param _ _ _ hready)
  | _ => cases hm

lemma executeForModels_onlyParameter (hm : (methodTable old new).onlyParameter) (k : Int) :
    (h.executeForModels p mod old new).find k = h.find k := by
  unfold executeForModels
  split
  · exact executeStateTransition_onlyParameter hm none k
  · exact visitUntil_invariant (I := fun h' : Helper M => h'.find k = h.find k)
      (fun uuid _ heq => (executeStateTransition_onlyParameter hm (some uuid) k).trans heq) _ rfl

lemma executeForModels_settled (hs : mod.Succeeds) (hready : h.Ready)
    (hm : (methodTable old new).updatesAll) : (h.executeForModels p mod old new).Settled p := by
  unfold executeForModels
  split
  · exact executeStateTransition_settled hs hready hm none
  -- every round settles all models, and there is a round
  rename_i hne
  have hround : ∀ (uuid : Int) (h' : Helper M), h'.Ready →
      (h'.executeStateTransition p mod old new (some uuid)).Settled p :=
    fun uuid _ hr => executeStateTransition_settled hs hr hm (some uuid)
  obtain ⟨k, hk⟩ := List.exists_mem_of_ne_nil _ fun hnil =>
    hne (OrderedMap.isEmpty_iff.2 hnil)
  exact visitUntil_each (I := Ready) (Q := fun _ h' => h'.Settled p) (fun _ _ _ => rfl)
    (fun uuid h' hr => (reactionInvariant_ready mod).steady.executeStateTransition hr _ _ _)
    (fun uuid h' hr => hround uuid h' hr) (fun uuid _ h' hr _ => hround uuid h' hr)
    h.modelDataMap.keys hready k hk

lemma executeForModels_opened (hs : mod.Succeeds) (hready : h.Ready)
    (hm : methodTable old new = .doNoConcurrentStopAndConcurrentOpenSource) :
    h.Maps openedState (h.executeForModels p mod old new) := by
  unfold executeForModels
  split
  · rename_i hempty
    intro k d' hd'
    rw [executeStateTransition, hm] at hd'
    have hmem : k ∈ h.modelDataMap.keys := OrderedMap.mem_keys.2 ⟨d', hd'⟩
    simp [OrderedMap.isEmpty_iff.1 hempty] at hmem
  have hfind : ∀ (uuid k : Int) (h' : Helper M),
      (h'.executeStateTransition p mod old new (some uuid)).find k =
        (h'.onCell uuid true (startUnlessStarted mod (h'.startContext p))).2.find k := by
    intro uuid k h'
    rw [executeStateTransition, hm]
    rfl
  refine forModels_maps openedState_idem (fun _ _ _ _ => rfl) ?_ ?_ ?_ hready
  · intro k h' hr henv
    exact ⟨(reactionInvariant_ready mod).steady.executeStateTransition hr _ _ _,
      (executeStateTransition_env _ _ _ _ _ _).trans henv⟩
  · intro k k' h' hk
    exact (hfind k k' h').trans (find_onCell_ne hk _ _ _)
  · intro k h' d' hr _ hd'
    rw [hfind] at hd'
    exact onCell_maps (.open _) (fun c hc => startUnlessStarted_succeeds hs _ hc) hr hd'

end Helper

lemma step_ready {w w' : World M} {e : Event} (hw : w.helper.Ready)
    (hstep : step p mod w e = some w') : w'.helper.Ready := by
  have hS := standingInvariant_needsModule (K := fun _ => True) (requestInvariant_true mod)
    (fun _ _ h => h)
  exact (hS.step ⟨trivial, hw⟩ hstep).2

end IntellVoice.Trigger
