import IntellVoice.Trigger.Classification
import IntellVoice.Trigger.Helper

/-! Every callback stores flags, sets parameters and runs one operation. -/

namespace IntellVoice.Trigger
open Loop Option
variable {M : Type*} {p : Platform} {mod : ConnectorModule M}

inductive ReactionOp (mod : ConnectorModule M) : (Cell M → Bool × Cell M) → Prop where
  | update (ctx : StartContext) (conflict hibernate : Bool) :
      ReactionOp mod (updateRecognitionState mod ctx conflict hibernate)
  | start (ctx : StartContext) (conflict : Bool) : ReactionOp mod (startNeeded mod ctx conflict)
  | stop (conflict : Bool) : ReactionOp mod (stopNeeded mod conflict)
  | open (ctx : StartContext) : ReactionOp mod (Helper.startUnlessStarted mod ctx)

variable {c : Cell M} {f : Cell M → Bool × Cell M} {J : Cell M → Prop} {e : Event} {w w' : World M}

lemma ReactionOp.operationInvariant (hf : ReactionOp mod f) (hJ : OperationInvariant mod J)
    (hc : J c) : J (f c).2 := by
  cases hf with
  | update ctx conflict hibernate => exact hJ.updateRecognitionState ctx conflict hibernate hc
  | start ctx conflict => exact hJ.startNeeded ctx conflict hc
  | stop conflict => exact hJ.stopNeeded conflict hc
  | «open» ctx =>
    unfold Helper.startUnlessStarted
    dsimp only
    split
    · exact hJ.startRecognition c ctx hc
    · exact hc

lemma ReactionOp.cellInvariant (hf : ReactionOp mod f) (hJ : CellInvariant mod J) (hc : J c) :
    J (f c).2 :=
  hf.operationInvariant hJ.operation hc

structure ReactionInvariant (mod : ConnectorModule M) (I : Helper M → Prop) : Prop where
  env : ∀ h env, I h → I (h.setEnv env)
  param : ∀ h key value, I h → I (h.setParameter mod key value)
  cell : ∀ h uuid f, ReactionOp mod f → I h → I (h.onCell uuid true f).2

structure SteadyInvariant (p : Platform) (mod : ConnectorModule M)
    (I : Helper M → Prop) : Prop where
  env : ∀ h env, env.systemHibernate = h.env.systemHibernate → I h → I (h.setEnv env)
  param : ∀ h key value, I h → I (h.setParameter mod key value)
  update : ∀ h uuid, I h → I (h.updateModel p mod uuid).2
  start : ∀ h uuid, I h →
    I (h.onCell uuid true (startNeeded mod (h.startContext p) (h.conflict p))).2
  stop : ∀ h uuid, I h → I (h.onCell uuid true (stopNeeded mod (h.conflict p))).2
  opened : ∀ h uuid, I h →
    I (h.onCell uuid true (Helper.startUnlessStarted mod (h.startContext p))).2

lemma ReactionInvariant.steady {I : Helper M → Prop} (hI : ReactionInvariant mod I) :
    SteadyInvariant p mod I where
  env h env _ := hI.env h env
  param := hI.param
  update h uuid := hI.cell h uuid _ (.update _ _ _)
  start h uuid := hI.cell h uuid _ (.start _ _)
  stop h uuid := hI.cell h uuid _ (.stop _)
  opened h uuid := hI.cell h uuid _ (.open _)

def Helper.openRound (p : Platform) (mod : ConnectorModule M) (uuid : Int) (h : Helper M) :
    Bool × Helper M :=
  (true, (h.startLoaded p mod (some uuid)).setParameter mod "concurrent_capture"
    (Helper.concurrencyOpenKey h.env))

structure CallbackInvariant (p : Platform) (mod : ConnectorModule M) (I : Helper M → Prop) :
    Prop where
  env : ∀ h env, env.systemHibernate = h.env.systemHibernate →
    env.isFoldable = h.env.isFoldable → env.curFoldStatus = h.env.curFoldStatus → I h →
    I (h.setEnv env)
  param : ∀ h key value, key ≠ "is_folded" → I h → I (h.setParameter mod key value)
  update : ∀ h, I h → I (h.onUpdateAllRecognitionState p mod)
  opened : ∀ h, I h → I (h.forModels (Helper.openRound p mod))

namespace CallbackInvariant
variable {I : Helper M → Prop} {h h' : Helper M} {kv : StoredLists} {pipes : InputPipes}

section
variable (hI : CallbackInvariant p mod I)
include hI

lemma executeForModels (hh : I h) (oldState newState : CaptureState) :
    I (h.executeForModels p mod oldState newState) := by
  have hkey : "concurrent_capture" ≠ "is_folded" := by decide
  unfold Helper.executeForModels Helper.executeStateTransition
  cases methodTable oldState newState with
  | sameState =>
    -- the parameter is set once, or once for every model
    have hone : ∀ h : Helper M, I h → I (if h.env.mExtensionConcurrency then
        h.setParameter mod "concurrent_capture"
          (if h.env.whitelistWhisperEnable then "enablewhisper" else "disablewhisper")
        else h) := by
      intro h hh
      split
      · exact hI.param _ _ _ hkey hh
      · exact hh
    split
    · exact hone h hh
    · exact visitUntil_invariant (fun _ h hh => hone h hh) _ hh
  | doConcurrentCloseSource | doConcurrentOpenSource =>
    split
    · exact hI.param _ _ _ hkey hh
    · exact visitUntil_invariant (fun _ h hh => hI.param h _ _ hkey hh) _ hh
  | doNoConcurrentStopSource | doNoConcurrentOpenSource =>
    split
    · exact hI.update h hh
    · exact visitUntil_invariant (fun _ h hh => hI.update h hh) _ hh
  | doConcurrentStopAndNoConcurrentOpenSource =>
    split
    · exact hI.update _ (hI.param _ _ _ hkey hh)
    · exact visitUntil_invariant (fun _ h hh => hI.update _ (hI.param h _ _ hkey hh)) _ hh
  | doNoConcurrentStopAndConcurrentOpenSource =>
    split
    · exact hI.param _ _ _ hkey hh
    · exact hI.opened h hh

lemma firstProc (hh : I h) : I (h.firstProc mod) := by
  unfold Helper.firstProc
  split
  · exact hI.env _ _ (by rfl) (by rfl) (by rfl) (hI.param _ _ _ (by decide) hh)
  · exact hh

lemma onInputPipeChange (hh : I h) (heq : h.onInputPipeChange p mod kv pipes = some h') : I h' := by
  obtain ⟨⟨c, env⟩, hclass, rfl⟩ := map_eq_some_iff.1 heq
  have hflags := (classify_spec hclass).2.2.flags
  have hstart := hI.env _ env (by rw [hflags]) (by rw [hflags]) (by rw [hflags])
    (hI.firstProc hh)
  dsimp only
  split
  · exact hstart
  · exact hI.executeForModels (hI.env _ _ (by rfl) (by rfl) (by rfl) hstart) _ _

lemma updateEnv (hh : I h) (env : Env) (hhibernate : env.systemHibernate = h.env.systemHibernate)
    (hfoldable : env.isFoldable = h.env.isFoldable)
    (hfold : env.curFoldStatus = h.env.curFoldStatus) : I (h.updateEnv p mod env) :=
  hI.update _ (hI.env h env hhibernate hfoldable hfold hh)

lemma reevaluateForVoip (hh : I h) (heq : h.reevaluateForVoip p mod kv pipes = some h') : I h' := by
  unfold Helper.reevaluateForVoip at heq
  split at heq
  · split at heq
    · exact hI.onInputPipeChange hh heq
    · cases heq
  · cases heq
    exact hh

lemma onCallStateUpdated (hh : I h) {callState : Int}
    (heq : h.onCallStateUpdated p mod kv pipes callState = some h') : I h' := by
  have hupdate := hI.updateEnv hh
    { h.env with callActive := Helper.callStateActive p callState } rfl rfl rfl
  simp only [Helper.onCallStateUpdated] at heq
  repeat' split at heq
  all_goals first
    | exact hI.onInputPipeChange hupdate heq
    | (cases heq; first | exact hh | exact hupdate)

lemma onAudioSceneChange (hh : I h) {audioScene : AudioScene}
    (heq : h.onAudioSceneChange p mod kv pipes audioScene = some h') : I h' := by
  unfold Helper.onAudioSceneChange at heq
  split at heq
  · cases heq
    exact hh
  · exact hI.reevaluateForVoip (hI.updateEnv hh _ (by rfl) (by rfl) (by rfl)) heq

lemma onCapturerStateChange (hh : I h) (isActive : Bool) :
    I (h.onCapturerStateChange p mod isActive) := by
  unfold Helper.onCapturerStateChange
  split
  · exact hh
  · exact hI.updateEnv hh _ (by rfl) (by rfl) (by rfl)

lemma reportUsage (usage : Int × Bool) (hh : I h) : I (h.reportUsage mod usage) := by
  unfold Helper.reportUsage
  split
  · exact hh
  · refine hI.param _ _ _ ?_ (hI.env _ _ (by rfl) (by rfl) (by rfl) hh)
    cases usage.2 <;> decide

lemma reportUsages (usages : List (Int × Bool)) (hh : I h) :
    I (usages.foldl (fun h usage => h.reportUsage mod usage) h) := by
  induction usages generalizing h with
  | nil => exact hh
  | cons usage usages ih => exact ih (hI.reportUsage usage hh)

lemma onRendererStateChange (hh : I h) {infos : List (Option AudioRendererChangeInfo)}
    (heq : h.onRendererStateChange p mod kv pipes infos = some h') : I h' :=
  hI.reevaluateForVoip (hI.reportUsages _ (hI.env _ _ (by rfl) (by rfl) (by rfl) hh)) heq

lemma attachAudioEngineListener (hh : I h) {registered : Bool}
    (heq : h.attachAudioEngineListener p mod kv pipes registered = some h') : I h' := by
  simp only [Helper.attachAudioEngineListener] at heq
  split at heq
  · cases heq
    exact hh
  have hcallback := hI.env h { h.env with audioInputPipeCallback := true } rfl rfl rfl hh
  split at heq
  · cases heq
    exact hcallback
  · exact hI.onInputPipeChange (hI.env _ _ (by rfl) (by rfl) (by rfl) hcallback) heq

end
end CallbackInvariant

namespace SteadyInvariant
variable {I : Helper M → Prop} {h h' : Helper M}

lemma forModels {f : Int → Helper M → Bool × Helper M} (hf : ∀ uuid h, I h → I (f uuid h).2)
    (hh : I h) : I (h.forModels f) := visitUntil_invariant hf _ hh

section
variable (hI : SteadyInvariant p mod I)
include hI

lemma onUpdateAllRecognitionState (hh : I h) : I (h.onUpdateAllRecognitionState p mod) :=
  forModels (fun uuid h hh => hI.update h uuid hh) hh

lemma startLoaded (hh : I h) (modelData : Option Int) : I (h.startLoaded p mod modelData) := by
  cases modelData with
  | none => exact hh
  | some uuid => exact hI.opened h uuid hh

lemma executeStateTransition (hh : I h) (oldState newState : CaptureState)
    (modelData : Option Int) :
    I (h.executeStateTransition p mod oldState newState modelData) := by
  unfold Helper.executeStateTransition
  split
  · split
    · exact hI.param _ _ _ hh
    · exact hh
  · exact hI.param _ _ _ hh
  · exact hI.param _ _ _ hh
  · exact hI.onUpdateAllRecognitionState hh
  · exact hI.onUpdateAllRecognitionState hh
  · exact hI.onUpdateAllRecognitionState (hI.param _ _ _ hh)
  · exact hI.param _ _ _ (hI.startLoaded hh modelData)

lemma callbacks : CallbackInvariant p mod I where
  env h env hsame _ _ := hI.env h env hsame
  param h key value _ := hI.param h key value
  update _ hh := hI.onUpdateAllRecognitionState hh
  opened _ hh := forModels (fun uuid _ hh => hI.param _ _ _ (hI.startLoaded hh (some uuid))) hh

lemma restartAllRecognition (hh : I h) : I (h.restartAllRecognition p mod) := by
  have hstop : I (h.stopAllRecognition p mod) :=
    forModels (fun uuid h hh => hI.stop h uuid hh) hh
  exact forModels (fun uuid h hh => hI.start h uuid hh) hstop

lemma onFoldStatusChanged (hh : I h) (foldStatus : FoldStatus) :
    I (h.onFoldStatusChanged p mod foldStatus) := by
  simp only [Helper.onFoldStatusChanged]
  split
  · exact hh
  · exact hI.restartAllRecognition (hI.env _ _ (by rfl) hh)

lemma attachFoldStatusListener (hh : I h) (isFoldable : Bool) (foldStatus : FoldStatus) :
    I (h.attachFoldStatusListener p mod isFoldable foldStatus) := by
  simp only [Helper.attachFoldStatusListener]
  split
  · exact hh
  split
  · exact hI.env _ _ (by rfl) hh
  split
  · exact hI.restartAllRecognition (hI.env _ _ (by rfl) (hI.env _ _ (by rfl) hh))
  · exact hI.env _ _ (by rfl) (hI.env _ _ (by rfl) hh)

end
end SteadyInvariant

def Event.isReaction : Event → Bool
  | .startGenericRecognition _ _ _ => false
  | .stopGenericRecognition _ => false
  | .unloadGenericTriggerModel _ => false
  | .onRecognition _ => false
  | _ => true

lemma handle_of_step (hstep : step p mod w e = some w') :
    e.inBuild p.build ∧ handle p mod w e = some w' := by
  unfold step at hstep
  split at hstep
  · exact ⟨‹_›, hstep⟩
  · cases hstep

def Event.isHibernation : Event → Bool
  | .onHibernateStateUpdated _ => true
  | _ => false

def Event.isFold : Event → Bool
  | .onFoldStatusChanged _ => true
  | .attachFoldStatusListener _ _ => true
  | _ => false

def Event.setsKey : Event → Option String
  | .setParameter key _ => some key
  | _ => none

lemma step_callback {I : Helper M → Prop} (hI : CallbackInvariant p mod I) (he : e.isReaction)
    (hsteady : e.isHibernation = false) (hfold : e.isFold = false)
    (hkey : e.setsKey ≠ some "is_folded") (hstep : step p mod w e = some w') (hw : I w.helper) :
    I w'.helper := by
  obtain ⟨-, hhandle⟩ := handle_of_step hstep
  cases e with
  | startGenericRecognition uuid model callback | stopGenericRecognition uuid
  | unloadGenericTriggerModel uuid | onRecognition modelHandle => cases he
  | setParameter key value =>
    cases hhandle
    exact hI.param _ _ _ (fun heq => hkey (congrArg some heq)) hw
  | onCallStateUpdated callState =>
    obtain ⟨h', heq, rfl⟩ := map_eq_some_iff.1 hhandle
    exact hI.onCallStateUpdated hw heq
  | onAudioSceneChange audioScene =>
    obtain ⟨h', heq, rfl⟩ := map_eq_some_iff.1 hhandle
    exact hI.onAudioSceneChange hw heq
  | onHibernateStateUpdated isHibernate => cases hsteady
  | onCapturerStateChange isActive =>
    cases hhandle
    exact hI.onCapturerStateChange hw isActive
  | onInputPipeChange pipes =>
    simp only [handle] at hhandle
    split at hhandle
    · obtain ⟨h', heq, rfl⟩ := map_eq_some_iff.1 hhandle
      exact hI.onInputPipeChange hw heq
    · cases hhandle
  | pipesMoved pipes =>
    cases hhandle
    exact hw
  | onRendererStateChange infos =>
    obtain ⟨h', heq, rfl⟩ := map_eq_some_iff.1 hhandle
    exact hI.onRendererStateChange hw heq
  | handleConcurrentList list value =>
    cases hhandle
    cases list <;> exact hI.env _ _ (by rfl) (by rfl) (by rfl) hw
  | attachAudioEngineListener registered =>
    obtain ⟨h', heq, rfl⟩ := map_eq_some_iff.1 hhandle
    exact hI.attachAudioEngineListener hw heq
  | detachAudioEngineListener =>
    cases hhandle
    exact hI.env _ _ (by rfl) (by rfl) (by rfl) hw
  | onFoldStatusChanged foldStatus | attachFoldStatusListener isFoldable foldStatus => cases hfold

lemma step_steady {I : Helper M → Prop} (hI : SteadyInvariant p mod I) (he : e.isReaction)
    (hsteady : e.isHibernation = false) (hstep : step p mod w e = some w') (hw : I w.helper) :
    I w'.helper := by
  obtain ⟨-, hhandle⟩ := handle_of_step hstep
  cases e with
  | setParameter key value =>
    cases hhandle
    exact hI.param _ _ _ hw
  | onFoldStatusChanged foldStatus =>
    cases hhandle
    exact hI.onFoldStatusChanged hw foldStatus
  | attachFoldStatusListener isFoldable foldStatus =>
    cases hhandle
    exact hI.attachFoldStatusListener hw isFoldable foldStatus
  | _ => exact step_callback hI.callbacks he hsteady rfl (by simp [Event.setsKey]) hstep hw

lemma ReactionInvariant.onHibernateStateUpdated {I : Helper M → Prop} {h : Helper M}
    (hI : ReactionInvariant mod I) (hh : I h) (isHibernate : Bool) :
    I (h.onHibernateStateUpdated p mod isHibernate) := by
  unfold Helper.onHibernateStateUpdated
  split
  · exact hh
  · exact hI.steady.onUpdateAllRecognitionState (hI.env _ _ hh)

lemma step_reaction {I : Helper M → Prop} (hI : ReactionInvariant mod I) (he : e.isReaction)
    (hstep : step p mod w e = some w') (hw : I w.helper) : I w'.helper := by
  cases hsteady : e.isHibernation with
  | false => exact step_steady hI.steady he hsteady hstep hw
  | true =>
    obtain ⟨-, hhandle⟩ := handle_of_step hstep
    cases e with
    | onHibernateStateUpdated isHibernate =>
      cases hhandle
      exact hI.onHibernateStateUpdated hw isHibernate
    | _ => cases hsteady

lemma step_cases (hstep : step p mod w e = some w') :
    (∃ uuid model callback, e = .startGenericRecognition uuid model callback ∧
      w' = w.setHelper (w.helper.startGenericRecognition p mod uuid model callback).2) ∨
    (∃ uuid, e = .stopGenericRecognition uuid ∧
      w' = w.setHelper (w.helper.stopGenericRecognition mod uuid).2) ∨
    (∃ uuid, e = .unloadGenericTriggerModel uuid ∧
      w' = w.setHelper (w.helper.unloadGenericTriggerModel mod uuid)) ∨
    (∃ handle, e = .onRecognition handle ∧ w.helper.io.moduleReady ∧
      w' = w.setHelper (w.helper.onRecognition handle)) ∨ e.isReaction := by
  obtain ⟨-, hhandle⟩ := handle_of_step hstep
  cases e with
  | startGenericRecognition uuid model callback =>
    exact .inl ⟨uuid, model, callback, rfl, (some.inj hhandle).symm⟩
  | stopGenericRecognition uuid =>
    exact .inr (.inl ⟨uuid, rfl, (some.inj hhandle).symm⟩)
  | unloadGenericTriggerModel uuid =>
    exact .inr (.inr (.inl ⟨uuid, rfl, (some.inj hhandle).symm⟩))
  | onRecognition modelHandle =>
    simp only [handle] at hhandle
    split at hhandle
    · exact .inr (.inr (.inr (.inl
        ⟨modelHandle, rfl, ‹_›, (some.inj hhandle).symm⟩)))
    · cases hhandle
  | _ => exact .inr (.inr (.inr (.inr rfl)))

end IntellVoice.Trigger
