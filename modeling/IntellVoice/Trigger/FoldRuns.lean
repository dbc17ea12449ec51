import IntellVoice.Trigger.Fold

/-! The requests and events that change the fold status, and their runs. -/

namespace IntellVoice.Trigger
open Loop Transition Helper
variable {M : Type*} {p : Platform} {mod : ConnectorModule M}

namespace Helper
variable {h h' : Helper M} {k : Int} {d : TriggerModelData}

lemma FoldAgrees.mono (hagrees : h.FoldAgrees p) (henv : h'.env = h.env)
    (hparam : h'.io.lastParam "is_folded" = h.io.lastParam "is_folded")
    (hmodels : ∀ k d', h'.find k = some d' → d'.state = .started →
      ∃ d, h.find k = some d ∧ d.state = .started ∧ d'.model = d.model) : h'.FoldAgrees p := by
  refine ⟨fun k d' hd' hstarted => ?_, fun d' hd' hstarted => ?_⟩
  · obtain ⟨d, hd, hbefore, -⟩ := hmodels k d' hd' hstarted
    unfold InSync
    rw [hparam, henv]
    exact hagrees.status k d hd hbefore
  · obtain ⟨d, hd, hbefore, hmodel⟩ := hmodels _ d' hd' hstarted
    rw [hmodel, henv]
    exact hagrees.whisper d hd hbefore

lemma FoldAgrees.onCell {β : Type*} (hagrees : h.FoldAgrees p) (k : Int) (absent : β)
    {f : Cell M → β × Cell M}
    (hkept : ∀ d, h.find k = some d → Cell.FoldKept ⟨d, h.io⟩ (f ⟨d, h.io⟩).2) :
    (h.onCell k absent f).2.FoldAgrees p := by
  cases hd : h.find k with
  | none =>
    rw [onCell_none hd]
    exact hagrees
  | some d =>
    refine hagrees.mono (onCell_env _ _ _ _) ?_ fun u d' hd' hstarted => ?_
    · rw [io_onCell hd]
      exact (hkept d hd).param
    · by_cases hu : u = k
      · subst hu
        rw [find_onCell_self hd] at hd'
        obtain rfl := Option.some.inj hd'
        exact ⟨d, hd, (hkept d hd).started hstarted⟩
      · rw [find_onCell_ne hu] at hd'
        exact ⟨d', hd', hstarted, rfl⟩

section Requests
variable (hs : mod.Succeeds) (hwindow : p.build.windowManager)
  (hfiles : ∀ folded, (p.readFile (whisperPath folded)).isSome)

structure Accepted (p : Platform) (uuid : Int) (h h' : Helper M) : Prop where
  env : h'.env = h.env
  param : h'.io.lastParam "is_folded" = h.io.lastParam "is_folded"
  keys : h'.KeysAgree
  agrees : h'.FoldAgrees p
  others : ∀ k, k ≠ uuid → h'.find k = h.find k
  entry : ∃ d, h'.find uuid = some d ∧ d.state ≠ .started

lemma exists_createTriggerModelData (uuid : Int) (h : Helper M) :
    ∃ d, (h.createTriggerModelData uuid).find uuid = some d := by
  unfold createTriggerModelData OrderedMap.insertNew
  split
  · exact Option.isSome_iff_exists.1 ‹_›
  · exact ⟨_, OrderedMap.find?_set_self _ _ _⟩

include hs in
lemma FoldAgrees.accepted (hagrees : h.FoldAgrees p) (ho : h.Orderly) (uuid : Int)
    (model : GenericTriggerModel) (callback : Option Callback) :
    h.Accepted p uuid ((h.createTriggerModelData uuid).onCell uuid false
      (acceptRequest mod model callback)).2 := by
  obtain ⟨d, hd⟩ := exists_createTriggerModelData uuid h
  -- an entry just created is not loaded and needs no module
  have hneeds : d.NeedsModule h.io := by
    rcases find_createTriggerModelData hd with hold | ⟨-, rfl⟩
    · exact ho.ready uuid d hold
    · exact fun hne => absurd rfl hne
  have hkept : Cell.FoldKept ⟨d, h.io⟩ (acceptRequest mod model callback ⟨d, h.io⟩).2 :=
    foldKept_acceptRequest hs model callback hneeds
  have hcreated : (h.createTriggerModelData uuid).FoldAgrees p := by
    refine hagrees.mono rfl rfl fun k d hd hstarted => ?_
    rcases find_createTriggerModelData hd with hold | ⟨-, rfl⟩
    · exact ⟨d, hold, hstarted, rfl⟩
    · cases hstarted
  -- a request touches the entry of its own uuid only
  have hserves := (Serves.createTriggerModelData ho.keys uuid).trans
    (Serves.onCell (Serves.createTriggerModelData ho.keys uuid).keys uuid false
      (serves_acceptRequest mod model callback))
  refine ⟨onCell_env _ _ _ _, ?_, hserves.keys, hcreated.onCell uuid false fun d' hd' => ?_,
    hserves.others, _, find_onCell_self hd _ _, acceptRequest_not_started hs model callback hneeds⟩
  · rw [io_onCell hd]
    exact hkept.param
  · obtain rfl : d = d' := Option.some.inj (hd.symm.trans hd')
    exact hkept

include hs hwindow hfiles in
lemma FoldAgrees.startGenericRecognition (hagrees : h.FoldAgrees p) (ho : h.Orderly)
    (uuid : Int) (model : GenericTriggerModel) (callback : Option Callback)
    (hsafe : h.InSync ∨ h.conflict p ∨ ∀ k d, h.find k = some d → uuid ≤ k) :
    (h.startGenericRecognition p mod uuid model callback).2.FoldAgrees p := by
  have haccepted := hagrees.accepted hs ho uuid model callback
  simp only [Helper.startGenericRecognition]
  generalize (h.createTriggerModelData uuid).onCell uuid false (acceptRequest mod model callback) =
    r at haccepted ⊢
  split
  · exact haccepted.agrees
  split
  · exact haccepted.agrees
  rename_i hconflict
  -- here the model is started, and the module is told if it is the first of the map
  obtain ⟨d, hd, hstate⟩ := haccepted.entry
  have hcontext : (r.2.startContext p).Foldable :=
    ⟨hwindow, (congrArg Env.isFoldable haccepted.env).trans ho.foldable, hfiles _⟩
  have hbegun : Cell.FoldBegun (r.2.startContext p) ⟨d, r.2.io⟩
      (prepareAndStart mod (r.2.startContext p) ⟨d, r.2.io⟩).2 :=
    foldBegun_prepareAndStart hs hcontext hstate
  have hstep : ∀ d', r.2.find uuid = some d' → Cell.FoldKept ⟨d', r.2.io⟩
      (prepareAndStart mod (r.2.startContext p) ⟨d', r.2.io⟩).2 ∨
      Cell.FoldBegun (r.2.startContext p) ⟨d', r.2.io⟩
        (prepareAndStart mod (r.2.startContext p) ⟨d', r.2.io⟩).2 := by
    intro d' hd'
    obtain rfl : d = d' := Option.some.inj (hd.symm.trans hd')
    exact .inr hbegun
  refine ⟨fun _ _ _ _ => ?_,
    haccepted.agrees.whisper.onCell haccepted.keys uuid (-1 : Int) hstep⟩
  rcases hsafe with hsync | hbusy | hleast
  · have hsync' : r.2.InSync := by
      unfold InSync
      rw [haccepted.param, haccepted.env]
      exact hsync
    exact hsync'.onCell uuid (-1 : Int) hstep
  · -- a conflict would have ended the request before
    rw [conflict, haccepted.env] at hconflict
    exact absurd hbusy hconflict
  have hfirst : r.2.IsFirst uuid d := by
    refine ⟨hd, fun u e hu => ?_⟩
    by_cases huuid : u = uuid
    · exact le_of_eq huuid.symm
    · exact hleast u e ((haccepted.others u huuid).symm.trans hu)
  exact hfirst.inSync_onCell haccepted.keys (-1 : Int) hbegun

lemma FoldAgrees.unloadGenericTriggerModel (hagrees : h.FoldAgrees p) (uuid : Int) :
    (h.unloadGenericTriggerModel mod uuid).FoldAgrees p := by
  cases hd : h.find uuid with
  | none => simpa [Helper.unloadGenericTriggerModel, hd] using hagrees
  | some d =>
    by_cases hstate : d.state = .notLoaded
    · simpa [Helper.unloadGenericTriggerModel, hd, hstate] using hagrees
    simp only [Helper.unloadGenericTriggerModel, hd, hstate, if_false]
    refine hagrees.mono (onCell_env _ _ _ _) ?_ fun k d' hd' hstarted => ⟨d', ?_, hstarted, rfl⟩
    · show (h.onCell uuid () (stopAndUnload mod)).2.io.lastParam "is_folded" = _
      rw [io_onCell hd]
      exact (lastParam_unloadModel mod _ _).trans (lastParam_stopRecognition mod _ _)
    · -- its own entry is erased
      have hne : k ≠ uuid := by
        rintro rfl
        simp [find] at hd'
      rw [← find_onCell_ne hne () (stopAndUnload mod) h]
      simpa [find, OrderedMap.find?_erase, hne] using hd'

lemma FoldAgrees.onRecognition (hagrees : h.FoldAgrees p) (handle : Int) :
    (h.onRecognition handle).FoldAgrees p := by
  refine hagrees.mono (onRecognition_env _ _) ?_ fun k d' hd' hstarted => ?_
  · cases hr : h.recognized handle with
    | none => rw [onRecognition_none hr]
    | some e =>
      rw [onRecognition_some hr]
      unfold reportDetection
      split
      · rfl
      · exact Io.lastParam_call (e := .onGenericTriggerDetected _ _ _) h.io h.io.conn rfl
  · rcases h.find_onRecognition handle k with hsame | ⟨d, hd, hload⟩
    · exact ⟨d', hsame ▸ hd', hstarted, rfl⟩
    -- a recognised model is loaded, no longer started
    obtain rfl : d.setState .loaded = d' := Option.some.inj (hload.symm.trans hd')
    cases hstarted

end Requests

structure Restartable (p : Platform) (h : Helper M) : Prop where
  started : ∀ k d, h.find k = some d → d.state = .started →
    d.requested ∧ h.conflict p = false
  request : h.RequestLeads

def stoppedState (conflict requested : Bool) (state : ModelState) : ModelState :=
  if requested && !conflict && decide (state = .started) then .loaded else state

lemma stoppedState_idem (conflict requested : Bool) (state : ModelState) :
    stoppedState conflict requested (stoppedState conflict requested state) =
      stoppedState conflict requested state := by
  revert conflict requested
  cases state <;> decide

section Restart
variable (hs : mod.Succeeds)
include hs in
lemma stopAllRecognition_maps (hready : h.Ready) :
    h.Maps (stoppedState (h.conflict p)) (h.stopAllRecognition p mod) := by
  have hround : ∀ (conflict : Bool) (c : Cell M), c.data.NeedsModule c.io →
      (stopNeeded mod conflict c).2.data.state =
        stoppedState conflict c.data.requested c.data.state := by
    intro conflict c hc
    unfold stopNeeded stoppedState
    by_cases hneed : (c.data.requested && !conflict)
    · simp [hneed, (stopRecognition_succeeds hs hc).2]
    · simp [Bool.eq_false_of_not_eq_true hneed]
  refine forModels_maps (stoppedState_idem _) ?_ ?_ ?_ ?_ hready
  · intro k h' _ _
    cases hk : h'.find k with
    | none => rw [onCell_none hk]
    | some d =>
      rw [onCell_some hk]
      unfold stopNeeded
      split <;> rfl
  · intro k h' hr henv
    exact ⟨(reactionInvariant_ready mod).cell h' k _ (.stop _) hr,
      (onCell_env _ _ _ _).trans henv⟩
  · exact fun k k' h' hk => find_onCell_ne hk _ _ _
  · intro k h' d' hr henv hd'
    rw [conflict, henv] at hd'
    exact onCell_maps (.stop _) (fun c hc => hround _ c hc) hr hd'

lemma stopAllRecognition_reacts (p : Platform) (mod : ConnectorModule M) (h : Helper M) :
    h.Reacts (h.stopAllRecognition p mod) :=
  visitUntil_invariant (fun uuid h' hr => hr.trans (.onCell h' uuid (.stop _))) _ (.refl h)

lemma stopAllRecognition_orderly (ho : h.Orderly) : (h.stopAllRecognition p mod).Orderly :=
  visitUntil_invariant (fun uuid _ ho => ho.onCell uuid (.stop _)) _ ho

lemma Reacts.find_of (hr : h.Reacts h') {u : Int} {e' : TriggerModelData}
    (he : h'.find u = some e') : ∃ e, h.find u = some e ∧ e'.requested = e.requested := by
  cases hu : h.find u with
  | none =>
    rw [hr.absent u hu] at he
    cases he
  | some e =>
    obtain ⟨e₁, he₁, -, hrequested, -⟩ := hr.data u e hu
    obtain rfl : e₁ = e' := Option.some.inj (he₁.symm.trans he)
    exact ⟨e, rfl, hrequested⟩

lemma RequestLeads.reacts (hleads : h.RequestLeads) (hr : h.Reacts h') : h'.RequestLeads := by
  intro k d' u e' hfirst hu hrequested
  obtain ⟨d, hd, hd'⟩ := hr.find_of hfirst.1
  obtain ⟨e, he, he'⟩ := hr.find_of hu
  have hfirst' : h.IsFirst k d := by
    refine ⟨hd, fun v f hv => ?_⟩
    obtain ⟨f', hf', -⟩ := hr.data v f hv
    exact hfirst.2 v f' hf'
  rw [hd']
  exact hleads k d u e hfirst' he (he'.symm.trans hrequested)

variable (hwindow : p.build.windowManager)
  (hfiles : ∀ folded, (p.readFile (whisperPath folded)).isSome)

include hs hwindow hfiles in
lemma Orderly.restart (ho : h.Orderly) (hrestart : h.Restartable p) :
    (h.restartAllRecognition p mod).FoldAgrees p := by
  -- the first loop stops what is wanted, and by assumption nothing else runs
  have hnone : (h.stopAllRecognition p mod).NoneStarted := by
    intro k d' hd' hstarted
    obtain ⟨d, hd, -, hstate⟩ := stopAllRecognition_maps hs ho.ready k d' hd'
    rw [hstate] at hstarted
    by_cases hrunning : d.state = .started
    · obtain ⟨hrequested, hconflict⟩ := hrestart.started k d hd hrunning
      simp [stoppedState, hrequested, hconflict, hrunning] at hstarted
    · simp [stoppedState, hrunning] at hstarted
  have hleads := hrestart.request.reacts (stopAllRecognition_reacts p mod h)
  rcases (stopAllRecognition_orderly ho).exec hs hwindow hfiles hnone hleads .startAllRecognition
    with hsync | hsame
  · exact hsync.foldAgrees
  · exact (hsame.noneStarted hnone).foldAgrees

include hs hwindow hfiles in
lemma Synced.restart (hsync : h.Synced p) : (h.restartAllRecognition p mod).FoldAgrees p := by
  have hstop : (h.stopAllRecognition p mod).Synced p :=
    visitUntil_invariant (fun uuid h' hsync => hsync.onCell uuid (.stop _) fun d hd =>
      .inl (foldKept_stopNeeded hs (hsync.ready uuid d hd))) _ hsync
  exact (hstop.exec hs hwindow hfiles .startAllRecognition).foldAgrees

lemma FoldAgrees.synced_setEnv (hagrees : h.FoldAgrees p) (ho : h.Orderly) (env : Env)
    (hfoldable : env.isFoldable) (hsync : (h.setEnv env).InSync) : (h.setEnv env).Synced p := by
  refine ⟨ho.setEnv env hfoldable, hsync, fun d hd hstarted => ?_⟩
  -- a running model was in step with the old status, which then is folded when the new one is
  have hold := hagrees.status _ d hd hstarted
  have hsame : h.env.curFoldStatus = .folded ↔ env.curFoldStatus = .folded := hold.symm.trans hsync
  rw [hagrees.whisper d hd hstarted]
  exact congrArg (fun folded => p.readFile (whisperPath folded)) (decide_eq_decide.2 hsame)

end Restart
end Helper

inductive FoldEvent where
  | helper (e : Event)
  | detachFoldStatusListener

def foldStep (p : Platform) (mod : ConnectorModule M) (w : World M) : FoldEvent → Option (World M)
  | .helper e => step p mod w e
  | .detachFoldStatusListener =>
    some (w.setHelper (w.helper.setEnv { w.helper.env with isFoldStatusDetached := true }))

def Event.FoldSafe (p : Platform) (h : Helper M) : Event → Prop
  | .setParameter key _ => key ≠ "is_folded"
  | .startGenericRecognition uuid _ _ =>
    h.env.isFoldable → h.InSync ∨ h.conflict p ∨ ∀ k d, h.find k = some d → uuid ≤ k
  | .stopGenericRecognition _ => True
  | .unloadGenericTriggerModel _ => True
  | .onRecognition _ => True
  | .onFoldStatusChanged foldStatus => h.env.isFoldable →
    (h.setEnv { h.env with curFoldStatus := newFoldStatus foldStatus }).InSync ∨
      h.Restartable p
  | .attachFoldStatusListener isFoldable .folded => isFoldable →
    (h.env.isFoldable ∧ h.env.curFoldStatus = .folded ∧ h.InSync) ∨ h.Restartable p
  | .attachFoldStatusListener isFoldable _ => isFoldable →
    (h.env.isFoldable ∧ h.env.curFoldStatus ≠ .folded) ∨ h.NoneStarted
  | _ => h.env.isFoldable → h.InSync ∨ h.RequestLeads ∧ h.LoadLeads

/-- The step finds the models in step with the fold status, or restarts them. -/
def FoldEvent.Safe (p : Platform) (h : Helper M) : FoldEvent → Prop
  | .helper e => e.FoldSafe p h
  | .detachFoldStatusListener => True

structure Helper.FoldSound (p : Platform) (h : Helper M) : Prop where
  ready : h.Ready
  keys : h.KeysAgree
  agrees : h.env.isFoldable → h.FoldAgrees p

section Steps
variable {h : Helper M} {w w' : World M} {e : Event} (hs : mod.Succeeds)
  (hwindow : p.build.windowManager)
  (hfiles : ∀ folded, (p.readFile (whisperPath folded)).isSome)

lemma callbackInvariant_isFoldable (p : Platform) (mod : ConnectorModule M) (foldable : Bool) :
    CallbackInvariant p mod fun h : Helper M => h.env.isFoldable = foldable where
  env _ _ _ hsame _ hh := hsame.trans hh
  param _ _ _ _ hh := hh
  update h hh := (congrArg Env.isFoldable (onUpdateAllRecognitionState_env p mod h)).trans hh
  opened h hh := by
    refine visitUntil_invariant (I := fun h : Helper M => h.env.isFoldable = foldable) ?_ _ hh
    intro uuid h hh
    exact (congrArg Env.isFoldable (startLoaded_env p mod (some uuid) h)).trans hh

lemma Helper.FoldSound.begins (hsound : h.FoldSound p) (hfoldable : h.env.isFoldable)
    (hsafe : h.InSync ∨ h.RequestLeads ∧ h.LoadLeads) : h.Synced p ∨ h.Pending := by
  have ho : h.Orderly := ⟨hfoldable, hsound.ready, hsound.keys⟩
  have hagrees := hsound.agrees hfoldable
  by_cases hsync : h.InSync
  · exact .inl ⟨ho, hsync, hagrees.whisper⟩
  -- the module does not know the status, so nothing runs
  have hnone : h.NoneStarted := fun k d hd hstarted => hsync (hagrees.status k d hd hstarted)
  obtain ⟨hrequest, hload⟩ := hsafe.resolve_left hsync
  exact .inr ⟨ho, hnone, hrequest, hload⟩

lemma Helper.foldAgrees_of_either (hh : h.Synced p ∨ h.Pending) : h.FoldAgrees p :=
  hh.elim Synced.foldAgrees fun hpending => hpending.none.foldAgrees

include hs hwindow hfiles in
lemma callback_foldAgrees (hsound : w.helper.FoldSound p) (hsafe : w.helper.env.isFoldable →
      w.helper.InSync ∨ w.helper.RequestLeads ∧ w.helper.LoadLeads)
    (he : e.isReaction) (hsteady : e.isHibernation = false) (hfold : e.isFold = false)
    (hkey : e.setsKey ≠ some "is_folded") (hstep : step p mod w e = some w')
    (hfoldable : w'.helper.env.isFoldable) : w'.helper.FoldAgrees p := by
  cases hbefore : w.helper.env.isFoldable with
  | false =>
    -- a callback does not make the device foldable
    have hafter := step_callback (callbackInvariant_isFoldable p mod false) he hsteady hfold hkey
      hstep hbefore
    rw [hafter] at hfoldable
    cases hfoldable
  | true =>
    exact foldAgrees_of_either
      (step_callback (callbackInvariant_fold hs hwindow hfiles) he hsteady hfold hkey hstep
        (hsound.begins hbefore (hsafe hbefore)))

include hs hwindow hfiles in
lemma hibernate_foldAgrees (hsound : h.FoldSound p) (isHibernate : Bool)
    (hsafe : h.env.isFoldable → h.InSync ∨ h.RequestLeads ∧ h.LoadLeads)
    (hfoldable : (h.onHibernateStateUpdated p mod isHibernate).env.isFoldable) :
    (h.onHibernateStateUpdated p mod isHibernate).FoldAgrees p := by
  unfold Helper.onHibernateStateUpdated at hfoldable ⊢
  split
  · rename_i hsame
    rw [if_pos hsame] at hfoldable
    exact hsound.agrees hfoldable
  -- the update that follows is that of any callback
  rename_i hchange
  rw [if_neg hchange, updateEnv, onUpdateAllRecognitionState_env] at hfoldable
  have hbefore : h.env.isFoldable := hfoldable
  exact foldAgrees_of_either ((callbackInvariant_fold hs hwindow hfiles).update _
    (fold_setEnv (hsound.begins hbefore (hsafe hbefore)) rfl rfl))

include hs hwindow hfiles in
lemma foldChange_foldAgrees (hsound : h.FoldSound p) (foldStatus : FoldStatus)
    (hsafe : h.env.isFoldable →
      (h.setEnv { h.env with curFoldStatus := newFoldStatus foldStatus }).InSync ∨
        h.Restartable p)
    (hfoldable : (h.onFoldStatusChanged p mod foldStatus).env.isFoldable) :
    (h.onFoldStatusChanged p mod foldStatus).FoldAgrees p := by
  unfold Helper.onFoldStatusChanged at hfoldable ⊢
  split
  · rename_i hsame
    rw [if_pos hsame] at hfoldable
    exact hsound.agrees hfoldable
  rename_i hchange
  rw [if_neg hchange, restartAllRecognition_env] at hfoldable
  have hbefore : h.env.isFoldable := hfoldable
  have ho : h.Orderly := ⟨hbefore, hsound.ready, hsound.keys⟩
  -- the module knows the new status already, or the restart tells it
  rcases hsafe hbefore with hsync | hrestart
  · exact Helper.Synced.restart hs hwindow hfiles
      ((hsound.agrees hbefore).synced_setEnv ho _ (by exact hbefore) hsync)
  · exact Helper.Orderly.restart hs hwindow hfiles ⟨hbefore, hsound.ready, hsound.keys⟩
      ⟨hrestart.started, hrestart.request⟩

include hs hwindow hfiles in
lemma attach_foldAgrees (hsound : h.FoldSound p) (isFoldable : Bool) (foldStatus : FoldStatus)
    (hsafe : Event.FoldSafe p h (.attachFoldStatusListener isFoldable foldStatus))
    (hfoldable : (h.attachFoldStatusListener p mod isFoldable foldStatus).env.isFoldable) :
    (h.attachFoldStatusListener p mod isFoldable foldStatus).FoldAgrees p := by
  have hvde : (p.readFile whisperModelPathVde).isSome := hfiles true
  cases hdetached : h.env.isFoldStatusDetached with
  | true =>
    -- `isFoldStatusDetached_` makes the function return at once
    have hsame : h.attachFoldStatusListener p mod isFoldable foldStatus = h := by
      simp [Helper.attachFoldStatusListener, hdetached]
    rw [hsame] at hfoldable ⊢
    exact hsound.agrees hfoldable
  | false =>
    cases isFoldable with
    | false => simp [Helper.attachFoldStatusListener, hdetached] at hfoldable
    | true =>
      by_cases hstatus : foldStatus = .folded
      · -- only the folded status restarts the models here
        subst hstatus
        have hattach : h.attachFoldStatusListener p mod true .folded =
            restartAllRecognition p mod
              (h.setEnv { h.env with isFoldable := true, curFoldStatus := .folded }) := by
          simp [Helper.attachFoldStatusListener, hdetached, hvde, Helper.setEnv]
        rw [hattach]
        rcases hsafe rfl with ⟨hbefore, hfolded, hsync⟩ | hrestart
        · have ho : h.Orderly := ⟨hbefore, hsound.ready, hsound.keys⟩
          have hknown : (h.setEnv
              { h.env with isFoldable := true, curFoldStatus := .folded }).InSync :=
            ⟨fun _ => rfl, fun _ => hsync.2 hfolded⟩
          exact ((hsound.agrees hbefore).synced_setEnv ho _ rfl hknown).restart hs hwindow hfiles
        · refine Helper.Orderly.restart hs hwindow hfiles ⟨rfl, hsound.ready, hsound.keys⟩ ?_
          exact ⟨hrestart.started, hrestart.request⟩
      · -- the status is written and no model is told of it
        have hattach : h.attachFoldStatusListener p mod true foldStatus =
            h.setEnv { h.env with isFoldable := true, curFoldStatus := foldStatus } := by
          simp [Helper.attachFoldStatusListener, hdetached, hvde, hstatus, Helper.setEnv]
        have hsafe' : (h.env.isFoldable ∧ h.env.curFoldStatus ≠ .folded) ∨
            h.NoneStarted := by
          cases foldStatus with
          | folded => exact absurd rfl hstatus
          | _ => exact hsafe rfl
        rw [hattach]
        rcases hsafe' with ⟨hbefore, hnot⟩ | hnone
        · have hagrees := hsound.agrees hbefore
          have hsame : foldStatus = .folded ↔ h.env.curFoldStatus = .folded :=
            iff_of_false hstatus hnot
          refine ⟨fun k d hd hstarted => (hagrees.status k d hd hstarted).trans hsame.symm,
            fun d hd hstarted => ?_⟩
          rw [hagrees.whisper d hd hstarted]
          exact congrArg (fun folded => p.readFile (whisperPath folded))
            (decide_eq_decide.2 hsame.symm)
        · exact Helper.NoneStarted.foldAgrees hnone

include hs hwindow hfiles in
lemma step_foldAgrees (hsound : w.helper.FoldSound p) (hsafe : e.FoldSafe p w.helper)
    (hstep : step p mod w e = some w') (hfoldable : w'.helper.env.isFoldable) :
    w'.helper.FoldAgrees p := by
  obtain ⟨-, hhandle⟩ := handle_of_step hstep
  cases e with
  | startGenericRecognition uuid model callback =>
    cases hhandle
    have hbefore : w.helper.env.isFoldable :=
      (congrArg Env.isFoldable (startGenericRecognition_env p mod uuid model callback
        w.helper)).symm.trans hfoldable
    exact (hsound.agrees hbefore).startGenericRecognition hs hwindow hfiles
      ⟨hbefore, hsound.ready, hsound.keys⟩ uuid model callback (hsafe hbefore)
  | stopGenericRecognition uuid =>
    cases hhandle
    have hbefore : w.helper.env.isFoldable :=
      (congrArg Env.isFoldable (onCell_env _ _ _ _)).symm.trans hfoldable
    exact (hsound.agrees hbefore).onCell uuid (-1 : Int) fun d hd =>
      foldKept_stopRequested hs (hsound.ready uuid d hd)
  | unloadGenericTriggerModel uuid =>
    cases hhandle
    have hbefore : w.helper.env.isFoldable :=
      (congrArg Env.isFoldable (unloadGenericTriggerModel_env mod uuid
        w.helper)).symm.trans hfoldable
    exact (hsound.agrees hbefore).unloadGenericTriggerModel uuid
  | onRecognition handle =>
    simp only [Trigger.handle] at hhandle
    split at hhandle
    · cases hhandle
      have hbefore : w.helper.env.isFoldable :=
        (congrArg Env.isFoldable (onRecognition_env handle w.helper)).symm.trans hfoldable
      exact (hsound.agrees hbefore).onRecognition handle
    · cases hhandle
  | setParameter key value =>
    cases hhandle
    exact (hsound.agrees hfoldable).mono rfl
      (Io.lastParam_setParameter_ne mod value w.helper.io hsafe)
      fun k d hd hstarted => ⟨d, hd, hstarted, rfl⟩
  | onHibernateStateUpdated isHibernate =>
    cases hhandle
    exact hibernate_foldAgrees hs hwindow hfiles hsound isHibernate hsafe hfoldable
  | onFoldStatusChanged foldStatus =>
    cases hhandle
    exact foldChange_foldAgrees hs hwindow hfiles hsound foldStatus hsafe hfoldable
  | attachFoldStatusListener isFoldable foldStatus =>
    cases hhandle
    exact attach_foldAgrees hs hwindow hfiles hsound isFoldable foldStatus hsafe hfoldable
  | _ =>
    exact callback_foldAgrees hs hwindow hfiles hsound hsafe rfl rfl rfl
      (by simp [Event.setsKey]) hstep hfoldable

include hs hwindow hfiles in
lemma foldStep_sound {e : FoldEvent} (hsound : w.helper.FoldSound p)
    (hsafe : e.Safe p w.helper) (hstep : foldStep p mod w e = some w') : w'.helper.FoldSound p := by
  cases e with
  | helper e =>
    exact ⟨step_ready hsound.ready hstep, step_keysAgree hsound.keys hstep,
      step_foldAgrees hs hwindow hfiles hsound hsafe hstep⟩
  | detachFoldStatusListener =>
    cases hstep
    exact ⟨hsound.ready, hsound.keys, fun hfoldable =>
      ⟨(hsound.agrees hfoldable).status, (hsound.agrees hfoldable).whisper⟩⟩

end Steps

theorem run_fold_agrees (p : Platform) (mod : ConnectorModule M) (hs : mod.Succeeds)
    (hwindow : p.build.windowManager)
    (hfiles : ∀ folded, (p.readFile (whisperPath folded)).isSome) (conn : M) (pipes : InputPipes)
    (kv : StoredLists) (es : List FoldEvent)
    (hsafe : Along (foldStep p mod) (fun w e _ => e.Safe p w.helper)
      (World.initial conn pipes kv) es) :
    Along (foldStep p mod) (fun _ _ w => w.helper.env.isFoldable → w.helper.FoldAgrees p)
      (World.initial conn pipes kv) es := by
  -- the invariant also holds what is true while the device is not foldable
  refine along_of_invariant (I := fun w : World M => w.helper.FoldSound p)
    (fun w e w' hsound hmeets hstep => ?_) ?_ hsafe
  · have hsound' := foldStep_sound hs hwindow hfiles hsound hmeets hstep
    exact ⟨hsound', hsound'.agrees⟩
  · exact ⟨fun k d hd => (by cases hd), fun k d hd => (by cases hd), fun hfoldable =>
      (by cases hfoldable)⟩

def Platform.foldable : Platform :=
  { Platform.bare { Build.minimal true with windowManager := true } with
    readFile := fun path => some (if path = whisperModelPathVde then [1] else [2]) }

lemma Helper.forall_find {h : Helper M} {P : Int → TriggerModelData → Prop}
    (hentries : ∀ e ∈ h.modelDataMap.entries, P e.1 e.2) (k : Int) (d : TriggerModelData)
    (hd : h.find k = some d) : P k d :=
  hentries (k, d) (OrderedMap.find?_eq_some_iff.1 hd)

theorem run_fold_agrees_folded :
    Along (foldStep Platform.foldable countingModule)
      (fun _ _ w => w.helper.env.isFoldable → w.helper.FoldAgrees Platform.foldable)
      (World.initial 0 (some []) {})
      [.helper (.attachFoldStatusListener true .expand),
        .helper (.startGenericRecognition 1 (.voiceWakeup [7]) (some 5)),
        .helper (.startGenericRecognition 2 ⟨2, 2, 2, [9]⟩ (some 6)),
        .helper (.onFoldStatusChanged .folded)] := by
  refine run_fold_agrees _ _ countingModule_succeeds rfl (fun _ => rfl) 0 (some []) {} _ ?_
  refine .of_step rfl (fun _ => .inr ?_) (.of_step rfl (fun _ => .inl ?_)
    (.of_step rfl (fun _ => .inl ?_) (.of_step rfl (fun _ => .inr ⟨?_, ?_⟩) trivial)))
  · intro k d hd
    cases hd
  · show _ ↔ _
    decide
  · show _ ↔ _
    decide
  · refine forall_find ?_
    decide
  · intro k d u e hfirst
    have hall := forall_find (P := fun _ d => d.requested) (by decide) k d
      hfirst.1
    exact fun _ _ => hall

theorem stopped_first_model_hides_fold :
    ¬ Along (foldStep Platform.foldable countingModule)
      (fun _ _ w => w.helper.env.isFoldable → w.helper.FoldAgrees Platform.foldable)
      (World.initial 0 (some []) {})
      [.helper (.attachFoldStatusListener true .expand),
        .helper (.startGenericRecognition 1 (.voiceWakeup [7]) (some 5)),
        .helper (.startGenericRecognition 2 ⟨2, 2, 2, [9]⟩ (some 6)),
        .helper (.stopGenericRecognition 1),
        .helper (.onFoldStatusChanged .folded)] := by
  intro h
  have hagrees := (((((h _ rfl).2 _ rfl).2 _ rfl).2 _ rfl).2 _ rfl).1 rfl
  have hsync := hagrees.status 2 _ rfl rfl
  exact absurd (hsync.2 rfl) (by decide)

end IntellVoice.Trigger
