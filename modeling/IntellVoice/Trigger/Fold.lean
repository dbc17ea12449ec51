import IntellVoice.Trigger.Evaluation
import IntellVoice.Trigger.Parameters
import IntellVoice.Trigger.Rounds

/-! The fold status of the device chooses the whisper model. -/

namespace IntellVoice.Trigger
open Loop ModelLoop
variable {M : Type*} {p : Platform} {mod : ConnectorModule M}

def foldText (folded : Bool) : String := if folded then "true" else "false"

def whisperPath (folded : Bool) : String :=
  if folded then whisperModelPathVde else whisperModelPath

structure StartContext.Foldable (ctx : StartContext) : Prop where
  windowManager : ctx.windowManager
  isFoldable : ctx.isFoldable
  file : (ctx.readFile (whisperPath ctx.folded)).isSome

lemma lastParam_loadModel (mod : ConnectorModule M) (c : Cell M) (key : String) :
    (loadModel mod c).2.io.lastParam key = c.io.lastParam key := by
  rcases loadModel_cases mod c with heq | ⟨-, -, ⟨-, heq⟩ | ⟨-, heq⟩⟩ <;> rw [heq]
  all_goals exact Io.lastParam_call _ _ rfl

lemma lastParam_unloadModel (mod : ConnectorModule M) (c : Cell M) (key : String) :
    (unloadModel mod c).2.io.lastParam key = c.io.lastParam key := by
  rcases unloadModel_cases mod c with ⟨heq, -⟩ | ⟨-, -, heq⟩ <;> rw [heq]
  exact Io.lastParam_call _ _ rfl

lemma lastParam_stopRecognition (mod : ConnectorModule M) (c : Cell M) (key : String) :
    (stopRecognition mod c).2.io.lastParam key = c.io.lastParam key := by
  rcases stopRecognition_cases mod c with ⟨heq, -⟩ | ⟨-, -, ⟨-, heq⟩ | ⟨-, heq⟩⟩ <;> rw [heq]
  all_goals exact Io.lastParam_call _ _ rfl

lemma lastParam_callStart (mod : ConnectorModule M) (c : Cell M) (key : String) :
    (callStart mod c).2.io.lastParam key = c.io.lastParam key := by
  rcases callStart_cases mod c with ⟨-, heq⟩ | ⟨-, heq⟩ <;> rw [heq]
  all_goals exact Io.lastParam_call _ _ rfl

lemma lastParam_prepareForRecognition (mod : ConnectorModule M) (c : Cell M) (key : String) :
    (prepareForRecognition mod c).2.io.lastParam key = c.io.lastParam key := by
  have hget := c.io.lastParam_getModule mod key
  have hload := lastParam_loadModel mod { c with io := (c.io.getModule mod).2 } key
  simp only [prepareForRecognition]
  split
  · exact hget
  · split <;> exact hload.trans hget

lemma lastParam_reLoadWhisperModel (mod : ConnectorModule M) (ctx : StartContext) (c : Cell M)
    (key : String) : (reLoadWhisperModel mod ctx c).io.lastParam key = c.io.lastParam key := by
  unfold reLoadWhisperModel
  split
  · rfl
  split
  · rfl
  rename_i model _
  have hemit : (c.io.emit (.updateGenericTriggerModel model)).lastParam key =
      c.io.lastParam key :=
    Io.lastParam_call (e := .updateGenericTriggerModel model) c.io c.io.conn rfl
  dsimp only
  split
  · exact hemit
  · exact (lastParam_loadModel mod _ key).trans ((lastParam_unloadModel mod _ key).trans hemit)

lemma lastParam_beforeStart {ctx : StartContext} (hctx : ctx.Foldable) {c : Cell M}
    (hready : c.io.moduleReady) : (beforeStart mod ctx c).io.lastParam "is_folded" =
      if ctx.firstUuid = some c.data.uuid then some (foldText ctx.folded)
      else c.io.lastParam "is_folded" := by
  -- the input gain goes through `SetExtraParameters`
  have hgain : ∀ io : Io M, (handleWakeupInputGain ctx io).lastParam "is_folded" =
      io.lastParam "is_folded" := fun io =>
    Io.lastParam_call (e := .setExtraParameters _ _ _) io io.conn rfl
  have hreload := lastParam_reLoadWhisperModel mod ctx c "is_folded"
  have hset : (reLoadWhisperModel mod ctx c).io.moduleReady :=
    ((cellInvariant_acts mod c).reLoadWhisperModel ctx (.refl c)).io.ready hready
  have hfold : (foldStatusOperation mod ctx c).io.lastParam "is_folded" =
      if ctx.firstUuid = some c.data.uuid then some (foldText ctx.folded)
      else c.io.lastParam "is_folded" := by
    rw [foldStatusOperation_eq mod c hctx.isFoldable]
    split
    · refine (Io.lastParam_setParameter mod _ _ _).trans ?_
      -- the module is there, so `SetParameter` does not stop before the call
      rw [Io.getModule_of_ready hset]
      rfl
    · exact hreload
  rw [beforeStart_of_window mod ctx c hctx.windowManager]
  split
  · exact (hgain _).trans hfold
  · exact hfold

lemma model_loadModel (mod : ConnectorModule M) (c : Cell M) :
    (loadModel mod c).2.data.model = c.data.model := by
  rcases loadModel_cases mod c with heq | ⟨-, -, ⟨-, heq⟩ | ⟨-, heq⟩⟩ <;> rw [heq]
  rfl

lemma model_callStart (mod : ConnectorModule M) (c : Cell M) :
    (callStart mod c).2.data.model = c.data.model := by
  rcases callStart_cases mod c with ⟨-, heq⟩ | ⟨-, heq⟩ <;> rw [heq]
  rfl

lemma TriggerModelData.data_of_sameModel {d : TriggerModelData} {model : GenericTriggerModel}
    (hsame : d.sameModel model) : d.model.map (·.data) = some model.data := by
  unfold sameModel at hsame
  split at hsame
  · cases hsame
  rename_i m hm
  rw [hm]
  exact congrArg some (by simpa using hsame)

lemma TriggerModelData.data_setModel (d : TriggerModelData) (model : GenericTriggerModel) :
    (d.setModel model).model.map (·.data) = some model.data := by
  unfold setModel
  split
  · exact data_of_sameModel ‹_›
  · rfl

lemma model_reLoadWhisperModel (mod : ConnectorModule M) {ctx : StartContext}
    {model : GenericTriggerModel} (hread : readWhisperModel ctx = some model) {c : Cell M}
    (huuid : c.data.uuid = proximalWakeupModelUuid) :
    (reLoadWhisperModel mod ctx c).data.model.map (·.data) = some model.data := by
  simp only [reLoadWhisperModel, huuid, ne_eq, not_true_eq_false, if_false, hread]
  split
  · exact TriggerModelData.data_of_sameModel ‹_›
  · rw [model_loadModel]
    exact TriggerModelData.data_setModel _ model

lemma model_beforeStart {ctx : StartContext} (hctx : ctx.Foldable) {c : Cell M}
    (huuid : c.data.uuid = proximalWakeupModelUuid) :
    (beforeStart mod ctx c).data.model.map (·.data) = ctx.readFile (whisperPath ctx.folded) := by
  -- the file is read at each start, whatever model was loaded before
  obtain ⟨data, hdata⟩ := Option.isSome_iff_exists.1 hctx.file
  have hread : readWhisperModel ctx = some ⟨proximalWakeupModelUuid, modelVersion2,
      proximalWakeupType, data⟩ := congrArg (Option.map _) hdata
  have hreload := model_reLoadWhisperModel mod hread huuid
  have hfold : (foldStatusOperation mod ctx c).data.model.map (·.data) = some data := by
    rw [foldStatusOperation_eq mod c hctx.isFoldable]
    split <;> exact hreload
  rw [hdata, beforeStart_of_window mod ctx c hctx.windowManager]
  split <;> exact hfold

structure Cell.FoldKept (c c' : Cell M) : Prop where
  param : c'.io.lastParam "is_folded" = c.io.lastParam "is_folded"
  started : c'.data.state = .started → c.data.state = .started ∧ c'.data.model = c.data.model

structure Cell.FoldBegun (ctx : StartContext) (c c' : Cell M) : Prop where
  param : c'.io.lastParam "is_folded" =
    if ctx.firstUuid = some c.data.uuid then some (foldText ctx.folded)
    else c.io.lastParam "is_folded"
  whisper : c.data.uuid = proximalWakeupModelUuid →
    c'.data.model.map (·.data) = ctx.readFile (whisperPath ctx.folded)

section Operations
variable {ctx : StartContext} {c : Cell M} {conflict : Bool}

lemma Cell.FoldKept.refl (c : Cell M) : c.FoldKept c := ⟨rfl, fun h => ⟨h, rfl⟩⟩

lemma Cell.FoldKept.of_not_started {c' : Cell M}
    (hparam : c'.io.lastParam "is_folded" = c.io.lastParam "is_folded")
    (hstate : c'.data.state ≠ .started) : c.FoldKept c' :=
  ⟨hparam, fun h => absurd h hstate⟩

lemma foldBegun_startRecognition (mod : ConnectorModule M) (hctx : ctx.Foldable)
    (hready : c.io.moduleReady) (hloaded : c.data.state = .loaded) :
    c.FoldBegun ctx (startRecognition mod ctx c).2 := by
  have hstart : startRecognition mod ctx c = callStart mod (beforeStart mod ctx c) := by
    simp [startRecognition, hloaded, hready]
  rw [hstart]
  refine ⟨?_, fun huuid => ?_⟩
  · rw [lastParam_callStart, lastParam_beforeStart hctx hready]
  · rw [model_callStart, model_beforeStart hctx huuid]

section
variable (hs : mod.Succeeds)
include hs

lemma foldBegun_prepared (hctx : ctx.Foldable) (hstate : c.data.state ≠ .started) :
    c.FoldBegun ctx (startRecognition mod ctx (prepareForRecognition mod c).2).2 := by
  obtain ⟨hloaded, hready⟩ := loaded_of_prepared (prepareForRecognition_succeeds hs c).1 hstate
  have huuid := (acts_prepareForRecognition mod c).uuid
  have hbegun := foldBegun_startRecognition mod hctx hready hloaded
  refine ⟨?_, fun hwhisper => hbegun.whisper (huuid.trans hwhisper)⟩
  rw [hbegun.param, huuid, lastParam_prepareForRecognition]

lemma attempt_succeeds (ctx : StartContext) (c : Cell M) :
    attempt mod ctx c = (true, (startRecognition mod ctx (prepareForRecognition mod c).2).2) := by
  simp [attempt, (prepareForRecognition_succeeds hs c).1]

lemma foldKept_stopRecognition (hc : c.data.NeedsModule c.io) :
    c.FoldKept (stopRecognition mod c).2 :=
  .of_not_started (lastParam_stopRecognition mod c _) (stopRecognition_not_started hs hc)

lemma foldKept_stopNeeded (hc : c.data.NeedsModule c.io) :
    c.FoldKept (stopNeeded mod conflict c).2 := by
  unfold stopNeeded
  split
  · exact .refl c
  · exact foldKept_stopRecognition hs hc

lemma foldKept_halt (hc : c.data.NeedsModule c.io) (hstate : c.data.state = .started)
    (hibernate : Bool) : c.FoldKept (halt mod hibernate c) := by
  have hstop := foldKept_stopRecognition hs hc
  unfold halt
  cases hibernate with
  | true =>
    refine .of_not_started ((lastParam_unloadModel mod _ _).trans hstop.param) ?_
    rw [if_pos rfl, stopAndUnload_succeeds hs hc hstate]
    exact ModelState.noConfusion
  | false => exact hstop

lemma fold_op (hctx : ctx.Foldable) (hc : c.data.NeedsModule c.io) (hibernate : Bool)
    (l : ModelLoop) : c.FoldKept (l.op mod ctx conflict hibernate c).2 ∨
      c.FoldBegun ctx (l.op mod ctx conflict hibernate c).2 := by
  by_cases hstarts : c.data.Starts conflict
  · rw [op_of_starts hstarts, attempt_succeeds hs]
    exact .inr (foldBegun_prepared hs hctx hstarts.2)
  by_cases hdue : l.Due conflict c.data
  · obtain ⟨hstate, hop⟩ := ModelLoop.op_of_running mod ctx hibernate hdue hstarts
    rw [hop]
    exact .inl (foldKept_halt hs hc hstate hibernate)
  · rw [op_of_not_due hdue hc]
    exact .inl (.refl c)

end

lemma fold_startUnlessStarted (hctx : ctx.Foldable) (hc : c.data.NeedsModule c.io) :
    c.FoldKept (Helper.startUnlessStarted mod ctx c).2 ∨
      c.FoldBegun ctx (Helper.startUnlessStarted mod ctx c).2 := by
  cases hstate : c.data.state with
  | notLoaded =>
    simp only [Helper.startUnlessStarted, startRecognition, hstate]
    exact .inl (.refl c)
  | loaded =>
    -- loaded once before, so the module is there
    have hready : c.io.moduleReady := hc (by simp [hstate])
    have hne : c.data.state ≠ .started := by simp [hstate]
    simp only [Helper.startUnlessStarted, if_pos hne]
    exact .inr (foldBegun_startRecognition mod hctx hready hstate)
  | started =>
    simp only [Helper.startUnlessStarted, hstate]
    exact .inl (.refl c)

lemma lastParam_acceptRequest (mod : ConnectorModule M) (model : GenericTriggerModel)
    (callback : Option Callback) (c : Cell M) (key : String) :
    (Helper.acceptRequest mod model callback c).2.io.lastParam key = c.io.lastParam key := by
  -- what is loaded is stopped first, and unloaded too if the request brings another model
  have hinit : ∀ unload, (initRecognition mod unload c).2.io.lastParam key =
      c.io.lastParam key := by
    intro unload
    simp only [initRecognition]
    split
    · rfl
    split
    · exact (lastParam_unloadModel mod _ key).trans (lastParam_stopRecognition mod c key)
    · exact lastParam_stopRecognition mod c key
  simp only [Helper.acceptRequest]
  split <;> exact hinit _

lemma foldKept_acceptRequest (hs : mod.Succeeds) (model : GenericTriggerModel)
    (callback : Option Callback) (hc : c.data.NeedsModule c.io) :
    c.FoldKept (Helper.acceptRequest mod model callback c).2 :=
  .of_not_started (lastParam_acceptRequest mod model callback c _)
    (acceptRequest_not_started hs model callback hc)

lemma foldKept_stopRequested (hs : mod.Succeeds) (hc : c.data.NeedsModule c.io) :
    c.FoldKept (Helper.stopRequested mod c).2 := by
  refine .of_not_started ?_ (stopRequested_not_started hs hc)
  have hstop := lastParam_stopRecognition mod { c with data := c.data.setRequested false }
    "is_folded"
  simp only [Helper.stopRequested]
  split <;> exact hstop

lemma foldBegun_prepareAndStart (hs : mod.Succeeds) (hctx : ctx.Foldable)
    (hstate : c.data.state ≠ .started) : c.FoldBegun ctx (Helper.prepareAndStart mod ctx c).2 := by
  have hprep := (prepareForRecognition_succeeds hs c).1
  simp only [Helper.prepareAndStart, hprep, ne_eq, not_true_eq_false, if_false]
  exact foldBegun_prepared hs hctx hstate

end Operations

namespace Helper

def InSync (h : Helper M) : Prop :=
  h.io.lastParam "is_folded" = some "true" ↔ h.env.curFoldStatus = .folded

def NoneStarted (h : Helper M) : Prop := ∀ k d, h.find k = some d → d.state ≠ .started

def WhisperFits (p : Platform) (h : Helper M) : Prop :=
  ∀ d, h.find proximalWakeupModelUuid = some d → d.state = .started →
    d.model.map (·.data) = p.readFile (whisperPath (h.env.curFoldStatus = .folded))

structure FoldAgrees (p : Platform) (h : Helper M) : Prop where
  status : ∀ k d, h.find k = some d → d.state = .started → h.InSync
  whisper : h.WhisperFits p

lemma NoneStarted.foldAgrees {h : Helper M} (hnone : h.NoneStarted) : h.FoldAgrees p :=
  ⟨fun k d hd hstate => absurd hstate (hnone k d hd),
    fun d hd hstate => absurd hstate (hnone _ d hd)⟩

def IsFirst (h : Helper M) (k : Int) (d : TriggerModelData) : Prop :=
  h.find k = some d ∧ ∀ u e, h.find u = some e → k ≤ u

def RequestLeads (h : Helper M) : Prop :=
  ∀ k d u e, h.IsFirst k d → h.find u = some e → e.requested → d.requested

def LoadLeads (h : Helper M) : Prop :=
  ∀ k d u e, h.IsFirst k d → h.find u = some e → e.state = .loaded → d.state = .loaded

structure Orderly (h : Helper M) : Prop where
  foldable : h.env.isFoldable
  ready : h.Ready
  keys : h.KeysAgree

structure Synced (p : Platform) (h : Helper M) : Prop extends Orderly h where
  sync : h.InSync
  whisper : h.WhisperFits p

structure Pending (h : Helper M) : Prop extends Orderly h where
  none : h.NoneStarted
  request : h.RequestLeads
  load : h.LoadLeads

variable {h h' : Helper M} {k : Int} {d : TriggerModelData}

lemma Synced.foldAgrees (hsync : h.Synced p) : h.FoldAgrees p :=
  ⟨fun _ _ _ _ => hsync.sync, hsync.whisper⟩

lemma IsFirst.firstUuid (hfirst : h.IsFirst k d) (hkeys : h.KeysAgree) :
    (h.startContext p).firstUuid = some d.uuid := by
  rw [hkeys k d hfirst.1]
  exact (hkeys.firstUuid_iff hfirst.1).2 hfirst.2

lemma exists_isFirst {u : Int} {e : TriggerModelData} (hu : h.find u = some e) :
    ∃ k d ks, h.IsFirst k d ∧ h.modelDataMap.keys = k :: ks := by
  cases hentries : h.modelDataMap.entries with
  | nil =>
    have hmem := OrderedMap.find?_eq_some_iff.1 hu
    rw [hentries] at hmem
    cases hmem
  | cons entry rest =>
    refine ⟨entry.1, entry.2, rest.map Prod.fst, ?_, by rw [OrderedMap.keys, hentries]; rfl⟩
    exact OrderedMap.head?_entries.1 (by rw [hentries]; rfl)

lemma foldText_eq_true {folded : Bool} : some (foldText folded) = some "true" ↔ folded := by
  cases folded <;> decide

section Rounds
variable (hwindow : p.build.windowManager)
  (hfiles : ∀ folded, (p.readFile (whisperPath folded)).isSome)

include hwindow hfiles in
lemma Orderly.context (ho : h.Orderly) : (h.startContext p).Foldable :=
  ⟨hwindow, ho.foldable, hfiles _⟩

variable {f : Cell M → Bool × Cell M}

lemma Orderly.onCell (ho : h.Orderly) (k : Int) (hf : ReactionOp mod f) :
    (h.onCell k true f).2.Orderly where
  foldable := (congrArg Env.isFoldable (onCell_env k true f h)).trans ho.foldable
  ready := (reactionInvariant_ready mod).cell h k f hf ho.ready
  keys := (Reacts.onCell h k hf).keysAgree ho.keys

lemma Orderly.setParameter (ho : h.Orderly) (key value : String) :
    (h.setParameter mod key value).Orderly where
  foldable := ho.foldable
  ready := (reactionInvariant_ready mod).param h key value ho.ready
  keys := ho.keys

lemma Orderly.setEnv (ho : h.Orderly) (env : Env) (hfoldable : env.isFoldable) :
    (h.setEnv env).Orderly := ⟨hfoldable, ho.ready, ho.keys⟩

lemma InSync.onCell {β : Type*} (hsync : h.InSync) (k : Int) (absent : β) {f : Cell M → β × Cell M}
    (hstep : ∀ d, h.find k = some d → Cell.FoldKept ⟨d, h.io⟩ (f ⟨d, h.io⟩).2 ∨
      Cell.FoldBegun (h.startContext p) ⟨d, h.io⟩ (f ⟨d, h.io⟩).2) :
    (h.onCell k absent f).2.InSync := by
  cases hd : h.find k with
  | none =>
    rw [onCell_none hd]
    exact hsync
  | some d =>
    unfold InSync
    rw [io_onCell hd, onCell_env]
    rcases hstep d hd with hkept | hbegun
    · rw [hkept.param]
      exact hsync
    rw [hbegun.param]
    split
    · rw [foldText_eq_true]
      exact decide_eq_true_iff
    · exact hsync

lemma IsFirst.inSync_onCell {β : Type*} (hfirst : h.IsFirst k d) (hkeys : h.KeysAgree)
    (absent : β) {f : Cell M → β × Cell M}
    (hbegun : Cell.FoldBegun (h.startContext p) ⟨d, h.io⟩ (f ⟨d, h.io⟩).2) :
    (h.onCell k absent f).2.InSync := by
  unfold InSync
  rw [io_onCell hfirst.1, onCell_env, hbegun.param, if_pos (hfirst.firstUuid hkeys),
    foldText_eq_true]
  exact decide_eq_true_iff

lemma WhisperFits.onCell {β : Type*} (hfits : h.WhisperFits p) (hkeys : h.KeysAgree) (k : Int)
    (absent : β) {f : Cell M → β × Cell M}
    (hstep : ∀ d, h.find k = some d → Cell.FoldKept ⟨d, h.io⟩ (f ⟨d, h.io⟩).2 ∨
      Cell.FoldBegun (h.startContext p) ⟨d, h.io⟩ (f ⟨d, h.io⟩).2) :
    (h.onCell k absent f).2.WhisperFits p := by
  intro d' hd' hstarted
  rw [onCell_env]
  by_cases hk : proximalWakeupModelUuid = k
  · subst hk
    cases hd : h.find proximalWakeupModelUuid with
    | none =>
      rw [onCell_none hd, hd] at hd'
      cases hd'
    | some d =>
      rw [find_onCell_self hd] at hd'
      obtain rfl := Option.some.inj hd'
      rcases hstep d hd with hkept | hbegun
      · -- it ran before, with the same contents
        obtain ⟨hbefore, hmodel⟩ := hkept.started hstarted
        rw [hmodel]
        exact hfits d hd hbefore
      · exact hbegun.whisper (hkeys _ d hd)
  · rw [find_onCell_ne hk] at hd'
    exact hfits d' hd' hstarted

lemma Synced.onCell (hsync : h.Synced p) (k : Int) (hf : ReactionOp mod f)
    (hstep : ∀ d, h.find k = some d → Cell.FoldKept ⟨d, h.io⟩ (f ⟨d, h.io⟩).2 ∨ Cell.FoldBegun
      (h.startContext p) ⟨d, h.io⟩ (f ⟨d, h.io⟩).2) :
    (h.onCell k true f).2.Synced p :=
  ⟨hsync.toOrderly.onCell k hf, hsync.sync.onCell k true hstep,
    hsync.whisper.onCell hsync.keys k true hstep⟩

lemma Orderly.synced_onCell (ho : h.Orderly) (hnone : h.NoneStarted) (hfirst : h.IsFirst k d)
    (hf : ReactionOp mod f) (hbegun : Cell.FoldBegun (h.startContext p) ⟨d, h.io⟩ (f ⟨d, h.io⟩).2) :
    (h.onCell k true f).2.Synced p := by
  refine ⟨ho.onCell k hf, hfirst.inSync_onCell ho.keys true hbegun,
    hnone.foldAgrees.whisper.onCell ho.keys k true fun d' hd' => .inr ?_⟩
  obtain rfl : d = d' := Option.some.inj (hfirst.1.symm.trans hd')
  exact hbegun

/-! A loop that finds nothing to do. -/

structure Same (h h' : Helper M) : Prop where
  env : h'.env = h.env
  io : h'.io = h.io
  find : ∀ k, h'.find k = h.find k

lemma Same.refl (h : Helper M) : h.Same h := ⟨rfl, rfl, fun _ => rfl⟩

lemma Same.trans {h'' : Helper M} (hsame : h.Same h') (hsame' : h'.Same h'') : h.Same h'' :=
  ⟨hsame'.env.trans hsame.env, hsame'.io.trans hsame.io,
    fun k => (hsame'.find k).trans (hsame.find k)⟩

lemma same_onCell (hidle : ∀ d, h.find k = some d → (f ⟨d, h.io⟩).2 = ⟨d, h.io⟩) :
    h.Same (h.onCell k true f).2 := by
  cases hd : h.find k with
  | none =>
    rw [onCell_none hd]
    exact .refl h
  | some d =>
    refine ⟨onCell_env _ _ _ _, ?_, fun u => ?_⟩
    · rw [io_onCell hd, hidle d hd]
    · by_cases hu : u = k
      · subst hu
        rw [find_onCell_self hd, hidle d hd, hd]
      · exact find_onCell_ne hu _ _ h

lemma Same.orderly (hsame : h.Same h') (ho : h.Orderly) : h'.Orderly where
  foldable := by rw [hsame.env]; exact ho.foldable
  ready := fun k d hd => by
    rw [hsame.find] at hd
    rw [hsame.io]
    exact ho.ready k d hd
  keys := fun k d hd => ho.keys k d (hsame.find k ▸ hd)

lemma Same.noneStarted (hsame : h.Same h') (hnone : h.NoneStarted) : h'.NoneStarted :=
  fun k d hd => hnone k d (hsame.find k ▸ hd)

lemma Same.isFirst (hsame : h.Same h') (hfirst : h'.IsFirst k d) : h.IsFirst k d :=
  ⟨(hsame.find k).symm.trans hfirst.1, fun u e hu => hfirst.2 u e ((hsame.find u).trans hu)⟩

lemma Same.pending (hsame : h.Same h') (hpending : h.Pending) : h'.Pending :=
  ⟨hsame.orderly hpending.toOrderly, hsame.noneStarted hpending.none,
    fun k d u e hfirst hu => hpending.request k d u e (hsame.isFirst hfirst)
      ((hsame.find u).symm.trans hu),
    fun k d u e hfirst hu => hpending.load k d u e (hsame.isFirst hfirst)
      ((hsame.find u).symm.trans hu)⟩

end Rounds

section Loops
variable (hs : mod.Succeeds) (hwindow : p.build.windowManager)
  (hfiles : ∀ folded, (p.readFile (whisperPath folded)).isSome)

include hs hwindow hfiles in
lemma Synced.round (hsync : h.Synced p) (l : ModelLoop) (uuid : Int) :
    (l.round p mod uuid h).2.Synced p := by
  refine hsync.onCell uuid (reactionOp_op mod l _ _ _) fun d hd => ?_
  exact fold_op hs (hsync.toOrderly.context hwindow hfiles) (hsync.ready uuid d hd) _ l

include hs hwindow hfiles in
lemma Synced.exec (hsync : h.Synced p) (l : ModelLoop) : (l.exec p mod h).Synced p := by
  rw [exec_eq]
  exact visitUntil_invariant (fun uuid _ hsync => hsync.round hs hwindow hfiles l uuid) _ hsync

include hs hwindow hfiles in
lemma Orderly.exec (ho : h.Orderly) (hnone : h.NoneStarted) (hleads : h.RequestLeads)
    (l : ModelLoop) : (l.exec p mod h).Synced p ∨ h.Same (l.exec p mod h) := by
  rw [exec_eq]
  by_cases hwanted : ∃ u e, h.find u = some e ∧ (e.requested && !h.conflict p)
  · left
    obtain ⟨u, e, hu, hneed⟩ := hwanted
    obtain ⟨k, d, ks, hfirst, hkeys⟩ := exists_isFirst hu
    rw [Bool.and_eq_true] at hneed
    -- one model is wanted, so the first one is, and the loop comes to it before all others
    have hstarts : d.Starts (h.conflict p) :=
      ⟨by rw [hleads k d u e hfirst hu hneed.1, hneed.2]; rfl, hnone k d hfirst.1⟩
    have hop : l.op mod (h.startContext p) (h.conflict p) h.env.systemHibernate ⟨d, h.io⟩ = _ :=
      op_of_starts hstarts
    rw [attempt_succeeds hs] at hop
    have hround : (l.round p mod k h).1 ∧ (l.round p mod k h).2.Synced p := by
      refine ⟨?_, ho.synced_onCell hnone hfirst (reactionOp_op mod l _ _ _) ?_⟩
      · rw [ModelLoop.round, onCell_some hfirst.1, hop]
      · rw [hop]
        exact foldBegun_prepared hs (ho.context hwindow hfiles) hstarts.2
    -- the rest of the loop runs in step with the module
    rw [forModels, hkeys, visitUntil, if_pos hround.1]
    exact visitUntil_invariant (fun uuid _ hsync => hsync.round hs hwindow hfiles l uuid) _ hround.2
  · right
    -- no model is wanted and none runs: each round leaves everything as it was
    refine visitUntil_invariant (I := fun h' : Helper M => h.Same h') ?_ _ (.refl h)
    intro uuid h' hsame
    refine hsame.trans (same_onCell fun d hd => ?_)
    have hd₀ : h.find uuid = some d := (hsame.find uuid).symm.trans hd
    have hneed : (d.requested && !h'.conflict p) ≠ true := by
      intro hneed
      rw [conflict, hsame.env] at hneed
      exact hwanted ⟨uuid, d, hd₀, hneed⟩
    have hdue : ¬ l.Due (h'.conflict p) d := by
      cases l with
      | onUpdateAllRecognitionState =>
        simp [ModelLoop.Due, Bool.eq_false_of_not_eq_true hneed, hnone uuid d hd₀]
      | startAllRecognition => exact fun hstarts => hneed hstarts.1
    rw [op_of_not_due (c := ⟨d, h'.io⟩) hdue ((hsame.orderly ho).ready uuid d hd)]

lemma Synced.setParameter (hsync : h.Synced p) {key : String} (value : String)
    (hkey : key ≠ "is_folded") : (h.setParameter mod key value).Synced p := by
  refine ⟨hsync.toOrderly.setParameter key value, ?_, hsync.whisper⟩
  have hlast := Io.lastParam_setParameter_ne mod value h.io hkey
  unfold InSync
  rw [show (h.setParameter mod key value).io.lastParam "is_folded" = h.io.lastParam "is_folded"
    from hlast]
  exact hsync.sync

lemma Pending.setParameter (hpending : h.Pending) (key value : String) :
    (h.setParameter mod key value).Pending :=
  ⟨hpending.toOrderly.setParameter key value, hpending.none, hpending.request, hpending.load⟩

include hwindow hfiles in
lemma Synced.openRound (hsync : h.Synced p) (uuid : Int) : (h.openRound p mod uuid).2.Synced p := by
  refine Synced.setParameter (hsync.onCell uuid (.open _) fun d hd => ?_) _ (by decide)
  exact fold_startUnlessStarted (hsync.toOrderly.context hwindow hfiles) (hsync.ready uuid d hd)

include hwindow hfiles in
lemma Pending.openRounds (hpending : h.Pending) : (h.forModels (Helper.openRound p mod)).Synced p ∨
      (h.forModels (Helper.openRound p mod)).Pending := by
  have ho := hpending.toOrderly
  by_cases hwanted : ∃ u e, h.find u = some e ∧ e.state = .loaded
  · left
    obtain ⟨u, e, hu, hloaded⟩ := hwanted
    obtain ⟨k, d, ks, hfirst, hkeys⟩ := exists_isFirst hu
    -- the table action starts loaded models only; the first one is loaded if any is
    have hstate := hpending.load k d u e hfirst hu hloaded
    have hbegun : Cell.FoldBegun (h.startContext p) ⟨d, h.io⟩
        (startUnlessStarted mod (h.startContext p) ⟨d, h.io⟩).2 := by
      have hready : h.io.moduleReady := ho.ready k d hfirst.1 (by simp [hstate])
      simp only [startUnlessStarted, if_pos (hpending.none k d hfirst.1)]
      exact foldBegun_startRecognition mod (c := ⟨d, h.io⟩) (ho.context hwindow hfiles) hready
        hstate
    have hround : (h.openRound p mod k).2.Synced p :=
      (ho.synced_onCell hpending.none hfirst (.open _) hbegun).setParameter _ (by decide)
    rw [forModels, hkeys, visitUntil, if_pos (by rfl)]
    exact visitUntil_invariant (fun uuid _ hsync => hsync.openRound hwindow hfiles uuid) _ hround
  · right
    -- nothing is loaded, so the rounds send the parameter of the action and start nothing
    refine (visitUntil_invariant (I := fun h' : Helper M => h'.Pending ∧
      ∀ u e, h'.find u = some e → e.state ≠ .loaded) ?_ _
      ⟨hpending, fun u e hu hloaded => hwanted ⟨u, e, hu, hloaded⟩⟩).1
    rintro uuid h' ⟨hpending', hnotLoaded⟩
    have hsame : h'.Same (h'.startLoaded p mod (some uuid)) := by
      refine same_onCell fun d hd => ?_
      simp [startUnlessStarted, startRecognition, hnotLoaded uuid d hd]
    refine ⟨(hsame.pending hpending').setParameter _ _, fun u e hu => ?_⟩
    exact hnotLoaded u e ((hsame.find u).symm.trans hu)

lemma fold_setEnv (hh : h.Synced p ∨ h.Pending) {env : Env}
    (hfoldable : env.isFoldable = h.env.isFoldable)
    (hstatus : env.curFoldStatus = h.env.curFoldStatus) :
    (h.setEnv env).Synced p ∨ (h.setEnv env).Pending := by
  rcases hh with hsync | hpending
  · refine .inl ⟨hsync.toOrderly.setEnv env (hfoldable.trans hsync.foldable), ?_, fun d => ?_⟩
    · unfold InSync
      rw [setEnv_env, hstatus]
      exact hsync.sync
    · rw [setEnv_env, hstatus]
      exact hsync.whisper d
  · exact .inr ⟨hpending.toOrderly.setEnv env (hfoldable.trans hpending.foldable), hpending.none,
      hpending.request, hpending.load⟩

include hs hwindow hfiles in
lemma callbackInvariant_fold : CallbackInvariant p mod fun h => h.Synced p ∨ h.Pending where
  env h env _ hfoldable hstatus hh := fold_setEnv hh hfoldable hstatus
  param h key value hkey := by
    rintro (hsync | hpending)
    · exact .inl (hsync.setParameter value hkey)
    · exact .inr (hpending.setParameter key value)
  update h := by
    rintro (hsync | hpending)
    · exact .inl (hsync.exec hs hwindow hfiles .onUpdateAllRecognitionState)
    · exact (hpending.toOrderly.exec hs hwindow hfiles hpending.none hpending.request
        .onUpdateAllRecognitionState).imp_right fun hsame => hsame.pending hpending
  opened h := by
    rintro (hsync | hpending)
    · exact .inl (visitUntil_invariant
        (fun uuid _ hsync => hsync.openRound hwindow hfiles uuid) _ hsync)
    · exact hpending.openRounds hwindow hfiles

end Loops
end Helper
end IntellVoice.Trigger
