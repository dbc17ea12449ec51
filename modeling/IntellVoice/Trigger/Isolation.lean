import IntellVoice.Trigger.Rounds

/-! The loops over the models end at the first model that cannot be prepared. -/

namespace IntellVoice.Trigger
open Loop OrderedMap Platform Helper
variable {M : Type*} {p : Platform} {mod : ConnectorModule M}

structure ConnectorModule.Memoryless (mod : ConnectorModule M) : Prop where
  getConnectorModule : ∀ m m', (mod.getConnectorModule m).1 = (mod.getConnectorModule m').1
  loadModel : ∀ model m m', (mod.loadModel model m).1 = (mod.loadModel model m').1
  handle : ∀ model m m', (mod.loadModel model m).2.1 = (mod.loadModel model m').2.1
  start : ∀ handle m m', (mod.start handle m).1 = (mod.start handle m').1
  stop : ∀ handle m m', (mod.stop handle m).1 = (mod.stop handle m').1

structure Cell.Alike (log₁ log₂ : List Effect) (c₁ c₂ : Cell M) : Prop where
  data : c₁.data = c₂.data
  log : ∃ es, c₁.io.log = log₁ ++ es ∧ c₂.io.log = log₂ ++ es

structure Cell.Abreast (log₁ log₂ : List Effect) (c₁ c₂ : Cell M) : Prop
    extends Cell.Alike log₁ log₂ c₁ c₂ where
  ready₁ : c₁.io.moduleReady
  ready₂ : c₂.io.moduleReady

section Abreast
variable {log₁ log₂ : List Effect} {c₁ c₂ : Cell M}

section
variable (hc : c₁.Abreast log₁ log₂ c₂)
include hc

lemma Cell.Abreast.call (d : TriggerModelData) (e : Effect) (m₁ m₂ : M) :
    Cell.Abreast log₁ log₂ ⟨d, c₁.io.call e m₁⟩ ⟨d, c₂.io.call e m₂⟩ := by
  obtain ⟨es, h₁, h₂⟩ := hc.log
  refine ⟨⟨rfl, es ++ [e], ?_, ?_⟩, hc.ready₁, hc.ready₂⟩
  · simp [Io.call, h₁]
  · simp [Io.call, h₂]

lemma Cell.Abreast.emit (e : Effect) :
    Cell.Abreast log₁ log₂ { c₁ with io := c₁.io.emit e } { c₂ with io := c₂.io.emit e } := by
  obtain ⟨es, h₁, h₂⟩ := hc.log
  refine ⟨⟨hc.data, es ++ [e], ?_, ?_⟩, hc.ready₁, hc.ready₂⟩
  · simp [Io.emit, h₁]
  · simp [Io.emit, h₂]

lemma Cell.Abreast.withData (f : TriggerModelData → TriggerModelData) :
    Cell.Abreast log₁ log₂ { c₁ with data := f c₁.data } { c₂ with data := f c₂.data } :=
  ⟨⟨congrArg f hc.data, hc.log⟩, hc.ready₁, hc.ready₂⟩

@[elab_as_elim]
lemma Cell.Abreast.elim {motive : Cell M → Cell M → Prop}
    (hrecord : ∀ d io₁ io₂, Cell.Abreast log₁ log₂ ⟨d, io₁⟩ ⟨d, io₂⟩ → io₁.moduleReady →
      io₂.moduleReady → motive ⟨d, io₁⟩ ⟨d, io₂⟩) :
    motive c₁ c₂ := by
  obtain ⟨d, io₁⟩ := c₁
  obtain ⟨d', io₂⟩ := c₂
  obtain rfl : d = d' := hc.data
  exact hrecord d io₁ io₂ hc hc.ready₁ hc.ready₂

end

lemma abreast_loadModel (hm : mod.Memoryless) (hc : c₁.Abreast log₁ log₂ c₂) :
    (loadModel mod c₁).1 = (loadModel mod c₂).1 ∧
      (loadModel mod c₁).2.Abreast log₁ log₂ (loadModel mod c₂).2 := by
  refine hc.elim fun d io₁ io₂ hc hready₁ hready₂ => ?_
  have hanswer := hm.loadModel d.model io₁.conn io₂.conn
  have hhandle := hm.handle d.model io₁.conn io₂.conn
  -- the two runs take the same branch: the record is shared and so are the answers
  by_cases hstate : d.state = .notLoaded
  · by_cases hload : (mod.loadModel d.model io₂.conn).1 = 0
    · simp only [loadModel, hstate, hready₁, hready₂, hanswer, hhandle, hload, ne_eq,
        not_true_eq_false, Bool.not_true, Bool.false_eq_true, if_false, true_and]
      exact hc.call _ _ _ _
    · simp only [loadModel, hstate, hready₁, hready₂, hanswer, hload, ne_eq, not_true_eq_false,
        not_false_eq_true, Bool.not_true, Bool.false_eq_true, if_false, if_true, true_and]
      exact hc.call _ _ _ _
  · simp only [loadModel, hstate, ne_eq, not_false_eq_true, if_true, true_and]
    exact hc

lemma abreast_unloadModel (mod : ConnectorModule M) (hc : c₁.Abreast log₁ log₂ c₂) :
    (unloadModel mod c₁).2.Abreast log₁ log₂ (unloadModel mod c₂).2 := by
  refine hc.elim fun d io₁ io₂ hc hready₁ hready₂ => ?_
  by_cases hstate : d.state = .loaded
  · simp only [unloadModel, hstate, hready₁, hready₂, ne_eq, not_true_eq_false, Bool.not_true,
      Bool.false_eq_true, if_false]
    exact hc.call _ _ _ _
  · simp only [unloadModel, hstate, ne_eq, not_false_eq_true, if_true]
    exact hc

lemma abreast_stopRecognition (hm : mod.Memoryless) (hc : c₁.Abreast log₁ log₂ c₂) :
    (stopRecognition mod c₁).2.Abreast log₁ log₂ (stopRecognition mod c₂).2 := by
  refine hc.elim fun d io₁ io₂ hc hready₁ hready₂ => ?_
  have hanswer := hm.stop d.modelHandle io₁.conn io₂.conn
  by_cases hstate : d.state = .started
  · by_cases hstop : (mod.stop d.modelHandle io₂.conn).1 = 0
    · simp only [stopRecognition, hstate, hready₁, hready₂, hanswer, hstop, ne_eq,
        not_true_eq_false, Bool.not_true, Bool.false_eq_true, if_false]
      exact hc.call _ _ _ _
    simp only [stopRecognition, hstate, hready₁, hready₂, hanswer, hstop, ne_eq,
      not_true_eq_false, not_false_eq_true, Bool.not_true, Bool.false_eq_true, if_false,
      if_true]
    exact hc.call _ _ _ _
  · simp only [stopRecognition, hstate, ne_eq, not_false_eq_true, if_true]
    exact hc

lemma abreast_callStart (hm : mod.Memoryless) (hc : c₁.Abreast log₁ log₂ c₂) :
    (callStart mod c₁).2.Abreast log₁ log₂ (callStart mod c₂).2 := by
  refine hc.elim fun d io₁ io₂ hc _ _ => ?_
  have hanswer := hm.start d.modelHandle io₁.conn io₂.conn
  by_cases hstart : (mod.start d.modelHandle io₂.conn).1 = 0
  · simp only [callStart, hanswer, hstart, ne_eq, not_true_eq_false, if_false]
    exact hc.call _ _ _ _
  · simp only [callStart, hanswer, hstart, ne_eq, not_false_eq_true, if_true]
    exact hc.call _ _ _ _

lemma abreast_reLoadWhisperModel (hm : mod.Memoryless) (ctx : StartContext)
    (hc : c₁.Abreast log₁ log₂ c₂) :
    (reLoadWhisperModel mod ctx c₁).Abreast log₁ log₂ (reLoadWhisperModel mod ctx c₂) := by
  refine hc.elim fun d io₁ io₂ hc _ _ => ?_
  by_cases huuid : d.uuid = proximalWakeupModelUuid
  · cases hread : readWhisperModel ctx with
    | none =>
      simp only [reLoadWhisperModel, huuid, hread, ne_eq, not_true_eq_false, if_false]
      exact hc
    | some model =>
      have hemit := hc.emit (.updateGenericTriggerModel model)
      by_cases hsame : d.sameModel model
      · simp only [reLoadWhisperModel, huuid, hread, hsame, ne_eq, not_true_eq_false, if_false,
          if_true]
        exact hemit
      -- another file than before: unloaded, replaced and loaded again
      have hset := (abreast_unloadModel mod hemit).withData (·.setModel model)
      simp only [reLoadWhisperModel, huuid, hread, hsame, ne_eq, not_true_eq_false, if_false]
      exact (abreast_loadModel hm hset).2
  · simp only [reLoadWhisperModel, huuid, ne_eq, not_false_eq_true, if_true]
    exact hc

lemma abreast_setFoldStatus (ctx : StartContext) (hc : c₁.Abreast log₁ log₂ c₂) :
    Cell.Abreast log₁ log₂
      (if ctx.firstUuid = some c₁.data.uuid then { c₁ with io := setFoldStatus mod ctx c₁.io }
        else c₁)
      (if ctx.firstUuid = some c₂.data.uuid then { c₂ with io := setFoldStatus mod ctx c₂.io }
        else c₂) := by
  refine hc.elim fun d io₁ io₂ hc hready₁ hready₂ => ?_
  by_cases hfirst : ctx.firstUuid = some d.uuid
  · simp only [hfirst, setFoldStatus, Io.setParameterForInputPipe, Io.getModule, hready₁, hready₂,
      if_true, Bool.not_true, Bool.false_eq_true, if_false]
    exact hc.call _ _ _ _
  · simp only [hfirst, if_false]
    exact hc

lemma abreast_beforeStart (hm : mod.Memoryless) (ctx : StartContext)
    (hc : c₁.Abreast log₁ log₂ c₂) :
    (beforeStart mod ctx c₁).Abreast log₁ log₂ (beforeStart mod ctx c₂) := by
  have hfold : (foldStatusOperation mod ctx c₁).Abreast log₁ log₂
      (foldStatusOperation mod ctx c₂) := by
    simp only [foldStatusOperation]
    split
    · exact hc
    · exact abreast_setFoldStatus ctx (abreast_reLoadWhisperModel hm ctx hc)
  simp only [beforeStart]
  -- the fold status is for builds with the window manager, the gain for `onlyFirstStage`
  split <;> split
  · exact hfold.emit _
  · exact hc.emit _
  · exact hfold
  · exact hc

lemma abreast_startRecognition (hm : mod.Memoryless) (ctx : StartContext)
    (hc : c₁.Abreast log₁ log₂ c₂) :
    (startRecognition mod ctx c₁).2.Abreast log₁ log₂ (startRecognition mod ctx c₂).2 := by
  simp only [startRecognition, hc.ready₁, hc.ready₂, ← hc.data]
  split
  · exact hc
  · exact abreast_callStart hm (abreast_beforeStart hm ctx hc)

end Abreast

lemma alike_prepareForRecognition (hm : mod.Memoryless) {d : TriggerModelData} {io₁ io₂ : Io M}
    (hget : (io₁.getModule mod).1 = (io₂.getModule mod).1) :
    (prepareForRecognition mod ⟨d, io₁⟩).1 = (prepareForRecognition mod ⟨d, io₂⟩).1 ∧
    Cell.Alike io₁.log io₂.log (prepareForRecognition mod ⟨d, io₁⟩).2
      (prepareForRecognition mod ⟨d, io₂⟩).2 ∧ ((prepareForRecognition mod ⟨d, io₂⟩).1 = 0 →
      Cell.Abreast io₁.log io₂.log (prepareForRecognition mod ⟨d, io₁⟩).2
        (prepareForRecognition mod ⟨d, io₂⟩).2) := by
  -- asking for the module leaves no effect
  have hlog : ∃ es, (io₁.getModule mod).2.log = io₁.log ++ es ∧
      (io₂.getModule mod).2.log = io₂.log ++ es :=
    ⟨[], by simp [Io.log_getModule], by simp [Io.log_getModule]⟩
  cases hget₂ : (io₂.getModule mod).1 with
  -- without a module the cells agree, but neither of them is ready
  | false =>
    simp only [prepareForRecognition, hget, hget₂, Bool.not_false, if_true, true_and]
    exact ⟨⟨rfl, hlog⟩, fun h => absurd h (by decide)⟩
  | true =>
    have hgot : Cell.Abreast io₁.log io₂.log ⟨d, (io₁.getModule mod).2⟩
        ⟨d, (io₂.getModule mod).2⟩ :=
      ⟨⟨rfl, hlog⟩, Io.ready_of_getModule (hget.trans hget₂), Io.ready_of_getModule hget₂⟩
    obtain ⟨hanswer, hload⟩ := abreast_loadModel hm hgot
    simp only [prepareForRecognition, hget, hget₂, Bool.not_true, Bool.false_eq_true, if_false,
      hanswer]
    split <;> exact ⟨rfl, hload.toAlike, fun _ => hload⟩

namespace ModelLoop

lemma op_alike (hm : mod.Memoryless) (ctx : StartContext) (conflict hibernate : Bool)
    (l : ModelLoop) {d : TriggerModelData} {io₁ io₂ : Io M}
    (hget : (io₁.getModule mod).1 = (io₂.getModule mod).1) (h₁ : d.NeedsModule io₁)
    (h₂ : d.NeedsModule io₂) :
    (l.op mod ctx conflict hibernate ⟨d, io₁⟩).1 = (l.op mod ctx conflict hibernate ⟨d, io₂⟩).1 ∧
    Cell.Alike io₁.log io₂.log (l.op mod ctx conflict hibernate ⟨d, io₁⟩).2
      (l.op mod ctx conflict hibernate ⟨d, io₂⟩).2 := by
  by_cases hstarts : d.Starts conflict
  · rw [op_of_starts hstarts, op_of_starts hstarts]
    obtain ⟨hprep, halike, habreast⟩ := alike_prepareForRecognition hm (d := d) hget
    simp only [attempt, hprep]
    by_cases hzero : (prepareForRecognition mod ⟨d, io₂⟩).1 = 0
    · simp only [hzero, ne_eq, not_true_eq_false, if_false, true_and]
      exact (abreast_startRecognition hm ctx (habreast hzero)).toAlike
    · simp only [hzero, ne_eq, not_false_eq_true, if_true, true_and]
      exact halike
  · by_cases hdue : l.Due conflict d
    · obtain ⟨hstate, hop₁⟩ := op_of_running mod ctx hibernate (c := ⟨d, io₁⟩) hdue hstarts
      have hop₂ := (op_of_running mod ctx hibernate (c := ⟨d, io₂⟩) hdue hstarts).2
      -- it runs, so both connections have the module
      have hneeds : d.state ≠ .notLoaded := by
        rw [show d.state = .started from hstate]
        decide
      have hboth : Cell.Abreast io₁.log io₂.log ⟨d, io₁⟩ ⟨d, io₂⟩ :=
        ⟨⟨rfl, [], by simp, by simp⟩, h₁ hneeds, h₂ hneeds⟩
      have hstop := abreast_stopRecognition hm hboth
      rw [hop₁, hop₂]
      refine ⟨rfl, ?_⟩
      cases hibernate with
      | true => exact (abreast_unloadModel mod hstop).toAlike
      | false => exact hstop.toAlike
    · rw [op_of_not_due hdue h₁, op_of_not_due hdue h₂]
      exact ⟨rfl, rfl, [], by simp, by simp⟩

end ModelLoop

section Log
variable {ctx : StartContext} {c : Cell M}

lemma Io.Acts.length_le {uuid : Int} {io io' : Io M} (h : io.Acts uuid io') :
    io.log.length ≤ io'.log.length := by
  obtain ⟨es, hlog, -⟩ := h.log
  simp [hlog]

lemma log_attempt (hprep : (prepareForRecognition mod c).1 = 0) (hstate : c.data.state ≠ .started) :
    (attempt mod ctx c).2.io.log.length =
      (beforeStart mod ctx (prepareForRecognition mod c).2).io.log.length + 1 := by
  obtain ⟨hloaded, hready⟩ := loaded_of_prepared hprep hstate
  simp only [attempt, hprep, ne_eq, not_true_eq_false, if_false, startRecognition, hloaded, hready,
    Bool.not_true, Bool.false_eq_true, callStart]
  split <;> simp [Io.call]

lemma log_halt (hibernate : Bool) (hstate : c.data.state = .started) (hready : c.io.moduleReady) :
    c.io.log.length < (halt mod hibernate c).io.log.length := by
  have hstop : (stopRecognition mod c).2.io.log.length = c.io.log.length + 1 := by
    simp only [stopRecognition, hstate, hready, ne_eq, not_true_eq_false, if_false, Bool.not_true,
      Bool.false_eq_true]
    split <;> simp [Io.call]
  have hunload := (acts_unloadModel mod (stopRecognition mod c).2).io.length_le
  unfold halt
  cases hibernate with
  | true =>
    show c.io.log.length < (unloadModel mod (stopRecognition mod c).2).2.io.log.length
    omega
  | false =>
    show c.io.log.length < (stopRecognition mod c).2.io.log.length
    omega

lemma ModelLoop.log_op {l : ModelLoop} {conflict : Bool} (hibernate : Bool)
    (hdue : l.Due conflict c.data) (hc : c.data.NeedsModule c.io)
    (hgoes : (l.op mod ctx conflict hibernate c).1) :
    c.io.log.length < (l.op mod ctx conflict hibernate c).2.io.log.length := by
  by_cases hstarts : c.data.Starts conflict
  · rw [op_of_starts hstarts] at hgoes ⊢
    -- a failed preparation would have left the loop
    have hprep : (prepareForRecognition mod c).1 = 0 := by
      by_contra hne
      simp [attempt, hne] at hgoes
    have hbefore := ((cellInvariant_acts mod _).beforeStart ctx
      (.refl (prepareForRecognition mod c).2)).io.length_le
    have hprepare := (acts_prepareForRecognition mod c).io.length_le
    rw [log_attempt hprep hstarts.2]
    omega
  · obtain ⟨hstate, hop⟩ := op_of_running mod ctx hibernate hdue hstarts
    rw [hop]
    exact log_halt hibernate hstate (hc (by simp [hstate]))

def StartContext.placed (ctx : StartContext) (first : Option Int) : StartContext :=
  { ctx with firstUuid := first }

lemma foldStatusOperation_placed (first : Option Int) (hfoldable : ctx.isFoldable) :
    foldStatusOperation mod (ctx.placed first) c = if first = some c.data.uuid then
        { reLoadWhisperModel mod ctx c with
          io := setFoldStatus mod ctx (reLoadWhisperModel mod ctx c).io }
      else reLoadWhisperModel mod ctx c := by
  have hplaced : (ctx.placed first).isFoldable := hfoldable
  exact foldStatusOperation_eq mod c hplaced

lemma beforeStart_placed {first : Option Int} (hplace : ctx.windowManager → ctx.isFoldable →
      (ctx.firstUuid = some c.data.uuid ↔ first = some c.data.uuid)) :
    beforeStart mod (ctx.placed first) c = beforeStart mod ctx c := by
  by_cases hwindow : ctx.windowManager
  · have hfold : foldStatusOperation mod (ctx.placed first) c = foldStatusOperation mod ctx c := by
      by_cases hfoldable : ctx.isFoldable
      · rw [foldStatusOperation_placed first hfoldable, foldStatusOperation_eq mod c hfoldable]
        exact if_congr (hplace hwindow hfoldable).symm rfl rfl
      · have hfoldable' : (ctx.placed first).isFoldable = ctx.isFoldable := rfl
        simp only [foldStatusOperation, hfoldable', hfoldable, Bool.not_false, if_true]
    rw [beforeStart_of_window mod (ctx.placed first) c hwindow,
      beforeStart_of_window mod ctx c hwindow, hfold]
    rfl
  · have hwindow' : (ctx.placed first).windowManager = ctx.windowManager := rfl
    simp only [beforeStart, hwindow', hwindow]
    rfl

lemma log_beforeStart_placed (hwindow : ctx.windowManager)
    (hfoldable : ctx.isFoldable) (hready : c.io.moduleReady)
    (hother : ctx.firstUuid ≠ some c.data.uuid) :
    (beforeStart mod (ctx.placed (some c.data.uuid)) c).io.log.length =
      (beforeStart mod ctx c).io.log.length + 1 := by
  have hreload : (reLoadWhisperModel mod ctx c).io.moduleReady :=
    ((cellInvariant_acts mod c).reLoadWhisperModel ctx (.refl c)).io.ready hready
  have hsend : (setFoldStatus mod ctx (reLoadWhisperModel mod ctx c).io).log.length =
      (reLoadWhisperModel mod ctx c).io.log.length + 1 := by
    simp [setFoldStatus, Io.setParameterForInputPipe, Io.getModule_of_ready hreload, Io.call]
  -- the gain is sent in both cases, so it does not count
  have hgain : (ctx.placed (some c.data.uuid)).onlyFirstStage = ctx.onlyFirstStage := rfl
  rw [beforeStart_of_window mod (ctx.placed (some c.data.uuid)) c hwindow,
    beforeStart_of_window mod ctx c hwindow, foldStatusOperation_placed _ hfoldable,
    foldStatusOperation_eq mod c hfoldable, if_pos rfl, if_neg hother, hgain]
  split
  · simp only [handleWakeupInputGain, Io.emit, List.length_append, List.length_singleton, hsend]
  · exact hsend

lemma attempt_placed {first : Option Int} (hplace : ctx.windowManager → ctx.isFoldable →
      (ctx.firstUuid = some c.data.uuid ↔ first = some c.data.uuid)) :
    attempt mod (ctx.placed first) c = attempt mod ctx c := by
  have huuid := (acts_prepareForRecognition mod c).uuid
  simp only [attempt, startRecognition]
  rw [beforeStart_placed (by rw [huuid]; exact hplace)]

end Log

lemma Io.getModule_answer (hm : mod.Memoryless) {io io' : Io M}
    (hready : io'.moduleReady = io.moduleReady) : (io'.getModule mod).1 = (io.getModule mod).1 := by
  unfold Io.getModule
  rw [hready]
  split
  · rfl
  · exact hm.getConnectorModule io'.conn io.conn

lemma Io.getModule_call (hm : mod.Memoryless) (io : Io M) (e : Effect) (conn : M) :
    ((io.call e conn).getModule mod).1 = (io.getModule mod).1 := Io.getModule_answer hm rfl

lemma Io.getModule_again (hm : mod.Memoryless) (io : Io M) :
    ((io.getModule mod).2.getModule mod).1 = (io.getModule mod).1 := by
  cases hget : (io.getModule mod).1 with
  | true => rw [Io.getModule_of_ready (Io.ready_of_getModule hget)]
  | false =>
    -- asked again, a module that is missing is still missing
    have hmissing : io.moduleReady ≠ true := fun hready => by
      rw [Io.getModule_of_ready hready] at hget
      cases hget
    have hanswer : (mod.getConnectorModule io.conn).1 = false := by
      simpa [Io.getModule, hmissing] using hget
    simp [Io.getModule, hmissing, hanswer, hm.getConnectorModule _ io.conn]

lemma cellInvariant_module (hm : mod.Memoryless) (answer : Bool) :
    CellInvariant mod fun c => (c.io.getModule mod).1 = answer where
  getModule c h := (Io.getModule_again hm c.io).trans h
  setParams c key value h := by
    rw [← h, ← Io.getModule_again hm c.io]
    apply Io.getModule_answer hm
    simp only [Io.setParameterForInputPipe]
    split <;> rfl
  emit c e _ h := (Io.getModule_call hm c.io e c.io.conn).trans h
  setModel c model h := h
  load c h := by
    rcases loadModel_cases mod c with heq | ⟨-, -, ⟨-, heq⟩ | ⟨-, heq⟩⟩ <;> rw [heq]
    · exact h
    · exact (Io.getModule_call hm _ _ _).trans h
    · exact (Io.getModule_call hm _ _ _).trans h
  unload c h := by
    rcases unloadModel_cases mod c with ⟨heq, -⟩ | ⟨-, -, heq⟩ <;> rw [heq]
    · exact h
    · exact (Io.getModule_call hm _ _ _).trans h
  stop c h := by
    rcases stopRecognition_cases mod c with ⟨heq, -⟩ | ⟨-, -, ⟨-, heq⟩ | ⟨-, heq⟩⟩ <;> rw [heq]
    · exact h
    · exact (Io.getModule_call hm _ _ _).trans h
    · exact (Io.getModule_call hm _ _ _).trans h
  start c _ h := by
    rcases callStart_cases mod c with ⟨-, heq⟩ | ⟨-, heq⟩ <;> rw [heq]
    all_goals exact (Io.getModule_call hm _ _ _).trans h

namespace ModelLoop
variable {l : ModelLoop} {h h' : Helper M} {k : Int} {d : TriggerModelData}

def effectsFor (p : Platform) (mod : ConnectorModule M) (l : ModelLoop) (uuid : Int)
    (h : Helper M) : List Effect :=
  match visitAt (l.round p mod) uuid h.modelDataMap.keys h with
  | none => []
  | some h' => (l.round p mod uuid h').2.io.log.drop h'.io.log.length

def outcome (p : Platform) (mod : ConnectorModule M) (l : ModelLoop) (h : Helper M)
    (d : TriggerModelData) : Bool × Cell M :=
  l.op mod (h.startContext p) (h.conflict p) h.env.systemHibernate ⟨d, h.io⟩

structure Underway (p : Platform) (mod : ConnectorModule M) (h h' : Helper M) : Prop where
  env : h'.env = h.env
  context : h'.startContext p = h.startContext p
  module : (h'.io.getModule mod).1 = (h.io.getModule mod).1
  ready : h.io.moduleReady → h'.io.moduleReady

lemma Underway.refl (h : Helper M) : Underway p mod h h := ⟨rfl, rfl, rfl, id⟩

lemma startContext_onCell (hd : h.find k = some d) {f : Cell M → Bool × Cell M}
    (hacts : Cell.Acts ⟨d, h.io⟩ (f ⟨d, h.io⟩).2) :
    (h.onCell k true f).2.startContext p = h.startContext p := by
  -- the rounds change records and neither add, remove nor rename a model
  have hfirst := congrArg List.head?
    (OrderedMap.map_entries_set (TriggerModelData.uuid) hd hacts.uuid)
  rw [onCell_some hd]
  simp only [startContext]
  rw [List.head?_map, List.head?_map] at hfirst
  rw [hfirst]

lemma round_outcome (hm : mod.Memoryless) (hready : h.Ready) (hunder : Underway p mod h h')
    (hd : h.find k = some d) (hfresh : h'.find k = some d) :
    (l.round p mod k h').1 = (l.outcome p mod h d).1 ∧
    (l.round p mod k h').2.find k = some (l.outcome p mod h d).2.data ∧
    (∃ es, (l.round p mod k h').2.io.log = h'.io.log ++ es ∧
      (l.outcome p mod h d).2.io.log = h.io.log ++ es) ∧
    Underway p mod h (l.round p mod k h').2 := by
  have hneeds := hready k d hd
  have hneeds' : d.NeedsModule h'.io := fun hne => hunder.ready (hneeds hne)
  have hconflict : h'.conflict p = h.conflict p := by
    unfold conflict
    rw [hunder.env]
  have hop := reactionOp_op mod l (h.startContext p) (h.conflict p)
    h.env.systemHibernate
  have hacts := hop.cellInvariant (cellInvariant_acts mod ⟨d, h'.io⟩) (.refl _)
  -- the round reads flags and context, which are those the loop began with
  have hround : l.round p mod k h' = h'.onCell k true
      (l.op mod (h.startContext p) (h.conflict p) h.env.systemHibernate) := by
    unfold round
    rw [hunder.context, hconflict, hunder.env]
  obtain ⟨hflag, halike⟩ := op_alike hm (h.startContext p) (h.conflict p) h.env.systemHibernate l
    hunder.module hneeds' hneeds
  rw [hround]
  refine ⟨?_, ?_, ?_, ?_⟩
  · rw [onCell_some hfresh]
    exact hflag
  · rw [find_onCell_self hfresh, halike.data]
    rfl
  · rw [io_onCell hfresh]
    exact halike.log
  · refine ⟨(onCell_env _ _ _ _).trans hunder.env,
      (startContext_onCell hfresh hacts).trans hunder.context, ?_, fun hset => ?_⟩
    · rw [io_onCell hfresh]
      exact hop.cellInvariant (cellInvariant_module hm _) hunder.module
    · rw [io_onCell hfresh]
      exact hacts.io.ready (hunder.ready hset)

lemma exec_reached (hm : mod.Memoryless) (hready : h.Ready) (hd : h.find k = some d) :
    ((∀ u e, h.find u = some e → u < k → (l.outcome p mod h e).1) ∧
      (l.exec p mod h).find k = some (l.outcome p mod h d).2.data ∧
      l.effectsFor p mod k h = (l.outcome p mod h d).2.io.log.drop h.io.log.length) ∨
    ((∃ u e, h.find u = some e ∧ u < k ∧ (l.outcome p mod h e).1 = false) ∧
      (l.exec p mod h).find k = some d ∧ l.effectsFor p mod k h = []) := by
  -- a round of a key without an entry does nothing
  have hnone : ∀ u (s : Helper M), h.find u = none → s.find u = h.find u →
      l.round p mod u s = (true, s) := fun u s hu hs =>
    onCell_none (hs.trans hu) _ _
  -- fresh models have the record they had before the loop, done ones that of their outcome;
  -- a round changes neither for the other models
  have hreach := visitUntil_reached (f := l.round p mod) (I := Underway p mod h)
    (g := fun u => ((h.find u).map fun e => (l.outcome p mod h e).1).getD true)
    (F := fun u s => s.find u = h.find u)
    (D := fun u s => s.find u = (h.find u).map fun e => (l.outcome p mod h e).2.data)
    (fun u s hs hfresh => by
      cases hu : h.find u with
      | none => rw [hnone u s hu hfresh]; rfl
      | some e => exact (round_outcome hm hready hs hu (hfresh.trans hu)).1)
    (fun u s hs hfresh => by
      cases hu : h.find u with
      | none => rw [hnone u s hu hfresh]; exact hs
      | some e => exact (round_outcome hm hready hs hu (hfresh.trans hu)).2.2.2)
    (fun u v s _ _ hne hv => (find_onCell_ne hne _ _ s).trans hv)
    (fun u s hs hfresh => by
      cases hu : h.find u with
      | none => rw [hnone u s hu hfresh, hfresh, hu]; rfl
      | some e => exact (round_outcome hm hready hs hu (hfresh.trans hu)).2.1)
    (fun u v s _ _ hne hv => (find_onCell_ne hne _ _ s).trans hv)
    h.modelDataMap.sorted_keys (Underway.refl h) (fun _ _ => rfl)
    (mem_keys.2 ⟨d, hd⟩)
  rw [exec_eq]
  rcases hreach with ⟨hgo, hdone, s, hat, hs, hfresh⟩ | ⟨⟨u, humem, hlt, hstop⟩, hfresh, hat⟩
  · refine .inl ⟨fun u e hu hlt => ?_, ?_, ?_⟩
    · simpa [hu] using hgo u (mem_keys.2 ⟨e, hu⟩) hlt
    · simpa [hd] using (show (h.forModels (l.round p mod)).find k = _ from hdone)
    · obtain ⟨es, hlog, hlog'⟩ := (round_outcome (l := l) hm hready hs hd (hfresh.trans hd)).2.2.1
      simp [effectsFor, hat, hlog, hlog']
  · obtain ⟨e, hu⟩ := mem_keys.1 humem
    have hu' : h.find u = some e := hu
    refine .inr ⟨⟨u, e, hu', hlt, by simpa [hu'] using hstop⟩, hfresh.trans hd, ?_⟩
    simp [effectsFor, hat]

end ModelLoop

def Helper.without (failing : Int → Bool) (h : Helper M) : Helper M :=
  { h with modelDataMap := h.modelDataMap.discard failing }

def Helper.LoadFails (p : Platform) (mod : ConnectorModule M) (h : Helper M)
    (d : TriggerModelData) : Prop :=
  d.Starts (h.conflict p) ∧ (prepareForRecognition mod ⟨d, h.io⟩).1 ≠ 0

section Without
variable {failing : Int → Bool} {h : Helper M} {k : Int} {d : TriggerModelData} {l : ModelLoop}

lemma Helper.find_without (hk : failing k = false) : (h.without failing).find k = h.find k := by
  refine (find?_discard _ _ _).trans ?_
  rw [hk]
  rfl

lemma Helper.find_of_without (hd : (h.without failing).find k = some d) :
    failing k = false ∧ h.find k = some d := by
  rw [find, without, find?_discard] at hd
  split at hd
  · cases hd
  · exact ⟨Bool.eq_false_of_not_eq_true ‹_›, hd⟩

lemma Helper.Ready.without (hready : h.Ready) (failing : Int → Bool) :
    (h.without failing).Ready := fun k d hd => hready k d (find_of_without hd).2

lemma Helper.KeysAgree.without (hkeys : h.KeysAgree) (failing : Int → Bool) :
    (h.without failing).KeysAgree := fun k d hd => hkeys k d (find_of_without hd).2

namespace ModelLoop

lemma outcome_without (d : TriggerModelData) : l.outcome p mod (h.without failing) d =
    l.op mod ((h.startContext p).placed ((h.without failing).startContext p).firstUuid)
      (h.conflict p) h.env.systemHibernate ⟨d, h.io⟩ := rfl

lemma outcome_goesOn (hready : h.Ready) (hd : h.find k = some d) :
    (l.outcome p mod h d).1 = false ↔ h.LoadFails p mod d := by
  unfold outcome Helper.LoadFails
  by_cases hstarts : d.Starts (h.conflict p)
  · rw [op_of_starts (c := ⟨d, h.io⟩) hstarts]
    unfold attempt
    by_cases hzero : (prepareForRecognition mod ⟨d, h.io⟩).1 = 0
    · simp [hzero]
    · simp [hzero, hstarts]
  refine ⟨fun hstop => ?_, fun hfails => absurd hfails.1 hstarts⟩
  by_cases hdue : l.Due (h.conflict p) d
  · rw [(op_of_running mod _ _ (c := ⟨d, h.io⟩) hdue hstarts).2] at hstop
    cases hstop
  · rw [op_of_not_due (c := ⟨d, h.io⟩) hdue (hready k d hd)] at hstop
    cases hstop

def Isolates (p : Platform) (mod : ConnectorModule M) (failing : Int → Bool) (h : Helper M)
    (l : ModelLoop) : Prop :=
  ∀ k, failing k = false →
    (l.exec p mod h).find k = (l.exec p mod (h.without failing)).find k ∧
    l.effectsFor p mod k h = l.effectsFor p mod k (h.without failing)

structure Unhindered (p : Platform) (mod : ConnectorModule M) (failing : Int → Bool)
    (h : Helper M) (l : ModelLoop) : Prop where
  ahead : ∀ u e k d, h.find u = some e → h.LoadFails p mod e → h.find k = some d →
    failing k = false → u < k → ¬ l.Due (h.conflict p) d
  front : p.build.windowManager → h.env.isFoldable → ∀ k d, h.find k = some d →
    failing k = false → d.Starts (h.conflict p) →
    (∀ u e, h.find u = some e → failing u = false → k ≤ u) → ∀ u e, h.find u = some e → k ≤ u

lemma exec_none (hnone : h.find k = none) :
    (l.exec p mod h).find k = none ∧ l.effectsFor p mod k h = [] := by
  constructor
  · rw [exec_eq]
    refine visitUntil_invariant (I := fun s : Helper M => s.find k = none) ?_ _ hnone
    intro u s hs
    by_cases hu : k = u
    · subst hu
      rw [round, onCell_none hs]
      exact hs
    · exact (find_onCell_ne hu _ _ s).trans hs
  · have habsent : k ∉ h.modelDataMap.keys := by
      rw [mem_keys]
      rintro ⟨d, hd⟩
      exact Option.some_ne_none d (hd.symm.trans hnone)
    simp [effectsFor, visitAt_of_notMem habsent]

section Compare
variable (hm : mod.Memoryless) (hready : h.Ready) (hkeys : h.KeysAgree)
  (hfailing : ∀ u e, h.find u = some e → h.LoadFails p mod e → failing u)

include hready hfailing in
lemma goesOn_others (hk : failing k = false) (hd : h.find k = some d) :
    (l.outcome p mod (h.without failing) d).1 := by
  by_contra hstop
  have hfails := (outcome_goesOn (hready.without failing) ((find_without hk).trans hd)).1
    (Bool.eq_false_of_not_eq_true hstop)
  rw [hfailing k d hd hfails] at hk
  cases hk

include hm hready hfailing in
lemma exec_without (hk : failing k = false) (hd : h.find k = some d) :
    (l.exec p mod (h.without failing)).find k =
        some (l.outcome p mod (h.without failing) d).2.data ∧
      l.effectsFor p mod k (h.without failing) =
        (l.outcome p mod (h.without failing) d).2.io.log.drop h.io.log.length := by
  rcases exec_reached (l := l) hm (hready.without failing) ((find_without hk).trans hd)
    with ⟨-, hreached⟩ | ⟨⟨u, e, hu, -, hstop⟩, -⟩
  · exact hreached
  · obtain ⟨hother, hu⟩ := find_of_without hu
    rw [goesOn_others hready hfailing hother hu] at hstop
    cases hstop

include hm hready hfailing in
lemma effectsFor_without (hk : failing k = false) (hd : h.find k = some d)
    (hdue : l.Due (h.conflict p) d) : l.effectsFor p mod k (h.without failing) ≠ [] := by
  have hlog : h.io.log.length < (l.outcome p mod (h.without failing) d).2.io.log.length :=
    log_op (c := ⟨d, h.io⟩) _ hdue (hready k d hd) (goesOn_others hready hfailing hk hd)
  rw [(exec_without hm hready hfailing hk hd).2, ne_eq, List.drop_eq_nil_iff]
  omega

include hready hkeys in
lemma outcome_same (hunhindered : l.Unhindered p mod failing h) (hk : failing k = false)
    (hd : h.find k = some d) : l.outcome p mod (h.without failing) d = l.outcome p mod h d := by
  have huuid := hkeys k d hd
  rw [outcome_without]
  by_cases hstarts : d.Starts (h.conflict p)
  · refine (op_of_starts (c := ⟨d, h.io⟩) hstarts).trans
      (Eq.trans ?_ (op_of_starts (c := ⟨d, h.io⟩) hstarts).symm)
    -- the only difference is who is first, and that matters to the fold status alone
    apply attempt_placed
    intro hwindow hfoldable
    show _ = some d.uuid ↔ _ = some d.uuid
    rw [huuid, hkeys.firstUuid_iff hd,
      (hkeys.without failing).firstUuid_iff ((find_without hk).trans hd)]
    refine ⟨fun hleast u e hu => hleast u e (find_of_without hu).2, fun hleast => ?_⟩
    refine hunhindered.front hwindow hfoldable k d hd hk hstarts fun u e hu hother => ?_
    exact hleast u e ((find_without hother).trans hu)
  · by_cases hdue : l.Due (h.conflict p) d
    · exact (op_of_running mod _ _ (c := ⟨d, h.io⟩) hdue hstarts).2.trans
        (op_of_running mod _ _ (c := ⟨d, h.io⟩) hdue hstarts).2.symm
    · exact (op_of_not_due (c := ⟨d, h.io⟩) hdue (hready k d hd)).trans
        (op_of_not_due (c := ⟨d, h.io⟩) hdue (hready k d hd)).symm

include hfailing in
lemma log_outcome_front (hwindow : p.build.windowManager)
    (hfoldable : h.env.isFoldable) (hk : failing k = false) (hd : h.find k = some d)
    (huuid : d.uuid = k) (hstarts : d.Starts (h.conflict p))
    (hfirst : (h.startContext p).firstUuid ≠ some k)
    (hfront : ((h.without failing).startContext p).firstUuid = some k) :
    (l.outcome p mod (h.without failing) d).2.io.log.length =
      (l.outcome p mod h d).2.io.log.length + 1 := by
  have hprep : (prepareForRecognition mod ⟨d, h.io⟩).1 = 0 := by
    by_contra hne
    -- it is not one of the failing models
    rw [hfailing k d hd ⟨hstarts, hne⟩] at hk
    cases hk
  have hprepared := acts_prepareForRecognition mod ⟨d, h.io⟩
  have hsame : (prepareForRecognition mod ⟨d, h.io⟩).2.data.uuid = k := hprepared.uuid.trans huuid
  rw [outcome_without, hfront, outcome, op_of_starts (c := ⟨d, h.io⟩) hstarts,
    op_of_starts (c := ⟨d, h.io⟩) hstarts, log_attempt hprep hstarts.2,
    log_attempt hprep hstarts.2, ← hsame]
  refine congrArg (· + 1) (log_beforeStart_placed hwindow hfoldable
    (loaded_of_prepared hprep hstarts.2).2 ?_)
  rw [hsame]
  exact hfirst

end Compare

theorem isolates_iff (hm : mod.Memoryless) (hready : h.Ready) (hkeys : h.KeysAgree)
    (hfailing : ∀ u e, h.find u = some e → h.LoadFails p mod e → failing u) :
    l.Isolates p mod failing h ↔ l.Unhindered p mod failing h := by
  constructor
  · intro hisolates
    refine ⟨fun u e k d hu hfails hd hk hlt hdue => ?_,
      fun hwindow hfoldable k d hd hk hstarts hfront => ?_⟩
    · -- alone the model would have been served, behind the failing one it is not reached
      have hdone := effectsFor_without hm hready hfailing hk hd hdue
      rcases exec_reached (l := l) hm hready hd with ⟨hgo, -⟩ | ⟨-, -, hnothing⟩
      · have hstop := (outcome_goesOn (l := l) hready hu).2 hfails
        rw [hgo u e hu hlt] at hstop
        cases hstop
      · exact hdone ((hisolates k hk).2 ▸ hnothing)
    · -- were it not the first of all, it would report the fold status only without the failing
      -- models, which is one effect more
      rw [← hkeys.firstUuid_iff (p := p) hd]
      by_contra hfirst
      have hmine : ((h.without failing).startContext p).firstUuid = some k := by
        rw [(hkeys.without failing).firstUuid_iff ((find_without hk).trans hd)]
        intro u e hu
        exact hfront u e (find_of_without hu).2 (find_of_without hu).1
      have hone := log_outcome_front (l := l) hfailing hwindow hfoldable hk hd
        (hkeys k d hd) hstarts hfirst hmine
      have hdone := effectsFor_without (l := l) hm hready hfailing hk hd (due_of_starts hstarts)
      have hsame := (hisolates k hk).2
      rcases exec_reached (l := l) hm hready hd with ⟨-, -, heffects⟩ | ⟨-, -, hnothing⟩
      · have hle := ((reactionOp_op mod l (h.startContext p) (h.conflict p)
          h.env.systemHibernate).cellInvariant (cellInvariant_acts mod ⟨d, h.io⟩)
          (.refl _)).io.length_le
        have hlength := congrArg List.length hsame
        rw [heffects, (exec_without hm hready hfailing hk hd).2, List.length_drop,
          List.length_drop] at hlength
        have hle' : h.io.log.length ≤ (l.outcome p mod h d).2.io.log.length := hle
        omega
      · exact hdone (hsame ▸ hnothing)
  · intro hunhindered k hk
    cases hd : h.find k with
    | none =>
      rw [(exec_none hd).1, (exec_none hd).2, (exec_none ((find_without hk).trans hd)).1,
        (exec_none ((find_without hk).trans hd)).2]
      exact ⟨rfl, rfl⟩
    | some d =>
      obtain ⟨hfind, heffects⟩ := exec_without (l := l) hm hready hfailing hk hd
      have houtcome := outcome_same hready hkeys hunhindered hk hd
      rw [hfind, heffects, houtcome]
      rcases exec_reached (l := l) hm hready hd with ⟨-, hreached⟩ | ⟨⟨u, e, hu, hlt, hstop⟩, hrest⟩
      · exact hreached
      -- not reached: nothing was due for it anyway
      have hfails := (outcome_goesOn hready hu).1 hstop
      have hdue := hunhindered.ahead u e k d hu hfails hd hk hlt
      have hidle : l.outcome p mod h d = (true, ⟨d, h.io⟩) :=
        op_of_not_due (c := ⟨d, h.io⟩) hdue (hready k d hd)
      rw [hidle]
      exact ⟨hrest.1, by simpa using hrest.2⟩

def refusingModule : ConnectorModule Unit where
  getConnectorModule m := (true, m)
  loadModel model m := (if model.map (·.data) = some [1] then -1 else 0, 7, m)
  unloadModel _ m := (0, m)
  start _ m := (0, m)
  stop _ m := (0, m)
  setParams _ _ m := (0, m)

lemma refusingModule_memoryless : refusingModule.Memoryless := by
  constructor <;> intros <;> rfl

def refused (uuid : Int) : Helper Unit where
  modelDataMap := ((∅ : OrderedMap Int TriggerModelData).set 1
    { uuid := 1, model := some ⟨1, 2, 1, [if uuid = 1 then 1 else 2]⟩, requested := true }).set 2
    { uuid := 2, model := some ⟨2, 2, 2, [if uuid = 2 then 1 else 2]⟩, requested := true }
  io := { conn := () }

lemma find_refused {uuid k : Int} {d : TriggerModelData} (hd : (refused uuid).find k = some d) :
    (k = 1 ∨ k = 2) ∧ d =
      { uuid := k, model := some ⟨k, 2, k, [if uuid = k then 1 else 2]⟩, requested := true } := by
  rw [find, refused, find?_set, find?_set] at hd
  split at hd
  · obtain rfl := Option.some.inj hd
    subst k
    exact ⟨.inr rfl, rfl⟩
  split at hd
  · obtain rfl := Option.some.inj hd
    subst k
    exact ⟨.inl rfl, rfl⟩
  · cases hd

theorem isolates_last_refused :
    (ModelLoop.onUpdateAllRecognitionState.exec (bare (.minimal true)) refusingModule
      (refused 2)).find 1 = some ⟨1, .started, some ⟨1, 2, 1, [2]⟩, none, 7, true⟩ ∧
    ∀ l : ModelLoop, l.Isolates (bare (.minimal true)) refusingModule (· == 2)
      (refused 2) := by
  refine ⟨by decide, fun l => (isolates_iff refusingModule_memoryless ?_ ?_ ?_).2 ⟨?_, ?_⟩⟩
  · intro k d hd hstate
    rw [(find_refused hd).2] at hstate
    exact absurd rfl hstate
  · intro k d hd
    rw [(find_refused hd).2]
  · intro k d hd hfails
    obtain ⟨rfl | rfl, rfl⟩ := find_refused hd
    · exact absurd (by decide) hfails.2
    · rfl
  · intro u e k d hu hfails hd hk hlt hdue
    obtain ⟨rfl | rfl, rfl⟩ := find_refused hu
    · exact absurd (by decide) hfails.2
    obtain ⟨rfl | rfl, rfl⟩ := find_refused hd
    · exact absurd hlt (by decide)
    · cases hk
  · intro hwindow
    cases hwindow

theorem first_refused_not_isolated :
    ¬ onUpdateAllRecognitionState.Isolates (bare (.minimal true)) refusingModule (· == 1)
        (refused 1) ∧
    ¬ startAllRecognition.Isolates (bare (.minimal true)) refusingModule (· == 1)
        (refused 1) := by
  constructor
  all_goals
    intro hisolates
    exact absurd (hisolates 2 rfl).1 (by decide)

end ModelLoop
end Without
end IntellVoice.Trigger
