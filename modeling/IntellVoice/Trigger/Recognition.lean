import IntellVoice.Trigger.Types

/-! `TriggerHelper` drives each model through the connector module. -/

namespace IntellVoice.Trigger
variable {M : Type*}

structure ConnectorModule (M : Type*) where
  getConnectorModule : M → Bool × M
  loadModel : Option GenericTriggerModel → M → Int × Int × M
  unloadModel : Int → M → Int × M
  start : Int → M → Int × M
  stop : Int → M → Int × M
  setParams : String → String → M → Int × M

structure ConnectorModule.Succeeds (mod : ConnectorModule M) : Prop where
  getConnectorModule : ∀ m, (mod.getConnectorModule m).1
  loadModel : ∀ model m, (mod.loadModel model m).1 = 0
  unloadModel : ∀ handle m, (mod.unloadModel handle m).1 = 0
  start : ∀ handle m, (mod.start handle m).1 = 0
  stop : ∀ handle m, (mod.stop handle m).1 = 0
  setParams : ∀ key value m, (mod.setParams key value m).1 = 0

def countingModule : ConnectorModule Nat where
  getConnectorModule n := (true, n)
  loadModel _ n := (0, n + 1, n + 1)
  unloadModel _ n := (0, n)
  start _ n := (0, n)
  stop _ n := (0, n)
  setParams _ _ n := (0, n)

lemma countingModule_succeeds : countingModule.Succeeds := by
  constructor <;> intros <;> rfl

structure Io (M : Type*) where
  moduleReady : Bool := false
  conn : M
  log : List Effect := []

def Io.emit (io : Io M) (e : Effect) : Io M := { io with log := io.log ++ [e] }

def Io.call (io : Io M) (e : Effect) (conn : M) : Io M :=
  { io with conn := conn, log := io.log ++ [e] }

def Io.getModule (mod : ConnectorModule M) (io : Io M) : Bool × Io M :=
  if io.moduleReady then (true, io)
  else
    let r := mod.getConnectorModule io.conn
    (r.1, { io with moduleReady := r.1, conn := r.2 })

def Io.setParameterForInputPipe (mod : ConnectorModule M) (key value : String) (io : Io M) :
    Int × Io M :=
  let g := io.getModule mod
  if !g.1 then (-1, g.2)
  else
    let r := mod.setParams key value g.2.conn
    (r.1, g.2.call (.setParams key value) r.2)

structure Cell (M : Type*) where
  data : TriggerModelData
  io : Io M

def loadModel (mod : ConnectorModule M) (c : Cell M) : Int × Cell M :=
  if c.data.state ≠ .notLoaded then (0, c)
  else if !c.io.moduleReady then (-1, c)
  else
    let r := mod.loadModel c.data.model c.io.conn
    let io := c.io.call (.loadModel c.data.uuid) r.2.2
    if r.1 ≠ 0 then (r.1, { c with io := io })
    else (r.1, ⟨(c.data.setModelHandle r.2.1).setState .loaded, io⟩)

def unloadModel (mod : ConnectorModule M) (c : Cell M) : Int × Cell M :=
  if c.data.state ≠ .loaded then (0, c)
  else if !c.io.moduleReady then (-1, c)
  else
    let r := mod.unloadModel c.data.modelHandle c.io.conn
    (r.1, ⟨c.data.setState .notLoaded,
      c.io.call (.unloadModel c.data.uuid c.data.modelHandle) r.2⟩)

def stopRecognition (mod : ConnectorModule M) (c : Cell M) : Int × Cell M :=
  if c.data.state ≠ .started then (0, c)
  else if !c.io.moduleReady then (-1, c)
  else
    let r := mod.stop c.data.modelHandle c.io.conn
    let io := c.io.call (.stop c.data.uuid c.data.modelHandle) r.2
    if r.1 ≠ 0 then (r.1, { c with io := io })
    else (r.1, ⟨c.data.setState .loaded, io⟩)

structure StartContext where
  windowManager : Bool
  onlyFirstStage : Bool
  isFoldable : Bool
  folded : Bool
  firstUuid : Option Int
  readFile : String → Option (List UInt8)
  country : String

def whisperModelPathVde : String :=
  "/sys_prod/variant/region_comm/china/etc/intellvoice/wakeup/dsp/whisper_wakeup_dsp_config_vde"

def whisperModelPath : String :=
  "/sys_prod/variant/region_comm/china/etc/intellvoice/wakeup/dsp/whisper_wakeup_dsp_config"

def readWhisperModel (ctx : StartContext) : Option GenericTriggerModel :=
  (ctx.readFile (if ctx.folded then whisperModelPathVde else whisperModelPath)).map fun data =>
    { uuid := proximalWakeupModelUuid, version := modelVersion2, type := proximalWakeupType,
      data := data }

def reLoadWhisperModel (mod : ConnectorModule M) (ctx : StartContext) (c : Cell M) : Cell M :=
  if c.data.uuid ≠ proximalWakeupModelUuid then c
  else
    match readWhisperModel ctx with
    | none => c
    | some model =>
      let c := { c with io := c.io.emit (.updateGenericTriggerModel model) }
      if c.data.sameModel model then c
      else
        let c := (unloadModel mod c).2
        (loadModel mod { c with data := c.data.setModel model }).2

def setFoldStatus (mod : ConnectorModule M) (ctx : StartContext) (io : Io M) : Io M :=
  (io.setParameterForInputPipe mod "is_folded" (if ctx.folded then "true" else "false")).2

def foldStatusOperation (mod : ConnectorModule M) (ctx : StartContext) (c : Cell M) : Cell M :=
  if !ctx.isFoldable then c
  else
    let c := reLoadWhisperModel mod ctx c
    if ctx.firstUuid = some c.data.uuid then { c with io := setFoldStatus mod ctx c.io } else c

def defaultWakeupInputGain : String := "10"
def mxWakeupInputGain : String := "22"

def handleWakeupInputGain (ctx : StartContext) (io : Io M) : Io M :=
  let gain := if ctx.country == "MX" then mxWakeupInputGain else defaultWakeupInputGain
  io.emit (.setExtraParameters "audio_effect" "wakeup_input_gain" gain)

def beforeStart (mod : ConnectorModule M) (ctx : StartContext) (c : Cell M) : Cell M :=
  let c := if ctx.windowManager then foldStatusOperation mod ctx c else c
  if ctx.onlyFirstStage then { c with io := handleWakeupInputGain ctx c.io } else c

def callStart (mod : ConnectorModule M) (c : Cell M) : Int × Cell M :=
  let r := mod.start c.data.modelHandle c.io.conn
  let io := c.io.call (.start c.data.uuid c.data.modelHandle) r.2
  if r.1 ≠ 0 then (r.1, { c with io := io })
  else (r.1, ⟨c.data.setState .started, io⟩)

def startRecognition (mod : ConnectorModule M) (ctx : StartContext) (c : Cell M) :
    Int × Cell M :=
  if c.data.state ≠ .loaded then (0, c)
  else if !c.io.moduleReady then (-1, c)
  else callStart mod (beforeStart mod ctx c)

def prepareForRecognition (mod : ConnectorModule M) (c : Cell M) : Int × Cell M :=
  let g := c.io.getModule mod
  let c := { c with io := g.2 }
  if !g.1 then (-1, c)
  else
    let r := loadModel mod c
    if r.1 ≠ 0 then (-1, r.2) else (0, r.2)

def initRecognition (mod : ConnectorModule M) (unload : Bool) (c : Cell M) : Int × Cell M :=
  if c.data.state = .notLoaded then (0, c)
  else
    let r := stopRecognition mod c
    if unload then
      let r := unloadModel mod r.2
      (r.1, { r.2 with data := r.2.data.clear })
    else r

def updateRecognitionState (mod : ConnectorModule M) (ctx : StartContext)
    (conflict hibernate : Bool) (c : Cell M) : Bool × Cell M :=
  let needStart := c.data.requested && !conflict
  if needStart = decide (c.data.state = .started) then (true, c)
  else if needStart then
    let r := prepareForRecognition mod c
    if r.1 ≠ 0 then (false, r.2) else (true, (startRecognition mod ctx r.2).2)
  else
    let c := (stopRecognition mod c).2
    (true, if hibernate then (unloadModel mod c).2 else c)

def startNeeded (mod : ConnectorModule M) (ctx : StartContext) (conflict : Bool) (c : Cell M) :
    Bool × Cell M :=
  if !(c.data.requested && !conflict) then (true, c)
  else
    let r := prepareForRecognition mod c
    if r.1 ≠ 0 then (false, r.2) else (true, (startRecognition mod ctx r.2).2)

def stopNeeded (mod : ConnectorModule M) (conflict : Bool) (c : Cell M) : Bool × Cell M :=
  if !(c.data.requested && !conflict) then (true, c) else (true, (stopRecognition mod c).2)

lemma loadModel_cases (mod : ConnectorModule M) (c : Cell M) :
    (loadModel mod c).2 = c ∨ (c.data.state = .notLoaded ∧ c.io.moduleReady ∧
      (((mod.loadModel c.data.model c.io.conn).1 ≠ 0 ∧ (loadModel mod c).2 =
        { c with io := c.io.call (.loadModel c.data.uuid)
                        (mod.loadModel c.data.model c.io.conn).2.2 }) ∨
      ((mod.loadModel c.data.model c.io.conn).1 = 0 ∧ (loadModel mod c).2 =
        ⟨(c.data.setModelHandle (mod.loadModel c.data.model c.io.conn).2.1).setState .loaded,
          c.io.call (.loadModel c.data.uuid) (mod.loadModel c.data.model c.io.conn).2.2⟩))) := by
  simp only [loadModel]
  split
  · exact .inl rfl
  rename_i hstate
  split
  · exact .inl rfl
  rename_i hready
  refine .inr ⟨not_not.1 hstate, by simpa using hready, ?_⟩
  split
  · exact .inl ⟨‹_›, rfl⟩
  · exact .inr ⟨not_not.1 ‹_›, rfl⟩

lemma unloadModel_cases (mod : ConnectorModule M) (c : Cell M) :
    ((unloadModel mod c).2 = c ∧ (c.data.state = .loaded → ¬ c.io.moduleReady)) ∨
    (c.data.state = .loaded ∧ c.io.moduleReady ∧ (unloadModel mod c).2 =
      ⟨c.data.setState .notLoaded, c.io.call (.unloadModel c.data.uuid c.data.modelHandle)
        (mod.unloadModel c.data.modelHandle c.io.conn).2⟩) := by
  simp only [unloadModel]
  split
  · rename_i hstate
    exact .inl ⟨rfl, fun h => absurd h hstate⟩
  rename_i hstate
  split
  · rename_i hready
    exact .inl ⟨rfl, fun _ => by simpa using hready⟩
  · rename_i hready
    exact .inr ⟨not_not.1 hstate, by simpa using hready, rfl⟩

lemma stopRecognition_cases (mod : ConnectorModule M) (c : Cell M) :
    ((stopRecognition mod c).2 = c ∧ (c.data.state = .started → ¬ c.io.moduleReady)) ∨
    (c.data.state = .started ∧ c.io.moduleReady ∧
      (((mod.stop c.data.modelHandle c.io.conn).1 ≠ 0 ∧ (stopRecognition mod c).2 =
        { c with io := c.io.call (.stop c.data.uuid c.data.modelHandle)
                        (mod.stop c.data.modelHandle c.io.conn).2 }) ∨
      ((mod.stop c.data.modelHandle c.io.conn).1 = 0 ∧ (stopRecognition mod c).2 =
        ⟨c.data.setState .loaded, c.io.call (.stop c.data.uuid c.data.modelHandle)
          (mod.stop c.data.modelHandle c.io.conn).2⟩))) := by
  simp only [stopRecognition]
  split
  · rename_i hstate
    exact .inl ⟨rfl, fun h => absurd h hstate⟩
  rename_i hstate
  split
  · rename_i hready
    exact .inl ⟨rfl, fun _ => by simpa using hready⟩
  rename_i hready
  refine .inr ⟨not_not.1 hstate, by simpa using hready, ?_⟩
  split
  · exact .inl ⟨‹_›, rfl⟩
  · exact .inr ⟨not_not.1 ‹_›, rfl⟩

lemma callStart_cases (mod : ConnectorModule M) (c : Cell M) :
    ((mod.start c.data.modelHandle c.io.conn).1 ≠ 0 ∧ (callStart mod c).2 =
      { c with io := c.io.call (.start c.data.uuid c.data.modelHandle)
                      (mod.start c.data.modelHandle c.io.conn).2 }) ∨
    ((mod.start c.data.modelHandle c.io.conn).1 = 0 ∧ (callStart mod c).2 =
      ⟨c.data.setState .started, c.io.call (.start c.data.uuid c.data.modelHandle)
        (mod.start c.data.modelHandle c.io.conn).2⟩) := by
  simp only [callStart]
  split
  · exact .inl ⟨‹_›, rfl⟩
  · exact .inr ⟨not_not.1 ‹_›, rfl⟩

lemma TriggerModelData.setModel_eq (d : TriggerModelData) (model : GenericTriggerModel) :
    ∃ m, d.setModel model = { d with model := m } := by
  unfold TriggerModelData.setModel
  split
  · exact ⟨d.model, rfl⟩
  · exact ⟨some model, rfl⟩

lemma Io.ready_setParameterForInputPipe (mod : ConnectorModule M) (key value : String)
    (io : Io M) (hready : io.moduleReady) :
    (io.setParameterForInputPipe mod key value).2.moduleReady := by
  simp [Io.setParameterForInputPipe, Io.getModule, hready, Io.call]

def Cell.Startable (c : Cell M) : Prop := c.io.moduleReady ∧ c.data.state ≠ .started

lemma startable_unloadModel (mod : ConnectorModule M) {c : Cell M} (hc : c.Startable) :
    (unloadModel mod c).2.Startable := by
  rcases unloadModel_cases mod c with ⟨heq, -⟩ | ⟨-, -, heq⟩ <;> rw [heq]
  · exact hc
  · exact ⟨hc.1, ModelState.noConfusion⟩

lemma startable_loadModel (mod : ConnectorModule M) {c : Cell M} (hc : c.Startable) :
    (loadModel mod c).2.Startable := by
  rcases loadModel_cases mod c with heq | ⟨-, -, ⟨-, heq⟩ | ⟨-, heq⟩⟩ <;> rw [heq]
  · exact hc
  · exact hc
  · exact ⟨hc.1, ModelState.noConfusion⟩

lemma startable_reLoadWhisperModel (mod : ConnectorModule M) (ctx : StartContext) {c : Cell M}
    (hc : c.Startable) : (reLoadWhisperModel mod ctx c).Startable := by
  unfold reLoadWhisperModel
  split
  · exact hc
  split
  · exact hc
  rename_i model _
  dsimp only
  split
  · exact hc
  apply startable_loadModel
  have hunload := startable_unloadModel mod
    (c := { c with io := c.io.emit (.updateGenericTriggerModel model) }) hc
  obtain ⟨m, hm⟩ := TriggerModelData.setModel_eq (unloadModel mod
    { c with io := c.io.emit (.updateGenericTriggerModel model) }).2.data model
  rw [hm]
  exact hunload

lemma startable_beforeStart (mod : ConnectorModule M) (ctx : StartContext) {c : Cell M}
    (hc : c.Startable) : (beforeStart mod ctx c).Startable := by
  have hfold : (foldStatusOperation mod ctx c).Startable := by
    have hreload := startable_reLoadWhisperModel mod ctx hc
    simp only [foldStatusOperation]
    split
    · exact hc
    split
    · exact ⟨Io.ready_setParameterForInputPipe mod _ _ _ hreload.1, hreload.2⟩
    · exact hreload
  simp only [beforeStart]
  split <;> split <;> first | exact hfold | exact hc

def Effect.Inert (e : Effect) : Prop := ∀ u, e.loadsOrStarts u = false ∧ e.detects u = false

structure CellInvariant (mod : ConnectorModule M) (J : Cell M → Prop) : Prop where
  getModule : ∀ c, J c → J { c with io := (c.io.getModule mod).2 }
  setParams : ∀ c key value, J c →
    J { c with io := (c.io.setParameterForInputPipe mod key value).2 }
  emit : ∀ c e, e.Inert → J c → J { c with io := c.io.emit e }
  setModel : ∀ c model, J c → J { c with data := c.data.setModel model }
  load : ∀ c, J c → J (loadModel mod c).2
  unload : ∀ c, J c → J (unloadModel mod c).2
  stop : ∀ c, J c → J (stopRecognition mod c).2
  start : ∀ c, c.Startable → J c → J (callStart mod c).2

namespace CellInvariant
variable {mod : ConnectorModule M} {J : Cell M → Prop} {c : Cell M}

lemma reLoadWhisperModel (hJ : CellInvariant mod J) (ctx : StartContext) (hc : J c) :
    J (reLoadWhisperModel mod ctx c) := by
  unfold IntellVoice.Trigger.reLoadWhisperModel
  split
  · exact hc
  split
  · exact hc
  rename_i model _
  have hemit := hJ.emit c (.updateGenericTriggerModel model) (fun _ => ⟨rfl, rfl⟩) hc
  dsimp only
  split
  · exact hemit
  · exact hJ.load _ (hJ.setModel _ model (hJ.unload _ hemit))

lemma beforeStart (hJ : CellInvariant mod J) (ctx : StartContext) (hc : J c) :
    J (beforeStart mod ctx c) := by
  have hfold : J (foldStatusOperation mod ctx c) := by
    simp only [foldStatusOperation]
    split
    · exact hc
    split
    · exact hJ.setParams _ _ _ (hJ.reLoadWhisperModel ctx hc)
    · exact hJ.reLoadWhisperModel ctx hc
  simp only [IntellVoice.Trigger.beforeStart]
  split <;> split
  · exact hJ.emit _ _ (fun _ => ⟨rfl, rfl⟩) hfold
  · exact hJ.emit _ _ (fun _ => ⟨rfl, rfl⟩) hc
  · exact hfold
  · exact hc

lemma startRecognition (hJ : CellInvariant mod J) (ctx : StartContext) (hc : J c) :
    J (startRecognition mod ctx c).2 := by
  unfold IntellVoice.Trigger.startRecognition
  split
  · exact hc
  rename_i hstate
  split
  · exact hc
  rename_i hready
  have hstartable : c.Startable :=
    ⟨by simpa using hready, fun h => hstate (by simp [h])⟩
  exact hJ.start _ (startable_beforeStart mod ctx hstartable) (hJ.beforeStart ctx hc)

end CellInvariant

structure OperationInvariant (mod : ConnectorModule M) (J : Cell M → Prop) : Prop where
  getModule : ∀ c, J c → J { c with io := (c.io.getModule mod).2 }
  load : ∀ c, J c → J (loadModel mod c).2
  unload : ∀ c, J c → J (unloadModel mod c).2
  stop : ∀ c, J c → J (stopRecognition mod c).2
  startRecognition : ∀ c ctx, J c → J (startRecognition mod ctx c).2

lemma CellInvariant.operation {mod : ConnectorModule M} {J : Cell M → Prop}
    (hJ : CellInvariant mod J) : OperationInvariant mod J :=
  ⟨hJ.getModule, hJ.load, hJ.unload, hJ.stop, fun _ ctx hc => hJ.startRecognition ctx hc⟩

namespace OperationInvariant
variable {mod : ConnectorModule M} {J : Cell M → Prop} {c : Cell M}

section
variable (hJ : OperationInvariant mod J)
include hJ

lemma prepareForRecognition (hc : J c) : J (prepareForRecognition mod c).2 := by
  have hget := hJ.getModule c hc
  have hload := hJ.load _ hget
  simp only [IntellVoice.Trigger.prepareForRecognition]
  split
  · exact hget
  · split <;> exact hload

lemma updateRecognitionState (ctx : StartContext) (conflict hibernate : Bool) (hc : J c) :
    J (updateRecognitionState mod ctx conflict hibernate c).2 := by
  have hprep := hJ.prepareForRecognition hc
  have hstop := hJ.stop c hc
  simp only [IntellVoice.Trigger.updateRecognitionState]
  split
  · exact hc
  split
  · split
    · exact hprep
    · exact hJ.startRecognition _ ctx hprep
  · split
    · exact hJ.unload _ hstop
    · exact hstop

lemma startNeeded (ctx : StartContext) (conflict : Bool) (hc : J c) :
    J (startNeeded mod ctx conflict c).2 := by
  have hprep := hJ.prepareForRecognition hc
  simp only [IntellVoice.Trigger.startNeeded]
  split
  · exact hc
  split
  · exact hprep
  · exact hJ.startRecognition _ ctx hprep

lemma stopNeeded (conflict : Bool) (hc : J c) : J (stopNeeded mod conflict c).2 := by
  unfold IntellVoice.Trigger.stopNeeded
  split
  · exact hc
  · exact hJ.stop c hc

end
end OperationInvariant

def Effect.OwnedBy (uuid : Int) (e : Effect) : Prop :=
  ∀ u, (e.loadsOrStarts u → u = uuid) ∧ e.detects u = false

lemma Effect.ownedBy_loadModel (uuid : Int) : (Effect.loadModel uuid).OwnedBy uuid := by
  simp [OwnedBy, loadsOrStarts, detects]

lemma Effect.ownedBy_start (uuid handle : Int) : (Effect.start uuid handle).OwnedBy uuid := by
  simp [OwnedBy, loadsOrStarts, detects]

variable {e : Effect} {uuid : Int} {io : Io M}

lemma Effect.Inert.ownedBy (he : e.Inert) (uuid : Int) : e.OwnedBy uuid := fun u =>
  ⟨fun h => absurd h (by simp [(he u).1]), (he u).2⟩

structure Io.Acts (uuid : Int) (io io' : Io M) : Prop where
  ready : io.moduleReady → io'.moduleReady
  log : ∃ es, io'.log = io.log ++ es ∧ ∀ e ∈ es, e.OwnedBy uuid

lemma Io.Acts.refl (uuid : Int) (io : Io M) : io.Acts uuid io := ⟨id, [], by simp, by simp⟩

lemma Io.Acts.trans {io' io'' : Io M} (h : io.Acts uuid io') (h' : io'.Acts uuid io'') :
    io.Acts uuid io'' := by
  obtain ⟨es, hlog, hes⟩ := h.log
  obtain ⟨es', hlog', hes'⟩ := h'.log
  refine ⟨h'.ready ∘ h.ready, es ++ es', by simp [hlog', hlog], fun e he => ?_⟩
  exact (List.mem_append.1 he).elim (hes e) (hes' e)

lemma Io.acts_call (he : e.OwnedBy uuid) (io : Io M) (conn : M) :
    io.Acts uuid (io.call e conn) := ⟨id, [e], rfl, by simpa using he⟩

lemma Io.acts_emit (he : e.OwnedBy uuid) (io : Io M) :
    io.Acts uuid (io.emit e) := ⟨id, [e], rfl, by simpa using he⟩

lemma Io.acts_getModule (mod : ConnectorModule M) (uuid : Int) (io : Io M) :
    io.Acts uuid (io.getModule mod).2 := by
  unfold Io.getModule
  split
  · exact .refl uuid io
  · exact ⟨fun h => absurd h ‹_›, [], by simp, by simp⟩

lemma Io.log_getModule (mod : ConnectorModule M) (io : Io M) :
    (io.getModule mod).2.log = io.log := by
  unfold Io.getModule
  split <;> rfl

lemma Io.log_setParameterForInputPipe (mod : ConnectorModule M) (key value : String)
    (io : Io M) : (io.setParameterForInputPipe mod key value).2.log = io.log ∨
      (io.setParameterForInputPipe mod key value).2.log = io.log ++ [.setParams key value] := by
  simp only [Io.setParameterForInputPipe]
  split
  · exact .inl (io.log_getModule mod)
  · exact .inr (by simp [Io.call, io.log_getModule mod])

lemma Io.acts_setParameterForInputPipe (mod : ConnectorModule M) (uuid : Int)
    (key value : String) (io : Io M) :
    io.Acts uuid (io.setParameterForInputPipe mod key value).2 := by
  refine ⟨io.ready_setParameterForInputPipe mod key value, ?_⟩
  rcases io.log_setParameterForInputPipe mod key value with hlog | hlog
  · exact ⟨[], by simp [hlog], by simp⟩
  · exact ⟨_, hlog, by simp [Effect.OwnedBy, Effect.loadsOrStarts, Effect.detects]⟩

structure Cell.Acts (c c' : Cell M) : Prop where
  uuid : c'.data.uuid = c.data.uuid
  requested : c'.data.requested = c.data.requested
  callback : c'.data.callback = c.data.callback
  io : c.io.Acts c.data.uuid c'.io

lemma Cell.Acts.refl (c : Cell M) : c.Acts c := ⟨rfl, rfl, rfl, .refl _ _⟩

lemma Cell.Acts.trans {c c' c'' : Cell M} (h : c.Acts c') (h' : c'.Acts c'') : c.Acts c'' :=
  ⟨h'.uuid.trans h.uuid, h'.requested.trans h.requested, h'.callback.trans h.callback,
    h.io.trans (h.uuid ▸ h'.io)⟩

lemma Cell.acts_io {c : Cell M} (h : c.io.Acts c.data.uuid io) :
    c.Acts { c with io := io } := ⟨rfl, rfl, rfl, h⟩

lemma acts_loadModel (mod : ConnectorModule M) (c : Cell M) : c.Acts (loadModel mod c).2 := by
  have hcall := Io.acts_call (Effect.ownedBy_loadModel c.data.uuid) c.io
  rcases loadModel_cases mod c with heq | ⟨-, -, ⟨-, heq⟩ | ⟨-, heq⟩⟩ <;> rw [heq]
  · exact .refl c
  · exact ⟨rfl, rfl, rfl, hcall _⟩
  · exact ⟨rfl, rfl, rfl, hcall _⟩

lemma acts_unloadModel (mod : ConnectorModule M) (c : Cell M) : c.Acts (unloadModel mod c).2 := by
  have hinert : (Effect.unloadModel c.data.uuid c.data.modelHandle).Inert := fun _ => ⟨rfl, rfl⟩
  rcases unloadModel_cases mod c with ⟨heq, -⟩ | ⟨-, -, heq⟩ <;> rw [heq]
  · exact .refl c
  · exact ⟨rfl, rfl, rfl, Io.acts_call (hinert.ownedBy _) _ _⟩

lemma acts_stopRecognition (mod : ConnectorModule M) (c : Cell M) :
    c.Acts (stopRecognition mod c).2 := by
  have hinert : (Effect.stop c.data.uuid c.data.modelHandle).Inert := fun _ => ⟨rfl, rfl⟩
  have hcall := Io.acts_call (hinert.ownedBy c.data.uuid) c.io
  rcases stopRecognition_cases mod c with ⟨heq, -⟩ | ⟨-, -, ⟨-, heq⟩ | ⟨-, heq⟩⟩ <;> rw [heq]
  · exact .refl c
  · exact ⟨rfl, rfl, rfl, hcall _⟩
  · exact ⟨rfl, rfl, rfl, hcall _⟩

lemma acts_callStart (mod : ConnectorModule M) (c : Cell M) : c.Acts (callStart mod c).2 := by
  have hcall := Io.acts_call (Effect.ownedBy_start c.data.uuid c.data.modelHandle) c.io
  rcases callStart_cases mod c with ⟨-, heq⟩ | ⟨-, heq⟩ <;> rw [heq]
  all_goals exact ⟨rfl, rfl, rfl, hcall _⟩

lemma Cell.acts_setModel (c : Cell M) (model : GenericTriggerModel) :
    c.Acts { c with data := c.data.setModel model } := by
  obtain ⟨m, hm⟩ := TriggerModelData.setModel_eq c.data model
  rw [hm]
  exact ⟨rfl, rfl, rfl, .refl _ _⟩

lemma cellInvariant_acts (mod : ConnectorModule M) (c : Cell M) : CellInvariant mod c.Acts where
  getModule _ h := h.trans (Cell.acts_io (Io.acts_getModule mod _ _))
  setParams _ _ _ h := h.trans (Cell.acts_io (Io.acts_setParameterForInputPipe mod _ _ _ _))
  emit _ _ he h := h.trans (Cell.acts_io (Io.acts_emit (he.ownedBy _) _))
  setModel c' model h := h.trans (c'.acts_setModel model)
  load c' h := h.trans (acts_loadModel mod c')
  unload c' h := h.trans (acts_unloadModel mod c')
  stop c' h := h.trans (acts_stopRecognition mod c')
  start c' _ h := h.trans (acts_callStart mod c')

lemma acts_startRecognition (mod : ConnectorModule M) (ctx : StartContext) (c : Cell M) :
    c.Acts (startRecognition mod ctx c).2 :=
  (cellInvariant_acts mod c).startRecognition ctx (.refl c)

lemma acts_prepareForRecognition (mod : ConnectorModule M) (c : Cell M) :
    c.Acts (prepareForRecognition mod c).2 :=
  (cellInvariant_acts mod c).operation.prepareForRecognition (.refl c)

end IntellVoice.Trigger
