import IntellVoice.Trigger.Standing

/-! `TriggerConnector::TriggerSession` is the connector module of the helper. -/

namespace IntellVoice.Trigger
variable {H : Type*}

structure Hal (H : Type*) where
  loadHdiAdapter : H → Bool × H
  loadModel : GenericTriggerModel → H → Int × Int × H
  unloadModel : Int → H → Int × H
  start : Int → H → Int × H
  stop : Int → H → Int × H
  setParams : String → String → H → Int × H

def countingHal : Hal Nat where
  loadHdiAdapter n := (true, n)
  loadModel _ n := (0, n + 1, n + 1)
  unloadModel _ n := (0, n)
  start _ n := (0, n)
  stop _ n := (0, n)
  setParams _ _ n := (0, n)

def stubbornHal : Hal Nat := { countingHal with stop := fun _ n => (-1, n) }

inductive SessionModelState where
  | idle
  | loaded
  | active
deriving DecidableEq

structure TriggerSession (H : Type*) where
  adapter : Bool := false
  hal : H
  loadedModels : OrderedMap Int SessionModelState := ∅

namespace TriggerSession

def getModule (hal : Hal H) (s : TriggerSession H) : Bool × TriggerSession H :=
  if s.adapter then (true, { s with loadedModels := ∅ })
  else
    let r := hal.loadHdiAdapter s.hal
    (r.1, { adapter := r.1, hal := r.2, loadedModels := ∅ })

def loadModel (hal : Hal H) (model : Option GenericTriggerModel) (s : TriggerSession H) :
    Int × Int × TriggerSession H :=
  if !s.adapter then (-1, 0, s)
  else
    match model with
    | none => (-1, 0, s)
    | some model =>
      if model.data.isEmpty then (-1, 0, s)
      else
        let r := hal.loadModel model s.hal
        if r.1 ≠ 0 then (r.1, 0, { s with hal := r.2.2 })
        else (r.1, r.2.1,
          { s with hal := r.2.2, loadedModels := s.loadedModels.insertNew r.2.1 .loaded })

def unloadModel (hal : Hal H) (modelHandle : Int) (s : TriggerSession H) :
    Int × TriggerSession H :=
  if !s.adapter then (-1, s)
  else
    match s.loadedModels.find? modelHandle with
    | none => (-1, s)
    | some state =>
      let s' := { s with loadedModels := s.loadedModels.erase modelHandle }
      if state = .idle then (-1, s')
      else
        let r := hal.unloadModel modelHandle s.hal
        (r.1, { s' with hal := r.2 })

def start (hal : Hal H) (modelHandle : Int) (s : TriggerSession H) : Int × TriggerSession H :=
  if !s.adapter then (-1, s)
  else if s.loadedModels.find? modelHandle ≠ some .loaded then (-1, s)
  else
    let r := hal.start modelHandle s.hal
    if r.1 ≠ 0 then (r.1, { s with hal := r.2 })
    else (r.1, { s with hal := r.2, loadedModels := s.loadedModels.set modelHandle .active })

def stop (hal : Hal H) (modelHandle : Int) (s : TriggerSession H) : Int × TriggerSession H :=
  if !s.adapter then (-1, s)
  else if s.loadedModels.find? modelHandle ≠ some .active then (-1, s)
  else
    let r := hal.stop modelHandle s.hal
    if r.1 ≠ 0 then (r.1, { s with hal := r.2 })
    else (r.1, { s with hal := r.2, loadedModels := s.loadedModels.set modelHandle .loaded })

def setParams (hal : Hal H) (key value : String) (s : TriggerSession H) :
    Int × TriggerSession H :=
  if !s.adapter then (-1, s)
  else
    let r := hal.setParams key value s.hal
    (r.1, { s with hal := r.2 })

end TriggerSession

def sessionModule (hal : Hal H) : ConnectorModule (TriggerSession H) where
  getConnectorModule := TriggerSession.getModule hal
  loadModel := TriggerSession.loadModel hal
  unloadModel := TriggerSession.unloadModel hal
  start := TriggerSession.start hal
  stop := TriggerSession.stop hal
  setParams := TriggerSession.setParams hal

def Cell.Stoppable (hal : Hal H) (c : Cell (TriggerSession H)) : Prop :=
  c.data.state = .started →
    c.io.conn.loadedModels.find? c.data.modelHandle = some .active ∧
      (hal.stop c.data.modelHandle c.io.conn.hal).1 = 0

/-- The helper over a session, with the recognitions still to be delivered. -/
structure TriggerSystem (H : Type*) where
  world : World (TriggerSession H)
  queue : List Int := []
  inFlight : Option Int := none

namespace TriggerSystem

def helper (s : TriggerSystem H) : Helper (TriggerSession H) := s.world.helper
def session (s : TriggerSystem H) : TriggerSession H := s.world.helper.io.conn

def setWorld (s : TriggerSystem H) (w : World (TriggerSession H)) : TriggerSystem H :=
  { s with world := w }

def setHelper (s : TriggerSystem H) (h : Helper (TriggerSession H)) : TriggerSystem H :=
  s.setWorld (s.world.setHelper h)

def setSession (s : TriggerSystem H) (session : TriggerSession H) : TriggerSystem H :=
  s.setHelper { s.helper with io := { s.helper.io with conn := session } }

end TriggerSystem

inductive SystemEvent where
  | helper (e : Event)
  | onRecognitionHdiEvent (modelHandle : Int)
  | processRecognitionHdiEvent
  | deliver

def maxRecognitionEventNum : Nat := 200

def TriggerSystem.process (s : TriggerSystem H) (modelHandle : Int) : TriggerSystem H :=
  if s.session.loadedModels.find? modelHandle = some .active then
    { s.setSession { s.session with
        loadedModels := s.session.loadedModels.set modelHandle .loaded } with
      inFlight := some modelHandle }
  else s

def Event.fromModule : Event → Bool
  | .onRecognition _ => true
  | _ => false

def systemStep (p : Platform) (hal : Hal H) (s : TriggerSystem H) :
    SystemEvent → Option (TriggerSystem H)
  | .helper e =>
    if e.fromModule then none else (step p (sessionModule hal) s.world e).map s.setWorld
  | .onRecognitionHdiEvent modelHandle =>
    -- pushed without waiting: a full queue drops the event
    if s.queue.length < maxRecognitionEventNum then
      some { s with queue := s.queue ++ [modelHandle] }
    else some s
  | .processRecognitionHdiEvent =>
    match s.inFlight, s.queue with
    | none, modelHandle :: rest => some ({ s with queue := rest }.process modelHandle)
    | _, _ => none
  | .deliver =>
    match s.inFlight with
    | none => none
    | some modelHandle =>
      some { s.setHelper (s.helper.onRecognition modelHandle) with inFlight := none }

def TriggerSystem.initial (hal : H) (pipes : InputPipes) (kv : StoredLists) : TriggerSystem H :=
  { world := World.initial { hal := hal } pipes kv }

variable (hal : Hal H)

@[simp] lemma TriggerSession.adapter_loadModel (model : Option GenericTriggerModel)
    (s : TriggerSession H) : (s.loadModel hal model).2.2.adapter = s.adapter := by
  unfold TriggerSession.loadModel
  split
  · rfl
  split
  · rfl
  split
  · rfl
  · dsimp only
    split <;> rfl

@[simp] lemma TriggerSession.adapter_unloadModel (handle : Int) (s : TriggerSession H) :
    (s.unloadModel hal handle).2.adapter = s.adapter := by
  unfold TriggerSession.unloadModel
  split
  · rfl
  split
  · rfl
  · dsimp only
    split <;> rfl

inductive TriggerSession.Switched (op : H → Int × H) (handle : Int) (old new : SessionModelState)
    (s : TriggerSession H) : Int × TriggerSession H → Prop
  | done {ret : Int} (hzero : ret = 0) (hentry : s.loadedModels.find? handle = some old) :
      s.Switched op handle old new
        (ret, { s with hal := (op s.hal).2, loadedModels := s.loadedModels.set handle new })
  | failed {ret : Int} {a : H} (hne : ret ≠ 0) (hhal : a = s.hal ∨ a = (op s.hal).2) :
      s.Switched op handle old new (ret, { s with hal := a })

lemma TriggerSession.start_switched (handle : Int) (s : TriggerSession H) :
    s.Switched (hal.start handle) handle .loaded .active (s.start hal handle) := by
  unfold TriggerSession.start
  split
  · exact .failed (by simp) (.inl rfl)
  split
  · exact .failed (by simp) (.inl rfl)
  rename_i hloaded
  dsimp only
  split
  · exact .failed ‹_› (.inr rfl)
  · exact .done (not_not.1 ‹_›) (not_not.1 hloaded)

lemma TriggerSession.stop_switched (handle : Int) (s : TriggerSession H) :
    s.Switched (hal.stop handle) handle .active .loaded (s.stop hal handle) := by
  unfold TriggerSession.stop
  split
  · exact .failed (by simp) (.inl rfl)
  split
  · exact .failed (by simp) (.inl rfl)
  rename_i hactive
  dsimp only
  split
  · exact .failed ‹_› (.inr rfl)
  · exact .done (not_not.1 ‹_›) (not_not.1 hactive)

section Switched
variable {op : H → Int × H} {handle : Int} {old new : SessionModelState} {s : TriggerSession H}
  {r : Int × TriggerSession H}

lemma TriggerSession.Switched.adapter_eq (h : s.Switched op handle old new r) :
    r.2.adapter = s.adapter := by
  cases h <;> rfl

lemma TriggerSession.Switched.find?_of_zero (h : s.Switched op handle old new r)
    (hzero : r.1 = 0) : s.loadedModels.find? handle = some old := by
  cases h with
  | done _ hentry => exact hentry
  | failed hne => exact absurd hzero hne

lemma TriggerSession.Switched.loadedModels_of_ne_zero (h : s.Switched op handle old new r)
    (hne : r.1 ≠ 0) : r.2.loadedModels = s.loadedModels := by
  cases h with
  | done hzero => exact absurd hzero hne
  | failed => rfl

end Switched

@[simp] lemma TriggerSession.adapter_setParams (key value : String) (s : TriggerSession H) :
    (s.setParams hal key value).2.adapter = s.adapter := by
  unfold TriggerSession.setParams
  split <;> rfl

lemma TriggerSession.stop_eq_zero {hal : Hal H} {handle : Int} {s : TriggerSession H}
    (hadapter : s.adapter) (hactive : s.loadedModels.find? handle = some .active)
    (hzero : (hal.stop handle s.hal).1 = 0) : (s.stop hal handle).1 = 0 := by
  simp [TriggerSession.stop, hadapter, hactive, hzero]

def SessionSound (io : Io (TriggerSession H)) : Prop :=
  (io.moduleReady → io.conn.adapter) ∧ (io.moduleReady = false → io.conn.loadedModels = ∅)

variable {io : Io (TriggerSession H)} {e : SystemEvent} {s' : TriggerSystem H}

lemma SessionSound.getModule (hio : SessionSound io) :
    SessionSound (io.getModule (sessionModule hal)).2 := by
  unfold Io.getModule
  split
  · exact hio
  change SessionSound { io with
    moduleReady := (io.conn.getModule hal).1, conn := (io.conn.getModule hal).2 }
  unfold TriggerSession.getModule
  split
  · rename_i hadapter
    exact ⟨fun _ => hadapter, fun _ => rfl⟩
  · exact ⟨id, fun _ => rfl⟩

lemma SessionSound.call (hio : SessionSound io) (hready : io.moduleReady) {conn : TriggerSession H}
    (hconn : conn.adapter = io.conn.adapter) (e : Effect) : SessionSound (io.call e conn) :=
  ⟨fun _ => hconn.trans (hio.1 hready), fun h => absurd hready (by simpa [Io.call] using h)⟩

lemma SessionSound.setParameterForInputPipe (hio : SessionSound io) (key value : String) :
    SessionSound (io.setParameterForInputPipe (sessionModule hal) key value).2 := by
  have hget := hio.getModule hal
  simp only [Io.setParameterForInputPipe]
  split
  · exact hget
  rename_i hset
  refine hget.call ?_ (TriggerSession.adapter_setParams hal key value _) _
  simp only [Io.getModule] at hset ⊢
  split <;> simp_all

lemma requestInvariant_sessionSound :
    RequestInvariant (sessionModule hal) fun c => SessionSound c.io where
  getModule _ hc := hc.getModule hal
  setParams _ key value hc := hc.setParameterForInputPipe hal key value
  emit _ _ _ hc := hc
  setModel _ _ hc := hc
  load c hc := by
    rcases loadModel_cases (sessionModule hal) c with heq | ⟨-, hready, hcall⟩
    · rwa [heq]
    · have hsound := hc.call hready (TriggerSession.adapter_loadModel hal c.data.model c.io.conn)
      rcases hcall with ⟨-, heq⟩ | ⟨-, heq⟩ <;> rw [heq] <;> exact hsound _
  unload c hc := by
    rcases unloadModel_cases (sessionModule hal) c with ⟨heq, -⟩ | ⟨-, hready, heq⟩
    · rwa [heq]
    rw [heq]
    exact hc.call hready
      (TriggerSession.adapter_unloadModel hal c.data.modelHandle c.io.conn) _
  stop c hc := by
    rcases stopRecognition_cases (sessionModule hal) c with ⟨heq, -⟩ | ⟨-, hready, hcall⟩
    · rwa [heq]
    have hsound := hc.call hready
      (TriggerSession.stop_switched hal c.data.modelHandle c.io.conn).adapter_eq
    rcases hcall with ⟨-, heq⟩ | ⟨-, heq⟩ <;> rw [heq] <;> exact hsound _
  start c hs hc := by
    have hsound := hc.call hs.1
      (TriggerSession.start_switched hal c.data.modelHandle c.io.conn).adapter_eq
    rcases callStart_cases (sessionModule hal) c with ⟨-, heq⟩ | ⟨-, heq⟩ <;> rw [heq] <;>
      exact hsound _
  setCallback _ _ hc := hc
  setRequested _ _ hc := hc
  clearCallback _ hc := hc
  clear _ hc := hc

lemma standingInvariant_session :
    StandingInvariant (sessionModule hal) SessionSound TriggerModelData.NeedsModule :=
  standingInvariant_needsModule (requestInvariant_sessionSound hal) (fun _ _ h => h)

variable {hal} {p : Platform}

lemma systemStep_cases {s : TriggerSystem H} (hstep : systemStep p hal s e = some s') :
    (∃ e' w', e = .helper e' ∧ e'.fromModule = false ∧
      step p (sessionModule hal) s.world e' = some w' ∧ s' = s.setWorld w') ∨
    (∃ handle, e = .onRecognitionHdiEvent handle ∧ s'.world = s.world ∧ s'.inFlight = s.inFlight) ∨
    (e = .processRecognitionHdiEvent ∧ s.inFlight = none ∧ ∃ handle rest,
      s.queue = handle :: rest ∧ s' = { s with queue := rest }.process handle) ∨
    (e = .deliver ∧ ∃ handle, s.inFlight = some handle ∧
      s' = { s.setHelper (s.helper.onRecognition handle) with inFlight := none }) := by
  cases e with
  | helper e' =>
    simp only [systemStep] at hstep
    split at hstep
    · cases hstep
    rename_i hmodule
    obtain ⟨w', hw', rfl⟩ := Option.map_eq_some_iff.1 hstep
    exact .inl ⟨e', w', rfl, by simpa using hmodule, hw', rfl⟩
  | onRecognitionHdiEvent handle =>
    simp only [systemStep] at hstep
    split at hstep <;> cases hstep <;> exact .inr (.inl ⟨handle, rfl, rfl, rfl⟩)
  | processRecognitionHdiEvent =>
    simp only [systemStep] at hstep
    split at hstep
    · rename_i handle rest hfree hqueue
      exact .inr (.inr (.inl ⟨rfl, hfree, handle, rest, hqueue, (Option.some.inj hstep).symm⟩))
    · cases hstep
  | deliver =>
    simp only [systemStep] at hstep
    split at hstep
    · cases hstep
    · rename_i handle hflight
      exact .inr (.inr (.inr ⟨rfl, handle, hflight, (Option.some.inj hstep).symm⟩))

lemma TriggerSystem.process_cases (s : TriggerSystem H) (handle : Int) : s.process handle = s ∨
    (s.session.loadedModels.find? handle = some .active ∧
      s.process handle = { s.setSession { s.session with
        loadedModels := s.session.loadedModels.set handle .loaded } with
        inFlight := some handle }) := by
  unfold TriggerSystem.process
  split
  · exact .inr ⟨‹_›, rfl⟩
  · exact .inl rfl

structure TriggerSystem.Sound (s : TriggerSystem H) : Prop where
  keys : s.helper.KeysAgree
  holds : StandingInvariant.Holds SessionSound TriggerModelData.NeedsModule s.helper
  flight : s.inFlight ≠ none → s.helper.io.moduleReady

lemma TriggerSystem.Sound.ready_of_find {s : TriggerSystem H} (hs : s.Sound) {handle : Int}
    {state : SessionModelState} (hfind : s.session.loadedModels.find? handle = some state) :
    s.helper.io.moduleReady := by
  by_contra hready
  have hempty := hs.holds.1.2 (by simpa using hready)
  change s.session.loadedModels = ∅ at hempty
  rw [hempty] at hfind
  cases hfind

lemma ready_of_step {w w' : World (TriggerSession H)} {e : Event}
    (hkeys : w.helper.KeysAgree) (hstep : step p (sessionModule hal) w e = some w')
    (hready : w.helper.io.moduleReady) : w'.helper.io.moduleReady := by
  obtain ⟨uuid, model, cb, -, rfl⟩ | ⟨uuid, -, rfl⟩ | ⟨uuid, -, rfl⟩ | ⟨handle, -, -, rfl⟩ | he :=
    step_cases hstep
  · exact (Helper.Serves.startGenericRecognition p _ hkeys uuid model cb).io.ready hready
  · exact (Helper.Serves.stopGenericRecognition _ hkeys uuid).io.ready hready
  · exact (Helper.Serves.unloadGenericTriggerModel _ hkeys uuid).io.ready hready
  · cases hr : w.helper.recognized handle with
    | none =>
      rw [Helper.onRecognition_none hr]
      exact hready
    | some found =>
      rw [Helper.onRecognition_some (k := found.1) (d := found.2) hr]
      simp only [World.setHelper, Helper.reportDetection]
      split <;> exact hready
  · exact (step_reacts he hstep).ready hready

lemma TriggerSystem.Sound.process {s : TriggerSystem H} (hs : s.Sound) (handle : Int) :
    (s.process handle).Sound := by
  rcases s.process_cases handle with hsame | ⟨hactive, hset⟩
  · rw [hsame]
    exact hs
  have hready := hs.ready_of_find hactive
  have hadapter := hs.holds.1.1 hready
  rw [hset]
  refine ⟨hs.keys, ⟨⟨fun _ => hadapter, fun h => ?_⟩, hs.holds.2⟩, fun _ => hready⟩
  exact Bool.noConfusion (hready.symm.trans h)

lemma systemStep_sound {s : TriggerSystem H} (hs : s.Sound)
    (hstep : systemStep p hal s e = some s') :
    s'.Sound := by
  obtain ⟨e', w', -, -, hw', rfl⟩ | ⟨handle, -, hworld, hflight⟩ |
    ⟨-, hfree, handle, rest, -, rfl⟩ | ⟨-, handle, hflight, rfl⟩ := systemStep_cases hstep
  · exact ⟨step_keysAgree hs.keys hw', (standingInvariant_session hal).step hs.holds hw',
      fun h => ready_of_step hs.keys hw' (hs.flight h)⟩
  · have hhelper : s'.helper = s.helper := by rw [TriggerSystem.helper, hworld]; rfl
    exact ⟨hhelper ▸ hs.keys, hhelper ▸ hs.holds, fun h => hhelper ▸ hs.flight (hflight ▸ h)⟩
  · have hpopped : ({ s with queue := rest } : TriggerSystem H).Sound :=
      ⟨hs.keys, hs.holds, hs.flight⟩
    exact hpopped.process handle
  · have hready := hs.flight (by simp [hflight])
    exact ⟨hs.keys.onRecognition handle,
      (standingInvariant_session hal).onRecognition hs.holds hready handle, fun h => absurd rfl h⟩

lemma TriggerSystem.initial_sound (hal₀ : H) (pipes : InputPipes) (kv : StoredLists) :
    (TriggerSystem.initial hal₀ pipes kv).Sound := by
  have hfind : ∀ k, (TriggerSystem.initial hal₀ pipes kv).helper.find k = none := fun _ => rfl
  refine ⟨fun k d hd => ?_, ⟨⟨fun h => ?_, fun _ => rfl⟩, fun k d hd => ?_⟩, fun h => absurd rfl h⟩
  · rw [hfind] at hd
    cases hd
  · cases h
  · rw [hfind] at hd
    cases hd

end IntellVoice.Trigger
