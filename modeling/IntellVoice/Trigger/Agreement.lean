import IntellVoice.Trigger.Routing

/-! Every entry of the session's table belongs to exactly one loaded model of the helper. -/

namespace IntellVoice.Trigger
open Transition OrderedMap Helper
variable {H : Type*} {p : Platform} {hal : Hal H} {live : H → Int → Prop} {flight : Option Int}

/-- The session's entry for the handle of a loaded model. `flight` is the handle of a detection that
the session has recorded and the helper has not handled yet. -/
def Matches (flight : Option Int) (d : TriggerModelData) : Option SessionModelState → Prop
  | some .loaded => (d.state = .loaded ∧ flight ≠ some d.modelHandle) ∨
      (d.state = .started ∧ flight = some d.modelHandle)
  | some .active => d.state = .started ∧ flight ≠ some d.modelHandle
  | _ => False

section
variable {d : TriggerModelData} {entry : Option SessionModelState}

lemma Matches.loaded (hm : Matches flight d entry) : d.state ≠ .notLoaded := by
  intro hstate
  rcases entry with - | (- | - | -) <;> simp [Matches, hstate] at hm

lemma Matches.entry_of_loaded (hm : Matches flight d entry) (hstate : d.state = .loaded) :
    entry = some .loaded ∧ flight ≠ some d.modelHandle := by
  rcases entry with - | (- | - | -) <;> simp_all [Matches]

lemma Matches.congr {flight' : Option Int} (hm : Matches flight d entry)
    (hne : flight ≠ some d.modelHandle) (hne' : flight' ≠ some d.modelHandle) :
    Matches flight' d entry := by
  rcases entry with - | (- | - | -) <;> simp_all [Matches]

end

/-- What the session's table says to one model: `taken` are the handles of the other loaded models,
whose entries are those of `table`. -/
structure Cell.Tabled (flight : Option Int) (taken : Int → Prop)
    (table : Int → Option SessionModelState) (c : Cell (TriggerSession H)) : Prop where
  kept : ∀ handle, taken handle → c.entry handle = table handle
  listed : ∀ handle state, c.entry handle = some state → taken handle ∨ c.data.LoadedUnder handle
  fits : c.data.state ≠ .notLoaded → Matches flight c.data (c.entry c.data.modelHandle)
  flying : ∀ handle, flight = some handle → c.entry handle = some .loaded

lemma Cell.Apart.stopAndUnload_state (hal : Hal H) {taken : Int → Prop}
    {c : Cell (TriggerSession H)} (hc : c.Apart live taken) (hstop : c.Stoppable hal) :
    (unloadModel (sessionModule hal) (stopRecognition (sessionModule hal) c).2).2.data.state =
      .notLoaded := by
  have hstopped : (stopRecognition (sessionModule hal) c).2.data.state ≠ .started ∧
      (stopRecognition (sessionModule hal) c).2.data.NeedsModule
        (stopRecognition (sessionModule hal) c).2.io := by
    rcases stopRecognition_cases (sessionModule hal) c with
      ⟨heq, hunset⟩ | ⟨hstarted, hready, ⟨hfail, -⟩ | ⟨-, heq⟩⟩
    · rw [heq]
      exact ⟨fun hstarted => hunset hstarted (hc.needs (by simp [hstarted])), hc.needs⟩
    · obtain ⟨hactive, hzero⟩ := hstop hstarted
      exact absurd (TriggerSession.stop_eq_zero (hc.sound.1 hready) hactive hzero) hfail
    · rw [heq]
      exact ⟨ModelState.noConfusion, fun _ => hready⟩
  generalize (stopRecognition (sessionModule hal) c).2 = c' at hstopped
  rcases unloadModel_cases (sessionModule hal) c' with ⟨heq, hunset⟩ | ⟨-, -, heq⟩ <;> rw [heq]
  · cases hloaded : c'.data.state with
    | notLoaded => rfl
    | loaded => exact absurd (hstopped.2 (by simp [hloaded])) (hunset hloaded)
    | started => exact absurd hloaded hstopped.1
  · rfl

namespace Cell.Tabled
variable {taken : Int → Prop} {table : Int → Option SessionModelState}
  {c c' : Cell (TriggerSession H)}

lemma setData (hc : c.Tabled flight taken table) {d : TriggerModelData}
    (hstate : d.state = c.data.state) (hhandle : d.modelHandle = c.data.modelHandle) :
    Cell.Tabled flight taken table { c with data := d } where
  kept := hc.kept
  listed handle state h := (hc.listed handle state h).imp_right fun hload =>
    ⟨hstate ▸ hload.1, hhandle.trans hload.2⟩
  fits hne := by
    have hfits := hc.fits (hstate ▸ hne)
    change Matches flight d (c.entry d.modelHandle)
    rw [hhandle]
    revert hfits
    rcases c.entry c.data.modelHandle with - | (- | - | -) <;> simp [Matches, hstate, hhandle]
  flying := hc.flying

lemma setIo (hc : c.Tabled flight taken table) {io : Io (TriggerSession H)}
    (hentry : ∀ handle, io.conn.loadedModels.find? handle = c.entry handle) :
    Cell.Tabled flight taken table { c with io := io } where
  kept handle h := (hentry handle).trans (hc.kept handle h)
  listed handle state h := hc.listed handle state ((hentry handle).symm.trans h)
  fits hne := by
    change Matches flight c.data (io.conn.loadedModels.find? c.data.modelHandle)
    rw [hentry]
    exact hc.fits hne
  flying handle h := (hentry handle).trans (hc.flying handle h)

lemma setEntry (hc : c.Tabled flight taken table) (hown : ¬ taken c.data.modelHandle)
    (hfree : flight ≠ some c.data.modelHandle)
    (hhandle : c'.data.modelHandle = c.data.modelHandle)
    (hother : ∀ handle, handle ≠ c.data.modelHandle → c'.entry handle = c.entry handle)
    (hself : c'.entry c.data.modelHandle = none ∧ c'.data.state = .notLoaded ∨
      Matches flight c'.data (c'.entry c.data.modelHandle)) : c'.Tabled flight taken table where
  kept handle h := (hother handle fun heq => hown (heq ▸ h)).trans (hc.kept handle h)
  listed handle state h := by
    by_cases heq : handle = c.data.modelHandle
    · subst heq
      rcases hself with ⟨hnone, -⟩ | hmatch
      · cases hnone.symm.trans h
      · exact .inr ⟨hmatch.loaded, hhandle⟩
    · refine (hc.listed handle state ((hother handle heq).symm.trans h)).imp_right fun hload => ?_
      exact absurd hload.2.symm heq
  fits hne := by
    rw [hhandle]
    exact hself.resolve_left fun hgone => hne hgone.2
  flying handle h := (hother handle fun heq => hfree (heq ▸ h)).trans (hc.flying handle h)

lemma load (hal' : hal.KeepsHandlesApart live) (hapart : c.Apart live taken)
    (hc : c.Tabled flight taken table) :
    (loadModel (sessionModule hal) c).2.Tabled flight taken table := by
  rcases loadModel_cases (sessionModule hal) c with heq | ⟨hstate, -, hcall⟩
  · rwa [heq]
  rcases TriggerSession.loadModel_cases hal c.data.model c.io.conn with
    ⟨m, hzero, hload, hhandle, hconn⟩ | ⟨hfail, hmodels, -⟩
  · obtain ⟨hne, -⟩ | ⟨-, heq⟩ := hcall
    · exact absurd hzero hne
    rw [heq]
    have htaken : ∀ handle, taken handle → handle ≠ (hal.loadModel m c.io.conn.hal).2.1 := by
      rintro handle h rfl
      exact hal'.fresh m _ hload (hapart.takenLive _ h)
    have hunknown : c.io.conn.loadedModels.find? (hal.loadModel m c.io.conn.hal).2.1 = none := by
      cases hentry : c.entry (hal.loadModel m c.io.conn.hal).2.1 with
      | none => exact hentry
      | some state =>
        rcases hc.listed _ state hentry with h | hown
        · exact absurd rfl (htaken _ h)
        · exact absurd hstate hown.1
    have hentry : ∀ handle, (c.io.conn.loadModel hal c.data.model).2.2.loadedModels.find? handle =
        if handle = (hal.loadModel m c.io.conn.hal).2.1 then some .loaded else c.entry handle := by
      intro handle
      rw [hconn, insertNew, hunknown]
      exact find?_set ..
    have hother := fun handle hne => (hentry handle).trans (if_neg hne)
    refine ⟨fun handle h => (hother handle (htaken handle h)).trans (hc.kept handle h),
      fun handle state h => ?_, fun _ => ?_, fun handle h => ?_⟩
    · by_cases hnew : handle = (hal.loadModel m c.io.conn.hal).2.1
      · exact .inr ⟨ModelState.noConfusion, hhandle.trans hnew.symm⟩
      · have hold := (hother handle hnew).symm.trans h
        exact (hc.listed handle state hold).imp_right fun hown => absurd hstate hown.1
    · change Matches flight _ ((c.io.conn.loadModel hal c.data.model).2.2.loadedModels.find?
        (c.io.conn.loadModel hal c.data.model).2.1)
      rw [hentry, if_pos hhandle]
      refine .inl ⟨rfl, fun h => ?_⟩
      have hflying := hc.flying _ h
      change c.io.conn.loadedModels.find? (c.io.conn.loadModel hal c.data.model).2.1 = _ at hflying
      rw [hhandle, hunknown] at hflying
      cases hflying
    · refine (hother handle ?_).trans (hc.flying handle h)
      rintro rfl
      cases hunknown.symm.trans (hc.flying _ h)
  · obtain ⟨-, heq⟩ | ⟨hzero, -⟩ := hcall
    · rw [heq]
      exact hc.setIo fun handle => congrArg (·.find? handle) hmodels
    · exact absurd hzero hfail

lemma unload (hapart : c.Apart live taken) (hc : c.Tabled flight taken table) :
    (unloadModel (sessionModule hal) c).2.Tabled flight taken table := by
  rcases unloadModel_cases (sessionModule hal) c with ⟨heq, -⟩ | ⟨hstate, hready, heq⟩
  · rwa [heq]
  rw [heq]
  have hloaded : c.data.state ≠ .notLoaded := by simp [hstate]
  obtain ⟨hgone, hother, -⟩ := TriggerSession.unloadModel_cases hal c.data.modelHandle
    (hapart.sound.1 hready)
  exact hc.setEntry (hapart.own hloaded).2 ((hc.fits hloaded).entry_of_loaded hstate).2 rfl hother
    (.inl ⟨hgone, rfl⟩)

lemma switched {op : H → Int × H} {old new : SessionModelState} {r : Int × TriggerSession H}
    {state : ModelState} {e : Effect} (hapart : c.Apart live taken)
    (hc : c.Tabled flight taken table) (hr : c.io.conn.Switched op c.data.modelHandle old new r)
    (hcall : (r.1 ≠ 0 ∧ c' = { c with io := c.io.call e r.2 }) ∨
      (r.1 = 0 ∧ c' = ⟨c.data.setState state, c.io.call e r.2⟩))
    (hloaded : c.entry c.data.modelHandle = some old → c.data.state ≠ .notLoaded)
    (hfits : Matches flight c.data (some old) → flight ≠ some c.data.modelHandle ∧ Matches flight
      (c.data.setState state) (some new)) : c'.Tabled flight taken table := by
  cases hr with
  | done hzero hentry =>
    obtain ⟨hne, -⟩ | ⟨-, rfl⟩ := hcall
    · exact absurd hzero hne
    have hold : c.entry c.data.modelHandle = some old := hentry
    obtain ⟨hfree, hnew⟩ := hfits (hold ▸ hc.fits (hloaded hold))
    refine hc.setEntry (hapart.own (hloaded hold)).2 hfree rfl
      (fun handle hne => find?_set_ne _ _ hne) (.inr ?_)
    change Matches flight (c.data.setState state)
      ((c.io.conn.loadedModels.set c.data.modelHandle new).find? c.data.modelHandle)
    rwa [find?_set_self]
  | failed hne =>
    obtain ⟨-, rfl⟩ | ⟨hzero, -⟩ := hcall
    · exact hc.setIo fun _ => rfl
    · exact absurd hzero hne

lemma stop (hal : Hal H) (hapart : c.Apart live taken) (hc : c.Tabled flight taken table) :
    (stopRecognition (sessionModule hal) c).2.Tabled flight taken table := by
  rcases stopRecognition_cases (sessionModule hal) c with ⟨heq, -⟩ | ⟨hstate, -, hcall⟩
  · rwa [heq]
  · exact hc.switched hapart (TriggerSession.stop_switched hal _ _) hcall
      (fun _ => by simp [hstate]) fun hmatch => ⟨hmatch.2, .inl ⟨rfl, hmatch.2⟩⟩

lemma start (hs : c.Startable) (hprepared : Apart.Prepared live taken c)
    (hc : c.Tabled flight taken table) :
    (callStart (sessionModule hal) c).2.Tabled flight taken table := by
  refine hc.switched hprepared.1 (TriggerSession.start_switched hal _ _)
    (callStart_cases (sessionModule hal) c) (fun hentry hstate => ?_) ?_
  · cases (hprepared.2 hstate).symm.trans hentry
  · rintro (⟨-, hfree⟩ | ⟨hstarted, -⟩)
    · exact ⟨hfree, rfl, hfree⟩
    · exact absurd hstarted hs.2

lemma cellInvariant (hal' : hal.KeepsHandlesApart live) :
    CellInvariant (sessionModule hal) fun c : Cell (TriggerSession H) =>
      c.Tabled flight taken table ∧ Apart.Prepared live taken c where
  getModule c hc := ⟨hc.1.setIo (hc.2.1.sound.entry_getModule hal),
    (Apart.cellInvariant_prepared hal' taken).getModule c hc.2⟩
  setParams c key value hc := ⟨hc.1.setIo (hc.2.1.sound.entry_setParams hal key value),
    (Apart.cellInvariant_prepared hal' taken).setParams c key value hc.2⟩
  emit c e he hc := ⟨hc.1.setIo fun _ => rfl,
    (Apart.cellInvariant_prepared hal' taken).emit c e he hc.2⟩
  setModel c model hc := by
    refine ⟨?_, (Apart.cellInvariant_prepared hal' taken).setModel c model hc.2⟩
    obtain ⟨m, hm⟩ := TriggerModelData.setModel_eq c.data model
    rw [hm]
    exact hc.1.setData rfl rfl
  load c hc := ⟨hc.1.load hal' hc.2.1, (Apart.cellInvariant_prepared hal' taken).load c hc.2⟩
  unload c hc := ⟨hc.1.unload hc.2.1, (Apart.cellInvariant_prepared hal' taken).unload c hc.2⟩
  stop c hc := ⟨hc.1.stop hal hc.2.1, (Apart.cellInvariant_prepared hal' taken).stop c hc.2⟩
  start c hs hc := ⟨hc.1.start hs hc.2, (Apart.cellInvariant_prepared hal' taken).start c hs hc.2⟩

lemma operationInvariant (hal' : hal.KeepsHandlesApart live) :
    OperationInvariant (sessionModule hal) fun c : Cell (TriggerSession H) =>
      c.Tabled flight taken table ∧ c.Apart live taken where
  getModule _ hc := ⟨hc.1.setIo (hc.2.sound.entry_getModule hal), hc.2.getModule⟩
  load _ hc := ⟨hc.1.load hal' hc.2, hc.2.load hal'⟩
  unload _ hc := ⟨hc.1.unload hc.2, hc.2.unload hal'⟩
  stop _ hc := ⟨hc.1.stop hal hc.2, hc.2.stop hal'⟩
  startRecognition c ctx hc := by
    refine ⟨?_, hc.2.startRecognition hal' ctx⟩
    by_cases hstate : c.data.state = .loaded
    · have hprepared : Apart.Prepared live taken c := ⟨hc.2, fun h => by simp [hstate] at h⟩
      exact ((cellInvariant hal').startRecognition ctx ⟨hc.1, hprepared⟩).1
    · simpa [IntellVoice.Trigger.startRecognition, hstate] using hc.1

lemma initRecognition (hal' : hal.KeepsHandlesApart live) (hapart : c.Apart live taken)
    (hc : c.Tabled flight taken table) (unload : Bool) (hstop : unload → c.Stoppable hal) :
    (initRecognition (sessionModule hal) unload c).2.Tabled flight taken table := by
  have hstopped := hc.stop hal hapart
  simp only [IntellVoice.Trigger.initRecognition]
  split
  · exact hc
  split
  · rename_i hunload
    have hstate := hapart.stopAndUnload_state hal (hstop hunload)
    -- the record was already reset by the unload, `Clear` only drops the callback
    exact (hstopped.unload (hapart.stop hal')).setData hstate.symm rfl
  · exact hstopped

lemma acceptRequest (hal' : hal.KeepsHandlesApart live) (hapart : c.Apart live taken)
    (hc : c.Tabled flight taken table) (model : GenericTriggerModel) (callback : Option Callback)
    (hstop : c.data.sameModel model = false → c.Stoppable hal) :
    (acceptRequest (sessionModule hal) model callback c).2.Tabled flight taken table := by
  have hinit := hc.initRecognition hal' hapart (!c.data.sameModel model)
    (fun h => hstop (by simpa using h))
  simp only [Helper.acceptRequest]
  split
  · exact hinit
  obtain ⟨m, hm⟩ := TriggerModelData.setModel_eq
    (IntellVoice.Trigger.initRecognition (sessionModule hal) (!c.data.sameModel model) c).2.data
    model
  rw [hm]
  cases callback <;> exact hinit.setData rfl rfl

end Cell.Tabled

/-- Helper and session agree on every loaded model, up to the detection in flight. -/
structure Helper.Agrees (live : H → Int → Prop) (flight : Option Int)
    (h : Helper (TriggerSession H)) : Prop extends h.HandlesApart live where
  owned : ∀ handle state, h.io.conn.loadedModels.find? handle = some state →
    ∃ k d, h.find k = some d ∧ d.LoadedUnder handle
  fits : ∀ k d, h.find k = some d → d.state ≠ .notLoaded →
    Matches flight d (h.io.conn.loadedModels.find? d.modelHandle)
  flying : ∀ handle, flight = some handle → h.io.conn.loadedModels.find? handle = some .loaded

namespace Helper.Agrees
variable {h : Helper (TriggerSession H)} {uuid : Int}

lemma cell (hh : h.Agrees live flight) {d : TriggerModelData} (hd : h.find uuid = some d) :
    Cell.Tabled flight (h.takenBesides uuid) h.io.conn.loadedModels.find? ⟨d, h.io⟩ := by
  refine ⟨fun _ _ => rfl, fun handle state hentry => ?_, hh.fits uuid d hd, hh.flying⟩
  obtain ⟨k, d', hd', hload⟩ := hh.owned handle state hentry
  by_cases hk : k = uuid
  · subst hk
    exact .inr (Option.some.inj (hd'.symm.trans hd) ▸ hload)
  · exact .inl ⟨k, d', hk, hd', hload⟩

lemma onCell {β : Type*} (hh : h.Agrees live flight) (uuid : Int) (absent : β)
    {f : Cell (TriggerSession H) → β × Cell (TriggerSession H)}
    (hready : ∀ c, c.io.moduleReady → (f c).2.io.moduleReady)
    (hapart : ∀ taken c, Cell.Apart live taken c → Cell.Apart live taken (f c).2)
    (hf : ∀ taken table d, h.find uuid = some d → Cell.Apart live taken ⟨d, h.io⟩ →
      Cell.Tabled flight taken table ⟨d, h.io⟩ → Cell.Tabled flight taken table (f ⟨d, h.io⟩).2) :
    (h.onCell uuid absent f).2.Agrees live flight := by
  have happly := hh.toHandlesApart.onCell uuid absent hready hapart
  cases hd : h.find uuid with
  | none =>
    rw [onCell_none hd]
    exact hh
  | some d =>
    have hcell := hf _ _ d hd (hh.toHandlesApart.cell hd) (hh.cell hd)
    have hio := io_onCell hd absent f
    refine ⟨happly, fun handle state hentry => ?_, fun k d' hd' hstate => ?_,
      fun handle hflight => ?_⟩
    · rw [hio] at hentry
      rcases hcell.listed handle state hentry with ⟨k, d', hne, hd', hload⟩ | hload
      · exact ⟨k, d', (find_onCell_ne hne absent f h).trans hd', hload⟩
      · exact ⟨uuid, _, find_onCell_self hd absent f, hload⟩
    · rw [hio]
      rcases find_onCell_cases hd absent f hd' with ⟨-, rfl⟩ | ⟨hne, hold⟩
      · exact hcell.fits hstate
      · -- the entry of another loaded model is untouched
        have hkept := hcell.kept d'.modelHandle ⟨k, d', hne, hold, hstate, rfl⟩
        change Matches flight d' ((f ⟨d, h.io⟩).2.entry d'.modelHandle)
        rw [hkept]
        exact hh.fits k d' hold hstate
    · rw [hio]
      exact hcell.flying handle hflight

lemma sub (hh : h.Agrees live flight) {h' : Helper (TriggerSession H)} (hio : h'.io = h.io)
    (hfind : ∀ k d, d.state ≠ .notLoaded → (h'.find k = some d ↔ h.find k = some d)) :
    h'.Agrees live flight := by
  refine ⟨hh.toHandlesApart.sub hio fun k d hd hstate => ⟨d, (hfind k d hstate).1 hd, hstate, rfl⟩,
    fun handle state hentry => ?_, fun k d hd hstate => ?_, hio ▸ hh.flying⟩
  · obtain ⟨k, d, hd, hload⟩ := hh.owned handle state (hio ▸ hentry)
    exact ⟨k, d, (hfind k d hload.1).2 hd, hload⟩
  · rw [hio]
    exact hh.fits k d ((hfind k d hstate).1 hd) hstate

lemma createTriggerModelData (hh : h.Agrees live flight) (uuid : Int) :
    (h.createTriggerModelData uuid).Agrees live flight := by
  refine hh.sub rfl fun k d hstate => ⟨fun hd => ?_, fun hd => ?_⟩
  · rcases find_createTriggerModelData hd with hold | ⟨-, rfl⟩
    · exact hold
    · exact absurd rfl hstate
  · by_cases hk : k = uuid
    · subst hk
      have hsome : h.modelDataMap.find? k = some d := hd
      simp [Helper.createTriggerModelData, insertNew, hsome, Helper.find]
    · exact (find_createTriggerModelData_ne hk h).trans hd

lemma erase (hh : h.Agrees live flight) (uuid : Int)
    (hnotLoaded : ∀ d, h.find uuid = some d → d.state = .notLoaded) :
    Helper.Agrees live flight { h with modelDataMap := h.modelDataMap.erase uuid } := by
  refine hh.sub rfl fun k d hstate => ?_
  rw [find, find?_erase]
  split
  · rename_i heq
    exact iff_of_false (by simp) fun hd => hstate (hnotLoaded d (heq ▸ hd))
  · exact Iff.rfl

section
variable (hal' : hal.KeepsHandlesApart live)
include hal'

lemma reactionInvariant (flight : Option Int) :
    ReactionInvariant (sessionModule hal) (Helper.Agrees live flight) where
  env _ _ hh := ⟨(HandlesApart.reactionInvariant hal').env _ _ hh.toHandlesApart, hh.owned, hh.fits,
    hh.flying⟩
  param h key value hh := by
    have hentry : ∀ handle,
        (h.setParameter (sessionModule hal) key value).io.conn.loadedModels.find? handle =
          h.io.conn.loadedModels.find? handle := hh.sound.entry_setParams hal key value
    refine ⟨(HandlesApart.reactionInvariant hal').param _ key value hh.toHandlesApart,
      fun handle state h' => hh.owned handle state ((hentry handle).symm.trans h'),
      fun k d hd hstate => ?_,
      fun handle hflight => (hentry handle).trans (hh.flying handle hflight)⟩
    rw [hentry]
    exact hh.fits k d hd hstate
  cell _ uuid _ hf hh := hh.onCell uuid true (fun c => (hf.acts c).io.ready)
    (fun taken _ => hf.operationInvariant (demandInvariant_apart hal' taken).toOperationInvariant)
    fun _ _ _ _ hapart hc =>
      (hf.operationInvariant (Cell.Tabled.operationInvariant hal') ⟨hc, hapart⟩).1

lemma startGenericRecognition (hh : h.Agrees live flight) (uuid : Int) (model : GenericTriggerModel)
    (callback : Option Callback) (hstop : ∀ d, h.find uuid = some d → d.sameModel model = false →
      Cell.Stoppable hal ⟨d, h.io⟩) :
    (h.startGenericRecognition p (sessionModule hal) uuid model callback).2.Agrees live flight := by
  have hcreate := hh.createTriggerModelData uuid
  have haccept := hcreate.onCell uuid false
    (fun c => (serves_acceptRequest (sessionModule hal) model callback c).io.ready)
    (fun taken _ hc => (demandInvariant_apart hal' taken).acceptRequest model callback hc)
    (fun _ _ d hd hapart hc => hc.acceptRequest hal' hapart model callback fun hdiff => by
      -- an entry made just now is not started
      rcases find_createTriggerModelData hd with hold | ⟨-, rfl⟩
      · exact hstop d hold hdiff
      · exact fun hstarted => ModelState.noConfusion hstarted)
  simp only [Helper.startGenericRecognition]
  split
  · exact haccept
  split
  · exact haccept
  refine haccept.onCell uuid (-1)
    (fun c => (serves_prepareAndStart (sessionModule hal) _ c).io.ready)
    (fun taken _ hc => (demandInvariant_apart hal' taken).prepareAndStart _ hc)
    fun taken table d _ hapart hc => ?_
  have hJ : OperationInvariant (sessionModule hal) fun c : Cell (TriggerSession H) =>
      c.Tabled flight taken table ∧ c.Apart live taken := Cell.Tabled.operationInvariant hal'
  have hprep := hJ.prepareForRecognition ⟨hc, hapart⟩
  simp only [Helper.prepareAndStart]
  split
  · exact hprep.1
  · exact (hJ.startRecognition _ _ hprep).1

lemma stopGenericRecognition (hh : h.Agrees live flight) (uuid : Int) :
    (h.stopGenericRecognition (sessionModule hal) uuid).2.Agrees live flight := by
  refine hh.onCell uuid (-1) (fun c => (serves_stopRequested (sessionModule hal) c).io.ready)
    (fun taken _ hc => (demandInvariant_apart hal' taken).stopRequested hc)
    fun taken table d _ hapart hc => ?_
  have happly : Cell.Apart live taken ⟨d.setRequested false, h.io⟩ := hapart.setData id rfl
  have hrequest : Cell.Tabled flight taken table ⟨d.setRequested false, h.io⟩ := hc.setData rfl rfl
  have hstopped := hrequest.stop hal happly
  simp only [Helper.stopRequested]
  split
  · exact hstopped
  · exact hstopped.setData rfl rfl

lemma unloadGenericTriggerModel (hh : h.Agrees live flight) (uuid : Int)
    (hstop : ∀ d, h.find uuid = some d → Cell.Stoppable hal ⟨d, h.io⟩) :
    (h.unloadGenericTriggerModel (sessionModule hal) uuid).Agrees live flight := by
  unfold Helper.unloadGenericTriggerModel
  split
  · exact hh
  rename_i d hd
  split
  · exact hh
  have hunload := hh.onCell uuid ()
    (fun c => (serves_stopAndUnload (sessionModule hal) c).io.ready)
    (fun taken _ hc => (demandInvariant_apart hal' taken).stopAndUnload hc)
    fun _ _ _ _ hapart hc => (hc.stop hal hapart).unload (hapart.stop hal')
  refine hunload.erase uuid fun d' hd' => ?_
  rw [find_onCell_self hd] at hd'
  rw [← Option.some.inj hd']
  exact (hh.toHandlesApart.cell hd).stopAndUnload_state hal (hstop d hd)

end

lemma process (hh : h.Agrees live none) {handle : Int}
    (hactive : h.io.conn.loadedModels.find? handle = some .active)
    {h' : Helper (TriggerSession H)} (hapart : h'.HandlesApart live)
    (hmap : h'.modelDataMap = h.modelDataMap)
    (htable : h'.io.conn.loadedModels = h.io.conn.loadedModels.set handle .loaded) :
    h'.Agrees live (some handle) := by
  have hfind : ∀ k, h'.find k = h.find k := fun k => by rw [find, hmap, find]
  refine ⟨hapart, fun handle' state hentry => ?_, fun k d hd hstate => ?_,
    fun handle' hflight => ?_⟩
  · have howner : ∃ k d, h.find k = some d ∧ d.LoadedUnder handle' := by
      by_cases heq : handle' = handle
      · exact heq ▸ hh.owned handle .active hactive
      · rw [htable, find?_set_ne _ _ heq] at hentry
        exact hh.owned handle' state hentry
    obtain ⟨k, d, hd, hload⟩ := howner
    exact ⟨k, d, (hfind k).trans hd, hload⟩
  · have hmatch := hh.fits k d (hfind k ▸ hd) hstate
    rw [htable]
    by_cases heq : d.modelHandle = handle
    · rw [heq, hactive] at hmatch
      rw [heq, find?_set_self]
      exact .inr ⟨hmatch.1, by rw [heq]⟩
    · rw [find?_set_ne _ _ heq]
      exact hmatch.congr (by simp) fun h => heq (Option.some.inj h).symm
  · obtain rfl := Option.some.inj hflight
    rw [htable, find?_set_self]

lemma recognized {handle : Int} (hh : h.Agrees live (some handle)) (hroute : h.Routable handle) :
    ∃ k d, h.recognized handle = some (k, d) ∧ h.find k = some d ∧ d.LoadedUnder handle := by
  obtain ⟨k, d, hd, hload⟩ := hh.owned handle .loaded (hh.flying handle rfl)
  obtain ⟨k', d', hr⟩ := exists_recognized hd hload.2
  obtain ⟨hd', hhandle⟩ := find_of_recognized hr
  exact ⟨k', d', hr, hd', routable_iff.1 hroute k' d' hr, hhandle⟩

lemma deliver {handle : Int} (hh : h.Agrees live (some handle)) (hroute : h.Routable handle) :
    (h.onRecognition handle).Agrees live none := by
  have hapart := hh.toHandlesApart.onRecognition hroute
  obtain ⟨k, d, hr, hd, hload⟩ := hh.recognized hroute
  have hflying := hh.flying handle rfl
  rw [onRecognition_some hr] at hapart ⊢
  have hconn : (reportDetection handle d h.io).conn = h.io.conn := by
    unfold reportDetection
    split <;> rfl
  refine ⟨hapart, fun handle' state hentry => ?_, fun k' d' hd' hstate => ?_,
    fun _ hflight => by cases hflight⟩
  · obtain ⟨k', d', hd', hload'⟩ := hh.owned handle' state (by simpa [hconn] using hentry)
    by_cases hk : k' = k
    · subst hk
      obtain rfl : d' = d := Option.some.inj (hd'.symm.trans hd)
      exact ⟨k', _, find?_set_self _ _ _, ModelState.noConfusion, hload'.2⟩
    · exact ⟨k', d', (find?_set_ne _ _ hk).trans hd', hload'⟩
  · change Matches none d' ((reportDetection handle d h.io).conn.loadedModels.find? d'.modelHandle)
    rw [hconn]
    by_cases hk : k' = k
    · subst hk
      rw [find, find?_set_self] at hd'
      rw [← Option.some.inj hd']
      change Matches none _ (h.io.conn.loadedModels.find? d.modelHandle)
      rw [hload.2, hflying]
      exact .inl ⟨rfl, by simp⟩
    · rw [find, find?_set_ne _ _ hk] at hd'
      refine (hh.fits k' d' hd' hstate).congr (fun h => hk ?_) (by simp)
      exact hh.apart k' k d' d hd' hd hstate hload.1 ((Option.some.inj h).symm.trans hload.2.symm)

end Helper.Agrees

/-- A started model is replaced or released only when it is active and the adapter stops it; a
detection is delivered only where the map leads to the loaded model. -/
def SystemEvent.Orderly (hal : Hal H) (s : TriggerSystem H) : SystemEvent → Prop
  | .helper (.startGenericRecognition uuid model _) => ∀ d, s.helper.find uuid = some d →
    d.sameModel model = false → Cell.Stoppable hal ⟨d, s.helper.io⟩
  | .helper (.unloadGenericTriggerModel uuid) => ∀ d, s.helper.find uuid = some d →
    Cell.Stoppable hal ⟨d, s.helper.io⟩
  | e => e.DeliversRoutable s

lemma step_agrees (hal' : hal.KeepsHandlesApart live) {w w' : World (TriggerSession H)}
    {e : Event} (hw : w.helper.Agrees live flight) (hmodule : e.fromModule = false)
    (hreplace : ∀ uuid model callback, e = .startGenericRecognition uuid model callback →
      ∀ d, w.helper.find uuid = some d → d.sameModel model = false →
        Cell.Stoppable hal ⟨d, w.helper.io⟩)
    (hunload : ∀ uuid, e = .unloadGenericTriggerModel uuid →
      ∀ d, w.helper.find uuid = some d → Cell.Stoppable hal ⟨d, w.helper.io⟩)
    (hstep : step p (sessionModule hal) w e = some w') : w'.helper.Agrees live flight := by
  obtain ⟨uuid, model, cb, rfl, rfl⟩ | ⟨uuid, rfl, rfl⟩ | ⟨uuid, rfl, rfl⟩ | ⟨handle, rfl, -, rfl⟩ |
    he := step_cases hstep
  · exact hw.startGenericRecognition hal' uuid model cb (hreplace uuid model cb rfl)
  · exact hw.stopGenericRecognition hal' uuid
  · exact hw.unloadGenericTriggerModel hal' uuid (hunload uuid rfl)
  · cases hmodule
  · exact step_reaction (Helper.Agrees.reactionInvariant hal' flight) he hstep hw

lemma systemStep_agrees (hal' : hal.KeepsHandlesApart live) {s s' : TriggerSystem H}
    {e : SystemEvent} (hs : s.helper.Agrees live s.inFlight) (horderly : e.Orderly hal s)
    (hstep : systemStep p hal s e = some s') : s'.helper.Agrees live s'.inFlight := by
  obtain ⟨e', w', rfl, hmodule, hw', rfl⟩ | ⟨handle, -, hworld, hflight⟩ |
    ⟨rfl, hfree, handle, rest, -, rfl⟩ | ⟨rfl, handle, hflight, rfl⟩ := systemStep_cases hstep
  · refine step_agrees hal' hs hmodule ?_ ?_ hw'
    · rintro uuid model cb rfl d hd hdiff
      exact horderly d hd hdiff
    · rintro uuid rfl d hd
      exact horderly d hd
  · have hhelper : s'.helper = s.helper := by
      rw [TriggerSystem.helper, hworld]
      rfl
    rw [hhelper, hflight]
    exact hs
  · have hroutable : SystemEvent.DeliversRoutable s .processRecognitionHdiEvent := trivial
    have hapart := systemStep_handlesApart hal' hs.toHandlesApart hroutable hstep
    rw [hfree] at hs
    rcases TriggerSystem.process_cases { s with queue := rest } handle with hsame | ⟨hactive, hset⟩
    · rw [hsame]
      change s.helper.Agrees live s.inFlight
      rw [hfree]
      exact hs
    · rw [hset] at hapart ⊢
      exact hs.process hactive hapart rfl rfl
  · rw [hflight] at hs
    exact hs.deliver (horderly handle hflight)

lemma initial_agrees (live : H → Int → Prop) (hal₀ : H) (pipes : InputPipes) (kv : StoredLists) :
    (TriggerSystem.initial hal₀ pipes kv).helper.Agrees live none where
  toHandlesApart := initial_handlesApart live hal₀ pipes kv
  owned _ _ hentry := by cases hentry
  fits _ _ hd := by cases hd
  flying _ hflight := by cases hflight

/-- The entry of a handle belongs to the model loaded under it; a model that is not loaded may keep
a handle that was given out again, and owns nothing. -/
structure TriggerSystem.Agreement (s : TriggerSystem H) : Prop where
  owner : ∀ handle state, s.session.loadedModels.find? handle = some state →
    ∃! k, ∃ d, s.helper.find k = some d ∧ d.LoadedUnder handle
  active : ∀ k d, s.helper.find k = some d → d.state ≠ .notLoaded →
    s.session.loadedModels.find? d.modelHandle = some .active → d.state = .started
  loaded : ∀ k d, s.helper.find k = some d → d.state ≠ .notLoaded →
    s.session.loadedModels.find? d.modelHandle = some .loaded → d.state = .loaded
  entry : ∀ k d, s.helper.find k = some d → d.state ≠ .notLoaded →
    s.session.loadedModels.find? d.modelHandle = some .loaded ∨
      s.session.loadedModels.find? d.modelHandle = some .active

lemma TriggerSystem.agreement_of_agrees {s : TriggerSystem H}
    (hs : s.helper.Agrees live none) : s.Agreement := by
  refine ⟨fun handle state hentry => ?_, fun k d hd hstate hactive => ?_,
    fun k d hd hstate hloaded => ?_, fun k d hd hstate => ?_⟩
  · obtain ⟨k, d, hd, hload⟩ := hs.owned handle state hentry
    refine ⟨k, ⟨d, hd, hload⟩, ?_⟩
    rintro k' ⟨d', hd', hload'⟩
    exact hs.apart k' k d' d hd' hd hload'.1 hload.1 (hload'.2.trans hload.2.symm)
  · have hmatch := hs.fits k d hd hstate
    change Matches none d (s.session.loadedModels.find? d.modelHandle) at hmatch
    rw [hactive] at hmatch
    exact hmatch.1
  · have hmatch := hs.fits k d hd hstate
    change Matches none d (s.session.loadedModels.find? d.modelHandle) at hmatch
    rw [hloaded] at hmatch
    rcases hmatch with h | h
    · exact h.1
    · cases h.2
  · have hmatch := hs.fits k d hd hstate
    change Matches none d (s.session.loadedModels.find? d.modelHandle) at hmatch
    revert hmatch
    rcases s.session.loadedModels.find? d.modelHandle with - | (- | - | -) <;> simp [Matches]

theorem run_agreement (hal' : hal.KeepsHandlesApart live) (hal₀ : H)
    (pipes : InputPipes) (kv : StoredLists) (es : List SystemEvent) {s : TriggerSystem H}
    (horderly : Along (systemStep p hal) (fun s e _ => e.Orderly hal s)
      (.initial hal₀ pipes kv) es)
    (hrun : run (systemStep p hal) (.initial hal₀ pipes kv) es = some s)
    (hidle : s.inFlight = none) : s.Agreement := by
  have hagrees : s.helper.Agrees live s.inFlight := run_invariant
    (I := fun s : TriggerSystem H => s.helper.Agrees live s.inFlight)
    (R := fun s e _ => e.Orderly hal s)
    (fun _ _ _ hs ho hstep => systemStep_agrees hal' hs ho hstep)
    (initial_agrees live hal₀ pipes kv) horderly hrun
  rw [hidle] at hagrees
  exact TriggerSystem.agreement_of_agrees hagrees

lemma stubbornHal_keepsHandlesApart :
    stubbornHal.KeepsHandlesApart fun n handle => handle ≤ n where
  fresh _ n _ := by
    change ¬ ((n + 1 : Nat) : Int) ≤ n
    omega
  records _ n _ := by
    change ((n + 1 : Nat) : Int) ≤ ((n + 1 : Nat) : Int)
    omega
  loadModel _ n h hlive := by
    change h ≤ ((n + 1 : Nat) : Int)
    omega
  unloadModel _ _ _ _ hlive := hlive
  start _ _ _ hlive := hlive
  stop _ _ _ hlive := hlive
  setParams _ _ _ _ hlive := hlive

theorem run_agreement_refused_stop :
    let p := Platform.bare (.minimal false)
    ∃ s : TriggerSystem Nat, run (systemStep p stubbornHal) (.initial 0 (some []) {})
        [.helper (.startGenericRecognition 1 (.voiceWakeup [7]) (some 0)),
          .helper (.stopGenericRecognition 1)] = some s ∧
      s.session.loadedModels.find? 1 = some .active ∧ s.Agreement :=
  ⟨_, rfl, rfl, run_agreement stubbornHal_keepsHandlesApart 0 (some []) {}
    [.helper (.startGenericRecognition 1 (.voiceWakeup [7]) (some 0)),
      .helper (.stopGenericRecognition 1)]
    (fun _ _ => ⟨fun _ hd => (by cases hd), fun _ _ => ⟨trivial, trivial⟩⟩) rfl rfl⟩

theorem unload_refused_stop_orphans :
    let p := Platform.bare (.minimal false)
    ∃ s : TriggerSystem Nat, run (systemStep p stubbornHal) (.initial 0 (some []) {})
        [.helper (.startGenericRecognition 1 (.voiceWakeup [7]) (some 0)),
          .helper (.unloadGenericTriggerModel 1)] = some s ∧
      s.queue = [] ∧ s.inFlight = none ∧
      s.session.loadedModels.find? 1 = some .active ∧ ¬ s.Agreement := by
  refine ⟨_, rfl, rfl, rfl, rfl, fun hagree => ?_⟩
  obtain ⟨k, ⟨d, hd, -⟩, -⟩ := hagree.owner 1 .active rfl
  cases hd

end IntellVoice.Trigger
