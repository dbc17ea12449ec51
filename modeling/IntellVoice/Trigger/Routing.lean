import IntellVoice.Trigger.Tracking

/-! `OnRecognition` looks for the first model of the map that holds the handle. -/

namespace IntellVoice.Trigger
open Transition TriggerSystem TriggerModelData
variable {M H : Type*} {p : Platform} {hal : Hal H}

/-- The adapter never gives a new model a handle that is in use: `live` are the handles in use. -/
structure Hal.KeepsHandlesApart (hal : Hal H) (live : H → Int → Prop) : Prop where
  fresh : ∀ model a, (hal.loadModel model a).1 = 0 → ¬ live a (hal.loadModel model a).2.1
  records : ∀ model a, (hal.loadModel model a).1 = 0 →
    live (hal.loadModel model a).2.2 (hal.loadModel model a).2.1
  loadModel : ∀ model a h, live a h → live (hal.loadModel model a).2.2 h
  unloadModel : ∀ handle a h, h ≠ handle → live a h → live (hal.unloadModel handle a).2 h
  start : ∀ handle a h, live a h → live (hal.start handle a).2 h
  stop : ∀ handle a h, live a h → live (hal.stop handle a).2 h
  setParams : ∀ key value a h, live a h → live (hal.setParams key value a).2 h

def TriggerModelData.LoadedUnder (handle : Int) (d : TriggerModelData) : Prop :=
  d.state ≠ .notLoaded ∧ d.modelHandle = handle

/-- A detection changes and reports the model loaded under `handle`, and no other. -/
structure Helper.Routed (handle : Int) (h h' : Helper M) : Prop where
  target : ∀ k d, h.find k = some d → d.LoadedUnder handle →
    h'.find k = some (d.setState .loaded) ∧ h'.io.log =
      h.io.log ++ d.callback.toList.map fun cb => .onGenericTriggerDetected k cb handle
  others : ∀ k, (∀ d, h.find k = some d → ¬ d.LoadedUnder handle) → h'.find k = h.find k
  nobody : (∀ k d, h.find k = some d → ¬ d.LoadedUnder handle) → h'.io.log = h.io.log

/-- A not loaded model that still holds `handle` comes after the loaded one in the map. -/
def Helper.Routable (handle : Int) (h : Helper M) : Prop :=
  ∀ k d, h.find k = some d → d.state = .notLoaded → d.modelHandle = handle →
    ∃ k' d', k' < k ∧ h.find k' = some d' ∧ d'.LoadedUnder handle

namespace Helper
variable {h : Helper M} {handle k : Int} {d : TriggerModelData}

lemma le_of_recognized (hr : h.recognized handle = some (k, d)) {k' : Int}
    {d' : TriggerModelData} (hd' : h.find k' = some d') (hhandle : d'.modelHandle = handle) :
    k ≤ k' := OrderedMap.le_of_find?_entries hr hd' (by simp [hhandle])

lemma exists_recognized (hd : h.find k = some d) (hhandle : d.modelHandle = handle) :
    ∃ k' d', h.recognized handle = some (k', d') := by
  cases hr : h.recognized handle with
  | some found => exact ⟨found.1, found.2, rfl⟩
  | none =>
    have hnone := List.find?_eq_none.1 hr (k, d) (OrderedMap.find?_eq_some_iff.1 hd)
    simp [hhandle] at hnone

lemma routable_iff : h.Routable handle ↔
    ∀ k d, h.recognized handle = some (k, d) → d.state ≠ .notLoaded := by
  constructor
  · intro hroute k d hr hstate
    obtain ⟨hd, hhandle⟩ := find_of_recognized hr
    obtain ⟨k', d', hlt, hd', -, hhandle'⟩ := hroute k d hd hstate hhandle
    exact absurd hlt (not_lt.2 (le_of_recognized hr hd' hhandle'))
  · intro hfirst k d hd hstate hhandle
    obtain ⟨k', d', hr⟩ := exists_recognized hd hhandle
    obtain ⟨hd', hhandle'⟩ := find_of_recognized hr
    have hstate' := hfirst k' d' hr
    have hne : k' ≠ k := by
      rintro rfl
      rw [hd] at hd'
      exact hstate' (Option.some.inj hd' ▸ hstate)
    exact ⟨k', d', lt_of_le_of_ne (le_of_recognized hr hd hhandle) hne, hd', hstate', hhandle'⟩

lemma log_reportDetection (handle : Int) (d : TriggerModelData) (io : Io M) :
    (reportDetection handle d io).log =
      io.log ++ d.callback.toList.map fun cb => .onGenericTriggerDetected d.uuid cb handle := by
  unfold reportDetection
  split <;> rename_i hcb <;> simp [hcb, Io.emit]

lemma routed_onRecognition_iff (hkeys : h.KeysAgree)
    (hapart : ∀ k k' d d', h.find k = some d → h.find k' = some d' → d.LoadedUnder handle →
      d'.LoadedUnder handle → k = k') :
    h.Routed handle (h.onRecognition handle) ↔ h.Routable handle := by
  rw [routable_iff]
  constructor
  · intro hrouted k d hr hstate
    have hd := (find_of_recognized hr).1
    have hsame : (h.onRecognition handle).find k = h.find k := by
      refine hrouted.others k fun d' hd' hload => hload.1 ?_
      rw [hd] at hd'
      exact Option.some.inj hd' ▸ hstate
    rw [onRecognition_some hr, hd] at hsame
    have hset : d.setState .loaded = d :=
      Option.some.inj ((OrderedMap.find?_set_self _ _ _).symm.trans hsame)
    rw [← hset] at hstate
    cases hstate
  · intro hfirst
    cases hr : h.recognized handle with
    | none =>
      have hnobody : ∀ k d, h.find k = some d → ¬ d.LoadedUnder handle := by
        intro k d hd hload
        obtain ⟨k', d', hsome⟩ := exists_recognized hd hload.2
        cases hr.symm.trans hsome
      rw [onRecognition_none hr]
      exact ⟨fun k d hd hload => absurd hload (hnobody k d hd), fun _ _ => rfl, fun _ => rfl⟩
    | some found =>
      obtain ⟨k, d⟩ := found
      obtain ⟨hd, hhandle⟩ := find_of_recognized hr
      have hload : d.LoadedUnder handle := ⟨hfirst k d hr, hhandle⟩
      rw [onRecognition_some hr]
      refine ⟨fun k' d' hd' hload' => ?_, fun k' hother => ?_, fun hnobody => ?_⟩
      · obtain rfl := hapart k k' d d' hd hd' hload hload'
        obtain rfl : d = d' := Option.some.inj (hd.symm.trans hd')
        refine ⟨OrderedMap.find?_set_self _ _ _, ?_⟩
        rw [← hkeys k d hd]
        exact log_reportDetection handle d h.io
      · have hne : k' ≠ k := by
          rintro rfl
          exact hother d hd hload
        exact OrderedMap.find?_set_ne _ _ hne
      · exact absurd hload (hnobody k d hd)

end Helper

structure Cell.Apart (live : H → Int → Prop) (taken : Int → Prop)
    (c : Cell (TriggerSession H)) : Prop where
  sound : SessionSound c.io
  unready : c.io.moduleReady = false → ∀ handle, ¬ taken handle
  needs : c.data.NeedsModule c.io
  takenLive : ∀ handle, taken handle → live c.io.conn.hal handle
  own : c.data.state ≠ .notLoaded →
    live c.io.conn.hal c.data.modelHandle ∧ ¬ taken c.data.modelHandle

namespace Cell.Apart
variable {live : H → Int → Prop} {taken : Int → Prop} {c : Cell (TriggerSession H)}

lemma setIo (hc : c.Apart live taken) {io : Io (TriggerSession H)} (hsound : SessionSound io)
    (hready : c.io.moduleReady → io.moduleReady)
    (hlive : c.io.moduleReady → ∀ handle, live c.io.conn.hal handle → live io.conn.hal handle) :
    Cell.Apart live taken { c with io := io } := by
  have hstill : io.moduleReady = false → c.io.moduleReady = false := by
    intro hfalse
    by_contra hne
    simp [hready (by simpa using hne)] at hfalse
  refine ⟨hsound, fun hfalse => hc.unready (hstill hfalse),
    fun hstate => hready (hc.needs hstate), fun handle hother => ?_, fun hstate => ?_⟩
  · have hset : c.io.moduleReady := by
      by_contra hne
      exact hc.unready (by simpa using hne) handle hother
    exact hlive hset handle (hc.takenLive handle hother)
  · obtain ⟨hown, hnot⟩ := hc.own hstate
    exact ⟨hlive (hc.needs hstate) _ hown, hnot⟩

lemma setData (hc : c.Apart live taken) {d : TriggerModelData}
    (hstate : d.state ≠ .notLoaded → c.data.state ≠ .notLoaded)
    (hhandle : d.modelHandle = c.data.modelHandle) : Cell.Apart live taken { c with data := d } :=
  ⟨hc.sound, hc.unready, fun hne => hc.needs (hstate hne), hc.takenLive,
    fun hne => hhandle ▸ hc.own (hstate hne)⟩

lemma getModule (hc : c.Apart live taken) :
    Cell.Apart live taken { c with io := (c.io.getModule (sessionModule hal)).2 } := by
  refine hc.setIo (hc.sound.getModule hal) (Io.acts_getModule _ 0 c.io).ready
    fun hset handle hlive => ?_
  simpa [Io.getModule, hset] using hlive

lemma setParams (hal' : hal.KeepsHandlesApart live) (hc : c.Apart live taken)
    (key value : String) : Cell.Apart live taken
      { c with io := (c.io.setParameterForInputPipe (sessionModule hal) key value).2 } := by
  refine hc.setIo (hc.sound.setParameterForInputPipe hal key value)
    (c.io.ready_setParameterForInputPipe _ key value) fun hset handle hlive => ?_
  have heq : (c.io.setParameterForInputPipe (sessionModule hal) key value).2.conn =
      (c.io.conn.setParams hal key value).2 := by
    simp [Io.setParameterForInputPipe, Io.getModule, hset, Io.call, sessionModule]
  rw [heq]
  unfold TriggerSession.setParams
  split
  · exact hlive
  · exact hal'.setParams key value _ handle hlive

lemma load (hal' : hal.KeepsHandlesApart live) (hc : c.Apart live taken) :
    (loadModel (sessionModule hal) c).2.Apart live taken := by
  have hsound := (requestInvariant_sessionSound hal).load c hc.sound
  rcases loadModel_cases (sessionModule hal) c with heq | ⟨hstate, hset, hcall⟩
  · rwa [heq]
  obtain ⟨m, hzero, hhal, hhandle, hsession⟩ | ⟨hfail, -, hhal⟩ :=
    TriggerSession.loadModel_cases hal c.data.model c.io.conn
  · -- The new handle is in use from now on and was not before.
    rcases hcall with ⟨hne, -⟩ | ⟨-, heq⟩
    · exact absurd hzero hne
    rw [heq] at hsound ⊢
    have hconn : ((sessionModule hal).loadModel c.data.model c.io.conn).2.2.hal =
        (hal.loadModel m c.io.conn.hal).2.2 := by
      change (c.io.conn.loadModel hal c.data.model).2.2.hal = _
      rw [hsession]
    have hnew : ((sessionModule hal).loadModel c.data.model c.io.conn).2.1 =
        (hal.loadModel m c.io.conn.hal).2.1 := hhandle
    refine ⟨hsound, hc.unready, fun _ => hset, fun handle hother => ?_, fun _ => ?_⟩
    · change live ((sessionModule hal).loadModel c.data.model c.io.conn).2.2.hal handle
      rw [hconn]
      exact hal'.loadModel m _ handle (hc.takenLive handle hother)
    · change live ((sessionModule hal).loadModel c.data.model c.io.conn).2.2.hal
        ((sessionModule hal).loadModel c.data.model c.io.conn).2.1 ∧
        ¬ taken ((sessionModule hal).loadModel c.data.model c.io.conn).2.1
      rw [hconn, hnew]
      exact ⟨hal'.records m _ hhal,
        fun hother => hal'.fresh m _ hhal (hc.takenLive _ hother)⟩
  · rcases hcall with ⟨-, heq⟩ | ⟨hzero, -⟩
    · rw [heq] at hsound ⊢
      refine hc.setIo hsound (fun _ => hset) fun _ handle hlive => ?_
      change live (c.io.conn.loadModel hal c.data.model).2.2.hal handle
      rcases hhal with hsame | ⟨m, hmoved⟩
      · rwa [hsame]
      · rw [hmoved]
        exact hal'.loadModel m _ handle hlive
    · exact absurd hzero hfail

lemma unload (hal' : hal.KeepsHandlesApart live) (hc : c.Apart live taken) :
    (unloadModel (sessionModule hal) c).2.Apart live taken := by
  have hsound := (requestInvariant_sessionSound hal).unload c hc.sound
  rcases unloadModel_cases (sessionModule hal) c with ⟨heq, -⟩ | ⟨hstate, hset, heq⟩
  · rwa [heq]
  rw [heq] at hsound ⊢
  refine ⟨hsound, hc.unready, fun _ => hset, fun handle hother => ?_, fun hne => absurd rfl hne⟩
  have hlive := hc.takenLive handle hother
  have hne : handle ≠ c.data.modelHandle := by
    rintro rfl
    exact (hc.own (by simp [hstate])).2 hother
  change live (c.io.conn.unloadModel hal c.data.modelHandle).2.hal handle
  unfold TriggerSession.unloadModel
  split
  · exact hlive
  split
  · exact hlive
  dsimp only
  split
  · exact hlive
  · exact hal'.unloadModel _ _ handle hne hlive

lemma switched {op : H → Int × H} {old new : SessionModelState} {r : Int × TriggerSession H}
    (hc : c.Apart live taken) (hr : c.io.conn.Switched op c.data.modelHandle old new r)
    (hlive : ∀ a handle, live a handle → live (op a).2 handle) (hset : c.io.moduleReady)
    (e : Effect) : Cell.Apart live taken ⟨c.data, c.io.call e r.2⟩ := by
  refine hc.setIo (hc.sound.call hset hr.adapter_eq e) (fun _ => hset) fun _ handle h => ?_
  cases hr with
  | done => exact hlive _ handle h
  | failed _ hhal =>
    rcases hhal with rfl | rfl
    · exact h
    · exact hlive _ handle h

lemma stop (hal' : hal.KeepsHandlesApart live) (hc : c.Apart live taken) :
    (stopRecognition (sessionModule hal) c).2.Apart live taken := by
  rcases stopRecognition_cases (sessionModule hal) c with ⟨heq, -⟩ | ⟨hstate, hset, hcall⟩
  · rwa [heq]
  have hio := hc.switched (TriggerSession.stop_switched hal _ _) (fun a => hal'.stop _ a) hset
    (.stop c.data.uuid c.data.modelHandle)
  rcases hcall with ⟨-, heq⟩ | ⟨-, heq⟩ <;> rw [heq]
  · exact hio
  · exact hio.setData (fun _ => by simp [hstate]) rfl

lemma start (hal' : hal.KeepsHandlesApart live) (hs : c.Startable)
    (habsent : c.data.state = .notLoaded → c.entry c.data.modelHandle = none)
    (hc : c.Apart live taken) : (callStart (sessionModule hal) c).2.Apart live taken := by
  have hsw := TriggerSession.start_switched hal c.data.modelHandle c.io.conn
  have hio := hc.switched hsw (fun a => hal'.start _ a) hs.1
    (.start c.data.uuid c.data.modelHandle)
  rcases callStart_cases (sessionModule hal) c with ⟨-, heq⟩ | ⟨hzero, heq⟩ <;> rw [heq]
  · exact hio
  · refine hio.setData (fun _ hstate => ?_) rfl
    cases (hsw.find?_of_zero hzero).symm.trans (habsent hstate)

def Prepared (live : H → Int → Prop) (taken : Int → Prop) (c : Cell (TriggerSession H)) : Prop :=
  c.Apart live taken ∧ (c.data.state = .notLoaded → c.entry c.data.modelHandle = none)

lemma cellInvariant_prepared (hal' : hal.KeepsHandlesApart live) (taken : Int → Prop) :
    CellInvariant (sessionModule hal) (Prepared live taken) where
  getModule _ hc := ⟨hc.1.getModule,
    fun hstate => (hc.1.sound.entry_getModule hal _).trans (hc.2 hstate)⟩
  setParams _ key value hc := ⟨hc.1.setParams hal' key value,
    fun hstate => (hc.1.sound.entry_setParams hal key value _).trans (hc.2 hstate)⟩
  emit _ _ _ hc := ⟨⟨hc.1.sound, hc.1.unready, hc.1.needs, hc.1.takenLive, hc.1.own⟩, hc.2⟩
  setModel c model hc := by
    obtain ⟨m, hm⟩ := setModel_eq c.data model
    rw [hm]
    exact ⟨hc.1.setData id rfl, hc.2⟩
  load c hc := by
    refine ⟨hc.1.load hal', ?_⟩
    rcases loadModel_cases (sessionModule hal) c with heq | ⟨hstate, -, ⟨hne, heq⟩ | ⟨-, heq⟩⟩ <;>
      rw [heq]
    · exact hc.2
    · intro _
      obtain ⟨-, hzero, -⟩ | ⟨-, htable, -⟩ :=
        TriggerSession.loadModel_cases hal c.data.model c.io.conn
      · exact absurd hzero hne
      · change (c.io.conn.loadModel hal c.data.model).2.2.loadedModels.find? _ = none
        rw [htable]
        exact hc.2 hstate
    · exact fun h => ModelState.noConfusion h
  unload c hc := by
    refine ⟨hc.1.unload hal', ?_⟩
    rcases unloadModel_cases (sessionModule hal) c with ⟨heq, -⟩ | ⟨-, hset, heq⟩ <;> rw [heq]
    · exact hc.2
    · exact fun _ =>
        (TriggerSession.unloadModel_cases hal c.data.modelHandle (hc.1.sound.1 hset)).1
  stop c hc := by
    refine ⟨hc.1.stop hal', ?_⟩
    rcases stopRecognition_cases (sessionModule hal) c with
      ⟨heq, -⟩ | ⟨hstate, -, ⟨-, heq⟩ | ⟨-, heq⟩⟩ <;> rw [heq]
    · exact hc.2
    · exact fun h => by simp [hstate] at h
    · exact fun h => ModelState.noConfusion h
  start c hs hc := by
    refine ⟨hc.1.start hal' hs hc.2, ?_⟩
    rcases callStart_cases (sessionModule hal) c with ⟨hne, heq⟩ | ⟨-, heq⟩ <;> rw [heq]
    · intro hstate
      have hmodels := (TriggerSession.start_switched hal _ _).loadedModels_of_ne_zero hne
      exact (congrArg (·.find? c.data.modelHandle) hmodels).trans (hc.2 hstate)
    · exact fun h => ModelState.noConfusion h

lemma startRecognition (hal' : hal.KeepsHandlesApart live) (ctx : StartContext)
    (hc : c.Apart live taken) :
    (startRecognition (sessionModule hal) ctx c).2.Apart live taken := by
  by_cases hstate : c.data.state = .loaded
  · have hprepared : Prepared live taken c := ⟨hc, fun h => by simp [hstate] at h⟩
    exact ((cellInvariant_prepared hal' taken).startRecognition ctx hprepared).1
  · simpa [IntellVoice.Trigger.startRecognition, hstate] using hc

end Cell.Apart

lemma demandInvariant_apart {live : H → Int → Prop} (hal' : hal.KeepsHandlesApart live)
    (taken : Int → Prop) : DemandInvariant (sessionModule hal) (Cell.Apart live taken) where
  getModule _ hc := hc.getModule
  load _ hc := hc.load hal'
  unload _ hc := hc.unload hal'
  stop _ hc := hc.stop hal'
  startRecognition _ ctx hc := hc.startRecognition hal' ctx
  setModel c model hc := by
    obtain ⟨m, hm⟩ := setModel_eq c.data model
    rw [hm]
    exact hc.setData id rfl
  setCallback _ callback hc := by
    cases callback <;> exact hc.setData id rfl
  setRequested _ _ hc := hc.setData id rfl
  clearCallback _ hc := hc.setData id rfl
  clear _ hc := hc.setData (fun hne => absurd rfl hne) rfl

structure Helper.HandlesApart (live : H → Int → Prop) (h : Helper (TriggerSession H)) : Prop where
  sound : SessionSound h.io
  needs : ∀ k d, h.find k = some d → d.NeedsModule h.io
  live : ∀ k d, h.find k = some d → d.state ≠ .notLoaded → live h.io.conn.hal d.modelHandle
  apart : ∀ k k' d d', h.find k = some d → h.find k' = some d' → d.state ≠ .notLoaded →
    d'.state ≠ .notLoaded → d.modelHandle = d'.modelHandle → k = k'

def Helper.takenBesides (uuid : Int) (h : Helper M) (handle : Int) : Prop :=
  ∃ k d, k ≠ uuid ∧ h.find k = some d ∧ d.LoadedUnder handle

lemma Helper.find_onCell_cases {β : Type*} {h : Helper M} {uuid : Int} {d : TriggerModelData}
    (hd : h.find uuid = some d) (absent : β) (f : Cell M → β × Cell M) {k : Int}
    {d' : TriggerModelData} (hd' : (h.onCell uuid absent f).2.find k = some d') :
    (k = uuid ∧ d' = (f ⟨d, h.io⟩).2.data) ∨ (k ≠ uuid ∧ h.find k = some d') := by
  by_cases hk : k = uuid
  · subst hk
    exact .inl ⟨rfl, Option.some.inj (hd'.symm.trans (find_onCell_self hd absent f))⟩
  · exact .inr ⟨hk, find_onCell_ne hk absent f h ▸ hd'⟩

namespace Helper.HandlesApart
variable {live : H → Int → Prop} {h : Helper (TriggerSession H)} {uuid : Int}

lemma cell (hh : h.HandlesApart live) {d : TriggerModelData} (hd : h.find uuid = some d) :
    Cell.Apart live (h.takenBesides uuid) ⟨d, h.io⟩ := by
  refine ⟨hh.sound, fun hfalse handle => ?_, hh.needs uuid d hd, fun handle => ?_, fun hstate => ?_⟩
  · rintro ⟨k, d', -, hd', hload⟩
    simp [hh.needs k d' hd' hload.1] at hfalse
  · rintro ⟨k, d', -, hd', hload⟩
    exact hload.2 ▸ hh.live k d' hd' hload.1
  · refine ⟨hh.live uuid d hd hstate, ?_⟩
    rintro ⟨k, d', hne, hd', hload⟩
    exact hne (hh.apart k uuid d' d hd' hd hload.1 hstate hload.2)

lemma onCell {β : Type*} (hh : h.HandlesApart live) (uuid : Int) (absent : β)
    {f : Cell (TriggerSession H) → β × Cell (TriggerSession H)}
    (hready : ∀ c, c.io.moduleReady → (f c).2.io.moduleReady)
    (hf : ∀ taken c, Cell.Apart live taken c → Cell.Apart live taken (f c).2) :
    (h.onCell uuid absent f).2.HandlesApart live := by
  cases hd : h.find uuid with
  | none =>
    rw [onCell_none hd]
    exact hh
  | some d =>
    have hcell := hf _ _ (hh.cell hd)
    have hio := io_onCell hd absent f
    refine ⟨hio ▸ hcell.sound, fun k d' hd' => ?_, fun k d' hd' hstate => ?_,
      fun k k' d₁ d₂ hd₁ hd₂ hstate₁ hstate₂ hsame => ?_⟩
    · rw [hio]
      rcases find_onCell_cases hd absent f hd' with ⟨-, rfl⟩ | ⟨-, hold⟩
      · exact hcell.needs
      · exact fun hstate => hready _ (hh.needs k d' hold hstate)
    · rw [hio]
      rcases find_onCell_cases hd absent f hd' with ⟨-, rfl⟩ | ⟨hne, hold⟩
      · exact (hcell.own hstate).1
      · exact hcell.takenLive _ ⟨k, d', hne, hold, hstate, rfl⟩
    · rcases find_onCell_cases hd absent f hd₁ with ⟨rfl, rfl⟩ | ⟨hne₁, hold₁⟩ <;>
        rcases find_onCell_cases hd absent f hd₂ with ⟨rfl, rfl⟩ | ⟨hne₂, hold₂⟩
      · rfl
      · exact absurd ⟨k', d₂, hne₂, hold₂, hstate₂, hsame.symm⟩ (hcell.own hstate₁).2
      · exact absurd ⟨k, d₁, hne₁, hold₁, hstate₁, hsame⟩ (hcell.own hstate₂).2
      · exact hh.apart k k' d₁ d₂ hold₁ hold₂ hstate₁ hstate₂ hsame

lemma sub (hh : h.HandlesApart live) {h' : Helper (TriggerSession H)} (hio : h'.io = h.io)
    (hfind : ∀ k d', h'.find k = some d' → d'.state ≠ .notLoaded →
      ∃ d, h.find k = some d ∧ d.state ≠ .notLoaded ∧ d.modelHandle = d'.modelHandle) :
    h'.HandlesApart live := by
  refine ⟨hio ▸ hh.sound, fun k d' hd' hstate => ?_, fun k d' hd' hstate => ?_,
    fun k k' d₁ d₂ hd₁ hd₂ hstate₁ hstate₂ hsame => ?_⟩
  · obtain ⟨d, hd, hload, -⟩ := hfind k d' hd' hstate
    exact hio ▸ hh.needs k d hd hload
  · obtain ⟨d, hd, hload, hhandle⟩ := hfind k d' hd' hstate
    rw [hio, ← hhandle]
    exact hh.live k d hd hload
  · obtain ⟨d₁', hold₁, hload₁, hhandle₁⟩ := hfind k d₁ hd₁ hstate₁
    obtain ⟨d₂', hold₂, hload₂, hhandle₂⟩ := hfind k' d₂ hd₂ hstate₂
    exact hh.apart k k' d₁' d₂' hold₁ hold₂ hload₁ hload₂
      (hhandle₁.trans (hsame.trans hhandle₂.symm))

section
variable (hal' : hal.KeepsHandlesApart live)
include hal'

lemma reactionInvariant :
    ReactionInvariant (sessionModule hal) (Helper.HandlesApart live) where
  env _ _ hh := ⟨hh.sound, hh.needs, hh.live, hh.apart⟩
  param h key value hh := by
    have hready := h.io.ready_setParameterForInputPipe (sessionModule hal) key value
    refine ⟨hh.sound.setParameterForInputPipe hal key value,
      fun k d hd hstate => hready (hh.needs k d hd hstate), fun k d hd hstate => ?_, hh.apart⟩
    exact ((hh.cell hd).setParams hal' key value).own hstate |>.1
  cell _ uuid _ hf hh := hh.onCell uuid true (fun c => (hf.acts c).io.ready)
    fun taken _ hc => hf.operationInvariant
      (demandInvariant_apart hal' taken).toOperationInvariant hc

lemma startGenericRecognition (hh : h.HandlesApart live) (uuid : Int) (model : GenericTriggerModel)
    (callback : Option Callback) :
    (h.startGenericRecognition p (sessionModule hal) uuid model callback).2.HandlesApart live := by
  have hcreate : (h.createTriggerModelData uuid).HandlesApart live := by
    refine hh.sub rfl fun k d' hd' hstate => ⟨d', ?_, hstate, rfl⟩
    rcases Helper.find_createTriggerModelData hd' with hold | ⟨-, rfl⟩
    · exact hold
    · exact absurd rfl hstate
  have haccept := hcreate.onCell uuid false
    (fun c => (serves_acceptRequest (sessionModule hal) model callback c).io.ready)
    (fun taken _ hc => (demandInvariant_apart hal' taken).acceptRequest model callback hc)
  simp only [Helper.startGenericRecognition]
  split
  · exact haccept
  split
  · exact haccept
  exact haccept.onCell uuid (-1)
    (fun c => (serves_prepareAndStart (sessionModule hal) _ c).io.ready)
    (fun taken _ hc => (demandInvariant_apart hal' taken).prepareAndStart _ hc)

lemma stopGenericRecognition (hh : h.HandlesApart live) (uuid : Int) :
    (h.stopGenericRecognition (sessionModule hal) uuid).2.HandlesApart live :=
  hh.onCell uuid (-1) (fun c => (serves_stopRequested (sessionModule hal) c).io.ready)
    (fun taken _ hc => (demandInvariant_apart hal' taken).stopRequested hc)

lemma unloadGenericTriggerModel (hh : h.HandlesApart live) (uuid : Int) :
    (h.unloadGenericTriggerModel (sessionModule hal) uuid).HandlesApart live := by
  unfold Helper.unloadGenericTriggerModel
  split
  · exact hh
  split
  · exact hh
  have hunload := hh.onCell uuid ()
    (fun c => (serves_stopAndUnload (sessionModule hal) c).io.ready)
    (fun taken _ hc => (demandInvariant_apart hal' taken).stopAndUnload hc)
  refine hunload.sub rfl fun k d' hd' hstate => ⟨d', ?_, hstate, rfl⟩
  rw [Helper.find, OrderedMap.find?_erase] at hd'
  split at hd'
  · cases hd'
  · exact hd'

end

lemma onRecognition (hh : h.HandlesApart live) {handle : Int} (hroute : h.Routable handle) :
    (h.onRecognition handle).HandlesApart live := by
  cases hr : h.recognized handle with
  | none =>
    rw [onRecognition_none hr]
    exact hh
  | some found =>
    obtain ⟨k, d⟩ := found
    have hd := (find_of_recognized hr).1
    have hload := routable_iff.1 hroute k d hr
    have hset : Helper.HandlesApart live
        { h with modelDataMap := h.modelDataMap.set k (d.setState .loaded) } := by
      refine hh.sub rfl fun k' d' hd' hstate => ?_
      by_cases hk : k' = k
      · subst hk
        rw [Helper.find, OrderedMap.find?_set_self] at hd'
        exact ⟨d, hd, hload, Option.some.inj hd' ▸ rfl⟩
      · rw [Helper.find, OrderedMap.find?_set_ne _ _ hk] at hd'
        exact ⟨d', hd', hstate, rfl⟩
    rw [onRecognition_some hr]
    unfold Helper.reportDetection
    split
    · exact hset
    · exact ⟨hset.sound, hset.needs, hset.live, hset.apart⟩

end Helper.HandlesApart

def SystemEvent.DeliversRoutable (s : TriggerSystem H) : SystemEvent → Prop
  | .deliver => ∀ handle, s.inFlight = some handle → s.helper.Routable handle
  | _ => True

lemma step_handlesApart {live : H → Int → Prop} (hal' : hal.KeepsHandlesApart live)
    {w w' : World (TriggerSession H)} {e : Event} (hw : w.helper.HandlesApart live)
    (he : e.fromModule = false) (hstep : step p (sessionModule hal) w e = some w') :
    w'.helper.HandlesApart live := by
  obtain ⟨uuid, model, cb, -, rfl⟩ | ⟨uuid, -, rfl⟩ | ⟨uuid, -, rfl⟩ | ⟨handle, rfl, -, -⟩ | hre :=
    step_cases hstep
  · exact hw.startGenericRecognition hal' uuid model cb
  · exact hw.stopGenericRecognition hal' uuid
  · exact hw.unloadGenericTriggerModel hal' uuid
  · cases he
  · exact step_reaction (Helper.HandlesApart.reactionInvariant hal') hre hstep hw

lemma systemStep_handlesApart {live : H → Int → Prop} (hal' : hal.KeepsHandlesApart live)
    {s s' : TriggerSystem H} {e : SystemEvent} (hs : s.helper.HandlesApart live)
    (he : e.DeliversRoutable s) (hstep : systemStep p hal s e = some s') :
    s'.helper.HandlesApart live := by
  obtain ⟨e', w', -, hmodule, hw', rfl⟩ | ⟨handle, -, hworld, -⟩ |
    ⟨-, -, handle, rest, -, rfl⟩ | ⟨rfl, handle, hflight, rfl⟩ := systemStep_cases hstep
  · exact step_handlesApart hal' hs hmodule hw'
  · have hhelper : s'.helper = s.helper := by
      rw [TriggerSystem.helper, hworld]
      rfl
    exact hhelper ▸ hs
  · -- The first step of a delivery changes the session's table but not the adapter.
    rcases TriggerSystem.process_cases { s with queue := rest } handle with hsame | ⟨hactive, hset⟩
    · rw [hsame]
      exact hs
    rw [hset]
    refine ⟨⟨hs.sound.1, fun hfalse => ?_⟩, hs.needs, hs.live, hs.apart⟩
    have hempty : s.session.loadedModels = ∅ := hs.sound.2 hfalse
    change s.session.loadedModels.find? handle = some .active at hactive
    rw [hempty] at hactive
    cases hactive
  · exact hs.onRecognition (he handle hflight)

lemma initial_handlesApart (live : H → Int → Prop) (hal₀ : H) (pipes : InputPipes)
    (kv : StoredLists) : (initial hal₀ pipes kv).helper.HandlesApart live := by
  have hfind : ∀ k, (initial hal₀ pipes kv).helper.find k = none := fun _ => rfl
  refine ⟨(initial_sound hal₀ pipes kv).holds.1, ?_, ?_, ?_⟩ <;> intros <;> simp_all

theorem run_routed_iff {live : H → Int → Prop} (hal' : hal.KeepsHandlesApart live) (hal₀ : H)
    (pipes : InputPipes) (kv : StoredLists) (es : List SystemEvent) {s : TriggerSystem H}
    (hroutable : Along (systemStep p hal) (fun s e _ => e.DeliversRoutable s)
      (.initial hal₀ pipes kv) es)
    (hrun : run (systemStep p hal) (.initial hal₀ pipes kv) es = some s) (handle : Int) :
    s.helper.Routed handle (s.helper.onRecognition handle) ↔ s.helper.Routable handle := by
  have hsound : s.Sound := run_invariant_all
    (fun _ _ _ hs hstep => systemStep_sound hs hstep) (initial_sound _ _ _) hrun
  have hstep : ∀ (s : TriggerSystem H) e s', s.helper.HandlesApart live → e.DeliversRoutable s →
      systemStep p hal s e = some s' → s'.helper.HandlesApart live :=
    fun _ _ _ => systemStep_handlesApart hal'
  have happly := run_invariant hstep (initial_handlesApart live hal₀ pipes kv) hroutable hrun
  refine Helper.routed_onRecognition_iff hsound.keys fun k k' d d' hd hd' hload hload' => ?_
  exact happly.apart k k' d d' hd hd' hload.1 hload'.1 (hload.2.trans hload'.2.symm)

def zeroHal : Hal Nat := { countingHal with loadModel := fun _ n => (0, n, n + 1) }

lemma zeroHal_keepsHandlesApart :
    zeroHal.KeepsHandlesApart fun n handle => 0 ≤ handle ∧ handle < n where
  fresh _ n _ := by
    change ¬ (0 ≤ (n : Int) ∧ (n : Int) < n)
    omega
  records _ n _ := by
    change 0 ≤ (n : Int) ∧ (n : Int) < ((n + 1 : Nat) : Int)
    omega
  loadModel _ n h hlive := by
    change 0 ≤ h ∧ h < ((n + 1 : Nat) : Int)
    omega
  unloadModel _ _ _ _ hlive := hlive
  start _ _ _ hlive := hlive
  stop _ _ _ hlive := hlive
  setParams _ _ _ _ hlive := hlive

theorem run_routed_iff_handle_zero :
    let p := Platform.bare (.minimal false)
    ∃ s : TriggerSystem Nat, run (systemStep p zeroHal) (.initial 0 (some []) {})
        [.helper (.startGenericRecognition 1 (.voiceWakeup [7]) (some 0)),
          .onRecognitionHdiEvent 0, .processRecognitionHdiEvent] = some s ∧
      s.inFlight = some 0 ∧ (s.helper.Routed 0 (s.helper.onRecognition 0) ↔
        s.helper.Routable 0) := by
  refine ⟨_, rfl, rfl, run_routed_iff zeroHal_keepsHandlesApart 0 (some []) {}
    [.helper (.startGenericRecognition 1 (.voiceWakeup [7]) (some 0)), .onRecognitionHdiEvent 0,
      .processRecognitionHdiEvent] ?_ rfl 0⟩
  refine .of_step rfl trivial ?_
  refine .of_step rfl trivial ?_
  exact .of_step rfl trivial trivial

theorem unloaded_model_takes_recognition :
    let p := Platform.bare (.minimal false)
    ∃ s : TriggerSystem Nat, run (systemStep p zeroHal) (.initial 0 (some []) {})
        [.helper (.onAudioSceneChange .ringing),
          .helper (.startGenericRecognition 1 (.voiceWakeup [7]) (some 1)),
          .helper (.stopGenericRecognition 1), .helper (.onAudioSceneChange .default),
          .helper (.startGenericRecognition 2 (.voiceWakeup [8]) (some 2)),
          .onRecognitionHdiEvent 0, .processRecognitionHdiEvent] = some s ∧
      s.inFlight = some 0 ∧
      (s.helper.find 1).map state = some .notLoaded ∧
      (s.helper.find 2).map state = some .started ∧
      ((s.helper.onRecognition 0).find 1).map state = some .loaded ∧
      ((s.helper.onRecognition 0).find 2).map state = some .started ∧
      (s.helper.onRecognition 0).io.log = s.helper.io.log ∧
      ¬ s.helper.Routed 0 (s.helper.onRecognition 0) := by
  refine ⟨_, rfl, rfl, rfl, rfl, rfl, rfl, rfl, fun hrouted => ?_⟩
  have hstarted := (hrouted.target 2 _ rfl ⟨by decide, rfl⟩).1
  cases hstarted

end IntellVoice.Trigger
