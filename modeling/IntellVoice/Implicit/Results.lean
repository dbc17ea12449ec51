import IntellVoice.Implicit.System

/-! `OnEnrollComplete` saves the engine's fields, whichever run they are of. -/

namespace IntellVoice.Implicit.System
open Transition
variable (read : String → Parsed)

structure Save.Belongs (s : Save) : Prop where
  run : ∃ request bundleName abilityName, s.request = some request ∧
    (read request).Verifies bundleName abilityName ∧
    (∀ name, s.saved = .wakeupEngineBundleName name → name = bundleName) ∧
    ∀ name, s.saved = .wakeupEngineAbilityName name → name = abilityName

def StartWaits (w : World) (keyValueList : String) : Prop :=
  ∀ x param, w.engine = some x → x.state = .initialized →
    requestOf keyValueList = some (.startRecognize param) → w.completing = none

/-- Results come to a recognizing engine, and no start interrupts their saving. -/
def Event.KeepsResults (w : World) : Event → Prop
  | .onEnrollComplete _ _ =>
    ∀ x, w.engine = some x → x.state = .recognizing ∨ x.cell.data.params.stage ≠ verifyStage
  | .setParameter keyValueList => StartWaits w keyValueList
  | .enrollStart => ∀ call, w.call = some call → StartWaits w (startEnroll call.wakeupInfo)
  | _ => True

def FieldsOf (params : StartParams) (request : Option String) : Prop :=
  params.stage = verifyStage →
    ∃ text, request = some text ∧ (read text).Verifies params.bundleName params.abilityName

def RunKnown (x : Instance) : Prop :=
  x.state = .recognizing → FieldsOf read x.cell.data.params x.cell.out.starts.getLast?

structure SavesKnown (params : StartParams) (c : Completion) : Prop where
  fields : FieldsOf read params c.request
  stage : c.phase ≠ .stage → params.stage = verifyStage

variable {read} {x x' : Instance} {m : StateMsg} {ret : Int}

lemma RunKnown.frame (h : RunKnown read x) (hhandled : Handled read x m ret x')
    (hm : ∀ param, m ≠ .startRecognize param) : RunKnown read x' := by
  obtain ⟨hparams, hstarts, hstate⟩ := hhandled.frame hm
  intro hrecognizing
  rw [hparams, hstarts]
  exact h (hstate hrecognizing)

lemma RunKnown.start {param : Option String} (h : RunKnown read x)
    (hhandled : Handled read x (.startRecognize param) ret x') : RunKnown read x' := by
  cases hhandled with
  | unprocessed m hstate | noStart hstate => exact h
  | rejected param ok params hstate hcheck hok =>
    intro hrecognizing
    cases hstate.symm.trans hrecognizing
  | started param params hstate hcheck =>
    intro _ hverify
    exact ⟨param, by simp, verifies_of_checkParams hcheck hverify⟩

lemma RunKnown.requested {keyValueList : String} (h : RunKnown read x)
    (hrequest : Requested read x keyValueList x') : RunKnown read x' := by
  rcases hrequest.cases with rfl | ⟨value, ret, -, hhandled⟩ | ⟨ret, hhandled⟩
  · exact h
  · exact h.start hhandled
  · exact h.frame hhandled (by simp)

lemma params_of_requested {keyValueList : String} (hrequest : Requested read x keyValueList x')
    (hother : x.state = .initialized →
      ∀ param, requestOf keyValueList ≠ some (.startRecognize param)) :
    x'.cell.data.params = x.cell.data.params := by
  rcases hrequest.cases with rfl | ⟨value, ret, hm, hhandled⟩ | ⟨ret, hhandled⟩
  · rfl
  · cases hhandled with
    | unprocessed m hnot => rfl
    | rejected param ok params hstate hcheck hok | started param params hstate hcheck =>
      exact absurd hm (hother hstate (some value))
  · exact (hhandled.frame (by simp)).1

structure ResultsKnown (read : String → Parsed) (w : World) : Prop where
  saves : ∀ s ∈ w.saves, s.Belongs read
  running : ∀ x, w.engine = some x → RunKnown read x
  completing : ∀ x c, w.engine = some x → w.completing = some c →
    SavesKnown read x.cell.data.params c
  gone : w.engine = none → w.completing = none

namespace ResultsKnown
variable {w w' : World}

section
variable (h : ResultsKnown read w)
include h

lemma replace (hengine : w'.engine = some x') (hsaves : w'.saves = w.saves)
    (hrunning : RunKnown read x')
    (hcompleting : ∀ c, w'.completing = some c → SavesKnown read x'.cell.data.params c) :
    ResultsKnown read w' where
  saves := by
    rw [hsaves]
    exact h.saves
  running y hy := by
    rw [hengine] at hy
    cases hy
    exact hrunning
  completing y c hy hc := by
    rw [hengine] at hy
    cases hy
    exact hcompleting c hc
  gone hnone := by
    rw [hengine] at hnone
    cases hnone

lemma handled (hengine : w.engine = some x) (hhandle : x.handle read m = (ret, x'))
    (hm : ∀ param, m ≠ .startRecognize param) (hengine' : w'.engine = some x')
    (hsaves : w'.saves = w.saves) (hcompleting : w'.completing = w.completing) :
    ResultsKnown read w' := by
  have hhandled := Machine.handled hhandle
  refine h.replace hengine' hsaves ((h.running x hengine).frame hhandled hm) fun c hc => ?_
  rw [(hhandled.frame hm).1]
  exact h.completing x c hengine (hcompleting ▸ hc)

lemma requested {keyValueList : String} (hengine : w.engine = some x)
    (hrequest : Requested read x keyValueList x') (hwaits : StartWaits w keyValueList)
    (hengine' : w'.engine = some x') (hsaves : w'.saves = w.saves)
    (hcompleting : w'.completing = w.completing) : ResultsKnown read w' := by
  refine h.replace hengine' hsaves ((h.running x hengine).requested hrequest) fun c hc => ?_
  rw [hcompleting] at hc
  have hsame := params_of_requested hrequest fun hstate param hparam => by
    -- the request would have been read while the completion is being saved
    rw [hwaits x param hengine hstate hparam] at hc
    cases hc
  rw [hsame]
  exact h.completing x c hengine hc

lemma created {c : Creation} (hnone : w.engine = none)
    (hcreate : createEngine read c w.past none = some x) (hengine' : w'.engine = some x)
    (hsaves : w'.saves = w.saves) (hcompleting : w'.completing = w.completing) :
    ResultsKnown read w' := by
  refine h.replace hengine' hsaves ?_ fun c hc => ?_
  · rw [createEngine_new hcreate]
    intro hrecognizing
    cases hrecognizing
  · rw [hcompleting, h.gone hnone] at hc
    cases hc

lemma congr (hengine : w'.engine = w.engine) (hsaves : w'.saves = w.saves)
    (hcompleting : w'.completing = w.completing) : ResultsKnown read w' := by
  refine ⟨?_, ?_, ?_, ?_⟩
  · rw [hsaves]
    exact h.saves
  · rw [hengine]
    exact h.running
  · rw [hengine, hcompleting]
    exact h.completing
  · rw [hengine, hcompleting]
    exact h.gone

lemma completed {result : Int} {info : String} (hengine : w.engine = some x)
    (hhandle : x.handle read (.recognizeComplete (some ⟨.enrollComplete, result, info⟩)) =
      (ret, x'))
    (hkeeps : x.state = .recognizing ∨ x.cell.data.params.stage ≠ verifyStage) :
    ResultsKnown read { w.setEngine x' with
      completing := some
        ⟨result, .stage, if ret = 0 then x.cell.out.starts.getLast? else none⟩ } := by
  have hhandled := Machine.handled hhandle
  have hparams := (hhandled.frame (by simp)).1
  refine h.replace rfl rfl ((h.running x hengine).frame hhandled (by simp)) fun c hc => ?_
  cases hc
  refine ⟨?_, fun hphase => absurd rfl hphase⟩
  rw [hparams]
  rcases hkeeps with hrecognizing | hstage
  · -- the machine accepts the completion of the run that the fields belong to
    have hret : ret = 0 := by
      cases hhandled with
      | unprocessed m hnot => exact absurd hrecognizing hnot
      | completed event hstate => rfl
    rw [if_pos hret]
    exact h.running x hengine hrecognizing
  · exact fun hverify => absurd hverify hstage

end

lemma save_belongs {params : StartParams} {c : Completion} {s : Save}
    (h : SavesKnown read params c) (hverify : params.stage = verifyStage)
    (hrequest : s.request = c.request)
    (hbundle : ∀ name, s.saved = .wakeupEngineBundleName name → name = params.bundleName)
    (hability : ∀ name, s.saved = .wakeupEngineAbilityName name → name = params.abilityName) :
    s.Belongs read := by
  obtain ⟨text, htext, hverifies⟩ := h.fields hverify
  exact ⟨text, params.bundleName, params.abilityName, hrequest.trans htext, hverifies, hbundle,
    hability⟩

lemma append {s : Save} {completing : Option Completion} (h : ResultsKnown read w)
    (hengine : w.engine = some x) (hs : s.Belongs read)
    (hcompleting : ∀ c, completing = some c → SavesKnown read x.cell.data.params c) :
    ResultsKnown read { w with saves := w.saves ++ [s], completing := completing } where
  saves s' hs' := by
    rcases List.mem_append.1 hs' with hold | hnew
    · exact h.saves s' hold
    · obtain rfl := List.mem_singleton.1 hnew
      exact hs
  running := h.running
  completing y c hy hc := by
    cases hengine.symm.trans hy
    exact hcompleting c hc
  gone hnone := by
    cases hengine.symm.trans hnone

lemma saved {c : Completion} (h : ResultsKnown read w) (hengine : w.engine = some x)
    (hcompleting : w.completing = some c) : ResultsKnown read (w.save x c) := by
  have hknown := h.completing x c hengine hcompleting
  have hnext : ∀ phase, x.cell.data.params.stage = verifyStage →
      SavesKnown read x.cell.data.params { c with phase := phase } :=
    fun phase hverify => ⟨hknown.fields, fun _ => hverify⟩
  obtain ⟨result, phase, request⟩ := c
  cases phase with
  | stage =>
    simp only [World.save]
    split
    · rename_i hverify
      refine h.append hengine (save_belongs hknown hverify rfl (by simp) (by simp)) fun c' hc' => ?_
      split at hc'
      · cases hc'
        exact hnext .version hverify
      · cases hc'
    · exact ⟨h.saves, h.running, fun y c' _ hc' => (by cases hc'), fun _ => rfl⟩
  | version =>
    have hverify := hknown.stage (by simp)
    refine h.append hengine (save_belongs hknown hverify rfl (by simp) (by simp)) fun c' hc' => ?_
    cases hc'
    exact hnext .bundleName hverify
  | bundleName =>
    have hverify := hknown.stage (by simp)
    refine h.append hengine (save_belongs hknown hverify rfl ?_ (by simp)) fun c' hc' => ?_
    · intro name hname
      cases hname
      rfl
    · cases hc'
      exact hnext .abilityName hverify
  | abilityName =>
    have hverify := hknown.stage (by simp)
    refine h.append hengine (save_belongs hknown hverify rfl (by simp) ?_) fun c' hc' => ?_
    · intro name hname
      cases hname
      rfl
    · cases hc'
      exact hnext .phrase hverify
  | phrase =>
    have hverify := hknown.stage (by simp)
    refine h.append hengine (save_belongs hknown hverify rfl (by simp) (by simp)) fun c' hc' => ?_
    cases hc'

lemma step {e : Event} (h : ResultsKnown read w) (hkeeps : e.KeepsResults w)
    (hstep : Stepped read w e w') : ResultsKnown read w' := by
  cases hstep with
  | same c | nothingToRelease ret hengine => exact h
  | created c x hengine hcreate => exact h.created hengine hcreate rfl rfl rfl
  | callback callback x x' ret hengine hhandle | detached ret answer x x' hengine hfree hhandle
  | enrollCallback wakeupInfo callback x x' ret hengine hcall hhandle
  | released ret answer x x' hengine hcall hfree hhandle =>
    exact h.handled hengine hhandle (by simp) rfl rfl rfl
  | noCallback x hengine | enrollNoCallback wakeupInfo x hengine hcall =>
    exact h.congr hengine.symm rfl rfl
  | requested keyValueList x x' hengine hrequest =>
    exact h.requested hengine hrequest hkeeps rfl rfl rfl
  | enrollRefused c wakeupInfo object hcall | enrollEntered c wakeupInfo object x hcall hengine =>
    exact h.congr rfl rfl rfl
  | enrollCreated c wakeupInfo object x hcall hengine hcreate =>
    exact h.created hengine hcreate rfl rfl rfl
  | enrollStart wakeupInfo object x x' hengine hcall hrequest =>
    exact h.requested hengine hrequest (hkeeps _ hcall) rfl rfl rfl
  | completed result info x x' ret hengine hfree hhandle =>
    exact h.completed hengine hhandle (hkeeps x hengine)
  | saved x c hengine hcompleting => exact h.saved hengine hcompleting
  | timedOut x x' ret hengine hhandle => exact h.handled hengine hhandle (by simp) rfl rfl rfl
  | destroyed ret answer x x' hengine hreleasing hfree hhandle =>
    exact ⟨h.saves, fun y hy => (by cases hy), fun y c hy => (by cases hy), fun _ => hfree⟩

end ResultsKnown

theorem run_saves_belong (read : String → Parsed) (es : List Event) {w : World}
    (hkeeps : Along (step read) (fun w e _ => e.KeepsResults w) {} es)
    (hrun : run (step read) {} es = some w) : ∀ s ∈ w.saves, s.Belongs read := by
  have hinitial : ResultsKnown read {} :=
    ⟨fun s hs => (by cases hs), fun x hx => (by cases hx), fun x c hx => (by cases hx),
      fun _ => rfl⟩
  have hstep : ∀ w e t, ResultsKnown read w → Event.KeepsResults w e → step read w e = some t →
      ResultsKnown read t := fun _ _ _ h hk hst => h.step hk (stepped_of_step hst)
  exact (run_invariant hstep hinitial hkeeps hrun).saves

def verifyRequests (name : String) : Parsed :=
  .members (fun key => if key = "stage" then some verifyStage else some name) fun _ => some 0

theorem run_saves_belong_to_one_run :
    ∃ w, run (step verifyRequests) {} [.implicitEnroll ⟨true, true, 0⟩ "first" (some 1),
        .enrollCallback, .enrollStart, .onEnrollComplete 0 "", .save, .save, .save, .save, .save] =
          some w ∧
      w.saves.length = 5 ∧ ∀ s ∈ w.saves, s.Belongs verifyRequests := by
  refine ⟨_, rfl, rfl, run_saves_belong verifyRequests [.implicitEnroll ⟨true, true, 0⟩ "first"
    (some 1), .enrollCallback, .enrollStart, .onEnrollComplete 0 "", .save, .save, .save, .save,
    .save] ?_ rfl⟩
  refine .of_step rfl trivial (.of_step rfl trivial (.of_step rfl ?_ (.of_step rfl ?_
    (.of_step rfl trivial (.of_step rfl trivial (.of_step rfl trivial (.of_step rfl trivial
      (.of_step rfl trivial trivial))))))))
  · exact fun call hcall x param hengine hstate hrequest => rfl
  · intro x hengine
    cases hengine
    exact .inl rfl

theorem second_request_overwrites_names :
    ∃ w, run (step verifyRequests) {} [.implicitEnroll ⟨true, true, 0⟩ "first" (some 1),
        .enrollCallback, .enrollStart, .onEnrollComplete 0 "", .save, .save,
        .implicitEnroll ⟨true, true, 0⟩ "second" (some 2), .enrollCallback, .enrollStart, .save] =
          some w ∧
      ⟨.wakeupEngineBundleName "second", some "first"⟩ ∈ w.saves ∧
      ¬ ∀ s ∈ w.saves, s.Belongs verifyRequests := by
  refine ⟨_, rfl, by decide, fun h => ?_⟩
  obtain ⟨request, bundleName, abilityName, hrequest, ⟨string, int, hparsed, -, hbundle, -⟩, hname,
    -⟩ := h ⟨.wakeupEngineBundleName "second", some "first"⟩ (by decide)
  cases hrequest
  cases hparsed
  have hfirst : "first" = bundleName := by simpa using hbundle
  have hsecond := (hname "second" rfl).trans hfirst.symm
  exact absurd hsecond (by decide)

end IntellVoice.Implicit.System
