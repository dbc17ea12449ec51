import IntellVoice.Implicit.System

/-! `ImplicitEnroll` gives the engine its callback before it asks for the start. -/

namespace IntellVoice.Implicit.System
open Transition List
variable {read : String → Parsed}

structure ResultsDelivered (w : World) : Prop where
  once : (w.out.updates.map Update.run).Nodup
  caller : ∀ u ∈ w.out.updates, w.callers[u.run]? = some (some u.callback)
  rejected : ∀ callback, some callback ∉ w.callers → ∀ u ∈ w.out.updates, u.callback ≠ callback

def CallbackFree (w : World) (callback : Callback) : Prop :=
  ∀ x, w.engine = some x → x.cell.data.listener.historyEvent = none ∧
    (x.state = .recognizing → x.cell.data.listener.cb = some callback)

def CallbackOf (w : World) (keyValueList : String) (object : Option Callback) : Prop :=
  ∀ x param, w.engine = some x → x.state = .initialized →
    requestOf keyValueList = some (.startRecognize param) → x.cell.data.listener.cb = object

/-- A callback is set only for the client whose enrollment runs. -/
def Event.KeepsCallbacks (w : World) : Event → Prop
  | .setCallback (some callback) => CallbackFree w callback
  | .setParameter keyValueList => CallbackOf w keyValueList none
  | .enrollCallback =>
    ∀ call callback, w.call = some call → call.object = some callback → CallbackFree w callback
  | .enrollStart =>
    ∀ call, w.call = some call → CallbackOf w (startEnroll call.wakeupInfo) call.object
  | _ => True

structure Delivered (out : Outside) (callers : List (Option Callback)) : Prop where
  length : callers.length = out.starts.length
  once : (out.updates.map Update.run).Nodup
  caller : ∀ u ∈ out.updates, callers[u.run]? = some (some u.callback)

structure Awaited (x : Instance) (callers : List (Option Callback)) : Prop where
  caller : callers.getLast? = some x.cell.data.listener.cb
  unreported : ∀ u ∈ x.cell.out.updates, u.run < x.cell.out.currentRun

structure Known (x : Instance) (callers : List (Option Callback)) : Prop where
  delivered : Delivered x.cell.out callers
  running : x.state = .recognizing → Awaited x callers

variable {x x' : Instance} {callers : List (Option Callback)} {m : StateMsg} {ret : Int}

variable {out out' : Outside}

lemma Delivered.run_lt (h : Delivered out callers) {u : Update} (hu : u ∈ out.updates) :
    u.run < out.starts.length := by
  obtain ⟨hlt, -⟩ := List.getElem?_eq_some_iff.1 (h.caller u hu)
  rw [← h.length]
  exact hlt

lemma Delivered.congr (h : Delivered out callers) (hstarts : out'.starts = out.starts)
    (hupdates : out'.updates = out.updates) : Delivered out' callers := by
  refine ⟨?_, ?_, ?_⟩
  · rw [hstarts]
    exact h.length
  · rw [hupdates]
    exact h.once
  · rw [hupdates]
    exact h.caller

lemma Known.congr (h : Known x callers) (hstarts : x'.cell.out.starts = x.cell.out.starts)
    (hupdates : x'.cell.out.updates = x.cell.out.updates) (hrunning : x'.state = .recognizing →
      x.state = .recognizing ∧ x'.cell.data.listener.cb = x.cell.data.listener.cb) :
    Known x' callers := by
  refine ⟨h.delivered.congr hstarts hupdates, fun hstate => ?_⟩
  obtain ⟨hbefore, hcb⟩ := hrunning hstate
  have hawaited := h.running hbefore
  refine ⟨?_, ?_⟩
  · rw [hcb]
    exact hawaited.caller
  · rw [hupdates, Outside.currentRun, hstarts]
    exact hawaited.unreported

lemma Known.frame (h : Known x callers) (hhandled : Handled read x m ret x')
    (hstart : ∀ param, m ≠ .startRecognize param) (hm : ¬ m.Notifies) : Known x' callers := by
  obtain ⟨-, hstarts, hstate⟩ := hhandled.frame hstart
  obtain ⟨hlistener, hupdates⟩ := hhandled.listener_frame hm
  exact h.congr hstarts hupdates fun hafter => ⟨hstate hafter, by rw [hlistener]⟩

lemma Known.callbackSet {callback : Callback} (h : Known x callers)
    (hhandled : Handled read x (.setListener (some callback)) ret x')
    (hhistory : x.cell.data.listener.historyEvent = none)
    (hcb : x.state = .recognizing → x.cell.data.listener.cb = some callback) :
    Known x' callers := by
  cases hhandled with
  | unprocessed m hstate => exact h
  | callbackSet callback =>
    refine h.congr rfl ?_ fun hstate => ⟨hstate, (hcb hstate).symm⟩
    simp [Instance.listen, Machine.Cell.listen, Listener.setCallback, hhistory]

lemma Delivered.started (h : Delivered out callers) {param : String} (object : Option Callback)
    (hstarts : out'.starts = out.starts ++ [param]) (hupdates : out'.updates = out.updates) :
    Delivered out' (callers ++ [object]) := by
  refine ⟨?_, ?_, ?_⟩
  · simp [hstarts, h.length]
  · rw [hupdates]
    exact h.once
  · rw [hupdates]
    intro u hu
    rw [List.getElem?_append_left (by rw [h.length]; exact h.run_lt hu)]
    exact h.caller u hu

lemma Known.requested {keyValueList : String} {object : Option Callback} (h : Known x callers)
    (hrequest : Requested read x keyValueList x') (hobject : ∀ param, x.state = .initialized →
      requestOf keyValueList = some (.startRecognize param) → x.cell.data.listener.cb = object) :
    Known x' (if x'.cell.out.starts = x.cell.out.starts then callers else callers ++ [object]) := by
  rcases hrequest.cases with rfl | ⟨value, ret, hm, hhandled⟩ | ⟨ret, hhandled⟩
  · rw [if_pos rfl]
    exact h
  · cases hhandled with
    | unprocessed m hstate =>
      rw [if_pos rfl]
      exact h
    | rejected param ok params hstate hcheck hok =>
      have hsame : (x.setParams params).cell.out.starts = x.cell.out.starts := rfl
      rw [if_pos hsame]
      exact h.congr rfl rfl fun hrecognizing => ⟨hrecognizing, rfl⟩
    | started param params hstate hcheck =>
      rw [if_neg (by simp)]
      refine ⟨h.delivered.started object rfl rfl, fun _ => ⟨?_, fun u hu => ?_⟩⟩
      · show (callers ++ [object]).getLast? = some x.cell.data.listener.cb
        rw [getLast?_concat, hobject _ hstate hm]
      · have hlt := h.delivered.run_lt hu
        show u.run < (x.cell.out.starts ++ [value]).length - 1
        rw [length_append, length_singleton]
        omega
  · have hsame := (hhandled.frame (by simp)).2.1
    rw [if_pos hsame]
    exact h.frame hhandled (by simp) id

lemma Awaited.delivered {callback : Callback} (h : Awaited x callers)
    (hdelivered : Delivered x.cell.out callers) (hcb : x.cell.data.listener.cb = some callback)
    (result : Int) (hstarts : out'.starts = x.cell.out.starts)
    (hupdates : out'.updates = x.cell.out.updates ++ [⟨callback, result, x.cell.out.currentRun⟩]) :
    Delivered out' callers := by
  refine ⟨?_, ?_, ?_⟩
  · rw [hstarts]
    exact hdelivered.length
  · rw [hupdates, map_append, map_singleton, nodup_append]
    refine ⟨hdelivered.once, nodup_singleton _, fun run hrun run' hrun' heq => ?_⟩
    obtain ⟨u, hu, rfl⟩ := mem_map.1 hrun
    obtain rfl := mem_singleton.1 hrun'
    exact absurd (h.unreported u hu) (by rw [heq]; exact lt_irrefl _)
  · intro u hu
    rw [hupdates] at hu
    rcases mem_append.1 hu with hold | hnew
    · exact hdelivered.caller u hold
    obtain rfl := mem_singleton.1 hnew
    have hlast := h.caller
    rw [getLast?_eq_getElem?, hdelivered.length, hcb] at hlast
    exact hlast

lemma Known.completed {event : CallBackEvent} (h : Known x callers)
    (hevent : event.msgId = .enrollComplete)
    (hhandled : Handled read x (.recognizeComplete (some event)) ret x') : Known x' callers := by
  cases hhandled with
  | unprocessed m hstate => exact h
  | completed event hstate =>
    refine ⟨?_, fun hrecognizing => by cases hrecognizing⟩
    cases hcb : x.cell.data.listener.cb with
    | none =>
      refine h.delivered.congr rfl ?_
      simp [Instance.listen, Machine.Cell.listen, Listener.notify, hcb]
    | some callback =>
      refine (h.running hstate).delivered h.delivered hcb event.result rfl ?_
      simp [Instance.listen, Machine.Cell.listen, Listener.notify, hcb, hevent]

structure CallbacksKnown (w : World) : Prop where
  engine : ∀ x, w.engine = some x → Known x w.callers
  past : w.engine = none → Delivered w.past w.callers

namespace CallbacksKnown
variable {w w' : World}

lemma delivered (h : CallbacksKnown w) : Delivered w.out w.callers := by
  unfold World.out
  cases hengine : w.engine with
  | none => exact h.past hengine
  | some x => exact (h.engine x hengine).delivered

lemma resultsDelivered (h : CallbacksKnown w) : ResultsDelivered w where
  once := h.delivered.once
  caller := h.delivered.caller
  rejected callback hnone u hu heq := by
    have hcaller := mem_of_getElem? (h.delivered.caller u hu)
    rw [heq] at hcaller
    exact hnone hcaller

lemma of_engine (hengine : w'.engine = some x') (hx' : Known x' w'.callers) :
    CallbacksKnown w' where
  engine y hy := by
    cases hengine.symm.trans hy
    exact hx'
  past hnone := by
    cases hengine.symm.trans hnone

section
variable (h : CallbacksKnown w)
include h

lemma congr (hengine : w'.engine = w.engine) (hpast : w'.past = w.past)
    (hcallers : w'.callers = w.callers) : CallbacksKnown w' := by
  refine ⟨?_, ?_⟩
  · rw [hengine, hcallers]
    exact h.engine
  · rw [hengine, hpast, hcallers]
    exact h.past

lemma fresh {c : Creation} (hnone : w.engine = none)
    (hcreate : createEngine read c w.past none = some x) : Known x w.callers := by
  rw [createEngine_new hcreate]
  exact ⟨h.past hnone, fun hrecognizing => (by cases hrecognizing)⟩

lemma callback {callback : Callback} (hfree : CallbackFree w callback) (hengine : w.engine = some x)
    (hhandle : x.handle read (.setListener (some callback)) = (ret, x')) : Known x' w.callers := by
  obtain ⟨hhistory, hcb⟩ := hfree x hengine
  exact (h.engine x hengine).callbackSet (Machine.handled hhandle) hhistory hcb

lemma requested {keyValueList : String} {object : Option Callback}
    (hof : CallbackOf w keyValueList object) (hengine : w.engine = some x)
    (hrequest : Requested read x keyValueList x') : Known x' (w.request x x' object).callers :=
  (h.engine x hengine).requested hrequest fun param hstate hm => hof x param hengine hstate hm

lemma release {answer : Int} (hengine : w.engine = some x)
    (hhandle : x.handle read (.release ret) = (answer, x')) : Known x' w.callers :=
  (h.engine x hengine).frame (Machine.handled hhandle) (by simp) id

lemma step {e : Event} (hkeeps : e.KeepsCallbacks w) (hstep : Stepped read w e w') :
    CallbacksKnown w' := by
  cases hstep with
  | same c | nothingToRelease ret hengine => exact h
  | created c x hengine hcreate => exact of_engine rfl (h.fresh hengine hcreate)
  | callback callback x x' ret hengine hhandle =>
    exact of_engine rfl (h.callback hkeeps hengine hhandle)
  | noCallback x hengine | enrollNoCallback wakeupInfo x hengine hcall =>
    exact h.congr hengine.symm rfl rfl
  | requested keyValueList x x' hengine hrequest =>
    exact of_engine rfl (h.requested hkeeps hengine hrequest)
  | detached ret answer x x' hengine hfree hhandle
  | released ret answer x x' hengine hcall hfree hhandle =>
    exact of_engine rfl (h.release hengine hhandle)
  | enrollRefused c wakeupInfo object hcall | enrollEntered c wakeupInfo object x hcall hengine =>
    exact h.congr rfl rfl rfl
  | enrollCreated c wakeupInfo object x hcall hengine hcreate =>
    exact of_engine rfl (h.fresh hengine hcreate)
  | enrollCallback wakeupInfo callback x x' ret hengine hcall hhandle =>
    exact of_engine rfl (h.callback (hkeeps _ callback hcall rfl) hengine hhandle)
  | enrollStart wakeupInfo object x x' hengine hcall hrequest =>
    exact of_engine rfl (h.requested (hkeeps _ hcall) hengine hrequest)
  | completed result info x x' ret hengine hfree hhandle =>
    exact of_engine rfl ((h.engine x hengine).completed rfl (Machine.handled hhandle))
  | saved x c hengine hcompleting =>
    have hframe := World.save_frame w x c
    exact h.congr hframe.engine hframe.past hframe.callers
  | timedOut x x' ret hengine hhandle =>
    exact of_engine rfl ((h.engine x hengine).frame (Machine.handled hhandle) (by simp) id)
  | destroyed ret answer x x' hengine hreleasing hfree hhandle =>
    exact ⟨fun y hy => (by cases hy), fun _ => (h.release hengine hhandle).delivered⟩

end
end CallbacksKnown

theorem run_results_delivered (read : String → Parsed) (es : List Event) {w : World}
    (hkeeps : Along (step read) (fun w e _ => e.KeepsCallbacks w) {} es)
    (hrun : run (step read) {} es = some w) : ResultsDelivered w := by
  have hinitial : CallbacksKnown {} :=
    ⟨fun x hx => (by cases hx), fun _ => ⟨rfl, nodup_nil, fun u hu => (by cases hu)⟩⟩
  have hstep : ∀ w e t, CallbacksKnown w → Event.KeepsCallbacks w e → step read w e = some t →
      CallbacksKnown t := fun _ _ _ h hk hst => h.step hk (stepped_of_step hst)
  exact (run_invariant hstep hinitial hkeeps hrun).resultsDelivered

def dialogRequests : String → Parsed :=
  fun _ => .members (fun _ => some dialogStage) fun _ => none

theorem run_results_delivered_to_caller :
    ∃ w, run (step dialogRequests) {} [.implicitEnroll ⟨true, true, 0⟩ "request" (some 1),
        .enrollCallback, .enrollStart, .onEnrollComplete 0 ""] = some w ∧
      w.out.updates = [⟨1, 0, 0⟩] ∧ ResultsDelivered w := by
  refine ⟨_, rfl, rfl, run_results_delivered dialogRequests [.implicitEnroll ⟨true, true, 0⟩
    "request" (some 1), .enrollCallback, .enrollStart, .onEnrollComplete 0 ""] ?_ rfl⟩
  refine .of_step rfl trivial (.of_step rfl ?_ (.of_step rfl ?_ (.of_step rfl trivial trivial)))
  · intro call callback hcall hobject x hengine
    cases hcall
    cases hobject
    cases hengine
    exact ⟨rfl, fun hstate => by cases hstate⟩
  · intro call hcall x param hengine hstate hrequest
    cases hcall
    cases hengine
    rfl

theorem rejected_call_gets_result :
    ∃ w, run (step dialogRequests) {} [.implicitEnroll ⟨true, true, 0⟩ "request" (some 1),
        .enrollCallback, .enrollStart, .implicitEnroll ⟨true, true, 0⟩ "request" (some 2),
        .enrollCallback, .enrollStart, .onEnrollComplete 0 ""] = some w ∧
      w.callers = [some 1] ∧ w.out.updates = [⟨2, 0, 0⟩] ∧ ¬ ResultsDelivered w := by
  refine ⟨_, rfl, rfl, rfl, fun h => ?_⟩
  exact h.rejected 2 (by decide) ⟨2, 0, 0⟩ (by decide) rfl

end IntellVoice.Implicit.System
