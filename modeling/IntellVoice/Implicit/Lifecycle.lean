import IntellVoice.Implicit.System

/-! The adapter should be there exactly while the machine is not idle. -/

namespace IntellVoice.Implicit.System
open Transition
variable {read : String → Parsed}

def Paired (x : Instance) : Prop := x.cell.data.adapter ↔ x.state ≠ .idle

structure Counted (x : Instance) : Prop where
  paired : Paired x
  held : x.cell.data.adapter → x.cell.data.detached = 0 ∧ x.cell.data.released = 0
  gone : x.cell.data.adapter = false → x.cell.data.detached = 1 ∧ x.cell.data.released = 1

def KeepsPaired (x : Instance) : StateMsg → Prop
  | .recognizingTimeout => x.state ≠ .recognizing
  | .release detach => x.cell.data.adapter → detach = 0
  | _ => True

variable {x x' : Instance} {m : StateMsg} {ret : Int}

lemma Counted.congr (h : Counted x) (hadapter : x'.cell.data.adapter = x.cell.data.adapter)
    (hstate : x'.state = .idle ↔ x.state = .idle)
    (hdetached : x'.cell.data.detached = x.cell.data.detached)
    (hreleased : x'.cell.data.released = x.cell.data.released) : Counted x' where
  paired := by
    rw [Paired, hadapter]
    exact h.paired.trans (not_congr hstate.symm)
  held := by
    rw [hadapter, hdetached, hreleased]
    exact h.held
  gone := by
    rw [hadapter, hdetached, hreleased]
    exact h.gone

lemma Counted.kept (h : Counted x') {P : Prop} (hp : P) : (Paired x' ↔ P) ∧ (P → Counted x') :=
  ⟨iff_of_true h.paired hp, fun _ => h⟩

lemma Counted.handled (h : Counted x) (hinit : ∀ created attach, m ≠ .init created attach)
    (hhandled : Handled read x m ret x') :
    (Paired x' ↔ KeepsPaired x m) ∧ (KeepsPaired x m → Counted x') := by
  cases hhandled with
  | unprocessed m hstate =>
    refine h.kept ?_
    cases m with
    | recognizingTimeout => exact hstate
    | release detach => exact fun hadapter => absurd (h.paired.1 hadapter) hstate
    | _ => trivial
  | notCreated attach hstate => exact absurd rfl (hinit false attach)
  | notAttached attach hstate hattach => exact absurd rfl (hinit true attach)
  | attached hstate => exact absurd rfl (hinit true 0)
  | noCallback | noStart hstate | noParam hstate | noEvent hstate => exact h.kept trivial
  | callbackSet callback | rejected param ok params hstate hcheck hok | paramSet param hstate =>
    refine Counted.kept ?_ trivial
    exact h.congr rfl Iff.rfl rfl rfl
  | started param params hstate hcheck | completed event hstate =>
    refine Counted.kept ?_ trivial
    exact h.congr rfl (by simp [hstate]) rfl rfl
  | timedOut hstate =>
    -- the machine is idle now and the adapter is still there
    have hadapter : x.cell.data.adapter := h.paired.2 (by simp [hstate])
    have hkeeps : ¬ KeepsPaired x .recognizingTimeout := fun hkeeps => hkeeps hstate
    exact ⟨iff_of_false (fun hpaired => hpaired.1 hadapter rfl) hkeeps, fun hk => absurd hk hkeeps⟩
  | alreadyDetached detach hstate hadapter =>
    exact h.kept fun htrue => by rw [hadapter] at htrue; cases htrue
  | detached detach hstate hadapter =>
    obtain ⟨hdetached, hreleased⟩ := h.held hadapter
    by_cases hzero : ret = 0
    · subst hzero
      refine Counted.kept ⟨?_, ?_, ?_⟩ fun _ => rfl
      · simp [Paired]
      · simp
      · simp [hdetached, hreleased]
    -- the adapter is given up and the state stays
    have hkeeps : ¬ KeepsPaired x (.release ret) := fun hkeeps => hzero (hkeeps hadapter)
    refine ⟨iff_of_false (fun hpaired => ?_) hkeeps, fun hk => absurd hk hkeeps⟩
    have hnone := hpaired.2 (by simp [hzero, hstate])
    cases hnone

lemma Counted.released (h : Counted x) (hhandled : Handled read x (.release ret) answer x') :
    x'.cell.data.detached = 1 ∧ x'.cell.data.released = 1 := by
  cases hhandled with
  | unprocessed m hstate =>
    refine h.gone ?_
    cases hadapter : x.cell.data.adapter with
    | false => rfl
    | true => exact absurd (h.paired.1 hadapter) hstate
  | alreadyDetached detach hstate hadapter => exact h.gone hadapter
  | detached detach hstate hadapter =>
    obtain ⟨hdetached, hreleased⟩ := h.held hadapter
    exact ⟨by simp [hdetached], by simp [hreleased]⟩

lemma counted_of_createEngine {c : Creation} {past : Outside}
    (h : createEngine read c past none = some x) : Counted x := by
  rw [createEngine_new h]
  exact ⟨by simp [Paired, Instance.fresh], fun _ => ⟨rfl, rfl⟩, fun hnone => (by cases hnone)⟩

lemma Counted.requested {keyValueList : String} (h : Counted x)
    (hrequest : Requested read x keyValueList x') : Counted x' := by
  rcases hrequest.cases with rfl | ⟨value, ret, -, hhandled⟩ | ⟨ret, hhandled⟩
  · exact h
  · exact (h.handled (by simp) hhandled).2 trivial
  · exact (h.handled (by simp) hhandled).2 trivial

variable {w w' : World}

structure AdaptersKept (w : World) : Prop where
  paired : ∀ x, w.engine = some x → Paired x
  removed : ∀ d ∈ w.removed, d.detached = 1 ∧ d.released = 1

/-- No recognition times out, and the adapter detaches without error. -/
def Event.KeepsAdapters (w : World) : Event → Prop
  | .recognizingTimeout => ∀ x, w.engine = some x → x.state ≠ .recognizing
  | .detach ret => ∀ x, w.engine = some x → x.cell.data.adapter → ret = 0
  | .release ret => ∀ x, w.engine = some x → x.cell.data.adapter → ret = 0
  | _ => True

structure AdaptersCounted (w : World) : Prop where
  counted : ∀ x, w.engine = some x → Counted x
  removed : ∀ d ∈ w.removed, d.detached = 1 ∧ d.released = 1

def Owes (w' : World) (P : Prop) : Prop := (AdaptersKept w' ↔ P) ∧ (P → AdaptersCounted w')

section
variable (h : AdaptersCounted w)
include h

lemma AdaptersCounted.kept : AdaptersKept w :=
  ⟨fun x hx => (h.counted x hx).paired, h.removed⟩

lemma AdaptersCounted.owes {P : Prop} (hp : P) : Owes w P :=
  ⟨iff_of_true h.kept hp, fun _ => h⟩

lemma AdaptersCounted.replace (hengine : w'.engine = some x') (hremoved : w'.removed = w.removed)
    (hx' : Counted x') : AdaptersCounted w' where
  counted y hy := by
    rw [hengine] at hy
    cases hy
    exact hx'
  removed := by
    rw [hremoved]
    exact h.removed

lemma AdaptersCounted.replaced (hengine : w'.engine = some x') (hremoved : w'.removed = w.removed)
    (hx' : Counted x') : Owes w' True :=
  (h.replace hengine hremoved hx').owes trivial

lemma AdaptersCounted.handled (hengine : w.engine = some x)
    (hinit : ∀ created attach, m ≠ .init created attach) (hhandle : x.handle read m = (ret, x'))
    (hengine' : w'.engine = some x') (hremoved : w'.removed = w.removed) :
    Owes w' (KeepsPaired x m) := by
  obtain ⟨hiff, hcounted⟩ := (h.counted x hengine).handled hinit (Machine.handled hhandle)
  refine ⟨⟨fun hkept => hiff.1 (hkept.paired x' hengine'), fun hkeeps => ?_⟩, fun hkeeps => ?_⟩
  · exact (h.replace hengine' hremoved (hcounted hkeeps)).kept
  · exact h.replace hengine' hremoved (hcounted hkeeps)

end

lemma Owes.congr {P Q : Prop} (h : Owes w P) (hiff : P ↔ Q) : Owes w Q := by
  rw [← hiff]
  exact h

lemma forall_engine_iff {P : Instance → Prop} (hengine : w.engine = some x) :
    P x ↔ ∀ y, w.engine = some y → P y := by
  rw [hengine]
  exact ⟨fun hx y hy => by cases hy; exact hx, fun hall => hall x rfl⟩

lemma AdaptersCounted.step {e : Event} (h : AdaptersCounted w) (hstep : Stepped read w e w') :
    Owes w' (e.KeepsAdapters w) := by
  cases hstep with
  | same c => exact h.owes trivial
  | created c x hengine hcreate | enrollCreated c wakeupInfo object x hcall hengine hcreate =>
    exact h.replaced rfl rfl (counted_of_createEngine hcreate)
  | callback callback x x' ret hengine hhandle
  | enrollCallback wakeupInfo callback x x' ret hengine hcall hhandle
  | completed result info x x' ret hengine hfree hhandle =>
    exact h.handled hengine (by simp) hhandle rfl rfl
  | noCallback x hengine | enrollNoCallback wakeupInfo x hengine hcall =>
    exact h.replaced rfl rfl (h.counted x hengine)
  | requested keyValueList x x' hengine hrequest
  | enrollStart wakeupInfo object x x' hengine hcall hrequest =>
    exact h.replaced rfl rfl ((h.counted x hengine).requested hrequest)
  | detached ret answer x x' hengine hfree hhandle
  | released ret answer x x' hengine hcall hfree hhandle =>
    refine Owes.congr ?_
      (forall_engine_iff (P := fun x => x.cell.data.adapter → ret = 0) hengine)
    exact h.handled hengine (by simp) hhandle rfl rfl
  | enrollRefused c wakeupInfo object hcall | enrollEntered c wakeupInfo object x hcall hengine =>
    refine AdaptersCounted.owes ?_ trivial
    exact ⟨h.counted, h.removed⟩
  | saved x c hengine hcompleting =>
    have hframe := World.save_frame w x c
    exact h.replaced (hframe.engine.trans hengine) hframe.removed (h.counted x hengine)
  | timedOut x x' ret hengine hhandle =>
    refine Owes.congr ?_ (forall_engine_iff (P := fun x => x.state ≠ .recognizing) hengine)
    exact h.handled hengine (by simp) hhandle rfl rfl
  | nothingToRelease ret hengine =>
    exact h.owes fun x hx => by rw [hengine] at hx; cases hx
  | destroyed ret answer x x' hengine hreleasing hfree hhandle =>
    refine AdaptersCounted.owes ⟨fun y hy => (by cases hy), fun d hd => ?_⟩ trivial
    rcases List.mem_append.1 hd with hold | hnew
    · exact h.removed d hold
    · obtain rfl := List.mem_singleton.1 hnew
      exact (h.counted x hengine).released (Machine.handled hhandle)

theorem run_adapters_kept_iff (read : String → Parsed) (es : List Event) :
    Along (step read) (fun _ _ t => AdaptersKept t) {} es ↔
      Along (step read) (fun w e _ => e.KeepsAdapters w) {} es := by
  have hinitial : AdaptersCounted {} := ⟨fun x hx => (by cases hx), fun d hd => (by cases hd)⟩
  refine along_iff (P := fun _ => True) (fun w e t hw _ hstep => ?_) hinitial fun _ _ => trivial
  exact hw.step (stepped_of_step hstep)

theorem timeout_leaves_adapter :
    ∃ w, run (step fun _ => .members (fun _ => some dialogStage) fun _ => none) {}
        [.implicitEnroll ⟨true, true, 0⟩ "request" (some 1), .enrollCallback, .enrollStart,
          .recognizingTimeout, .release 0, .destroy 0] = some w ∧
      w.engine = none ∧ (w.removed.map fun d => (d.adapter, d.detached, d.released)) =
        [(true, 0, 0)] ∧ ¬ AdaptersKept w := by
  refine ⟨_, rfl, rfl, rfl, fun h => ?_⟩
  have hcount := (h.removed _ List.mem_cons_self).1
  cases hcount

end IntellVoice.Implicit.System
