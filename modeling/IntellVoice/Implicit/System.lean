import IntellVoice.Implicit.Request

/-! Executors, clients and the timer thread use the implicit enroll engine. -/

namespace IntellVoice.Implicit.System
open Transition Utils Option

inductive Saved where
  | enrollResult (isSucc : Bool)
  | wakeupVersion
  | wakeupEngineBundleName (name : String)
  | wakeupEngineAbilityName (name : String)
  | wakeupPhrase (phrase : String)
deriving DecidableEq

structure Save where
  saved : Saved
  request : Option String
deriving DecidableEq

inductive Phase where
  | stage
  | version
  | bundleName
  | abilityName
  | phrase

structure Completion where
  result : Int
  phase : Phase
  request : Option String

structure EnrollCall where
  wakeupInfo : String
  object : Option Callback
  callbackSet : Bool

/-- The engine with the calls, completions and saves around it. -/
structure World where
  engine : Option Instance := none
  past : Outside := {}
  call : Option EnrollCall := none
  completing : Option Completion := none
  releasing : Bool := false
  saves : List Save := []
  callers : List (Option Callback) := []
  removed : List Data := []

inductive Event where
  | createEngine (c : Creation)
  | setCallback (object : Option Callback)
  | setParameter (keyValueList : String)
  | detach (ret : Int)
  | implicitEnroll (c : Creation) (wakeupInfo : String) (object : Option Callback)
  | enrollCallback
  | enrollStart
  | onEnrollComplete (result : Int) (info : String)
  | save
  | recognizingTimeout
  | release (ret : Int)
  | destroy (ret : Int)

variable (read : String → Parsed)

namespace World
variable (w : World)

def out : Outside :=
  match w.engine with
  | none => w.past
  | some x => x.cell.out

def setEngine (x : Instance) : World := { w with engine := some x }

def create (c : Creation) : World :=
  match createEngine read c w.past w.engine with
  | none => w
  | some x => w.setEngine x

def request (x x' : Instance) (object : Option Callback) : World :=
  { w.setEngine x' with
    callers := if x'.cell.out.starts = x.cell.out.starts then w.callers else w.callers ++ [object] }

def save (x : Instance) (c : Completion) : World :=
  let next (saved : Saved) (completing : Option Completion) : World :=
    { w with saves := w.saves ++ [⟨saved, c.request⟩], completing := completing }
  match c.phase with
  | .stage =>
    if x.cell.data.params.stage = verifyStage then
      next (.enrollResult (c.result == 0))
        (if c.result = 0 then some { c with phase := .version } else none)
    else { w with completing := none }
  | .version => next .wakeupVersion (some { c with phase := .bundleName })
  | .bundleName =>
    next (.wakeupEngineBundleName x.cell.data.params.bundleName)
      (some { c with phase := .abilityName })
  | .abilityName =>
    next (.wakeupEngineAbilityName x.cell.data.params.abilityName)
      (some { c with phase := .phrase })
  | .phrase => next (.wakeupPhrase x.cell.data.wakeupPhrase) none

structure SaveFrame (w w' : World) : Prop where
  engine : w'.engine = w.engine
  past : w'.past = w.past
  callers : w'.callers = w.callers
  removed : w'.removed = w.removed

lemma save_frame (x : Instance) (c : Completion) : w.SaveFrame (w.save x c) := by
  unfold save
  cases c.phase with
  | stage =>
    dsimp only
    split <;> exact ⟨rfl, rfl, rfl, rfl⟩
  | version | bundleName | abilityName | phrase => exact ⟨rfl, rfl, rfl, rfl⟩

def complete (x : Instance) (result : Int) (info : String) : World :=
  let (ret, x') := x.handle read (.recognizeComplete (some ⟨.enrollComplete, result, info⟩))
  { w.setEngine x' with
    completing := some ⟨result, .stage, if ret = 0 then x.cell.out.starts.getLast? else none⟩ }

def remove (x : Instance) : World :=
  { w with
    engine := none, past := x.cell.out, releasing := false, removed := w.removed ++ [x.cell.data] }

end World

def step (w : World) : Event → Option World
  | .createEngine c => if w.releasing then none else some (w.create read c)
  | .setCallback object => w.engine.map fun x => w.setEngine (setCallback read x object)
  | .setParameter keyValueList =>
    w.engine.bind fun x =>
      (setParameter read true x keyValueList).map fun r => w.request x r.2 none
  | .detach ret =>
    if w.completing.isSome then none
    else w.engine.map fun x => w.setEngine (x.handle read (.release ret)).2
  | .implicitEnroll c wakeupInfo object =>
    if w.call.isSome || w.releasing then none
    else
      some { w.create read c with
        call := (createEngine read c w.past w.engine).map fun _ => ⟨wakeupInfo, object, false⟩ }
  | .enrollCallback =>
    match w.engine, w.call with
    | some x, some ⟨wakeupInfo, object, false⟩ =>
      some { w.setEngine (setCallback read x object) with
        call := some ⟨wakeupInfo, object, true⟩ }
    | _, _ => none
  | .enrollStart =>
    match w.engine, w.call with
    | some x, some ⟨wakeupInfo, object, true⟩ =>
      (setParameter read true x (startEnroll wakeupInfo)).map fun r =>
        { w.request x r.2 object with call := none }
    | _, _ => none
  | .onEnrollComplete result info =>
    if w.completing.isSome then none else w.engine.map fun x => w.complete read x result info
  | .save =>
    match w.engine, w.completing with
    | some x, some c => some (w.save x c)
    | _, _ => none
  | .recognizingTimeout =>
    w.engine.map fun x => w.setEngine (x.handle read .recognizingTimeout).2
  | .release ret =>
    if w.call.isSome || w.releasing || w.completing.isSome then none
    else
      match w.engine with
      | none => some w
      | some x => some { w.setEngine (x.handle read (.release ret)).2 with releasing := true }
  | .destroy ret =>
    if !w.releasing || w.completing.isSome then none
    else w.engine.map fun x => w.remove (x.handle read (.release ret)).2

inductive Requested (x : Instance) (keyValueList : String) (x' : Instance) : Prop
  | none (heq : x' = x)
  | sent (m : StateMsg) (ret : Int) (hm : requestOf keyValueList = some m)
      (hhandle : x.handle read m = (ret, x'))

inductive Stepped (w : World) : Event → World → Prop
  | same (c : Creation) : Stepped w (.createEngine c) w
  | created (c : Creation) (x : Instance) (hengine : w.engine = none)
      (hcreate : createEngine read c w.past none = some x) :
      Stepped w (.createEngine c) (w.setEngine x)
  | callback (callback : Callback) (x x' : Instance) (ret : Int) (hengine : w.engine = some x)
      (hhandle : x.handle read (.setListener (some callback)) = (ret, x')) :
      Stepped w (.setCallback (some callback)) (w.setEngine x')
  | noCallback (x : Instance) (hengine : w.engine = some x) :
      Stepped w (.setCallback none) (w.setEngine x)
  | requested (keyValueList : String) (x x' : Instance) (hengine : w.engine = some x)
      (hrequest : Requested read x keyValueList x') :
      Stepped w (.setParameter keyValueList) (w.request x x' none)
  | detached (ret answer : Int) (x x' : Instance) (hengine : w.engine = some x)
      (hfree : w.completing = none)
      (hhandle : x.handle read (.release ret) = (answer, x')) :
      Stepped w (.detach ret) (w.setEngine x')
  | enrollRefused (c : Creation) (wakeupInfo : String) (object : Option Callback)
      (hcall : w.call = none) :
      Stepped w (.implicitEnroll c wakeupInfo object) { w with call := none }
  | enrollEntered (c : Creation) (wakeupInfo : String) (object : Option Callback) (x : Instance)
      (hcall : w.call = none) (hengine : w.engine = some x) :
      Stepped w (.implicitEnroll c wakeupInfo object)
        { w with call := some ⟨wakeupInfo, object, false⟩ }
  | enrollCreated (c : Creation) (wakeupInfo : String) (object : Option Callback) (x : Instance)
      (hcall : w.call = none) (hengine : w.engine = none)
      (hcreate : createEngine read c w.past none = some x) :
      Stepped w (.implicitEnroll c wakeupInfo object)
        { w.setEngine x with call := some ⟨wakeupInfo, object, false⟩ }
  | enrollCallback (wakeupInfo : String) (callback : Callback) (x x' : Instance) (ret : Int)
      (hengine : w.engine = some x) (hcall : w.call = some ⟨wakeupInfo, some callback, false⟩)
      (hhandle : x.handle read (.setListener (some callback)) = (ret, x')) :
      Stepped w .enrollCallback
        { w.setEngine x' with call := some ⟨wakeupInfo, some callback, true⟩ }
  | enrollNoCallback (wakeupInfo : String) (x : Instance) (hengine : w.engine = some x)
      (hcall : w.call = some ⟨wakeupInfo, none, false⟩) :
      Stepped w .enrollCallback { w.setEngine x with call := some ⟨wakeupInfo, none, true⟩ }
  | enrollStart (wakeupInfo : String) (object : Option Callback) (x x' : Instance)
      (hengine : w.engine = some x) (hcall : w.call = some ⟨wakeupInfo, object, true⟩)
      (hrequest : Requested read x (startEnroll wakeupInfo) x') :
      Stepped w .enrollStart { w.request x x' object with call := none }
  | completed (result : Int) (info : String) (x x' : Instance) (ret : Int)
      (hengine : w.engine = some x) (hfree : w.completing = none)
      (hhandle : x.handle read (.recognizeComplete (some ⟨.enrollComplete, result, info⟩)) =
        (ret, x')) :
      Stepped w (.onEnrollComplete result info)
        { w.setEngine x' with
          completing := some
            ⟨result, .stage, if ret = 0 then x.cell.out.starts.getLast? else none⟩ }
  | saved (x : Instance) (c : Completion) (hengine : w.engine = some x)
      (hcompleting : w.completing = some c) : Stepped w .save (w.save x c)
  | timedOut (x x' : Instance) (ret : Int) (hengine : w.engine = some x)
      (hhandle : x.handle read .recognizingTimeout = (ret, x')) :
      Stepped w .recognizingTimeout (w.setEngine x')
  | nothingToRelease (ret : Int) (hengine : w.engine = none) : Stepped w (.release ret) w
  | released (ret answer : Int) (x x' : Instance) (hengine : w.engine = some x)
      (hcall : w.call = none) (hfree : w.completing = none)
      (hhandle : x.handle read (.release ret) = (answer, x')) :
      Stepped w (.release ret) { w.setEngine x' with releasing := true }
  | destroyed (ret answer : Int) (x x' : Instance) (hengine : w.engine = some x)
      (hreleasing : w.releasing) (hfree : w.completing = none)
      (hhandle : x.handle read (.release ret) = (answer, x')) :
      Stepped w (.destroy ret) (w.remove x')

variable {read} {w w' : World} {c : Creation} {x x' : Instance} {keyValueList : String}

lemma requested_of_setParameter {answered : Bool} {ret : Int}
    (h : setParameter read answered x keyValueList = some (ret, x')) :
    Requested read x keyValueList x' := by
  unfold setParameter at h
  split at h
  · cases h
    exact .none rfl
  rename_i m hm
  obtain ⟨-, h⟩ := ite_none_left_eq_some.1 h
  rw [some.injEq, Prod.mk.injEq] at h
  exact .sent m (x.handle read m).1 hm (Prod.ext rfl h.2)

lemma Requested.cases (h : Requested read x keyValueList x') : x' = x ∨
      (∃ value ret, requestOf keyValueList = some (.startRecognize (some value)) ∧
        Handled read x (.startRecognize (some value)) ret x') ∨
      ∃ ret, Handled read x (.setParam (some keyValueList)) ret x' := by
  cases h with
  | none heq => exact .inl heq
  | sent m ret hm hhandle =>
    have hhandled := Machine.handled hhandle
    rcases requestOf_cases hm with ⟨value, rfl⟩ | rfl
    · exact .inr (.inl ⟨value, ret, hm, hhandled⟩)
    · exact .inr (.inr ⟨ret, hhandled⟩)

lemma setEngine_self (h : w.engine = some x) : w.setEngine x = w := by
  rw [World.setEngine, ← h]

lemma createEngine_some {past : Outside} {y : Instance}
    (h : createEngine read c past (some x) = some y) : y = x := by
  unfold createEngine at h
  split at h
  · cases h
  · exact (some.inj h).symm

inductive Created (read : String → Parsed) (w : World) (c : Creation) :
    Option Instance → World → Prop
  | refused : Created read w c none w
  | found (x : Instance) (hengine : w.engine = some x) : Created read w c (some x) w
  | made (x : Instance) (hengine : w.engine = none)
      (hcreate : createEngine read c w.past none = some x) :
      Created read w c (some x) (w.setEngine x)

lemma created_of_create (read : String → Parsed) (w : World) (c : Creation) :
    Created read w c (createEngine read c w.past w.engine) (w.create read c) := by
  unfold World.create
  cases hcreate : createEngine read c w.past w.engine with
  | none => exact .refused
  | some x =>
    cases hengine : w.engine with
    | none => exact .made x hengine (hengine ▸ hcreate)
    | some y =>
      rw [hengine] at hcreate
      obtain rfl := createEngine_some hcreate
      have hsame := setEngine_self hengine
      show Created read w c (some x) (w.setEngine x)
      rw [hsame]
      exact .found x hengine

lemma stepped_implicitEnroll {wakeupInfo : String} {object : Option Callback}
    (h : step read w (.implicitEnroll c wakeupInfo object) = some w') :
    Stepped read w (.implicitEnroll c wakeupInfo object) w' := by
  obtain ⟨hfree, h⟩ := ite_none_left_eq_some.1 h
  have hcall : w.call = none := by
    cases hcall : w.call with
    | none => rfl
    | some call => simp [hcall] at hfree
  have hcreated := created_of_create read w c
  generalize createEngine read c w.past w.engine = returned at h hcreated
  generalize w.create read c = v at h hcreated
  cases h
  cases hcreated with
  | refused => exact .enrollRefused c wakeupInfo object hcall
  | found x hengine => exact .enrollEntered c wakeupInfo object x hcall hengine
  | made x hengine hcreate => exact .enrollCreated c wakeupInfo object x hcall hengine hcreate

lemma stepped_of_step {e : Event} (h : step read w e = some w') : Stepped read w e w' := by
  cases e with
  | createEngine c =>
    obtain ⟨-, h⟩ := ite_none_left_eq_some.1 h
    have hcreated := created_of_create read w c
    rw [some.inj h] at hcreated
    generalize createEngine read c w.past w.engine = returned at hcreated
    cases hcreated with
    | refused | found x hengine => exact .same c
    | made x hengine hcreate => exact .created c x hengine hcreate
  | setCallback object =>
    obtain ⟨x, hengine, rfl⟩ := map_eq_some_iff.1 h
    cases object with
    | none => exact .noCallback x hengine
    | some callback => exact .callback callback x _ _ hengine rfl
  | setParameter keyValueList =>
    obtain ⟨x, hengine, h⟩ := bind_eq_some_iff.1 h
    obtain ⟨⟨ret, x'⟩, hset, rfl⟩ := map_eq_some_iff.1 h
    exact .requested keyValueList x x' hengine (requested_of_setParameter hset)
  | detach ret =>
    obtain ⟨hfree, h⟩ := ite_none_left_eq_some.1 h
    obtain ⟨x, hengine, rfl⟩ := map_eq_some_iff.1 h
    exact .detached ret _ x _ hengine (by simpa using hfree) rfl
  | implicitEnroll c wakeupInfo object => exact stepped_implicitEnroll h
  | enrollCallback =>
    simp only [step] at h
    split at h
    · rename_i x wakeupInfo object hengine hcall
      cases h
      cases object with
      | none => exact .enrollNoCallback wakeupInfo x hengine hcall
      | some callback => exact .enrollCallback wakeupInfo callback x _ _ hengine hcall rfl
    · cases h
  | enrollStart =>
    simp only [step] at h
    split at h
    · rename_i x wakeupInfo object hengine hcall
      obtain ⟨⟨ret, x'⟩, hset, rfl⟩ := map_eq_some_iff.1 h
      exact .enrollStart wakeupInfo object x x' hengine hcall (requested_of_setParameter hset)
    · cases h
  | onEnrollComplete result info =>
    obtain ⟨hfree, h⟩ := ite_none_left_eq_some.1 h
    obtain ⟨x, hengine, rfl⟩ := map_eq_some_iff.1 h
    exact .completed result info x _ _ hengine (by simpa using hfree) rfl
  | save =>
    simp only [step] at h
    split at h
    · rename_i x c hengine hcompleting
      cases h
      exact .saved x c hengine hcompleting
    · cases h
  | recognizingTimeout =>
    obtain ⟨x, hengine, rfl⟩ := map_eq_some_iff.1 h
    exact .timedOut x _ _ hengine rfl
  | release ret =>
    obtain ⟨hfree, h⟩ := ite_none_left_eq_some.1 h
    cases hengine : w.engine with
    | none =>
      rw [hengine] at h
      cases h
      exact .nothingToRelease ret hengine
    | some x =>
      rw [hengine] at h
      cases h
      simp only [Bool.or_eq_true, not_or, isSome_iff_ne_none, ne_eq, not_not] at hfree
      exact .released ret _ x _ hengine hfree.1.1 hfree.2 rfl
  | destroy ret =>
    obtain ⟨hfree, h⟩ := ite_none_left_eq_some.1 h
    obtain ⟨x, hengine, rfl⟩ := map_eq_some_iff.1 h
    simp only [Bool.or_eq_true, not_or, isSome_iff_ne_none, ne_eq, not_not,
      Bool.not_eq_true'] at hfree
    exact .destroyed ret _ x _ hengine (by simpa using hfree.1) hfree.2 rfl

end IntellVoice.Implicit.System
