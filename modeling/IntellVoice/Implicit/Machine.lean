import IntellVoice.Library.Run
import IntellVoice.Utils.StateManager

/-! `ImplicitEnrollEngine` is a `ModuleStates` machine. -/

namespace IntellVoice.Implicit
open Utils

inductive EngineState where
  | idle
  | initialized
  | recognizing
deriving DecidableEq

def maxEnrollTaskNum : Nat := 100

abbrev Callback := Nat

inductive HdiMsg where
  | initDone
  | enrollComplete
  | other (msgId : Int)
deriving DecidableEq

structure CallBackEvent where
  msgId : HdiMsg
  result : Int
  info : String := ""

structure Update where
  callback : Callback
  result : Int
  run : Nat
deriving DecidableEq

structure Backup where
  event : CallBackEvent
  run : Nat

structure Listener where
  cb : Option Callback := none
  historyEvent : Option Backup := none

namespace Listener

def setCallback (l : Listener) : Option Callback → Listener × List Update
  | none => ({ l with cb := none }, [])
  | some cb =>
    ({ l with cb := some cb },
      match l.historyEvent with
      | none => []
      | some kept => [⟨cb, kept.event.result, kept.run⟩])

def backupCallBackEvent (l : Listener) (event : CallBackEvent) (run : Nat) : Listener :=
  if event.msgId = .enrollComplete then { l with historyEvent := some ⟨event, run⟩ } else l

def notify (l : Listener) (event : CallBackEvent) (run : Nat) : Listener × List Update :=
  match l.cb with
  | none => (l.backupCallBackEvent event run, [])
  | some cb =>
    ({ l with historyEvent := none },
      if event.msgId ≠ .enrollComplete then [] else [⟨cb, event.result, run⟩])

end Listener

inductive Parsed where
  | invalid
  | noMembers
  | members (string : String → Option String) (int : String → Option Int)

def verifyStage : String := "verify"
def dialogStage : String := "dialog"

structure StartParams where
  stage : String := ""
  bundleName : String := ""
  abilityName : String := ""
  startTime : Int := 0
  endTime : Int := 0

def checkParams (root : Parsed) (f : StartParams) : Option Bool × StartParams :=
  match root with
  | .invalid => (some false, f)
  | .noMembers => (none, f)
  | .members string int =>
    match string "stage" with
    | none => (some false, f)
    | some stage =>
      let f := { f with stage := stage }
      if stage = verifyStage then
        match string "bundle_name" with
        | none => (some false, f)
        | some bundleName =>
          let f := { f with bundleName := bundleName }
          match string "ability_name" with
          | none => (some false, f)
          | some abilityName =>
            let f := { f with abilityName := abilityName }
            match int "start_time" with
            | none => (some false, f)
            | some startTime =>
              let f := { f with startTime := startTime }
              match int "end_time" with
              | none => (some false, f)
              | some endTime => (some true, { f with endTime := endTime })
      else (some (stage == dialogStage), f)

structure Parsed.Verifies (root : Parsed) (bundleName abilityName : String) : Prop where
  found : ∃ string int, root = .members string int ∧ string "stage" = some verifyStage ∧
    string "bundle_name" = some bundleName ∧ string "ability_name" = some abilityName

lemma verifies_of_checkParams {root : Parsed} {f f' : StartParams}
    (h : checkParams root f = (some true, f')) (hstage : f'.stage = verifyStage) :
    root.Verifies f'.bundleName f'.abilityName := by
  unfold checkParams at h
  split at h
  · cases h
  · cases h
  rename_i string int
  split at h
  · cases h
  rename_i stage hs
  dsimp only at h
  split at h
  · rename_i hverify
    subst hverify
    split at h
    · cases h
    rename_i bundleName hbundle
    split at h
    · cases h
    rename_i abilityName hability
    split at h
    · cases h
    split at h
    · cases h
    · cases h
      exact ⟨string, int, rfl, hs, hbundle, hability⟩
  · rename_i hother
    rw [Prod.mk.injEq] at h
    rw [← h.2] at hstage
    exact absurd hstage hother

def defaultWakeupPhrase : String := "小艺小艺"

structure Data where
  adapter : Bool := false
  listener : Listener := {}
  wakeupPhrase : String := ""
  params : StartParams := {}
  detached : Nat := 0
  released : Nat := 0

inductive PostedTask where
  | start (stage : String) (startTime endTime : Int)
  | setParameter (paramStr : String)

structure Outside where
  starts : List String := []
  updates : List Update := []
  tasks : List PostedTask := []
  releaseRequests : Nat := 0

def Outside.currentRun (o : Outside) : Nat := o.starts.length - 1

structure Cell where
  data : Data := {}
  out : Outside := {}

inductive MsgId where
  | none
  | init
  | setListener
  | startRecognize
  | setParam
  | recognizingTimeout
  | recognizeComplete
  | release
deriving DecidableEq

inductive StateMsg where
  | init (created : Bool) (attach : Int)
  | setListener (callback : Option Callback)
  | startRecognize (param : Option String)
  | setParam (param : Option String)
  | recognizingTimeout
  | recognizeComplete (event : Option CallBackEvent)
  | release (detach : Int)

def StateMsg.msgId : StateMsg → MsgId
  | .init _ _ => .init
  | .setListener _ => .setListener
  | .startRecognize _ => .startRecognize
  | .setParam _ => .setParam
  | .recognizingTimeout => .recognizingTimeout
  | .recognizeComplete _ => .recognizeComplete
  | .release _ => .release

namespace Machine

abbrev EngineHandler := Handler EngineState StateMsg Cell
abbrev EngineActions := StateActions EngineState MsgId StateMsg Cell

def answer (ret : Int) (c : Cell) : Outcome EngineState × Cell := ({ ret := ret }, c)

def goto (s : EngineState) (c : Cell) : Outcome EngineState × Cell := ({ nextState := some s }, c)

def handleInit : EngineHandler
  | .init created attach, _, c =>
    if !created then answer (-1) { c with data := { c.data with adapter := false } }
    else
      let data := { c.data with adapter := true, wakeupPhrase := defaultWakeupPhrase }
      if attach ≠ 0 then answer (-1) { c with data := { data with adapter := false } }
      else goto .initialized { c with data := data }
  | _, _, c => answer (-1) c

def handleRecognizingTimeout : EngineHandler
  | _, _, c =>
    goto .idle { c with out := { c.out with releaseRequests := c.out.releaseRequests + 1 } }

def Cell.listen (c : Cell) (l : Listener × List Update) : Cell where
  data := { c.data with listener := l.1 }
  out := { c.out with updates := c.out.updates ++ l.2 }

def handleSetListener : EngineHandler
  | .setListener (some callback), _, c =>
    answer 0 (Cell.listen c (c.data.listener.setCallback (some callback)))
  | _, _, c => answer (-1) c

def handleStart (read : String → Parsed) : EngineHandler
  | .startRecognize (some param), _, c =>
    let (ok, params) := checkParams (read param) c.data.params
    let c := { c with data := { c.data with params := params } }
    if ok = some true then
      goto .recognizing { c with out := { c.out with
        starts := c.out.starts ++ [param]
        tasks := c.out.tasks ++ [.start params.stage params.startTime params.endTime] } }
    else answer (-1) c
  | _, _, c => answer (-1) c

def handleSetParam : EngineHandler
  | .setParam (some param), _, c =>
    answer 0 { c with out := { c.out with tasks := c.out.tasks ++ [.setParameter param] } }
  | _, _, c => answer (-1) c

def handleRelease : EngineHandler
  | .release detach, _, c =>
    if !c.data.adapter then answer 0 c
    else
      ({ ret := detach, nextState := some .idle }, { c with data := { c.data with
        adapter := false, detached := c.data.detached + 1, released := c.data.released + 1 } })
  | _, _, c => answer (-1) c

def handleEnrollComplete : EngineHandler
  | .recognizeComplete (some event), _, c =>
    goto .initialized (Cell.listen c (c.data.listener.notify event c.out.currentRun))
  | _, _, c => answer (-1) c

def recognizingTimeoutUs : Int := 5 * 60 * 1000 * 1000

def initStates (read : String → Parsed) (s : EngineState) : EngineActions :=
  let all : EngineActions := (({ cfg := { type := .none } } : EngineActions)
    |>.add .setListener handleSetListener)
  match s with
  | .idle => all |>.add .init handleInit
  | .initialized => all
      |>.add .startRecognize (handleStart read)
      |>.add .setParam handleSetParam
      |>.add .release handleRelease
  | .recognizing => all
      |>.waitUntil .recognizingTimeout handleRecognizingTimeout recognizingTimeoutUs
      |>.add .recognizeComplete handleEnrollComplete
      |>.add .release handleRelease

def machine (read : String → Parsed) : ModuleStates EngineState MsgId StateMsg Cell where
  defaultState := .idle
  states s := some (initStates read s)
  msgId := StateMsg.msgId

end Machine

structure Instance where
  state : EngineState := .idle
  cell : Cell := {}

def Instance.handle (read : String → Parsed) (x : Instance) (m : StateMsg) : Int × Instance :=
  let (ret, state, cell) := (Machine.machine read).handleMsg x.state m x.cell
  (ret, ⟨state, cell⟩)

def StateMsg.Processed : StateMsg → EngineState → Prop
  | .init _ _, s => s = .idle
  | .setListener _, _ => True
  | .startRecognize _, s => s = .initialized
  | .setParam _, s => s = .initialized
  | .recognizingTimeout, s => s = .recognizing
  | .recognizeComplete _, s => s = .recognizing
  | .release _, s => s ≠ .idle

def Instance.setParams (x : Instance) (params : StartParams) : Instance :=
  { x with cell := { x.cell with data := { x.cell.data with params := params } } }

def Instance.listen (x : Instance) (l : Listener × List Update) : Instance :=
  { x with cell := Machine.Cell.listen x.cell l }

inductive Handled (read : String → Parsed) (x : Instance) : StateMsg → Int → Instance → Prop
  | unprocessed (m : StateMsg) (hstate : ¬ m.Processed x.state) : Handled read x m noProcessRet x
  | notCreated (attach : Int) (hstate : x.state = .idle) :
      Handled read x (.init false attach) (-1)
        ⟨.idle, { x.cell with data := { x.cell.data with adapter := false } }⟩
  | notAttached (attach : Int) (hstate : x.state = .idle) (hattach : attach ≠ 0) :
      Handled read x (.init true attach) (-1)
        ⟨.idle, { x.cell with data := { x.cell.data with
          adapter := false, wakeupPhrase := defaultWakeupPhrase } }⟩
  | attached (hstate : x.state = .idle) :
      Handled read x (.init true 0) 0
        ⟨.initialized, { x.cell with data := { x.cell.data with
          adapter := true, wakeupPhrase := defaultWakeupPhrase } }⟩
  | noCallback : Handled read x (.setListener none) (-1) x
  | callbackSet (callback : Callback) :
      Handled read x (.setListener (some callback)) 0
        (x.listen (x.cell.data.listener.setCallback (some callback)))
  | noStart (hstate : x.state = .initialized) : Handled read x (.startRecognize none) (-1) x
  | rejected (param : String) (ok : Option Bool) (params : StartParams)
      (hstate : x.state = .initialized)
      (hcheck : checkParams (read param) x.cell.data.params = (ok, params))
      (hok : ok ≠ some true) :
      Handled read x (.startRecognize (some param)) (-1) (x.setParams params)
  | started (param : String) (params : StartParams) (hstate : x.state = .initialized)
      (hcheck : checkParams (read param) x.cell.data.params = (some true, params)) :
      Handled read x (.startRecognize (some param)) 0
        ⟨.recognizing, { (x.setParams params).cell with out := { x.cell.out with
          starts := x.cell.out.starts ++ [param]
          tasks := x.cell.out.tasks ++ [.start params.stage params.startTime params.endTime] } }⟩
  | noParam (hstate : x.state = .initialized) : Handled read x (.setParam none) (-1) x
  | paramSet (param : String) (hstate : x.state = .initialized) :
      Handled read x (.setParam (some param)) 0
        { x with cell := { x.cell with out := { x.cell.out with
          tasks := x.cell.out.tasks ++ [.setParameter param] } } }
  | timedOut (hstate : x.state = .recognizing) :
      Handled read x .recognizingTimeout 0
        ⟨.idle, { x.cell with out := { x.cell.out with
          releaseRequests := x.cell.out.releaseRequests + 1 } }⟩
  | noEvent (hstate : x.state = .recognizing) : Handled read x (.recognizeComplete none) (-1) x
  | completed (event : CallBackEvent) (hstate : x.state = .recognizing) :
      Handled read x (.recognizeComplete (some event)) 0
        ⟨.initialized,
          (x.listen (x.cell.data.listener.notify event x.cell.out.currentRun)).cell⟩
  | alreadyDetached (detach : Int) (hstate : x.state ≠ .idle)
      (hadapter : x.cell.data.adapter = false) :
      Handled read x (.release detach) 0 x
  | detached (detach : Int) (hstate : x.state ≠ .idle) (hadapter : x.cell.data.adapter) :
      Handled read x (.release detach) detach
        ⟨if detach = 0 then .idle else x.state, { x.cell with data := { x.cell.data with
          adapter := false
          detached := x.cell.data.detached + 1
          released := x.cell.data.released + 1 } }⟩

namespace Machine
variable {read : String → Parsed} {x : Instance}

def settle (s : EngineState) (r : Outcome EngineState × Cell) : Int × Instance :=
  (r.1.ret, ⟨if r.1.ret ≠ 0 then s else r.1.nextState.getD s, r.2⟩)

lemma next_getD (s : EngineState) (o : Outcome EngineState) :
    ((machine read).next s o).getD s = if o.ret ≠ 0 then s else o.nextState.getD s := by
  unfold ModuleStates.next
  by_cases hret : o.ret ≠ 0
  · rw [if_pos hret, if_pos hret, Option.getD_none]
  rw [if_neg hret, if_neg hret]
  by_cases hsame : s = o.nextState.getD s
  · rw [if_pos hsame, Option.getD_none]
    exact hsame
  · rw [if_neg hsame]
    rfl

lemma handle_eq (m : StateMsg) :
    x.handle read m = settle x.state ((machine read).handle x.state m x.cell) := by
  simp only [Instance.handle, ModuleStates.handleMsg, next_getD, settle]

variable {y : Instance} {ret : Int} {m : StateMsg}

lemma handle_unprocessed (h : ¬ m.Processed x.state) : x.handle read m = (noProcessRet, x) := by
  obtain ⟨state, cell⟩ := x
  cases state <;> cases m <;> first | rfl | exact absurd (by simp [StateMsg.Processed]) h

def Obeys (read : String → Parsed) (x : Instance) (m : StateMsg) : Prop :=
  Handled read x m (x.handle read m).1 (x.handle read m).2

lemma obeys_of_eq (heq : x.handle read m = (ret, y)) (h : Handled read x m ret y) :
    Obeys read x m := by
  rw [Obeys, heq]
  exact h

lemma obeys_init (created : Bool) (attach : Int) (hstate : x.state = .idle) :
    Obeys read x (.init created attach) := by
  obtain ⟨state, cell⟩ := x
  obtain rfl : state = .idle := hstate
  cases created with
  | false => exact .notCreated attach rfl
  | true =>
    by_cases hattach : attach = 0
    · subst hattach
      exact .attached rfl
    refine obeys_of_eq ?_ (.notAttached attach rfl hattach)
    rw [handle_eq]
    show settle .idle (handleInit (.init true attach) .idle cell) = _
    rw [handleInit, if_neg (by decide), if_pos hattach]
    rfl

lemma obeys_start (param : String) (hstate : x.state = .initialized) :
    Obeys read x (.startRecognize (some param)) := by
  obtain ⟨state, cell⟩ := x
  obtain rfl : state = .initialized := hstate
  have hhandle : (Instance.mk .initialized cell).handle read (.startRecognize (some param)) =
      settle .initialized (handleStart read (.startRecognize (some param)) .initialized cell) :=
    handle_eq _
  obtain ⟨ok, params, hcheck⟩ : ∃ ok params, checkParams (read param) cell.data.params =
    (ok, params) := ⟨_, _, rfl⟩
  rw [handleStart, hcheck] at hhandle
  by_cases hok : ok = some true
  · subst hok
    exact obeys_of_eq hhandle (.started param params rfl hcheck)
  dsimp only at hhandle
  rw [if_neg hok] at hhandle
  exact obeys_of_eq hhandle (.rejected param ok params rfl hcheck hok)

lemma obeys_release (detach : Int) (hstate : x.state ≠ .idle) : Obeys read x (.release detach) := by
  obtain ⟨state, cell⟩ := x
  have hhandle : (Instance.mk state cell).handle read (.release detach) =
      settle state (handleRelease (.release detach) state cell) := by
    rw [handle_eq]
    cases state with
    | idle => exact absurd rfl hstate
    | initialized | recognizing => rfl
  cases hadapter : cell.data.adapter with
  | false =>
    rw [handleRelease, hadapter] at hhandle
    exact obeys_of_eq hhandle (.alreadyDetached detach hstate hadapter)
  | true =>
    rw [handleRelease, hadapter] at hhandle
    refine obeys_of_eq (hhandle.trans ?_) (.detached detach hstate hadapter)
    by_cases hzero : detach = 0 <;> simp [settle, hzero]

lemma obeys_processed (h : m.Processed x.state) : Obeys read x m := by
  cases m with
  | init created attach => exact obeys_init created attach h
  | setListener callback =>
    obtain ⟨state, cell⟩ := x
    cases callback with
    | none => cases state <;> exact .noCallback
    | some callback => cases state <;> exact .callbackSet callback
  | startRecognize param =>
    cases param with
    | none =>
      obtain ⟨state, cell⟩ := x
      obtain rfl : state = .initialized := h
      exact .noStart rfl
    | some param => exact obeys_start param h
  | setParam param =>
    obtain ⟨state, cell⟩ := x
    obtain rfl : state = .initialized := h
    cases param with
    | none => exact .noParam rfl
    | some param => exact .paramSet param rfl
  | recognizingTimeout =>
    obtain ⟨state, cell⟩ := x
    obtain rfl : state = .recognizing := h
    exact .timedOut rfl
  | recognizeComplete event =>
    obtain ⟨state, cell⟩ := x
    obtain rfl : state = .recognizing := h
    cases event with
    | none => exact .noEvent rfl
    | some event => exact .completed event rfl
  | release detach => exact obeys_release detach h

lemma handled (heq : x.handle read m = (ret, y)) : Handled read x m ret y := by
  have hobeys : Obeys read x m := by
    by_cases h : m.Processed x.state
    · exact obeys_processed h
    · exact obeys_of_eq (handle_unprocessed h) (.unprocessed m h)
  rw [Obeys, heq] at hobeys
  exact hobeys

end Machine

lemma Handled.frame {read : String → Parsed} {x x' : Instance} {m : StateMsg} {ret : Int}
    (h : Handled read x m ret x') (hm : ∀ param, m ≠ .startRecognize param) :
    x'.cell.data.params = x.cell.data.params ∧ x'.cell.out.starts = x.cell.out.starts ∧
      (x'.state = .recognizing → x.state = .recognizing) := by
  cases h with
  | noStart hstate => exact absurd rfl (hm none)
  | rejected param ok params hstate hcheck hok | started param params hstate hcheck =>
    exact absurd rfl (hm (some param))
  | detached detach hstate hadapter =>
    refine ⟨rfl, rfl, fun hafter => ?_⟩
    by_cases hzero : ret = 0
    · simp [hzero] at hafter
    · simpa [hzero] using hafter
  | notCreated attach hstate | notAttached attach hstate hattach | attached hstate
  | timedOut hstate | completed event hstate => exact ⟨rfl, rfl, fun hafter => by cases hafter⟩
  | _ => exact ⟨rfl, rfl, id⟩

def StateMsg.Notifies : StateMsg → Prop
  | .setListener _ => True
  | .recognizeComplete _ => True
  | _ => False

lemma Handled.listener_frame {read : String → Parsed} {x x' : Instance} {m : StateMsg} {ret : Int}
    (h : Handled read x m ret x') (hm : ¬ m.Notifies) :
    x'.cell.data.listener = x.cell.data.listener ∧ x'.cell.out.updates = x.cell.out.updates := by
  cases h with
  | callbackSet callback | completed event hstate => exact absurd trivial hm
  | _ => exact ⟨rfl, rfl⟩

end IntellVoice.Implicit
