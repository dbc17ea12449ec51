import IntellVoice.Implicit.Request
import IntellVoice.Library.BoundedQueue

/-! The executor of `ImplicitEnrollEngine` is started by `INIT_DONE`. -/

namespace IntellVoice.Implicit

inductive EngineTask where
  | start
  | setParameter (param : String)
  | release
  | onEnrollComplete (result : Int) (info : String)

structure InitDone where
  result : Int
  threadCreated : Bool

/-- What the HDI answers to a new engine: `failed` when its adapter is not created or attached,
otherwise the `INIT_DONE` it is still to deliver, if any. -/
inductive InitOutcome where
  | failed
  | attached (initDone : Option InitDone)

def maxTaskNum : Nat := 2048

/-- The engine's state machine with the executor that `INIT_DONE` starts. -/
structure Engine where
  machine : Instance := {}
  threadStarted : Bool := false
  initDone : Option InitDone := none
  queue : BoundedQueue EngineTask maxEnrollTaskNum := ∅

inductive WaitKind where
  | setParam (param : String)
  | detach
  | destroy

def WaitKind.task : WaitKind → EngineTask
  | .setParam param => .setParameter param
  | .detach => .release
  | .destroy => .release

/-- A call of `AddSyncTask`, before and after its task is `queued`. -/
structure Waiter where
  kind : WaitKind
  queued : Bool

inductive Request where
  | startEnroll (param : String)
  | clearData (param : String)
  | releaseEngine

/-- The service executor: while it is `waiting` for the engine it serves no request. -/
structure Service where
  engine : Option Engine := none
  waiting : Option Waiter := none
  enrollResult : Bool := false
  queue : BoundedQueue Request maxTaskNum := ∅

variable (read : String → Parsed)

namespace Engine

def message (m : StateMsg) (e : Engine) : Engine :=
  { e with machine := (e.machine.handle read m).2 }

def start (param : String) (e : Engine) : Engine :=
  let (ret, x) := e.machine.handle read (.startRecognize (some param))
  if ret = 0 then { e with machine := x, queue := e.queue.offer .start }
  else { e with machine := x }

end Engine

namespace Service
variable (s : Service)

def await (e : Engine) (kind : WaitKind) : Service :=
  match e.queue.push? kind.task with
  | some queue =>
    { s with engine := some { e with queue := queue }, waiting := some ⟨kind, true⟩ }
  | none => { s with engine := some e, waiting := some ⟨kind, false⟩ }

def msgHandleLocked : Bool :=
  match s.waiting with
  | some ⟨.setParam _, _⟩ => true
  | _ => false

def withEngine (outcome : InitOutcome) (use : Service → Engine → Service) : Service :=
  match s.engine with
  | some e => use s e
  | none =>
    match outcome with
    | .failed => s.await {} .destroy
    | .attached initDone =>
      use { s with enrollResult := false } { machine := .fresh {}, initDone := initDone }

def handleSetParam (param : String) (e : Engine) : Service :=
  match e.machine.state with
  | .initialized => s.await e (.setParam param)
  | _ => { s with engine := some e }

def handleRequest (outcome : InitOutcome) : Request → Service
  | .startEnroll param =>
    s.withEngine outcome fun s e => { s with engine := some (e.start read param) }
  | .clearData param => s.withEngine outcome fun s e => s.handleSetParam param e
  | .releaseEngine =>
    match s.engine with
    | none => s
    | some e => s.await e .detach

def wake (e : Engine) : Service :=
  match s.waiting with
  | some ⟨.setParam param, _⟩ =>
    { s with engine := some (e.message read (.setParam (some param))), waiting := none }
  | some ⟨.detach, _⟩ => s.await e .destroy
  | some ⟨.destroy, _⟩ => { s with engine := none, waiting := none }
  | none => { s with engine := some e }

def runEngineTask (detach : Int) (e : Engine) : EngineTask → Option Service
  | .start => some { s with engine := some e }
  | .setParameter _ => some (s.wake read e)
  | .release =>
    if s.msgHandleLocked then none else some (s.wake read (e.message read (.release detach)))
  | .onEnrollComplete result info =>
    if s.msgHandleLocked then none
    else
      let e := e.message read (.recognizeComplete (some ⟨.enrollComplete, result, info⟩))
      some { s with
        engine := some e
        enrollResult :=
          if e.machine.cell.data.params.stage = verifyStage then result == 0
          else s.enrollResult }

end Service

inductive Event where
  | request (request : Request)
  | serve (outcome : InitOutcome)
  | pushWaiting
  | initDone
  | enrollComplete (result : Int) (info : String)
  | recognizingTimeout
  | runEngine (detach : Int)

def Service.push? (s : Service) (request : Request) : Option Service :=
  (s.queue.push? request).map fun queue => { s with queue := queue }

def step (s : Service) : Event → Option Service
  | .request request => s.push? request
  | .serve outcome =>
    if s.waiting.isSome then none
    else
      s.queue.pop?.map fun (request, queue) =>
        { s with queue := queue }.handleRequest read outcome request
  | .pushWaiting =>
    match s.engine, s.waiting with
    | some e, some ⟨kind, false⟩ =>
      (e.queue.push? kind.task).map fun queue =>
        { s with engine := some { e with queue := queue }, waiting := some ⟨kind, true⟩ }
    | _, _ => none
  | .initDone =>
    match s.engine with
    | none => none
    | some e =>
      match e.initDone with
      | none => none
      | some done =>
        if done.result ≠ 0 then
          { s with engine := some { e with initDone := none } }.push? .releaseEngine
        else
          some { s with engine := some { e with
            initDone := none
            threadStarted := e.threadStarted || done.threadCreated } }
  | .enrollComplete result info =>
    s.engine.map fun e =>
      { s with engine := some { e with queue := e.queue.offer (.onEnrollComplete result info) } }
  | .recognizingTimeout =>
    match s.engine with
    | none => none
    | some e =>
      match e.machine.state with
      | .recognizing =>
        { s with engine := some (e.message read .recognizingTimeout) }.push? .releaseEngine
      | _ => none
  | .runEngine detach =>
    match s.engine with
    | none => none
    | some e =>
      if e.threadStarted then
        e.queue.pop?.bind fun (task, queue) =>
          s.runEngineTask read detach { e with queue := queue } task
      else none

end IntellVoice.Implicit
