import Mathlib.Logic.Function.Basic
import IntellVoice.Utils.TimerMgr

/-! A `ModuleStates` machine: the handlers and the timer of each state. -/

namespace IntellVoice.Utils

def noProcessRet : Int := -2

structure Outcome (σ : Type*) where
  ret : Int := 0
  nextState : Option σ := none
  resets : Nat := 0

abbrev Handler (σ μ δ : Type*) := μ → σ → δ → Outcome σ × δ

structure StateActions (σ ι μ δ : Type*) where
  cfg : TimerCfg ι
  actions : ι → Option (Handler σ μ δ) := fun _ => none

namespace StateActions
variable {σ ι μ δ : Type*} [DecidableEq ι]

def add (a : StateActions σ ι μ δ) (msgid : ι) (handler : Handler σ μ δ) : StateActions σ ι μ δ :=
  { a with actions := Function.update a.actions msgid (some handler) }

def waitUntil (a : StateActions σ ι μ δ) (type : ι) (handler : Handler σ μ δ) (delayUs : Int) :
    StateActions σ ι μ δ :=
  add { a with cfg := { type, delayUs } } type handler

end StateActions

structure ModuleStates (σ ι μ δ : Type*) where
  defaultState : σ
  states : σ → Option (StateActions σ ι μ δ)
  msgId : μ → ι

namespace ModuleStates
variable {σ ι μ δ : Type*} (M : ModuleStates σ ι μ δ)

def handle (s : σ) (m : μ) (d : δ) : Outcome σ × δ :=
  match M.states s with
  | none => ({ ret := -1 }, d)
  | some a =>
    match a.actions (M.msgId m) with
    | none => ({ ret := noProcessRet }, d)
    | some handler => handler m s d

variable {a : StateActions σ ι μ δ} {m : μ} {s : σ}

lemma handle_of_none (hs : M.states s = some a) (hactions : a.actions (M.msgId m) = none) (d : δ) :
    M.handle s m d = ({ ret := noProcessRet }, d) := by
  simp [handle, hs, hactions]

lemma handle_of_actions {f : Handler σ μ δ} (hs : M.states s = some a)
    (hactions : a.actions (M.msgId m) = some f) (d : δ) : M.handle s m d = f m s d := by
  simp [handle, hs, hactions]

def timer (s : σ) : Option (TimerCfg ι) :=
  match M.states s with
  | none => none
  | some a => if a.cfg.delayUs ≠ 0 then some a.cfg else none

variable [DecidableEq σ]

def next (s : σ) (o : Outcome σ) : Option σ :=
  if o.ret ≠ 0 then none
  else
    let nextState := o.nextState.getD s
    if s = nextState then none
    else if (M.states nextState).isSome then some nextState
    else none

def handleMsg (s : σ) (m : μ) (d : δ) : Int × σ × δ :=
  let (o, d') := M.handle s m d
  (o.ret, (M.next s o).getD s, d')

lemma handleMsg_state (s : σ) (m : μ) (d : δ) : (M.handleMsg s m d).2.1 = s ∨
      (M.handle s m d).1.nextState = some (M.handleMsg s m d).2.1 := by
  show (M.next s (M.handle s m d).1).getD s = s ∨
    (M.handle s m d).1.nextState = some ((M.next s (M.handle s m d).1).getD s)
  generalize (M.handle s m d).1 = o
  unfold next
  cases hnext : o.nextState with
  | none => simp
  | some st =>
    simp only [Option.getD_some]
    split
    · exact .inl rfl
    split
    · exact .inl rfl
    split
    · exact .inr rfl
    · exact .inl rfl

lemma handleMsg_state_of_ret {d : δ} (hret : (M.handleMsg s m d).1 ≠ 0) :
    (M.handleMsg s m d).2.1 = s := by
  have hnext : M.next s (M.handle s m d).1 = none := if_pos hret
  show (M.next s (M.handle s m d).1).getD s = s
  rw [hnext, Option.getD_none]

end ModuleStates

inductive Stage (σ ι : Type*) where
  | resetting (left : Nat) (next : Option σ)
  | killing (timerId : Nat) (cfg : TimerCfg ι) (left : Nat) (next : Option σ)
  | setting (cfg : TimerCfg ι) (left : Nat) (next : Option σ)
  | leaving (next : σ)
  | entering (next : σ)

structure Call (σ ι : Type*) where
  byTimer : Bool
  stage : Stage σ ι

def Call.remaining {σ ι : Type*} (byTimer : Bool) : Nat → Option σ → Option (Call σ ι)
  | left + 1, next => some ⟨byTimer, .resetting left next⟩
  | 0, some next => some ⟨byTimer, .leaving next⟩
  | 0, none => none

structure Timed (σ ι δ : Type*) where
  now : Int := 0
  currState : σ
  data : δ
  timers : TimerMgr ι := {}
  timerId : σ → Option Nat := fun _ => none
  inHand : Option (TimerItem ι) := none
  call : Option (Call σ ι) := none
  since : Int := 0

inductive TimedEvent (μ : Type*) where
  | tick (us : Nat)
  | expire
  | deliver (m : μ)
  | call (m : μ)
  | proceed

namespace Timed
variable {σ ι μ δ : Type*} [DecidableEq σ] (M : ModuleStates σ ι μ δ)

def begin (s : Timed σ ι δ) (byTimer : Bool) (m : μ) : Timed σ ι δ :=
  let (o, d) := M.handle s.currState m s.data
  { s with data := d, call := Call.remaining byTimer o.resets (M.next s.currState o) }

def rearm (s : Timed σ ι δ) (byTimer : Bool) (left : Nat) (next : Option σ)
    (armed : Option Nat × TimerMgr ι) : Timed σ ι δ :=
  { s with
    timers := armed.2
    timerId := Function.update s.timerId s.currState armed.1
    since := s.now
    call := Call.remaining byTimer left next }

def enter (s : Timed σ ι δ) (next : σ) : Timed σ ι δ :=
  let entered := { s with currState := next, since := s.now, call := none }
  match M.timer next with
  | none => entered
  | some cfg =>
    let (r, timers) := s.timers.setTimer s.now cfg
    { entered with timers, timerId := Function.update s.timerId next r }

def proceed (s : Timed σ ι δ) (byTimer : Bool) : Stage σ ι → Timed σ ι δ
  | .resetting left next =>
    match M.timer s.currState, s.timerId s.currState with
    | some cfg, some timerId =>
      match s.timers.resetSole s.now timerId cfg.delayUs with
      | some armed => s.rearm byTimer left next armed
      | none =>
        { s with since := s.now, call := some ⟨byTimer, .killing timerId cfg left next⟩ }
    -- no valid timer to reset
    | _, _ => { s with since := s.now, call := Call.remaining byTimer left next }
  | .killing timerId cfg left next =>
    { s with timers := s.timers.killTimer timerId, call := some ⟨byTimer, .setting cfg left next⟩ }
  | .setting cfg left next => s.rearm byTimer left next (s.timers.setTimer s.now cfg)
  | .leaving next =>
    match s.timerId s.currState with
    | none => { s with call := some ⟨byTimer, .entering next⟩ }
    | some timerId =>
      { s with
        timers := s.timers.killTimer timerId
        timerId := Function.update s.timerId s.currState none
        call := some ⟨byTimer, .entering next⟩ }
  | .entering next => s.enter M next

def timerThreadFree (s : Timed σ ι δ) : Bool :=
  s.inHand.isNone && s.call.all (!·.byTimer)

def step [DecidableEq ι] (s : Timed σ ι δ) : TimedEvent μ → Option (Timed σ ι δ)
  | .tick us => some { s with now := s.now + us }
  | .expire =>
    if s.timerThreadFree then
      (s.timers.expire s.now).map fun (it, timers) => { s with timers, inHand := some it }
    else none
  | .deliver m =>
    match s.call, s.inHand with
    | none, some it =>
      if M.msgId m = it.type then some ({ s with inHand := none }.begin M true m) else none
    | _, _ => none
  | .call m =>
    match s.call with
    | none => some (s.begin M false m)
    | some _ => none
  | .proceed => s.call.map fun c => s.proceed M c.byTimer c.stage

def initial (d : δ) (status : TimerStatus) : Timed σ ι δ where
  currState := M.defaultState
  data := d
  timers := { status }

end Timed
end IntellVoice.Utils
