import Mathlib

/-! The wakeup engine of the `ONLY_SECOND_STAGE` build. -/

namespace IntellVoice.Wakeup.HighPower

-- what the allocations and the engine host answer during one creation
structure Attempt where
  instance_ : Bool
  adapterListener : Bool
  adapter : Bool
  callback : Bool
deriving DecidableEq

structure HighPowerWakeupEngine where
  adapterListener : Bool
  adapter : Bool := false
  callbackSet : Bool := false
deriving DecidableEq

namespace HighPowerWakeupEngine

def Ready (e : HighPowerWakeupEngine) : Prop := e.adapter ∧ e.callbackSet

def setCallbackInner (a : Attempt) (e : HighPowerWakeupEngine) : Bool × HighPowerWakeupEngine :=
  if !e.adapter then (false, e)
  else if !e.adapterListener then (false, e)
  else if !a.callback then (false, e)
  else (true, { e with callbackSet := true })

-- an `int` returned from a function of type `bool`
def boolOf (ret : Int) : Bool := ret ≠ 0

def init (a : Attempt) (e : HighPowerWakeupEngine) : Bool × HighPowerWakeupEngine :=
  let e := { e with adapter := a.adapter }
  if !e.adapter then (boolOf (-1), e)
  else
    let (ret, e) := e.setCallbackInner a
    if !ret then (boolOf (-1), e) else (true, e)

end HighPowerWakeupEngine

open HighPowerWakeupEngine

def createInstance (a : Attempt) : Option HighPowerWakeupEngine :=
  if !a.instance_ then none
  else
    let (ret, e) := init a { adapterListener := a.adapterListener }
    if !ret then none else some e

-- the engine returned, and the one that `engines_` then holds
def createEngineInner (a : Attempt) (engine : Option HighPowerWakeupEngine) :
    Option HighPowerWakeupEngine × Option HighPowerWakeupEngine :=
  match engine with
  | some e => (some e, some e)
  | none =>
    match createInstance a with
    | none => (none, none)
    | some e => (some e, some e)

def creations (as : List Attempt) : Option HighPowerWakeupEngine :=
  as.foldl (fun engine a => (createEngineInner a engine).2) none

def Attempt.Succeeds (a : Attempt) : Prop :=
  a.instance_ ∧ a.adapterListener ∧ a.adapter ∧ a.callback

end IntellVoice.Wakeup.HighPower
