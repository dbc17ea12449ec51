import IntellVoice.Library.History
import IntellVoice.Trigger.Recognition

/-! The helper passes state on to the module as keys and values. -/

namespace IntellVoice.Trigger
open History
variable {M : Type*}

def Effect.param (key : String) : Effect → Option String
  | .setParams key' value => if key' = key then some value else none
  | _ => none

def Io.lastParam (key : String) (io : Io M) : Option String :=
  latest (Effect.param key) io.log

lemma Io.lastParam_call {key : String} (io : Io M) {e : Effect} (conn : M)
    (hnone : e.param key = none) : (io.call e conn).lastParam key = io.lastParam key := by
  show latest (Effect.param key) (io.log ++ [e]) = _
  rw [latest_concat, hnone]
  rfl

lemma Io.lastParam_getModule (mod : ConnectorModule M) (key : String) (io : Io M) :
    (io.getModule mod).2.lastParam key = io.lastParam key :=
  congrArg (latest (Effect.param key)) (io.log_getModule mod)

lemma Io.lastParam_setParameter (mod : ConnectorModule M) (key value : String) (io : Io M) :
    (io.setParameterForInputPipe mod key value).2.lastParam key =
      if (io.getModule mod).1 then some value else io.lastParam key := by
  cases hmodule : (io.getModule mod).1 with
  | false =>
    simp only [Io.setParameterForInputPipe, hmodule, Bool.not_false, if_true]
    exact io.lastParam_getModule mod key
  | true =>
    simp only [Io.setParameterForInputPipe, hmodule, Bool.not_true, Bool.false_eq_true, if_false,
      if_true]
    show latest (Effect.param key) ((io.getModule mod).2.log ++ [.setParams key value]) = _
    rw [latest_concat, Effect.param, if_pos rfl]
    rfl

lemma Io.lastParam_setParameter_ne (mod : ConnectorModule M) {key key' : String}
    (value : String) (io : Io M) (hne : key ≠ key') :
    (io.setParameterForInputPipe mod key value).2.lastParam key' = io.lastParam key' := by
  rcases io.log_setParameterForInputPipe mod key value with hlog | hlog
  · exact congrArg (latest (Effect.param key')) hlog
  show latest (Effect.param key') (io.setParameterForInputPipe mod key value).2.log = _
  rw [hlog, latest_concat, Effect.param, if_neg hne]
  rfl

end IntellVoice.Trigger
