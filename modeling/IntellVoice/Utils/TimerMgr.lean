import Mathlib.Data.List.Basic

/-! `TimerMgr` keeps timers ordered by expiry and numbers them. -/

namespace IntellVoice.Utils

structure TimerCfg (ι : Type*) where
  type : ι
  delayUs : Int := 0
  cookie : Int := 0

structure TimerItem (ι : Type*) where
  timerId : Nat
  type : ι
  cookie : Int
  tgtUs : Int

inductive TimerStatus where
  | init
  | started
  | toQuit
deriving DecidableEq

def maxTimerNum : Nat := 10

structure TimerMgr (ι : Type*) where
  status : TimerStatus := .started
  idFlags : List Bool := List.replicate maxTimerNum false
  itemQueue : List (TimerItem ι) := []

namespace TimerMgr
variable {ι : Type*}

def allocId (mgr : TimerMgr ι) : Option (Nat × TimerMgr ι) :=
  (mgr.idFlags.findIdx? (· == false)).map fun i =>
    (i, { mgr with idFlags := mgr.idFlags.set i true })

def releaseId (mgr : TimerMgr ι) (timerId : Nat) : TimerMgr ι :=
  { mgr with idFlags := mgr.idFlags.set timerId false }

def insertItem (item : TimerItem ι) : List (TimerItem ι) → List (TimerItem ι)
  | [] => [item]
  | it :: rest => if it.tgtUs < item.tgtUs then it :: insertItem item rest else item :: it :: rest

def setTimer (mgr : TimerMgr ι) (now : Int) (cfg : TimerCfg ι) : Option Nat × TimerMgr ι :=
  if mgr.status ≠ .started then (none, mgr)
  else
    match mgr.allocId with
    | none => (none, mgr)
    | some (i, mgr') =>
      (some i, { mgr' with
        itemQueue := insertItem ⟨i, cfg.type, cfg.cookie, now + cfg.delayUs⟩ mgr'.itemQueue })

def eraseItem (timerId : Nat) : List (TimerItem ι) → List (TimerItem ι)
  | [] => []
  | it :: rest => if it.timerId = timerId then rest else it :: eraseItem timerId rest

def killTimer (mgr : TimerMgr ι) (timerId : Nat) : TimerMgr ι :=
  if mgr.itemQueue.any (·.timerId == timerId) then
    { mgr.releaseId timerId with itemQueue := eraseItem timerId mgr.itemQueue }
  else mgr

def resetSole (mgr : TimerMgr ι) (now : Int) (timerId : Nat) (delayUs : Int) :
    Option (Option Nat × TimerMgr ι) :=
  match mgr.itemQueue with
  | [it] =>
    if it.timerId ≠ timerId then some (none, mgr)
    else some (some timerId, { mgr with itemQueue := [{ it with tgtUs := now + delayUs }] })
  | _ => none

def expire (mgr : TimerMgr ι) (now : Int) : Option (TimerItem ι × TimerMgr ι) :=
  if mgr.status ≠ .started then none
  else
    match mgr.itemQueue with
    | [] => none
    | it :: rest =>
      if now < it.tgtUs then none
      else some (it, { mgr.releaseId it.timerId with itemQueue := rest })

variable {mgr : TimerMgr ι}

lemma itemQueue_setTimer (hempty : mgr.itemQueue = []) (now : Int) (cfg : TimerCfg ι) :
    (mgr.setTimer now cfg).2.itemQueue = [] ∨ ∃ i, (mgr.setTimer now cfg).1 = some i ∧
        (mgr.setTimer now cfg).2.itemQueue = [⟨i, cfg.type, cfg.cookie, now + cfg.delayUs⟩] := by
  unfold setTimer
  split
  · exact .inl hempty
  cases halloc : mgr.allocId with
  | none => exact .inl hempty
  | some alloc =>
    have hqueue : alloc.2.itemQueue = mgr.itemQueue := by
      unfold allocId at halloc
      obtain ⟨i, -, rfl⟩ := Option.map_eq_some_iff.1 halloc
      rfl
    refine .inr ⟨alloc.1, rfl, ?_⟩
    show insertItem _ alloc.2.itemQueue = _
    rw [hqueue, hempty]
    rfl

lemma itemQueue_killTimer_nil (hempty : mgr.itemQueue = []) (timerId : Nat) :
    (mgr.killTimer timerId).itemQueue = [] := by
  unfold killTimer
  rw [hempty]
  exact hempty

variable {delayUs now : Int} {it : TimerItem ι} {mgr' : TimerMgr ι}

lemma itemQueue_killTimer_self (hsole : mgr.itemQueue = [it]) :
    (mgr.killTimer it.timerId).itemQueue = [] := by
  simp [killTimer, hsole, eraseItem]

lemma resetSole_eq_none {timerId : Nat} (hsole : mgr.resetSole now timerId delayUs = none) :
    mgr.itemQueue ≠ [it] := by
  intro hqueue
  unfold resetSole at hsole
  rw [hqueue] at hsole
  revert hsole
  show (if _ then some _ else some _) ≠ none
  split <;> exact Option.some_ne_none _

lemma itemQueue_resetSole {r : Option Nat} (hqueue : mgr.itemQueue = [it])
    (hsole : mgr.resetSole now it.timerId delayUs = some (r, mgr')) :
    r = some it.timerId ∧ mgr'.itemQueue = [{ it with tgtUs := now + delayUs }] := by
  simp only [resetSole, hqueue, ne_eq, not_true_eq_false, if_false, Option.some.injEq,
    Prod.mk.injEq] at hsole
  obtain ⟨hr, hmgr⟩ := hsole
  exact ⟨hr.symm, by rw [← hmgr]⟩

lemma resetSole_nil (hempty : mgr.itemQueue = []) (now : Int) (timerId : Nat) (delayUs : Int) :
    mgr.resetSole now timerId delayUs = none := by
  simp [resetSole, hempty]

lemma expire_eq_some (hexpire : mgr.expire now = some (it, mgr')) :
    it.tgtUs ≤ now ∧ mgr.itemQueue = it :: mgr'.itemQueue := by
  unfold expire at hexpire
  split at hexpire
  · cases hexpire
  cases hqueue : mgr.itemQueue with
  | nil =>
    rw [hqueue] at hexpire
    cases hexpire
  | cons first rest =>
    rw [hqueue] at hexpire
    simp only [Option.ite_none_left_eq_some, Option.some.injEq, Prod.mk.injEq] at hexpire
    obtain ⟨hdue, rfl, rfl⟩ := hexpire
    exact ⟨by omega, rfl⟩

end TimerMgr
end IntellVoice.Utils
