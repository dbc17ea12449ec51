import Mathlib.Data.List.Basic

/-! A thread inside `wait` is asleep, notified, or has woken up by itself. -/

structure CondVar (ω : Type*) where
  sleeping : List ω := []
  notified : List ω := []
  woken : List ω := []

namespace CondVar
variable {ω : Type*} {cv cv' : CondVar ω} {w : ω} {n : Nat}

def sleep (cv : CondVar ω) (w : ω) : CondVar ω := { cv with sleeping := cv.sleeping ++ [w] }

def notifyOne (cv : CondVar ω) (i : Nat) : Option (CondVar ω) :=
  match cv.sleeping with
  | [] => some cv
  | _ => cv.sleeping[i]?.map fun w =>
      { cv with sleeping := cv.sleeping.eraseIdx i, notified := cv.notified ++ [w] }

def notifyAll (cv : CondVar ω) : CondVar ω :=
  { cv with sleeping := [], notified := cv.notified ++ cv.sleeping }

def wake (cv : CondVar ω) (f : ω → Option ω) (i : Nat) : Option (CondVar ω) :=
  (cv.sleeping[i]?.bind f).map fun w =>
    { cv with sleeping := cv.sleeping.eraseIdx i, woken := cv.woken ++ [w] }

def leave (cv : CondVar ω) (wasNotified : Bool) (i : Nat) : Option (ω × CondVar ω) :=
  if wasNotified then
    cv.notified[i]?.map fun w => (w, { cv with notified := cv.notified.eraseIdx i })
  else cv.woken[i]?.map fun w => (w, { cv with woken := cv.woken.eraseIdx i })

def Covered (cv : CondVar ω) (n : Nat) : Prop := cv.sleeping ≠ [] → n ≤ cv.notified.length

lemma covered_zero (cv : CondVar ω) : cv.Covered 0 := fun _ => Nat.zero_le _

lemma Covered.mono (h : cv.Covered n) {m : Nat} (hle : m ≤ n) : cv.Covered m :=
  fun hsleeping => Nat.le_trans hle (h hsleeping)

lemma Covered.eq_zero (h : cv.Covered n) (hsleeping : cv.sleeping ≠ [])
    (hnotified : cv.notified = []) : n = 0 := by
  have hle := h hsleeping
  rw [hnotified] at hle
  exact Nat.le_zero.1 hle

lemma notifyOne_isSome (cv : CondVar ω) : (cv.notifyOne 0).isSome := by
  unfold notifyOne
  cases cv.sleeping <;> rfl

lemma Covered.notifyOne {i : Nat} (h : cv.Covered n) (hnotify : cv.notifyOne i = some cv') :
    cv'.Covered (n + 1) := by
  unfold CondVar.notifyOne at hnotify
  split at hnotify
  · rename_i hnobody
    cases hnotify
    exact fun hsleeping => absurd hnobody hsleeping
  rename_i hsleeping
  obtain ⟨w, -, rfl⟩ := Option.map_eq_some_iff.1 hnotify
  intro _
  rw [List.length_append, List.length_singleton]
  exact Nat.succ_le_succ (h fun hnobody => hsleeping hnobody)

lemma notifyAll_covered (cv : CondVar ω) (n : Nat) : cv.notifyAll.Covered n :=
  fun hsleeping => absurd rfl hsleeping

lemma Covered.wake {f : ω → Option ω} {i : Nat} (h : cv.Covered n)
    (hwake : cv.wake f i = some cv') : cv'.Covered n := by
  obtain ⟨w, hw, rfl⟩ := Option.map_eq_some_iff.1 hwake
  intro _
  apply h
  intro hnobody
  rw [hnobody] at hw
  cases hw

lemma wake_of_nobody (hnobody : cv.sleeping = []) (f : ω → Option ω) (i : Nat) :
    cv.wake f i = none := by
  simp [wake, hnobody]

lemma sleeping_leave {wasNotified : Bool} {i : Nat}
    (hleave : cv.leave wasNotified i = some (w, cv')) : cv'.sleeping = cv.sleeping := by
  unfold leave at hleave
  split at hleave
  all_goals
    obtain ⟨w', -, heq⟩ := Option.map_eq_some_iff.1 hleave
    cases heq
    rfl

lemma Covered.leave {wasNotified : Bool} {i : Nat} (h : cv.Covered n)
    (hleave : cv.leave wasNotified i = some (w, cv')) : cv'.Covered (n - 1) := by
  unfold CondVar.leave at hleave
  split at hleave
  · obtain ⟨w', hw', heq⟩ := Option.map_eq_some_iff.1 hleave
    cases heq
    intro hsleeping
    have hlen := h hsleeping
    have hi := (List.getElem?_eq_some_iff.1 hw').1
    rw [List.length_eraseIdx_of_lt hi]
    omega
  · obtain ⟨w', -, heq⟩ := Option.map_eq_some_iff.1 hleave
    cases heq
    exact fun hsleeping => Nat.le_trans (Nat.sub_le n 1) (h hsleeping)

end CondVar
