import IntellVoice.Library.Run

/-! `QueueUtil` is a bounded queue that is available between `Init` and `Uninit`. -/

namespace IntellVoice.Utils

structure QueueUtil (α : Type*) where
  isAvailable : Bool := false
  capacity : Nat := 0
  queue : List α := []

namespace QueueUtil
variable {α : Type*}

def init (capacity : Nat) : QueueUtil α := { isAvailable := true, capacity }

def push (q : QueueUtil α) (element : α) (isWait : Bool) : Option (Bool × QueueUtil α) :=
  if !q.isAvailable then some (false, q)
  else if q.capacity ≤ q.queue.length then if isWait then none else some (false, q)
  else some (true, { q with queue := q.queue ++ [element] })

def pop (q : QueueUtil α) : Option (Option α × QueueUtil α) :=
  if !q.isAvailable then some (none, q)
  else
    match q.queue with
    | [] => none
    | element :: rest => some (some element, { q with queue := rest })

def popLen (q : QueueUtil α) (maxLen : Nat) : Option (List α × QueueUtil α) :=
  if !q.isAvailable then none
  else some (q.queue.take maxLen, { q with queue := q.queue.drop maxLen })

def uninit (_ : QueueUtil α) : QueueUtil α := {}

variable {q q' : QueueUtil α} {element : α}

lemma push_refused {isWait : Bool} (h : q.push element isWait = some (false, q')) : q' = q := by
  unfold push at h
  split at h
  · cases h
    rfl
  split at h
  · split at h
    · cases h
    · cases h
      rfl
  · cases h

lemma push_accepted {isWait : Bool} (h : q.push element isWait = some (true, q')) :
    q.isAvailable ∧ q' = { q with queue := q.queue ++ [element] } := by
  unfold push at h
  split at h
  · cases h
  rename_i havailable
  split at h
  · split at h <;> cases h
  · cases h
    exact ⟨by simpa using havailable, rfl⟩

lemma pop_none (h : q.pop = some (none, q')) : q.isAvailable = false ∧ q' = q := by
  unfold pop at h
  split at h
  · rename_i havailable
    cases h
    exact ⟨by simpa using havailable, rfl⟩
  · split at h <;> cases h

lemma pop_some (h : q.pop = some (some element, q')) :
    q.isAvailable ∧ q.queue = element :: q'.queue ∧ q' = { q with queue := q'.queue } := by
  unfold pop at h
  split at h
  · cases h
  rename_i havailable
  split at h
  · cases h
  rename_i rest hqueue
  cases h
  exact ⟨by simpa using havailable, hqueue, rfl⟩

lemma push_room {isWait : Bool} (h : q.push element isWait = some (true, q')) :
    q.queue.length < q.capacity := by
  unfold push at h
  split at h
  · cases h
  split at h
  · split at h <;> cases h
  · omega

lemma push_waits {isWait : Bool} (h : q.push element isWait = none) :
    q.isAvailable ∧ q.capacity ≤ q.queue.length := by
  unfold push at h
  split at h
  · cases h
  rename_i havailable
  split at h
  · rename_i hfull
    exact ⟨by simpa using havailable, hfull⟩
  · cases h

lemma push_refused_full {isWait : Bool} (h : q.push element isWait = some (false, q'))
    (havailable : q.isAvailable) : q.capacity ≤ q.queue.length := by
  unfold push at h
  rw [if_neg (by simp [havailable])] at h
  split at h
  · rename_i hfull
    exact hfull
  · cases h

lemma pop_empty (h : q.pop = none) : q.isAvailable ∧ q.queue = [] := by
  unfold pop at h
  split at h
  · cases h
  rename_i havailable
  split at h
  · rename_i hqueue
    exact ⟨by simpa using havailable, hqueue⟩
  · cases h

end QueueUtil

end IntellVoice.Utils
