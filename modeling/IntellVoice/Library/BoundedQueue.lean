import Mathlib

/-! A first-in first-out queue that never holds more than `capacity` elements. -/

structure BoundedQueue (α : Type*) (capacity : Nat) where
  items : List α
  bounded : items.length ≤ capacity

namespace BoundedQueue
variable {α : Type*} {capacity : Nat}

def empty : BoundedQueue α capacity := ⟨[], Nat.zero_le _⟩

instance : EmptyCollection (BoundedQueue α capacity) := ⟨empty⟩

instance : Membership α (BoundedQueue α capacity) := ⟨fun q a => a ∈ q.items⟩

def isFull (q : BoundedQueue α capacity) : Bool := decide (capacity ≤ q.items.length)

def push? (q : BoundedQueue α capacity) (a : α) : Option (BoundedQueue α capacity) :=
  if h : q.items.length < capacity then some ⟨q.items ++ [a], by simp; omega⟩ else none

def offer (q : BoundedQueue α capacity) (a : α) : BoundedQueue α capacity := (q.push? a).getD q

def pop? (q : BoundedQueue α capacity) : Option (α × BoundedQueue α capacity) :=
  match h : q.items with
  | [] => none
  | a :: rest => some (a, ⟨rest, by have hb := q.bounded; simp [h] at hb; omega⟩)

def drop (q : BoundedQueue α capacity) (n : Nat) : BoundedQueue α capacity :=
  ⟨q.items.drop n, (List.drop_sublist n _).length_le.trans q.bounded⟩

variable {q : BoundedQueue α capacity}

lemma mem_def {a : α} : a ∈ q ↔ a ∈ q.items := Iff.rfl

variable {q' : BoundedQueue α capacity}

lemma items_push? {a : α} (h : q.push? a = some q') : q'.items = q.items ++ [a] := by
  unfold push? at h
  split at h
  · cases h
    rfl
  · cases h

lemma items_offer (q : BoundedQueue α capacity) (a : α) :
    (q.offer a).items = q.items ∨ (q.offer a).items = q.items ++ [a] := by
  unfold offer
  cases hpush : q.push? a with
  | none => exact .inl rfl
  | some q' => exact .inr (items_push? hpush)

lemma mem_offer_of_mem {a b : α} (h : a ∈ q) : a ∈ q.offer b := by
  unfold offer
  cases hpush : q.push? b with
  | none => exact h
  | some q' =>
    rw [Option.getD_some, mem_def, items_push? hpush]
    exact List.mem_append_left _ h

lemma mem_of_push? {a b : α} (hpush : q.push? b = some q') (h : a ∈ q) : a ∈ q' := by
  rw [mem_def, items_push? hpush]
  exact List.mem_append_left _ h

lemma mem_push?_self {a : α} (hpush : q.push? a = some q') : a ∈ q' := by
  rw [mem_def, items_push? hpush]
  simp

lemma mem_offer_self (hroom : q.isFull = false) (a : α) : a ∈ q.offer a := by
  have hlt : q.items.length < capacity := by simpa [isFull] using hroom
  simp [offer, push?, hlt, mem_def]

lemma items_pop? {a : α} (hpop : q.pop? = some (a, q')) : q.items = a :: q'.items := by
  unfold pop? at hpop
  split at hpop
  · cases hpop
  rename_i hitems
  cases hpop
  exact hitems

end BoundedQueue
