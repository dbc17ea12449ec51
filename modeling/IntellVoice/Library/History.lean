import Mathlib.Data.List.Induction

/-! A history is a list that grows at its end. -/

namespace History
open List
variable {α β : Type*} {f : α → Option β}

def latest (f : α → Option β) (history : List α) : Option β := history.reverse.findSome? f

@[simp] lemma latest_nil : latest f [] = none := rfl

lemma latest_append (history more : List α) :
    latest f (history ++ more) = (latest f more).or (latest f history) := by
  unfold latest
  rw [reverse_append, findSome?_append]

lemma latest_concat (history : List α) (a : α) :
    latest f (history ++ [a]) = (f a).or (latest f history) := by
  have hone : latest f [a] = f a := by
    cases h : f a <;> simp [latest, h]
  rw [latest_append, hone]

lemma latest_eq_none_iff {history : List α} :
    latest f history = none ↔ ∀ a ∈ history, f a = none := by
  simp [latest, findSome?_eq_none_iff]

lemma exists_of_latest_eq_some {history : List α} {b : β} (h : latest f history = some b) :
    ∃ a ∈ history, f a = some b := by
  obtain ⟨a, ha, hfa⟩ := exists_of_findSome?_eq_some h
  exact ⟨a, mem_reverse.1 ha, hfa⟩

lemma latest_congr {g : α → Option β} {history : List α} (h : ∀ a ∈ history, f a = g a) :
    latest f history = latest g history := by
  have hsearch : ∀ l : List α, (∀ a ∈ l, f a = g a) → l.findSome? f = l.findSome? g := by
    intro l hl
    induction l with
    | nil => rfl
    | cons a rest ih =>
      rw [findSome?_cons, findSome?_cons, hl a (.head _),
        ih fun b hb => hl b (.tail _ hb)]
  exact hsearch _ fun a ha => h a (mem_reverse.1 ha)

lemma latest_range_eq_some_iff {f : Nat → Option β} {n : Nat} {b : β} :
    latest f (range n) = some b ↔ ∃ i < n, f i = some b ∧ ∀ j, i < j → j < n → f j = none := by
  induction n with
  | zero => simp
  | succ n ih =>
    rw [range_succ, latest_concat]
    cases hn : f n with
    | some c =>
      simp only [Option.some_or, Option.some.injEq]
      constructor
      · rintro rfl
        exact ⟨n, n.lt_succ_self, hn, fun j hlt hle => by omega⟩
      · rintro ⟨i, hi, hfi, hafter⟩
        rcases Nat.lt_succ_iff_lt_or_eq.1 hi with hlt | rfl
        · rw [hafter n hlt n.lt_succ_self] at hn
          cases hn
        · rw [hfi] at hn
          exact (Option.some.inj hn).symm
    | none =>
      rw [Option.none_or, ih]
      constructor
      · rintro ⟨i, hi, hfi, hafter⟩
        refine ⟨i, by omega, hfi, fun j hlt hle => ?_⟩
        rcases Nat.lt_succ_iff_lt_or_eq.1 hle with hlt' | rfl
        · exact hafter j hlt hlt'
        · exact hn
      · rintro ⟨i, hi, hfi, hafter⟩
        rcases Nat.lt_succ_iff_lt_or_eq.1 hi with hlt | rfl
        · exact ⟨i, hlt, hfi, fun j hij hj => hafter j hij (by omega)⟩
        · rw [hfi] at hn
          cases hn

lemma latest_eq_latest_range (history : List α) :
    latest f history = latest (fun i => history[i]?.bind f) (range history.length) := by
  induction history using reverseRecOn with
  | nil => rfl
  | append_singleton history a ih =>
    have hearlier : latest (fun i => (history ++ [a])[i]?.bind f) (range history.length) =
        latest (fun i => history[i]?.bind f) (range history.length) := by
      apply latest_congr
      intro i hi
      rw [getElem?_append_left (mem_range.1 hi)]
    rw [length_append, length_singleton, range_succ, latest_concat, latest_concat,
      hearlier, ← ih]
    simp

end History
