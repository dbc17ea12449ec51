import Mathlib.Data.List.Basic
import Mathlib.Data.List.TakeDrop

/-! A loop that hands out data in pieces of size `m`, the rest at the end. -/

inductive Tiles (m n : Nat) : Nat → List (Nat × Nat) → Prop where
  | last {o : Nat} (hne : o < n) (hle : n ≤ o + m) : Tiles m n o [(o, n - o)]
  | cons {o : Nat} {rest : List (Nat × Nat)} (hlt : o + m < n) (hrest : Tiles m n (o + m) rest) :
      Tiles m n o ((o, m) :: rest)

namespace Tiles
variable {m n o : Nat} {pieces : List (Nat × Nat)}

lemma exists_pieces (hm : 0 < m) (hne : o < n) : ∃ pieces, Tiles m n o pieces := by
  induction hleft : n - o using Nat.strongRecOn generalizing o with
  | ind left ih =>
    by_cases hlt : o + m < n
    · obtain ⟨rest, hrest⟩ := ih (n - (o + m)) (by omega) hlt rfl
      exact ⟨(o, m) :: rest, .cons hlt hrest⟩
    · exact ⟨[(o, n - o)], .last hne (by omega)⟩

lemma inside (h : Tiles m n o pieces) (hm : 0 < m) {p : Nat × Nat} (hp : p ∈ pieces) :
    o ≤ p.1 ∧ 0 < p.2 ∧ p.2 ≤ m ∧ p.1 + p.2 ≤ n := by
  induction h with
  | last hne hle =>
    rw [List.mem_singleton] at hp
    subst hp
    refine ⟨Nat.le_refl _, ?_, ?_, ?_⟩ <;> dsimp only <;> omega
  | @cons o rest hlt hrest ih =>
    rcases List.mem_cons.1 hp with rfl | hp
    · refine ⟨Nat.le_refl _, ?_, ?_, ?_⟩ <;> dsimp only <;> omega
    · obtain ⟨hfrom, hbounds⟩ := ih hp
      exact ⟨by omega, hbounds⟩

lemma exists_end (h : Tiles m n o pieces) : ∃ p ∈ pieces, p.1 + p.2 = n := by
  induction h with
  | @last o hne hle =>
    exact ⟨(o, n - o), List.mem_singleton_self _, Nat.add_sub_of_le (Nat.le_of_lt hne)⟩
  | cons hlt hrest ih =>
    obtain ⟨p, hp, hend⟩ := ih
    exact ⟨p, List.mem_cons_of_mem _ hp, hend⟩

end Tiles
