import Mathlib

/-! An associative container whose entries stand in strictly increasing key order. -/

variable {κ α : Type*} [LinearOrder κ]

structure OrderedMap (κ α : Type*) [LinearOrder κ] where
  entries : List (κ × α)
  sorted : entries.Pairwise fun p q => p.1 < q.1

namespace OrderedMap
open List

instance [DecidableEq α] : DecidableEq (OrderedMap κ α) := fun m n =>
  decidable_of_iff (m.entries = n.entries) (by cases m; cases n; simp)

def lookup (k : κ) : List (κ × α) → Option α
  | [] => none
  | (k', a) :: rest => if k' = k then some a else lookup k rest

def assign (k : κ) (a : α) : List (κ × α) → List (κ × α)
  | [] => [(k, a)]
  | (k', a') :: rest =>
    if k < k' then (k, a) :: (k', a') :: rest
    else if k' = k then (k, a) :: rest
    else (k', a') :: assign k a rest

variable {l : List (κ × α)} {m : OrderedMap κ α} {a a' : α} {k k' : κ}

private theorem mem_assign {p : κ × α} (hp : p ∈ assign k a l) : p.1 = k ∨ p ∈ l := by
  induction l with
  | nil => simp_all [assign]
  | cons q rest ih =>
    unfold assign at hp
    split at hp
    · simp only [mem_cons] at hp ⊢
      rcases hp with rfl | hp
      · exact .inl rfl
      · exact .inr hp
    split at hp
    · simp only [mem_cons] at hp ⊢
      rcases hp with rfl | hp
      · exact .inl rfl
      · exact .inr (.inr hp)
    · simp only [mem_cons] at hp ⊢
      rcases hp with rfl | hp
      · exact .inr (.inl rfl)
      · exact (ih hp).imp_right .inr

private theorem assign_sorted (k : κ) (a : α) (hl : l.Pairwise fun p q => p.1 < q.1) :
    (assign k a l).Pairwise fun p q => p.1 < q.1 := by
  induction l with
  | nil => simp [assign]
  | cons q rest ih =>
    obtain ⟨hq, hrest⟩ := pairwise_cons.1 hl
    unfold assign
    split
    · next hlt =>
      refine pairwise_cons.2 ⟨fun p hp => ?_, hl⟩
      rcases mem_cons.1 hp with rfl | hp
      · exact hlt
      · exact lt_trans hlt (hq p hp)
    next hnlt =>
    split
    · next heq => exact pairwise_cons.2 ⟨fun p hp => heq ▸ hq p hp, hrest⟩
    next hne =>
    refine pairwise_cons.2 ⟨fun p hp => ?_, ih hrest⟩
    rcases mem_assign hp with hk | hp
    · exact hk ▸ lt_of_le_of_ne (not_lt.1 hnlt) hne
    · exact hq p hp

private theorem lookup_assign (k k' : κ) (a : α) (l : List (κ × α)) :
    lookup k' (assign k a l) = if k' = k then some a else lookup k' l := by
  induction l with
  | nil => grind [assign, lookup]
  | cons q rest ih =>
    simp only [assign]
    split
    · grind [lookup]
    · split <;> grind [lookup]

private theorem lookup_filter_ne (k k' : κ) (l : List (κ × α)) :
    lookup k' (l.filter fun p => p.1 ≠ k) = if k' = k then none else lookup k' l := by
  induction l with
  | nil => simp [lookup]
  | cons q rest ih =>
    simp only [filter_cons]
    split <;> grind [lookup]

private theorem lookup_eq_some_iff (hl : l.Pairwise fun p q => p.1 < q.1) :
    lookup k l = some a ↔ (k, a) ∈ l := by
  induction l with
  | nil => simp [lookup]
  | cons q rest ih =>
    obtain ⟨k', a'⟩ := q
    obtain ⟨hq, hrest⟩ := pairwise_cons.1 hl
    simp only [lookup, mem_cons, Prod.mk.injEq]
    split
    · next heq =>
      subst heq
      refine ⟨fun h => .inl ⟨rfl, (Option.some.inj h).symm⟩, ?_⟩
      rintro (⟨-, rfl⟩ | hmem)
      · rfl
      · exact absurd (hq _ hmem) (lt_irrefl _)
    next hne =>
    rw [ih hrest]
    refine ⟨.inr, ?_⟩
    rintro (⟨rfl, -⟩ | hmem)
    · exact absurd rfl hne
    · exact hmem

private theorem map_assign {β : Type*} (f : α → β) (hl : l.Pairwise fun p q => p.1 < q.1)
    (hfind : lookup k l = some a) (hf : f a' = f a) :
    (assign k a' l).map (fun e => f e.2) = l.map (fun e => f e.2) := by
  induction l with
  | nil => cases hfind
  | cons q rest ih =>
    obtain ⟨k', b⟩ := q
    obtain ⟨hq, hrest⟩ := pairwise_cons.1 hl
    rw [lookup] at hfind
    rw [assign]
    by_cases hk : k' = k
    · subst hk
      rw [if_pos rfl] at hfind
      rw [if_neg (lt_irrefl _), if_pos rfl]
      cases hfind
      simp [hf]
    · rw [if_neg hk] at hfind
      have hlt : k' < k := hq (k, a) ((lookup_eq_some_iff hrest).1 hfind)
      rw [if_neg (lt_asymm hlt), if_neg hk, map_cons, map_cons, ih hrest hfind]

def empty : OrderedMap κ α := ⟨[], List.Pairwise.nil⟩

instance : EmptyCollection (OrderedMap κ α) := ⟨empty⟩

def find? (m : OrderedMap κ α) (k : κ) : Option α := lookup k m.entries

def set (m : OrderedMap κ α) (k : κ) (a : α) : OrderedMap κ α :=
  ⟨assign k a m.entries, assign_sorted k a m.sorted⟩

def insertNew (m : OrderedMap κ α) (k : κ) (a : α) : OrderedMap κ α :=
  if (m.find? k).isSome then m else m.set k a

def erase (m : OrderedMap κ α) (k : κ) : OrderedMap κ α :=
  ⟨m.entries.filter fun p => p.1 ≠ k, m.sorted.filter _⟩

def discard (m : OrderedMap κ α) (test : κ → Bool) : OrderedMap κ α :=
  ⟨m.entries.filter fun p => !test p.1, m.sorted.filter _⟩

def isEmpty (m : OrderedMap κ α) : Bool := m.entries.isEmpty

def keys (m : OrderedMap κ α) : List κ := m.entries.map Prod.fst

@[simp] lemma find?_empty (k : κ) : (∅ : OrderedMap κ α).find? k = none := rfl

lemma find?_set (m : OrderedMap κ α) (k k' : κ) (a : α) :
    (m.set k a).find? k' = if k' = k then some a else m.find? k' :=
  lookup_assign k k' a m.entries

@[simp] lemma find?_set_self (m : OrderedMap κ α) (k : κ) (a : α) :
    (m.set k a).find? k = some a := by simp [find?_set]

lemma find?_set_ne (m : OrderedMap κ α) (a : α) (hne : k' ≠ k) :
    (m.set k a).find? k' = m.find? k' := by simp [find?_set, hne]

lemma find?_erase (m : OrderedMap κ α) (k k' : κ) :
    (m.erase k).find? k' = if k' = k then none else m.find? k' :=
  lookup_filter_ne k k' m.entries

@[simp] lemma find?_erase_self (m : OrderedMap κ α) (k : κ) : (m.erase k).find? k = none := by
  simp [find?_erase]

lemma find?_eq_some_iff : m.find? k = some a ↔ (k, a) ∈ m.entries := lookup_eq_some_iff m.sorted

lemma ext_find? {n : OrderedMap κ α} (h : ∀ k, m.find? k = n.find? k) : m = n := by
  have hentries : m.entries = n.entries := m.sorted.eq_of_mem_iff n.sorted fun p => by
    rw [← find?_eq_some_iff, ← find?_eq_some_iff, h]
  cases m
  cases n
  simpa using hentries

lemma find?_discard (m : OrderedMap κ α) (test : κ → Bool) (k : κ) :
    (m.discard test).find? k = if test k then none else m.find? k := by
  apply Option.ext
  intro a
  by_cases hk : test k <;> simp [find?_eq_some_iff, discard, hk]

lemma map_entries_set {β : Type*} (f : α → β) (hfind : m.find? k = some a) (hf : f a' = f a) :
    (m.set k a').entries.map (fun e => f e.2) = m.entries.map (fun e => f e.2) :=
  map_assign f m.sorted hfind hf

lemma find?_foldl_set {β : Type*} (key : β → κ) (val : β → α) (l : List β)
    (m : OrderedMap κ α) (k : κ) : (l.foldl (fun m x => m.set (key x) (val x)) m).find? k =
      ((l.reverse.find? fun x => key x = k).map val).or (m.find? k) := by
  induction l generalizing m with
  | nil => rfl
  | cons x rest ih =>
    rw [foldl_cons, ih, reverse_cons, find?_append]
    cases hrest : rest.reverse.find? fun x => key x = k with
    | some y => rfl
    | none =>
      by_cases hk : key x = k
      · subst hk
        simp
      · simp [hk, find?_set_ne m (val x) (Ne.symm hk)]

lemma find?_foldl_entries (m n : OrderedMap κ α) (k : κ) :
    (m.entries.foldl (fun n e => n.set e.1 e.2) n).find? k = (m.find? k).or (n.find? k) := by
  rw [find?_foldl_set Prod.fst Prod.snd]
  congr 1
  cases hlast : m.entries.reverse.find? fun e => e.1 = k with
  | some e =>
    have hmem := mem_reverse.1 (mem_of_find?_eq_some hlast)
    obtain rfl : e.1 = k := by simpa using find?_some hlast
    exact (find?_eq_some_iff.2 hmem).symm
  | none =>
    cases hfind : m.find? k with
    | none => rfl
    | some a =>
      have hmem := mem_reverse.2 (find?_eq_some_iff.1 hfind)
      exact absurd (decide_eq_true rfl) (find?_eq_none.1 hlast (k, a) hmem)

lemma le_of_find?_entries {test : κ × α → Bool} (hfirst : m.entries.find? test = some (k, a))
    (hfind : m.find? k' = some a') (htest : test (k', a')) : k ≤ k' := by
  obtain ⟨-, before, after, hsplit, hbefore⟩ := find?_eq_some_iff_append.1 hfirst
  have hmem : (k', a') ∈ before ++ (k, a) :: after := hsplit ▸ find?_eq_some_iff.1 hfind
  have hsorted := hsplit ▸ m.sorted
  rcases mem_append.1 hmem with hmem | hmem
  · exact absurd htest (by simpa using hbefore (k', a') hmem)
  rcases mem_cons.1 hmem with heq | hmem
  · exact le_of_eq (congrArg Prod.fst heq).symm
  · have hrest := (pairwise_cons.1 (pairwise_append.1 hsorted).2.1).1
    exact le_of_lt (hrest (k', a') hmem)

lemma head?_entries : m.entries.head? = some (k, a) ↔
      m.find? k = some a ∧ ∀ k' a', m.find? k' = some a' → k ≤ k' := by
  simp only [find?_eq_some_iff]
  have hsorted := m.sorted
  cases hentries : m.entries with
  | nil => simp
  | cons e rest =>
    rw [hentries] at hsorted
    have hfirst := (pairwise_cons.1 hsorted).1
    rw [head?_cons, Option.some.injEq]
    constructor
    · rintro rfl
      refine ⟨mem_cons_self, fun k' a' hmem => ?_⟩
      rcases mem_cons.1 hmem with heq | hmem
      · exact le_of_eq (congrArg Prod.fst heq).symm
      · exact le_of_lt (hfirst (k', a') hmem)
    · rintro ⟨hmem, hleast⟩
      rcases mem_cons.1 hmem with heq | hmem
      · exact heq.symm
      · exact absurd (hfirst (k, a) hmem) (not_lt.2 (hleast e.1 e.2 mem_cons_self))

lemma mem_keys : k ∈ m.keys ↔ ∃ a, m.find? k = some a := by
  simp [keys, find?_eq_some_iff]

lemma sorted_keys (m : OrderedMap κ α) : m.keys.Pairwise (· < ·) :=
  pairwise_map.2 m.sorted

lemma isEmpty_iff : m.isEmpty ↔ m.keys = [] := by
  simp [isEmpty, keys]

end OrderedMap
