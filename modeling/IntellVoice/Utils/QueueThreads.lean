import IntellVoice.Library.CondVar
import IntellVoice.Utils.QueueUtil

/-! Threads call `Push`, `Pop`, `PopUntilTimeout` and `PopLen` on a `QueueUtil`. -/

namespace IntellVoice.Utils
open Transition CondVar List Option

structure Consumer where
  timed : Bool
  expired : Bool := false

inductive Returned (α : Type*) where
  | push (element : α) (ret : Bool)
  | pop (element : Option α)
  | popLen (list : List α) (ret : Bool)

inductive UninitPart where
  | notCalled
  | notEmptyNext
  | notFullNext
  | returned
deriving DecidableEq

/-- A queue with the threads that sleep on its two condition variables. -/
structure QueueSystem (α : Type*) where
  util : QueueUtil α
  notFullCv : CondVar α := {}
  notEmptyCv : CondVar Consumer := {}
  uninit : UninitPart := .notCalled
  returned : List (Returned α) := []

inductive QueueAction (α : Type*) where
  | push (element : α) (isWait : Bool) (chosen : Nat)
  | pop (chosen : Nat)
  | popUntilTimeout (chosen : Nat)
  | popLen (maxLen : Nat)
  | wakeProducer (i : Nat)
  | wakeConsumer (i : Nat) (expired : Bool)
  | resumePush (wasNotified : Bool) (i chosen : Nat)
  | resumePop (wasNotified : Bool) (i chosen : Nat)
  | uninit
  | notifyAll
deriving DecidableEq

namespace QueueSystem
variable {α : Type*}

def returns (s : QueueSystem α) (r : Returned α) : QueueSystem α :=
  { s with returned := s.returned ++ [r] }

def push (s : QueueSystem α) (element : α) (isWait : Bool) (chosen : Nat) :
    Option (QueueSystem α) :=
  match s.util.push element isWait with
  | none => some { s with notFullCv := s.notFullCv.sleep element }
  | some (false, _) => some (s.returns (.push element false))
  | some (true, util) =>
    (s.notEmptyCv.notifyOne chosen).map fun notEmptyCv =>
      { s with util, notEmptyCv }.returns (.push element true)

def pop (s : QueueSystem α) (c : Consumer) (chosen : Nat) : Option (QueueSystem α) :=
  match s.util.pop with
  | none =>
    -- `wait_for` looks at its condition a last time before it gives up
    if c.expired then some (s.returns (.pop none))
    else some { s with notEmptyCv := s.notEmptyCv.sleep c }
  | some (none, _) => some (s.returns (.pop none))
  | some (some element, util) =>
    (s.notFullCv.notifyOne chosen).map fun notFullCv =>
      { s with util, notFullCv }.returns (.pop (some element))

def popLen (s : QueueSystem α) (maxLen : Nat) : QueueSystem α :=
  match s.util.popLen maxLen with
  | none => s.returns (.popLen [] false)
  | some (list, util) => { s with util }.returns (.popLen list true)

def step (s : QueueSystem α) : QueueAction α → Option (QueueSystem α)
  | .push element isWait chosen => s.push element isWait chosen
  | .pop chosen => s.pop { timed := false } chosen
  | .popUntilTimeout chosen => s.pop { timed := true } chosen
  | .popLen maxLen => some (s.popLen maxLen)
  | .wakeProducer i =>
    (s.notFullCv.wake some i).map fun notFullCv => { s with notFullCv }
  | .wakeConsumer i expired =>
    (s.notEmptyCv.wake
      (fun c => if expired && !c.timed then none else some { c with expired }) i).map
      fun notEmptyCv => { s with notEmptyCv }
  | .resumePush wasNotified i chosen =>
    (s.notFullCv.leave wasNotified i).bind fun left =>
      { s with notFullCv := left.2 }.push left.1 true chosen
  | .resumePop wasNotified i chosen =>
    (s.notEmptyCv.leave wasNotified i).bind fun left =>
      { s with notEmptyCv := left.2 }.pop left.1 chosen
  | .uninit =>
    match s.uninit with
    | .notCalled => some { s with util := s.util.uninit, uninit := .notEmptyNext }
    | _ => none
  | .notifyAll =>
    match s.uninit with
    | .notEmptyNext => some { s with notEmptyCv := s.notEmptyCv.notifyAll, uninit := .notFullNext }
    | .notFullNext => some { s with notFullCv := s.notFullCv.notifyAll, uninit := .returned }
    | _ => none

def session (capacity : Nat) (notFullCv : CondVar α) (notEmptyCv : CondVar Consumer) :
    QueueSystem α :=
  { util := .init capacity, notFullCv, notEmptyCv }

end QueueSystem

namespace Returned
variable {α : Type*}

def pushed : Returned α → List α
  | push element true => [element]
  | _ => []

def popped : Returned α → List α
  | pop (some element) => [element]
  | popLen list true => list
  | _ => []

def failed : Returned α → Bool
  | push _ ret => !ret
  | pop element => element.isNone
  | popLen _ ret => !ret

lemma popped_of_failed {r : Returned α} (hfailed : r.failed) : r.popped = [] := by
  cases r with
  | push element ret => rfl
  | pop element =>
    rw [isNone_iff_eq_none.1 hfailed]
    rfl
  | popLen list ret =>
    cases ret with
    | false => rfl
    | true => cases hfailed

lemma pushed_of_failed {r : Returned α} (hfailed : r.failed) : r.pushed = [] := by
  cases r with
  | push element ret =>
    cases ret with
    | false => rfl
    | true => cases hfailed
  | pop element | popLen list ret => rfl

end Returned

namespace QueueSystem
variable {α : Type*} {s t : QueueSystem α}

inductive Effect (q : QueueUtil α) (returned : List (Returned α)) :
    QueueUtil α → List (Returned α) → Prop where
  | none : Effect q returned q returned
  | failed (r : Returned α) (hfailed : r.failed) : Effect q returned q (returned ++ [r])
  | pushed (element : α) (hroom : q.queue.length < q.capacity) :
      Effect q returned { q with queue := q.queue ++ [element] }
        (returned ++ [.push element true])
  | popped (element : α) (rest : List α) (hqueue : q.queue = element :: rest) :
      Effect q returned { q with queue := rest } (returned ++ [.pop (some element)])
  | poppedLen (maxLen : Nat) :
      Effect q returned { q with queue := q.queue.drop maxLen }
        (returned ++ [.popLen (q.queue.take maxLen) true])

def Affects (s t : QueueSystem α) : Prop := Effect s.util s.returned t.util t.returned

variable {isWait : Bool} {c : Consumer} {returned returned' : List (Returned α)} {chosen : Nat}
  {e : QueueAction α} {q q' : QueueUtil α} {element : α}

lemma push_affects (hpush : s.push element isWait chosen = some t) : s.Affects t := by
  unfold push at hpush
  split at hpush
  · cases hpush
    exact .none
  · cases hpush
    exact .failed _ rfl
  rename_i util haccepted
  obtain ⟨notEmptyCv, -, rfl⟩ := map_eq_some_iff.1 hpush
  obtain ⟨-, rfl⟩ := QueueUtil.push_accepted haccepted
  exact .pushed element (QueueUtil.push_room haccepted)

lemma pop_affects (hpop : s.pop c chosen = some t) : s.Affects t := by
  unfold pop at hpop
  split at hpop
  · split at hpop
    · cases hpop
      exact .failed _ rfl
    · cases hpop
      exact .none
  · cases hpop
    exact .failed _ rfl
  rename_i element util htaken
  obtain ⟨notFullCv, -, rfl⟩ := map_eq_some_iff.1 hpop
  obtain ⟨-, hqueue, hutil⟩ := QueueUtil.pop_some htaken
  rw [hutil]
  exact .popped element util.queue hqueue

lemma popLen_cases (s : QueueSystem α) (maxLen : Nat) :
    s.util.isAvailable = false ∧ s.popLen maxLen = s.returns (.popLen [] false) ∨
      s.util.isAvailable ∧ s.popLen maxLen =
        { s with util := { s.util with queue := s.util.queue.drop maxLen } }.returns
          (.popLen (s.util.queue.take maxLen) true) := by
  unfold popLen QueueUtil.popLen
  by_cases havailable : s.util.isAvailable
  · rw [if_neg (by simp [havailable])]
    exact .inr ⟨havailable, rfl⟩
  · rw [if_pos (by simpa using havailable)]
    exact .inl ⟨by simpa using havailable, rfl⟩

lemma popLen_affects (s : QueueSystem α) (maxLen : Nat) : s.Affects (s.popLen maxLen) := by
  rcases s.popLen_cases maxLen with ⟨-, heq⟩ | ⟨-, heq⟩
  · rw [heq]
    exact .failed _ rfl
  · rw [heq]
    exact .poppedLen maxLen

lemma step_affects (hsession : e ≠ .uninit) (hstep : step s e = some t) : s.Affects t := by
  cases e with
  | push element isWait chosen => exact push_affects hstep
  | pop chosen | popUntilTimeout chosen => exact pop_affects hstep
  | popLen maxLen =>
    cases hstep
    exact popLen_affects s maxLen
  | wakeProducer i =>
    obtain ⟨notFullCv, -, rfl⟩ := map_eq_some_iff.1 hstep
    exact .none
  | wakeConsumer i expired =>
    obtain ⟨notEmptyCv, -, rfl⟩ := map_eq_some_iff.1 hstep
    exact .none
  | resumePush wasNotified i chosen =>
    -- leaving the condition variable touches neither the queue nor the record
    obtain ⟨left, -, hpush⟩ := bind_eq_some_iff.1 hstep
    have haffects := push_affects hpush
    exact haffects
  | resumePop wasNotified i chosen =>
    obtain ⟨left, -, hpop⟩ := bind_eq_some_iff.1 hstep
    have haffects := pop_affects hpop
    exact haffects
  | uninit => exact absurd rfl hsession
  | notifyAll =>
    cases hpart : s.uninit <;> simp only [step, hpart] at hstep <;> cases hstep <;> exact .none

lemma Effect.returns_true (heffect : Effect q returned q' returned') (hchanged : q' ≠ q) :
    ∃ r : Returned α, returned' = returned ++ [r] ∧ r.failed = false := by
  cases heffect with
  | none | failed r hfailed => exact absurd rfl hchanged
  | pushed element hroom | popped element rest hqueue | poppedLen maxLen => exact ⟨_, rfl, rfl⟩

structure Fifo (capacity : Nat) (q : QueueUtil α) (returned : List (Returned α)) : Prop where
  order : returned.flatMap Returned.popped ++ q.queue = returned.flatMap Returned.pushed
  capacity_eq : q.capacity = capacity
  bounded : q.queue.length ≤ capacity

lemma Fifo.effect {capacity : Nat} (h : Fifo capacity q returned)
    (heffect : Effect q returned q' returned') : Fifo capacity q' returned' := by
  cases heffect with
  | none => exact h
  | failed r hfailed =>
    refine ⟨?_, h.capacity_eq, h.bounded⟩
    rw [flatMap_append, flatMap_append, flatMap_singleton, flatMap_singleton,
      Returned.popped_of_failed hfailed, Returned.pushed_of_failed hfailed, append_nil,
      append_nil, h.order]
  | pushed element hroom =>
    refine ⟨?_, h.capacity_eq, ?_⟩
    · rw [flatMap_append, flatMap_append, flatMap_singleton,
        flatMap_singleton, ← h.order]
      simp [Returned.popped, Returned.pushed]
    · rw [length_append, length_singleton, ← h.capacity_eq]
      exact hroom
  | popped element rest hqueue =>
    refine ⟨?_, h.capacity_eq, ?_⟩
    · rw [flatMap_append, flatMap_append, flatMap_singleton,
        flatMap_singleton, ← h.order, hqueue]
      simp [Returned.popped, Returned.pushed]
    · have hbounded := h.bounded
      rw [hqueue, length_cons] at hbounded
      exact Nat.le_of_succ_le hbounded
  | poppedLen maxLen =>
    refine ⟨?_, h.capacity_eq, ?_⟩
    · rw [flatMap_append, flatMap_append, flatMap_singleton,
        flatMap_singleton, ← h.order]
      simp [Returned.popped, Returned.pushed]
    · have hbounded := h.bounded
      rw [length_drop]
      omega

theorem run_fifo (capacity : Nat) (notFullCv : CondVar α) (notEmptyCv : CondVar Consumer)
    (es : List (QueueAction α)) (hsession : ∀ e ∈ es, e ≠ .uninit) (s : QueueSystem α)
    (hrun : run step (session capacity notFullCv notEmptyCv) es = some s) :
    s.returned.flatMap Returned.popped ++ s.util.queue = s.returned.flatMap Returned.pushed ∧
      s.util.queue.length ≤ capacity ∧
      Along step (fun s _ t => t.util ≠ s.util →
        ∃ r : Returned α, t.returned = s.returned ++ [r] ∧ r.failed = false)
        (session capacity notFullCv notEmptyCv) es := by
  have hfifo : Fifo capacity s.util s.returned :=
    run_invariant_mem (I := fun s : QueueSystem α => Fifo capacity s.util s.returned)
      (fun _ _ _ h he hstep => h.effect (step_affects he hstep))
      ⟨rfl, rfl, Nat.zero_le _⟩ hsession hrun
  refine ⟨hfifo.order, hfifo.bounded, along_of_mem ?_ hsession⟩
  intro s e t he hstep hchanged
  exact Effect.returns_true (step_affects he hstep) hchanged

theorem run_fifo_expired :
    ∃ s : QueueSystem Nat, run step (session 1 {} {}) [.popUntilTimeout 0, .push 5 true 0,
        .push 6 true 0, .resumePop true 0 0, .resumePush true 0 0, .push 7 false 0,
        .popLen 4] = some s ∧
      s.returned = [.push 5 true, .pop (some 5), .push 6 true, .push 7 false, .popLen [6] true] ∧
      s.returned.flatMap Returned.popped ++ s.util.queue =
        s.returned.flatMap Returned.pushed :=
  ⟨_, rfl, rfl, (run_fifo 1 {} {} [.popUntilTimeout 0, .push 5 true 0, .push 6 true 0,
    .resumePop true 0 0, .resumePush true 0 0, .push 7 false 0, .popLen 4] (by decide) _ rfl).1⟩

def free (s : QueueSystem α) : Nat := s.util.capacity - s.util.queue.length

def Settled (s : QueueSystem α) : Prop := s.uninit = .notCalled ∨ s.uninit = .returned

structure Unstranded (s : QueueSystem α) : Prop where
  producers : s.notFullCv.sleeping ≠ [] → s.notFullCv.notified = [] →
    s.util.isAvailable ∧ s.util.capacity ≤ s.util.queue.length
  consumers : s.notEmptyCv.sleeping ≠ [] → s.notEmptyCv.notified = [] →
    s.util.isAvailable ∧ s.util.queue = []

structure Standing (s : QueueSystem α) : Prop where
  available : s.uninit = .notCalled → s.util.isAvailable
  cleared : s.uninit ≠ .notCalled → s.util = {}
  notEmptyTold : s.uninit = .notFullNext ∨ s.uninit = .returned → s.notEmptyCv.sleeping = []
  notFullTold : s.uninit = .returned → s.notFullCv.sleeping = []

structure Tended (s : QueueSystem α) : Prop extends Standing s where
  notFull : s.notFullCv.Covered s.free
  notEmpty : s.notEmptyCv.Covered s.util.queue.length

lemma Tended.unstranded (h : s.Tended) (hsettled : s.Settled) : s.Unstranded where
  producers hsleeping hnotified := by
    rcases hsettled with hbefore | hafter
    · have hfree := h.notFull.eq_zero hsleeping hnotified
      exact ⟨h.available hbefore, Nat.sub_eq_zero_iff_le.1 hfree⟩
    · exact absurd (h.notFullTold hafter) hsleeping
  consumers hsleeping hnotified := by
    rcases hsettled with hbefore | hafter
    · exact ⟨h.available hbefore,
        eq_nil_of_length_eq_zero (h.notEmpty.eq_zero hsleeping hnotified)⟩
    · exact absurd (h.notEmptyTold (.inr hafter)) hsleeping

lemma Standing.notCalled (h : s.Standing) (havailable : s.util.isAvailable) :
    s.uninit = .notCalled := by
  by_contra hcalled
  rw [h.cleared hcalled] at havailable
  cases havailable

lemma Standing.of_sleepers (h : s.Standing) {notFullCv : CondVar α} {notEmptyCv : CondVar Consumer}
    (hfull : s.uninit = .returned → notFullCv.sleeping = [])
    (hempty : s.uninit = .notFullNext ∨ s.uninit = .returned → notEmptyCv.sleeping = []) :
    { s with notFullCv, notEmptyCv }.Standing where
  available := h.available
  cleared := h.cleared
  notEmptyTold := hempty
  notFullTold := hfull

lemma push_tended (h : s.Standing) (hfull : s.notFullCv.Covered (s.free - 1))
    (hempty : s.notEmptyCv.Covered s.util.queue.length)
    (hpush : s.push element isWait chosen = some t) : t.Tended := by
  unfold push at hpush
  split at hpush
  · rename_i hwaits
    cases hpush
    obtain ⟨havailable, hle⟩ := QueueUtil.push_waits hwaits
    have hbefore := h.notCalled havailable
    refine ⟨⟨h.available, h.cleared, h.notEmptyTold, ?_⟩, ?_, hempty⟩
    · exact fun hreturned => by rw [hbefore] at hreturned; cases hreturned
    · show (s.notFullCv.sleep element).Covered (s.util.capacity - s.util.queue.length)
      rw [Nat.sub_eq_zero_of_le hle]
      exact covered_zero _
  · rename_i util hrefused
    cases hpush
    -- there is no room, or there is no queue any more
    have hnone : s.free = 0 := by
      by_cases hbefore : s.uninit = .notCalled
      · exact Nat.sub_eq_zero_of_le (QueueUtil.push_refused_full hrefused (h.available hbefore))
      · rw [free, h.cleared hbefore]
        rfl
    refine ⟨⟨h.available, h.cleared, h.notEmptyTold, h.notFullTold⟩, ?_, hempty⟩
    show s.notFullCv.Covered s.free
    rw [hnone]
    exact covered_zero _
  · rename_i util haccepted
    obtain ⟨notEmptyCv, hnotify, rfl⟩ := map_eq_some_iff.1 hpush
    obtain ⟨havailable, rfl⟩ := QueueUtil.push_accepted haccepted
    have hbefore := h.notCalled havailable
    refine ⟨⟨fun _ => havailable, fun hcalled => absurd hbefore hcalled, ?_, h.notFullTold⟩, ?_, ?_⟩
    · rintro (hreturned | hreturned) <;> rw [hbefore] at hreturned <;> cases hreturned
    · have hless : s.util.capacity - (s.util.queue ++ [element]).length = s.free - 1 := by
        rw [length_append, length_singleton, free, Nat.sub_add_eq]
      show s.notFullCv.Covered (s.util.capacity - (s.util.queue ++ [element]).length)
      rw [hless]
      exact hfull
    · show notEmptyCv.Covered (s.util.queue ++ [element]).length
      rw [length_append, length_singleton]
      exact hempty.notifyOne hnotify

lemma pop_tended (h : s.Standing) (hfull : s.notFullCv.Covered s.free)
    (hempty : s.notEmptyCv.Covered (s.util.queue.length - 1)) (hpop : s.pop c chosen = some t) :
    t.Tended := by
  unfold pop at hpop
  split at hpop
  · rename_i hwaits
    obtain ⟨havailable, hnil⟩ := QueueUtil.pop_empty hwaits
    have hbefore := h.notCalled havailable
    split at hpop
    · cases hpop
      refine ⟨⟨h.available, h.cleared, h.notEmptyTold, h.notFullTold⟩, hfull, ?_⟩
      show s.notEmptyCv.Covered s.util.queue.length
      rw [hnil]
      exact covered_zero _
    cases hpop
    refine ⟨⟨h.available, h.cleared, ?_, h.notFullTold⟩, hfull, ?_⟩
    · rintro (hreturned | hreturned) <;> rw [hbefore] at hreturned <;> cases hreturned
    · show (s.notEmptyCv.sleep c).Covered s.util.queue.length
      rw [hnil]
      exact covered_zero _
  · rename_i util hrefused
    cases hpop
    obtain ⟨havailable, -⟩ := QueueUtil.pop_none hrefused
    have hcalled : s.uninit ≠ .notCalled := fun hbefore => by
      rw [h.available hbefore] at havailable
      cases havailable
    refine ⟨⟨h.available, h.cleared, h.notEmptyTold, h.notFullTold⟩, hfull, ?_⟩
    show s.notEmptyCv.Covered s.util.queue.length
    rw [h.cleared hcalled]
    exact covered_zero _
  · rename_i element util htaken
    obtain ⟨notFullCv, hnotify, rfl⟩ := map_eq_some_iff.1 hpop
    obtain ⟨havailable, hqueue, hutil⟩ := QueueUtil.pop_some htaken
    have hbefore := h.notCalled havailable
    have hlength : util.queue.length + 1 = s.util.queue.length := by
      rw [hqueue, length_cons]
    refine ⟨⟨?_, fun hcalled => absurd hbefore hcalled, h.notEmptyTold, ?_⟩, ?_, ?_⟩
    · intro _
      show util.isAvailable
      rw [hutil]
      exact havailable
    · exact fun hreturned => by rw [hbefore] at hreturned; cases hreturned
    · -- the place that is free now is that of the producer that was notified
      have hcapacity : util.capacity = s.util.capacity := by rw [hutil]
      refine (hfull.notifyOne hnotify).mono ?_
      show util.capacity - util.queue.length ≤ s.util.capacity - s.util.queue.length + 1
      omega
    · refine hempty.mono ?_
      show util.queue.length ≤ s.util.queue.length - 1
      omega

/-- The room after a `PopLen` is no more than the producers that were notified before it. -/
def RoomCovered (s : QueueSystem α) (maxLen : Nat) : Prop :=
  s.notFullCv.Covered (s.util.capacity - (s.util.queue.length - maxLen))

lemma free_popLen (havailable : s.util.isAvailable) (maxLen : Nat) :
    (s.popLen maxLen).free = s.util.capacity - (s.util.queue.length - maxLen) := by
  rcases s.popLen_cases maxLen with ⟨hrefused, -⟩ | ⟨-, heq⟩
  · cases hrefused.symm.trans havailable
  · rw [heq]
    show s.util.capacity - (s.util.queue.drop maxLen).length = _
    rw [length_drop]

lemma popLen_tended (h : s.Tended) {maxLen : Nat} (hcovered : s.RoomCovered maxLen) :
    (s.popLen maxLen).Tended := by
  rcases s.popLen_cases maxLen with ⟨-, heq⟩ | ⟨havailable, heq⟩
  · rw [heq]
    exact ⟨⟨h.available, h.cleared, h.notEmptyTold, h.notFullTold⟩, h.notFull, h.notEmpty⟩
  have hroom : s.notFullCv.Covered (s.popLen maxLen).free := by
    rw [free_popLen havailable]
    exact hcovered
  rw [heq] at hroom ⊢
  have hbefore := h.notCalled havailable
  refine ⟨⟨fun _ => havailable, fun hcalled => absurd hbefore hcalled, h.notEmptyTold,
    h.notFullTold⟩, hroom, h.notEmpty.mono ?_⟩
  show (s.util.queue.drop maxLen).length ≤ s.util.queue.length
  rw [length_drop]
  omega

lemma step_tended (h : s.Tended) (hstep : step s e = some t)
    (hpopLen : ∀ maxLen, e = .popLen maxLen → s.RoomCovered maxLen) : t.Tended := by
  cases e with
  | push element isWait chosen =>
    exact push_tended h.toStanding (h.notFull.mono (Nat.sub_le _ _)) h.notEmpty hstep
  | pop chosen | popUntilTimeout chosen =>
    exact pop_tended h.toStanding h.notFull (h.notEmpty.mono (Nat.sub_le _ _)) hstep
  | popLen maxLen =>
    cases hstep
    exact popLen_tended h (hpopLen maxLen rfl)
  | wakeProducer i =>
    obtain ⟨notFullCv, hwake, rfl⟩ := map_eq_some_iff.1 hstep
    refine ⟨h.of_sleepers ?_ h.notEmptyTold, h.notFull.wake hwake, h.notEmpty⟩
    intro hreturned
    rw [wake_of_nobody (h.notFullTold hreturned)] at hwake
    cases hwake
  | wakeConsumer i expired =>
    obtain ⟨notEmptyCv, hwake, rfl⟩ := map_eq_some_iff.1 hstep
    refine ⟨h.of_sleepers h.notFullTold ?_, h.notFull, h.notEmpty.wake hwake⟩
    intro htold
    rw [wake_of_nobody (h.notEmptyTold htold)] at hwake
    cases hwake
  | resumePush wasNotified i chosen =>
    obtain ⟨⟨element, cv⟩, hleave, hpush⟩ := bind_eq_some_iff.1 hstep
    have hstanding : { s with notFullCv := cv }.Standing :=
      h.of_sleepers (fun hreturned => (sleeping_leave hleave).trans (h.notFullTold hreturned))
        h.notEmptyTold
    exact push_tended hstanding (h.notFull.leave hleave) h.notEmpty hpush
  | resumePop wasNotified i chosen =>
    obtain ⟨⟨c, cv⟩, hleave, hpop⟩ := bind_eq_some_iff.1 hstep
    have hstanding : { s with notEmptyCv := cv }.Standing :=
      h.of_sleepers h.notFullTold
        fun htold => (sleeping_leave hleave).trans (h.notEmptyTold htold)
    exact pop_tended hstanding h.notFull (h.notEmpty.leave hleave) hpop
  | uninit =>
    cases hpart : s.uninit with
    | notCalled =>
      simp only [step, hpart, some.injEq] at hstep
      rw [← hstep]
      refine ⟨⟨?_, fun _ => rfl, ?_, ?_⟩, covered_zero _, covered_zero _⟩
      · exact fun hbefore => nomatch hbefore
      · exact fun htold => by rcases htold with htold | htold <;> cases htold
      · exact fun hreturned => nomatch hreturned
    | _ => simp [step, hpart] at hstep
  | notifyAll =>
    cases hpart : s.uninit with
    | notEmptyNext =>
      simp only [step, hpart, some.injEq] at hstep
      have hcleared := h.cleared (by rw [hpart]; exact fun hbefore => nomatch hbefore)
      rw [← hstep]
      refine ⟨⟨?_, fun _ => hcleared, fun _ => rfl, ?_⟩, h.notFull, CondVar.notifyAll_covered _ _⟩
      · exact fun hbefore => nomatch hbefore
      · exact fun hreturned => nomatch hreturned
    | notFullNext =>
      simp only [step, hpart, some.injEq] at hstep
      have hcleared := h.cleared (by rw [hpart]; exact fun hbefore => nomatch hbefore)
      have htold := h.notEmptyTold (.inl hpart)
      rw [← hstep]
      refine ⟨⟨?_, fun _ => hcleared, fun _ => htold, fun _ => rfl⟩,
        CondVar.notifyAll_covered _ _, h.notEmpty⟩
      exact fun hbefore => nomatch hbefore
    | _ => simp [step, hpart] at hstep

end QueueSystem

def QueueAction.isResume {α : Type*} : QueueAction α → Bool
  | .resumePush .. => true
  | .resumePop .. => true
  | _ => false

namespace QueueSystem
variable {α : Type*} {s t : QueueSystem α}

def StrandsNobody (s : QueueSystem α) : Prop :=
  ∀ (rs : List (QueueAction α)) (t : QueueSystem α), (∀ e ∈ rs, e.isResume) →
    run step s rs = some t → t.Settled → t.Unstranded

lemma Tended.strandsNobody (h : s.Tended) : s.StrandsNobody := by
  intro rs t hresumes hrun hsettled
  have htended : t.Tended :=
    run_invariant_mem (P := fun e : QueueAction α => e.isResume)
      (fun _ e _ hs hresume hstep => step_tended hs hstep fun maxLen he => by
        rw [he] at hresume
        cases hresume)
      h hresumes hrun
  exact htended.unstranded hsettled

lemma resumePush_of_room {element : α} {rest : List α}
    (hnotified : s.notFullCv.notified = element :: rest) (havailable : s.util.isAvailable)
    (hroom : s.util.queue.length < s.util.capacity) :
    ∃ t, step s (.resumePush true 0 0) = some t ∧ t.notFullCv.notified = rest ∧
      t.notFullCv.sleeping = s.notFullCv.sleeping ∧ t.uninit = s.uninit ∧
      t.util = { s.util with queue := s.util.queue ++ [element] } := by
  obtain ⟨notEmptyCv, hnotify⟩ := isSome_iff_exists.1 s.notEmptyCv.notifyOne_isSome
  have hpush : s.util.push element true =
      some (true, { s.util with queue := s.util.queue ++ [element] }) := by
    unfold QueueUtil.push
    rw [if_neg (by simp [havailable]), if_neg (by omega)]
  have hleave : s.notFullCv.leave true 0 =
      some (element, { s.notFullCv with notified := rest }) := by
    simp [leave, hnotified]
  let util : QueueUtil α := { s.util with queue := s.util.queue ++ [element] }
  refine ⟨{ s with util, notFullCv := { s.notFullCv with notified := rest }, notEmptyCv }.returns
    (.push element true), ?_, rfl, rfl, rfl, rfl⟩
  simp only [step, hleave, bind_some, push, hpush, hnotify, map_some, util]

lemma exists_stranded (hbefore : s.uninit = .notCalled) (havailable : s.util.isAvailable)
    (hsleeping : s.notFullCv.sleeping ≠ []) (hroom : s.notFullCv.notified.length < s.free) :
    ∃ (rs : List (QueueAction α)) (t : QueueSystem α), (∀ e ∈ rs, e.isResume) ∧
      run step s rs = some t ∧ t.Settled ∧ ¬ t.Unstranded := by
  unfold free at hroom
  -- the notified producers go on one by one
  induction hnotified : s.notFullCv.notified generalizing s with
  | nil =>
    rw [hnotified, length_nil] at hroom
    refine ⟨[], s, fun _ he => (by cases he), rfl, .inl hbefore, ?_⟩
    intro hunstranded
    have hfull := (hunstranded.producers hsleeping hnotified).2
    omega
  | cons element rest ih =>
    rw [hnotified, length_cons] at hroom
    obtain ⟨t, hstep, hrest, hsame, hpart, hutil⟩ :=
      resumePush_of_room hnotified havailable (by omega)
    obtain ⟨rs, u, hresumes, hrun, hstranded⟩ := ih (s := t) (by rw [hpart, hbefore])
      (by rw [hutil]; exact havailable) (by rw [hsame]; exact hsleeping)
      (by rw [hrest, hutil, length_append, length_singleton]; dsimp only; omega) hrest
    refine ⟨.resumePush true 0 0 :: rs, u, ?_, ?_, hstranded⟩
    · intro e he
      rcases mem_cons.1 he with rfl | he
      · rfl
      · exact hresumes e he
    · rw [run_cons, hstep, bind_some, hrun]

lemma popLen_strandsNobody_iff (h : s.Tended) (maxLen : Nat) :
    (s.popLen maxLen).StrandsNobody ↔ s.RoomCovered maxLen := by
  constructor
  · intro hstrands hsleeping
    by_contra hroom
    rcases s.popLen_cases maxLen with ⟨hrefused, -⟩ | ⟨havailable, heq⟩
    · -- without a queue there is no room
      have hcalled : s.uninit ≠ .notCalled := fun hbefore => by
        rw [h.available hbefore] at hrefused
        cases hrefused
      rw [h.cleared hcalled] at hroom
      exact hroom (by simp)
    · obtain ⟨rs, t, hresumes, hrun, hsettled, hstranded⟩ :=
        exists_stranded (s := s.popLen maxLen) (by rw [heq]; exact h.notCalled havailable)
          (by rw [heq]; exact havailable) (by rw [heq]; exact hsleeping)
          (by rw [free_popLen havailable, heq]; exact Nat.lt_of_not_le hroom)
      exact hstranded (hstrands rs t hresumes hrun hsettled)
  · exact fun hcovered => (popLen_tended h hcovered).strandsNobody

theorem run_strandsNobody_iff (capacity : Nat) (es : List (QueueAction α)) :
    Along step (fun _ _ t => t.StrandsNobody) (session capacity {} {}) es ↔
      Along step (fun s e _ => ∀ maxLen, e = .popLen maxLen → s.RoomCovered maxLen)
        (session capacity {} {}) es := by
  have hstart : (session capacity {} {} : QueueSystem α).Tended :=
    ⟨⟨fun _ => rfl, fun hcalled => absurd rfl hcalled, fun _ => rfl, fun _ => rfl⟩,
      fun hsleeping => absurd rfl hsleeping, fun hsleeping => absurd rfl hsleeping⟩
  refine along_iff (I := Tended) (P := fun _ => True) ?_ hstart fun _ _ => trivial
  intro s e t h _ hstep
  refine ⟨⟨?_, fun hcovered => (step_tended h hstep hcovered).strandsNobody⟩,
    fun hcovered => step_tended h hstep hcovered⟩
  rintro hstrands maxLen rfl
  cases hstep
  exact (popLen_strandsNobody_iff h maxLen).1 hstrands

theorem popLen_strands_producer :
    ∃ s : QueueSystem Nat, run step (session 1 {} {}) [.push 5 true 0, .push 6 true 0, .popLen 1] =
        some s ∧ s.Settled ∧ ¬ s.Unstranded := by
  refine ⟨_, rfl, .inl rfl, ?_⟩
  intro hunstranded
  have hfull := (hunstranded.producers (by decide) rfl).2
  revert hfull
  decide

end QueueSystem
end IntellVoice.Utils
