import IntellVoice.Library.Run

/-! `ScheduleDelayedUnload` and its waiter threads, one read at a time. -/

namespace IntellVoice.Service.DelayedUnload
open Function (update update_apply)
open Transition Option

inductive Subject where
  | enrollEngine
  | updateEngine
  | wakeupSwitch
  | whisperSwitch
deriving DecidableEq

/-- What `IsNeedToUnloadService` asks for, in this order. -/
def checks : List Subject := [.enrollEngine, .updateEngine, .wakeupSwitch, .whisperSwitch]

-- in nanoseconds, as `steady_clock` counts
def waitInterval : Nat := 500000000
def waitSwitchTime : Nat := 2000000000

inductive Waiter where
  | sleeping (till : Nat)
  -- holds `delayUnloadMutex_`
  | checking (left : List Subject)
deriving DecidableEq

/-- The moment at which a waiter adds an unload task. -/
structure Decision where
  now : Nat
  calls : List Nat
  up : Subject → Bool

def Decision.Need (d : Decision) : Prop := ∀ subject, d.up subject = false

structure State where
  up : Subject → Bool
  now : Nat
  lastCallTime : Nat := 0
  delayUnloadWaiting : Bool := false
  callers : List (List Subject) := []
  waiters : List Waiter := []
  calls : List Nat := []
  queued : List Decision := []
  -- the unload tasks of the executor: how many wait, and what the running one has yet to ask
  pending : Nat := 0
  task : Option (List Subject) := none
  -- the engines and switches at each `serviceUnloading_ = true`
  unloads : List (Subject → Bool) := []

inductive Event where
  | set (subject : Subject) (on : Bool)
  | tick (d : Nat)
  | call
  | caller (i : Nat)
  | waiter (i : Nat)
  | executor

namespace State
variable (s : State)

def locked : Bool := s.waiters.any fun w => w matches .checking _

def record (callers : List (List Subject)) : State :=
  { s with
    callers
    lastCallTime := s.now
    calls := s.calls ++ [s.now]
    delayUnloadWaiting := true
    waiters := if s.delayUnloadWaiting then s.waiters
      else s.waiters ++ [.sleeping (s.now + waitInterval)] }

def leave (i : Nat) : State :=
  { s with waiters := s.waiters.eraseIdx i, delayUnloadWaiting := false }

def decision : Decision := ⟨s.now, s.calls, s.up⟩

def stepWaiter (i : Nat) : Waiter → Option State
  | .sleeping till =>
    if s.locked ∨ s.now < till then none
    else some { s with waiters := s.waiters.set i (.checking checks) }
  | .checking (subject :: left) =>
    if s.up subject then some (s.leave i)
    else some { s with waiters := s.waiters.set i (.checking left) }
  | .checking [] =>
    if s.now - s.lastCallTime < waitSwitchTime then
      some { s with waiters := s.waiters.set i (.sleeping (s.now + waitInterval)) }
    -- the task is added once the mutex is free
    else some { s.leave i with queued := s.queued ++ [s.decision], pending := s.pending + 1 }

/-- `UnloadIntellVoiceService` asks again before it unloads. -/
def unloadIntellVoiceService : Option State :=
  match s.task with
  | none => if s.pending = 0 then none else some { s with pending := s.pending - 1, task := checks }
  | some (subject :: left) => some { s with task := if s.up subject then none else some left }
  | some [] => some { s with task := none, unloads := s.unloads ++ [s.up] }

def step : Event → Option State
  | .set subject on => some { s with up := update s.up subject on }
  | .tick d => some { s with now := s.now + d }
  | .call => some { s with callers := s.callers ++ [checks] }
  | .caller i =>
    match s.callers[i]? with
    | none => none
    | some [] => if s.locked then none else some (s.record (s.callers.eraseIdx i))
    | some (subject :: left) =>
      some { s with callers := if s.up subject then s.callers.eraseIdx i else s.callers.set i left }
  | .waiter i => (s.waiters[i]?).bind (s.stepWaiter i)
  | .executor => s.unloadIntellVoiceService

end State

/-- Nothing is created or switched on that a reader who still has `left` to ask for has already
found absent or off. -/
def Event.Spares (left : List Subject) : Event → Prop
  | .set subject on => on → subject ∈ left
  | _ => True

structure Inv (s : State) : Prop where
  waiters : s.waiters.length = if s.delayUnloadWaiting then 1 else 0
  calls : ∀ t ∈ s.calls, t ≤ s.lastCallTime
  last : s.lastCallTime ≤ s.now
  late : ∀ d ∈ s.queued, ∀ t ∈ d.calls, t + waitSwitchTime ≤ d.now

/-- All that a reader has asked for is still absent or off. -/
def Clear (up : Subject → Bool) (left : List Subject) : Prop := ∀ subject ∉ left, up subject = false

section
variable {up : Subject → Bool} {subject : Subject} {left : List Subject}

lemma clear_checks (up : Subject → Bool) : Clear up checks := by
  intro subject hsubject
  cases subject <;> simp [checks] at hsubject

lemma Clear.next (h : Clear up (subject :: left)) (hdown : up subject = false) : Clear up left := by
  intro x hx
  by_cases hne : x = subject
  · exact hne ▸ hdown
  · exact h x (by simp [hne, hx])

lemma Clear.set (h : Clear up left) {on : Bool} (hspares : (Event.set subject on).Spares left) :
    Clear (update up subject on) left := by
  intro x hx
  rw [update_apply]
  split
  · rename_i heq
    subst heq
    cases on with
    | false => rfl
    | true => exact absurd (hspares rfl) hx
  · exact h x hx

end

variable {s t : State} {e : Event} {i : Nat} {w : Waiter}

lemma Inv.single (h : Inv s) (hw : s.waiters[i]? = some w) :
    i = 0 ∧ s.waiters = [w] ∧ s.delayUnloadWaiting := by
  have hlen := h.waiters
  obtain ⟨hi, hget⟩ := List.getElem?_eq_some_iff.1 hw
  split at hlen
  · obtain ⟨w', hs⟩ := List.length_eq_one_iff.1 hlen
    obtain rfl : i = 0 := by omega
    simp_all
  · omega

lemma Inv.leave (h : Inv s) (hw : s.waiters[i]? = some w) : Inv (s.leave i) := by
  obtain ⟨rfl, hs, -⟩ := h.single hw
  exact { h with waiters := by simp [State.leave, hs] }

lemma Inv.decision (h : Inv s) (hlate : ¬ s.now - s.lastCallTime < waitSwitchTime) :
    ∀ t ∈ s.decision.calls, t + waitSwitchTime ≤ s.decision.now := by
  intro t ht
  have hcall := h.calls t ht
  have hlast := h.last
  simp only [State.decision]
  unfold waitSwitchTime at *
  omega

lemma Inv.stepWaiter (h : Inv s) (hw : s.waiters[i]? = some w) (hstep : s.stepWaiter i w = some t) :
    Inv t := by
  have hleave := h.leave hw
  obtain ⟨rfl, hs, hflag⟩ := h.single hw
  unfold State.stepWaiter at hstep
  split at hstep
  · obtain ⟨-, hstep⟩ := ite_none_left_eq_some.1 hstep
    cases hstep
    exact { h with waiters := by simp [hs, hflag] }
  · split at hstep
    · cases hstep
      exact hleave
    · cases hstep
      exact { h with waiters := by simp [hs, hflag] }
  · split at hstep
    · cases hstep
      exact { h with waiters := by simp [hs, hflag] }
    rename_i hlate
    cases hstep
    refine { hleave with late := fun d hd => ?_ }
    rcases List.mem_append.1 hd with hd | hd
    · exact h.late d hd
    · rw [List.mem_singleton.1 hd]
      exact h.decision hlate

lemma Inv.record (h : Inv s) (callers : List (List Subject)) : Inv (s.record callers) := by
  refine { h with waiters := ?_, calls := ?_, last := le_rfl }
  · have hlen := h.waiters
    cases hflag : s.delayUnloadWaiting <;> simp_all [State.record]
  · intro t ht
    simp only [State.record, List.mem_append, List.mem_singleton] at ht ⊢
    rcases ht with ht | rfl
    · exact (h.calls t ht).trans h.last
    · exact le_rfl

lemma unloadIntellVoiceService_frame (hstep : s.unloadIntellVoiceService = some t) :
    ∃ pending task unloads, t = { s with pending, task, unloads } := by
  unfold State.unloadIntellVoiceService at hstep
  split at hstep
  · obtain ⟨-, hstep⟩ := ite_none_left_eq_some.1 hstep
    cases hstep
    exact ⟨_, _, _, rfl⟩
  · cases hstep
    exact ⟨_, _, _, rfl⟩
  · cases hstep
    exact ⟨_, _, _, rfl⟩

lemma step_caller (hstep : s.step (.caller i) = some t) :
    ∃ callers, t = s.record callers ∨ t = { s with callers } := by
  simp only [State.step] at hstep
  split at hstep
  · cases hstep
  · obtain ⟨-, hstep⟩ := ite_none_left_eq_some.1 hstep
    exact ⟨_, .inl (some.inj hstep).symm⟩
  · exact ⟨_, .inr (some.inj hstep).symm⟩

lemma Inv.step (h : Inv s) (hstep : s.step e = some t) : Inv t := by
  cases e with
  | set subject on =>
    cases hstep
    exact { h with }
  | tick d =>
    cases hstep
    exact { h with last := h.last.trans (Nat.le_add_right _ _) }
  | call =>
    cases hstep
    exact { h with }
  | caller i =>
    obtain ⟨callers, rfl | rfl⟩ := step_caller hstep
    · exact h.record callers
    · exact { h with }
  | waiter i =>
    obtain ⟨w, hw, hstep⟩ := bind_eq_some_iff.1 hstep
    exact h.stepWaiter hw hstep
  | executor =>
    obtain ⟨pending, task, unloads, rfl⟩ := unloadIntellVoiceService_frame hstep
    exact { h with }

lemma run_inv {up : Subject → Bool} {now : Nat} {events : List Event}
    (hrun : run State.step { up, now } events = some s) : Inv s := by
  have hinit : Inv { up, now } := ⟨rfl, by simp, Nat.zero_le _, by simp⟩
  exact run_invariant_all (fun _ _ _ h hstep => Inv.step h hstep) hinit hrun

/-- What the waiter has found absent or off is so still, and was so at every decision. -/
structure Watched (s : State) : Prop extends Inv s where
  read : ∀ left, .checking left ∈ s.waiters → Clear s.up left
  need : ∀ d ∈ s.queued, d.Need

def Event.SparesWaiter (s : State) (e : Event) : Prop :=
  ∀ left, .checking left ∈ s.waiters → e.Spares left

lemma Watched.stepWaiter (h : Watched s) (hw : s.waiters[i]? = some w)
    (hstep : s.stepWaiter i w = some t) : Watched t := by
  have hinv := h.toInv.stepWaiter hw hstep
  obtain ⟨rfl, hs, -⟩ := h.single hw
  have hread := fun left hleft => h.read left (hs ▸ hleft)
  unfold State.stepWaiter at hstep
  split at hstep
  · obtain ⟨-, hstep⟩ := ite_none_left_eq_some.1 hstep
    cases hstep
    refine { hinv with read := fun left hleft => ?_, need := h.need }
    obtain rfl : left = checks := by simpa [hs] using hleft
    exact clear_checks _
  · split at hstep
    · cases hstep
      exact { hinv with read := by simp [State.leave, hs], need := h.need }
    rename_i subject left hdown
    cases hstep
    refine { hinv with read := fun left' hleft => ?_, need := h.need }
    obtain rfl : left' = left := by simpa [hs] using hleft
    exact (hread (subject :: left') (by simp)).next (by simpa using hdown)
  · split at hstep
    · cases hstep
      exact { hinv with read := by simp [hs], need := h.need }
    cases hstep
    refine { hinv with read := by simp [State.leave, hs], need := fun d hd => ?_ }
    rcases List.mem_append.1 hd with hd | hd
    · exact h.need d hd
    · rw [List.mem_singleton.1 hd]
      exact fun subject => hread [] (by simp) subject List.not_mem_nil

lemma Watched.step (h : Watched s) (hspares : e.SparesWaiter s) (hstep : s.step e = some t) :
    Watched t := by
  have hinv := h.toInv.step hstep
  cases e with
  | set subject on =>
    cases hstep
    exact { hinv with
      read := fun left hleft => (h.read left hleft).set (hspares left hleft), need := h.need }
  | tick d | call =>
    cases hstep
    exact { hinv with read := h.read, need := h.need }
  | caller i =>
    obtain ⟨callers, rfl | rfl⟩ := step_caller hstep
    · refine { hinv with read := fun left hleft => h.read left ?_, need := h.need }
      simp only [State.record] at hleft
      split at hleft <;> simpa using hleft
    · exact { hinv with read := h.read, need := h.need }
  | waiter i =>
    obtain ⟨w, hw, hstep⟩ := bind_eq_some_iff.1 hstep
    exact h.stepWaiter hw hstep
  | executor =>
    obtain ⟨pending, task, unloads, rfl⟩ := unloadIntellVoiceService_frame hstep
    exact { hinv with read := h.read, need := h.need }

/-- The same for the task that asks again: what it has found absent or off is so at the unload. -/
structure Rechecked (s : State) : Prop where
  read : ∀ left, s.task = some left → Clear s.up left
  unloads : ∀ up ∈ s.unloads, ∀ subject, up subject = false

def Event.SparesTask (s : State) (e : Event) : Prop := ∀ left, s.task = some left → e.Spares left

lemma stepWaiter_frame (hstep : s.stepWaiter i w = some t) :
    t.up = s.up ∧ t.task = s.task ∧ t.unloads = s.unloads := by
  unfold State.stepWaiter at hstep
  split at hstep
  · obtain ⟨-, hstep⟩ := ite_none_left_eq_some.1 hstep
    cases hstep
    exact ⟨rfl, rfl, rfl⟩
  · split at hstep <;> cases hstep <;> exact ⟨rfl, rfl, rfl⟩
  · split at hstep <;> cases hstep <;> exact ⟨rfl, rfl, rfl⟩

lemma Rechecked.unloadIntellVoiceService (h : Rechecked s)
    (hstep : s.unloadIntellVoiceService = some t) : Rechecked t := by
  unfold State.unloadIntellVoiceService at hstep
  split at hstep
  · obtain ⟨-, hstep⟩ := ite_none_left_eq_some.1 hstep
    cases hstep
    refine ⟨fun left hleft => ?_, h.unloads⟩
    obtain rfl := some.inj hleft
    exact clear_checks _
  · rename_i subject left htask
    cases hstep
    refine ⟨fun left' hleft => ?_, h.unloads⟩
    obtain ⟨hdown, hleft⟩ := ite_none_left_eq_some.1 hleft
    obtain rfl := some.inj hleft
    exact (h.read _ htask).next (by simpa using hdown)
  · rename_i htask
    cases hstep
    refine ⟨fun left hleft => (by cases hleft), fun up hup => ?_⟩
    rcases List.mem_append.1 hup with hup | hup
    · exact h.unloads up hup
    · rw [List.mem_singleton.1 hup]
      exact fun subject => h.read [] htask subject List.not_mem_nil

lemma Rechecked.step (h : Rechecked s) (hspares : e.SparesTask s) (hstep : s.step e = some t) :
    Rechecked t := by
  cases e with
  | set subject on =>
    cases hstep
    exact ⟨fun left hleft => (h.read left hleft).set (hspares left hleft), h.unloads⟩
  | tick d | call =>
    cases hstep
    exact ⟨h.read, h.unloads⟩
  | caller i =>
    obtain ⟨callers, rfl | rfl⟩ := step_caller hstep <;> exact ⟨h.read, h.unloads⟩
  | waiter i =>
    obtain ⟨w, -, hstep⟩ := bind_eq_some_iff.1 hstep
    obtain ⟨hup, htask, hunloads⟩ := stepWaiter_frame hstep
    exact ⟨fun left hleft => hup ▸ h.read left (htask ▸ hleft), hunloads ▸ h.unloads⟩
  | executor => exact h.unloadIntellVoiceService hstep

theorem delayedUnload_need (up : Subject → Bool) (now : Nat) {events : List Event} {s : State}
    (hrun : run State.step { up, now } events = some s) :
    s.waiters.length ≤ 1 ∧ (s.delayUnloadWaiting ↔ s.waiters ≠ []) ∧
      (∀ d ∈ s.queued, ∀ t ∈ d.calls, t + waitSwitchTime ≤ d.now) ∧
      (Along State.step (fun s e _ => e.SparesWaiter s) { up, now } events →
        ∀ d ∈ s.queued, d.Need) ∧
      (Along State.step (fun s e _ => e.SparesTask s) { up, now } events →
        ∀ up ∈ s.unloads, ∀ subject, up subject = false) := by
  have h := run_inv hrun
  have hlen := h.waiters
  refine ⟨by split at hlen <;> omega, ?_, h.late, fun hspares => ?_, fun hspares => ?_⟩
  · rw [← List.length_pos_iff_ne_nil, hlen]
    split <;> simp_all
  · have hinit : Watched { up, now } :=
      ⟨⟨rfl, by simp, Nat.zero_le _, by simp⟩, by simp, by simp⟩
    have hwatched : Watched s := run_invariant (R := fun s e _ => e.SparesWaiter s)
      (fun _ _ _ h hR hstep => Watched.step h hR hstep) hinit hspares hrun
    exact hwatched.need
  · have hinit : Rechecked { up, now } := ⟨by simp, by simp⟩
    have hrechecked : Rechecked s := run_invariant (R := fun s e _ => e.SparesTask s)
      (fun _ _ _ h hR hstep => Rechecked.step h hR hstep) hinit hspares hrun
    exact hrechecked.unloads

def callAndWait (between : List Event) : List Event :=
  [.call, .caller 0, .caller 0, .caller 0, .caller 0, .caller 0, .tick waitSwitchTime, .waiter 0,
    .waiter 0] ++ between ++ [.waiter 0, .waiter 0, .waiter 0, .waiter 0]

theorem delayedUnload_need_quiet :
    ∃ s, run State.step { up := fun _ => false, now := 0 } (callAndWait []) = some s ∧
      s.queued.length = 1 ∧ ∀ d ∈ s.queued, d.Need := by
  refine ⟨_, rfl, rfl,
    (@delayedUnload_need (fun _ => false) 0 (callAndWait []) _ rfl).2.2.2.1 ?_⟩
  refine along_of_mem (P := fun e => ∀ left, e.Spares left) (fun _ _ _ he _ left _ => he left) ?_
  simp [callAndWait, Event.Spares]

-- an enrolment engine is created after the waiter has looked for one
theorem delayedUnload_queued_without_need :
    ∃ s d, run State.step { up := fun _ => false, now := 0 }
        (callAndWait [.set .enrollEngine true]) = some s ∧
      s.queued = [d] ∧ d.up .enrollEngine :=
  ⟨_, _, rfl, rfl, rfl⟩

end IntellVoice.Service.DelayedUnload
