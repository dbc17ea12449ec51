import Mathlib.Logic.Function.Basic
import IntellVoice.Utils.QueueUtil

/-! A `TaskExecutor` owns a `QueueUtil` of tasks and the threads it started. -/

namespace IntellVoice.Utils

inductive Worker where
  | popping
  | taken (task : Nat)
  | running (task : Nat)
  | exited
deriving DecidableEq

def Worker.alive (w : Worker) : Bool := w != .exited

inductive TaskCall where
  | pushing (task : Nat) (sync isWait : Bool)
  | waiting (task : Nat)

/-- The queue, the worker threads and the callers between two steps. -/
structure TaskExecutor where
  queue : QueueUtil Nat
  isRuning : Bool := false
  tid : Nat := 0
  threads : Nat := 0
  workers : Nat → Worker := fun _ => .exited
  calls : Nat → Option TaskCall := fun _ => none
  stopping : Nat := 0
  tasks : Nat := 0
  accepted : List Nat := []
  begun : List Nat := []
  finished : List Nat := []

namespace TaskExecutor

def init (capacity : Nat) : TaskExecutor := { queue := .init capacity }

inductive Event where
  | addSyncTask (thread : Nat)
  | addAsyncTask (thread : Nat) (isWait : Bool)
  | push (thread : Nat)
  | wake (thread : Nat)
  | startThread (created : Bool)
  | uninit
  | join
  | pop (worker : Nat)
  | begin (worker : Nat)
  | finish (worker : Nat)

variable (s : TaskExecutor)

def setWorker (worker : Nat) (w : Worker) : TaskExecutor :=
  { s with workers := Function.update s.workers worker w }

def setCall (thread : Nat) (call : Option TaskCall) : TaskExecutor :=
  { s with calls := Function.update s.calls thread call }

def addTask (thread : Nat) (sync isWait : Bool) : Option TaskExecutor :=
  match s.calls thread with
  | some _ => none
  | none =>
    some { s.setCall thread (some (.pushing s.tasks sync isWait)) with tasks := s.tasks + 1 }

def afterPush (task : Nat) (sync : Bool) : Option TaskCall :=
  if sync then some (.waiting task) else none

def push (thread : Nat) : Option TaskExecutor :=
  match s.calls thread with
  | some (.pushing task sync isWait) =>
    (s.queue.push task isWait).map fun (pushed, queue) =>
      let s := { s.setCall thread (afterPush task sync) with queue := queue }
      if pushed then { s with accepted := s.accepted ++ [task] } else s
  | _ => none

def wake (thread : Nat) : Option TaskExecutor :=
  match s.calls thread with
  | some (.waiting task) => if task ∈ s.finished then some (s.setCall thread none) else none
  | _ => none

def startThread (created : Bool) : TaskExecutor :=
  if created then
    { s.setWorker s.threads .popping with
      isRuning := true, tid := s.threads, threads := s.threads + 1 }
  else s

def uninit : TaskExecutor := { s with queue := s.queue.uninit, stopping := s.stopping + 1 }

def join : Option TaskExecutor :=
  if s.stopping = 0 then none
  else if !s.isRuning then some { s with stopping := s.stopping - 1 }
  else if s.workers s.tid = .exited then
    some { s with isRuning := false, stopping := s.stopping - 1 }
  else none

def pop (worker : Nat) : Option TaskExecutor :=
  if s.workers worker = .popping then
    s.queue.pop.map fun (element, queue) =>
      match element with
      | none => s.setWorker worker .exited
      | some task => { s.setWorker worker (.taken task) with queue := queue }
  else none

def begin (worker : Nat) : Option TaskExecutor :=
  match s.workers worker with
  | .taken task => some { s.setWorker worker (.running task) with begun := s.begun ++ [task] }
  | _ => none

def finish (worker : Nat) : Option TaskExecutor :=
  match s.workers worker with
  | .running task => some { s.setWorker worker .popping with finished := s.finished ++ [task] }
  | _ => none

def step : Event → Option TaskExecutor
  | .addSyncTask thread => s.addTask thread true true
  | .addAsyncTask thread isWait => s.addTask thread false isWait
  | .push thread => s.push thread
  | .wake thread => s.wake thread
  | .startThread created => some (s.startThread created)
  | .uninit => some s.uninit
  | .join => s.join
  | .pop worker => s.pop worker
  | .begin worker => s.begin worker
  | .finish worker => s.finish worker

inductive Stepped (s : TaskExecutor) : Event → TaskExecutor → Prop
  | syncEntered (thread : Nat) (hfree : s.calls thread = none) :
      Stepped s (.addSyncTask thread)
        { s.setCall thread (some (.pushing s.tasks true true)) with tasks := s.tasks + 1 }
  | asyncEntered (thread : Nat) (isWait : Bool) (hfree : s.calls thread = none) :
      Stepped s (.addAsyncTask thread isWait)
        { s.setCall thread (some (.pushing s.tasks false isWait)) with tasks := s.tasks + 1 }
  | refused (thread task : Nat) (sync isWait : Bool)
      (hcall : s.calls thread = some (.pushing task sync isWait))
      (hpush : s.queue.push task isWait = some (false, s.queue)) :
      Stepped s (.push thread) (s.setCall thread (afterPush task sync))
  | pushed (thread task : Nat) (sync isWait : Bool)
      (hcall : s.calls thread = some (.pushing task sync isWait))
      (havailable : s.queue.isAvailable) :
      Stepped s (.push thread)
        { s.setCall thread (afterPush task sync) with
          queue := { s.queue with queue := s.queue.queue ++ [task] }
          accepted := s.accepted ++ [task] }
  | woken (thread task : Nat) (hcall : s.calls thread = some (.waiting task))
      (hfinished : task ∈ s.finished) : Stepped s (.wake thread) (s.setCall thread none)
  | notCreated : Stepped s (.startThread false) s
  | created : Stepped s (.startThread true)
      { s.setWorker s.threads .popping with
        isRuning := true, tid := s.threads, threads := s.threads + 1 }
  | uninit : Stepped s .uninit s.uninit
  | joined (isRuning : Bool) :
      Stepped s .join { s with isRuning := isRuning, stopping := s.stopping - 1 }
  | left (worker : Nat) (hworker : s.workers worker = .popping)
      (hgone : s.queue.isAvailable = false) : Stepped s (.pop worker) (s.setWorker worker .exited)
  | popped (worker task : Nat) (rest : List Nat) (hworker : s.workers worker = .popping)
      (havailable : s.queue.isAvailable) (hqueue : s.queue.queue = task :: rest) :
      Stepped s (.pop worker)
        { s.setWorker worker (.taken task) with queue := { s.queue with queue := rest } }
  | begun (worker task : Nat) (hworker : s.workers worker = .taken task) :
      Stepped s (.begin worker)
        { s.setWorker worker (.running task) with begun := s.begun ++ [task] }
  | finished (worker task : Nat) (hworker : s.workers worker = .running task) :
      Stepped s (.finish worker)
        { s.setWorker worker .popping with finished := s.finished ++ [task] }

variable {s} {t : TaskExecutor} {thread worker : Nat}

lemma addTask_eq_some {sync isWait : Bool} (h : s.addTask thread sync isWait = some t) :
    s.calls thread = none ∧
      t = { s.setCall thread (some (.pushing s.tasks sync isWait)) with tasks := s.tasks + 1 } := by
  unfold addTask at h
  split at h
  · cases h
  rename_i hfree
  cases h
  exact ⟨hfree, rfl⟩

lemma stepped_push (h : s.push thread = some t) : Stepped s (.push thread) t := by
  unfold push at h
  split at h
  · rename_i task sync isWait hcall
    obtain ⟨⟨pushed, queue⟩, hpush, rfl⟩ := Option.map_eq_some_iff.1 h
    cases pushed with
    | false =>
      obtain rfl := QueueUtil.push_refused hpush
      exact .refused thread task sync isWait hcall hpush
    | true =>
      obtain ⟨havailable, rfl⟩ := QueueUtil.push_accepted hpush
      exact .pushed thread task sync isWait hcall havailable
  · cases h

lemma stepped_wake (h : s.wake thread = some t) : Stepped s (.wake thread) t := by
  unfold wake at h
  split at h
  · rename_i task hcall
    rw [Option.ite_none_right_eq_some] at h
    obtain ⟨hfinished, h⟩ := h
    cases h
    exact .woken thread task hcall hfinished
  · cases h

lemma stepped_join (h : s.join = some t) : Stepped s .join t := by
  unfold join at h
  split at h
  · cases h
  split at h
  · cases h
    exact .joined s.isRuning
  rw [Option.ite_none_right_eq_some] at h
  obtain ⟨-, h⟩ := h
  cases h
  exact .joined false

lemma stepped_pop (h : s.pop worker = some t) : Stepped s (.pop worker) t := by
  unfold pop at h
  rw [Option.ite_none_right_eq_some] at h
  obtain ⟨hworker, h⟩ := h
  obtain ⟨⟨element, queue⟩, hpop, rfl⟩ := Option.map_eq_some_iff.1 h
  cases element with
  | none =>
    obtain ⟨hgone, -⟩ := QueueUtil.pop_none hpop
    exact .left worker hworker hgone
  | some task =>
    obtain ⟨havailable, hqueue, hrest⟩ := QueueUtil.pop_some hpop
    dsimp only
    rw [hrest]
    exact .popped worker task queue.queue hworker havailable hqueue

lemma stepped_begin (h : s.begin worker = some t) : Stepped s (.begin worker) t := by
  unfold begin at h
  split at h
  · rename_i task hworker
    cases h
    exact .begun worker task hworker
  · cases h

lemma stepped_finish (h : s.finish worker = some t) : Stepped s (.finish worker) t := by
  unfold finish at h
  split at h
  · rename_i task hworker
    cases h
    exact .finished worker task hworker
  · cases h

lemma stepped_of_step {e : Event} (h : s.step e = some t) : Stepped s e t := by
  cases e with
  | addSyncTask thread =>
    obtain ⟨hfree, rfl⟩ := addTask_eq_some h
    exact .syncEntered thread hfree
  | addAsyncTask thread isWait =>
    obtain ⟨hfree, rfl⟩ := addTask_eq_some h
    exact .asyncEntered thread isWait hfree
  | push thread => exact stepped_push h
  | wake thread => exact stepped_wake h
  | startThread created =>
    cases h
    cases created with
    | false => exact .notCreated
    | true => exact .created
  | uninit =>
    cases h
    exact .uninit
  | join => exact stepped_join h
  | pop worker => exact stepped_pop h
  | begin worker => exact stepped_begin h
  | finish worker => exact stepped_finish h

end TaskExecutor
end IntellVoice.Utils
