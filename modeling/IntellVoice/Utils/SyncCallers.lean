import IntellVoice.Utils.TaskExecutor

/-! A caller of `AddSyncTask` waits for the future of its task. -/

namespace IntellVoice.Utils.TaskExecutor
open Transition

def started (capacity : Nat) : TaskExecutor := (init capacity).startThread true

def Serves (s : TaskExecutor) (task : Nat) : Prop :=
  (task ∈ s.queue.queue ∧ s.queue.isAvailable ∧ ∃ i, (s.workers i).alive) ∨
    (∃ i, s.workers i = .taken task ∨ s.workers i = .running task) ∨ task ∈ s.finished

/-- No sync task is pushed to, or left in, a queue that is shut down. -/
def Event.KeepsCallers (s : TaskExecutor) : Event → Prop
  | .addSyncTask _ => s.queue.isAvailable
  | .uninit =>
    (∀ thread task isWait, s.calls thread ≠ some (.pushing task true isWait)) ∧
      ∀ thread task, s.calls thread = some (.waiting task) → task ∉ s.queue.queue
  | _ => True

structure CallersServed (s : TaskExecutor) : Prop where
  made : ∀ i, s.threads ≤ i → s.workers i = .exited
  alive : s.queue.isAvailable → ∃ i, (s.workers i).alive
  pushing : ∀ thread task isWait, s.calls thread = some (.pushing task true isWait) →
    isWait ∧ s.queue.isAvailable
  waiting : ∀ thread task, s.calls thread = some (.waiting task) → s.Serves task

variable {s t : TaskExecutor}

lemma alive_setWorker {i worker : Nat} {w : Worker} (hw : w.alive)
    (hi : (s.workers i).alive) : ((s.setWorker worker w).workers i).alive := by
  by_cases hsame : i = worker
  · subst hsame
    simpa [setWorker] using hw
  · simpa [setWorker, hsame] using hi

lemma has_setWorker {i worker task : Nat} (w : Worker) (hfree : s.workers worker = .popping)
    (hi : s.workers i = .taken task ∨ s.workers i = .running task) :
    (s.setWorker worker w).workers i = .taken task ∨
      (s.setWorker worker w).workers i = .running task := by
  have hne : i ≠ worker := by
    rintro rfl
    simp [hfree] at hi
  simpa [setWorker, hne] using hi

lemma Serves.setWorker {task : Nat} (h : s.Serves task) (worker : Nat) {w : Worker} (hw : w.alive) :
    (s.setWorker worker w).Serves task ∨
      s.workers worker = .taken task ∨ s.workers worker = .running task := by
  rcases h with ⟨hmem, havailable, i, hi⟩ | ⟨i, hi⟩ | hfinished
  · exact .inl (.inl ⟨hmem, havailable, i, alive_setWorker hw hi⟩)
  · by_cases hsame : i = worker
    · subst hsame
      exact .inr hi
    · exact .inl (.inr (.inl ⟨i, by simpa [TaskExecutor.setWorker, hsame] using hi⟩))
  · exact .inl (.inr (.inr hfinished))

namespace CallersServed

lemma init (capacity : Nat) : (started capacity).CallersServed where
  made i hi := Function.update_of_ne (by simp [started, startThread] at hi; omega) _ _
  alive _ := ⟨0, rfl⟩
  pushing thread task isWait h := by cases h
  waiting thread task h := by cases h

lemma setCall (thread : Nat) (call : Option TaskCall) (h : s.CallersServed)
    (hpushing : ∀ task isWait, call = some (.pushing task true isWait) →
      isWait ∧ s.queue.isAvailable)
    (hwaiting : ∀ task, call = some (.waiting task) → s.Serves task) :
    (s.setCall thread call).CallersServed where
  made := h.made
  alive := h.alive
  pushing i task isWait hi := by
    by_cases hsame : i = thread
    · subst hsame
      exact hpushing task isWait (by simpa [TaskExecutor.setCall] using hi)
    · exact h.pushing i task isWait (by simpa [TaskExecutor.setCall, hsame] using hi)
  waiting i task hi := by
    by_cases hsame : i = thread
    · subst hsame
      exact hwaiting task (by simpa [TaskExecutor.setCall] using hi)
    · exact h.waiting i task (by simpa [TaskExecutor.setCall, hsame] using hi)

lemma returned (thread : Nat) (h : s.CallersServed) : (s.setCall thread none).CallersServed := by
  refine h.setCall thread none (fun task isWait hcall => ?_) fun task hcall => ?_
  all_goals cases hcall

variable {isWait : Bool} {task thread worker : Nat}

lemma not_refused (h : s.CallersServed)
    (hcall : s.calls thread = some (.pushing task true isWait)) :
    s.queue.push task isWait ≠ some (false, s.queue) := by
  obtain ⟨rfl, havailable⟩ := h.pushing thread task isWait hcall
  by_cases hroom : s.queue.capacity ≤ s.queue.queue.length
  all_goals simp [QueueUtil.push, havailable, hroom]

lemma enqueue (task : Nat) (accepted : List Nat) (h : s.CallersServed) : CallersServed { s with
      queue := { s.queue with queue := s.queue.queue ++ [task] }, accepted := accepted } where
  made := h.made
  alive := h.alive
  pushing := h.pushing
  waiting thread task' hcall := by
    refine (h.waiting thread task' hcall).imp_left fun ⟨hmem, hrest⟩ => ⟨?_, hrest⟩
    exact List.mem_append_left _ hmem

lemma pushed {sync : Bool} (h : s.CallersServed)
    (hcall : s.calls thread = some (.pushing task sync isWait)) (havailable : s.queue.isAvailable) :
    CallersServed { s.setCall thread (afterPush task sync) with
      queue := { s.queue with queue := s.queue.queue ++ [task] }
      accepted := s.accepted ++ [task] } := by
  refine (h.enqueue task (s.accepted ++ [task])).setCall thread (afterPush task sync) ?_ ?_
  · intro task' isWait' hnext
    cases sync <;> cases hnext
  · intro task' hnext
    cases sync with
    | false => cases hnext
    | true =>
      cases hnext
      exact .inl ⟨by simp, havailable, h.alive havailable⟩

lemma uninit (h : s.CallersServed) (hkeeps : Event.uninit.KeepsCallers s) :
    s.uninit.CallersServed where
  made := h.made
  alive hgone := by cases hgone
  pushing thread task isWait hcall := absurd hcall (hkeeps.1 thread task isWait)
  waiting thread task hcall := by
    rcases h.waiting thread task hcall with ⟨hmem, -⟩ | hserved
    · exact absurd hmem (hkeeps.2 thread task hcall)
    · exact .inr hserved

lemma created (h : s.CallersServed) : CallersServed { s.setWorker s.threads .popping with
      isRuning := true, tid := s.threads, threads := s.threads + 1 } where
  made i hi := by
    have hlt : s.threads < i := hi
    have hne : i ≠ s.threads := by omega
    simpa [setWorker, hne] using h.made i hlt.le
  alive _ := ⟨s.threads, by simp [setWorker, Worker.alive]⟩
  pushing := h.pushing
  waiting thread task hcall := by
    have hnew : Worker.popping.alive := rfl
    rcases (h.waiting thread task hcall).setWorker s.threads hnew with hserved | hhand
    · exact hserved
    · simp [h.made s.threads le_rfl] at hhand

lemma left (h : s.CallersServed) (hworker : s.workers worker = .popping)
    (hgone : s.queue.isAvailable = false) : (s.setWorker worker .exited).CallersServed where
  made i hi := by
    by_cases hsame : i = worker
    · subst hsame
      simp [setWorker]
    · simpa [setWorker, hsame] using h.made i hi
  alive havailable := by
    cases hgone.symm.trans havailable
  pushing := h.pushing
  waiting thread task hcall := by
    rcases h.waiting thread task hcall with ⟨-, havailable, -⟩ | ⟨i, hi⟩ | hfinished
    · cases hgone.symm.trans havailable
    · exact .inr (.inl ⟨i, has_setWorker .exited hworker hi⟩)
    · exact .inr (.inr hfinished)

lemma made_setWorker (w : Worker) (h : s.CallersServed) (hworker : s.workers worker ≠ .exited)
    (i : Nat) (hi : s.threads ≤ i) : (s.setWorker worker w).workers i = .exited := by
  have hne : i ≠ worker := by
    rintro rfl
    exact hworker (h.made i hi)
  simpa [setWorker, hne] using h.made i hi

lemma popped {rest : List Nat} (h : s.CallersServed) (hworker : s.workers worker = .popping)
    (hqueue : s.queue.queue = task :: rest) : CallersServed { s.setWorker worker (.taken task) with
      queue := { s.queue with queue := rest } } where
  made := h.made_setWorker _ (by simp [hworker])
  alive _ := ⟨worker, by simp [setWorker, Worker.alive]⟩
  pushing := h.pushing
  waiting thread task' hcall := by
    rcases h.waiting thread task' hcall with ⟨hmem, havailable, i, hi⟩ | ⟨i, hi⟩ | hfinished
    · rw [hqueue, List.mem_cons] at hmem
      rcases hmem with rfl | hmem
      · -- the task that the caller waits for is the one taken here
        exact .inr (.inl ⟨worker, .inl (by simp [setWorker])⟩)
      · exact .inl ⟨hmem, havailable, i, alive_setWorker rfl hi⟩
    · exact .inr (.inl ⟨i, has_setWorker _ hworker hi⟩)
    · exact .inr (.inr hfinished)

lemma begun (h : s.CallersServed) (hworker : s.workers worker = .taken task) :
    CallersServed { s.setWorker worker (.running task) with begun := s.begun ++ [task] } where
  made := h.made_setWorker _ (by simp [hworker])
  alive _ := ⟨worker, by simp [setWorker, Worker.alive]⟩
  pushing := h.pushing
  waiting thread task' hcall := by
    have hnow : (Worker.running task).alive := rfl
    rcases (h.waiting thread task' hcall).setWorker worker hnow with hserved | hhand
    · exact hserved
    · obtain rfl : task = task' := by simpa [hworker] using hhand
      exact .inr (.inl ⟨worker, .inr (by simp [setWorker])⟩)

lemma finished (h : s.CallersServed) (hworker : s.workers worker = .running task) :
    CallersServed { s.setWorker worker .popping with finished := s.finished ++ [task] } where
  made := h.made_setWorker _ (by simp [hworker])
  alive _ := ⟨worker, by simp [setWorker, Worker.alive]⟩
  pushing := h.pushing
  waiting thread task' hcall := by
    have hnow : Worker.popping.alive := rfl
    rcases (h.waiting thread task' hcall).setWorker worker hnow with hserved | hhand
    · exact hserved.imp_right fun hrest => hrest.imp_right fun hold => List.mem_append_left _ hold
    · obtain rfl : task = task' := by simpa [hworker] using hhand
      exact .inr (.inr (by simp))

lemma step {e : Event} (h : s.CallersServed) (hkeeps : e.KeepsCallers s)
    (hstep : Stepped s e t) : t.CallersServed := by
  cases hstep with
  | syncEntered thread hfree =>
    have hnew := h.setCall thread (some (.pushing s.tasks true true))
      (fun task isWait hcall => by
        cases hcall
        exact ⟨rfl, hkeeps⟩)
      (fun task hcall => by cases hcall)
    exact ⟨hnew.made, hnew.alive, hnew.pushing, hnew.waiting⟩
  | asyncEntered thread isWait hfree =>
    have hnew := h.setCall thread (some (.pushing s.tasks false isWait))
      (fun task isWait hcall => by cases hcall) (fun task hcall => by cases hcall)
    exact ⟨hnew.made, hnew.alive, hnew.pushing, hnew.waiting⟩
  | refused thread task sync isWait hcall hpush =>
    cases sync with
    | false => exact h.returned thread
    | true => exact absurd hpush (h.not_refused hcall)
  | pushed thread task sync isWait hcall havailable => exact h.pushed hcall havailable
  | woken thread task hcall hfinished => exact h.returned thread
  | notCreated => exact h
  | created => exact h.created
  | uninit => exact h.uninit hkeeps
  | joined isRuning => exact ⟨h.made, h.alive, h.pushing, h.waiting⟩
  | left worker hworker hgone => exact h.left hworker hgone
  | popped worker task rest hworker havailable hqueue => exact h.popped hworker hqueue
  | begun worker task hworker => exact h.begun hworker
  | finished worker task hworker => exact h.finished hworker

end CallersServed

theorem run_callers_served (capacity : Nat) (es : List Event) {s : TaskExecutor}
    (hkeeps : Along step (fun s e _ => e.KeepsCallers s) (started capacity) es)
    (hrun : run step (started capacity) es = some s) (thread task : Nat)
    (hwaits : s.calls thread = some (.waiting task)) : s.Serves task := by
  have hstep : ∀ s e t, CallersServed s → Event.KeepsCallers s e → step s e = some t →
      t.CallersServed := fun _ _ _ h hk hst => h.step hk (stepped_of_step hst)
  exact (run_invariant hstep (CallersServed.init capacity) hkeeps hrun).waiting thread task hwaits

theorem run_callers_served_running :
    ∃ s, run step (started 1) [.addSyncTask 1, .push 1, .pop 0, .begin 0, .uninit] = some s ∧
      s.calls 1 = some (.waiting 0) ∧ s.Serves 0 := by
  refine ⟨_, rfl, rfl, run_callers_served 1 [.addSyncTask 1, .push 1, .pop 0, .begin 0, .uninit]
    (.of_step rfl rfl (.of_step rfl trivial (.of_step rfl trivial (.of_step rfl trivial
      (.of_step rfl ⟨fun thread task isWait hcall => ?_, fun thread task hcall => ?_⟩ trivial)))))
    rfl 1 0 rfl⟩
  · rcases thread with _ | _ | n <;> cases hcall
  · exact List.not_mem_nil

theorem stop_drops_queued_task :
    ∃ s, run step (started 1) [.addSyncTask 1, .push 1, .uninit, .pop 0, .join] = some s ∧
      s.calls 1 = some (.waiting 0) ∧ ¬ s.Serves 0 := by
  refine ⟨_, rfl, rfl, ?_⟩
  rintro (⟨hmem, -⟩ | ⟨i, hi⟩ | hfinished)
  · cases hmem
  · rcases i with _ | i <;> rcases hi with hi | hi <;> cases hi
  · cases hfinished

end IntellVoice.Utils.TaskExecutor
