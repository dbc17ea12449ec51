import IntellVoice.Utils.TaskExecutor

/-! The executor runs one task at a time, in the order of acceptance. -/

namespace IntellVoice.Utils.TaskExecutor
open Transition

structure Sequential (s : TaskExecutor) : Prop where
  one : ∀ i j a b, s.workers i = .running a → s.workers j = .running b → i = j
  inOrder : s.begun <+: s.accepted

def Event.StartsAlone (s : TaskExecutor) : Event → Prop
  | .startThread true => ∀ i, s.workers i = .exited
  | _ => True

structure Follows (s : TaskExecutor) (taken : List Nat) : Prop where
  first : taken <+: s.accepted
  rest : s.queue.isAvailable → s.accepted = taken ++ s.queue.queue

structure Ordered (s : TaskExecutor) : Prop where
  alone : ∀ i j, (s.workers i).alive → (s.workers j).alive → i = j
  idle : (∀ i task, s.workers i ≠ .taken task) → s.Follows s.begun
  inHand : ∀ i task, s.workers i = .taken task → s.Follows (s.begun ++ [task])

variable {s t : TaskExecutor}

lemma Ordered.sequential (h : s.Ordered) : s.Sequential where
  one i j a b hi hj := h.alone i j (by rw [hi]; rfl) (by rw [hj]; rfl)
  inOrder := by
    by_cases hidle : ∀ i task, s.workers i ≠ .taken task
    · exact (h.idle hidle).first
    push Not at hidle
    obtain ⟨i, task, hi⟩ := hidle
    exact (List.prefix_append _ _).trans (h.inHand i task hi).first

lemma Ordered.congr (h : s.Ordered) (hqueue : t.queue = s.queue) (hworkers : t.workers = s.workers)
    (haccepted : t.accepted = s.accepted) (hbegun : t.begun = s.begun) : t.Ordered := by
  have hfollows : ∀ taken, s.Follows taken → t.Follows taken := fun taken hs =>
    ⟨haccepted ▸ hs.first, by rw [hqueue, haccepted]; exact hs.rest⟩
  refine ⟨?_, ?_, ?_⟩
  · rw [hworkers]
    exact h.alone
  · rw [hworkers, hbegun]
    exact fun hidle => hfollows _ (h.idle hidle)
  · rw [hworkers, hbegun]
    exact fun i task hi => hfollows _ (h.inHand i task hi)

variable {worker : Nat}

lemma Ordered.not_taken (h : s.Ordered) (hworker : (s.workers worker).alive) {i : Nat}
    (hne : i ≠ worker) (task : Nat) : s.workers i ≠ .taken task := by
  intro hi
  exact hne (h.alone i worker (by rw [hi]; rfl) hworker)

lemma Ordered.alone_setWorker (h : s.Ordered) (hworker : (s.workers worker).alive)
    (w : Worker) (i j : Nat) (hi : ((s.setWorker worker w).workers i).alive)
    (hj : ((s.setWorker worker w).workers j).alive) : i = j := by
  have honly : ∀ k, ((s.setWorker worker w).workers k).alive → k = worker := by
    intro k hk
    by_contra hne
    exact hne (h.alone k worker (by simpa [setWorker, hne] using hk) hworker)
  rw [honly i hi, honly j hj]

variable {task : Nat}

lemma Ordered.taken_setWorker (h : s.Ordered) (hworker : (s.workers worker).alive)
    {w : Worker} {i : Nat} (hi : (s.setWorker worker w).workers i = .taken task) :
    i = worker ∧ w = .taken task := by
  by_cases hsame : i = worker
  · subst hsame
    exact ⟨rfl, by simpa [setWorker] using hi⟩
  · exact absurd (by simpa [setWorker, hsame] using hi) (h.not_taken hworker hsame task)

lemma Ordered.follows_begun (h : s.Ordered) (hworker : (s.workers worker).alive)
    (hfree : ∀ task, s.workers worker ≠ .taken task) : s.Follows s.begun := by
  refine h.idle fun i task hi => ?_
  by_cases hsame : i = worker
  · subst hsame
    exact hfree task hi
  · exact h.not_taken hworker hsame task hi

lemma Ordered.init (capacity : Nat) : (init capacity).Ordered where
  alone i j hi := by cases hi
  idle _ := ⟨List.prefix_rfl, fun _ => rfl⟩
  inHand i task hi := by cases hi

section
variable (h : s.Ordered)
include h

lemma Ordered.pushed {thread : Nat} {call : Option TaskCall} (havailable : s.queue.isAvailable) :
    Ordered { s.setCall thread call with
      queue := { s.queue with queue := s.queue.queue ++ [task] }
      accepted := s.accepted ++ [task] } := by
  have hfollows : ∀ taken, s.Follows taken → Follows { s.setCall thread call with
      queue := { s.queue with queue := s.queue.queue ++ [task] }
      accepted := s.accepted ++ [task] } taken := by
    intro taken hs
    refine ⟨hs.first.trans (List.prefix_append _ _), fun _ => ?_⟩
    show s.accepted ++ [task] = taken ++ (s.queue.queue ++ [task])
    rw [hs.rest havailable, List.append_assoc]
  exact ⟨h.alone, fun hidle => hfollows _ (h.idle hidle),
    fun i task' hi => hfollows _ (h.inHand i task' hi)⟩

lemma Ordered.uninit : s.uninit.Ordered where
  alone := h.alone
  idle hidle := ⟨(h.idle hidle).first, fun hgone => by cases hgone⟩
  inHand i task hi := ⟨(h.inHand i task hi).first, fun hgone => by cases hgone⟩

lemma Ordered.created (halone : ∀ i, s.workers i = .exited) :
    Ordered { s.setWorker s.threads .popping with
      isRuning := true, tid := s.threads, threads := s.threads + 1 } := by
  have hnone : ∀ i task, s.workers i ≠ .taken task := fun i task hi => by
    cases (halone i).symm.trans hi
  have honly : ∀ i, ((s.setWorker s.threads .popping).workers i).alive → i = s.threads := by
    intro i hi
    by_contra hne
    simp [setWorker, hne, halone i, Worker.alive] at hi
  refine ⟨fun i j hi hj => ?_, fun _ => ?_, fun i task hi => ?_⟩
  · rw [honly i hi, honly j hj]
  · exact ⟨(h.idle hnone).first, (h.idle hnone).rest⟩
  · by_cases hsame : i = s.threads
    · subst hsame
      simp [setWorker] at hi
    · exact absurd (by simpa [setWorker, hsame] using hi) (hnone i task)

lemma Ordered.popped {rest : List Nat} (hworker : s.workers worker = .popping)
    (havailable : s.queue.isAvailable) (hqueue : s.queue.queue = task :: rest) :
    Ordered { s.setWorker worker (.taken task) with queue := { s.queue with queue := rest } } := by
  have halive : (s.workers worker).alive := by rw [hworker]; rfl
  have hs := h.follows_begun halive fun task' => by simp [hworker]
  have hall : s.accepted = s.begun ++ [task] ++ rest := by
    rw [hs.rest havailable, hqueue, List.append_assoc, List.singleton_append]
  refine ⟨h.alone_setWorker halive _, fun hidle => ?_, fun i task' hi => ?_⟩
  · exact absurd (by simp [setWorker]) (hidle worker task)
  · obtain ⟨-, htaken⟩ := h.taken_setWorker halive hi
    cases htaken
    exact ⟨⟨rest, hall.symm⟩, fun _ => hall⟩

lemma Ordered.begun (hworker : s.workers worker = .taken task) :
    Ordered { s.setWorker worker (.running task) with begun := s.begun ++ [task] } := by
  have halive : (s.workers worker).alive := by rw [hworker]; rfl
  have hs := h.inHand worker task hworker
  refine ⟨h.alone_setWorker halive _, fun _ => ⟨hs.first, hs.rest⟩, fun i task' hi => ?_⟩
  cases (h.taken_setWorker halive hi).2

lemma Ordered.setWorker {w : Worker} (hworker : (s.workers worker).alive)
    (hfree : ∀ task, s.workers worker ≠ .taken task) (hw : ∀ task, w ≠ .taken task) :
    (s.setWorker worker w).Ordered := by
  have hs := h.follows_begun hworker hfree
  refine ⟨h.alone_setWorker hworker w, fun _ => ⟨hs.first, hs.rest⟩, fun i task hi => ?_⟩
  exact absurd (h.taken_setWorker hworker hi).2 (hw task)

lemma Ordered.step {e : Event} (hstarts : e.StartsAlone s) (hstep : Stepped s e t) : t.Ordered := by
  cases hstep with
  | syncEntered thread hfree | asyncEntered thread isWait hfree
  | refused thread task sync isWait hcall hpush | woken thread task hcall hfinished
  | joined isRuning => exact h.congr rfl rfl rfl rfl
  | pushed thread task sync isWait hcall havailable => exact h.pushed havailable
  | notCreated => exact h
  | created => exact h.created hstarts
  | uninit => exact h.uninit
  | left worker hworker hgone =>
    exact h.setWorker (by rw [hworker]; rfl) (by simp [hworker]) (by simp)
  | popped worker task rest hworker havailable hqueue => exact h.popped hworker havailable hqueue
  | begun worker task hworker => exact h.begun hworker
  | finished worker task hworker =>
    exact (h.setWorker (by rw [hworker]; rfl) (by simp [hworker]) (by simp)).congr rfl rfl rfl rfl

end

theorem run_sequential (capacity : Nat) (es : List Event) {s : TaskExecutor}
    (hstarts : Along step (fun s e _ => e.StartsAlone s) (init capacity) es)
    (hrun : run step (init capacity) es = some s) : s.Sequential := by
  have hstep : ∀ s e t, Ordered s → Event.StartsAlone s e → step s e = some t → t.Ordered :=
    fun _ _ _ h ha hst => h.step ha (stepped_of_step hst)
  exact (run_invariant hstep (Ordered.init capacity) hstarts hrun).sequential

theorem run_sequential_two_tasks :
    ∃ s, run step (init 2) [.startThread true, .addAsyncTask 1 false, .push 1, .addSyncTask 2,
        .push 2, .pop 0, .begin 0, .finish 0, .pop 0, .begin 0] = some s ∧
      s.begun = [0, 1] ∧ s.Sequential :=
  ⟨_, rfl, rfl, run_sequential 2 [.startThread true, .addAsyncTask 1 false, .push 1, .addSyncTask 2,
      .push 2, .pop 0, .begin 0, .finish 0, .pop 0, .begin 0]
    (.of_step rfl (fun _ => rfl) (.of_step rfl trivial (.of_step rfl trivial (.of_step rfl trivial
      (.of_step rfl trivial (.of_step rfl trivial (.of_step rfl trivial (.of_step rfl trivial
        (.of_step rfl trivial (.of_step rfl trivial trivial)))))))))) rfl⟩

end IntellVoice.Utils.TaskExecutor
