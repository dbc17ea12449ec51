import IntellVoice.Implicit.Request
import IntellVoice.Utils.TaskOrder

/-! Every `INIT_DONE` event starts a thread of the executor. -/

namespace IntellVoice.Implicit
open Transition Utils

def onEnrollEvent (thread : Nat) (created : Bool) (event : CallBackEvent) :
    List TaskExecutor.Event :=
  match event.msgId with
  | .initDone => if event.result ≠ 0 then [] else [.startThread created]
  | .enrollComplete => [.addAsyncTask thread false, .push thread]
  | .other _ => []

theorem init_done_twice_runs_two_tasks :
    let events := [HdiMsg.initDone, .initDone, .enrollComplete, .enrollComplete]
    ∃ s, run TaskExecutor.step (.init maxEnrollTaskNum)
        ((events.flatMap fun msgId => onEnrollEvent 0 true ⟨msgId, 0, ""⟩) ++
          [.pop 0, .pop 1, .begin 1, .begin 0]) = some s ∧
      s.workers 0 = .running 0 ∧ s.workers 1 = .running 1 ∧ s.accepted = [0, 1] ∧
      s.begun = [1, 0] ∧ ¬ s.Sequential := by
  refine ⟨_, rfl, rfl, rfl, rfl, rfl, fun h => ?_⟩
  exact absurd (h.one 0 1 0 1 rfl rfl) (by decide)

inductive ExecutorTask where
  | start (stage : String) (startTime endTime : Int)
  | setParameter (thread : Nat) (paramStr : String)
  | detach (thread : Nat)
  | onEnrollComplete (result : Int) (info : String)
deriving DecidableEq

def ExecutorTask.needsMutex : ExecutorTask → Bool
  | .start _ _ _ => false
  | .setParameter _ _ => false
  | .detach _ => true
  | .onEnrollComplete _ _ => true

inductive ExecutorThread where
  | absent
  | popping
  | running (task : ExecutorTask)
deriving DecidableEq

inductive SetParamPhase where
  | pushing
  | waiting
  | done
deriving DecidableEq

structure MutexHolder where
  thread : Nat
  paramStr : String
  phase : SetParamPhase

def MutexHolder.task (h : MutexHolder) : ExecutorTask := .setParameter h.thread h.paramStr

structure Threads where
  engine : Instance
  queue : QueueUtil ExecutorTask := .init maxEnrollTaskNum
  executor : ExecutorThread := .absent
  holder : Option MutexHolder := none
  detaching : List Nat := []

namespace Threads

inductive Event where
  | startThread
  | setCallback (callback : Callback)
  | setParameter (thread : Nat) (keyValueList : String)
  | pushSetParam
  | wakeSetParam
  | detach (thread : Nat)
  | enrollComplete (result : Int) (info : String)
  | recognizingTimeout
  | pop
  | runTask (ret : Int)

variable (read : String → Parsed) (s : Threads)

def isFree (thread : Nat) : Bool :=
  !s.detaching.contains thread && s.holder.all fun h => h.thread != thread

def post (task : ExecutorTask) : Threads :=
  match s.queue.push task false with
  | some (_, queue) => { s with queue := queue }
  | none => s

def message (m : StateMsg) : Threads := { s with engine := (s.engine.handle read m).2 }

def start (param : Option String) : Threads :=
  let (ret, x) := s.engine.handle read (.startRecognize param)
  let params := x.cell.data.params
  if ret = 0 then
    { s with engine := x }.post (.start params.stage params.startTime params.endTime)
  else { s with engine := x }

def request (thread : Nat) : StateMsg → Threads
  | .startRecognize param => s.start read param
  | .setParam (some paramStr) =>
    if s.engine.state = .initialized then { s with holder := some ⟨thread, paramStr, .pushing⟩ }
    else s
  | m => s.message read m

def runTask (ret : Int) : ExecutorTask → Option Threads
  | .start _ _ _ => some { s with executor := .popping }
  | .setParameter thread _ =>
    some { s with
      executor := .popping
      holder := s.holder.map fun h => if h.thread = thread then { h with phase := .done } else h }
  | .detach thread =>
    if s.holder.isSome then none
    else
      some { s.message read (.release ret) with
        executor := .popping, detaching := s.detaching.erase thread }
  | .onEnrollComplete result info =>
    if s.holder.isSome then none
    else
      some { s.message read (.recognizeComplete (some ⟨.enrollComplete, result, info⟩)) with
        executor := .popping }

def step : Event → Option Threads
  | .startThread => if s.executor = .absent then some { s with executor := .popping } else none
  | .setCallback callback =>
    if s.holder.isSome then none else some (s.message read (.setListener (some callback)))
  | .setParameter thread keyValueList =>
    if !s.isFree thread then none
    else
      match requestOf keyValueList with
      | none => some s
      | some m => if s.holder.isSome then none else some (s.request read thread m)
  | .pushSetParam =>
    match s.holder with
    | some ⟨thread, paramStr, .pushing⟩ =>
      (s.queue.push (.setParameter thread paramStr) true).map fun (_, queue) =>
        { s with queue := queue, holder := some ⟨thread, paramStr, .waiting⟩ }
    | _ => none
  | .wakeSetParam =>
    match s.holder with
    | some ⟨_, paramStr, .done⟩ =>
      some { s.message read (.setParam (some paramStr)) with holder := none }
    | _ => none
  | .detach thread =>
    if !s.isFree thread then none
    else
      (s.queue.push (.detach thread) true).map fun (_, queue) =>
        { s with queue := queue, detaching := thread :: s.detaching }
  | .enrollComplete result info => some (s.post (.onEnrollComplete result info))
  | .recognizingTimeout =>
    if s.holder.isSome then none else some (s.message read .recognizingTimeout)
  | .pop =>
    match s.executor, s.queue.pop with
    | .popping, some (some task, queue) =>
      some { s with executor := .running task, queue := queue }
    | _, _ => none
  | .runTask ret =>
    match s.executor with
    | .running task => s.runTask read ret task
    | _ => none

def Deadlocked : Prop :=
  ∃ h task, s.holder = some h ∧ h.phase ≠ .done ∧ s.executor = .running task ∧
    task.needsMutex

structure MutexUnneeded : Prop where
  queued : ∀ task ∈ s.queue.queue, task.needsMutex = false
  running : ∀ task, s.executor = .running task → task.needsMutex = false

/-- Nothing that needs the mutex is queued ahead of its holder. -/
def Event.AvoidsDeadlock : Event → Prop
  | .setParameter _ keyValueList =>
    ∀ param, requestOf keyValueList = some (.setParam param) → s.engine.state = .initialized →
      s.MutexUnneeded
  | .detach _ => ∀ h, s.holder = some h → h.phase ≠ .pushing
  | .enrollComplete _ _ => ∀ h, s.holder = some h → h.phase ≠ .pushing
  | _ => True

inductive Reaches (task : ExecutorTask) : Prop
  | running (hexecutor : s.executor = .running task)
  | queued (before after : List ExecutorTask) (hqueue : s.queue.queue = before ++ task :: after)
      (hbefore : ∀ other ∈ before, other.needsMutex = false)
      (hrunning : ∀ other, s.executor = .running other → other.needsMutex = false)

structure HolderServed : Prop where
  available : s.queue.isAvailable
  pushing : ∀ h, s.holder = some h → h.phase = .pushing → s.MutexUnneeded
  waiting : ∀ h, s.holder = some h → h.phase = .waiting → s.Reaches h.task

variable {read s} {t : Threads}

lemma HolderServed.not_deadlocked (h : s.HolderServed) : ¬ s.Deadlocked := by
  rintro ⟨holder, task, hholder, hphase, hexecutor, hneeds⟩
  have hfree : task.needsMutex = false := by
    cases hcase : holder.phase with
    | pushing => exact (h.pushing holder hholder hcase).running task hexecutor
    | waiting =>
      cases h.waiting holder hholder hcase with
      | running hown =>
        cases hexecutor.symm.trans hown
        rfl
      | queued before after hqueue hbefore hrunning => exact hrunning task hexecutor
    | done => exact absurd hcase hphase
  rw [hfree] at hneeds
  cases hneeds

lemma HolderServed.congr (h : s.HolderServed) (hqueue : t.queue = s.queue)
    (hexecutor : t.executor = s.executor) (hholder : t.holder = s.holder) : t.HolderServed := by
  refine ⟨?_, fun holder hheld hphase => ?_, fun holder hheld hphase => ?_⟩
  · rw [hqueue]
    exact h.available
  · rw [hholder] at hheld
    have hunneeded := h.pushing holder hheld hphase
    exact ⟨by rw [hqueue]; exact hunneeded.queued, by rw [hexecutor]; exact hunneeded.running⟩
  · rw [hholder] at hheld
    cases h.waiting holder hheld hphase with
    | running hown => exact .running (hexecutor.trans hown)
    | queued before after hlist hbefore hrunning =>
      exact .queued before after (by rw [hqueue]; exact hlist) hbefore
        (by rw [hexecutor]; exact hrunning)

lemma HolderServed.of_free (havailable : t.queue.isAvailable) (hfree : t.holder = none) :
    t.HolderServed := by
  refine ⟨havailable, fun h hheld => ?_, fun h hheld => ?_⟩
  all_goals cases hfree.symm.trans hheld

variable {task : ExecutorTask}

lemma MutexUnneeded.append (h : s.MutexUnneeded)
    (hqueue : t.queue.queue = s.queue.queue ++ [task]) (hexecutor : t.executor = s.executor)
    (hneeds : task.needsMutex = false) : t.MutexUnneeded where
  queued other hother := by
    rw [hqueue] at hother
    rcases List.mem_append.1 hother with hold | hnew
    · exact h.queued other hold
    · obtain rfl := List.mem_singleton.1 hnew
      exact hneeds
  running := by
    rw [hexecutor]
    exact h.running

lemma Reaches.append {other : ExecutorTask} (h : s.Reaches task)
    (hqueue : t.queue.queue = s.queue.queue ++ [other]) (hexecutor : t.executor = s.executor) :
    t.Reaches task := by
  cases h with
  | running hown => exact .running (hexecutor.trans hown)
  | queued before after hlist hbefore hrunning =>
    refine .queued before (after ++ [other]) ?_ hbefore (by rw [hexecutor]; exact hrunning)
    rw [hqueue, hlist, List.append_assoc, List.cons_append]

lemma HolderServed.append (h : s.HolderServed)
    (hqueue : t.queue = { s.queue with queue := s.queue.queue ++ [task] })
    (hexecutor : t.executor = s.executor) (hholder : t.holder = s.holder)
    (hneeds : task.needsMutex = false ∨ ∀ h, s.holder = some h → h.phase ≠ .pushing) :
    t.HolderServed := by
  have hlist : t.queue.queue = s.queue.queue ++ [task] := by rw [hqueue]
  refine ⟨?_, fun holder hheld hphase => ?_, fun holder hheld hphase => ?_⟩
  · rw [hqueue]
    exact h.available
  · rw [hholder] at hheld
    rcases hneeds with hfree | hpushed
    · exact (h.pushing holder hheld hphase).append hlist hexecutor hfree
    · exact absurd hphase (hpushed holder hheld)
  · rw [hholder] at hheld
    exact (h.waiting holder hheld hphase).append hlist hexecutor

lemma HolderServed.post (h : s.HolderServed)
    (hneeds : task.needsMutex = false ∨ ∀ h, s.holder = some h → h.phase ≠ .pushing) :
    (s.post task).HolderServed := by
  unfold Threads.post
  cases hpush : s.queue.push task false with
  | none => exact h
  | some pushed =>
    obtain ⟨accepted, queue⟩ := pushed
    cases accepted with
    | false =>
      obtain rfl := QueueUtil.push_refused hpush
      exact h.congr rfl rfl rfl
    | true =>
      obtain ⟨-, hqueue⟩ := QueueUtil.push_accepted hpush
      exact h.append hqueue rfl rfl hneeds

lemma push_waits {q q' : QueueUtil ExecutorTask} {accepted : Bool}
    (havailable : q.isAvailable) (hpush : q.push task true = some (accepted, q')) :
    q' = { q with queue := q.queue ++ [task] } := by
  cases accepted with
  | true => exact (QueueUtil.push_accepted hpush).2
  | false =>
    by_cases hroom : q.capacity ≤ q.queue.length
    all_goals simp [QueueUtil.push, havailable, hroom] at hpush

section
variable (h : s.HolderServed)
include h

lemma HolderServed.start {param : Option String} : (s.start read param).HolderServed := by
  unfold Threads.start
  dsimp only
  split
  · exact HolderServed.post (h.congr rfl rfl rfl) (.inl rfl)
  · exact h.congr rfl rfl rfl

lemma HolderServed.request {thread : Nat} {m : StateMsg}
    (hm : ∀ param, m = .setParam param → s.engine.state = .initialized → s.MutexUnneeded) :
    (s.request read thread m).HolderServed := by
  unfold Threads.request
  split
  · exact h.start
  · split
    · rename_i paramStr hstate
      have hunneeded := hm _ rfl hstate
      refine ⟨h.available, fun holder hheld _ => ⟨hunneeded.queued, hunneeded.running⟩,
        fun holder hheld hphase => ?_⟩
      cases hheld
      cases hphase
    · exact h
  · exact h.congr rfl rfl rfl

lemma HolderServed.pushed {thread : Nat} {paramStr : String}
    (hholder : s.holder = some ⟨thread, paramStr, .pushing⟩) : HolderServed { s with
      queue := { s.queue with queue := s.queue.queue ++ [.setParameter thread paramStr] }
      holder := some ⟨thread, paramStr, .waiting⟩ } := by
  have hunneeded := h.pushing _ hholder rfl
  refine ⟨h.available, fun holder hheld hphase => ?_, fun holder hheld _ => ?_⟩
  · cases hheld
    cases hphase
  · cases hheld
    exact .queued s.queue.queue [] rfl hunneeded.queued hunneeded.running

lemma HolderServed.popped {queue : QueueUtil ExecutorTask} (hexecutor : s.executor = .popping)
    (hpop : s.queue.pop = some (some task, queue)) :
    HolderServed { s with executor := .running task, queue := queue } := by
  obtain ⟨-, hlist, hrest⟩ := QueueUtil.pop_some hpop
  refine ⟨?_, fun holder hheld hphase => ?_, fun holder hheld hphase => ?_⟩
  · show queue.isAvailable
    rw [hrest]
    exact h.available
  · have hqueued := (h.pushing holder hheld hphase).queued
    rw [hlist] at hqueued
    refine ⟨fun other hother => hqueued other (List.mem_cons_of_mem _ hother),
      fun other hother => ?_⟩
    cases hother
    exact hqueued task List.mem_cons_self
  · cases h.waiting holder hheld hphase with
    | running hown => cases hexecutor.symm.trans hown
    | queued before after hqueue hbefore hrunning =>
      rw [hlist] at hqueue
      cases before with
      | nil =>
        obtain ⟨rfl, -⟩ := List.cons.inj hqueue
        exact .running rfl
      | cons first before =>
        obtain ⟨rfl, htail⟩ := List.cons.inj hqueue
        refine .queued before after htail (fun other hother => ?_) fun other hother => ?_
        · exact hbefore other (List.mem_cons_of_mem _ hother)
        · cases hother
          exact hbefore task List.mem_cons_self

lemma HolderServed.threadStarted (habsent : s.executor = .absent) :
    HolderServed { s with executor := .popping } := by
  refine ⟨h.available, fun holder hheld hphase => ?_, fun holder hheld hphase => ?_⟩
  · exact ⟨(h.pushing holder hheld hphase).queued, fun other hother => (by cases hother)⟩
  · cases h.waiting holder hheld hphase with
    | running hown => cases habsent.symm.trans hown
    | queued before after hqueue hbefore _ =>
      exact .queued before after hqueue hbefore fun other hother => (by cases hother)

lemma HolderServed.finished (hexecutor : s.executor = .running task) (hholder : t.holder = s.holder)
    (hqueue : t.queue = s.queue) (hpopping : t.executor = .popping)
    (hother : ∀ holder, s.holder = some holder → holder.task ≠ task) : t.HolderServed := by
  have hrunning : ∀ other, t.executor = .running other → other.needsMutex = false := by
    intro other hrun
    cases hpopping.symm.trans hrun
  refine ⟨?_, fun holder hheld hphase => ?_, fun holder hheld hphase => ?_⟩
  · rw [hqueue]
    exact h.available
  · rw [hholder] at hheld
    exact ⟨by rw [hqueue]; exact (h.pushing holder hheld hphase).queued, hrunning⟩
  · rw [hholder] at hheld
    cases h.waiting holder hheld hphase with
    | running hown =>
      cases hexecutor.symm.trans hown
      exact absurd rfl (hother holder hheld)
    | queued before after hlist hbefore _ =>
      exact .queued before after (by rw [hqueue]; exact hlist) hbefore hrunning

end

lemma HolderServed.done {holder : MutexHolder} (havailable : t.queue.isAvailable)
    (hholder : t.holder = some holder) (hdone : holder.phase = .done) : t.HolderServed := by
  refine ⟨havailable, fun h hheld hphase => ?_, fun h hheld hphase => ?_⟩
  all_goals
    cases hholder.symm.trans hheld
    cases hdone.symm.trans hphase

lemma HolderServed.runTask {ret : Int} (h : s.HolderServed)
    (hexecutor : s.executor = .running task) (hrun : s.runTask read ret task = some t) :
    t.HolderServed := by
  cases task with
  | start stage startTime endTime =>
    cases hrun
    exact h.finished hexecutor rfl rfl rfl fun holder _ => by simp [MutexHolder.task]
  | setParameter thread paramStr =>
    cases hrun
    cases hholder : s.holder with
    | none => exact .of_free h.available (by simp)
    | some holder =>
      by_cases hthread : holder.thread = thread
      · refine .done h.available (show _ = some { holder with phase := .done } from ?_) rfl
        simp [hthread]
      refine h.finished hexecutor (by simp [hholder, hthread]) rfl rfl fun holder' hheld => ?_
      cases hholder.symm.trans hheld
      simp [MutexHolder.task, hthread]
  | detach thread | onEnrollComplete result info =>
    obtain ⟨hfree, hrun⟩ := Option.ite_none_left_eq_some.1 hrun
    cases hrun
    have hnone : s.holder = none := by simpa using hfree
    exact .of_free h.available hnone

lemma HolderServed.step {e : Event} (h : s.HolderServed) (havoids : e.AvoidsDeadlock s)
    (hstep : s.step read e = some t) : t.HolderServed := by
  cases e with
  | startThread =>
    obtain ⟨habsent, hstep⟩ := Option.ite_none_right_eq_some.1 hstep
    cases hstep
    exact h.threadStarted habsent
  | setCallback callback | recognizingTimeout =>
    obtain ⟨-, hstep⟩ := Option.ite_none_left_eq_some.1 hstep
    cases hstep
    exact h.congr rfl rfl rfl
  | setParameter thread keyValueList =>
    obtain ⟨-, hstep⟩ := Option.ite_none_left_eq_some.1 hstep
    cases hrequest : requestOf keyValueList with
    | none =>
      rw [hrequest] at hstep
      cases hstep
      exact h
    | some m =>
      rw [hrequest] at hstep
      obtain ⟨-, hstep⟩ := Option.ite_none_left_eq_some.1 hstep
      cases hstep
      refine h.request fun param hm hstate => ?_
      exact havoids param (hm ▸ hrequest) hstate
  | pushSetParam =>
    simp only [Threads.step] at hstep
    split at hstep
    · rename_i thread paramStr hholder
      obtain ⟨⟨accepted, queue⟩, hpush, rfl⟩ := Option.map_eq_some_iff.1 hstep
      obtain rfl := push_waits h.available hpush
      exact h.pushed hholder
    · cases hstep
  | wakeSetParam =>
    simp only [Threads.step] at hstep
    split at hstep
    · cases hstep
      exact .of_free h.available rfl
    · cases hstep
  | detach thread =>
    obtain ⟨-, hstep⟩ := Option.ite_none_left_eq_some.1 hstep
    obtain ⟨⟨accepted, queue⟩, hpush, rfl⟩ := Option.map_eq_some_iff.1 hstep
    exact h.append (push_waits h.available hpush) rfl rfl (.inr havoids)
  | enrollComplete result info =>
    cases hstep
    exact h.post (.inr havoids)
  | pop =>
    simp only [Threads.step] at hstep
    split at hstep
    · rename_i task queue hexecutor hpop
      cases hstep
      exact h.popped hexecutor hpop
    · cases hstep
  | runTask ret =>
    simp only [Threads.step] at hstep
    split at hstep
    · rename_i task hexecutor
      exact h.runTask hexecutor hstep
    · cases hstep

def created : Threads := { engine := .fresh {} }

theorem run_not_deadlocked (read : String → Parsed) (es : List Event) {s : Threads}
    (havoids : Along (Threads.step read) (fun s e _ => e.AvoidsDeadlock s) created es)
    (hrun : run (Threads.step read) created es = some s) : ¬ s.Deadlocked := by
  have hinitial : created.HolderServed := .of_free rfl rfl
  have hstep : ∀ s e t, HolderServed s → Event.AvoidsDeadlock s e →
      Threads.step read s e = some t → t.HolderServed := fun _ _ _ h ha hst => h.step ha hst
  exact (run_invariant hstep hinitial havoids hrun).not_deadlocked

theorem run_not_deadlocked_then_complete :
    ∃ s, run (Threads.step fun _ => .invalid) created [.startThread, .setParameter 1 "clear_data=1",
        .pushSetParam, .enrollComplete 0 "", .pop, .runTask 0, .pop] = some s ∧
      s.executor = .running (.onEnrollComplete 0 "") ∧ ¬ s.Deadlocked := by
  refine ⟨_, rfl, rfl, run_not_deadlocked (fun _ => .invalid) [.startThread,
    .setParameter 1 "clear_data=1", .pushSetParam, .enrollComplete 0 "", .pop, .runTask 0, .pop]
    ?_ rfl⟩
  refine .of_step rfl trivial (.of_step rfl ?_ (.of_step rfl trivial (.of_step rfl ?_
    (.of_step rfl trivial (.of_step rfl trivial (.of_step rfl trivial trivial))))))
  · exact fun param _ _ => ⟨fun task htask => (by cases htask), fun task htask => (by cases htask)⟩
  · intro h hholder
    cases hholder
    exact fun hphase => by cases hphase

theorem complete_before_clear_data_deadlocks :
    ∃ s, run (Threads.step fun _ => .invalid) created [.startThread, .enrollComplete 0 "",
        .setParameter 1 "clear_data=1", .pushSetParam, .pop] = some s ∧ s.Deadlocked :=
  ⟨_, rfl, ⟨1, "clear_data=1", .waiting⟩, .onEnrollComplete 0 "", rfl, by decide, rfl, rfl⟩

end Threads
end IntellVoice.Implicit
