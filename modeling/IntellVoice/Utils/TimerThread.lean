import IntellVoice.Library.History
import IntellVoice.Library.Run
import IntellVoice.Utils.TimerQueue

/-! Threads set, reset and kill timers while the timer thread waits. -/

namespace IntellVoice.Utils
open Transition List TimerMgr

structure TimerPurpose (ι ο : Type*) where
  type : ι
  observer : ο
  serial : Nat

structure TimerRequest (ι ο : Type*) where
  type : ι
  delayUs : Int
  cookie : Int := 0
  currObserver : Option ο := none

inductive TimerLoop (ι ο : Type*) where
  | ready
  | sleeping (wakeUp : Option Int) (notified : Bool)
  | calling (item : TimerItem (TimerPurpose ι ο))
  | exited

inductive ResetPart (ι ο : Type*) where
  | killing (timerId : Nat) (request : TimerRequest ι ο)
  | setting (request : TimerRequest ι ο)

inductive TimerRecord where
  | target (serial : Nat) (tgtUs : Int)
  | killed (serial : Nat)
  | event (serial : Nat) (time : Int)

/-- The timer queue, its thread and the resets that are under way. -/
structure TimerSystem (ι ο : Type*) where
  now : Int := 0
  mgr : TimerMgr (TimerPurpose ι ο)
  timerObserver : Option ο
  thread : TimerLoop ι ο := .ready
  resets : Nat → Option (ResetPart ι ο) := fun _ => none
  count : Nat := 0
  history : List TimerRecord := []

inductive TimerAction (ι ο : Type*) where
  | tick (us : Nat)
  | setTimer (request : TimerRequest ι ο)
  | killTimer (timerId : Nat)
  | resetTimer (caller timerId : Nat) (request : TimerRequest ι ο)
  | resume (caller : Nat)
  | turn
  | wake
  | notifyObserver

def TimerMgr.needNotify {ι : Type*} (mgr : TimerMgr ι) (tgtUs : Int) : Bool :=
  match mgr.itemQueue with
  | [] => true
  | it :: _ => !(it.tgtUs < tgtUs)

namespace TimerSystem
variable {ι ο : Type*}

def notify (s : TimerSystem ι ο) : TimerSystem ι ο :=
  match s.thread with
  | .sleeping wakeUp _ => { s with thread := .sleeping wakeUp true }
  | _ => s

def targetRecord (it : TimerItem (TimerPurpose ι ο)) : TimerRecord :=
  .target it.type.serial it.tgtUs

def setTimer (s : TimerSystem ι ο) (r : TimerRequest ι ο) : TimerSystem ι ο :=
  match r.currObserver.or s.timerObserver with
  | none => s
  | some observer =>
    match s.mgr.setTimer s.now ⟨⟨r.type, observer, s.count⟩, r.delayUs, r.cookie⟩ with
    | (none, _) => s
    | (some _, mgr) =>
      let added : TimerSystem ι ο :=
        { s with
          mgr
          count := s.count + 1
          history := s.history ++ [.target s.count (s.now + r.delayUs)] }
      if s.mgr.needNotify (s.now + r.delayUs) then added.notify else added

def killTimer (s : TimerSystem ι ο) (timerId : Nat) : TimerSystem ι ο :=
  match s.mgr.itemQueue.find? (·.timerId == timerId) with
  | none => s
  | some it =>
    { s with
      mgr := s.mgr.killTimer timerId
      history := s.history ++ [.killed it.type.serial] }

def resetTimer (s : TimerSystem ι ο) (caller timerId : Nat) (r : TimerRequest ι ο) :
    TimerSystem ι ο :=
  match s.mgr.resetSole s.now timerId r.delayUs with
  -- the ids do not correspond
  | some (none, _) => s
  | some (some _, mgr) =>
    let moved : TimerSystem ι ο :=
      { s with mgr, history := s.history ++ mgr.itemQueue.map targetRecord }
    moved.notify
  | none => { s with resets := Function.update s.resets caller (some (.killing timerId r)) }

def turn (s : TimerSystem ι ο) : TimerSystem ι ο :=
  if s.mgr.status ≠ .started then { s with thread := .exited }
  else
    match s.mgr.itemQueue with
    -- nothing to wait for: the thread sleeps until it is notified
    | [] => { s with thread := .sleeping none false }
    | it :: _ =>
      match s.mgr.expire s.now with
      -- `wait_for` with the time that is left of the first timer
      | none => { s with thread := .sleeping (some (s.now + (it.tgtUs - s.now))) false }
      | some (item, mgr) => { s with mgr, thread := .calling item }

def step (s : TimerSystem ι ο) : TimerAction ι ο → Option (TimerSystem ι ο)
  | .tick us => some { s with now := s.now + us }
  | .setTimer r => some (s.setTimer r)
  | .killTimer timerId => some (s.killTimer timerId)
  | .resetTimer caller timerId r =>
    match s.resets caller with
    | none => some (s.resetTimer caller timerId r)
    | some _ => none
  | .resume caller =>
    match s.resets caller with
    | none => none
    | some (.killing timerId r) =>
      -- the mutex was free since the last visit, so others may have come between
      some { s.killTimer timerId with
        resets := Function.update s.resets caller (some (.setting r)) }
    | some (.setting r) =>
      some { s.setTimer r with resets := Function.update s.resets caller none }
  | .turn =>
    match s.thread with
    | .ready => some s.turn
    | _ => none
  | .wake =>
    match s.thread with
    | .sleeping _ _ => some { s with thread := .ready }
    | _ => none
  | .notifyObserver =>
    match s.thread with
    | .calling item =>
      some { s with
        thread := .ready
        history := s.history ++ [.event item.type.serial s.now] }
    | _ => none

def started (maxTimerNum : Nat) (observer : Option ο) : TimerSystem ι ο where
  mgr := { idFlags := replicate maxTimerNum false }
  timerObserver := observer

end TimerSystem

namespace TimerRecord

def serial : TimerRecord → Nat
  | target n _ => n
  | killed n => n
  | event n _ => n

def targetOf (n : Nat) : TimerRecord → Option Int
  | target m tgtUs => if m = n then some tgtUs else none
  | _ => none

def lastTarget (n : Nat) (history : List TimerRecord) : Option Int :=
  History.latest (targetOf n) history

def Allowed (past : List TimerRecord) (n : Nat) (time : Int) : Prop :=
  (∃ tgtUs, lastTarget n past = some tgtUs ∧ tgtUs ≤ time) ∧
    (∀ earlier, event n earlier ∉ past) ∧ killed n ∉ past

def EventsAllowed (history : List TimerRecord) : Prop :=
  ∀ past n time future, history = past ++ event n time :: future → Allowed past n time

lemma targetOf_of_serial_ne {r : TimerRecord} {n : Nat} (hne : r.serial ≠ n) :
    r.targetOf n = none := by
  cases r with
  | target m tgtUs => exact if_neg hne
  | killed m | event m time => rfl

lemma EventsAllowed.concat {history : List TimerRecord} {r : TimerRecord}
    (h : EventsAllowed history) (hr : ∀ n time, r = event n time → Allowed history n time) :
    EventsAllowed (history ++ [r]) := by
  intro past n time future hsplit
  -- the event is the new record, or lies in what was there
  rcases future.eq_nil_or_concat with rfl | ⟨before, last, rfl⟩
  · obtain ⟨rfl, hlast⟩ := append_inj' hsplit rfl
    exact hr n time (singleton_inj.1 hlast)
  have hsplit' : history ++ [r] = (past ++ event n time :: before) ++ [last] := by
    rw [hsplit, concat_eq_append, append_assoc, cons_append]
  exact h past n time before (append_inj' hsplit' rfl).1

end TimerRecord

namespace TimerSystem
open TimerRecord
variable {ι ο : Type*} {s : TimerSystem ι ο}

def held (s : TimerSystem ι ο) : List (TimerItem (TimerPurpose ι ο)) :=
  match s.thread with
  | .calling item => item :: s.mgr.itemQueue
  | _ => s.mgr.itemQueue

structure Pending (history : List TimerRecord) (it : TimerItem (TimerPurpose ι ο)) : Prop where
  target : lastTarget it.type.serial history = some it.tgtUs
  unfired : ∀ time, event it.type.serial time ∉ history
  alive : killed it.type.serial ∉ history

def WakesInTime (s : TimerSystem ι ο) : Prop :=
  ∀ wakeUp, s.thread = .sleeping wakeUp false →
    ∀ it ∈ s.mgr.itemQueue, ∃ time, wakeUp = some time ∧ time ≤ it.tgtUs

structure Booked (s : TimerSystem ι ο) : Prop where
  accounted : s.mgr.Accounted
  pending : ∀ it ∈ s.held, Pending s.history it
  serials : (s.held.map (·.type.serial)).Nodup
  due : ∀ it, s.thread = .calling it → it.tgtUs ≤ s.now
  numbered : ∀ r ∈ s.history, r.serial < s.count
  events : EventsAllowed s.history

lemma booked_started (maxTimerNum : Nat) (observer : Option ο) :
    (started maxTimerNum observer : TimerSystem ι ο).Booked where
  accounted := accounted_replicate maxTimerNum
  pending it hit := absurd hit not_mem_nil
  serials := .nil
  due _ hthread := by cases hthread
  numbered r hr := absurd hr not_mem_nil
  events past n time future hsplit := by simp [started] at hsplit

variable {it : TimerItem (TimerPurpose ι ο)} {history : List TimerRecord} {r : TimerRecord}

lemma Pending.concat (h : Pending history it) (hother : r.serial ≠ it.type.serial) :
    Pending (history ++ [r]) it where
  target := by
    rw [lastTarget, History.latest_concat, targetOf_of_serial_ne hother]
    exact h.target
  unfired time hmem := by
    rcases mem_append.1 hmem with hmem | hmem
    · exact h.unfired time hmem
    · exact hother (mem_singleton.1 hmem ▸ rfl)
  alive hmem := by
    rcases mem_append.1 hmem with hmem | hmem
    · exact h.alive hmem
    · exact hother (mem_singleton.1 hmem ▸ rfl)

lemma Pending.of_target (it : TimerItem (TimerPurpose ι ο))
    (hunfired : ∀ time, event it.type.serial time ∉ history)
    (halive : killed it.type.serial ∉ history) :
    Pending (history ++ [.target it.type.serial it.tgtUs]) it where
  target := by
    rw [lastTarget, History.latest_concat, targetOf, if_pos rfl]
    rfl
  unfired time hmem := hunfired time (by simpa using hmem)
  alive hmem := halive (by simpa using hmem)

lemma Pending.allowed (h : Pending history it) {time : Int} (hdue : it.tgtUs ≤ time) :
    Allowed history it.type.serial time :=
  ⟨⟨it.tgtUs, h.target, hdue⟩, h.unfired, h.alive⟩

lemma numbered_concat {count count' : Nat} (h : ∀ r ∈ history, r.serial < count)
    (hle : count ≤ count') (hr : r.serial < count') :
    ∀ r' ∈ history ++ [r], r'.serial < count' := by
  intro r' hr'
  rcases mem_append.1 hr' with hr' | hr'
  · exact lt_of_lt_of_le (h r' hr') hle
  · exact mem_singleton.1 hr' ▸ hr

lemma queue_sublist_held (s : TimerSystem ι ο) : s.mgr.itemQueue.Sublist s.held := by
  unfold held
  split
  · exact sublist_cons_self _ _
  · exact List.Sublist.refl _

lemma mem_held_of_queue (hit : it ∈ s.mgr.itemQueue) :
    it ∈ s.held := (queue_sublist_held s).subset hit

lemma held_of_calling (hthread : s.thread = .calling it) : s.held = it :: s.mgr.itemQueue := by
  unfold held
  rw [hthread]

lemma held_of_idle (hidle : ∀ it, s.thread ≠ .calling it) : s.held = s.mgr.itemQueue := by
  unfold held
  split
  · rename_i it hthread
    exact absurd hthread (hidle it)
  · rfl

lemma mem_held_of_calling (hthread : s.thread = .calling it) : it ∈ s.held := by
  rw [held_of_calling hthread]
  exact .head _

namespace Booked

lemma serial_lt (h : s.Booked) {it : TimerItem (TimerPurpose ι ο)} (hit : it ∈ s.held) :
    it.type.serial < s.count := by
  -- a timer that is held has a target in the history
  obtain ⟨r, hr, htarget⟩ := History.exists_of_latest_eq_some (h.pending it hit).target
  have hserial : r.serial = it.type.serial := by
    by_contra hne
    rw [targetOf_of_serial_ne hne] at htarget
    cases htarget
  exact hserial ▸ h.numbered r hr

lemma serial_ne (h : s.Booked) {it other : TimerItem (TimerPurpose ι ο)} (hit : it ∈ s.held)
    (hother : other ∈ s.held) (hne : it ≠ other) : it.type.serial ≠ other.type.serial :=
  fun hsame => hne (inj_on_of_nodup_map h.serials hit hother hsame)

lemma calling_not_mem_queue (h : s.Booked) {it : TimerItem (TimerPurpose ι ο)}
    (hthread : s.thread = .calling it) : it.type.serial ∉ s.mgr.itemQueue.map (·.type.serial) := by
  have hserials := h.serials
  rw [held_of_calling hthread] at hserials
  exact (nodup_cons.1 hserials).1

lemma tick (h : s.Booked) (us : Nat) : ({ s with now := s.now + us } : TimerSystem ι ο).Booked where
  accounted := h.accounted
  pending := h.pending
  serials := h.serials
  due it hthread := by
    have := h.due it hthread
    show it.tgtUs ≤ s.now + us
    omega
  numbered := h.numbered
  events := h.events

lemma idle (h : s.Booked) (hidle : ∀ it, s.thread ≠ .calling it) {thread : TimerLoop ι ο}
    (hidle' : ∀ it, thread ≠ .calling it) : ({ s with thread } : TimerSystem ι ο).Booked := by
  have hsame : ({ s with thread } : TimerSystem ι ο).held = s.held :=
    (held_of_idle hidle').trans (held_of_idle hidle).symm
  refine ⟨h.accounted, ?_, ?_, fun it hthread => absurd hthread (hidle' it), h.numbered, h.events⟩
  · rw [hsame]
    exact h.pending
  · rw [hsame]
    exact h.serials

lemma notify (h : s.Booked) : s.notify.Booked := by
  unfold TimerSystem.notify
  split
  · -- a sleeping thread holds no timer, notified or not
    rename_i wakeUp notified hthread
    refine h.idle (fun it hcalling => ?_) (fun it hcalling => ?_)
    · rw [hthread] at hcalling
      cases hcalling
    · cases hcalling
  · exact h

variable {mgr : TimerMgr (TimerPurpose ι ο)}

lemma booked_queue (h : s.Booked) {r : TimerRecord} {count : Nat} (haccounted : mgr.Accounted)
    (hpending : ∀ it ∈ mgr.itemQueue, Pending (s.history ++ [r]) it)
    (hserials : (mgr.itemQueue.map (·.type.serial)).Nodup)
    (hcalling : ∀ it, s.thread = .calling it → r.serial ≠ it.type.serial ∧
      it.type.serial ∉ mgr.itemQueue.map (·.type.serial)) (hcount : s.count ≤ count)
    (hr : r.serial < count) (hevent : ∀ n time, r ≠ event n time) :
    ({ s with mgr, count, history := s.history ++ [r] } : TimerSystem ι ο).Booked where
  accounted := haccounted
  pending it hit := by
    unfold held at hit
    split at hit
    · -- the timer in the hand of the thread is not the one the record is about
      rename_i item hthread
      rcases mem_cons.1 hit with rfl | hit
      · exact (h.pending it (mem_held_of_calling hthread)).concat (hcalling it hthread).1
      · exact hpending it hit
    · exact hpending it hit
  serials := by
    unfold held
    split
    · rename_i item hthread
      exact .cons (hcalling item hthread).2 hserials
    · exact hserials
  due := h.due
  numbered := numbered_concat h.numbered hcount hr
  events := h.events.concat fun n time heq => absurd heq (hevent n time)

variable {delayUs : Int} {i : Nat} {item : TimerItem (TimerPurpose ι ο)}

lemma setTimer (h : s.Booked) {type : ι} {observer : ο} {cookie : Int}
    (hset : s.mgr.setTimer s.now ⟨⟨type, observer, s.count⟩, delayUs, cookie⟩ = (some i, mgr)) :
    ({ s with
      mgr
      count := s.count + 1
      history := s.history ++ [.target s.count (s.now + delayUs)] } : TimerSystem ι ο).Booked := by
  have haccounted := h.accounted.setTimer s.now ⟨⟨type, observer, s.count⟩, delayUs, cookie⟩
  rw [hset] at haccounted
  rcases s.mgr.setTimer_cases s.now ⟨⟨type, observer, s.count⟩, delayUs, cookie⟩ with
    hrefused | ⟨j, -, hdone⟩
  · rw [hset] at hrefused
    cases hrefused
  · rw [hset] at hdone
    cases hdone
    -- every record is of an earlier timer
    have hfresh : ∀ r ∈ s.history, r.serial ≠ s.count := fun r hr => (h.numbered r hr).ne
    have hperm := (insertItem_perm
      ⟨i, (⟨type, observer, s.count⟩ : TimerPurpose ι ο), cookie, s.now + delayUs⟩
      s.mgr.itemQueue).map (·.type.serial)
    have hold : ∀ it ∈ s.held, it.type.serial ≠ s.count := fun it hit => (h.serial_lt hit).ne
    refine h.booked_queue haccounted (fun it hit => ?_) ?_ (fun it hthread => ?_)
      (Nat.le_succ _) (Nat.lt_succ_self _) (fun n time heq => by cases heq)
    · rcases mem_insertItem.1 hit with rfl | hit
      · exact Pending.of_target ⟨i, ⟨type, observer, s.count⟩, cookie, s.now + delayUs⟩
          (fun time hmem => hfresh _ hmem rfl) (fun hmem => hfresh _ hmem rfl)
      · have hheld := mem_held_of_queue hit
        exact (h.pending it hheld).concat (hold it hheld).symm
    · refine hperm.nodup_iff.2 (.cons (fun hmem => ?_) (h.serials.sublist ?_))
      · obtain ⟨it, hit, hserial⟩ := mem_map.1 hmem
        exact hold it (mem_held_of_queue hit) hserial
      · exact (queue_sublist_held s).map _
    · have hheld : it ∈ s.held := mem_held_of_calling hthread
      refine ⟨(hold it hheld).symm, fun hmem => ?_⟩
      rcases mem_cons.1 (hperm.mem_iff.1 hmem) with hserial | hmem
      · exact hold it hheld hserial
      · exact calling_not_mem_queue h hthread hmem

lemma killTimer (h : s.Booked) (timerId : Nat) : (s.killTimer timerId).Booked := by
  unfold TimerSystem.killTimer
  cases hfind : s.mgr.itemQueue.find? (·.timerId == timerId) with
  | none => exact h
  | some found =>
    have hfound : found ∈ s.mgr.itemQueue := mem_of_find?_eq_some hfind
    obtain rfl : found.timerId = timerId := by simpa using find?_some hfind
    -- the item that was looked up is the one `KillTimer` erases
    rcases s.mgr.killTimer_cases found.timerId with ⟨-, hnot⟩ | ⟨-, hkill⟩
    · exact absurd (mem_map_of_mem hfound) hnot
    have hqueue : (s.mgr.killTimer found.timerId).itemQueue =
        eraseItem found.timerId s.mgr.itemQueue := by rw [hkill]
    have hsub : (s.mgr.killTimer found.timerId).itemQueue.Sublist s.mgr.itemQueue := by
      rw [hqueue]
      exact eraseItem_sublist _ _
    have hheld := mem_held_of_queue hfound
    refine h.booked_queue (h.accounted.killTimer _) (fun it hit => ?_) ?_ (fun it hthread => ?_)
      le_rfl (h.serial_lt hheld) (fun n time heq => by cases heq)
    · rw [hqueue, mem_eraseItem h.accounted.distinct] at hit
      have hheld' := mem_held_of_queue hit.1
      exact (h.pending it hheld').concat
        (h.serial_ne hheld hheld' fun hsame => hit.2 (hsame ▸ rfl))
    · exact h.serials.sublist ((hsub.trans (queue_sublist_held s)).map _)
    · have hcalling := h.calling_not_mem_queue hthread
      refine ⟨fun hsame => hcalling ?_, fun hmem => hcalling ((hsub.map _).subset hmem)⟩
      exact hsame ▸ mem_map_of_mem hfound

lemma resetSole (h : s.Booked) {timerId : Nat}
    (hsole : s.mgr.resetSole s.now timerId delayUs = some (some i, mgr)) :
    ({ s with mgr, history := s.history ++ mgr.itemQueue.map targetRecord } :
      TimerSystem ι ο).Booked := by
  rcases resetSole_cases hsole with ⟨⟨⟩, -⟩ | ⟨it, hqueue, -, -, hmgr⟩
  have hit : it ∈ s.mgr.itemQueue := by
    rw [hqueue]
    exact .head _
  have hheld := mem_held_of_queue hit
  have hnew : mgr.itemQueue = [{ it with tgtUs := s.now + delayUs }] := by rw [hmgr]
  -- the timer keeps its number, only the target is new
  have hserial : it.type.serial < s.count := h.serial_lt hheld
  rw [hnew]
  refine h.booked_queue (h.accounted.resetSole hsole) (fun it' hit' => ?_) ?_
    (fun it' hthread => ?_) le_rfl hserial (fun n time heq => by cases heq)
  · rw [hnew] at hit'
    obtain rfl := mem_singleton.1 hit'
    exact .of_target _ (h.pending it hheld).unfired (h.pending it hheld).alive
  · rw [hnew]
    exact nodup_singleton _
  · have hcalling := h.calling_not_mem_queue hthread
    rw [hqueue] at hcalling
    rw [hnew]
    exact ⟨fun hsame => hcalling (hsame ▸ .head _), hcalling⟩

lemma expire (h : s.Booked) (hidle : ∀ it, s.thread ≠ .calling it)
    (hexpire : s.mgr.expire s.now = some (item, mgr)) :
    ({ s with mgr, thread := .calling item } : TimerSystem ι ο).Booked := by
  obtain ⟨hdue, rest, hqueue, hmgr⟩ := expire_cases hexpire
  -- the item moves from the list into the hand of the thread, so the same timers are held
  have hheld : ({ s with mgr, thread := .calling item } : TimerSystem ι ο).held = s.held := by
    rw [held_of_idle hidle, hqueue, hmgr]
    rfl
  refine ⟨h.accounted.expire hexpire, ?_, ?_, fun it hthread => ?_, h.numbered, h.events⟩
  · rw [hheld]
    exact h.pending
  · rw [hheld]
    exact h.serials
  · cases hthread
    exact hdue

lemma notifyObserver (h : s.Booked) (hthread : s.thread = .calling item) : ({ s with
      thread := .ready
      history := s.history ++ [.event item.type.serial s.now] } : TimerSystem ι ο).Booked := by
  have hitem := mem_held_of_calling hthread
  refine ⟨h.accounted, fun it hit => ?_, ?_, fun it hcalling => ?_, ?_, ?_⟩
  · have hother : item.type.serial ≠ it.type.serial := fun hsame =>
      h.calling_not_mem_queue hthread (hsame ▸ mem_map_of_mem hit)
    exact (h.pending it (mem_held_of_queue hit)).concat hother
  · exact h.serials.sublist ((queue_sublist_held s).map _)
  · cases hcalling
  · exact numbered_concat h.numbered le_rfl (h.serial_lt hitem)
  · -- `due` was recorded when the item was taken, and no step can kill the timer from then on
    refine h.events.concat fun n time heq => ?_
    cases heq
    exact (h.pending item hitem).allowed (h.due item hthread)

end Booked

structure Sound (s : TimerSystem ι ο) : Prop extends Booked s where
  wakes : s.WakesInTime

lemma wakesInTime_of_awake (hawake : ∀ wakeUp, s.thread ≠ .sleeping wakeUp false) :
    s.WakesInTime := fun wakeUp hthread => absurd hthread (hawake wakeUp)

lemma wakesInTime_notify (s : TimerSystem ι ο) : s.notify.WakesInTime := by
  refine wakesInTime_of_awake fun wakeUp hthread => ?_
  unfold notify at hthread
  split at hthread
  · cases hthread
  -- nobody sleeps
  rename_i hawake
  exact hawake wakeUp false hthread

lemma WakesInTime.insert (h : s.WakesInTime) {item : TimerItem (TimerPurpose ι ο)}
    (hlater : s.mgr.needNotify item.tgtUs = false) {wakeUp : Option Int}
    (hthread : s.thread = .sleeping wakeUp false) : ∀ it ∈ insertItem item s.mgr.itemQueue,
      ∃ time, wakeUp = some time ∧ time ≤ it.tgtUs := by
  intro it hit
  rcases mem_insertItem.1 hit with rfl | hit
  · unfold TimerMgr.needNotify at hlater
    split at hlater
    · cases hlater
    rename_i first rest hqueue
    -- the thread wakes up for the first timer, which is not later than the new one
    obtain ⟨time, hwake, htime⟩ := h wakeUp hthread first (by rw [hqueue]; exact .head _)
    have hfirst : first.tgtUs < it.tgtUs := by simpa using hlater
    exact ⟨time, hwake, by omega⟩
  · exact h wakeUp hthread it hit

namespace Sound

lemma resets (h : s.Sound) (resets : Nat → Option (ResetPart ι ο)) :
    ({ s with resets } : TimerSystem ι ο).Sound :=
  ⟨⟨h.accounted, h.pending, h.serials, h.due, h.numbered, h.events⟩, h.wakes⟩

lemma setTimer (h : s.Sound) (r : TimerRequest ι ο) : (s.setTimer r).Sound := by
  unfold TimerSystem.setTimer
  cases r.currObserver.or s.timerObserver with
  | none => exact h
  | some observer =>
    dsimp only
    generalize hset : s.mgr.setTimer s.now ⟨⟨r.type, observer, s.count⟩, r.delayUs, r.cookie⟩ = res
    obtain ⟨_ | i, mgr⟩ := res
    · exact h
    have hbooked := h.toBooked.setTimer hset
    dsimp only
    split
    · exact ⟨hbooked.notify, wakesInTime_notify _⟩
    -- no notification, so the new timer is not the first one
    rename_i hlater
    refine ⟨hbooked, fun wakeUp hthread => ?_⟩
    rcases s.mgr.setTimer_cases s.now ⟨⟨r.type, observer, s.count⟩, r.delayUs, r.cookie⟩ with
      hrefused | ⟨j, -, hdone⟩
    · rw [hset] at hrefused
      cases hrefused
    · rw [hset] at hdone
      cases hdone
      exact h.wakes.insert (Bool.eq_false_iff.2 hlater) hthread

lemma killTimer (h : s.Sound) (timerId : Nat) : (s.killTimer timerId).Sound := by
  refine ⟨h.toBooked.killTimer timerId, ?_⟩
  unfold TimerSystem.killTimer
  split
  · exact h.wakes
  intro wakeUp hthread it hit
  -- fewer timers only make it wake up too early
  refine h.wakes wakeUp hthread it ?_
  rcases s.mgr.killTimer_cases timerId with ⟨hsame, -⟩ | ⟨-, hkill⟩
  · rwa [hsame] at hit
  · rw [hkill] at hit
    exact (eraseItem_sublist _ _).subset hit

lemma resetTimer (h : s.Sound) (caller timerId : Nat) (r : TimerRequest ι ο) :
    (s.resetTimer caller timerId r).Sound := by
  unfold TimerSystem.resetTimer
  cases hsole : s.mgr.resetSole s.now timerId r.delayUs with
  | none => exact h.resets _
  | some moved =>
    obtain ⟨_ | i, mgr⟩ := moved
    · exact h
    · -- moved, perhaps to an earlier time, hence the notification
      exact ⟨(h.toBooked.resetSole hsole).notify, wakesInTime_notify _⟩

lemma turn (h : s.Sound) (hready : s.thread = .ready) : s.turn.Sound := by
  have hidle : ∀ it, s.thread ≠ .calling it := by
    intro it hcalling
    rw [hready] at hcalling
    cases hcalling
  unfold TimerSystem.turn
  split
  · exact ⟨h.idle hidle (fun it heq => by cases heq),
      wakesInTime_of_awake fun _ heq => by cases heq⟩
  cases hqueue : s.mgr.itemQueue with
  | nil =>
    refine ⟨h.idle hidle (fun it heq => by cases heq), fun wakeUp _ it hit => ?_⟩
    have hmem : it ∈ s.mgr.itemQueue := hit
    rw [hqueue] at hmem
    exact absurd hmem not_mem_nil
  | cons first rest =>
    cases hexpire : s.mgr.expire s.now with
    | some taken =>
      exact ⟨h.toBooked.expire hidle hexpire, wakesInTime_of_awake fun _ heq => by cases heq⟩
    | none =>
      refine ⟨h.idle hidle (fun it heq => by cases heq), fun wakeUp hthread it hit => ?_⟩
      cases hthread
      -- the first timer is the earliest
      have hmem : it ∈ s.mgr.itemQueue := hit
      have hsorted := h.accounted.sorted
      rw [hqueue] at hsorted hmem
      refine ⟨_, rfl, ?_⟩
      rcases mem_cons.1 hmem with rfl | hmem
      · omega
      · have := (pairwise_cons.1 hsorted).1 it hmem
        omega

end Sound

lemma step_sound {s t : TimerSystem ι ο} {e : TimerAction ι ο} (h : s.Sound)
    (hstep : s.step e = some t) : t.Sound := by
  cases e with
  | tick us =>
    cases hstep
    exact ⟨h.toBooked.tick us, h.wakes⟩
  | setTimer r =>
    cases hstep
    exact h.setTimer r
  | killTimer timerId =>
    cases hstep
    exact h.killTimer timerId
  | resetTimer caller timerId r =>
    cases hcaller : s.resets caller with
    | none =>
      obtain rfl : s.resetTimer caller timerId r = t := by simpa [step, hcaller] using hstep
      exact h.resetTimer caller timerId r
    | some part => simp [step, hcaller] at hstep
  | resume caller =>
    cases hcaller : s.resets caller with
    | none => simp [step, hcaller] at hstep
    | some part =>
      simp only [step, hcaller] at hstep
      cases part with
      | killing timerId r =>
        cases hstep
        exact (h.killTimer timerId).resets _
      | setting r =>
        cases hstep
        exact (h.setTimer r).resets _
  | turn =>
    cases hthread : s.thread with
    | ready =>
      obtain rfl : s.turn = t := by simpa [step, hthread] using hstep
      exact h.turn hthread
    | _ => simp [step, hthread] at hstep
  | wake =>
    cases hthread : s.thread with
    | sleeping wakeUp notified =>
      simp only [step, hthread] at hstep
      cases hstep
      refine ⟨h.idle (fun it hcalling => ?_) (fun it heq => by cases heq),
        wakesInTime_of_awake fun _ heq => by cases heq⟩
      rw [hthread] at hcalling
      cases hcalling
    | _ => simp [step, hthread] at hstep
  | notifyObserver =>
    cases hthread : s.thread with
    | calling item =>
      simp only [step, hthread] at hstep
      cases hstep
      exact ⟨h.toBooked.notifyObserver hthread, wakesInTime_of_awake fun _ heq => by cases heq⟩
    | _ => simp [step, hthread] at hstep

theorem run_timers_sound (maxTimerNum : Nat) (observer : Option ο) (es : List (TimerAction ι ο))
    (s : TimerSystem ι ο) (hrun : run step (started maxTimerNum observer) es = some s) :
    s.mgr.Accounted ∧ EventsAllowed s.history ∧ s.WakesInTime := by
  have hsound : s.Sound :=
    run_invariant_all (fun _ _ _ h hstep => step_sound h hstep)
      ⟨booked_started maxTimerNum observer, wakesInTime_of_awake fun _ heq => by cases heq⟩ hrun
  exact ⟨hsound.accounted, hsound.events, hsound.wakes⟩

theorem run_timers_sound_reset :
    ∃ s : TimerSystem Nat Unit, run step (started 10 (some ())) [.setTimer ⟨1, 50, 0, none⟩, .turn,
        .tick 30, .resetTimer 7 0 ⟨1, 50, 0, none⟩, .wake, .tick 50, .turn,
        .setTimer ⟨2, 5, 0, none⟩, .notifyObserver] = some s ∧
      s.history = [.target 0 50, .target 0 80, .target 1 85, .event 0 80] ∧
      s.mgr.Accounted ∧ EventsAllowed s.history ∧ s.WakesInTime :=
  ⟨_, rfl, rfl, run_timers_sound 10 (some ()) [.setTimer ⟨1, 50, 0, none⟩, .turn, .tick 30,
    .resetTimer 7 0 ⟨1, 50, 0, none⟩, .wake, .tick 50, .turn, .setTimer ⟨2, 5, 0, none⟩,
    .notifyObserver] _ rfl⟩

end TimerSystem
end IntellVoice.Utils
