import IntellVoice.Enroll.Engine

/-! A completion does not name its start, and it may wait in the queue. -/

namespace IntellVoice.Enroll
open Transition

structure Handling.KeptApart (h : Handling) : Prop where
  stopped : ∀ source, h.stopped = some source → source.start ≤ h.completion.start
  notified : h.notified ≠ none → ∀ start, h.succeeded = some start → start ≤ h.completion.start

/-- A completion belongs to the last start, and none is pending at a start. -/
def Event.KeepsApart (s : Engine) : Event → Prop
  | .start _ a => s.startsAdapter a → s.pending = []
  | .enrollComplete c => c.start + 1 = s.starts.length
  | _ => True

structure RunsApart (s : Engine) : Prop where
  source : ∀ source, s.audioSource = some source → source.start < s.starts.length
  succeeded : ∀ start, s.succeeded = some start → start < s.starts.length
  pending : ∀ c ∈ s.pending, c.start + 1 = s.starts.length
  handled : ∀ h ∈ s.handled, h.KeptApart

namespace RunsApart
variable {s t : Engine}

lemma created : RunsApart .created where
  source source h := by cases h
  succeeded start h := by cases h
  pending c h := by cases h
  handled h hh := by cases hh

lemma kept (h : RunsApart s) (hkept : s.Kept t) : RunsApart t where
  source source hsource := by
    rw [hkept.starts]
    rcases hkept.source with hsame | hnone
    · exact h.source source (hsame.symm.trans hsource)
    · cases hnone.symm.trans hsource
  succeeded := by
    rw [hkept.starts, hkept.succeeded]
    exact h.succeeded
  pending := by
    rw [hkept.starts, hkept.pending]
    exact h.pending
  handled := by
    rw [hkept.handled]
    exact h.handled

lemma started {isLast : Bool} (h : RunsApart s) (hstarted : s.Started t isLast)
    (hnone : s.pending = []) : RunsApart t where
  source source hsource := by
    have hstart := hstarted.source source hsource
    rw [hstarted.starts, List.length_append, List.length_singleton]
    omega
  succeeded start hstart := by
    rw [hstarted.starts, List.length_append, List.length_singleton]
    rcases hstarted.succeeded with hsame | hnew
    · have hlt := h.succeeded start (hsame.symm.trans hstart)
      omega
    · cases hnew.symm.trans hstart
      omega
  pending c hc := by
    rw [hstarted.pending, hnone] at hc
    cases hc
  handled := by
    rw [hstarted.handled]
    exact h.handled

lemma completed {c : Completion} (h : RunsApart s) (hhandled : s.Handled t c) : RunsApart t := by
  have hlast : c.start + 1 = s.starts.length := by
    apply h.pending c
    rw [hhandled.pending]
    exact List.mem_cons_self
  refine ⟨fun source hsource => ?_, ?_, fun c' hc' => ?_, fun record hrecord => ?_⟩
  · cases hhandled.source.symm.trans hsource
  · rw [hhandled.starts, hhandled.succeeded]
    exact h.succeeded
  · rw [hhandled.starts]
    apply h.pending c'
    rw [hhandled.pending]
    exact List.mem_cons_of_mem _ hc'
  · rw [hhandled.handled] at hrecord
    rcases List.mem_append.1 hrecord with hold | hnew
    · exact h.handled record hold
    obtain rfl := List.mem_singleton.1 hnew
    refine ⟨fun source hsource => ?_, fun _ start hstart => ?_⟩
    · have hlt := h.source source hsource
      show source.start ≤ c.start
      omega
    · have hlt := h.succeeded start hstart
      show start ≤ c.start
      omega

lemma step {e : Event} (h : RunsApart s) (hkeeps : e.KeepsApart s) (hstep : Stepped s e t) :
    RunsApart t := by
  cases hstep with
  | kept e t hkept => exact h.kept hkept
  | started isLast a t hstarts hstarted => exact h.started hstarted (hkeeps hstarts)
  | reported c t hpending hstarts hsucceeded hhandled hsource =>
    refine ⟨?_, ?_, fun c' hc' => ?_, ?_⟩
    · rw [hsource, hstarts]
      exact h.source
    · rw [hsucceeded, hstarts]
      exact h.succeeded
    · rw [hstarts]
      rw [hpending] at hc'
      rcases List.mem_append.1 hc' with hold | hnew
      · exact h.pending c' hold
      · obtain rfl := List.mem_singleton.1 hnew
        exact hkeeps
    · rw [hhandled]
      exact h.handled
  | handled c t hhandled => exact h.completed hhandled

end RunsApart

theorem run_completions_kept_apart (es : List Event) {s : Engine}
    (hkeeps : Along step (fun s e _ => e.KeepsApart s) .created es)
    (hrun : run step .created es = some s) : ∀ h ∈ s.handled, h.KeptApart := by
  have hstep : ∀ s e t, RunsApart s → Event.KeepsApart s e → step s e = some t → RunsApart t :=
    fun _ _ _ h hk hst => h.step hk (stepped_of_step hst)
  exact (run_invariant hstep .created hkeeps hrun).handled

def allGranted : StartAnswers := ⟨0, 0, true, true⟩

theorem run_completions_kept_apart_twice :
    ∃ s, run step .created [.setCallback (some 1), .start false allGranted,
        .enrollComplete ⟨0, "", 0⟩, .pop, .runTask, .start true allGranted,
        .enrollComplete ⟨0, "", 1⟩, .pop, .runTask] = some s ∧
      s.handled.length = 2 ∧ ∀ h ∈ s.handled, h.KeptApart := by
  refine ⟨_, rfl, rfl, run_completions_kept_apart [.setCallback (some 1), .start false allGranted,
    .enrollComplete ⟨0, "", 0⟩, .pop, .runTask, .start true allGranted,
    .enrollComplete ⟨0, "", 1⟩, .pop, .runTask] ?_ rfl⟩
  exact .of_step rfl trivial (.of_step rfl (fun _ => rfl) (.of_step rfl rfl (.of_step rfl trivial
    (.of_step rfl trivial (.of_step rfl (fun _ => rfl) (.of_step rfl rfl (.of_step rfl trivial
      (.of_step rfl trivial trivial))))))))

theorem late_completion_stops_later_source :
    ∃ s, run step .created [.setCallback (some 1), .start false allGranted,
        .enrollComplete ⟨0, "", 0⟩, .stop 0, .start true allGranted, .pop, .runTask] = some s ∧
      s.audioSource = none ∧
      s.handled = [⟨⟨0, "", 0⟩, some 1, some ⟨interval, 1⟩, some 1⟩] ∧
      ¬ ∀ h ∈ s.handled, h.KeptApart := by
  refine ⟨_, rfl, rfl, rfl, fun h => ?_⟩
  have hle := (h _ List.mem_cons_self).stopped ⟨interval, 1⟩ rfl
  exact absurd hle (by decide)

end IntellVoice.Enroll
