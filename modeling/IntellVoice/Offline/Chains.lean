import IntellVoice.Library.Run
import IntellVoice.Offline.Processor

/-! A processor that is used for several calls. -/

namespace IntellVoice.Offline
open Transition

structure ProcessorCall where
  entry : EntryPoint
  answers : Answers

namespace Processor

def step (p : Processor) (call : ProcessorCall) : Option Processor :=
  some (call.entry.call p call.answers).processor

def Releases (p : Processor) (_ : ProcessorCall) (q : Processor) : Prop :=
  ∀ chain, p.created ≤ chain → chain < q.created → q.released.count chain = 1

structure Owned (p : Processor) : Prop where
  nodup : p.released.Nodup
  lt_created : ∀ chain ∈ p.released, chain < p.created
  current : ∀ chain, p.offlineEffectChain = some chain → chain < p.created ∧ chain ∉ p.released

lemma Owned.init : Owned {} := ⟨List.nodup_nil, nofun, nofun⟩

variable {p : Processor}

lemma Owned.dropChain (h : p.Owned) : Owned { p with offlineEffectChain := none } :=
  ⟨h.nodup, h.lt_created, nofun⟩

lemma Owned.withChain (h : p.Owned) : p.withChain.Owned where
  nodup := h.nodup
  lt_created chain hchain := Nat.lt_succ_of_lt (h.lt_created chain hchain)
  current chain hchain := by
    cases hchain
    exact ⟨Nat.lt_succ_self _, fun hmem => Nat.lt_irrefl _ (h.lt_created _ hmem)⟩

lemma Owned.releaseResources (h : p.Owned) : p.releaseResources.Owned := by
  unfold Processor.releaseResources
  split
  · exact h
  rename_i chain hchain
  obtain ⟨hlt, hnew⟩ := h.current chain hchain
  refine ⟨?_, ?_, nofun⟩
  · exact List.nodup_append.2 ⟨h.nodup, List.nodup_singleton _, by
      rintro a ha b hb rfl
      exact hnew (List.mem_singleton.1 hb ▸ ha)⟩
  · intro a ha
    rcases List.mem_append.1 ha with ha | ha
    · exact h.lt_created a ha
    · rw [List.mem_singleton.1 ha]
      exact hlt

lemma Owned.not_releases_withChain (h : p.Owned) (call : ProcessorCall) :
    ¬ Releases p call p.withChain := by
  intro hreleases
  have hcount := hreleases p.created (Nat.le_refl _) (Nat.lt_succ_self _)
  have hnew : p.created ∉ p.released := fun hmem => Nat.lt_irrefl _ (h.lt_created _ hmem)
  rw [show p.withChain.released = p.released from rfl, List.count_eq_zero.2 hnew] at hcount
  exact absurd hcount nofun

lemma Owned.releases_withChain_releaseResources (h : p.Owned) (call : ProcessorCall) :
    Releases p call p.withChain.releaseResources := by
  intro chain hle hlt
  obtain rfl : chain = p.created := Nat.le_antisymm (Nat.le_of_lt_succ hlt) hle
  have hnew : p.created ∉ p.released := fun hmem => Nat.lt_irrefl _ (h.lt_created _ hmem)
  rw [show p.withChain.releaseResources.released = p.released ++ [p.created] from rfl,
    List.count_append, List.count_eq_zero.2 hnew, List.count_singleton_self]

end Processor

def ProcessorCall.Smooth (call : ProcessorCall) : Prop :=
  ∀ c, call.entry.accepted call.answers = some c → call.answers.init.createsChain →
    call.answers.init.Initialises c.frameNumbers ∧
      (call.entry = .processOfflineAudioWhile →
        (processRegistrationCorpusData true call.answers.process c).2 = 0)

namespace Processor
variable {p q : Processor} {call : ProcessorCall}

lemma step_owned (h : p.Owned) (hstep : step p call = some q) : q.Owned := by
  cases hstep
  have hends := call.entry.call_ends p call.answers
  generalize call.entry.call p call.answers = o at hends ⊢
  cases hends with
  | unread => exact h
  | uncreated _ _ _ hq =>
    rcases hq with rfl | rfl
    · exact h
    · exact h.dropChain
  | uninitialised => exact h.withChain
  | processed _ _ _ hq =>
    subst hq
    dsimp only
    split
    · exact h.withChain
    · exact h.withChain.releaseResources

lemma step_releases_iff (h : p.Owned) (hstep : step p call = some q) :
    Releases p call q ↔ call.Smooth := by
  cases hstep
  have hends := call.entry.call_ends p call.answers
  generalize call.entry.call p call.answers = o at hends ⊢
  cases hends with
  | unread haccepted =>
    refine iff_of_true (fun _ hle hlt => absurd hlt (Nat.not_lt.2 hle)) fun c hc => ?_
    exact absurd (haccepted.symm.trans hc) nofun
  | uncreated _ hcreates _ hq =>
    refine iff_of_true (fun _ hle hlt => ?_) fun c _ hc => absurd hc hcreates
    rcases hq with rfl | rfl <;> exact absurd hlt (Nat.not_lt.2 hle)
  | uninitialised haccepted hcreates hinit =>
    refine iff_of_false (h.not_releases_withChain call) fun hsmooth => ?_
    exact hinit (hsmooth _ haccepted hcreates).1
  | processed haccepted hcreates hinit hq =>
    subst hq
    dsimp only
    split
    · rename_i hfailed
      refine iff_of_false (h.not_releases_withChain call) fun hsmooth => ?_
      exact hfailed.2 ((hsmooth _ haccepted hcreates).2 hfailed.1)
    rename_i hdone
    refine iff_of_true (h.releases_withChain_releaseResources call) fun c hc _ => ?_
    cases Option.some.inj (hc.symm.trans haccepted)
    refine ⟨hinit, fun hwhile => ?_⟩
    by_contra hcode
    exact hdone ⟨hwhile, hcode⟩

lemma run_released_nodup {calls : List ProcessorCall} (hrun : run step {} calls = some q) :
    q.releaseResources.released.Nodup := by
  have howned : q.Owned := run_invariant_all (fun _ _ _ hs hstep => step_owned hs hstep)
    Owned.init hrun
  exact howned.releaseResources.nodup

theorem run_releases_iff (calls : List ProcessorCall) :
    Along step Releases {} calls ↔ ∀ call ∈ calls, call.Smooth := by
  rw [← along_label_iff (P := ProcessorCall.Smooth) (s := ({} : Processor))
    fun p call => ⟨_, (rfl : step p call = some _)⟩]
  refine along_iff (I := Owned) (P := fun _ => True) ?_ Owned.init fun _ _ => trivial
  intro p call q hp _ hstep
  exact ⟨step_releases_iff hp hstep, fun _ => step_owned hp hstep⟩

theorem unprepared_chain_unreleased :
    step {} ⟨.processOfflineAudio, sampleReads threeSentences 30000,
      { sampleInit with prepare := 1 }, fun _ _ => 0⟩ = some ⟨some 0, 1, []⟩ ∧
    step ⟨some 0, 1, []⟩ ⟨.processOfflineAudio, sampleReads threeSentences 30000, sampleInit,
      fun _ _ => 0⟩ = some ⟨none, 2, [1]⟩ := by
  decide +kernel

end Processor
end IntellVoice.Offline
