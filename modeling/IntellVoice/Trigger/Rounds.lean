import IntellVoice.Trigger.Success

/-! Both loops over the models have one round for a model at rest. -/

namespace IntellVoice.Trigger
variable {M : Type*} {p : Platform} {mod : ConnectorModule M}

lemma Io.ready_of_getModule {io : Io M} (hget : (io.getModule mod).1) :
    (io.getModule mod).2.moduleReady := by
  unfold Io.getModule at hget ⊢
  split
  · assumption
  · rw [if_neg ‹_›] at hget
    exact hget

lemma Io.getModule_of_ready {io : Io M} (hready : io.moduleReady) :
    io.getModule mod = (true, io) := by
  simp [Io.getModule, hready]

section Start
variable {ctx : StartContext} {c : Cell M}

lemma loaded_of_prepared (hprep : (prepareForRecognition mod c).1 = 0)
    (hstate : c.data.state ≠ .started) : (prepareForRecognition mod c).2.data.state = .loaded ∧
      (prepareForRecognition mod c).2.io.moduleReady := by
  cases hget : (c.io.getModule mod).1 with
  | false =>
    simp only [prepareForRecognition, hget, Bool.not_false, if_true] at hprep
    exact absurd hprep (by decide)
  | true =>
    have hready := Io.ready_of_getModule hget
    simp only [prepareForRecognition, hget, Bool.not_true, Bool.false_eq_true, if_false]
      at hprep ⊢
    by_cases hzero : (loadModel mod { c with io := (c.io.getModule mod).2 }).1 = 0
    · simp only [hzero, ne_eq, not_true_eq_false, if_false]
      -- only a model that is not loaded makes the call that can fail
      cases hold : c.data.state with
      | notLoaded =>
        simp only [loadModel, hold, hready, ne_eq, not_true_eq_false, if_false, Bool.not_true,
          Bool.false_eq_true] at hzero ⊢
        split at hzero
        · exact absurd hzero ‹_›
        · rw [if_neg ‹_›]
          exact ⟨rfl, hready⟩
      | loaded => simp [loadModel, hold, hready]
      | started => exact absurd hold hstate
    · simp only [hzero, ne_eq, not_false_eq_true, if_true] at hprep
      exact absurd hprep (by decide)

lemma foldStatusOperation_eq (mod : ConnectorModule M) {ctx : StartContext} (c : Cell M)
    (hfoldable : ctx.isFoldable) : foldStatusOperation mod ctx c =
      if ctx.firstUuid = some c.data.uuid then
        { reLoadWhisperModel mod ctx c with
          io := setFoldStatus mod ctx (reLoadWhisperModel mod ctx c).io }
      else reLoadWhisperModel mod ctx c := by
  -- the reload may replace the model, never its uuid
  have huuid := ((cellInvariant_acts mod c).reLoadWhisperModel ctx (.refl c)).uuid
  simp only [foldStatusOperation, hfoldable, huuid, Bool.not_true, Bool.false_eq_true, if_false]

lemma beforeStart_of_window (mod : ConnectorModule M) (ctx : StartContext) (c : Cell M)
    (hwindow : ctx.windowManager) : beforeStart mod ctx c = if ctx.onlyFirstStage then
        { foldStatusOperation mod ctx c with
          io := handleWakeupInputGain ctx (foldStatusOperation mod ctx c).io }
      else foldStatusOperation mod ctx c := by
  simp only [beforeStart, hwindow, if_true]

end Start

inductive ModelLoop where
  | onUpdateAllRecognitionState
  | startAllRecognition

def attempt (mod : ConnectorModule M) (ctx : StartContext) (c : Cell M) : Bool × Cell M :=
  let r := prepareForRecognition mod c
  if r.1 ≠ 0 then (false, r.2) else (true, (startRecognition mod ctx r.2).2)

def halt (mod : ConnectorModule M) (hibernate : Bool) (c : Cell M) : Cell M :=
  let c := (stopRecognition mod c).2
  if hibernate then (unloadModel mod c).2 else c

def TriggerModelData.Starts (conflict : Bool) (d : TriggerModelData) : Prop :=
  (d.requested && !conflict) ∧ d.state ≠ .started

namespace ModelLoop
variable {l : ModelLoop} {conflict hibernate : Bool} {ctx : StartContext} {c : Cell M}

def op (mod : ConnectorModule M) (ctx : StartContext) (conflict hibernate : Bool) :
    ModelLoop → Cell M → Bool × Cell M
  | onUpdateAllRecognitionState => updateRecognitionState mod ctx conflict hibernate
  | startAllRecognition => startNeeded mod ctx conflict

def Due (conflict : Bool) (d : TriggerModelData) : ModelLoop → Prop
  | onUpdateAllRecognitionState => (d.requested && !conflict) ≠ decide (d.state = .started)
  | startAllRecognition => d.Starts conflict

lemma due_of_starts {d : TriggerModelData} (hstarts : d.Starts conflict) : l.Due conflict d := by
  cases l with
  | onUpdateAllRecognitionState => simp [Due, hstarts.1, hstarts.2]
  | startAllRecognition => exact hstarts

lemma op_of_starts (hstarts : c.data.Starts conflict) :
    l.op mod ctx conflict hibernate c = attempt mod ctx c := by
  cases l with
  | onUpdateAllRecognitionState =>
    simp only [op, updateRecognitionState, hstarts.1, hstarts.2, decide_false, Bool.true_eq_false,
      if_false, if_true]
    rfl
  | startAllRecognition =>
    simp only [op, startNeeded, hstarts.1, Bool.not_true, Bool.false_eq_true, if_false]
    rfl

lemma op_of_not_due (hdue : ¬ l.Due conflict c.data) (hc : c.data.NeedsModule c.io) :
    l.op mod ctx conflict hibernate c = (true, c) := by
  cases l with
  | onUpdateAllRecognitionState =>
    simp only [op, updateRecognitionState]
    rw [if_pos (not_not.1 hdue)]
  | startAllRecognition =>
    simp only [op, startNeeded]
    by_cases hneed : (c.data.requested && !conflict)
    · -- the model runs already, so its module is set and both calls return at once
      have hstate : c.data.state = .started := by
        by_contra hne
        exact hdue ⟨hneed, hne⟩
      have hready : c.io.moduleReady := hc (by simp [hstate])
      simp [hneed, prepareForRecognition, Io.getModule_of_ready hready, loadModel, hstate,
        startRecognition]
    · rw [Bool.eq_false_of_not_eq_true hneed]
      rfl

lemma op_of_running (mod : ConnectorModule M) (ctx : StartContext) (hibernate : Bool)
    (hdue : l.Due conflict c.data) (hstarts : ¬ c.data.Starts conflict) :
    c.data.state = .started ∧ l.op mod ctx conflict hibernate c = (true, halt mod hibernate c) := by
  cases l with
  | onUpdateAllRecognitionState =>
    have hstate : c.data.state = .started := by
      by_contra hne
      refine hstarts ⟨?_, hne⟩
      have hneed : (c.data.requested && !conflict) ≠ false := by simpa [Due, hne] using hdue
      exact Bool.eq_true_of_not_eq_false hneed
    -- it runs and the loop has something to do, so it is not wanted
    have hneed : (c.data.requested && !conflict) = false := by
      apply Bool.eq_false_of_not_eq_true
      intro hneed
      exact hdue (by simp [hneed, hstate])
    simp only [op, updateRecognitionState, hneed, hstate, decide_true, Bool.false_eq_true,
      if_false, true_and]
    rfl
  -- this loop stops nothing
  | startAllRecognition => exact absurd hdue hstarts

lemma reactionOp_op (mod : ConnectorModule M) (l : ModelLoop) (ctx : StartContext)
    (conflict hibernate : Bool) : ReactionOp mod (l.op mod ctx conflict hibernate) := by
  cases l with
  | onUpdateAllRecognitionState => exact .update ctx conflict hibernate
  | startAllRecognition => exact .start ctx conflict

def exec (p : Platform) (mod : ConnectorModule M) (h : Helper M) : ModelLoop → Helper M
  | onUpdateAllRecognitionState => h.onUpdateAllRecognitionState p mod
  | startAllRecognition => h.startAllRecognition p mod

def round (p : Platform) (mod : ConnectorModule M) (l : ModelLoop) (uuid : Int) (h : Helper M) :
    Bool × Helper M :=
  h.onCell uuid true (l.op mod (h.startContext p) (h.conflict p) h.env.systemHibernate)

lemma exec_eq (l : ModelLoop) (h : Helper M) : l.exec p mod h = h.forModels (l.round p mod) := by
  cases l <;> rfl

end ModelLoop

lemma Helper.KeysAgree.firstUuid_iff {h : Helper M} {k : Int} {d : TriggerModelData}
    (hkeys : h.KeysAgree) (hd : h.find k = some d) :
    (h.startContext p).firstUuid = some k ↔ ∀ u e, h.find u = some e → k ≤ u := by
  constructor
  · intro hfirst
    obtain ⟨⟨u, e⟩, hhead, huuid⟩ := Option.map_eq_some_iff.1 hfirst
    obtain ⟨hfind, hleast⟩ := OrderedMap.head?_entries.1 hhead
    obtain rfl : u = k := (hkeys u e hfind).symm.trans huuid
    exact hleast
  · intro hleast
    exact Option.map_eq_some_iff.2
      ⟨(k, d), OrderedMap.head?_entries.2 ⟨hd, hleast⟩, hkeys k d hd⟩

end IntellVoice.Trigger
