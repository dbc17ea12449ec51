import IntellVoice.Wakeup.ReportWindow

/-! A report is made in the directory that `Init` has chosen. -/

namespace IntellVoice.Wakeup
open Transition List

structure AccessoriesCloudReporter.SamePlace (r r' : AccessoriesCloudReporter) : Prop where
  dir : r'.mReportDir = r.mReportDir
  path : r'.mReportPath = r.mReportPath
  time : r'.mTimeStamp = r.mTimeStamp
  pcm : r'.mPcmBuffer.isSome = r.mPcmBuffer.isSome

namespace AccessoriesCloudReporter

lemma samePlace_foldl {α : Type} (f : AccessoriesCloudReporter → α → AccessoriesCloudReporter)
    (hf : ∀ r x, SamePlace r (f r x)) (l : List α) (r : AccessoriesCloudReporter) :
    SamePlace r (l.foldl f r) := by
  induction l generalizing r with
  | nil => exact ⟨rfl, rfl, rfl, rfl⟩
  | cons x l ih =>
    have hx := hf r x
    have hl := ih (f r x)
    exact ⟨hl.dir.trans hx.dir, hl.path.trans hx.path, hl.time.trans hx.time, hl.pcm.trans hx.pcm⟩

lemma samePlace_setEndIndex (r : AccessoriesCloudReporter) (n : Int) :
    SamePlace r (r.setEndIndex n) := by
  unfold setEndIndex
  split <;> exact ⟨rfl, rfl, rfl, rfl⟩

lemma samePlace_writeStream (r : AccessoriesCloudReporter) (audioData : List (List UInt8)) :
    SamePlace r (r.writeStream audioData) := by
  unfold writeStream
  split
  · rename_i hpcm
    split
    · exact ⟨rfl, rfl, rfl, rfl⟩
    · exact ⟨rfl, rfl, rfl, by simp [hpcm]⟩
  · exact ⟨rfl, rfl, rfl, rfl⟩

end AccessoriesCloudReporter

namespace ReportWorld
open AccessoriesCloudReporter
variable {w : ReportWorld} {a : StopAnswers}

lemma samePlace_feed (w : ReportWorld) (d : Detection) :
    SamePlace w.reporter (w.feed d).reporter := by
  have hend := samePlace_foldl setEndIndex samePlace_setEndIndex d.endIndices w.reporter
  have haudio := samePlace_foldl writeStream samePlace_writeStream d.audio
    (d.endIndices.foldl setEndIndex w.reporter)
  exact ⟨haudio.dir.trans hend.dir, haudio.path.trans hend.path, haudio.time.trans hend.time,
    haudio.pcm.trans hend.pcm⟩

structure Settled (w : ReportWorld) : Prop where
  dir : w.reporter.mTimeStamp ≠ "" → w.reporter.mReportDir ≠ .root
  path : w.reporter.mPcmBuffer.isSome → w.reporter.mReportPath

structure LeftBehind (w v : ReportWorld) : Prop where
  entries : v.entries = w.entries
  time : v.reporter.mTimeStamp = w.reporter.mTimeStamp
  dir : v.reporter.mReportDir = w.reporter.mReportDir ∨ v.reporter.mReportDir = {}
  path : v.reporter.mPcmBuffer.isSome → v.reporter.mReportPath

lemma init_refused (hw : w.Settled) (a : InitAnswers) (h : w.refused a) :
    LeftBehind w (w.init a) := by
  unfold init
  by_cases hinfo : a.info
  · simp only [hinfo, Bool.not_true, Bool.false_eq_true, if_false]
    by_cases hroot : a.root = .failed
    · rw [if_pos hroot]
      exact ⟨rfl, rfl, .inl rfl, fun h => (by cases h)⟩
    rw [if_neg hroot]
    by_cases hsub : a.subDir = .failed
    · rw [if_pos hsub]
      have hframe := checkAndCreate_frame
        { w with reporter := { w.reporter with mReportPath := true } } .root a.root
      exact ⟨hframe.2, by simp [closePcm, hframe.1], .inl (by simp [closePcm, hframe.1]),
        fun h => (by cases h)⟩
    have hmany : w.tooMany a := by
      simpa [refused, hinfo, hroot, hsub] using h
    simp only [tooMany] at hmany
    simp only [if_neg hsub, tooMany, (checkAndCreate_frame _ _ _).2, hmany, if_true]
    refine ⟨?_, ?_, .inr rfl, fun h => (by cases h)⟩
    · simp [closePcm, setReportDir, (checkAndCreate_frame _ _ _).2]
    · simp [closePcm, setReportDir, (checkAndCreate_frame _ _ _).1]
  · rw [if_pos (by simpa using hinfo)]
    exact ⟨rfl, rfl, .inl rfl, hw.path⟩

lemma init_effects (w : ReportWorld) (a : InitAnswers) (h : w.effects = []) :
    ∀ e ∈ (w.init a).effects, e.Inside := by
  have hcheck : ∀ (w : ReportWorld) (x : DirAnswer), (∀ e ∈ w.effects, e.Inside) →
      ∀ e ∈ (w.checkAndCreate .root x).effects, e.Inside := by
    intro w x hw e he
    unfold checkAndCreate log at he
    split at he
    · rcases mem_append.1 he with he | he
      · exact hw e he
      · rw [mem_singleton.1 he]
        exact .inl rfl
    · exact hw e he
  have hnone : ∀ e ∈ w.effects, e.Inside := by simp [h]
  unfold init
  split
  · exact hnone
  dsimp only
  split
  · exact hnone
  split
  · exact hcheck _ _ hnone
  · split <;> exact hcheck _ _ (hcheck _ _ hnone)

def Touches (d : ReportDir) (e : FileEffect) : Prop :=
  e = .create d ∨ e = .delete d ∨ ∃ file, e = .write d file

def without (entries : List String) (d : ReportDir) : List String :=
  match d with
  | ⟨.reportRoot, [name]⟩ => entries.erase name
  | _ => entries

structure Saves (d : ReportDir) (w v : ReportWorld) : Prop where
  time : v.reporter.mTimeStamp = w.reporter.mTimeStamp
  dir : v.reporter.mReportDir = d ∨ v.reporter.mReportDir = {}
  path : v.reporter.mPcmBuffer.isSome → v.reporter.mReportPath
  effects : ∃ new, v.effects = w.effects ++ new ∧ (∃ e ∈ new, Touches d e) ∧
    ∀ e ∈ new, Touches d e ∨ ∃ name, e = .delete (.report name)

lemma deleteDir_reporter (w : ReportWorld) (d : ReportDir) (removed : Bool) :
    (w.deleteDir d removed).reporter = w.reporter := by
  unfold deleteDir
  split <;> rfl

variable {d : ReportDir} {v : ReportWorld} {r : ReportWorld × Bool}

lemma deleteDir_effects (w : ReportWorld) (h : d ≠ {}) (removed : Bool) :
    (w.deleteDir d removed).effects = w.effects ++ [.delete d] := by
  unfold deleteDir
  rw [if_neg h]
  rfl

lemma deleteEarliestDir_cases (w : ReportWorld) (maxNum : Nat) (a : StopAnswers) :
    w.deleteEarliestDir maxNum a = w ∨ ∃ name, w.deleteEarliestDir maxNum a = w.deleteDir
        ⟨if w.reporter.mReportPath then .reportRoot else .systemRoot, [name]⟩ a.removed := by
  unfold deleteEarliestDir
  split
  · exact .inl rfl
  split
  · exact .inl rfl
  · exact .inr ⟨_, rfl⟩

inductive SaveOutcome (w : ReportWorld) (a : StopAnswers) : ReportWorld × Bool → Prop
  | reset : SaveOutcome w a (w.resetReport a, false)
  | unopened (saved : List FileEffect) (hsaved : ∀ e ∈ saved, Touches w.reporter.mReportDir e) :
      SaveOutcome w a (({ w with effects := w.effects ++ saved } : ReportWorld).deleteDir
        w.reporter.mReportDir a.removed, false)
  | unwritten (saved : List FileEffect) (hsaved : ∀ e ∈ saved, Touches w.reporter.mReportDir e)
      (hne : saved ≠ []) : SaveOutcome w a ({ w with effects := w.effects ++ saved }, false)
  | completed (saved : List FileEffect) (hsaved : ∀ e ∈ saved, Touches w.reporter.mReportDir e)
      (hne : saved ≠ []) (hpcm : w.reporter.mPcmBuffer.isSome) :
      SaveOutcome w a ((({ w with effects := w.effects ++ saved } : ReportWorld).deleteEarliestDir
        wakeupPcmSaveNumMax a).completeReport, true)

lemma savePcm_of_can (hcan : w.cannotSave = false) (a : StopAnswers) :
    ∃ saved, w.savePcm a = { w with effects := w.effects ++ saved } ∧
      ∀ e ∈ saved, Touches w.reporter.mReportDir e := by
  rw [savePcm, hcan, if_neg (by simp)]
  split
  · refine ⟨[.write w.reporter.mReportDir "/wakeup.pcm"], rfl, fun e he => ?_⟩
    exact .inr (.inr ⟨_, mem_singleton.1 he⟩)
  · exact ⟨[], by simp, by simp⟩

lemma saveOutcome (w : ReportWorld) (a : StopAnswers) :
    SaveOutcome w a ((w.savePcm a).setReportInfo a) := by
  by_cases hcannot : w.cannotSave
  · -- nothing to save: the directory is removed again, and the second reset finds none
    have hagain : (w.resetReport a).cannotSave := rfl
    rw [savePcm, if_pos hcannot, setReportInfo, if_pos hagain]
    exact .reset
  have hcan : w.cannotSave = false := by simpa using hcannot
  obtain ⟨saved, hsaved, htouch⟩ := savePcm_of_can hcan a
  have hpcm : w.reporter.mPcmBuffer.isSome := by
    cases hbuffer : w.reporter.mPcmBuffer with
    | none => simp [cannotSave, hbuffer] at hcan
    | some buffer => rfl
  have hcan' : ({ w with effects := w.effects ++ saved } : ReportWorld).cannotSave = false := hcan
  rw [hsaved, setReportInfo, hcan', if_neg (by simp)]
  split
  · exact .unopened saved htouch
  have hlog : ({ w with effects := w.effects ++ saved } : ReportWorld).log
      (.write w.reporter.mReportDir "/wakeup.json") =
        { w with effects := w.effects ++
          (saved ++ [.write w.reporter.mReportDir "/wakeup.json"]) } := by
    simp [log]
  have hjson : ∀ e ∈ saved ++ [.write w.reporter.mReportDir "/wakeup.json"],
      Touches w.reporter.mReportDir e := by
    intro e he
    rcases mem_append.1 he with he | he
    · exact htouch e he
    · exact .inr (.inr ⟨_, mem_singleton.1 he⟩)
  dsimp only
  rw [hlog]
  split
  · exact .unwritten _ hjson (by simp)
  · exact .completed _ hjson (by simp) hpcm

lemma SaveOutcome.saves (h : SaveOutcome w a r) (hd : w.reporter.mReportDir = d) (hne : d ≠ {})
    (hpath : w.reporter.mPcmBuffer.isSome → w.reporter.mReportPath) : Saves d w r.1 := by
  cases h with
  | reset =>
    refine ⟨?_, .inr rfl, nofun, [.delete d], ?_, ⟨_, by simp, .inr (.inl rfl)⟩, ?_⟩
    · simp [resetReport, setReportDir, closePcm, deleteDir_reporter]
    · simp only [resetReport, hd, setReportDir, closePcm]
      exact deleteDir_effects w hne _
    · intro e he
      exact .inl (.inr (.inl (mem_singleton.1 he)))
  | unopened saved hsaved =>
    rw [hd] at hsaved ⊢
    refine ⟨by rw [deleteDir_reporter], .inl (by rw [deleteDir_reporter]; exact hd), ?_,
      saved ++ [.delete d], ?_, ⟨.delete d, by simp, .inr (.inl rfl)⟩, ?_⟩
    · rw [deleteDir_reporter]
      exact hpath
    · rw [deleteDir_effects _ hne, append_assoc]
    · intro e he
      rcases mem_append.1 he with he | he
      · exact .inl (hsaved e he)
      · exact .inl (.inr (.inl (mem_singleton.1 he)))
  | unwritten saved hsaved hsome =>
    rw [hd] at hsaved
    obtain ⟨e, he⟩ := exists_mem_of_ne_nil saved hsome
    exact ⟨rfl, .inl hd, hpath, saved, rfl, ⟨e, he, hsaved e he⟩, fun e he => .inl (hsaved e he)⟩
  | completed saved hsaved hsome hpcm =>
    rw [hd] at hsaved
    obtain ⟨e, he⟩ := exists_mem_of_ne_nil saved hsome
    rcases deleteEarliestDir_cases ({ w with effects := w.effects ++ saved } : ReportWorld)
      wakeupPcmSaveNumMax a with heq | ⟨name, heq⟩
    · rw [heq]
      exact ⟨rfl, .inl hd, nofun, saved, rfl, ⟨e, he, hsaved e he⟩,
        fun e he => .inl (hsaved e he)⟩
    · rw [heq, show ({ w with effects := w.effects ++ saved } : ReportWorld).reporter.mReportPath =
        true from hpath hpcm, if_pos rfl]
      refine ⟨?_, .inl ?_, nofun, saved ++ [.delete (.report name)], ?_,
        ⟨e, by simp [he], hsaved e he⟩, ?_⟩
      · simp only [completeReport, deleteDir_reporter]
      · simp only [completeReport, deleteDir_reporter]
        exact hd
      · simp only [completeReport]
        rw [deleteDir_effects _ (by simp), append_assoc]
        rfl
      · intro e he
        rcases mem_append.1 he with he | he
        · exact .inl (hsaved e he)
        · exact .inr ⟨name, mem_singleton.1 he⟩

lemma inside_iff_of_touches {e : FileEffect} (h : Touches d e) (hroot : d ≠ .root) :
    e.Inside ↔ d.IsReport := by
  rcases h with rfl | rfl | ⟨file, rfl⟩ <;> simp [FileEffect.Inside, hroot]

lemma Saves.inside_iff (h : Saves d w v) (hroot : d ≠ .root)
    (hold : ∀ e ∈ w.effects, e.Inside ∨ Touches d e) :
    (∀ e ∈ v.effects, e.Inside) ↔ d.IsReport := by
  obtain ⟨new, hnew, ⟨e, he, htouch⟩, hall⟩ := h.effects
  rw [hnew]
  refine ⟨fun hin => (inside_iff_of_touches htouch hroot).1 (hin e (by simp [he])), ?_⟩
  intro hd e he
  rcases mem_append.1 he with he | he
  · exact (hold e he).elim id fun ht => (inside_iff_of_touches ht hroot).2 hd
  rcases hall e he with ht | ⟨name, rfl⟩
  · exact (inside_iff_of_touches ht hroot).2 hd
  · exact .inr ⟨rfl, rfl⟩

lemma nextDir_ne (w : ReportWorld) : w.nextDir ≠ {} ∧ w.nextDir ≠ .root := by
  constructor <;>
  · intro h
    have hsub := congrArg ReportDir.sub h
    simp [nextDir, ReportDir.enter, ReportDir.root] at hsub

structure Prepared (w v : ReportWorld) : Prop where
  reporter : v.reporter = (w.setReportDir w.nextDir).reporter
  effects : v.effects = w.effects ∨ v.effects = w.effects ++ [.create w.nextDir]
  entries : v.entries = w.entries ∨
    ∃ name, w.nextDir = .report name ∧ name ∉ w.entries ∧ v.entries = w.entries ++ [name]

inductive Stopped (w : ReportWorld) (a : StopAnswers) : ReportWorld × Bool → Prop
  | idle (htime : w.reporter.mTimeStamp = "") (hcreate : w.createReportDir a = (w, false)) :
      Stopped w a (w, false)
  | failed (htime : w.reporter.mTimeStamp ≠ "") (hanswer : w.dirAnswer w.nextDir a.dir = .failed)
      (hcreate : w.createReportDir a = (w.setReportDir w.nextDir, false)) :
      Stopped w a (w.setReportDir w.nextDir, false)
  | saved (htime : w.reporter.mTimeStamp ≠ "") (hanswer : w.dirAnswer w.nextDir a.dir ≠ .failed)
      (v : ReportWorld) (hcreate : w.createReportDir a = (v, true)) (hv : Prepared w v) :
      Stopped w a ((v.savePcm a).setReportInfo a)

lemma prepared_made (hanswer : w.dirAnswer w.nextDir a.dir = .made) :
    Prepared w (((w.setReportDir w.nextDir).log (.create w.nextDir)).addEntry w.nextDir) := by
  generalize hd : w.nextDir = d at *
  unfold dirAnswer at hanswer
  unfold addEntry
  split at hanswer
  · rename_i name
    split at hanswer
    · cases hanswer
    · rename_i hname
      exact ⟨by rw [hd]; rfl, .inr (by rw [hd]; rfl), .inr ⟨name, hd, hname, rfl⟩⟩
  · exact ⟨by rw [hd]; rfl, .inr (by rw [hd]; rfl), .inl rfl⟩

lemma stopAudioSource_cases (w : ReportWorld) (a : StopAnswers) :
    Stopped w a (w.stopAudioSource a) := by
  unfold stopAudioSource
  by_cases htime : w.reporter.mTimeStamp = ""
  · have hcreate : w.createReportDir a = (w, false) := by rw [createReportDir, if_pos htime]
    rw [hcreate]
    exact .idle htime hcreate
  have hcreate : w.createReportDir a =
      (w.setReportDir w.nextDir).createDir w.nextDir (w.dirAnswer w.nextDir a.dir) :=
    if_neg htime
  rw [hcreate]
  cases hanswer : w.dirAnswer w.nextDir a.dir with
  | failed => exact .failed htime hanswer (by rw [hcreate, hanswer]; rfl)
  | found =>
    exact .saved htime (by simp [hanswer]) _ (by rw [hcreate, hanswer]; rfl)
      ⟨rfl, .inl rfl, .inl rfl⟩
  | made =>
    exact .saved htime (by simp [hanswer]) _ (by rw [hcreate, hanswer]; rfl)
      (prepared_made hanswer)

lemma Prepared.saves (hv : Prepared w v)
    (hpath : w.reporter.mPcmBuffer.isSome → w.reporter.mReportPath) :
    Saves w.nextDir v ((v.savePcm a).setReportInfo a).1 :=
  (saveOutcome v a).saves (by rw [hv.reporter]; rfl) w.nextDir_ne.1
    (by rw [hv.reporter]; exact hpath)

lemma stop_inside_iff (hpath : w.reporter.mPcmBuffer.isSome → w.reporter.mReportPath)
    (hold : ∀ e ∈ w.effects, e.Inside) : (∀ e ∈ (w.stopAudioSource a).1.effects, e.Inside) ↔
      (w.reporter.mTimeStamp ≠ "" → w.dirAnswer w.nextDir a.dir ≠ .failed →
        w.nextDir.IsReport) := by
  generalize hstop : w.stopAudioSource a = result
  cases hstop ▸ stopAudioSource_cases w a with
  | idle htime _ => exact iff_of_true hold fun hne => absurd htime hne
  | failed htime hanswer _ => exact iff_of_true hold fun _ hne => absurd hanswer hne
  | saved htime hanswer v hcreate hv =>
    have hsaves := hv.saves (a := a) hpath
    rw [hsaves.inside_iff w.nextDir_ne.2 ?_]
    · exact ⟨fun h _ _ => h, fun h => h htime hanswer⟩
    · intro e he
      rcases hv.effects with heq | heq
      · exact .inl (hold e (heq ▸ he))
      rw [heq] at he
      rcases mem_append.1 he with he | he
      · exact .inl (hold e he)
      · exact .inr (.inl (mem_singleton.1 he))

lemma settled_stop (hpath : w.reporter.mPcmBuffer.isSome → w.reporter.mReportPath) :
    Settled (w.stopAudioSource a).1 := by
  generalize hstop : w.stopAudioSource a = result
  cases hstop ▸ stopAudioSource_cases w a with
  | idle htime _ => exact ⟨fun hne => absurd htime hne, hpath⟩
  | failed htime hanswer _ => exact ⟨fun _ => w.nextDir_ne.2, hpath⟩
  | saved htime hanswer v hcreate hv =>
    have hsaves := hv.saves (a := a) hpath
    refine ⟨fun _ => ?_, hsaves.path⟩
    rcases hsaves.dir with heq | heq
    · exact heq ▸ w.nextDir_ne.2
    · rw [heq]
      decide

inductive Begun (w : ReportWorld) (d : Detection) : Prop
  | accepted (haccepted : w.refused d.init = false)
      (hentries : (w.begun d).entries = w.entries)
      (htime : (w.begun d).reporter.mTimeStamp = d.init.time)
      (hdir : (w.begun d).reporter.mReportDir = .root)
      (hpath : (w.begun d).reporter.mReportPath)
  | refused (hrefused : w.refused d.init) (hleft : LeftBehind w (w.begun d))

lemma begun_cases (hw : w.Settled) (d : Detection) : Begun w d := by
  have hfeed := samePlace_feed (({ w with effects := [] } : ReportWorld).init d.init) d
  cases hrefused : w.refused d.init with
  | false =>
    have hinit := ({ w with effects := [] } : ReportWorld).init_accepted d.init hrefused
    exact .accepted hrefused hinit.2 (hfeed.time.trans (by rw [hinit.1]; rfl))
      (hfeed.dir.trans (by rw [hinit.1]; rfl)) (hfeed.path.trans (by rw [hinit.1]; rfl))
  | true =>
    have hinit := init_refused (w := { w with effects := [] }) ⟨hw.dir, hw.path⟩ d.init hrefused
    refine .refused hrefused ⟨hinit.entries, hfeed.time.trans hinit.time,
      hinit.dir.imp hfeed.dir.trans hfeed.dir.trans, fun hpcm => ?_⟩
    exact hfeed.path.trans (hinit.path (hfeed.pcm.symm.trans hpcm))

lemma Begun.path {d : Detection} (h : Begun w d) (hpcm : (w.begun d).reporter.mPcmBuffer.isSome) :
    (w.begun d).reporter.mReportPath := by
  cases h with
  | accepted _ _ _ _ hpath => exact hpath
  | refused _ hleft => exact hleft.path hpcm

lemma LeftBehind.not_isReport (hw : w.Settled) (h : LeftBehind w v)
    (htime : w.reporter.mTimeStamp ≠ "") : ¬ v.nextDir.IsReport := by
  rintro ⟨hbase, hlen⟩
  have hsub : v.reporter.mReportDir.sub = [] := by
    simpa [nextDir, ReportDir.enter] using hlen
  have hroot : v.reporter.mReportDir = .root := by
    cases hd : v.reporter.mReportDir with
    | mk base sub =>
      rw [hd] at hsub
      simp only [nextDir, ReportDir.enter, hd] at hbase
      simp only at hsub
      rw [hbase, hsub]
      rfl
  rcases h.dir with heq | heq
  · exact hw.dir htime (heq ▸ hroot)
  · rw [heq] at hroot
    cases hroot

lemma dirAnswer_of_not_isReport (h : ¬ d.IsReport) (x : DirAnswer) : w.dirAnswer d x = x := by
  unfold dirAnswer
  split
  · exact absurd ⟨rfl, rfl⟩ h
  · rfl

lemma settled_step (hw : w.Settled) (d : Detection) : Settled (w.detect d).1 :=
  settled_stop (begun_cases hw d).path

lemma effects_of_refused {d : Detection} (h : Begun w d) (hw : w.Settled)
    (hrefused : w.refused d.init) (hstop : w.reporter.mTimeStamp = "" ∨ d.stop.dir = .failed) :
    (w.detect d).1.effects = (w.begun d).effects := by
  cases h with
  | accepted haccepted _ _ _ _ =>
    rw [haccepted] at hrefused
    cases hrefused
  | refused _ hleft =>
    rw [detect]
    generalize hresult : (w.begun d).stopAudioSource d.stop = result
    cases hresult ▸ stopAudioSource_cases (w.begun d) d.stop with
    | idle _ _ => rfl
    | failed _ _ _ => rfl
    | saved htime hanswer v hcreate hv =>
      rw [hleft.time] at htime
      rw [dirAnswer_of_not_isReport (hleft.not_isReport hw htime)] at hanswer
      exact absurd (hstop.resolve_left htime) hanswer

lemma detect_inside_iff (hw : w.Settled) (d : Detection) :
    (∀ e ∈ (w.detect d).1.effects, e.Inside) ↔
      (w.refused d.init → w.reporter.mTimeStamp = "" ∨ d.stop.dir = .failed) := by
  have hbegun := begun_cases hw d
  have hold : ∀ e ∈ (w.begun d).effects, e.Inside :=
    init_effects ({ w with effects := [] } : ReportWorld) d.init rfl
  refine (stop_inside_iff hbegun.path hold).trans ?_
  cases hbegun with
  | accepted haccepted hentries htime hdir _ =>
    refine iff_of_true (fun _ _ => ?_) fun h => (by simp [haccepted] at h)
    rw [nextDir, hdir]
    exact ⟨rfl, rfl⟩
  | refused hrefused hleft =>
    rw [hleft.time]
    by_cases htime : w.reporter.mTimeStamp = ""
    · exact iff_of_true (fun h => absurd htime h) fun _ => .inl htime
    have hnot := hleft.not_isReport hw htime
    rw [dirAnswer_of_not_isReport hnot]
    simp [htime, hnot, hrefused]

theorem reports_inside_iff (entries : List String) (ds : List Detection) :
    Along step (fun w d t => (∀ e ∈ t.effects, e.Inside) ∧
        (w.refused d.init → t.effects = (w.begun d).effects)) { entries } ds ↔
      Along step (fun w d _ => w.refused d.init →
        w.reporter.mTimeStamp = "" ∨ d.stop.dir = .failed) { entries } ds := by
  refine along_iff (I := Settled) (P := fun _ => True) ?_
    ⟨fun h => absurd rfl h, fun h => (by cases h)⟩ fun _ _ => trivial
  intro w d t hw _ hstep
  obtain rfl : (w.detect d).1 = t := Option.some.inj hstep
  refine ⟨?_, fun _ => settled_step hw d⟩
  rw [detect_inside_iff hw d]
  exact and_iff_left_of_imp fun h hrefused =>
    effects_of_refused (begun_cases hw d) hw hrefused (h hrefused)

theorem reports_below_report :
    ∃ w t, run step { entries := [] } [⟨{ time := "1" }, [1], [[[1]]], {}⟩] = some w ∧
      step w ⟨{ time := "2", root := .failed }, [1], [[[1]]], {}⟩ = some t ∧
      FileEffect.create ⟨.reportRoot, ["1", "1"]⟩ ∈ t.effects :=
  ⟨_, _, rfl, rfl, by decide⟩

structure Honest (d : Detection) : Prop where
  listing : d.init.listing = none
  listingAfter : d.stop.listing = none
  removed : d.stop.removed

lemma deleteDir_entries (w : ReportWorld) (h : d.sub ≠ []) :
    (w.deleteDir d true).entries = without w.entries d := by
  unfold deleteDir without
  split
  · rename_i hd
    rw [hd] at h
    exact absurd rfl h
  · obtain ⟨base, sub⟩ := d
    cases base <;> rcases sub with _ | ⟨name, _ | ⟨other, rest⟩⟩ <;> simp_all

lemma entries_resetReport (hd : w.reporter.mReportDir = d) (hsub : d.sub ≠ [])
    (hremoved : a.removed) : (w.resetReport a).entries = without w.entries d := by
  rw [← deleteDir_entries w hsub, ← hremoved, ← hd]
  rfl

lemma earliest_le (first : String) (l : List String) :
    earliest first l ≤ first ∧ ∀ x ∈ l, earliest first l ≤ x := by
  induction l generalizing first with
  | nil => exact ⟨le_rfl, by simp⟩
  | cons x l ih =>
    obtain ⟨hfirst, hrest⟩ := ih (if x < first then x else first)
    have hmin : (if x < first then x else first) ≤ first ∧
        (if x < first then x else first) ≤ x := by
      split
      · rename_i hlt
        exact ⟨hlt.le, le_rfl⟩
      · rename_i hnot
        exact ⟨le_rfl, not_lt.1 hnot⟩
    exact ⟨hfirst.trans hmin.1,
      forall_mem_cons.2 ⟨hfirst.trans hmin.2, hrest⟩⟩

lemma earliest_mem (first : String) (l : List String) : earliest first l ∈ first :: l := by
  induction l generalizing first with
  | nil => simp [earliest]
  | cons x l ih =>
    change earliest (if x < first then x else first) l ∈ _
    by_cases hx : x < first
    · rw [if_pos hx]
      exact mem_cons_of_mem _ (ih x)
    rw [if_neg hx]
    rcases mem_cons.1 (ih first) with heq | hmem
    · rw [heq]
      exact mem_cons_self
    · exact mem_cons_of_mem _ (mem_cons_of_mem _ hmem)

lemma deleteEarliestDir_entries (hpath : w.reporter.mReportPath) (hlisting : a.listing = none)
    (hremoved : a.removed) (maxNum : Nat) :
    (w.entries.length ≤ maxNum ∧ (w.deleteEarliestDir maxNum a).entries = w.entries) ∨
      maxNum < w.entries.length ∧ ∃ m ∈ w.entries, (∀ x ∈ w.entries, m ≤ x) ∧
        (w.deleteEarliestDir maxNum a).entries = w.entries.erase m := by
  unfold deleteEarliestDir
  simp only [hlisting, Option.getD_none, hpath, hremoved, if_true]
  cases hentries : w.entries with
  | nil => exact .inl ⟨by simp, hentries⟩
  | cons first rest =>
    simp only
    split
    · rename_i hle
      exact .inl ⟨hle, hentries⟩
    rename_i hgt
    have hmem := earliest_mem first (first :: rest)
    refine .inr ⟨not_le.1 hgt, earliest first (first :: rest), by simpa using hmem,
      (earliest_le first (first :: rest)).2, ?_⟩
    rw [deleteDir_entries _ (by simp), hentries]
    rfl

inductive Kept (entries : List String) (d : ReportDir) : List String → Bool → Prop
  | unfinished (left : List String) (hleft : left = entries ∨ left = without entries d) :
      Kept entries d left false
  | completed (hfew : entries.length ≤ wakeupPcmSaveNumMax) : Kept entries d entries true
  | replaced (hmany : wakeupPcmSaveNumMax < entries.length) (m : String) (hmem : m ∈ entries)
      (hmin : ∀ x ∈ entries, m ≤ x) : Kept entries d (entries.erase m) true

lemma SaveOutcome.kept (h : SaveOutcome w a r) (hd : w.reporter.mReportDir = d) (hsub : d.sub ≠ [])
    (hpath : w.reporter.mPcmBuffer.isSome → w.reporter.mReportPath)
    (hlisting : a.listing = none) (hremoved : a.removed) : Kept w.entries d r.1.entries r.2 := by
  cases h with
  | reset => exact .unfinished _ (.inr (entries_resetReport hd hsub hremoved))
  | unopened saved =>
    rw [hd, hremoved]
    exact .unfinished _ (.inr (deleteDir_entries _ hsub))
  | unwritten saved => exact .unfinished _ (.inl rfl)
  | completed saved _ _ hpcm =>
    rcases deleteEarliestDir_entries (w := { w with effects := w.effects ++ saved }) (hpath hpcm)
      hlisting hremoved wakeupPcmSaveNumMax with ⟨hfew, heq⟩ | ⟨hmany, m, hmem, hmin, heq⟩
    · change Kept w.entries d (ReportWorld.deleteEarliestDir _ _ _).entries true
      rw [heq]
      exact .completed hfew
    · change Kept w.entries d (ReportWorld.deleteEarliestDir _ _ _).entries true
      rw [heq]
      exact .replaced hmany m hmem hmin

lemma entries_savePcm (hd : w.reporter.mReportDir = d) (hsub : d.sub ≠ []) (hremoved : a.removed) :
    (w.savePcm a).entries = w.entries ∨ (w.savePcm a).entries = without w.entries d := by
  unfold savePcm
  split
  · exact .inr (entries_resetReport hd hsub hremoved)
  · split <;> exact .inl rfl

def moments (w : ReportWorld) (d : Detection) : List ReportWorld :=
  let created := (w.begun d).createReportDir d.stop
  [w.begun d, created.1, (w.detect d).1] ++
    if created.2 then [created.1.savePcm d.stop] else []

/-- The entries of the report root once the directory of this detection has been created. -/
def listed (w : ReportWorld) (d : Detection) : List String :=
  ((w.begun d).createReportDir d.stop).1.entries

/-- A detection that completes removes nothing, or the smallest of all the entries there are then,
its own report among them; one that does not complete removes no report of an earlier one. -/
structure Retained (w : ReportWorld) (d : Detection) (t : ReportWorld) : Prop where
  bound : ∀ m ∈ w.moments d, m.entries.length ≤ 103
  completed : (w.detect d).2 → t.entries.length ≤ 102 ∧ (t.entries = w.listed d ∨
    ∃ m ∈ w.listed d, (∀ x ∈ w.listed d, m ≤ x) ∧ t.entries = (w.listed d).erase m)
  removed : ∀ e ∈ w.entries, e ∉ t.entries → (w.detect d).2 ∧ ∀ x ∈ w.listed d, e ≤ x

lemma without_report {entries : List String} {name : String} (h : name ∉ entries) :
    without (entries ++ [name]) (.report name) = entries := by
  change (entries ++ [name]).erase name = entries
  rw [erase_append_right _ h]
  simp

lemma without_of_not_isReport {entries : List String} (h : ¬ d.IsReport) :
    without entries d = entries := by
  unfold without
  split
  · exact absurd ⟨rfl, rfl⟩ h
  · rfl

lemma Prepared.entries_cases {d : Detection} (hw : w.Settled) (hbegun : Begun w d)
    (hlisting : d.init.listing = none) (hbound : w.entries.length ≤ 103)
    (hfresh : d.init.time ∉ w.entries) (htime : (w.begun d).reporter.mTimeStamp ≠ "")
    (hv : Prepared (w.begun d) v) :
    (v.entries = w.entries ∨ v.entries = w.entries ++ [d.init.time]) ∧
      without v.entries (w.begun d).nextDir = w.entries ∧ v.entries.length ≤ 103 := by
  cases hbegun with
  | accepted haccepted hentries htime' hdir _ =>
    have hnext : (w.begun d).nextDir = .report d.init.time := by rw [nextDir, hdir, htime']; rfl
    have hfew : w.entries.length ≤ 102 := by
      simp only [ReportWorld.refused, Bool.or_eq_false_iff, tooMany, hlisting, Option.getD_none,
        wakeupPcmReportNumMax, decide_eq_false_iff_not] at haccepted
      omega
    rcases hv.entries with heq | ⟨name, hname, -, heq⟩
    · rw [heq, hentries, hnext]
      exact ⟨.inl rfl, erase_of_not_mem hfresh, hbound⟩
    obtain rfl : d.init.time = name := by simpa [hnext, ReportDir.report] using hname
    rw [heq, hentries, hnext]
    exact ⟨.inr rfl, without_report hfresh, by simp; omega⟩
  | refused _ hleft =>
    have hnot := hleft.not_isReport hw (hleft.time ▸ htime)
    rcases hv.entries with heq | ⟨name, hname, -⟩
    · rw [heq, hleft.entries]
      exact ⟨.inl rfl, without_of_not_isReport hnot, hbound⟩
    · exact absurd (hname ▸ ⟨rfl, rfl⟩) hnot

lemma Begun.entries {d : Detection} (h : Begun w d) : (w.begun d).entries = w.entries := by
  cases h with
  | accepted _ hentries => exact hentries
  | refused _ hleft => exact hleft.entries

lemma retained_of_unsaved {d : Detection} (hbegun : Begun w d) (hbound : w.entries.length ≤ 103)
    (hv : v.entries = w.entries) (hcreate : (w.begun d).createReportDir d.stop = (v, false))
    (hdetect : w.detect d = (v, false)) : Retained w d v := by
  refine ⟨fun m hm => ?_, fun hok => ?_, fun e he hnot => absurd (hv ▸ he) hnot⟩
  · simp only [moments, hcreate, hdetect, Bool.false_eq_true, if_false, append_nil,
      mem_cons, not_mem_nil, or_false] at hm
    rcases hm with rfl | rfl | rfl
    · rwa [hbegun.entries]
    · rwa [hv]
    · rwa [hv]
  · rw [hdetect] at hok
    cases hok

lemma retained_step (hw : w.Settled) {d : Detection} (hd : Honest d)
    (hbound : w.entries.length ≤ 103) (hfresh : d.init.time ∉ w.entries) :
    Retained w d (w.detect d).1 ∧ (w.detect d).1.entries.Sublist (w.entries ++ [d.init.time]) := by
  have hbegun := begun_cases hw d
  have hself : w.entries.Sublist (w.entries ++ [d.init.time]) := sublist_append_left _ _
  have hstop : Stopped (w.begun d) d.stop (w.detect d) := stopAudioSource_cases _ _
  generalize hdetect : w.detect d = result at hstop ⊢
  cases hstop with
  | idle htime hcreate | failed htime hanswer hcreate =>
    exact ⟨retained_of_unsaved hbegun hbound hbegun.entries hcreate hdetect,
      hbegun.entries ▸ hself⟩
  | saved htime hanswer v hcreate hv =>
    obtain ⟨hv_entries, hwithout, hlength⟩ :=
      hv.entries_cases hw hbegun hd.listing hbound hfresh htime
    have hlisted : w.listed d = v.entries := by rw [listed, hcreate]
    have hdir : v.reporter.mReportDir = (w.begun d).nextDir := by rw [hv.reporter]; rfl
    have hsub : (w.begun d).nextDir.sub ≠ [] := by simp [nextDir, ReportDir.enter]
    have hsaved := entries_savePcm hdir hsub hd.removed
    have hkept := (saveOutcome v d.stop).kept hdir hsub (by rw [hv.reporter]; exact hbegun.path)
      hd.listingAfter hd.removed
    rw [hwithout] at hsaved
    have hold : ∀ e ∈ w.entries, e ∈ v.entries := by
      rcases hv_entries with heq | heq <;> simp +contextual [heq]
    have hvself : v.entries.Sublist (w.entries ++ [d.init.time]) := by
      rcases hv_entries with heq | heq
      · exact heq ▸ hself
      · rw [heq]
    generalize hresult : (v.savePcm d.stop).setReportInfo d.stop = result at *
    have hmoments : result.1.entries.length ≤ 103 →
        ∀ m ∈ w.moments d, m.entries.length ≤ 103 := by
      intro hend m hm
      simp only [moments, hcreate, hdetect, if_true, cons_append, nil_append,
        mem_cons, not_mem_nil, or_false] at hm
      rcases hm with rfl | rfl | rfl | rfl
      · rwa [hbegun.entries]
      · exact hlength
      · exact hend
      rcases hsaved with heq | heq
      · exact heq ▸ hlength
      · exact heq ▸ hbound
    generalize hleft : result.1.entries = left at hkept
    generalize hok : result.2 = ok at hkept
    cases hkept with
    | unfinished _ hunfinished =>
      rw [hwithout] at hunfinished
      obtain ⟨hkeeps, hsublist, hfew⟩ : (∀ e ∈ w.entries, e ∈ left) ∧
          left.Sublist (w.entries ++ [d.init.time]) ∧ left.length ≤ 103 := by
        rcases hunfinished with heq | heq <;> subst heq
        · exact ⟨hold, hvself, hlength⟩
        · exact ⟨fun e he => he, hself, hbound⟩
      refine ⟨⟨hmoments (hleft ▸ hfew), fun h => ?_, fun e he hnot => ?_⟩, hleft ▸ hsublist⟩
      · rw [hdetect, hok] at h
        cases h
      · exact absurd (hleft ▸ hkeeps e he) hnot
    | completed hfew =>
      refine ⟨⟨hmoments (hleft ▸ hlength), fun _ => ⟨hleft ▸ hfew, .inl (hleft.trans hlisted.symm)⟩,
        fun e he hnot => ?_⟩, hleft ▸ hvself⟩
      exact absurd (hleft ▸ hold e he) hnot
    | replaced hmany m hmem hmin =>
      have hone : (v.entries.erase m).length ≤ 102 := by
        rw [length_erase_of_mem hmem]
        omega
      refine ⟨⟨hmoments (by rw [hleft]; omega), fun _ => ⟨hleft ▸ hone, .inr ?_⟩,
        fun e he hnot => ?_⟩, hleft ▸ (erase_sublist.trans hvself)⟩
      · rw [hlisted]
        exact ⟨m, hmem, hmin, hleft⟩
      -- only the smallest entry is missing
      obtain rfl : e = m := by
        by_contra hne
        exact hnot (hleft ▸ (mem_erase_of_ne hne).2 (hold e he))
      rw [hdetect, hlisted]
      exact ⟨hok, hmin⟩

theorem reports_retained (entries : List String) (ds : List Detection)
    (hbound : entries.length ≤ 103) (htimes : (entries ++ ds.map (·.init.time)).Nodup)
    (honest : ∀ d ∈ ds, Honest d) : Along step Retained { entries } ds := by
  have hrun : ∀ (w : ReportWorld) (ds : List Detection), w.Settled → w.entries.length ≤ 103 →
      (w.entries ++ ds.map (·.init.time)).Nodup → (∀ d ∈ ds, Honest d) →
      Along step Retained w ds := by
    intro w ds
    induction ds generalizing w with
    | nil => exact fun _ _ _ _ => trivial
    | cons d ds ih =>
      intro hw hbound htimes honest t ht
      obtain rfl : (w.detect d).1 = t := Option.some.inj ht
      rw [map_cons, append_cons] at htimes
      have hfresh : d.init.time ∉ w.entries := fun hmem => by
        have hdisjoint := nodup_append.1 htimes.of_append_left
        exact hdisjoint.2.2 _ hmem _ (by simp) rfl
      obtain ⟨hretained, hsublist⟩ := retained_step hw (honest d (by simp)) hbound hfresh
      refine ⟨hretained, ih _ (settled_step hw d) (hretained.bound _ (by simp [moments])) ?_
        fun x hx => honest x (by simp [hx])⟩
      exact htimes.sublist (hsublist.append_right _)
  exact hrun { entries } ds ⟨fun h => absurd rfl h, fun h => (by cases h)⟩ hbound htimes honest

theorem reports_retained_two :
    Along step Retained { entries := ["0"] }
      [⟨{ time := "1" }, [1], [[[1]]], {}⟩, ⟨{ time := "2" }, [], [], {}⟩] :=
  reports_retained ["0"] _ (by decide) (by decide)
    (by simp only [mem_cons, not_mem_nil, or_false, forall_eq_or_imp, forall_eq]
        exact ⟨⟨rfl, rfl, rfl⟩, ⟨rfl, rfl, rfl⟩⟩)

end ReportWorld
end IntellVoice.Wakeup
