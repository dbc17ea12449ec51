import IntellVoice.Library.Run

/-! `AccessoriesCloudReporter` saves a detection's audio in a directory. -/

namespace IntellVoice.Wakeup

inductive BaseDir where
  | none
  | reportRoot
  | systemRoot
deriving DecidableEq

structure ReportDir where
  base : BaseDir := .none
  sub : List String := []
deriving DecidableEq

namespace ReportDir

def root : ReportDir := ⟨.reportRoot, []⟩
def report (name : String) : ReportDir := ⟨.reportRoot, [name]⟩
def enter (d : ReportDir) (name : String) : ReportDir := { d with sub := d.sub ++ [name] }

def IsReport (d : ReportDir) : Prop := d.base = .reportRoot ∧ d.sub.length = 1

end ReportDir

inductive FileEffect where
  | create (d : ReportDir)
  | write (d : ReportDir) (file : String)
  | delete (d : ReportDir)
deriving DecidableEq

def FileEffect.Inside : FileEffect → Prop
  | .create d | .delete d => d = .root ∨ d.IsReport
  | .write d _ => d.IsReport

structure AccessoriesCloudReporter where
  mReportDir : ReportDir := {}
  mReportPath : Bool := false
  mTimeStamp : String := ""
  mPcmBuffer : Option (List UInt8) := none
  endIndex : Int := 0
  beginIndex : Int := 0
  indexCount : Int := 0

def minBufferSize : Nat := 640
def frameNumber : Nat := 100
def wakeupPcmSaveNumMax : Nat := 102
def wakeupPcmReportNumMax : Nat := 103

namespace AccessoriesCloudReporter

def setEndIndex (r : AccessoriesCloudReporter) (endIndex : Int) : AccessoriesCloudReporter :=
  if endIndex = 0 then r
  else
    let unsigned : Int := endIndex % 2 ^ 32
    let offset : Int := frameNumber - 1
    { r with
      endIndex := endIndex
      beginIndex := if unsigned ≥ offset then (unsigned - offset).bmod (2 ^ 32) else 0 }

def pcmWrite (buffer data : List UInt8) : List UInt8 :=
  if data.length = 0 ∨ buffer.length + data.length > minBufferSize * frameNumber then buffer
  else buffer ++ data

def writeStream (r : AccessoriesCloudReporter) (audioData : List (List UInt8)) :
    AccessoriesCloudReporter :=
  match r.mPcmBuffer, audioData with
  | some buffer, channel0 :: _ =>
    if r.endIndex = 0 then r
    else
      { r with
        mPcmBuffer := some (if r.beginIndex ≤ r.indexCount ∧ r.indexCount ≤ r.endIndex then
          pcmWrite buffer channel0 else buffer)
        indexCount := (r.indexCount + 1).bmod (2 ^ 32) }
  | _, _ => r

end AccessoriesCloudReporter

inductive DirAnswer where
  | found
  | made
  | failed
deriving DecidableEq

structure InitAnswers where
  info : Bool := true
  root : DirAnswer := .found
  subDir : DirAnswer := .found
  listing : Option (List String) := none
  allocated : Bool := true
  time : String

structure StopAnswers where
  dir : DirAnswer := .made
  save : Bool := true
  opened : Bool := true
  written : Bool := true
  listing : Option (List String) := none
  removed : Bool := true

structure Detection where
  init : InitAnswers
  endIndices : List Int
  audio : List (List (List UInt8))
  stop : StopAnswers

/-- The reporter, the entries of its root and one detection's file effects. -/
structure ReportWorld where
  reporter : AccessoriesCloudReporter := {}
  entries : List String
  effects : List FileEffect := []

namespace ReportWorld

def log (w : ReportWorld) (e : FileEffect) : ReportWorld := { w with effects := w.effects ++ [e] }

def closePcm (w : ReportWorld) : ReportWorld :=
  { w with reporter := { w.reporter with mPcmBuffer := none } }

def setReportDir (w : ReportWorld) (d : ReportDir) : ReportWorld :=
  { w with reporter := { w.reporter with mReportDir := d } }

def checkAndCreate (w : ReportWorld) (d : ReportDir) (a : DirAnswer) : ReportWorld :=
  if a = .made then w.log (.create d) else w

def deleteDir (w : ReportWorld) (d : ReportDir) (removed : Bool) : ReportWorld :=
  if d = {} then w
  else
    { w.log (.delete d) with
      entries := if removed = true ∧ d.base = .reportRoot then
          (match d.sub with
          | [] => []
          | [name] => w.entries.erase name
          | _ => w.entries)
        else w.entries }

def tooMany (w : ReportWorld) (a : InitAnswers) : Bool :=
  wakeupPcmReportNumMax ≤ (a.listing.getD w.entries).length

def refused (w : ReportWorld) (a : InitAnswers) : Bool :=
  !a.info || a.root == .failed || a.subDir == .failed || w.tooMany a

def init (w : ReportWorld) (a : InitAnswers) : ReportWorld :=
  if !a.info then w
  else
    let w := { w with reporter := { w.reporter with mReportPath := true } }
    if a.root = .failed then w.closePcm
    else
      let w := w.checkAndCreate .root a.root
      if a.subDir = .failed then w.closePcm
      else
        let w := w.checkAndCreate .root a.subDir
        if w.tooMany a then (w.closePcm.setReportDir {}).closePcm
        else
          { w with reporter := { w.reporter with
              mReportDir := .root
              beginIndex := 0
              endIndex := 0
              indexCount := 0
              mPcmBuffer := if a.allocated then some [] else none
              mTimeStamp := a.time } }

def feed (w : ReportWorld) (d : Detection) : ReportWorld :=
  let ready := d.endIndices.foldl AccessoriesCloudReporter.setEndIndex w.reporter
  { w with reporter := d.audio.foldl AccessoriesCloudReporter.writeStream ready }

def dirAnswer (w : ReportWorld) (d : ReportDir) (a : DirAnswer) : DirAnswer :=
  match d with
  | ⟨.reportRoot, [name]⟩ =>
    if name ∈ w.entries then .found else if a = .failed then .failed else .made
  | _ => a

def addEntry (w : ReportWorld) (d : ReportDir) : ReportWorld :=
  match d with
  | ⟨.reportRoot, [name]⟩ => { w with entries := w.entries ++ [name] }
  | _ => w

def createDir (w : ReportWorld) (d : ReportDir) : DirAnswer → ReportWorld × Bool
  | .found => (w, true)
  | .made => ((w.log (.create d)).addEntry d, true)
  | .failed => (w, false)

def nextDir (w : ReportWorld) : ReportDir := w.reporter.mReportDir.enter w.reporter.mTimeStamp

def createReportDir (w : ReportWorld) (a : StopAnswers) : ReportWorld × Bool :=
  if w.reporter.mTimeStamp = "" then (w, false)
  else (w.setReportDir w.nextDir).createDir w.nextDir (w.dirAnswer w.nextDir a.dir)

def cannotSave (w : ReportWorld) : Bool :=
  w.reporter.mPcmBuffer.isNone || w.reporter.mReportDir == {} || w.reporter.endIndex == 0

def resetReport (w : ReportWorld) (a : StopAnswers) : ReportWorld :=
  ((w.deleteDir w.reporter.mReportDir a.removed).closePcm).setReportDir {}

def savePcm (w : ReportWorld) (a : StopAnswers) : ReportWorld :=
  if w.cannotSave then w.resetReport a
  else if a.save ∧ w.reporter.mPcmBuffer ≠ some [] then
    w.log (.write w.reporter.mReportDir "/wakeup.pcm")
  else w

def earliest (first : String) (dirFile : List String) : String :=
  dirFile.foldl (fun str path => if path < str then path else str) first

def deleteEarliestDir (w : ReportWorld) (maxNum : Nat) (a : StopAnswers) : ReportWorld :=
  match a.listing.getD w.entries with
  | [] => w
  | first :: rest =>
    if (first :: rest).length ≤ maxNum then w
    else
      let base := if w.reporter.mReportPath then BaseDir.reportRoot else .systemRoot
      w.deleteDir ⟨base, [earliest first (first :: rest)]⟩ a.removed

def completeReport (w : ReportWorld) : ReportWorld :=
  { w with reporter := { w.reporter with mReportPath := false, mPcmBuffer := none } }

def setReportInfo (w : ReportWorld) (a : StopAnswers) : ReportWorld × Bool :=
  if w.cannotSave then (w.resetReport a, false)
  else if !a.opened then (w.deleteDir w.reporter.mReportDir a.removed, false)
  else
    let w := w.log (.write w.reporter.mReportDir "/wakeup.json")
    if !a.written then (w, false)
    else
      ((w.deleteEarliestDir wakeupPcmSaveNumMax a).completeReport, true)

def stopAudioSource (w : ReportWorld) (a : StopAnswers) : ReportWorld × Bool :=
  let created := w.createReportDir a
  if created.2 then (created.1.savePcm a).setReportInfo a else (created.1, false)

def begun (w : ReportWorld) (d : Detection) : ReportWorld :=
  (({ w with effects := [] }).init d.init).feed d

def detect (w : ReportWorld) (d : Detection) : ReportWorld × Bool :=
  (w.begun d).stopAudioSource d.stop

def step (w : ReportWorld) (d : Detection) : Option ReportWorld := some (w.detect d).1

end ReportWorld
end IntellVoice.Wakeup
