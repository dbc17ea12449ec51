import IntellVoice.Trigger.Types
import IntellVoice.Utils.Numerals

/-! The helper's flags, the conflict scenes and the input pipes. -/

namespace IntellVoice.Trigger
open Utils

abbrev ControlList := OrderedMap String (List SourceType)

structure Env where
  callActive : Bool := false
  systemHibernate : Bool := false
  audioCaptureActive : Bool := false
  audioScene : AudioScene := .default
  hasStreamBesidesVoip : Bool := false
  hasStreamBesidesVoice : Bool := false
  mFirstProc : Bool := false
  mExtensionConcurrency : Bool := false
  mVoipConcurrency : Bool := false
  mCallConcurrency : Bool := false
  mCameraConcurrency : Bool := false
  audioInputPipeCallback : Bool := false
  isCapturerDetached : Bool := false
  audioConcurrentCapture : Bool := true
  whitelistWhisperEnable : Bool := true
  concurrentWhitelist : ControlList := ∅
  concurrentBlacklist : ControlList := ∅
  concurrentTypeSet : List SourceType := []
  extensionConcurrentTypeSet : List SourceType :=
    [.mic, .voiceRecognition, .ultrasonic, .voiceTranscription, .camcorder, .unprocessed]
  rendererStateMap : OrderedMap Int Bool := ∅
  isFoldable : Bool := false
  curFoldStatus : FoldStatus := .unknown
  isFoldStatusDetached : Bool := false

structure StoredLists where
  concurrentWhiteList : String := ""
  concurrentBlackList : String := ""

def isConflictSceneActive (b : Build) (env : Env) : Bool :=
  if b.recordWakeupConcurrent then
    if env.mVoipConcurrency && !env.mCallConcurrency then
      env.systemHibernate ||
        (env.audioScene != .default && env.audioScene != .phoneChat &&
          env.audioScene != .ringing) ||
        (!env.audioConcurrentCapture && env.audioCaptureActive)
    else if env.mVoipConcurrency && env.mCallConcurrency then
      env.systemHibernate ||
        (env.audioScene != .default && env.audioScene != .phoneChat &&
          env.audioScene != .phoneCall && env.audioScene != .ringing) ||
        (!env.audioConcurrentCapture && env.audioCaptureActive)
    else
      env.callActive || env.systemHibernate || env.audioScene != .default ||
        (!env.audioConcurrentCapture && env.audioCaptureActive)
  else
    env.callActive || env.audioCaptureActive || env.systemHibernate ||
      env.audioScene != .default

def parseSourceTypes (p : Platform) (sources : Json) : List SourceType :=
  if !sources.isArray then []
  else
    sources.elements.filterMap fun src =>
      match src with
      | .str s => (stoi s).map p.sourceTypeOf
      | _ => none

def parseControlItems (p : Platform) :
    List Json → ControlList × List SourceType → Option (ControlList × List SourceType)
  | [], acc => some acc
  | item :: rest, acc => do
    let bundleName ← (← item.member "bundleName").asString
    let types := parseSourceTypes p (← item.member "sourceTypes")
    parseControlItems p rest (acc.1.set bundleName types, acc.2 ++ types)

def readControlList (p : Platform) (value : String) : Option (ControlList × List SourceType) :=
  if value.isEmpty then some (∅, [])
  else
    match p.parseJson value with
    | none => some (∅, [])
    | some root => parseControlItems p root.elements (∅, [])

def setConcurrencyControlList (p : Platform) (kv : StoredLists) (env : Env) :
    ConcurrencyControlList → Option Env
  | .whitelist => (readControlList p kv.concurrentWhiteList).map fun r =>
      { env with concurrentWhitelist := r.1, concurrentTypeSet := r.2 }
  | .blacklist => (readControlList p kv.concurrentBlackList).map fun r =>
      { env with concurrentBlacklist := r.1 }

def clearConcurrentControlList (isWhiteList isBlackList : Bool) (env : Env) : Env :=
  if isWhiteList then { env with concurrentWhitelist := ∅, concurrentTypeSet := [] }
  else if isBlackList then { env with concurrentBlacklist := ∅ }
  else env

def getBundleName (p : Platform) (uid : Int) : String := (p.bundleNameForUid uid).getD ""

def checkCallConflict (env : Env) : Bool :=
  (!env.mVoipConcurrency && env.callActive) ||
  (env.mVoipConcurrency && !env.mCallConcurrency && env.audioScene != .default &&
    env.audioScene != .phoneChat && env.audioScene != .ringing) ||
  (env.mVoipConcurrency && env.mCallConcurrency && env.audioScene != .default &&
    env.audioScene != .phoneChat && env.audioScene != .phoneCall && env.audioScene != .ringing)

def checkCallOnly (env : Env) : Bool :=
  env.mCallConcurrency && env.audioScene == .phoneCall && env.hasStreamBesidesVoice

def ControlList.lists (l : ControlList) (bundleName : String) (source : SourceType) : Bool :=
  match l.find? bundleName with
  | none => false
  | some types => types.contains source

def checkBlacklistConflict (p : Platform) (kv : StoredLists) (bundleName : String)
    (info : CapturerStreamInfo) (env : Env) : Option (Bool × Env) :=
  if !env.mExtensionConcurrency then some (false, env)
  else do
    let env ← if env.concurrentBlacklist.isEmpty
      then setConcurrencyControlList p kv env .blacklist else some env
    return (env.concurrentBlacklist.lists bundleName info.source && info.state == .running, env)

def checkInWhitelist (p : Platform) (kv : StoredLists) (bundleName : String)
    (info : CapturerStreamInfo) (env : Env) : Option (Bool × Env) := do
  let env ← if env.concurrentTypeSet.isEmpty || env.concurrentWhitelist.isEmpty
    then setConcurrencyControlList p kv env .whitelist else some env
  return (env.concurrentTypeSet.contains info.source &&
    env.concurrentWhitelist.lists bundleName info.source, env)

def checkSourceWhisperEnable (env : Env) (info : CapturerStreamInfo) : Bool :=
  info.state != .running || info.mute || info.source == .ultrasonic ||
  (env.mCameraConcurrency && info.source == .unprocessed && info.mixWithWakeUp)

def checkSourceConcurrency (env : Env) (info : CapturerStreamInfo) : Bool :=
  info.state != .running || info.mute || info.source == .ultrasonic ||
  (env.mExtensionConcurrency && env.extensionConcurrentTypeSet.contains info.source) ||
  (env.mCameraConcurrency && info.source == .unprocessed && info.mixWithWakeUp)

def checkVoipOnly (env : Env) (info : CapturerStreamInfo) : Bool :=
  env.mVoipConcurrency && info.state == .running && info.source == .voiceCommunication &&
    env.hasStreamBesidesVoip

def getPipeInfo (p : Platform) (pipes : InputPipes) : List CapturerStreamInfo :=
  let valid := (pipes.getD []).filterMap fun pipe? =>
    pipe?.bind fun pipe =>
      if pipe.adapter ≠ .primary ∨ pipe.routeFlag = p.audioFlagNone ∨
          pipe.routeFlag = p.audioInputFlagOffload ∨ pipe.routeFlag = p.audioInputFlagWakeup
      then none else some pipe
  let byFlag := valid.foldl (fun (m : OrderedMap Nat (OrderedMap Nat CapturerStreamInfo)) pipe =>
    m.set pipe.routeFlag pipe.streams) ∅
  byFlag.entries.flatMap fun e => e.2.entries.map Prod.snd

def isSourceRunning (env : Env) (streams : List CapturerStreamInfo) : Bool :=
  (env.mCallConcurrency && env.audioScene == .phoneCall) ||
    streams.any fun info => info.state == .running

def streamsConcurrent (p : Platform) (kv : StoredLists) :
    List CapturerStreamInfo → Env → Option (Bool × Env)
  | [], env => some (true, env)
  | info :: rest, env => do
    let name := getBundleName p info.uid
    let bundleName := if name.isEmpty then "ERROR! CANT GET BUNDLENAME" else name
    let (conflict, env) ← checkBlacklistConflict p kv bundleName info env
    if conflict then return (false, env)
    if checkVoipOnly env info then return (false, env)
    if checkSourceConcurrency env info then streamsConcurrent p kv rest env
    else if env.mExtensionConcurrency then return (false, env)
    else
      let (listed, env) ← checkInWhitelist p kv bundleName info env
      if listed then streamsConcurrent p kv rest env else return (false, env)

def getConcurrentState (p : Platform) (kv : StoredLists) (streams : List CapturerStreamInfo)
    (env : Env) : Option (Bool × Env) :=
  if checkCallConflict env then some (false, env)
  else if checkCallOnly env then some (false, env)
  else streamsConcurrent p kv streams env

def getWhisperEnable (p : Platform) (kv : StoredLists) :
    List CapturerStreamInfo → Env → Option (Bool × Env)
  | [], env => some (true, env)
  | info :: rest, env => do
    let (listed, env) ← checkInWhitelist p kv (getBundleName p info.uid) info env
    if listed then getWhisperEnable p kv rest env
    else if checkSourceWhisperEnable env info then getWhisperEnable p kv rest env
    else return (false, env)

structure Classification where
  isConcurrent : Bool
  isSourceRunning : Bool
  isWhitelistWhisperEnable : Bool

def classify (p : Platform) (kv : StoredLists) (pipes : InputPipes) (env : Env) :
    Option (Classification × Env) := do
  let streams := getPipeInfo p pipes
  let running := isSourceRunning env streams
  let (concurrent, env) ← getConcurrentState p kv streams env
  let (whisper, env) ← if env.mExtensionConcurrency then getWhisperEnable p kv streams env
    else some (true, env)
  return (⟨concurrent, running, whisper⟩, env)

inductive CaptureMethod where
  | sameState
  | doConcurrentCloseSource
  | doConcurrentOpenSource
  | doNoConcurrentStopSource
  | doNoConcurrentOpenSource
  | doConcurrentStopAndNoConcurrentOpenSource
  | doNoConcurrentStopAndConcurrentOpenSource
deriving DecidableEq

structure CaptureState where
  concurrent : Bool
  source : Bool
deriving DecidableEq

def methodTable : CaptureState → CaptureState → CaptureMethod
  | ⟨false, false⟩, ⟨false, false⟩ => .sameState
  | ⟨false, false⟩, ⟨false, true⟩ => .doNoConcurrentOpenSource
  | ⟨false, false⟩, ⟨true, false⟩ => .doNoConcurrentStopSource
  | ⟨false, false⟩, ⟨true, true⟩ => .doNoConcurrentStopAndConcurrentOpenSource
  | ⟨false, true⟩, ⟨false, false⟩ => .doNoConcurrentStopSource
  | ⟨false, true⟩, ⟨false, true⟩ => .sameState
  | ⟨false, true⟩, ⟨true, false⟩ => .doNoConcurrentStopSource
  | ⟨false, true⟩, ⟨true, true⟩ => .doNoConcurrentStopAndConcurrentOpenSource
  | ⟨true, false⟩, ⟨false, false⟩ => .doNoConcurrentOpenSource
  | ⟨true, false⟩, ⟨false, true⟩ => .doNoConcurrentOpenSource
  | ⟨true, false⟩, ⟨true, false⟩ => .sameState
  | ⟨true, false⟩, ⟨true, true⟩ => .doConcurrentOpenSource
  | ⟨true, true⟩, ⟨false, false⟩ => .doConcurrentStopAndNoConcurrentOpenSource
  | ⟨true, true⟩, ⟨false, true⟩ => .doConcurrentStopAndNoConcurrentOpenSource
  | ⟨true, true⟩, ⟨true, false⟩ => .doConcurrentCloseSource
  | ⟨true, true⟩, ⟨true, true⟩ => .sameState

def Env.captureState (env : Env) : CaptureState :=
  ⟨env.audioConcurrentCapture, env.audioCaptureActive⟩

def Classification.captureState (c : Classification) : CaptureState :=
  ⟨c.isConcurrent, c.isSourceRunning⟩

end IntellVoice.Trigger
