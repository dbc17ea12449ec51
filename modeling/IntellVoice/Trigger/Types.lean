import Mathlib.Data.String.Basic
import IntellVoice.Library.OrderedMap
import IntellVoice.Utils.Json

/-! The records and enumerations that `TriggerHelper` keeps or receives. -/

namespace IntellVoice.Trigger
open Utils

inductive ModelState where
  | notLoaded
  | loaded
  | started
deriving DecidableEq

structure GenericTriggerModel where
  uuid : Int
  version : Int
  type : Int
  data : List UInt8
deriving DecidableEq

abbrev Callback := Nat

structure TriggerModelData where
  uuid : Int
  state : ModelState := .notLoaded
  model : Option GenericTriggerModel := none
  callback : Option Callback := none
  modelHandle : Int := 0
  requested : Bool := false
deriving DecidableEq

namespace TriggerModelData

def setCallback (d : TriggerModelData) (callback : Option Callback) : TriggerModelData :=
  match callback with
  | none => d
  | some cb => { d with callback := some cb }

def sameModel (d : TriggerModelData) (model : GenericTriggerModel) : Bool :=
  match d.model with
  | none => false
  | some m => m.data == model.data

def setModel (d : TriggerModelData) (model : GenericTriggerModel) : TriggerModelData :=
  if d.sameModel model then d else { d with model := some model }

def setState (d : TriggerModelData) (state : ModelState) : TriggerModelData :=
  { d with state := state }

def setModelHandle (d : TriggerModelData) (handle : Int) : TriggerModelData :=
  { d with modelHandle := handle }

def setRequested (d : TriggerModelData) (requested : Bool) : TriggerModelData :=
  { d with requested := requested }

def clear (d : TriggerModelData) : TriggerModelData :=
  { d with callback := none, state := .notLoaded }

def clearCallback (d : TriggerModelData) : TriggerModelData :=
  { d with callback := none }

end TriggerModelData

def voiceWakeupModelUuid : Int := 1
def proximalWakeupModelUuid : Int := 2
def modelVersion2 : Int := 2
def proximalWakeupType : Int := 2

inductive AudioScene where
  | default
  | ringing
  | phoneCall
  | phoneChat
  | other (code : Int)
deriving DecidableEq

inductive SourceType where
  | mic
  | voiceRecognition
  | voiceCommunication
  | ultrasonic
  | voiceCall
  | voiceTranscription
  | camcorder
  | unprocessed
  | other (code : Int)
deriving DecidableEq

inductive CapturerState where
  | running
  | other (code : Int)
deriving DecidableEq

structure CapturerStreamInfo where
  uid : Int
  source : SourceType
  state : CapturerState
  mute : Bool
  mixWithWakeUp : Bool

inductive HdiAdapterType where
  | primary
  | other (code : Int)
deriving DecidableEq

structure AudioInputPipeInfo where
  adapter : HdiAdapterType
  routeFlag : Nat
  streams : OrderedMap Nat CapturerStreamInfo

abbrev InputPipes := Option (List (Option AudioInputPipeInfo))

inductive StreamUsage where
  | voiceCommunication
  | videoCommunication
  | voiceModemCommunication
  | other (code : Int)
deriving DecidableEq

structure AudioRendererChangeInfo where
  running : Bool
  streamUsage : Int
deriving DecidableEq

inductive FoldStatus where
  | unknown
  | expand
  | folded
  | halfFold
  | other (code : Int)
deriving DecidableEq

inductive Ability where
  | cameraConcurrency
  | extensionConcurrency
  | voipConcurrency
  | callConcurrency
deriving DecidableEq

inductive ConcurrencyControlList where
  | whitelist
  | blacklist
deriving DecidableEq

structure Build where
  recordWakeupConcurrent : Bool
  windowManager : Bool
  telephonyService : Bool
  powerManager : Bool
  onlyFirstStage : Bool

structure Platform where
  build : Build
  callStatusUnknown : Int
  callStatusDisconnected : Int
  callStatusIdle : Int
  audioFlagNone : Nat
  audioInputFlagOffload : Nat
  audioInputFlagWakeup : Nat
  streamUsageOf : Int → StreamUsage
  sourceTypeOf : Int → SourceType
  supportAbility : Ability → Bool
  bundleNameForUid : Int → Option String
  parseJson : String → Option Json
  readFile : String → Option (List UInt8)
  country : String

def Platform.bare (build : Build) : Platform where
  build := build
  callStatusUnknown := -1
  callStatusDisconnected := 6
  callStatusIdle := 8
  audioFlagNone := 0
  audioInputFlagOffload := 32
  audioInputFlagWakeup := 64
  streamUsageOf := .other
  sourceTypeOf := .other
  supportAbility _ := false
  bundleNameForUid _ := none
  parseJson _ := none
  readFile _ := none
  country := ""

def Build.minimal (recordWakeupConcurrent : Bool) : Build where
  recordWakeupConcurrent := recordWakeupConcurrent
  windowManager := false
  telephonyService := true
  powerManager := true
  onlyFirstStage := false

def GenericTriggerModel.voiceWakeup (data : List UInt8) : GenericTriggerModel :=
  { uuid := voiceWakeupModelUuid, version := modelVersion2, type := 1, data := data }

def InputPipes.running (source : SourceType) : InputPipes :=
  some [some
    { adapter := .primary
      routeFlag := 1
      streams := OrderedMap.set ∅ 0
        { uid := 0, source := source, state := .running, mute := false, mixWithWakeUp := false } }]

inductive Effect where
  | loadModel (uuid : Int)
  | unloadModel (uuid : Int) (handle : Int)
  | start (uuid : Int) (handle : Int)
  | stop (uuid : Int) (handle : Int)
  | setParams (key value : String)
  | setExtraParameters (key name value : String)
  | updateGenericTriggerModel (model : GenericTriggerModel)
  | onGenericTriggerDetected (uuid : Int) (callback : Callback) (handle : Int)
deriving DecidableEq

def Effect.loadsOrStarts (uuid : Int) : Effect → Bool
  | .loadModel u => u == uuid
  | .start u _ => u == uuid
  | _ => false

def Effect.detects (uuid : Int) : Effect → Bool
  | .onGenericTriggerDetected u _ _ => u == uuid
  | _ => false

end IntellVoice.Trigger
