import IntellVoice.Trigger.Evaluation

/-! The configuration says whether models may run during calls. -/

namespace IntellVoice.Trigger
open Transition Helper
variable {M : Type*} {p : Platform} {mod : ConnectorModule M}

structure Env.Calm (env : Env) : Prop where
  awake : env.systemHibernate = false
  noCall : env.callActive = false
  capture : env.audioConcurrentCapture ∨ env.audioCaptureActive = false

/-- The callback leaves alone the model and all that the decision about it depends on: it reports
what is known already, or is a request for another model. -/
def Event.Quiet (w : World M) (uuid : Int) : Event → Prop
  | .onAudioSceneChange audioScene => w.helper.env.audioScene = audioScene
  | .onHibernateStateUpdated isHibernate => w.helper.env.systemHibernate = isHibernate
  | .onCapturerStateChange isActive => w.helper.env.audioCaptureActive = isActive
  | .startGenericRecognition k _ _ => uuid ≠ k
  | .stopGenericRecognition k => uuid ≠ k
  | .unloadGenericTriggerModel k => uuid ≠ k
  | _ => False

namespace Helper
variable {h : Helper M}

end Helper

end IntellVoice.Trigger
