import IntellVoice.Enroll.Completions
import IntellVoice.Implicit.Blocking
import IntellVoice.Implicit.Callbacks
import IntellVoice.Implicit.Executor
import IntellVoice.Implicit.Lifecycle
import IntellVoice.Implicit.Results
import IntellVoice.Offline.Chains
import IntellVoice.Service.ClientJson
import IntellVoice.Service.Completion
import IntellVoice.Service.CrossTalk
import IntellVoice.Service.DelayedUnload
import IntellVoice.Service.Exclusion
import IntellVoice.Service.FilePaths
import IntellVoice.Service.Restore
import IntellVoice.Service.RetryBound
import IntellVoice.Service.StartTasks
import IntellVoice.Service.Unloading
import IntellVoice.Service.Version
import IntellVoice.Trigger.Agreement
import IntellVoice.Trigger.Fan
import IntellVoice.Trigger.FoldRuns
import IntellVoice.Trigger.Hibernation
import IntellVoice.Trigger.Isolation
import IntellVoice.Trigger.Pipes
import IntellVoice.Trigger.Release
import IntellVoice.Trigger.Renderers
import IntellVoice.Trigger.Routing
import IntellVoice.Trigger.Safety
import IntellVoice.Trigger.Scenes
import IntellVoice.Trigger.Staleness
import IntellVoice.Utils.Deinterleave
import IntellVoice.Utils.FileReporter
import IntellVoice.Utils.HuksAes
import IntellVoice.Utils.QueueThreads
import IntellVoice.Utils.Split
import IntellVoice.Utils.SyncCallers
import IntellVoice.Utils.TimerReset
import IntellVoice.Wakeup.Adapters
import IntellVoice.Wakeup.Backup
import IntellVoice.Wakeup.DeathRecipients
import IntellVoice.Wakeup.DeviceOrder
import IntellVoice.Wakeup.Dispatch
import IntellVoice.Wakeup.HighPower
import IntellVoice.Wakeup.Microphone
import IntellVoice.Wakeup.ReportFiles
import IntellVoice.Wakeup.Reset
import IntellVoice.Wakeup.SourceProcess
import IntellVoice.Wakeup.StaleReport
import IntellVoice.Wakeup.StaleTimeout
import IntellVoice.Wakeup.Tables
import IntellVoice.Wakeup.TriggerPairs
