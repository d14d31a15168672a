import LightConeSpec.Publication.ExactlyOnce
import LightConeSpec.Publication.Agreement
import LightConeSpec.Operator.StopGate
import LightConeSpec.Operator.Interference
import LightConeSpec.Adaptation.Slabs
import LightConeSpec.Operator.Coverage
import LightConeSpec.Operator.Billing
import LightConeSpec.Operator.Eviction
import LightConeSpec.Adaptation.KvHistory
import LightConeSpec.Adaptation.Lifecycle
import LightConeSpec.Pool.Ledger
import LightConeSpec.Fleet.Resume
import LightConeSpec.GpuFleet.Chain
import LightConeSpec.Control.SingleUse
import LightConeSpec.Telemetry.Immutable
import LightConeSpec.Telemetry.Separation
import LightConeSpec.Statistics.Multiplicity
import LightConeSpec.Pool.Retry
import LightConeSpec.Control.CrashPoints
import LightConeSpec.RollingArchive.EvictionAccounts
import LightConeSpec.RollingArchive.RestoreAccounts
import LightConeSpec.Load.TokenTiming
import LightConeSpec.Load.ClosedLoop
import LightConeSpec.OnlineSpec.Regret
import LightConeSpec.Sampling.Rejection
import LightConeSpec.Experiments.Tournament
import LightConeSpec.Pool.PublicationCrashes
import LightConeSpec.CompileCache.RoundTrip
import LightConeSpec.Fleet.WorkerReports
import LightConeSpec.Fleet.ResponseExact
import LightConeSpec.Adaptation.PlanMemory
import LightConeSpec.Adaptation.PlanLayers
import LightConeSpec.Scheduling.InputOrder
import LightConeSpec.Scheduling.Soundness
