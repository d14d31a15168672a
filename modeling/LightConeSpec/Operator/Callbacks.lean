import LightConeSpec.Operator.Operations
import LightConeSpec.Lib.Program

/-!
# The world of the scheduler

`FormalExperimentSchedulerDaemon` acts through the store and through its
`SchedulerCallbacks`. Both are effects here: a transaction is one effect, and
so is one call of a callback, whose answer is chosen by an `Oracle`.

The `World` holds the committed store and two things that no Python object
holds: the children that are alive, and whether another process has committed
a STOP since the scheduler last read the dispatch control. Only the statements
about the scheduler read them.
-/

namespace Operator

open Python Program

/-- What a callback returned: a value of its documented type, or another. -/
inductive Returned (α : Type)
  | value (a : α)
  | other

/-- `WatchdogPolicy`, with its durations in nanoseconds. -/
structure WatchdogPolicy where
  processAttachGraceNs : Int := 30 * 1000000000
  heartbeatTimeoutNs : Int := 120 * 1000000000
  terminationGraceNs : Int := 60 * 1000000000

/-- The policy and the optional members of `SchedulerCallbacks` that are set. -/
structure SchedulerConfig where
  policy : WatchdogPolicy := {}
  retryBuilder : Bool := false
  recoverStartedProcess : Bool := false
  workerHeartbeat : Bool := false
  workerHeartbeatRequired : Bool := false
  sendTerm : Bool := false
  sendKill : Bool := false
  processGroupAlive : Bool := false
  independentProcessGroups : Bool := false
  partialEvidence : Bool := false

/-! ## Calls and their answers -/

/-- A call out of the scheduler: the two clocks, the callbacks, the file of a
manual recovery and the watchdog pass, which only writes events. -/
inductive Query
  | now
  | storeNow
  | freeDiskBytes (path : String)
  | recoverStartedProcess (now : Int) (command : QueuedCommandSpec)
  | processProbe (pid pgid : Nat)
  | logSizeBytes (command : QueuedCommandSpec)
  | gpuSnapshot (gpus : List String)
  | workerHeartbeat (command : QueuedCommandSpec)
  | workerHeartbeatRequired (command : QueuedCommandSpec)
  | independentProcessGroups (command : QueuedCommandSpec)
  | processGroupAlive (pgid : Int)
  | sendSignal (signal : SignalName) (command : QueuedCommandSpec) (pid pgid : Nat)
  | terminalValidator (command : QueuedCommandSpec) (row : AttemptRow)
      (observation : ProcessObservation)
  | partialEvidence (command : QueuedCommandSpec)
  | retryBuilder (command : QueuedCommandSpec) (nextAttempt : Nat)
  | bindManualEvidence (binding : ArtifactBinding)
  | watchdogOnce (now : Int)

/-- The type of the answer to a call. -/
def Query.Reply : Query → Type
  | .now | .storeNow => Int
  | .freeDiskBytes _ => Except Error (Returned Int)
  | .recoverStartedProcess .. => Except Error (Returned (Option RecoveredProcessStart))
  | .processProbe .. => Except Error (Returned ProcessObservation)
  | .logSizeBytes _ => Except Error Int
  | .gpuSnapshot _ => Except Error Bool
  | .workerHeartbeat _ => Except Error (Returned (Option WorkerHeartbeat))
  | .workerHeartbeatRequired _ => Except Error Bool
  | .independentProcessGroups _ => Except Error (Returned (List Int))
  | .processGroupAlive _ => Except Error Bool
  | .sendSignal .. => Except Error Unit
  | .terminalValidator .. => Except Error (Returned (Option TerminalEvidence))
  | .partialEvidence _ => Except Error EvidenceFiles
  | .retryBuilder .. => Except Error (Returned (CellAttemptSpec × QueuedCommandSpec))
  | .bindManualEvidence _ => Except Error ArtifactBinding
  | .watchdogOnce _ => Except Error Unit

/-- One indivisible action of the scheduler. `attach` is the transaction that
follows a launch; unlike the others it may also fail in the database. -/
inductive Effect
  | read
  | dispatchControl
  | write (op : StoreOp)
  | attach (op : StoreOp)
  | launch (command : QueuedCommandSpec) (gpus : List String)
  | ask (query : Query)

/-- The type of the answer to an effect. A read answers the committed store,
which the caller then queries. -/
def Effect.Reply : Effect → Type
  | .read | .dispatchControl => Store
  | .write _ | .attach _ => Except Error Unit
  | .launch .. => Except Error (Returned SpawnedProcess)
  | .ask query => query.Reply

/-- A piece of the scheduler's code. -/
abbrev Sched (α : Type) := Prog Effect Effect.Reply Error α

/-! ## The world -/

/-- A child process that was started for an attempt and is alive. -/
structure Child where
  key : AttemptKey
  pid : Nat
  gpus : List String
deriving DecidableEq

/-- The committed store, the live children, and whether another process has
committed a STOP since the scheduler last read the dispatch control. -/
structure World where
  store : Store
  children : List Child := []
  stopSinceGate : Bool := false

/-- What the environment answers when an effect is performed. A launch may
leave a live child whatever it returns. -/
structure Oracle where
  answer : (query : Query) → query.Reply
  launched : Except Error (Returned SpawnedProcess)
  child : Option Nat := none
  attachFault : Option Error := none

namespace World

def transact (w : World) (op : StoreOp) : Except Error Unit × World :=
  ((w.store.step op).1, { w with store := (w.store.step op).2 })

/-- The children after a launch. -/
def spawn (w : World) (key : AttemptKey) (gpus : List String) (child : Option Nat) : World :=
  { w with children := w.children ++ child.toList.map fun pid => ⟨key, pid, gpus⟩ }

/-- The answer to an effect and the world after it. -/
def handle (w : World) (ω : Oracle) : (e : Effect) → e.Reply × World
  | .read => (w.store, w)
  | .dispatchControl => (w.store, { w with stopSinceGate := false })
  | .write op => w.transact op
  | .attach op =>
    match ω.attachFault with
    | some error => (.error error, w)
    | none => w.transact op
  | .launch command gpus => (ω.launched, w.spawn command.key gpus ω.child)
  | .ask query => (ω.answer query, w)

end World

/-- What happens beside the scheduler: another process calls the store, or a
child exits. -/
inductive Foreign
  | call (op : StoreOp)
  | exit (child : Child)

/-- The operation persists a STOP. -/
def StoreOp.isSetDispatchStop : StoreOp → Bool
  | .setDispatchStop .. => true
  | _ => false

/-- The operation returns to `RUN`. -/
def StoreOp.isClearDispatchStop : StoreOp → Bool
  | .clearDispatchStop .. => true
  | _ => false

def World.foreign (w : World) : Foreign → World
  | .call op =>
    { (w.transact op).2 with
      stopSinceGate := w.stopSinceGate || op.isSetDispatchStop && (w.store.apply op).isOk }
  | .exit child => { w with children := w.children.filter (· ≠ child) }

end Operator
