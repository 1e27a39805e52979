import Mathlib.Data.List.Basic

/-!
# The TCS Client's Messages and Requests

What the TCS client of `tcs/client/client.go` receives and what it sends. The agent hands
the client telemetry messages and health messages; the client cuts each one into publish
requests for the telemetry backend.

The message and request types live in the `ecstcs` package, which is not among the
sources, so their shape is the one `client.go` reads and writes. Three kinds of payload
are never inspected by the client, only copied: the instance metrics, a container metric
and a service connect metric. They are type parameters (`μ`, `κ`, `σ`), and so is a task
health entry (`τ`). A task metric is read at exactly two fields, its container metrics and
its service connect metrics; every other field it carries is bundled in `info : ι`.

The code copies slices and structs before it resets its buffers (`copyTaskMetrics`,
`copyServiceConnectMetrics`). As values those copies are the identity, and they are
written so here, under their own names, so that each call site of the source has its
counterpart.

Pointers become values, with one exception that the code itself makes. The metrics path
dereferences every field of its metadata (`*metadata.Idle`, `copyMetricsMetadata`), so
those fields are plain values. The health path reads its metadata through `aws.ToString`,
which turns a nil pointer into the empty string, so those fields stay optional.

## Main definitions

* `MetricsMetadata`, `TaskMetric`, `PublishMetricsRequest`, `TelemetryMessage`: the
  metrics side.
* `HealthMetadata`, `PublishHealthRequest`, `HealthMessage`: the health side.
* `filterInstanceMetrics`: Instance metrics travel in the first request only.
* `copyMetricsMetadata`, `copyHealthMetadata`: A request's metadata, with its `Fin` flag.

## Theorems

* `filterInstanceMetrics_zero`, `filterInstanceMetrics_succ`: The filter before and after
  the first request.
* `filterInstanceMetrics_filterInstanceMetrics`: Filtering an already filtered value at a
  later count.
-/

namespace EcsAgent

namespace Tcs

/-- The most task metrics one publish-metrics request carries. -/
def tasksInMetricMessage : Nat := 10

/-- The most task health entries one publish-health request carries. -/
def tasksInHealthMessage : Nat := 10

/-- The most bytes a publish-metrics request may take on the wire. -/
def publishMetricRequestSizeLimit : Nat := 1024 * 1024

/-! ### Metrics -/

/-- The metadata of a telemetry message, copied into each request made from it. -/
structure MetricsMetadata where
  cluster : String
  containerInstance : String
  idle : Bool
  messageId : String
  fin : Bool
  deriving DecidableEq, Repr

/-- A task's metrics: its container metrics, its service connect metrics, and `info`, the
    fields the client copies without reading. -/
structure TaskMetric (ι κ σ : Type) where
  info : ι
  containerMetrics : List κ
  serviceConnectMetricsWrapper : List σ
  deriving DecidableEq, Repr

/-- One publish-metrics request. -/
structure PublishMetricsRequest (μ ι κ σ : Type) where
  instanceMetrics : Option μ
  metadata : MetricsMetadata
  taskMetrics : List (TaskMetric ι κ σ)
  deriving DecidableEq, Repr

/-- A telemetry message, as the agent hands it to the client. -/
structure TelemetryMessage (μ ι κ σ : Type) where
  instanceMetrics : Option μ
  metadata : Option MetricsMetadata
  taskMetrics : List (TaskMetric ι κ σ)
  deriving DecidableEq, Repr

variable {μ ι κ σ τ : Type}

/-- Modelled from the spec: `ecstcs.NewPublishMetricsRequest`, which is not among the
    sources, builds the request from its three arguments, as every caller in `client.go`
    reads it. The timestamp it also sets is read by nothing here. -/
def newPublishMetricsRequest (instanceMetrics : Option μ) (metadata : MetricsMetadata)
    (taskMetrics : List (TaskMetric ι κ σ)) : PublishMetricsRequest μ ι κ σ :=
  ⟨instanceMetrics, metadata, taskMetrics⟩

/-- The instance metrics, if there are any and no request has been made yet. -/
def filterInstanceMetrics (instanceMetrics : Option μ) (requestCount : Nat) : Option μ :=
  if instanceMetrics.isSome ∧ requestCount = 0 then instanceMetrics else none

/-- A fresh metadata object with the message's fields and the given `Fin` flag. -/
def copyMetricsMetadata (metadata : MetricsMetadata) (fin : Bool) : MetricsMetadata :=
  { cluster := metadata.cluster
    containerInstance := metadata.containerInstance
    idle := metadata.idle
    messageId := metadata.messageId
    fin := fin }

/-- A fresh slice holding the same task metrics. -/
def copyTaskMetrics (taskMetrics : List (TaskMetric ι κ σ)) : List (TaskMetric ι κ σ) :=
  taskMetrics

/-- A fresh slice of fresh copies of the service connect metrics. -/
def copyServiceConnectMetrics (scMetrics : List σ) : List σ :=
  scMetrics

@[simp] theorem filterInstanceMetrics_zero (instanceMetrics : Option μ) :
    filterInstanceMetrics instanceMetrics 0 = instanceMetrics := by
  cases instanceMetrics <;> rfl

@[simp] theorem filterInstanceMetrics_succ (instanceMetrics : Option μ) (n : Nat) :
    filterInstanceMetrics instanceMetrics (n + 1) = none := by
  simp [filterInstanceMetrics]

@[simp] theorem filterInstanceMetrics_none (n : Nat) :
    filterInstanceMetrics (none : Option μ) n = none := by
  simp [filterInstanceMetrics]

/-- The service connect loop filters the value the task loop already filtered, at a
    request count that can only have grown since; the result is the one filter at the
    later count. -/
theorem filterInstanceMetrics_filterInstanceMetrics (instanceMetrics : Option μ)
    {k₀ k : Nat} (hk : k₀ ≤ k) :
    filterInstanceMetrics (filterInstanceMetrics instanceMetrics k₀) k =
      filterInstanceMetrics instanceMetrics k := by
  cases k with
  | zero => rw [Nat.le_zero.mp hk]; simp
  | succ k => simp

@[simp] theorem copyMetricsMetadata_fin (metadata : MetricsMetadata) (fin : Bool) :
    (copyMetricsMetadata metadata fin).fin = fin := rfl

@[simp] theorem copyTaskMetrics_eq (taskMetrics : List (TaskMetric ι κ σ)) :
    copyTaskMetrics taskMetrics = taskMetrics := rfl

@[simp] theorem copyServiceConnectMetrics_eq (scMetrics : List σ) :
    copyServiceConnectMetrics scMetrics = scMetrics := rfl

/-! ### Health -/

/-- The metadata of a health message. Its fields may be nil. -/
structure HealthMetadata where
  cluster : Option String
  containerInstance : Option String
  fin : Option Bool
  messageId : Option String
  deriving DecidableEq, Repr

/-- One publish-health request. -/
structure PublishHealthRequest (τ : Type) where
  metadata : HealthMetadata
  tasks : List τ
  deriving DecidableEq, Repr

/-- A health message, as the agent hands it to the client. -/
structure HealthMessage (τ : Type) where
  metadata : Option HealthMetadata
  healthMetrics : Option (List τ)
  deriving DecidableEq, Repr

/-- Modelled from the spec: `ecstcs.NewPublishHealthMetricsRequest`, which is not among
    the sources, builds the request from its two arguments. The timestamp it also sets is
    read by nothing here. -/
def newPublishHealthMetricsRequest (metadata : HealthMetadata) (healthMetrics : List τ) :
    PublishHealthRequest τ :=
  ⟨metadata, healthMetrics⟩

/-- A deep copy of the health metadata with the given `Fin` flag. Each string goes through
    `aws.ToString`, so a nil field comes out as the empty string. -/
def copyHealthMetadata (metadata : HealthMetadata) (fin : Bool) : HealthMetadata :=
  { cluster := some (metadata.cluster.getD "")
    containerInstance := some (metadata.containerInstance.getD "")
    fin := some fin
    messageId := some (metadata.messageId.getD "") }

/-- A fresh slice holding the same task health entries. -/
def copyTaskHealthMetrics (taskHealths : List τ) : List τ :=
  taskHealths

@[simp] theorem copyTaskHealthMetrics_eq (taskHealths : List τ) :
    copyTaskHealthMetrics taskHealths = taskHealths := rfl

end Tcs

end EcsAgent
