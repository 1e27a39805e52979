import EcsAgent.Tcs.Model
import EcsAgent.Tcs.Pages
import EcsAgent.Tcs.Health
import EcsAgent.Tcs.Batch
import EcsAgent.Tcs.Batch.Split
import EcsAgent.Tcs.Batch.Shape
import EcsAgent.Tcs.Batch.Fit
import EcsAgent.Tcs.Batch.Paging
import EcsAgent.Tcs.Publish
import EcsAgent.Tcs.Framing
import EcsAgent.Tcs.InstanceStatus
import EcsAgent.Utils
import EcsAgent.Api.StateChange
import EcsAgent.Api.Payload
import EcsAgent.Api.Report
import EcsAgent.Ecr.Client
import EcsAgent.Tcs.Serve
