import ForgeKernel.Property.MutexLedger
import ForgeKernel.Property.Preemption
import ForgeKernel.Property.Timeouts
import ForgeKernel.Property.QueueFifo
import ForgeKernel.Property.QueueWakeups
import ForgeKernel.Property.SemaphoreTokens
import ForgeKernel.Property.EventFlagWaits
import ForgeKernel.Property.TraceRing
import ForgeKernel.Property.EventFlagBroadcast
import ForgeKernel.Property.EventFlagOrders
import ForgeKernel.Property.ExpiryPass
import ForgeKernel.Property.InheritedPriorities
import ForgeKernel.Property.RoundRobin
import ForgeKernel.Property.Rotation
import ForgeKernel.Property.FatalPaths
import ForgeKernel.Property.Registration
import ForgeKernel.Property.SelfCheck
import ForgeKernel.Property.TraceReplay
import ForgeKernel.Property.TraceOfRuns
import ForgeKernel.Property.RuntimeCreation
import ForgeKernel.Property.StackSoundness
import ForgeKernel.Property.ContextPreservation
import ForgeKernel.Property.MonitorLines
import ForgeKernel.Property.LockHierarchy
import ForgeKernel.Property.SelfCheckVerdict
import ForgeKernel.Property.EndlessWaits
import ForgeKernel.Property.ReleaseSafety
import ForgeKernel.Property.DemoPipeline
import ForgeKernel.Property.MonitorSession
