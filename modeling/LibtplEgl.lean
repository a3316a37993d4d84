import LibtplEgl.BackBufferSelection
import LibtplEgl.BufferAccess
import LibtplEgl.BufferOwnership
import LibtplEgl.BufferReferences
import LibtplEgl.BufferRelease
import LibtplEgl.CommitDamage
import LibtplEgl.DequeueTimeout
import LibtplEgl.DescriptorOwnership
import LibtplEgl.DisplayCreation
import LibtplEgl.DisplayRegistry
import LibtplEgl.DrawWaitingQueue
import LibtplEgl.Dri3BufferAge
import LibtplEgl.EglBufferConservation
import LibtplEgl.EglBufferOwnership
import LibtplEgl.FailedDequeue
import LibtplEgl.FailedEnqueue
import LibtplEgl.FenceOwnership
import LibtplEgl.FreeBufferWait
import LibtplEgl.FrontbufferMode
import LibtplEgl.GbmReferences
import LibtplEgl.HandleLifetime
import LibtplEgl.HashList
import LibtplEgl.HashListLifetime
import LibtplEgl.HashMixing
import LibtplEgl.ListOperations
import LibtplEgl.LiveObjectRegistry
import LibtplEgl.LockOrder
import LibtplEgl.LogicalSize
import LibtplEgl.MapRefinement
import LibtplEgl.MoveOffsets
import LibtplEgl.ObjectLifetime
import LibtplEgl.ProxyQueues
import LibtplEgl.ResetCallbackLocks
import LibtplEgl.ResetGeneration
import LibtplEgl.StringKeys
import LibtplEgl.SurfaceCreation
import LibtplEgl.SurfaceInvalidation
import LibtplEgl.SwapPacing
import LibtplEgl.SwapchainEnumeration
import LibtplEgl.SwapchainLifecycle
import LibtplEgl.TbmVulkanReferences
import LibtplEgl.UserDataIsolation
import LibtplEgl.UserDataLoss
import LibtplEgl.VblankRequest
import LibtplEgl.WaylandEglDisplay
import LibtplEgl.WaylandVkWsiDisplay
import LibtplEgl.WaylandVulkanReferences
import LibtplEgl.WindowCallbacks
import LibtplEgl.WindowCreation
import LibtplEgl.WindowFrames
import LibtplEgl.WindowSize
import LibtplEgl.WorkerDescriptors
import LibtplEgl.WorkerOrder
import LibtplEgl.WorkerPointers
import LibtplEgl.WorkerQuiescence
import LibtplEgl.WorkerShutdown
import LibtplEgl.WorkerWakeup
import LibtplEgl.X11GlobalState
