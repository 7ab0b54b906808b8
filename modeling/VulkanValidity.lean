import VulkanValidity.Barrier
import VulkanValidity.Catalog
import VulkanValidity.Catalog.Entry
import VulkanValidity.Catalog.Lexeme
import VulkanValidity.Catalog.Reader
import VulkanValidity.Catalog.Value
import VulkanValidity.CommandBuffer
import VulkanValidity.Device
import VulkanValidity.Device.Creation
import VulkanValidity.Device.Memory
import VulkanValidity.Device.Presentation
import VulkanValidity.Device.Recording
import VulkanValidity.Device.Submission
import VulkanValidity.DeviceSize
import VulkanValidity.Diagnostic
import VulkanValidity.Environment
import VulkanValidity.Flags
import VulkanValidity.Format
import VulkanValidity.Handle
import VulkanValidity.HardwareBuffer
import VulkanValidity.Image
import VulkanValidity.Interval
import VulkanValidity.Memory
import VulkanValidity.Monitor
import VulkanValidity.Named
import VulkanValidity.Ownership
import VulkanValidity.Queue
import VulkanValidity.RangeMap
import VulkanValidity.Recording
import VulkanValidity.Registry
import VulkanValidity.RenderPass
import VulkanValidity.Replay
import VulkanValidity.Requirements
import VulkanValidity.Resource
import VulkanValidity.Rule
import VulkanValidity.Rules.Barrier
import VulkanValidity.Rules.Binding
import VulkanValidity.Rules.Buffer
import VulkanValidity.Rules.Command
import VulkanValidity.Rules.Framebuffer
import VulkanValidity.Rules.Image
import VulkanValidity.Rules.ImageView
import VulkanValidity.Rules.Memory
import VulkanValidity.Rules.Objects
import VulkanValidity.Rules.RenderPass
import VulkanValidity.Rules.RenderPassBegin
import VulkanValidity.Rules.Sharing
import VulkanValidity.Rules.Standard
import VulkanValidity.Rules.Submission
import VulkanValidity.Rules.Swapchain
import VulkanValidity.Session
import VulkanValidity.Submission
import VulkanValidity.Swapchain
import VulkanValidity.UseTable
import VulkanValidity.Proofs.IndexRanges
import VulkanValidity.Proofs.UseTable
import VulkanValidity.Proofs.Registry
import VulkanValidity.Proofs.Objects
import VulkanValidity.Proofs.Operations
import VulkanValidity.Proofs.Reports
import VulkanValidity.Proofs.Session
import VulkanValidity.Proofs.Footprints
import VulkanValidity.Proofs.Recording
import VulkanValidity.Proofs.Replay
import VulkanValidity.Proofs.RangeUpdates
import VulkanValidity.Proofs.Subresource
import VulkanValidity.Proofs.Findings
import VulkanValidity.Proofs.Invariant
import VulkanValidity.Proofs.Logs
import VulkanValidity.Proofs.Refinement
import VulkanValidity.Proofs.Commutation
import VulkanValidity.Proofs.Handover
import VulkanValidity.Proofs.LayoutKnowledge
import VulkanValidity.Proofs.LayoutChecks
import VulkanValidity.Proofs.LayoutSoundness
import VulkanValidity.Proofs.Parties
import VulkanValidity.Proofs.Trail
import VulkanValidity.Proofs.InUse
import VulkanValidity.Proofs.Pending
import VulkanValidity.Proofs.Closure
import VulkanValidity.Proofs.Diagnosis
import VulkanValidity.Proofs.Verdicts
import VulkanValidity.Proofs.BatchOrder
import VulkanValidity.Proofs.References
import VulkanValidity.Proofs.Rejection
import VulkanValidity.Proofs.Admission
import VulkanValidity.Proofs.Changes
import VulkanValidity.Proofs.Feed
import VulkanValidity.Proofs.Evolution
import VulkanValidity.Proofs.Agreement
import VulkanValidity.Proofs.Conservation
import VulkanValidity.Proofs.Checkpoints
import VulkanValidity.Proofs.Severities
import VulkanValidity.Proofs.Catalogs
import VulkanValidity.Proofs.Accesses
import VulkanValidity.Proofs.Families
import VulkanValidity.Proofs.TrackedStates
import VulkanValidity.Proofs.Alike
import VulkanValidity.Proofs.CommandChecks
import VulkanValidity.Proofs.Cuts
import VulkanValidity.Proofs.Boundaries
import VulkanValidity.Proofs.DeviceSize
import VulkanValidity.Proofs.ExactSizes
import VulkanValidity.Proofs.LinearLayouts
import VulkanValidity.Proofs.Allocations
import VulkanValidity.Proofs.Bindings
import VulkanValidity.Proofs.MonitorRuns
import VulkanValidity.Proofs.Ledgers
import VulkanValidity.Proofs.Scenarios
import VulkanValidity.Proofs.Settlement
import VulkanValidity.Proofs.Assignments
import VulkanValidity.Proofs.Accounts
import VulkanValidity.Proofs.Swapchains
import VulkanValidity.Proofs.Origins
import VulkanValidity.Proofs.SwapchainImages
import VulkanValidity.Proofs.MipLevels
import VulkanValidity.Proofs.ImageLimits
import VulkanValidity.Proofs.Acquisitions
import VulkanValidity.Proofs.Batches
import VulkanValidity.Proofs.ProblemKinds
import VulkanValidity.Proofs.BarrierChecks
import VulkanValidity.Proofs.BarrierSequences
import VulkanValidity.Proofs.Coverage
import VulkanValidity.Proofs.LocalLayouts
import VulkanValidity.Proofs.Attachments
import VulkanValidity.Proofs.RenderPassLayouts
import VulkanValidity.Proofs.Handshake
import VulkanValidity.Proofs.Flags
import VulkanValidity.Proofs.SubresourceNumbers
import VulkanValidity.Proofs.ViewCoverage
import VulkanValidity.Proofs.Acceptance
import VulkanValidity.Proofs.Requirements
import VulkanValidity.Proofs.Sufficiency
import VulkanValidity.Proofs.SubresourceLayouts
import VulkanValidity.Proofs.HardwareBufferSizes
import VulkanValidity.Proofs.MipChains
import VulkanValidity.Proofs.HardwareBufferImports
import VulkanValidity.Proofs.Descriptors
import VulkanValidity.Proofs.MemoryTypes
import VulkanValidity.Proofs.Presentation
import VulkanValidity.Proofs.Liveness
import VulkanValidity.Proofs.OneTimeSubmission
import VulkanValidity.Proofs.HandleEncoding
