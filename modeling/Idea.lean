import Idea.Data.Dict
import Idea.Data.Heap
import Idea.Data.HeapOrder
import Idea.Data.Cyclic
import Idea.Data.Text
import Idea.Data.Path
import Idea.Data.Json
import Idea.Data.Document
import Idea.Data.DocumentLines
import Idea.Data.Decimal
import Idea.Data.DecimalText
import Idea.Data.Shell
import Idea.Data.ShellTemplate
import Idea.Data.ShellExact
import Idea.System.Run
import Idea.Model.Job
import Idea.Model.Texts
import Idea.Queue.RoundRobin
import Idea.Queue.Provisioning
import Idea.Queue.Conservation
import Idea.Queue.GetLoop
import Idea.Queue.Fairness
import Idea.Queue.QueueLimits
import Idea.Queue.BatchDrain
import Idea.Queue.Priorities
import Idea.Queue.Ranking
import Idea.Instances.Cache
import Idea.Instances.Counts
import Idea.Instances.Session
import Idea.Instances.Limit
import Idea.Provisioner.Licenses
import Idea.Provisioner.StaleLicenses
import Idea.Provisioner.StackJob
import Idea.JobMonitor.FinishedJobs
import Idea.JobMonitor.FinishedRecords
import Idea.JobMonitor.FinishedRun
import Idea.JobMonitor.Updates
import Idea.HouseKeeping.InUse
import Idea.HouseKeeping.Reductions
import Idea.HouseKeeping.Candidates
import Idea.HouseKeeping.SharedCapacity
import Idea.Provisioner.Context
import Idea.Provisioner.Scheduler
import Idea.Provisioner.BatchCapacity
import Idea.Provisioner.ProvisionJobs
import Idea.Provisioner.Results
import Idea.Provisioner.Sufficiency
import Idea.HouseKeeping.RetryCleanup
import Idea.QueueProfiles.Codec
import Idea.QueueProfiles.Create
import Idea.QueueProfiles.RoundTrip
import Idea.Scheduler.NodeAttributes
import Idea.Scheduler.NodeRoundTrip
import Idea.Scheduler.NcpusHook
import Idea.Scheduler.SubmitJob
import Idea.VirtualDesktop.PermissionsFile
import Idea.VirtualDesktop.ResumeCommands
import Idea.QueueProfiles.Service
import Idea.QueueProfiles.Outcomes
import Idea.QueueProfiles.Invariant
import Idea.QueueProfiles.SharedQueues
import Idea.QueueProfiles.QueueSets
import Idea.QueueProfiles.Coherence
import Idea.QueueProfiles.Provisioners
import Idea.VirtualDesktop.QueueMessages
import Idea.VirtualDesktop.QueuePollers
import Idea.System.Triple
import Idea.VirtualDesktop.Store
import Idea.VirtualDesktop.SessionUtils
import Idea.VirtualDesktop.SessionApi
import Idea.VirtualDesktop.SessionHandlers
import Idea.VirtualDesktop.SessionRules
import Idea.VirtualDesktop.HandlerRules
import Idea.VirtualDesktop.Lifecycle
import Idea.VirtualDesktop.InstanceOwners
import Idea.VirtualDesktop.Orphans
import Idea.VirtualDesktop.Transitions
import Idea.VirtualDesktop.Attendance
import Idea.VirtualDesktop.StuckSessions
import Idea.Directory.ComputerAccounts
import Idea.Directory.AdminPassword
import Idea.Model.Memory
import Idea.VirtualDesktop.LaunchRequests
import Idea.VirtualDesktop.SessionQuota
import Idea.VirtualDesktop.LaunchPolicy
import Idea.System.Faults
import Idea.Settings.ClusterConfigDB
import Idea.Settings.StackSettings
import Idea.Settings.SettingsApi
import Idea.Settings.StoredValues
import Idea.Settings.CursorListings
import Idea.Settings.ConfigTrees
import Idea.Settings.ConfigRoundTrip
import Idea.Settings.StreamSubscription
import Idea.Cluster.DeleteCluster
import Idea.Analytics.AnalyticsService
import Idea.Server.FileUpload
import Idea.System.Services
import Idea.System.FifoQueue
import Idea.System.SegmentedLog
import Idea.Accounts.Usernames
import Idea.Accounts.Stores
import Idea.Accounts.AccountsService
import Idea.Accounts.Calls
import Idea.Accounts.SudoFlags
import Idea.Accounts.Administrators
import Idea.Accounts.DeleteUser
import Idea.Accounts.TaskManager
import Idea.Accounts.MembershipTasks
import Idea.Cluster.LeaderElection
import Idea.Server.Authorization
import Idea.VirtualDesktop.Schedules
import Idea.VirtualDesktop.HostProvisioning
import Idea.VirtualDesktop.BulkOperations
import Idea.VirtualDesktop.BulkRemovals
import Idea.VirtualDesktop.BulkAccounts
import Idea.VirtualDesktop.BulkOutcomes
import Idea.Server.AccessTokens
import Idea.FileBrowser.CheckAccess
import Idea.FileBrowser.TailFile
import Idea.VirtualDesktop.SessionCodec
import Idea.VirtualDesktop.SessionRoundTrip
import Idea.JobMonitor.BilledTime
import Idea.Data.Pages
import Idea.JobMonitor.QueuedSync
import Idea.JobMonitor.PagedQstat
import Idea.JobParams.Capacity
import Idea.JobParams.Storage
import Idea.JobParams.Network
import Idea.JobParams.Options
import Idea.JobParams.JobBuilder
import Idea.JobParams.BuiltJob
import Idea.JobParams.PlacementGroups
import Idea.JobParams.SpotNodes
import Idea.JobParams.FsxText
import Idea.JobParams.StackNames
import Idea.JobParams.Succeeds
import Idea.JobParams.CapacityChecks
import Idea.JobParams.NetworkChecks
import Idea.JobParams.StorageChecks
import Idea.JobParams.Validation
import Idea.JobMonitor.BillOfMaterials
import Idea.Provisioner.ReservedInstances
import Idea.Data.PrefixRules
import Idea.Provisioner.InstanceClasses
import Idea.Data.LdapFilter
import Idea.Data.Utf8
import Idea.Data.LinkedPages
import Idea.Aws.Listing
import Idea.Model.MemoryArithmetic
import Idea.Accounts.GroupListing
import Idea.Accounts.DirectoryFilters
import Idea.FileBrowser.PermissionTests
import Idea.FileBrowser.FilePermissions
import Idea.FileBrowser.TailEfficiently
import Idea.FileBrowser.TailRateLimit
import Idea.Cluster.Deployment
import Idea.VirtualDesktop.OfferedTypes
import Idea.Directory.PresetComputer
import Idea.Data.FreshNames
import Idea.FileBrowser.DownloadArchive
import Idea.Server.FileDownload
import Idea.Server.ThreadPool
import Idea.VirtualDesktop.EntryUpdates
import Idea.VirtualDesktop.ServerStates
import Idea.VirtualDesktop.RetryCounters
