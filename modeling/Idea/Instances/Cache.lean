import Idea.Data.Dict
import Idea.Model.Instance

/-! # The instance cache

A monitor writes the described instances page by page into an in-memory cache. A commit
removes what the session did not see and counts the pending and running compute instances
by job, job group and queue profile. The counts read the tally under the literal key
`count`, not under the key being counted.
-/

namespace Idea

def INSTANCE_CACHE_MAX_SIZE : ℕ := 10000

/-- The write of one entry into the cache library's store. With room for the entry, the
write sets it and keeps the others; what a full cache evicts is left open. -/
structure CacheStore where
  write : Dict String EC2Instance → String → EC2Instance → Dict String EC2Instance
  get?_write : ∀ d k v k', d.size < INSTANCE_CACHE_MAX_SIZE ∨ k ∈ d.keys →
    (write d k v).get? k' = if k' = k then some v else d.get? k'

structure InstanceFilter where
  clusterName : Option String := none
  nodeType : Option String := none
  instanceTypes : Option (List String) := none
  states : Option (List String) := none
  capacityType : Option String := none
  tenancy : Option String := none
  jobId : Option String := none
  jobGroup : Option String := none
  jobProject : Option String := none
  jobQueue : Option String := none
  jobQueueType : Option String := none
  moduleId : Option String := none

namespace InstanceFilter

def matchesValue (wanted actual : Option String) : Bool := wanted.isNone || actual = wanted

def matchesOneOf (wanted : Option (List String)) (actual : Option String) : Bool :=
  match wanted with
  | none | some [] => true
  | some values => actual ∈ values.map some

def matchesCapacityType (wanted : Option String) (instance_ : EC2Instance) : Bool :=
  (wanted ≠ some "spot" || instance_.spotInstanceRequestId.isSome) &&
    (wanted ≠ some "on-demand" || instance_.spotInstanceRequestId.isNone)

def accepts (filter : InstanceFilter) (instance_ : EC2Instance) : Bool :=
  matchesValue filter.clusterName instance_.socaClusterName &&
  matchesValue filter.moduleId instance_.ideaModuleId &&
  matchesValue filter.nodeType instance_.socaNodeType &&
  matchesOneOf filter.instanceTypes instance_.instanceType &&
  matchesOneOf filter.states instance_.state &&
  matchesCapacityType filter.capacityType instance_ &&
  matchesValue filter.tenancy instance_.placementTenancy &&
  matchesValue filter.jobId instance_.socaJobId &&
  matchesValue filter.jobGroup instance_.socaJobGroup &&
  matchesValue filter.jobProject instance_.socaJobProject &&
  matchesValue filter.jobQueue instance_.socaJobQueue &&
  matchesValue filter.jobQueueType instance_.socaQueueType

end InstanceFilter

abbrev InMemoryInstanceDB := Dict String EC2Instance

namespace InMemoryInstanceDB

def withItems (start : InMemoryInstanceDB) (instances : List EC2Instance) : InMemoryInstanceDB :=
  instances.foldl (fun items i => items.set i.instanceId i) start

def addMany (store : CacheStore) (db : InMemoryInstanceDB) (instances : List EC2Instance) :
    InMemoryInstanceDB :=
  (withItems ∅ instances).entries.foldl (fun db e => store.write db e.1 e.2) db

def deleteMany (db : InMemoryInstanceDB) (instanceIds : List String) : InMemoryInstanceDB :=
  instanceIds.foldl (fun db instanceId => db.erase instanceId) db

def query (db : InMemoryInstanceDB) (filter : InstanceFilter) : List EC2Instance :=
  db.values.filter filter.accepts

end InMemoryInstanceDB

structure InstanceSyncSession where
  existingKeys : List String
  newKeys : List String

namespace InstanceSyncSession

def begin (db : InMemoryInstanceDB) : InstanceSyncSession := ⟨db.keys, []⟩

def sync (store : CacheStore) (self : InstanceSyncSession) (db : InMemoryInstanceDB)
    (instances : List EC2Instance) : InstanceSyncSession × InMemoryInstanceDB :=
  ({ self with newKeys := self.newKeys ++ instances.map (·.instanceId) },
    InMemoryInstanceDB.addMany store db instances)

def commit (self : InstanceSyncSession) (db : InMemoryInstanceDB) : InMemoryInstanceDB :=
  InMemoryInstanceDB.deleteMany db (self.existingKeys.filter (· ∉ self.newKeys))

end InstanceSyncSession

/-- The names the scheduler module filters compute instances by. -/
structure SchedulerNames where
  clusterName : String
  moduleId : String

abbrev Metrics := Dict (Option String) ℤ

def getValueAsInt (key : Option String) (metrics : Metrics) (default : ℤ) : ℤ :=
  (metrics.get? key).getD default

/-- One of the three counts of a commit. The running count is read under the key `count`. -/
def tally (key : EC2Instance → Option String) (instances : List EC2Instance) : Metrics :=
  instances.foldl
    (fun metrics i => metrics.set (key i) (getValueAsInt (some "count") metrics 0 + 1)) ∅

structure InstanceCache where
  db : InMemoryInstanceDB
  session : Option InstanceSyncSession
  isReady : Bool
  jobMetrics : Metrics
  jobGroupMetrics : Metrics
  queueProfileMetrics : Metrics

namespace InstanceCache

def new : InstanceCache := ⟨∅, none, false, ∅, ∅, ∅⟩

/-- The filter of `list_compute_instances` for pending and running instances. -/
def computeFilter (names : SchedulerNames) : InstanceFilter :=
  { clusterName := some names.clusterName
    nodeType := some NODE_TYPE_COMPUTE
    moduleId := some names.moduleId
    states := some ["pending", "running"] }

def listComputeInstances (names : SchedulerNames) (db : InMemoryInstanceDB) : List EC2Instance :=
  db.query (computeFilter names)

variable (self : InstanceCache)

def getInstance (instanceId : String) : Option EC2Instance := self.db.get? instanceId

def getJobInstanceCount (jobId : Option String) : ℤ := getValueAsInt jobId self.jobMetrics 0

def getJobGroupInstanceCount (jobGroup : Option String) : ℤ :=
  getValueAsInt jobGroup self.jobGroupMetrics 0

def getQueueProfileInstanceCount (queueProfile : Option String) : ℤ :=
  getValueAsInt queueProfile self.queueProfileMetrics 0

def syncBegin : InstanceCache := { self with session := some (.begin self.db) }

def sync (store : CacheStore) (instances : List EC2Instance) : Except Raised InstanceCache :=
  match self.session with
  | none => .error .attributeError
  | some session =>
    let (session, db) := session.sync store self.db instances
    .ok { self with session := some session, db }

def syncCommit (names : SchedulerNames) : Except Raised InstanceCache :=
  match self.session with
  | none => .error .attributeError
  | some session =>
    let db := session.commit self.db
    let computeInstances := listComputeInstances names db
    .ok { self with
      db
      isReady := true
      jobMetrics := tally EC2Instance.socaJobId computeInstances
      jobGroupMetrics := tally EC2Instance.socaJobGroup computeInstances
      queueProfileMetrics := tally EC2Instance.socaQueueType computeInstances }

def syncAbort : InstanceCache := { self with session := none, isReady := false }

end InstanceCache

end Idea
