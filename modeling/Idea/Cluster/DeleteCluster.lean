import Idea.Model.Utils
import Mathlib.Data.Bool.AllAny
import Mathlib.Data.List.Infix
import Mathlib.Data.List.Nodup
import Mathlib.Data.List.TakeWhile

/-! # What is deleted with a cluster

The tables, log groups, alarms and network interfaces of a cluster are found in the account by
their names. The name of a cluster may begin with the name of another one.
-/

namespace Idea.DeleteCluster

/-- `str.startswith`. -/
def startsWith (text start : String) : Bool := start.toList.isPrefixOf text.toList

structure LogGroup where
  logGroupName : String
  storedBytes : ℤ
  deriving DecidableEq

structure Alarm where
  alarmName : String
  alarmNamespace : String
  dimensions : List (String × String)
  deriving DecidableEq

structure NetworkInterface where
  networkInterfaceId : String
  description : String
  status : String
  deriving DecidableEq

/-- What an account has. Tables and log groups have names without white space around them, and an
identifier stands for one resource only. -/
structure Account where
  tables : List String
  alarms : List Alarm
  logGroups : List LogGroup
  networkInterfaces : List NetworkInterface
  tables_nodup : tables.Nodup
  tables_plain : ∀ name ∈ tables, getAsString name = some name
  alarms_nodup : (alarms.map (·.alarmName)).Nodup
  logGroups_plain : ∀ group ∈ logGroups, getAsString group.logGroupName = some group.logGroupName
  networkInterfaces_nodup : (networkInterfaces.map (·.networkInterfaceId)).Nodup

namespace Account

variable (account : Account)

def tablesAfter (exclusiveStartTableName : Option String) : List String :=
  match exclusiveStartTableName with
  | none => account.tables
  | some start => (account.tables.dropWhile (· ≠ start)).drop 1

def listTables (exclusiveStartTableName : Option String) : List String × Option String :=
  let rest := account.tablesAfter exclusiveStartTableName
  (rest.take 100, if 100 < rest.length then (rest.take 100).getLast? else none)

def deleteTable (name : String) : Account where
  __ := account
  tables := account.tables.filter (· ≠ name)
  tables_nodup := account.tables_nodup.filter _
  tables_plain _ h := account.tables_plain _ (List.mem_of_mem_filter h)

def deleteAlarms (alarmNames : List String) : Account where
  __ := account
  alarms := account.alarms.filter (·.alarmName ∉ alarmNames)
  alarms_nodup := account.alarms_nodup.sublist (List.filter_sublist.map _)

def deleteLogGroup (name : String) : Account where
  __ := account
  logGroups := account.logGroups.filter (·.logGroupName ≠ name)
  logGroups_plain _ h := account.logGroups_plain _ (List.mem_of_mem_filter h)

def deleteNetworkInterface (id : String) : Account where
  __ := account
  networkInterfaces := account.networkInterfaces.filter (·.networkInterfaceId ≠ id)
  networkInterfaces_nodup :=
    account.networkInterfaces_nodup.sublist (List.filter_sublist.map _)

end Account

section

variable (clusterName : String)

def findTablesFrom (account : Account) : ℕ → Option String → List String → List String
  | 0, _, found => found
  | fuel + 1, lastEvaluatedTableName, found =>
    let page := account.listTables lastEvaluatedTableName
    let found := found ++ page.1.filter (startsWith · (clusterName ++ "."))
    match page.2.bind getAsString with
    | none => found
    | some last => findTablesFrom account fuel (some last) found

def findDynamodbTables (account : Account) : List String :=
  findTablesFrom clusterName account (account.tables.length + 1) none []

def alarmsToDelete (dynamodbTables : List String) (account : Account) : List String :=
  let found := account.alarms.filter
    (startsWith ·.alarmName ("TargetTracking-table/" ++ clusterName))
  found.foldl (fun alarmsToDelete metric =>
    if metric.alarmNamespace ≠ "AWS/DynamoDB" then alarmsToDelete
    else metric.dimensions.foldl (fun alarmsToDelete dim =>
      if dim.1 ≠ "TableName" then alarmsToDelete
      else if dim.2 ∉ dynamodbTables then alarmsToDelete
      else if metric.alarmName ∈ alarmsToDelete then alarmsToDelete
      else alarmsToDelete ++ [metric.alarmName]) alarmsToDelete) []

/-- `alarms_to_delete[chunk : chunk + 100]`. -/
def alarmChunk (alarms : List String) (chunk : ℕ) : List String :=
  (alarms.drop (100 * chunk)).take 100

def deleteCloudwatchAlarms (dynamodbTables : List String) (account : Account) : Account :=
  let alarms := alarmsToDelete clusterName dynamodbTables account
  (List.range ((alarms.length + 99) / 100)).foldl
    (fun account chunk => account.deleteAlarms (alarmChunk alarms chunk)) account

def deleteDynamodbTables (account : Account) : Account :=
  let dynamodbTables := findDynamodbTables clusterName account
  deleteCloudwatchAlarms clusterName dynamodbTables
    (dynamodbTables.foldl Account.deleteTable account)

def logGroupPrefixes : List String :=
  [clusterName, "/" ++ clusterName, "/aws/lambda/" ++ clusterName]

def findCloudwatchLogs (account : Account) : List LogGroup :=
  (logGroupPrefixes clusterName).flatMap fun start =>
    (account.logGroups.filter (startsWith ·.logGroupName start)).filterMap fun group =>
      (getAsString group.logGroupName).map fun name => ⟨name, group.storedBytes⟩

def deleteCloudwatchLogGroups (account : Account) : Account :=
  (findCloudwatchLogs clusterName account).foldl
    (fun account group => account.deleteLogGroup group.logGroupName) account

/-- The interfaces whose description matches `AWS Lambda VPC ENI-{cluster_name}-*` and whose status
is available. -/
def findVpcLambdaEnis (account : Account) : List NetworkInterface :=
  account.networkInterfaces.filter fun interface =>
    startsWith interface.description ("AWS Lambda VPC ENI-" ++ clusterName ++ "-") &&
      interface.status = "available"

def tryDeleteVpcLambdaEnis (account : Account) : Account :=
  (findVpcLambdaEnis clusterName account).foldl
    (fun account interface => account.deleteNetworkInterface interface.networkInterfaceId) account

def deleteSteps (account : Account) : Account :=
  deleteCloudwatchLogGroups clusterName
    (deleteDynamodbTables clusterName (tryDeleteVpcLambdaEnis clusterName account))

end

/-- A stack is named after its cluster, which leaves letters, digits and hyphens, and the name of a
cluster begins with `idea-`. -/
structure ClusterName where
  text : String
  isIdea : "idea-".toList <+: text.toList
  plain : ∀ c ∈ text.toList, c.isAlphanum ∨ c = '-'

inductive LogGroupKind where
  | vpcFlowLogs
  /-- The logs of a module, with the rest of the name behind the cluster. -/
  | module (rest : String)
  | lambda (function : String)
  | waf (name : String)

def LogGroupKind.root : LogGroupKind → String
  | vpcFlowLogs => ""
  | module _ => "/"
  | lambda _ => "/aws/lambda/"
  | waf _ => "aws-waf-logs-"

def LogGroupKind.rest : LogGroupKind → String
  | vpcFlowLogs => "-vpc-flow-logs"
  | module rest => "/" ++ rest
  | lambda function => "-" ++ function
  | waf name => "-cluster-waf-" ++ name

def LogGroupKind.isWaf : LogGroupKind → Bool
  | waf _ => true
  | _ => false

/-- An alarm of a table: the table, the rest of the name behind it, and the other dimensions. -/
structure TableAlarm where
  table : String
  rest : String
  otherDimensions : List (String × String)
  others : ∀ dim ∈ otherDimensions, dim.1 ≠ "TableName"

/-- An interface of a Lambda function: the rest of its description behind the cluster. -/
structure LambdaInterface where
  networkInterfaceId : String
  rest : String
  status : String

/-- The resources of a cluster, by the parts of their names that are not the cluster's. -/
structure Resources where
  tables : List String
  logGroups : List LogGroupKind
  alarms : List TableAlarm
  networkInterfaces : List LambdaInterface

namespace ClusterName

variable (cluster : ClusterName)

def tableName (rest : String) : String := cluster.text ++ "." ++ rest

def logGroupName (kind : LogGroupKind) : String := kind.root ++ cluster.text ++ kind.rest

def alarm (alarm : TableAlarm) : Alarm where
  alarmName := "TargetTracking-table/" ++ cluster.tableName alarm.table ++ alarm.rest
  alarmNamespace := "AWS/DynamoDB"
  dimensions := ("TableName", cluster.tableName alarm.table) :: alarm.otherDimensions

def networkInterface (interface : LambdaInterface) : NetworkInterface where
  networkInterfaceId := interface.networkInterfaceId
  description := "AWS Lambda VPC ENI-" ++ cluster.text ++ "-" ++ interface.rest
  status := interface.status

end ClusterName

structure Account.Has (account : Account) (cluster : ClusterName) (resources : Resources) :
    Prop where
  tables : ∀ rest ∈ resources.tables, cluster.tableName rest ∈ account.tables
  logGroups : ∀ kind ∈ resources.logGroups,
    cluster.logGroupName kind ∈ account.logGroups.map (·.logGroupName)
  alarms : ∀ alarm ∈ resources.alarms, cluster.alarm alarm ∈ account.alarms
  networkInterfaces : ∀ interface ∈ resources.networkInterfaces,
    cluster.networkInterface interface ∈ account.networkInterfaces

theorem startsWith_iff {text start : String} :
    startsWith text start = true ↔ start.toList <+: text.toList :=
  List.isPrefixOf_iff_prefix

theorem dropWhile_of_nodup {names before rest : List String} {name : String} (h : names.Nodup)
    (hsplit : names = before ++ name :: rest) : names.dropWhile (· ≠ name) = name :: rest := by
  subst hsplit
  have hbefore : ∀ other ∈ before, decide (other ≠ name) = true := by
    rintro other hother
    refine decide_eq_true ?_
    rintro rfl
    exact (List.nodup_append.mp h).2.2 other hother other List.mem_cons_self rfl
  rw [List.dropWhile_append_of_pos hbefore, List.dropWhile_cons_of_neg (by simp)]

theorem tablesAfter_page {account : Account} {before rest : List String}
    (hsplit : account.tables = before ++ rest) (hmore : 100 < rest.length) :
    ∃ last, (rest.take 100).getLast? = some last ∧
      account.tablesAfter (some last) = rest.drop 100 := by
  have hne : rest.take 100 ≠ [] := by
    rw [ne_eq, List.take_eq_nil_iff]
    rintro (h | rfl)
    · cases h
    · cases hmore
  refine ⟨(rest.take 100).getLast hne, List.getLast?_eq_some_getLast hne, ?_⟩
  have hpage : rest = (rest.take 100).dropLast ++ (rest.take 100).getLast hne :: rest.drop 100 := by
    conv_lhs => rw [← List.take_append_drop 100 rest, ← List.dropLast_append_getLast hne]
    rw [List.append_assoc, List.singleton_append]
  have hwhole : account.tables = (before ++ (rest.take 100).dropLast) ++
      (rest.take 100).getLast hne :: rest.drop 100 := by
    rw [hsplit, List.append_assoc, ← hpage]
  rw [Account.tablesAfter, dropWhile_of_nodup account.tables_nodup hwhole, List.drop_one,
    List.tail_cons]

theorem findTablesFrom_eq {clusterName : String} {account : Account} {fuel : ℕ}
    {start : Option String} {before : List String}
    (hsplit : account.tables = before ++ account.tablesAfter start)
    (hfuel : (account.tablesAfter start).length < fuel) (found : List String) :
    findTablesFrom clusterName account fuel start found =
      found ++ (account.tablesAfter start).filter (startsWith · (clusterName ++ ".")) := by
  induction fuel generalizing start before found with
  | zero => exact absurd hfuel (Nat.not_lt_zero _)
  | succ fuel ih =>
    rw [findTablesFrom, Account.listTables]
    dsimp only
    by_cases hmore : 100 < (account.tablesAfter start).length
    · obtain ⟨last, hlast, hafter⟩ := tablesAfter_page hsplit hmore
      have hmem : last ∈ account.tables := by
        rw [hsplit]
        exact List.mem_append_right _ (List.mem_of_mem_take (List.mem_of_getLast? hlast))
      rw [if_pos hmore, hlast, Option.bind_some, account.tables_plain last hmem]
      dsimp only
      have hsplit' : account.tables =
          (before ++ (account.tablesAfter start).take 100) ++ account.tablesAfter (some last) := by
        rw [hafter, List.append_assoc, List.take_append_drop]
        exact hsplit
      have hless : (account.tablesAfter (some last)).length < fuel := by
        rw [hafter, List.length_drop]
        omega
      rw [ih hsplit' hless, hafter, List.append_assoc, ← List.filter_append,
        List.take_append_drop]
    · rw [if_neg hmore, Option.bind_none, List.take_of_length_le (Nat.not_lt.mp hmore)]

theorem findDynamodbTables_eq (clusterName : String) (account : Account) :
    findDynamodbTables clusterName account =
      account.tables.filter (startsWith · (clusterName ++ ".")) := by
  have hsplit : account.tables = [] ++ account.tablesAfter none := rfl
  exact findTablesFrom_eq hsplit (Nat.lt_succ_self _) []

section Loops

variable {α β : Type} {delete : Account → α → Account} {names : List α} {account : Account}

theorem foldl_unchanged (field : Account → β)
    (h : ∀ account a, field (delete account a) = field account) (names : List α)
    (account : Account) : field (names.foldl delete account) = field account := by
  induction names generalizing account with
  | nil => rfl
  | cons name names ih => rw [List.foldl_cons, ih, h]

theorem mem_foldl_delete (delete : Account → α → Account) (field : Account → List β)
    (has : β → α → Prop)
    (h : ∀ account a b, b ∈ field (delete account a) ↔ b ∈ field account ∧ ¬ has b a) {b : β} :
    b ∈ field (names.foldl delete account) ↔
      b ∈ field account ∧ ∀ a ∈ names, ¬ has b a := by
  induction names generalizing account with
  | nil => exact ⟨fun hb => ⟨hb, fun _ ha => absurd ha List.not_mem_nil⟩, fun hb => hb.1⟩
  | cons name names ih => rw [List.foldl_cons, ih, h, List.forall_mem_cons, and_assoc]

end Loops

variable {clusterName : String} {account : Account}

theorem enis_frame : (tryDeleteVpcLambdaEnis clusterName account).tables = account.tables ∧
    (tryDeleteVpcLambdaEnis clusterName account).alarms = account.alarms ∧
    (tryDeleteVpcLambdaEnis clusterName account).logGroups = account.logGroups :=
  ⟨foldl_unchanged Account.tables (by intros; rfl) _ _,
    foldl_unchanged Account.alarms (by intros; rfl) _ _,
    foldl_unchanged Account.logGroups (by intros; rfl) _ _⟩

theorem alarms_frame (dynamodbTables : List String) :
    (deleteCloudwatchAlarms clusterName dynamodbTables account).tables = account.tables ∧
    (deleteCloudwatchAlarms clusterName dynamodbTables account).logGroups = account.logGroups ∧
    (deleteCloudwatchAlarms clusterName dynamodbTables account).networkInterfaces =
      account.networkInterfaces :=
  ⟨foldl_unchanged Account.tables (by intros; rfl) _ _,
    foldl_unchanged Account.logGroups (by intros; rfl) _ _,
    foldl_unchanged Account.networkInterfaces (by intros; rfl) _ _⟩

theorem tables_frame (names : List String) :
    (names.foldl Account.deleteTable account).alarms = account.alarms ∧
    (names.foldl Account.deleteTable account).logGroups = account.logGroups ∧
    (names.foldl Account.deleteTable account).networkInterfaces = account.networkInterfaces :=
  ⟨foldl_unchanged Account.alarms (by intros; rfl) _ _,
    foldl_unchanged Account.logGroups (by intros; rfl) _ _,
    foldl_unchanged Account.networkInterfaces (by intros; rfl) _ _⟩

theorem logGroups_frame :
    (deleteCloudwatchLogGroups clusterName account).tables = account.tables ∧
    (deleteCloudwatchLogGroups clusterName account).alarms = account.alarms ∧
    (deleteCloudwatchLogGroups clusterName account).networkInterfaces =
      account.networkInterfaces :=
  ⟨foldl_unchanged Account.tables (by intros; rfl) _ _,
    foldl_unchanged Account.alarms (by intros; rfl) _ _,
    foldl_unchanged Account.networkInterfaces (by intros; rfl) _ _⟩

theorem mem_tables_deleteSteps {name : String} :
    name ∈ (deleteSteps clusterName account).tables ↔
      name ∈ account.tables ∧ ¬ (clusterName ++ ".").toList <+: name.toList := by
  rw [deleteSteps, logGroups_frame.1, deleteDynamodbTables, (alarms_frame _).1,
    mem_foldl_delete Account.deleteTable Account.tables (fun b a => b = a)
      fun account a b => by simp [Account.deleteTable], findDynamodbTables_eq, enis_frame.1]
  refine and_congr_right fun hname => ?_
  rw [← startsWith_iff]
  constructor
  · intro h hstarts
    exact h name (List.mem_filter.mpr ⟨hname, hstarts⟩) rfl
  · rintro h _ ha rfl
    exact h (List.mem_filter.mp ha).2

theorem mem_logGroups_deleteSteps {group : LogGroup} :
    group ∈ (deleteSteps clusterName account).logGroups ↔ group ∈ account.logGroups ∧
      ∀ start ∈ logGroupPrefixes clusterName, ¬ start.toList <+: group.logGroupName.toList := by
  have hbefore : (deleteDynamodbTables clusterName
      (tryDeleteVpcLambdaEnis clusterName account)).logGroups = account.logGroups := by
    rw [deleteDynamodbTables, (alarms_frame _).2.1, (tables_frame _).2.1, enis_frame.2.2]
  rw [deleteSteps, deleteCloudwatchLogGroups,
    mem_foldl_delete
      (fun account (group : LogGroup) => account.deleteLogGroup group.logGroupName)
      Account.logGroups (fun b a => b.logGroupName = a.logGroupName)
      fun account a b => by simp [Account.deleteLogGroup], hbefore]
  refine and_congr_right fun hgroup => ?_
  have hplain := account.logGroups_plain group hgroup
  constructor
  · intro h start hstart hbegins
    refine h ⟨group.logGroupName, group.storedBytes⟩ ?_ rfl
    refine List.mem_flatMap.mpr ⟨start, hstart, List.mem_filterMap.mpr ⟨group, ?_, by rw [hplain]; rfl⟩⟩
    rw [hbefore]
    exact List.mem_filter.mpr ⟨hgroup, startsWith_iff.mpr hbegins⟩
  · intro h found hfound hname
    obtain ⟨start, hstart, hfound⟩ := List.mem_flatMap.mp hfound
    obtain ⟨other, hother, hsame⟩ := List.mem_filterMap.mp hfound
    rw [hbefore, List.mem_filter, startsWith_iff] at hother
    rw [account.logGroups_plain other hother.1, Option.map_some, Option.some.injEq] at hsame
    subst hsame
    exact h start hstart (hname ▸ hother.2)

theorem mem_networkInterfaces_deleteSteps {interface : NetworkInterface} :
    interface ∈ (deleteSteps clusterName account).networkInterfaces ↔
      interface ∈ account.networkInterfaces ∧
        ¬ (("AWS Lambda VPC ENI-" ++ clusterName ++ "-").toList <+: interface.description.toList ∧
          interface.status = "available") := by
  rw [deleteSteps, logGroups_frame.2.2, deleteDynamodbTables, (alarms_frame _).2.2,
    (tables_frame _).2.2, tryDeleteVpcLambdaEnis,
    mem_foldl_delete
      (fun account (interface : NetworkInterface) =>
        account.deleteNetworkInterface interface.networkInterfaceId)
      Account.networkInterfaces (fun b a => b.networkInterfaceId = a.networkInterfaceId)
      fun account a b => by simp [Account.deleteNetworkInterface]]
  refine and_congr_right fun hinterface => ?_
  have hfound {other : NetworkInterface} : other ∈ findVpcLambdaEnis clusterName account ↔
      other ∈ account.networkInterfaces ∧
        ("AWS Lambda VPC ENI-" ++ clusterName ++ "-").toList <+: other.description.toList ∧
          other.status = "available" := by
    rw [findVpcLambdaEnis, List.mem_filter, Bool.and_eq_true, startsWith_iff, decide_eq_true_eq]
  constructor
  · intro h hmatches
    exact h interface (hfound.mpr ⟨hinterface, hmatches⟩) rfl
  · -- An id stands for one interface, so that only a matching one is deleted.
    intro h other hother hsame
    obtain ⟨hmem, hmatches⟩ := hfound.mp hother
    have heq := List.inj_on_of_nodup_map account.networkInterfaces_nodup hinterface hmem hsame
    exact h (heq ▸ hmatches)

def IsAlarmOn (account : Account) (dynamodbTables : List String) (name : String) : Prop :=
  ∃ alarm ∈ account.alarms, alarm.alarmName = name ∧
    ∃ table ∈ dynamodbTables, ("TableName", table) ∈ alarm.dimensions

theorem isAlarmOn_of_mem {dynamodbTables : List String} :
    ∀ name ∈ alarmsToDelete clusterName dynamodbTables account,
      IsAlarmOn account dynamodbTables name := by
  rw [alarmsToDelete]
  refine List.foldlRecOn (motive := fun names => ∀ name ∈ names,
    IsAlarmOn account dynamodbTables name) _ _ (fun _ hn => absurd hn List.not_mem_nil)
    fun names hnames alarm halarm => ?_
  split
  · exact hnames
  · refine List.foldlRecOn (motive := fun names => ∀ name ∈ names,
      IsAlarmOn account dynamodbTables name) _ _ hnames fun names hnames dim hdim => ?_
    split
    · exact hnames
    · next hname =>
      split
      · exact hnames
      · next htable =>
        split
        · exact hnames
        · rw [not_not] at hname htable
          refine List.forall_mem_append.mpr ⟨hnames, List.forall_mem_singleton.mpr ?_⟩
          exact ⟨alarm, List.mem_of_mem_filter halarm, rfl, dim.2, htable, hname ▸ hdim⟩

theorem mem_alarms_deleteCloudwatchAlarms {dynamodbTables : List String} {alarm : Alarm}
    (h : alarm ∈ account.alarms)
    (hname : alarm.alarmName ∉ alarmsToDelete clusterName dynamodbTables account) :
    alarm ∈ (deleteCloudwatchAlarms clusterName dynamodbTables account).alarms := by
  rw [deleteCloudwatchAlarms]
  generalize alarmsToDelete clusterName dynamodbTables account = alarms at hname
  refine (mem_foldl_delete _ Account.alarms (fun b chunk => b.alarmName ∈ alarmChunk alarms chunk)
    fun account chunk b => ?_).mpr ⟨h, fun chunk _ hchunk => hname ?_⟩
  · simp only [Account.deleteAlarms, List.mem_filter, decide_eq_true_eq]
  · exact List.mem_of_mem_drop (List.mem_of_mem_take hchunk)

theorem mem_alarms_deleteSteps {alarm : Alarm} (h : alarm ∈ account.alarms)
    (htables : ∀ table, ("TableName", table) ∈ alarm.dimensions →
      ¬ (clusterName ++ ".").toList <+: table.toList) :
    alarm ∈ (deleteSteps clusterName account).alarms := by
  have hbefore : ((findDynamodbTables clusterName (tryDeleteVpcLambdaEnis clusterName
      account)).foldl Account.deleteTable (tryDeleteVpcLambdaEnis clusterName account)).alarms =
        account.alarms := by
    rw [(tables_frame _).1, enis_frame.2.1]
  rw [deleteSteps, logGroups_frame.2.1, deleteDynamodbTables]
  refine mem_alarms_deleteCloudwatchAlarms (hbefore ▸ h) fun hname => ?_
  obtain ⟨other, hother, hsame, table, htable, hdim⟩ := isAlarmOn_of_mem _ hname
  rw [hbefore] at hother
  have heq := List.inj_on_of_nodup_map account.alarms_nodup hother h hsame
  rw [findDynamodbTables_eq, List.mem_filter, startsWith_iff] at htable
  exact htables table (heq ▸ hdim) htable.2

namespace ClusterName

variable (cluster : ClusterName)

theorem exists_cons : ∃ rest, cluster.text.toList = 'i' :: rest := by
  obtain ⟨rest, hrest⟩ := cluster.isIdea
  exact ⟨"dea-".toList ++ rest, hrest.symm⟩

theorem noDot : '.' ∉ cluster.text.toList := by
  intro hdot
  rcases cluster.plain '.' hdot with h | h
  · exact absurd h (by decide)
  · exact absurd h (by decide)

theorem text_injective {cluster cluster' : ClusterName} (h : cluster.text = cluster'.text) :
    cluster = cluster' := by
  cases cluster
  cases cluster'
  cases h
  rfl

theorem startsWith_tableName {cluster cluster' : ClusterName} {rest : String} :
    (cluster.text ++ ".").toList <+: (cluster'.tableName rest).toList ↔ cluster = cluster' := by
  have htake (cluster : ClusterName) (cs : List Char) :
      (cluster.text.toList ++ '.' :: cs).takeWhile (· ≠ '.') = cluster.text.toList := by
    have hplain : ∀ c ∈ cluster.text.toList, decide (c ≠ '.') = true := fun c hc =>
      decide_eq_true fun he => cluster.noDot (he ▸ hc)
    rw [List.takeWhile_append_of_pos hplain]
    simp
  rw [tableName, String.toList_append, String.toList_append, String.toList_append]
  constructor
  · rintro ⟨cs, hcs⟩
    rw [List.append_assoc, List.append_assoc] at hcs
    have hsame := congrArg (List.takeWhile (· ≠ '.')) hcs
    rw [show ".".toList = ['.'] from rfl, List.singleton_append, List.singleton_append, htake,
      htake] at hsame
    exact text_injective (String.toList_injective hsame)
  · rintro rfl
    exact List.prefix_append _ _

/-- A log group is found for a cluster if the cluster's name begins the part of its name behind the
root, unless it is one of the firewall. -/
theorem found_iff {cluster cluster' : ClusterName} {kind : LogGroupKind} :
    (∃ start ∈ logGroupPrefixes cluster.text,
      start.toList <+: (cluster'.logGroupName kind).toList) ↔
      kind.isWaf = false ∧ cluster.text.toList <+: (cluster'.text ++ kind.rest).toList := by
  obtain ⟨cs, hcs⟩ := cluster.exists_cons
  obtain ⟨cs', hcs'⟩ := cluster'.exists_cons
  simp only [logGroupPrefixes, List.mem_cons, List.not_mem_nil, or_false, exists_eq_or_imp,
    exists_eq_left, logGroupName, String.toList_append, hcs, hcs']
  have hslash : "/".toList = ['/'] := rfl
  have hlambda : "/aws/lambda/".toList = '/' :: 'a' :: "ws/lambda/".toList := rfl
  have hwaf : "aws-waf-logs-".toList = 'a' :: "ws-waf-logs-".toList := rfl
  cases kind <;> simp [LogGroupKind.root, LogGroupKind.isWaf, hslash, hlambda, hwaf,
    List.cons_prefix_cons]

/-- An interface is found for a cluster if the cluster's name and a hyphen begin the part of its
description behind the root. -/
theorem description_iff {cluster cluster' : ClusterName} {interface : LambdaInterface} :
    ("AWS Lambda VPC ENI-" ++ cluster.text ++ "-").toList <+:
        (cluster'.networkInterface interface).description.toList ↔
      (cluster.text ++ "-").toList <+: (cluster'.text ++ "-" ++ interface.rest).toList := by
  simp only [networkInterface, String.toList_append, List.append_assoc,
    List.prefix_append_right_inj]

end ClusterName

theorem mem_logGroupNames_deleteSteps {name : String} :
    name ∈ (deleteSteps clusterName account).logGroups.map (·.logGroupName) ↔
      name ∈ account.logGroups.map (·.logGroupName) ∧
        ¬ ∃ start ∈ logGroupPrefixes clusterName, start.toList <+: name.toList := by
  simp only [List.mem_map, mem_logGroups_deleteSteps, not_exists, not_and]
  constructor
  · rintro ⟨group, ⟨hgroup, hstart⟩, rfl⟩
    exact ⟨⟨group, hgroup, rfl⟩, hstart⟩
  · rintro ⟨⟨group, hgroup, rfl⟩, hstart⟩
    exact ⟨group, ⟨hgroup, hstart⟩, rfl⟩

/-- The steps for the first cluster leave everything of the second one, and no table and no log
group of the first. -/
structure KeepsToItsOwn (account : Account) (cluster : ClusterName) (resources : Resources)
    (other : ClusterName) (otherResources : Resources) : Prop where
  spares : (deleteSteps cluster.text account).Has other otherResources
  tables : ∀ rest ∈ resources.tables,
    cluster.tableName rest ∉ (deleteSteps cluster.text account).tables
  logGroups : ∀ kind ∈ resources.logGroups, cluster.logGroupName kind ∉
    (deleteSteps cluster.text account).logGroups.map (·.logGroupName)

/-- The steps keep to the cluster's own resources exactly if its name does not begin the names of
log groups of the other cluster, its name and a hyphen do not begin those of available interfaces,
and it has no log group of a firewall. -/
theorem keepsToItsOwn_iff {cluster other : ClusterName} {resources otherResources : Resources}
    (hhas : account.Has cluster resources) (hother : account.Has other otherResources)
    (hne : cluster ≠ other) :
    KeepsToItsOwn account cluster resources other otherResources ↔
      (∀ kind ∈ resources.logGroups, kind.isWaf = false) ∧
      (∀ kind ∈ otherResources.logGroups, kind.isWaf = false →
        ¬ cluster.text.toList <+: (other.text ++ kind.rest).toList) ∧
      ∀ interface ∈ otherResources.networkInterfaces, interface.status = "available" →
        ¬ (cluster.text ++ "-").toList <+: (other.text ++ "-" ++ interface.rest).toList := by
  have hgroup {owner : ClusterName} {kind : LogGroupKind}
      (h : owner.logGroupName kind ∈ account.logGroups.map (·.logGroupName)) :
      owner.logGroupName kind ∈
          (deleteSteps cluster.text account).logGroups.map (·.logGroupName) ↔
        ¬ (kind.isWaf = false ∧ cluster.text.toList <+: (owner.text ++ kind.rest).toList) := by
    rw [mem_logGroupNames_deleteSteps, ClusterName.found_iff, and_iff_right h]
  have hinterface {interface : LambdaInterface}
      (h : other.networkInterface interface ∈ account.networkInterfaces) :
      other.networkInterface interface ∈
          (deleteSteps cluster.text account).networkInterfaces ↔
        ¬ ((cluster.text ++ "-").toList <+: (other.text ++ "-" ++ interface.rest).toList ∧
          interface.status = "available") := by
    rw [mem_networkInterfaces_deleteSteps, ClusterName.description_iff, and_iff_right h]
    rfl
  constructor
  · intro h
    refine ⟨fun kind hkind => ?_, fun kind hkind hwaf hbegins => ?_,
      fun interface hmem havailable hbegins => ?_⟩
    · have hgone := h.logGroups kind hkind
      rw [hgroup (hhas.logGroups kind hkind), not_not] at hgone
      exact hgone.1
    · exact (hgroup (hother.logGroups kind hkind)).mp (h.spares.logGroups kind hkind)
        ⟨hwaf, hbegins⟩
    · exact (hinterface (hother.networkInterfaces interface hmem)).mp
        (h.spares.networkInterfaces interface hmem) ⟨hbegins, havailable⟩
  · rintro ⟨hwaf, hgroups, hinterfaces⟩
    refine ⟨⟨fun rest hrest => ?_, fun kind hkind => ?_, fun alarm halarm => ?_,
      fun interface hmem => ?_⟩, fun rest hrest htable => ?_, fun kind hkind => ?_⟩
    · refine mem_tables_deleteSteps.mpr ⟨hother.tables rest hrest, fun hbegins => hne ?_⟩
      exact ClusterName.startsWith_tableName.mp hbegins
    · refine (hgroup (hother.logGroups kind hkind)).mpr fun h => ?_
      exact hgroups kind hkind h.1 h.2
    · refine mem_alarms_deleteSteps (hother.alarms alarm halarm) fun table hdim hbegins => ?_
      rcases List.mem_cons.mp hdim with hdim | hdim
      · rw [(Prod.mk.inj hdim).2] at hbegins
        exact hne (ClusterName.startsWith_tableName.mp hbegins)
      · exact alarm.others _ hdim rfl
    · refine (hinterface (hother.networkInterfaces interface hmem)).mpr fun h => ?_
      exact hinterfaces interface hmem h.2 h.1
    · exact (mem_tables_deleteSteps.mp htable).2 (ClusterName.startsWith_tableName.mpr rfl)
    · rw [hgroup (hhas.logGroups kind hkind), not_not, String.toList_append]
      exact ⟨hwaf kind hkind, List.prefix_append _ _⟩

def short : ClusterName :=
  ⟨"idea-abc", ⟨"abc".toList, rfl⟩, List.all_iff_forall_prop.mp (by decide +kernel)⟩

def long : ClusterName :=
  ⟨"idea-abcd", ⟨"abcd".toList, rfl⟩, List.all_iff_forall_prop.mp (by decide +kernel)⟩

def scheduler : Resources := ⟨[], [.module "scheduler"], [], []⟩

def sampleAccount : Account where
  tables := []
  alarms := []
  logGroups := [⟨"/idea-abc/scheduler", 0⟩, ⟨"/idea-abcd/scheduler", 0⟩]
  networkInterfaces := []
  tables_nodup := List.nodup_nil
  tables_plain := fun _ h => absurd h List.not_mem_nil
  alarms_nodup := List.nodup_nil
  logGroups_plain := by decide +kernel
  networkInterfaces_nodup := List.nodup_nil

theorem sampleAccount_has : sampleAccount.Has short scheduler ∧ sampleAccount.Has long scheduler :=
  ⟨⟨by decide, by decide, by decide, by decide⟩, ⟨by decide, by decide, by decide, by decide⟩⟩

theorem short_ne_long : short ≠ long := fun h => absurd (congrArg ClusterName.text h) (by decide)

/-- With the cluster of the longer name the other one is spared. -/
theorem keepsToItsOwn_long : KeepsToItsOwn sampleAccount long scheduler short scheduler :=
  (keepsToItsOwn_iff sampleAccount_has.2 sampleAccount_has.1 short_ne_long.symm).mpr
    ⟨by decide, by decide, by decide⟩

/-- With the cluster of the shorter name the log group of the other one is deleted. -/
theorem not_keepsToItsOwn_short : short ≠ long ∧ sampleAccount.Has short scheduler ∧
    sampleAccount.Has long scheduler ∧
    ¬ KeepsToItsOwn sampleAccount short scheduler long scheduler := by
  refine ⟨short_ne_long, sampleAccount_has.1, sampleAccount_has.2, fun h => ?_⟩
  have hspared := h.spares.logGroups (.module "scheduler") List.mem_cons_self
  exact (mem_logGroupNames_deleteSteps.mp hspared).2
    (ClusterName.found_iff.mpr ⟨rfl, by decide⟩)

end Idea.DeleteCluster
