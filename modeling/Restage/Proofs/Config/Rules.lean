import Restage.Proofs.Config

/-!
# The rules of a configuration

`Config.complaints` lists every rule that a source breaks, each looked at by itself and in the order
in which the rules are tried. A source is read as what it says (`Config.Source.assembled`) when there
is no complaint, and is refused with the first one otherwise (`Config.ofSource_eq`).
`Config.Acceptable` says in so many words when there is none.
-/

namespace Restage

/-! ## Complaints -/

/-- What is refused with the first complaint, and passes when there is none. -/
def passing {ε α : Type} (value : α) : List ε → Except ε α
  | [] => .ok value
  | fault :: _ => .error fault

section

variable {ε α : Type} {value other : α} {faults more : List ε} {fault : ε}

theorem passing_eq_ok_iff : passing value faults = .ok other ↔ faults = [] ∧ value = other := by
  cases faults with
  | nil => rw [passing, Except.ok.injEq, and_iff_right rfl]
  | cons fault rest => exact iff_of_false nofun nofun

theorem passing_eq_error_iff : passing value faults = .error fault ↔ faults.head? = some fault := by
  cases faults with
  | nil => exact iff_of_false nofun nofun
  | cons first rest => rw [passing, Except.error.injEq, List.head?_cons, Option.some.injEq]

end

/-! ## Settings -/

namespace Settings

/-- What is wrong with settings, in whole numbers of any size. -/
def faults (settings : Settings) : List Fault :=
  (if settings.ttlSeconds.toNat < 1209600 then
    [.config "restore_job_tables_ttl_seconds cannot be less than 1209600"] else [])
  ++ (if settings.ttlSeconds.toNat ≤ settings.recencyDays.toNat * 86400 then
    [.config ("job_discovery_minimum_recency_days (in seconds) must be less than "
      ++ "restore_job_tables_ttl_seconds (" ++ toString settings.ttlSeconds.toNat ++ ")")] else [])
  ++ (if settings.concurrency.toNat < 1 ∨ 2305843009213693951 < settings.concurrency.toNat then
    [.config ("slice_process_max_concurrency must be between 1 and 2305843009213693951, got "
      ++ toString settings.concurrency.toNat)] else [])

theorem check_eq (settings : Settings) : settings.check = passing settings settings.faults := by
  have lifetime : settings.ttlSeconds < leastTtlSeconds ↔ settings.ttlSeconds.toNat < 1209600 :=
    UInt64.lt_iff_toNat_lt
  have window : settings.ttlSeconds ≤ settings.recencySeconds ↔
      settings.ttlSeconds.toNat ≤ settings.recencyDays.toNat * 86400 := by
    rw [UInt64.le_iff_toNat_le, settings.toNat_recencySeconds]
  have bounds : settings.concurrency = 0 ∨ mostConcurrency < settings.concurrency ↔
      settings.concurrency.toNat < 1 ∨ 2305843009213693951 < settings.concurrency.toNat := by
    rw [← UInt64.toNat_inj, UInt64.lt_iff_toNat_lt, Nat.lt_one_iff]
    rfl
  rw [check, faults]
  simp only [lifetime, window, bounds]
  split
  · rfl
  split
  · rfl
  split
  · rfl
  · rfl

theorem faults_eq_nil_iff {settings : Settings} : settings.faults = [] ↔
    1209600 ≤ settings.ttlSeconds.toNat ∧
      settings.recencyDays.toNat * 86400 < settings.ttlSeconds.toNat ∧
      1 ≤ settings.concurrency.toNat ∧ settings.concurrency.toNat ≤ 2305843009213693951 := by
  rw [faults, List.append_eq_nil_iff, List.append_eq_nil_iff]
  simp only [ite_eq_right_iff, List.cons_ne_nil, imp_false, not_or, Nat.not_lt, Nat.not_le,
    and_assoc]

end Settings

namespace Config

/-! ## Instances -/

/-- What is wrong with the instances that follow some others. -/
def instanceFaults (before : List Instance) : List Instance → List ConfigFault
  | [] => []
  | node :: rest =>
      (if node.stagingDir.text = "" then [.emptyStaging node.id] else [])
      ++ (if node.id ∈ before.map Instance.id then [.repeatedInstance node.id] else [])
      ++ instanceFaults (before ++ [node]) rest

theorem checkInstances_eq (before listed : List Instance) :
    checkInstances before listed = passing (before ++ listed) (instanceFaults before listed) := by
  induction listed generalizing before with
  | nil => rw [checkInstances, instanceFaults, List.append_nil, passing]
  | cons node rest ih =>
      have known : (before.any fun other => other.id = node.id) = true ↔
          node.id ∈ before.map Instance.id := by
        simp only [List.any_eq_true, decide_eq_true_eq, List.mem_map]
      rw [checkInstances, instanceFaults, ih, List.append_assoc, List.singleton_append]
      simp only [known]
      split
      · rfl
      split
      · rfl
      · rfl

theorem instanceFaults_eq_nil_iff {listed : List Instance} : instanceFaults [] listed = [] ↔
    (∀ node ∈ listed, node.stagingDir.text ≠ "") ∧ (listed.map Instance.id).Nodup := by
  have passes := @checkInstances_eq_ok_iff [] listed listed List.nodup_nil
  rw [checkInstances_eq, passing_eq_ok_iff, List.nil_append, and_iff_left rfl, and_iff_right rfl]
    at passes
  exact passes

/-! ## Sources -/

namespace Source

/-- The settings that a source asks for, each by its own value or by its default. -/
def settings (source : Source) : Settings :=
  let values := source.restoreJob.getD {}
  { activeMillis := values.activeMillis.getD 300000
    idleMillis := values.idleMillis.getD 600000
    recencyDays := values.recencyDays.getD 5
    concurrency := values.concurrency.getD 20
    ttlSeconds := values.ttlSeconds.getD 7776000
    slowThresholdSeconds := values.slowThresholdSeconds.getD 600
    slowReportSeconds := values.slowReportSeconds.getD 60 }

/-- What a source says, whether or not it may be said. -/
def assembled (source : Source) : Config where
  instances := source.instances.getD []
  restoreJob := source.settings
  databaseUrl := source.databaseUrl.getD ""
  storage := source.storage.bind StorageSource.toAccess?
  logLevel := source.logLevel.getD "info"

end Source

variable {checkUrl : String → Except UrlFault Unit} {source : Source} {config : Config}
  {fault : ConfigFault}

/-- What is wrong with the address of the job store. -/
def databaseFaults (checkUrl : String → Except UrlFault Unit) :
    Option String → List ConfigFault
  | none => [.noDatabaseUrl]
  | some address =>
      if Text.isBlank address then [.noDatabaseUrl]
      else
        match checkUrl address with
        | .ok () => []
        | .error fault => [.badDatabaseUrl fault]

/-- Every rule that a source breaks, in the order in which the rules are tried. -/
def complaints (checkUrl : String → Except UrlFault Unit) (source : Source) : List ConfigFault :=
  (match source.instances with
    | none | some [] => [.noInstances]
    | some listed => instanceFaults [] listed)
  ++ source.settings.faults.map .badRestoreJob
  ++ databaseFaults checkUrl source.databaseUrl

/-- A source is read as what it says, or refused with the first complaint. -/
theorem ofSource_eq (checkUrl : String → Except UrlFault Unit) (source : Source) :
    ofSource checkUrl source = passing source.assembled (complaints checkUrl source) := by
  have merged : ({} : Settings).override (source.restoreJob.getD {}) = source.settings := rfl
  rw [ofSource, complaints, Source.assembled, merged, Settings.check_eq]
  simp only [checkInstances_eq, bind, Except.bind, pure, Except.pure, throw, throwThe,
    MonadExceptOf.throw]
  -- a stage that has a complaint ends the reading, so the next one is only met when there was none
  cases source.instances with
  | none => rfl
  | some listed =>
      cases listed with
      | nil => rfl
      | cons first others =>
          dsimp only
          cases instanceFaults [] (first :: others) with
          | cons fault rest => rfl
          | nil =>
              cases source.settings.faults with
              | cons fault rest => rfl
              | nil =>
                  cases source.databaseUrl with
                  | none => rfl
                  | some address =>
                      dsimp only [passing, databaseFaults]
                      cases Text.isBlank address with
                      | true => rfl
                      | false => cases checkUrl address <;> rfl

/-- What a source has to say to be read. -/
structure Acceptable (checkUrl : String → Except UrlFault Unit) (source : Source) : Prop where
  instances : ∃ listed, source.instances = some listed ∧ listed ≠ [] ∧
    (∀ node ∈ listed, node.stagingDir.text ≠ "") ∧ (listed.map Instance.id).Nodup
  lifetime : 1209600 ≤ source.settings.ttlSeconds.toNat
  window : source.settings.recencyDays.toNat * 86400 < source.settings.ttlSeconds.toNat
  concurrency : 1 ≤ source.settings.concurrency.toNat ∧
    source.settings.concurrency.toNat ≤ 2305843009213693951
  database : ∃ address, source.databaseUrl = some address ∧ Text.isBlank address = false ∧
    checkUrl address = .ok ()

theorem databaseFaults_eq_nil_iff {address? : Option String} :
    databaseFaults checkUrl address? = [] ↔ ∃ address, address? = some address ∧
      Text.isBlank address = false ∧ checkUrl address = .ok () := by
  cases address? with
  | none => exact iff_of_false nofun fun ⟨address, missing, _⟩ => nomatch missing
  | some address =>
      rw [databaseFaults]
      cases blank : Text.isBlank address with
      | true => simp [blank]
      | false => cases passed : checkUrl address <;> simp [blank, passed]

theorem complaints_eq_nil_iff : complaints checkUrl source = [] ↔ Acceptable checkUrl source := by
  rw [complaints, List.append_eq_nil_iff, List.append_eq_nil_iff, List.map_eq_nil_iff,
    Settings.faults_eq_nil_iff, databaseFaults_eq_nil_iff]
  have listed : (match source.instances with
      | none | some [] => [ConfigFault.noInstances]
      | some listed => instanceFaults [] listed) = [] ↔
      ∃ listed, source.instances = some listed ∧ listed ≠ [] ∧
        (∀ node ∈ listed, node.stagingDir.text ≠ "") ∧ (listed.map Instance.id).Nodup := by
    cases source.instances with
    | none => simp
    | some listed =>
        cases listed with
        | nil => simp
        | cons first others =>
            dsimp only
            rw [instanceFaults_eq_nil_iff]
            simp
  rw [listed]
  constructor
  · rintro ⟨⟨instances, lifetime, window, concurrency⟩, database⟩
    exact ⟨instances, lifetime, window, concurrency, database⟩
  · rintro ⟨instances, lifetime, window, concurrency, database⟩
    exact ⟨⟨instances, lifetime, window, concurrency⟩, database⟩

/-- Access to the archives is given when all four parts are, and none is empty. -/
theorem toAccess?_eq_some_iff {given : StorageSource} {access : StorageAccess} :
    given.toAccess? = some access ↔
      (given.region = some access.region ∧ access.region ≠ "") ∧
      (given.accessKeyId = some access.accessKeyId ∧ access.accessKeyId ≠ "") ∧
      (given.secretAccessKey = some access.secretAccessKey ∧ access.secretAccessKey ≠ "") ∧
      (given.endpointUrl = some access.endpointUrl ∧ access.endpointUrl ≠ "") := by
  rw [StorageSource.toAccess?]
  split
  · next region key secret endpoint ofRegion ofKey ofSecret ofEndpoint =>
      rw [ofRegion, ofKey, ofSecret, ofEndpoint]
      constructor
      · intro allowed
        obtain ⟨full, same⟩ := Option.ite_none_left_eq_some.mp allowed
        simp only [not_or] at full
        cases same
        exact ⟨⟨rfl, full.1⟩, ⟨rfl, full.2.1⟩, ⟨rfl, full.2.2.1⟩, ⟨rfl, full.2.2.2⟩⟩
      · rintro ⟨⟨⟨⟩, region⟩, ⟨⟨⟩, key⟩, ⟨⟨⟩, secret⟩, ⟨⟨⟩, endpoint⟩⟩
        apply if_neg
        simp only [not_or]
        exact ⟨region, key, secret, endpoint⟩
  · next missing =>
      refine iff_of_false nofun ?_
      rintro ⟨⟨region, -⟩, ⟨key, -⟩, ⟨secret, -⟩, endpoint, -⟩
      exact missing _ _ _ _ region key secret endpoint

/-- A source is read exactly when it breaks no rule, and then as it is written: with the instances in
their order, each setting by its own value or its default, and access to the archives when all of it
is given. Otherwise it is refused with the first rule that it breaks. The window in seconds is never
cut down to its word. -/
theorem read_by_rules (checkUrl : String → Except UrlFault Unit) (source : Source) :
    ((∃ config, ofSource checkUrl source = .ok config) ↔ Acceptable checkUrl source) ∧
    (∀ config, ofSource checkUrl source = .ok config →
      source.instances = some config.instances ∧
      config.restoreJob = source.settings ∧
      source.databaseUrl = some config.databaseUrl ∧
      (∀ access, config.storage = some access ↔ ∃ given, source.storage = some given ∧
        (given.region = some access.region ∧ access.region ≠ "") ∧
        (given.accessKeyId = some access.accessKeyId ∧ access.accessKeyId ≠ "") ∧
        (given.secretAccessKey = some access.secretAccessKey ∧ access.secretAccessKey ≠ "") ∧
        (given.endpointUrl = some access.endpointUrl ∧ access.endpointUrl ≠ "")) ∧
      config.logLevel = source.logLevel.getD "info") ∧
    (∀ fault, ofSource checkUrl source = .error fault ↔
      (complaints checkUrl source).head? = some fault) ∧
    source.settings.recencySeconds.toNat = source.settings.recencyDays.toNat * 86400 := by
  rw [ofSource_eq]
  refine ⟨?accepted, ?content, fun fault => passing_eq_error_iff,
    source.settings.toNat_recencySeconds⟩
  case accepted =>
    simp only [passing_eq_ok_iff, exists_and_left, exists_eq', and_true]
    exact complaints_eq_nil_iff
  case content =>
    intro config read
    obtain ⟨none, rfl⟩ := passing_eq_ok_iff.mp read
    obtain ⟨⟨listed, instances, -⟩, -, -, -, address, database, -⟩ := complaints_eq_nil_iff.mp none
    refine ⟨?_, rfl, ?_, ?_, rfl⟩
    · rw [Source.assembled, instances]
      rfl
    · rw [Source.assembled, database]
      rfl
    · intro access
      rw [Source.assembled, Option.bind_eq_some_iff]
      simp only [toAccess?_eq_some_iff]

/-- Of five rules that are broken, the one that comes first is reported: an empty staging directory
comes before the repeated identifier of the same instance. -/
example : (complaints (fun _ => .ok ())
    ⟨some [⟨1, "a", 1, ⟨"/s"⟩⟩, ⟨1, "b", 2, ⟨""⟩⟩], some { ttlSeconds := some 5 }, none, none,
      none⟩).map ConfigFault.message =
      ["staging_dir of instance 1 cannot be empty", "instance id 1 is configured more than once",
        "Invalid restore_job configuration", "Invalid restore_job configuration",
        "job_store_database_url must be set in config.json"] := by
  decide

end Config

end Restage
