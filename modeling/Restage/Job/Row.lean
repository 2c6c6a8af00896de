import Restage.Fault
import Restage.Job

/-!
# Job rows

A relational store keeps the status of a job as a word, which may be any text at all.
-/

namespace Restage

/-- A job as a table row holds it. -/
structure JobRow where
  id : TimeId
  keyspace : String
  table : String
  agent : Option String
  status : String
  expireAt : Instant

/-- The job of a row, unless its status is no word for one. -/
def JobRow.toJob (row : JobRow) : Except Fault Job :=
  match JobStatus.parse row.status with
  | .ok status =>
      .ok { id := row.id, keyspace := row.keyspace, table := row.table, agent := row.agent,
            status := status, expireAt := row.expireAt }
  | .error complaint => .error (.invalidInput complaint)

end Restage
