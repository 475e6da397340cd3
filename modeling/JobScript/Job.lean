import JobScript.Settings

/-!
# The Job around a Script

What a script learns from the job that runs it: who it is, when it runs, and whether the job
listens to statistics while they are collected.
-/

namespace JobScript

/-- The job that runs a script. -/
structure Job where
  id : String := "job-1"
  clientNumber : Int32 := 0
  threadNumber : Int32 := 0
  /-- The job receives live reports -/
  listens : Bool := false
  /-- Time of day at the start of the run, in milliseconds since the beginning of 1970 -/
  startedAt : Int := 0
  /-- Offset of local time from UTC, in minutes -/
  utcOffset : Int := 0
  settings : Settings := {}
  deriving DecidableEq

namespace Job

/-- Identity and interval of the trackers that the job's script starts. -/
def collectionContext (job : Job) : CollectionContext where
  client := "client-" ++ toString job.clientNumber.toInt
  thread := "thread-" ++ toString job.threadNumber.toInt
  intervalSeconds := job.settings.collectionInterval

end Job

end JobScript
