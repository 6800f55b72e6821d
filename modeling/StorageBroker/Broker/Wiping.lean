import StorageBroker.Broker.Buckets
import StorageBroker.Wipe
/-!
# Deleting buckets with their objects

The user of the repository is let into the bucket, every object is deleted, and then the bucket
itself. A bucket in which an object could not be deleted is kept.

* `finishWipe` -- what becomes of the bucket once its wipe has ended;
* `wipeAndDelete` -- the whole of it: the failure that stops the deletion is its result, the one
  that keeps the wipe from starting is its own failure.
-/

namespace StorageBroker.Broker

open Management

variable (b : Broker)

/-- Builds the wipe tool from what has been discovered. -/
def prepareWipe : Operation Unit := do
  match (← get).discovery with
  | none => throw (.malformed (.lacks .null "repository_endpoint"))
  | some d =>
    let user ← b.nameOf (b.config.value .repositoryUser)
    Wipe.prepare d.repositoryEndpoint user d.repositorySecret
    modify fun s => { s with wipeReady := true }

/-- **What comes before a wipe**: there has to be a wipe tool, and its user is let into the
bucket. -/
def startWipe (bucketId : Value) : Operation Unit := reporting do
  if !(← get).wipeReady then
    throw (failure "Bucket wipe is not available, ECS service is not initialized")
  b.addUser bucketId (b.config.value .repositoryUser) .null

/-- The report of a wiped bucket that cannot be deleted. -/
def notDeleted (name : Value) (f : Fault) : Fault :=
  if f.isManagement then
    .broker (some ("Error Deleting Bucket " ++ name.plain ++ " " ++ f.text)) (some f)
  else f

/-- **What comes after a wipe**: the bucket is deleted if nothing went wrong. -/
def finishWipe (bucketId : Value) (progress : Wipe.Progress) : Operation Unit := do
  let name ← b.nameOf bucketId
  match progress.errors with
  | [] => (Bucket.delete name b.home : Operation Unit).mapFault (notDeleted name)
  | errors => throw (.wipeFailed name errors)

/-- **Deletes a bucket with its objects.** -/
def wipeAndDelete (bucketId : Value) : Operation (Except Fault Unit) := do
  b.startWipe bucketId
  let name ← b.nameOf bucketId
  let progress ← (Wipe.wipe (.ok Wipe.batchLimit) name (.text "")).stateAfter .start
  (b.finishWipe bucketId progress).attempt

end StorageBroker.Broker
