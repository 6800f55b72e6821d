import StorageBroker.Fault
/-!
# The object storage

Objects are listed and deleted through the storage itself and not through its management API. This
file fixes what can be asked of the storage: a client has to be built once, a listing gives pages
until it ends or fails, and a deletion names keys of one bucket and answers with those it refused.
-/

namespace StorageBroker.Storage

inductive Question where
  /-- Builds a client for an endpoint. -/
  | connect (endpoint accessKey secretKey : Value)
  /-- Lists the objects of a bucket whose keys start in a given way. -/
  | list (bucket start : Value)
  /-- Deletes objects of a bucket. -/
  | delete (bucket : Value) (keys : List Value)

/-- The pages of a listing are those up to a failure and that failure, if there is one. -/
def Question.Answer : Question → Type
  | .connect .. => Except Fault Unit
  | .list .. => List (Except Fault Value)
  | .delete .. => Except Fault Value

end StorageBroker.Storage
