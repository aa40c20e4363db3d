import FeedIngest.ItemId

/-! What can go wrong between the storage and us. -/

namespace FeedIngest

/-- Why the database did not do what it was asked. -/
inductive DatabaseFault
  | poolTimedOut
  | poolClosed
  | rowNotFound
  | protocol (text : String)
  | io (text : String)
  | configuration (text : String)
  /-- The server's own error: its code and its text. -/
  | server (code text : String)
  deriving DecidableEq

namespace DatabaseFault

def message : DatabaseFault → String
  | .poolTimedOut => "pool timed out while waiting for an open connection"
  | .poolClosed => "attempted to acquire a connection on a closed pool"
  | .rowNotFound => "no rows returned by a query that expected to return at least one row"
  | .protocol text => s!"encountered unexpected or invalid data: {text}"
  | .io text => s!"error communicating with database: {text}"
  | .configuration text => s!"error with configuration: {text}"
  | .server _ text => s!"error returned from database: {text}"

/-- Whether the server refused a row because its key is taken. -/
def isUniqueViolation : DatabaseFault → Bool
  | .server code _ => code = "23505"
  | _ => false

end DatabaseFault

inductive StorageError
  | connection (fault : DatabaseFault)
  | query (command : String) (fault : DatabaseFault)
  | duplicate (id : ItemId)
  | unknownStatement (name : String)
  | invalidTableName (name : String)
  | poisonedLock
  deriving DecidableEq

namespace StorageError

/-- The label of the error in counters. -/
def kind : StorageError → String
  | .connection _ => "connection"
  | .query _ _ => "query"
  | .duplicate _ => "duplicate"
  | .unknownStatement _ => "unknown_statement"
  | .invalidTableName _ => "invalid_table_name"
  | .poisonedLock => "poisoned_lock"

def message : StorageError → String
  | .connection fault => s!"connection failed with: {fault.message}"
  | .query command fault => s!"{command} query failed with: {fault.message}"
  | .duplicate id => s!"item {id} is already stored"
  | .unknownStatement name => s!"no statement named {name} has been registered"
  | .invalidTableName name => s!"{name} is not a valid table name"
  | .poisonedLock => "statement registry lock was poisoned"

end StorageError
end FeedIngest
