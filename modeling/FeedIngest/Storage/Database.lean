import FeedIngest.Item.Basic
import FeedIngest.Storage.Options
import FeedIngest.Storage.Table

/-! The storage in a database. Statements are known by name once the table has been created.
An item's row is made from its payload alone, so the payload is the one value sent. What the
database replies is decided elsewhere; a storage without a connection is never made. -/

namespace FeedIngest.Storage

/-- A statement as it is sent, with its values. -/
structure Query where
  sql : String
  values : List String
  deriving DecidableEq

/-- A table in a database, and the statements registered for it. -/
structure Database where
  table : String
  statements : List (String × String)
  deriving DecidableEq

namespace Database

/-- The storage of a table, with nothing registered yet. -/
def open? (table : String) : Except StorageError Database :=
  if isTableName table then .ok ⟨table, []⟩ else .error (.invalidTableName table)

/-- The storage of a table in the database at an address, where connecting comes to this. -/
def connect (table address : String) (connection : Except DatabaseFault Unit) :
    Except StorageError Database :=
  match Url.parse address with
  | .error fault => .error (.connection (.configuration fault.message))
  | .ok url =>
    match Options.firstFault? url, connection with
    | some fault, _ => .error (.connection (.configuration fault))
    | none, .error fault => .error (.connection fault)
    | none, .ok _ => open? table

/-- No way leads to the database. -/
def unreachable : DatabaseFault := .io "Network is unreachable (os error 101)"

/-- The statement that a setup sends. -/
def setupQuery (d : Database) : Query := ⟨createTable d.table, []⟩

/-- The storage after a setup to which the database replied so. -/
def setup (d : Database) (reply : Except DatabaseFault Unit) :
    Database × Except StorageError Unit :=
  match reply with
  | .error fault => (d, .error (.query "CREATE TABLE" fault))
  | .ok _ =>
    let others := d.statements.filter (·.1 ≠ insertItem)
    ({ d with statements := (insertItem, insertRow d.table) :: others }, .ok ())

/-- The query that an execution sends, if its statement is registered. -/
def query? (d : Database) (statement : String) (item : Item) : Option Query :=
  (d.statements.lookup statement).map fun sql => ⟨sql, [item.raw]⟩

/-- What an execution comes to when the database replies so. -/
def execute (d : Database) (statement : String) (item : Item)
    (reply : Except DatabaseFault Unit) : Except StorageError Unit :=
  match d.query? statement item, reply with
  | none, _ => .error (.unknownStatement statement)
  | some _, .ok _ => .ok ()
  | some _, .error fault =>
    .error (if fault.isUniqueViolation then .duplicate item.id else .query statement fault)

end Database
end FeedIngest.Storage
