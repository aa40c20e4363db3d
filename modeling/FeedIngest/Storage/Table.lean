import FeedIngest.Text.Digits

/-! The table of items and its statements. A table name stands in the text of the
statements, so only plain identifiers are accepted. -/

namespace FeedIngest.Storage

def isLetter (c : Char) : Bool := ('a' ≤ c && c ≤ 'z') || ('A' ≤ c && c ≤ 'Z')

/-- Letters, digits and the underscore, all of them ASCII. -/
def isNameCharacter (c : Char) : Bool := isLetter c || Digits.isDigit c || c = '_'

/-- A name begins with a letter or underscore. -/
def isTableName (name : String) : Bool :=
  match name.toList with
  | [] => false
  | c :: cs => (isLetter c || c = '_') && cs.all isNameCharacter

/-- The name under which the insertion of one item is registered. -/
def insertItem : String := "insert_item"

/-- Creates the table unless it is there. -/
def createTable (table : String) : String :=
  "\nCREATE TABLE IF NOT EXISTS " ++ table ++ " (\n    id BIGINT PRIMARY KEY,\n    author TEXT,\n" ++
    "    time BIGINT,\n    item JSONB NOT NULL\n)\n        "

/-- Inserts one payload as a row, its header taken from the payload. -/
def insertRow (table : String) : String :=
  "\nINSERT INTO " ++ table ++ " (id, author, time, item)\nSELECT\n    (payload->>'id')::BIGINT,\n" ++
    "    payload->>'by',\n    (payload->>'time')::BIGINT,\n    payload\n" ++
    "FROM (SELECT $1::TEXT::JSONB AS payload) AS incoming\n        "

end FeedIngest.Storage
