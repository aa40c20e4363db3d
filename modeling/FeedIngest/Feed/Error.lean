import FeedIngest.Http.Status
import FeedIngest.Item.Basic
import FeedIngest.Url.Fault

/-! What can go wrong between the feed and us. None of these means that an item does not
exist, so a caller may always ask again. -/

namespace FeedIngest

inductive FeedError
  /-- No complete reply within the time allowed. -/
  | timeout
  /-- No usable reply; the text says why. -/
  | request (cause : String)
  | status (code : Http.Status)
  | parse (text : String)
  | url (fault : Url.Fault)
  deriving DecidableEq

namespace FeedError

/-- The label of the error in counters. -/
def kind : FeedError → String
  | .timeout => "timeout"
  | .request _ => "request"
  | .status _ => "status"
  | .parse _ => "parse"
  | .url _ => "url"

def message : FeedError → String
  | .timeout => "request to the feed failed: operation timed out"
  | .request cause => s!"request to the feed failed: {cause}"
  | .status code => s!"feed responded with status {code.text}"
  | .parse text => s!"could not understand feed response: {text}"
  | .url fault => s!"invalid feed url: {fault.message}"

/-- A payload that is not the item asked for. -/
def ofItemError (e : ItemError) : FeedError := .parse e.message

end FeedError

/-- What the feed says about an identifier. A maximum can be published before the item
behind it can be read. -/
inductive Lookup
  | available (item : Item)
  | notAvailable
  deriving DecidableEq

end FeedIngest
