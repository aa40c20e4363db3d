import FeedIngest.Feed.Error
import FeedIngest.Http.Exchange
import FeedIngest.Text.Blank

/-! The feed over HTTP. Below a base address lie the greatest identifier, as a decimal number,
and one resource for each item, which is `null` until the item can be read. -/

namespace FeedIngest

/-- A feed at an address whose path ends with a slash, and the client that reads it. -/
structure HttpFeed where
  client : Http.Client
  base : Url

namespace HttpFeed

/-- The text of an address, with a slash at its end. -/
def closed (base : String) : String := if base.endsWith "/" then base else base ++ "/"

/-- The feed at a base address. -/
def create (client : Http.Client) (base : String) : Except FeedError HttpFeed :=
  match Url.parse (closed base) with
  | .ok url => .ok ⟨client, url⟩
  | .error fault => .error (.url fault)

/-- Where the greatest identifier is. -/
def maximumAddress (f : HttpFeed) : Except FeedError Url :=
  (f.base.join "maxitem.json").mapError .url

/-- Where an item is. -/
def itemAddress (f : HttpFeed) (id : ItemId) : Except FeedError Url :=
  (f.base.join ("item/" ++ id.text ++ ".json")).mapError .url

/-- The identifier that a body spells, blanks around it aside. -/
def readMaximum (body : String) : Except FeedError ItemId :=
  match (Digits.read? ItemId.limit (Text.trim body.toList)).bind ItemId.ofNat? with
  | some id => .ok id
  | none => .error (.parse (Text.quoted body ++ " is not a valid item id"))

/-- The item of a body, or none yet where the body is `null`. -/
def readItem (id : ItemId) (body : String) : Except FeedError Lookup :=
  if Text.trim body.toList = "null".toList then .ok .notAvailable
  else match Item.parseFor id body with
    | .ok item => .ok (.available item)
    | .error e => .error (.ofItemError e)

/-- What is read from the body of a reply, unless its status is that of a failure. -/
def ofReply {α : Type} (read : String → Except FeedError α) (r : Http.Reply) :
    Except FeedError α :=
  if r.status.isSuccess then read r.body else .error (.status r.status)

/-- The error of an exchange without a reply. -/
def ofFault : Http.NetworkFault → FeedError
  | .timedOut => .timeout
  | .unreachable => .request "network is unreachable"
  | .closed => .request "connection closed before message completed"
  | .tooManyRedirects => .request "too many redirects"
  | .unknownScheme => .request "builder error"

/-- What is read from the final reply. -/
def ofResult {α : Type} (read : String → Except FeedError α) :
    Except Http.NetworkFault Http.Reply → Except FeedError α
  | .ok r => ofReply read r
  | .error fault => .error (ofFault fault)

/-- A call: the requests made, and what they led to. -/
structure Called (α : Type) where
  requests : List Http.Request
  result : Except FeedError α

/-- Reads the resource at an address from a network that answers so. -/
def call {α : Type} (client : Http.Client) (address : Except FeedError Url)
    (read : String → Except FeedError α) (network : List Http.Outcome) : Called α :=
  match address with
  | .error e => ⟨[], .error e⟩
  | .ok url =>
    let e := Http.exchange client Http.maxRedirects url network
    ⟨e.requests, ofResult read e.result⟩

/-- The greatest identifier the feed knows. -/
def maximum (f : HttpFeed) (network : List Http.Outcome) : Called ItemId :=
  call f.client f.maximumAddress readMaximum network

/-- Looks an item up. -/
def item (f : HttpFeed) (id : ItemId) (network : List Http.Outcome) : Called Lookup :=
  call f.client (f.itemAddress id) (readItem id) network

end HttpFeed
end FeedIngest
