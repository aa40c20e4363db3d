import FeedIngest.Feed.Error
import FeedIngest.Storage.Error

/-! Why the loops, and the worker that runs them, come to a stop. -/

namespace FeedIngest

/-- Why discovery ended before it was asked to, or before it began. -/
inductive DiscoveryError
  | cancelledBeforeStart
  | channelClosed
  deriving DecidableEq

def DiscoveryError.message : DiscoveryError → String
  | .cancelledBeforeStart => "discovery was cancelled before the initial maximum id was read"
  | .channelClosed => "ingestion channel was closed by the dispatcher"

/-- Why a fetch ended without an item. Failures of the feed are retried, so only a
shutdown ends it. -/
inductive FetchError
  | cancelled
  deriving DecidableEq

def FetchError.message : FetchError → String
  | .cancelled => "fetch was cancelled by shutdown"

/-- Why the worker stops. -/
inductive WorkerError
  | storage (error : StorageError)
  | feed (error : FeedError)
  | metrics (text : String)
  | discovery (error : DiscoveryError)
  | task (name : String)
  deriving DecidableEq

def WorkerError.message : WorkerError → String
  | .storage error => s!"failed to initialize storage: {error.message}"
  | .feed error => s!"failed to initialize feed client: {error.message}"
  | .metrics text => s!"failed to install metrics recorder: {text}"
  | .discovery error => s!"discovery loop stopped: {error.message}"
  | .task name => s!"{name} task panicked or was aborted"

/-- What an end of discovery means for the worker: one before the start is no failure. -/
def WorkerError.ofDiscovery? : Option DiscoveryError → Option WorkerError
  | none | some .cancelledBeforeStart => none
  | some error => some (.discovery error)

end FeedIngest
