import FeedIngest.Feed.Http
import FeedIngest.Http.Service
import FeedIngest.Rehearsal.Log
import FeedIngest.Rehearsal.Solo
import FeedIngest.Rehearsal.Timeline
import FeedIngest.Storage.Database
import FeedIngest.Proofs.Channel
import FeedIngest.Proofs.Discovery.Moves
import FeedIngest.Proofs.Run
import FeedIngest.Proofs.Span
import FeedIngest.Proofs.Dispatch.Moves
import FeedIngest.Proofs.Discovery.Announcing
import FeedIngest.Proofs.Discovery.Order
import FeedIngest.Proofs.UnitOfWork.Ledger
import FeedIngest.Proofs.Custody
import FeedIngest.Proofs.Accounts
import FeedIngest.Proofs.Places
import FeedIngest.Proofs.Outcomes
import FeedIngest.Proofs.Permits
import FeedIngest.Proofs.Backpressure
import FeedIngest.Proofs.Json.Grammar
import FeedIngest.Proofs.Json.Strings
import FeedIngest.Proofs.Digits
import FeedIngest.Proofs.Json.Numbers
import FeedIngest.Proofs.Item.Writing
import FeedIngest.Proofs.Units
import FeedIngest.Proofs.Item.Sample
import FeedIngest.Proofs.Shutdown
import FeedIngest.Proofs.Storage.Memory
import FeedIngest.Proofs.Storage.Database
import FeedIngest.Proofs.Storage.Simulation
import FeedIngest.Proofs.Rehearsal.Acts
import FeedIngest.Proofs.Rehearsal.Stocking
import FeedIngest.Proofs.Rehearsal.Trials
import FeedIngest.Proofs.Feed.Http
import FeedIngest.Proofs.Origins
import FeedIngest.Proofs.Endings
import FeedIngest.Proofs.Health.Registry
import FeedIngest.Proofs.Retry.Exact
import FeedIngest.Proofs.Retry.Words
import FeedIngest.Proofs.Retry.Growth
import FeedIngest.Proofs.Course
import FeedIngest.Proofs.Retrying
import FeedIngest.Proofs.Fetch.Course
import FeedIngest.Proofs.Fetch.Return
import FeedIngest.Proofs.Discovery.Reading
import FeedIngest.Proofs.Discovery.Return
import FeedIngest.Proofs.Draining
import FeedIngest.Proofs.Json.Scanning
import FeedIngest.Proofs.Json.Parsing
import FeedIngest.Proofs.Item.Members
import FeedIngest.Proofs.Item.Accepting
import FeedIngest.Proofs.Item.Listing
import FeedIngest.Proofs.Item.Keying
import FeedIngest.Proofs.Storage.Extraction
import FeedIngest.Proofs.Feed.Replies
import FeedIngest.Proofs.Discovery.Liveness
import FeedIngest.Proofs.Watermark
import FeedIngest.Proofs.Storage.Views
import FeedIngest.Proofs.Feed.Addresses
import FeedIngest.Proofs.Health.Deadline
import FeedIngest.Proofs.Feed.Maximum
import FeedIngest.Proofs.Storage.Tokens
import FeedIngest.Proofs.Settings
import FeedIngest.Proofs.Item.SampleLimit
import FeedIngest.Proofs.Feed.Scripted
import FeedIngest.Proofs.Discovery.Reckoning
