import Sitemap.Site.Run
import Sitemap.Site.Shared
import Sitemap.Site.Description
import Sitemap.Rows.Statement
import Sitemap.Environment.Transactions
import Sitemap.Tree.Outline
import Sitemap.Proofs.Checks
import Sitemap.Proofs.Environment.Outcome
import Sitemap.Proofs.Site.Refusal
import Sitemap.Proofs.Hierarchy.Descent
import Sitemap.Proofs.Hierarchy.Ancestry
import Sitemap.Proofs.Hierarchy.Places
import Sitemap.Proofs.Hierarchy.Sorting
import Sitemap.Proofs.Hierarchy.Change
import Sitemap.Proofs.Hierarchy.Listing
import Sitemap.Proofs.Rows.Statements
import Sitemap.Proofs.Hierarchy.Plans
import Sitemap.Proofs.Hierarchy.Arithmetic
import Sitemap.Proofs.Rows.Places
import Sitemap.Proofs.Page.Slots
import Sitemap.Proofs.Rows.Exchange
import Sitemap.Proofs.Rows.References
import Sitemap.Proofs.Page.Content
import Sitemap.Proofs.Rows.Contents
import Sitemap.Proofs.Order
import Sitemap.Proofs.Tree.Following
import Sitemap.Proofs.Tree.Outline
import Sitemap.Proofs.Tree.Sorting
import Sitemap.Proofs.Tree.Building
import Sitemap.Proofs.Rows.Loaded
import Sitemap.Proofs.Rows.Filing
import Sitemap.Proofs.Rows.Planning
import Sitemap.Proofs.Environment.Transactions
import Sitemap.Proofs.Site.Granted
import Sitemap.Proofs.Site.Effect
import Sitemap.Proofs.Site.Opening
import Sitemap.Proofs.Site.Shape
import Sitemap.Proofs.Site.Mirroring
import Sitemap.Proofs.Hierarchy.Rewriting
import Sitemap.Proofs.Rows.Shape
import Sitemap.Proofs.Site.Sharing
import Sitemap.Proofs.Site.Pages
import Sitemap.Proofs.Site.Revision
import Sitemap.Proofs.Site.NormalForm
import Sitemap.Proofs.Site.Locking
import Sitemap.Proofs.Site.Publication
import Sitemap.Proofs.Rows.Success
import Sitemap.Proofs.Site.Judgement
import Sitemap.Proofs.Site.Redundancy
import Sitemap.Proofs.Site.Narration
import Sitemap.Proofs.Json.Numerals
import Sitemap.Proofs.Json.Quoting
import Sitemap.Proofs.Json.Reading
import Sitemap.Proofs.Json.Values
import Sitemap.Proofs.Json.Integers
import Sitemap.Proofs.Timestamp
import Sitemap.Proofs.Snapshot.Records
import Sitemap.Proofs.Snapshot.Header
import Sitemap.Proofs.Snapshot.RoundTrip
import Sitemap.Proofs.Snapshot.Canonical
import Sitemap.Proofs.Checksum
import Sitemap.Proofs.Snapshot.Damage
import Sitemap.Proofs.Rows.Data
import Sitemap.Proofs.Site.Writes
import Sitemap.Proofs.Site.Reopening
import Sitemap.ActionLog.Owned
import Sitemap.Proofs.ActionLog
import Sitemap.Proofs.Site.Confinement
import Sitemap.Proofs.Rows.Tidiness
import Sitemap.Proofs.Rows.Publication
import Sitemap.Proofs.Site.Leftovers
import Sitemap.Proofs.Site.Rearranging
import Sitemap.Proofs.Tree.Upkeep
import Sitemap.Proofs.Hierarchy.Circles
import Sitemap.Proofs.Rows.Moving
import Sitemap.Proofs.Site.Answers
import Sitemap.Proofs.Site.Undoing
import Sitemap.Proofs.Hierarchy.Positions
import Sitemap.Proofs.Rows.Restamping
import Sitemap.Proofs.Site.Restamping
import Sitemap.Proofs.Rows.Fitting
import Sitemap.Proofs.Site.Resaving
