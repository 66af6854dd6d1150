import BlockData.Document
import BlockData.Project.Action
import BlockData.Project.Assembly
import BlockData.Proofs.Listing.Command
import BlockData.Proofs.Listing.Snapshots
import BlockData.Proofs.Keyed
import BlockData.Proofs.Project.Places
import BlockData.Proofs.Commands
import BlockData.Proofs.Project.Block
import BlockData.Proofs.Project.Frame
import BlockData.Proofs.Project.Moves
import BlockData.Proofs.Project.Mirror
import BlockData.Proofs.Project.Watched
import BlockData.Proofs.Project.Polls
import BlockData.Proofs.Project.News
import BlockData.Proofs.Listing.Failure
import BlockData.Proofs.Project.Newcomer
import BlockData.Proofs.Project.Failure
import BlockData.Proofs.Project.Resolution
import BlockData.Proofs.Project.Upkeep
import BlockData.Proofs.Faults
import BlockData.Proofs.Listing.Answers
import BlockData.Proofs.Project.Answers
import BlockData.Proofs.Blank
import BlockData.Proofs.Comparison
import BlockData.Proofs.Double.Magnitude
import BlockData.Proofs.Double.Nearest
import BlockData.Proofs.Double.Reading
import BlockData.Proofs.Numeral.Digits
import BlockData.Proofs.Numeral.Grammar
import BlockData.Proofs.Listing.Membership
import BlockData.Proofs.Project.Effect
import BlockData.Proofs.Sampling
import BlockData.Proofs.Listing.Conservation
import BlockData.Proofs.Project.Origin
import BlockData.Proofs.Project.Capacity
import BlockData.Proofs.Project.Quota
import BlockData.Proofs.Project.Names
import BlockData.Proofs.Numeral.Meaning
import BlockData.Proofs.Numeral.Bases
import BlockData.Proofs.Double.Grid
import BlockData.Proofs.Double.Shortest
import BlockData.Proofs.Double.Standard
import BlockData.Proofs.Numeral.ReadingBack
import BlockData.Proofs.Double.Unique
import BlockData.Proofs.Double.Order
import BlockData.Proofs.Comparison.Order
import BlockData.Proofs.Comparison.Blank
import BlockData.Proofs.Comparison.LetterCase
import BlockData.Proofs.Index
import BlockData.Proofs.Listing.Bounds
import BlockData.Proofs.Listing.Agreement
import BlockData.Proofs.Double.Absorption
import BlockData.Proofs.Announcements
import BlockData.Proofs.Project.Additions
import BlockData.Proofs.Project.Reads
import BlockData.Proofs.Project.Incoming
import BlockData.Proofs.Storage
import BlockData.Proofs.Project.Spelling
import BlockData.Proofs.Project.Addresses
import BlockData.Proofs.Project.Menus
import BlockData.Proofs.Project.Visibility
import BlockData.Proofs.Listing.Drawing
import BlockData.Proofs.Project.Independence
import BlockData.Proofs.Project.QuietPolls
import BlockData.Proofs.Project.Renaming
import BlockData.Proofs.WireNames
