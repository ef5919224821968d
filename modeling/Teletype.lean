import Teletype.Cleaning
import Teletype.Rehearsal
import Teletype.SettingsFile
import Teletype.Proofs.Grammar
import Teletype.Proofs.Sanitizing
import Teletype.Proofs.Frame
import Teletype.Proofs.FreeName
import Teletype.Proofs.Overlap
import Teletype.Proofs.Tape
import Teletype.Proofs.Freshness
import Teletype.Proofs.Dropping
import Teletype.Proofs.Legible
import Teletype.Proofs.LineEnds
import Teletype.Proofs.Recognition
import Teletype.Proofs.Closing
import Teletype.Proofs.Extent
import Teletype.Proofs.Delivery
import Teletype.Proofs.Room
import Teletype.Proofs.Stragglers
import Teletype.Proofs.Rendered
import Teletype.Proofs.Starting
import Teletype.Proofs.Cutting
import Teletype.Proofs.LineByLine
import Teletype.Proofs.Returns
import Teletype.Proofs.Idempotence
import Teletype.Proofs.Stripping
import Teletype.Proofs.Parameters
import Teletype.Proofs.Passes
import Teletype.Proofs.Caps
import Teletype.Proofs.Ending
import Teletype.Proofs.Remembering
import Teletype.Proofs.Provenance
import Teletype.Proofs.Removal
import Teletype.Proofs.Variants
import Teletype.Proofs.LastLine
import Teletype.Proofs.Noticing
import Teletype.Proofs.Accepted
import Teletype.Proofs.UnknownKeys
import Teletype.Proofs.Overriding
import Teletype.Proofs.Overtime
import Teletype.Proofs.Reach
import Teletype.Proofs.Reaping
