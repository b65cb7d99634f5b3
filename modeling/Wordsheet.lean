import Wordsheet.Main
import Wordsheet.Proofs.Formula.Meaning
import Wordsheet.Proofs.Formula.Acceptance
import Wordsheet.Proofs.Catalog
import Wordsheet.Proofs.Table.Shape
import Wordsheet.Proofs.Table.Refinement
import Wordsheet.Proofs.Session.Effect
import Wordsheet.Proofs.Session.Invariant
import Wordsheet.Proofs.Files.Store
import Wordsheet.Proofs.Csv.Exchange
import Wordsheet.Proofs.Command.RoundTrip
import Wordsheet.Proofs.Formula.Confinement
import Wordsheet.Proofs.Command.Positions
import Wordsheet.Proofs.Session.Import
import Wordsheet.Proofs.Session.StoredValue
import Wordsheet.Proofs.Session.Notices
import Wordsheet.Proofs.EventLog.Records
import Wordsheet.Proofs.Formula.Partition
import Wordsheet.Proofs.Formula.Parentheses
import Wordsheet.Proofs.Formula.Postorder
import Wordsheet.Proofs.Session.TableNames
import Wordsheet.Proofs.Formula.Rearrangement
import Wordsheet.Proofs.Session.Calculation
import Wordsheet.Proofs.Decimal.Literal
import Wordsheet.Proofs.Formula.Registration
import Wordsheet.Proofs.Command.Items
import Wordsheet.Proofs.EventLog.Tail
import Wordsheet.Proofs.Settings.Engine
import Wordsheet.Proofs.Settings.Layers
import Wordsheet.Proofs.Csv.Columns
import Wordsheet.Proofs.Table.Grid
import Wordsheet.Proofs.Console.Script
import Wordsheet.Proofs.Formula.LetterCase
import Wordsheet.Proofs.Formula.Printing
import Wordsheet.Proofs.EventLog.Clip
