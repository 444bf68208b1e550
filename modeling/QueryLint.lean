import QueryLint.Main
import QueryLint.Proofs.InSubquery.Occurrences
import QueryLint.Proofs.SharedCte.Totals
import QueryLint.Proofs.Detection.Selection
import QueryLint.Proofs.Json.RoundTrip
import QueryLint.Proofs.Cli.Verdict
import QueryLint.Proofs.Detection.DepthLimit
import QueryLint.Proofs.Position.Place
import QueryLint.Proofs.Detection.LetterCase
import QueryLint.Proofs.SharedCte.OwnReads
import QueryLint.Proofs.RegexpContains.Calls
import QueryLint.Proofs.Walk.Deeper
import QueryLint.Proofs.SharedCte.Order
import QueryLint.Proofs.Cli.Lines
import QueryLint.Proofs.Json.Forms
import QueryLint.Proofs.Position.Earliest
import QueryLint.Proofs.Cli.Collection
import QueryLint.Proofs.Cli.Results
import QueryLint.Proofs.SharedCte.Components
import QueryLint.Proofs.SharedCte.History
