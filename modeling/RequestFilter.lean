import RequestFilter.Main
import RequestFilter.Session
import RequestFilter.Proofs.Query.Algebra
import RequestFilter.Proofs.Query.Observed
import RequestFilter.Proofs.Query.Occurs
import RequestFilter.Proofs.Query.Json
import RequestFilter.Proofs.Query.Spelling
import RequestFilter.Proofs.Suggest.Found
import RequestFilter.Proofs.Suggest.Accept
import RequestFilter.Proofs.Suggest.Offered
import RequestFilter.Proofs.Suggest.Accepting
import RequestFilter.Proofs.Suggest.Named
import RequestFilter.Proofs.Session.Reload
import RequestFilter.Proofs.Command.Filter
import RequestFilter.Proofs.Request.Lines
import RequestFilter.Proofs.Request.Forms
import RequestFilter.Proofs.Request.Respell
import RequestFilter.Proofs.Request.Ascii
import RequestFilter.Proofs.Text.Run
import RequestFilter.Proofs.Url.Split
import RequestFilter.Text.Offset
import RequestFilter.Url.Scan
import RequestFilter.Proofs.Text.Offset
import RequestFilter.Proofs.Url.Assembly
import RequestFilter.Proofs.Url.Authority
import RequestFilter.Proofs.Url.Scan
import RequestFilter.Proofs.Category.Admits
import RequestFilter.Proofs.Category.Named
import RequestFilter.Proofs.Query.Unanswered
import RequestFilter.Proofs.Size.Whole
import RequestFilter.Proofs.Size.Radix
import RequestFilter.Proofs.Size.Finite
import RequestFilter.Proofs.Request.Status
import RequestFilter.Proofs.Request.Leading
import RequestFilter.Proofs.Request.Endpoint
import RequestFilter.Proofs.Command.Lines
