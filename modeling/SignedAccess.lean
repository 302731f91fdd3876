import SignedAccess.Address.Basic
import SignedAccess.Address.Host
import SignedAccess.Address.Reader
import SignedAccess.Backend.Client
import SignedAccess.Backend.Command
import SignedAccess.Backend.Payload
import SignedAccess.Decimal.Binary64
import SignedAccess.Decimal.Shortest
import SignedAccess.Digest.Keyed
import SignedAccess.Digest.Sha256
import SignedAccess.Domain.Allowed
import SignedAccess.Domain.Ascii
import SignedAccess.Domain.Composition
import SignedAccess.Domain.Direction
import SignedAccess.Domain.Joiner
import SignedAccess.Domain.Label
import SignedAccess.Domain.Mark
import SignedAccess.Domain.Respelling
import SignedAccess.Exchange.Cookie
import SignedAccess.Exchange.Line
import SignedAccess.Exchange.Message
import SignedAccess.Json.Fault
import SignedAccess.Json.Printer
import SignedAccess.Json.Reader
import SignedAccess.Json.Record
import SignedAccess.Json.Scalar
import SignedAccess.Json.Value
import SignedAccess.Main
import SignedAccess.Proofs.Session.Log
import SignedAccess.Proofs.Session.Ticket
import SignedAccess.Service.Answer
import SignedAccess.Service.GrantBody
import SignedAccess.Service.MediaType
import SignedAccess.Service.Router
import SignedAccess.Session.Basic
import SignedAccess.Session.Desk
import SignedAccess.Session.Stage
import SignedAccess.Session.Store
import SignedAccess.Session.User
import SignedAccess.Setup.Config
import SignedAccess.Setup.OneShot
import SignedAccess.Setup.Options
import SignedAccess.Text.Blank
import SignedAccess.Text.Hex
import SignedAccess.Text.Hidden
import SignedAccess.Text.Integer
import SignedAccess.Text.Order
import SignedAccess.Text.Percent
import SignedAccess.Text.Plain
import SignedAccess.Text.Quoted
import SignedAccess.Text.Ranges
import SignedAccess.Text.Utf8
import SignedAccess.Time.Calendar
import SignedAccess.Time.Instant
import SignedAccess.Time.Written
import SignedAccess.Upload.Grant
import SignedAccess.Upload.ObjectKey
import SignedAccess.Upload.Policy
import SignedAccess.Upload.Request
import SignedAccess.Upload.Signature
import SignedAccess.Upload.Storage
import SignedAccess.Proofs.Session.Account
import SignedAccess.Proofs.Session.ForeignTicket
import SignedAccess.Proofs.Session.Isolation
import SignedAccess.Proofs.Session.Watching
import SignedAccess.Proofs.Backend.Call
import SignedAccess.Proofs.Backend.Timeline
import SignedAccess.Proofs.Backend.Shown
import SignedAccess.Proofs.Backend.Displacement
import SignedAccess.Proofs.Backend.SignedOut
import SignedAccess.Proofs.Backend.RefreshMoment
import SignedAccess.Proofs.Backend.Course
import SignedAccess.Proofs.Backend.Chronicle
import SignedAccess.Proofs.Backend.Bearer
import SignedAccess.Proofs.Backend.Exchanges
import SignedAccess.Proofs.Backend.Rejection
import SignedAccess.Proofs.Backend.Restoring
import SignedAccess.Proofs.Backend.AllOrNothing
import SignedAccess.Proofs.Backend.Departure
import SignedAccess.Proofs.Text.Blanking
import SignedAccess.Proofs.Text.Cuts
import SignedAccess.Proofs.Text.Escapes
import SignedAccess.Proofs.Text.Numerals
import SignedAccess.Proofs.Text.Spacing
import SignedAccess.Proofs.Text.Respacing
import SignedAccess.Proofs.Time.Calendar
import SignedAccess.Proofs.Time.Stamp
import SignedAccess.Proofs.Domain.Form
import SignedAccess.Proofs.Domain.Settled
import SignedAccess.Proofs.Address.Host
import SignedAccess.Proofs.Address.Reread
import SignedAccess.Proofs.Address.UserInfo
import SignedAccess.Proofs.Address.Extension
import SignedAccess.Proofs.Exchange.Sending
import SignedAccess.Proofs.Upload.ObjectPath
import SignedAccess.Proofs.Upload.EscapedPath
import SignedAccess.Proofs.Upload.SignedAddress
import SignedAccess.Proofs.Upload.HeadOfBucket
import SignedAccess.Proofs.Upload.StorageSide
import SignedAccess.Proofs.Upload.Recomputation
import SignedAccess.Proofs.Upload.BucketName
import SignedAccess.Proofs.Upload.ContentType
import SignedAccess.Proofs.Upload.Placement
import SignedAccess.Proofs.Upload.Intent
import SignedAccess.Proofs.Upload.HeaderPresentation
import SignedAccess.Proofs.Upload.DerivedKey
import SignedAccess.Proofs.Upload.BucketCheck
import SignedAccess.Proofs.Upload.Window
import SignedAccess.Proofs.Upload.Secrecy
import SignedAccess.Proofs.Setup.Reading
import SignedAccess.Proofs.Setup.ReservedFronts
import SignedAccess.Proofs.Setup.Words
import SignedAccess.Proofs.Setup.Overrides
import SignedAccess.Proofs.Setup.UsualTime
import SignedAccess.Proofs.Setup.OneShot
import SignedAccess.Proofs.Json.Members
import SignedAccess.Proofs.Json.Spelling
import SignedAccess.Proofs.Json.Scalars
import SignedAccess.Proofs.Json.Reread
import SignedAccess.Proofs.Json.Records
import SignedAccess.Proofs.Json.Spread
import SignedAccess.Proofs.Session.UserRecord
import SignedAccess.Proofs.Json.Skipping
import SignedAccess.Proofs.Decimal.Layout
import SignedAccess.Proofs.Service.BodyReading
import SignedAccess.Proofs.Service.GrantRoute
