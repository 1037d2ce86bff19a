import FileServer.Main
import FileServer.Proofs.Http.BlankLine
import FileServer.Proofs.Transfer.Delivery
import FileServer.Readiness.Board
import FileServer.Server.Dispatch
import FileServer.Socket.Scripted
import FileServer.Transfer.Bench
import FileServer.Proofs.Answer
import FileServer.Proofs.Connection.Run
import FileServer.Proofs.Connection.Intake
import FileServer.Proofs.Connection.Output
import FileServer.Proofs.Connection.Order
import FileServer.Proofs.Connection.Record
import FileServer.Proofs.Connection.Phases
import FileServer.Proofs.Connection.Coherent
import FileServer.Proofs.Connection.Wire
import FileServer.Proofs.Connection.Length
import FileServer.Proofs.Connection.Answered
import FileServer.Proofs.Connection.Page
import FileServer.Proofs.Socket.Fed
import FileServer.Proofs.Connection.Received
import FileServer.Proofs.Settings
import FileServer.Proofs.Path
import FileServer.Proofs.Resource
import FileServer.Proofs.Connection.Containment
import FileServer.Proofs.Connection.Alike
import FileServer.Proofs.Transfer.Spending
import FileServer.Proofs.Transfer.Accounting
import FileServer.Proofs.Transfer.Collision
import FileServer.Proofs.Server.Registry
import FileServer.Proofs.Server.Tokens
import FileServer.Proofs.Server.Allocation
import FileServer.Proofs.Server.Calls
import FileServer.Proofs.Server.Outcome
import FileServer.Proofs.Server.Run
import FileServer.Proofs.Server.History
import FileServer.Proofs.Server.Awaiting
import FileServer.Proofs.Server.Independence
import FileServer.Proofs.Connection.Attempt
import FileServer.Proofs.Server.Quiescence
import FileServer.Proofs.Connection.Drive
import FileServer.Proofs.Http.Head
import FileServer.Proofs.Connection.Cutting
import FileServer.Proofs.Socket.Logged
import FileServer.Proofs.Transfer.Retrying
import FileServer.Proofs.Transfer.Counters
import FileServer.Proofs.Connection.Countdown
import FileServer.Proofs.Http.HeadEnd
import FileServer.Proofs.Http.Reference
import FileServer.Proofs.Http.RequestText
import FileServer.Proofs.Http.Spelling
import FileServer.Proofs.Connection.Hearing
import FileServer.Proofs.Connection.Tiling
import FileServer.Proofs.Text.Utf8
import FileServer.Proofs.Http.Framing
import FileServer.Proofs.Folders
import FileServer.Proofs.Yaml.Scalar
import FileServer.Proofs.Yaml.Tokens
import FileServer.Proofs.Yaml.Document
import FileServer.Proofs.Yaml.Value
import FileServer.Proofs.Settings.Written
