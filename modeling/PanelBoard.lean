import PanelBoard.Daemon.Launch
import PanelBoard.Dashboard.Router
import PanelBoard.Http.Exchange
import PanelBoard.Http.Writing
import PanelBoard.Inspect.Run
import PanelBoard.Main
import PanelBoard.Poll.Panels
import PanelBoard.Shutdown
import PanelBoard.Proofs.Metrics
import PanelBoard.Proofs.Poll.Completions
import PanelBoard.Proofs.Poll.Cycle
import PanelBoard.Proofs.Poll.Clock
import PanelBoard.Proofs.Poll.Course
import PanelBoard.Proofs.Poll.Rescheduling
import PanelBoard.Proofs.Poll.Succession
import PanelBoard.Proofs.Poll.Surface
import PanelBoard.Proofs.Poll.Isolation
import PanelBoard.Proofs.Poll.Timetable
import PanelBoard.Proofs.Config.Reports
import PanelBoard.Proofs.Poll.Panels
import PanelBoard.Proofs.Poll.Handling
import PanelBoard.Proofs.Poll.FailureRuns
import PanelBoard.Proofs.Region.Listing
import PanelBoard.Proofs.Poll.Accounting
import PanelBoard.Proofs.Poll.Ownership
import PanelBoard.Proofs.Region.History
import PanelBoard.Proofs.Text.Utf8
import PanelBoard.Proofs.Text.Numerals
import PanelBoard.Proofs.Json.RoundTrip
import PanelBoard.Proofs.Text.Ascii
import PanelBoard.Proofs.Text.Split
import PanelBoard.Proofs.Url.Percent
import PanelBoard.Proofs.Dashboard.Addressing
import PanelBoard.Proofs.Url.Idna
import PanelBoard.Proofs.Url.Ipv6
import PanelBoard.Proofs.Url.Normal
import PanelBoard.Proofs.Http.Sending
import PanelBoard.Proofs.Url.Below
import PanelBoard.Proofs.Inspect.Identifiers
import PanelBoard.Proofs.Config.Faults
import PanelBoard.Proofs.Http.Readers
import PanelBoard.Proofs.Http.Replies
import PanelBoard.Proofs.Http.Courses
import PanelBoard.Proofs.Http.Written
import PanelBoard.Proofs.Http.Texts
import PanelBoard.Proofs.Poll.Firing
import PanelBoard.Proofs.Poll.Growth
import PanelBoard.Proofs.Dashboard.Page
import PanelBoard.Proofs.Poll.Starting
import PanelBoard.Proofs.Success
import PanelBoard.Proofs.Toml.Keys
import PanelBoard.Proofs.Config.Edits
import PanelBoard.Proofs.Config.Spellings
import PanelBoard.Proofs.Inspect.Listing
import PanelBoard.Proofs.Shutdown.Owing
import PanelBoard.Proofs.Shutdown.Signals
