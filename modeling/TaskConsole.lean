import TaskConsole.Config.Settings
import TaskConsole.Config.Toml
import TaskConsole.Config.TomlText
import TaskConsole.Console.Actions
import TaskConsole.Console.Basic
import TaskConsole.Console.Keys
import TaskConsole.Console.Loop
import TaskConsole.Decimal.Nearest
import TaskConsole.Decimal.Shortest
import TaskConsole.Download
import TaskConsole.Error
import TaskConsole.Event.Frame
import TaskConsole.Input.Field
import TaskConsole.Input.Key
import TaskConsole.Input.Range
import TaskConsole.Json.Error
import TaskConsole.Json.OfValue
import TaskConsole.Json.Reader
import TaskConsole.Json.Value
import TaskConsole.Json.Write
import TaskConsole.Launch
import TaskConsole.Log.Cache
import TaskConsole.Log.Chunk
import TaskConsole.Log.Level
import TaskConsole.Log.Line
import TaskConsole.Log.LineMap
import TaskConsole.Log.Render
import TaskConsole.Main
import TaskConsole.Proofs.Chunk
import TaskConsole.Proofs.Console.Capture
import TaskConsole.Proofs.Console.RangePrompt
import TaskConsole.Proofs.Console.Relay
import TaskConsole.Proofs.DownloadName
import TaskConsole.Proofs.Event.FrameRead
import TaskConsole.Proofs.Event.Frames
import TaskConsole.Proofs.Json.Reads
import TaskConsole.Proofs.Json.Scalars
import TaskConsole.Proofs.Json.Structures
import TaskConsole.Proofs.Json.Values
import TaskConsole.Proofs.LineMap
import TaskConsole.Proofs.Log.RenderCache
import TaskConsole.Proofs.Numbering
import TaskConsole.Proofs.Service.RangeRead
import TaskConsole.Proofs.TaskList.Live
import TaskConsole.Proofs.TaskList.PageSize
import TaskConsole.Proofs.TaskList.Paging
import TaskConsole.Proofs.TaskList.Steps
import TaskConsole.Proofs.Text.Cut
import TaskConsole.Proofs.Url.Query
import TaskConsole.Proofs.Window.Anchor
import TaskConsole.Proofs.Window.Batch
import TaskConsole.Proofs.Window.Bottom
import TaskConsole.Proofs.Window.Consistency
import TaskConsole.Proofs.Window.Contiguity
import TaskConsole.Proofs.Window.Failure
import TaskConsole.Proofs.Window.Fencing
import TaskConsole.Proofs.Window.Fetched
import TaskConsole.Proofs.Window.Flush
import TaskConsole.Proofs.Window.Frame
import TaskConsole.Proofs.Window.Header
import TaskConsole.Proofs.Window.InView
import TaskConsole.Proofs.Window.Known
import TaskConsole.Proofs.Window.Overflow
import TaskConsole.Proofs.Window.RangeJump
import TaskConsole.Proofs.Window.Room
import TaskConsole.Proofs.Window.Run
import TaskConsole.Proofs.Window.TailMerge
import TaskConsole.Proofs.Window.Tickets
import TaskConsole.Service.Endpoint
import TaskConsole.Service.Envelope
import TaskConsole.Service.LogRead
import TaskConsole.Task.Basic
import TaskConsole.Task.Json
import TaskConsole.Task.Read
import TaskConsole.TaskList
import TaskConsole.Text.Bidi
import TaskConsole.Text.Blank
import TaskConsole.Text.DomainMap
import TaskConsole.Text.Escape
import TaskConsole.Text.Invisible
import TaskConsole.Text.Joining
import TaskConsole.Text.Mark
import TaskConsole.Text.Normal
import TaskConsole.Text.Quote
import TaskConsole.Text.RangeTable
import TaskConsole.Text.Scan
import TaskConsole.Text.Styled
import TaskConsole.Text.Upper
import TaskConsole.Text.Width
import TaskConsole.Time.Calendar
import TaskConsole.Url.Basic
import TaskConsole.Url.Encode
import TaskConsole.Url.Host
import TaskConsole.Url.Idna
import TaskConsole.Url.Parse
import TaskConsole.Url.Punycode
import TaskConsole.Window.Basic
import TaskConsole.Window.Config
import TaskConsole.Window.Load
import TaskConsole.Window.Stream
import TaskConsole.Word
