import ScriptChannel.Channel.Close
import ScriptChannel.Channel.Configure
import ScriptChannel.Channel.Position
import ScriptChannel.Channel.Read
import ScriptChannel.Channel.Write
import ScriptChannel.Options
import ScriptChannel.Proofs.Bookmark
import ScriptChannel.Proofs.Channel.Agreement
import ScriptChannel.Proofs.Channel.Alike
import ScriptChannel.Proofs.Channel.Appending
import ScriptChannel.Proofs.Channel.Blocked
import ScriptChannel.Proofs.Channel.Clear
import ScriptChannel.Proofs.Channel.Closing
import ScriptChannel.Proofs.Channel.Coherence
import ScriptChannel.Proofs.Channel.Cursor
import ScriptChannel.Proofs.Channel.Delivered
import ScriptChannel.Proofs.Channel.Duplex
import ScriptChannel.Proofs.Channel.Ending
import ScriptChannel.Proofs.Channel.Failures
import ScriptChannel.Proofs.Channel.Fresh
import ScriptChannel.Proofs.Channel.Handover
import ScriptChannel.Proofs.Channel.InputSide
import ScriptChannel.Proofs.Channel.Ledger
import ScriptChannel.Proofs.Channel.Lifecycle
import ScriptChannel.Proofs.Channel.Mirror
import ScriptChannel.Proofs.Channel.OutputSide
import ScriptChannel.Proofs.Channel.Overwritten
import ScriptChannel.Proofs.Channel.Paced
import ScriptChannel.Proofs.Channel.Paging
import ScriptChannel.Proofs.Channel.Position
import ScriptChannel.Proofs.Channel.Reading
import ScriptChannel.Proofs.Channel.Repositioned
import ScriptChannel.Proofs.Channel.Rescan
import ScriptChannel.Proofs.Channel.Resembling
import ScriptChannel.Proofs.Channel.RoundTrip
import ScriptChannel.Proofs.Channel.Settled
import ScriptChannel.Proofs.Channel.Standing
import ScriptChannel.Proofs.Channel.Stored
import ScriptChannel.Proofs.Channel.Swallowed
import ScriptChannel.Proofs.Channel.Tally
import ScriptChannel.Proofs.Channel.Tiling
import ScriptChannel.Proofs.Channel.Undelivered
import ScriptChannel.Proofs.Channel.Unencoded
import ScriptChannel.Proofs.Channel.Unfailing
import ScriptChannel.Proofs.Channel.Units
import ScriptChannel.Proofs.Channel.Unmoved
import ScriptChannel.Proofs.Channel.Upkeep
import ScriptChannel.Proofs.Channel.Waiting
import ScriptChannel.Proofs.Channel.Writing
import ScriptChannel.Proofs.Charset.Apart
import ScriptChannel.Proofs.Charset.Coming
import ScriptChannel.Proofs.Charset.Length
import ScriptChannel.Proofs.Charset.Torn
import ScriptChannel.Proofs.Charset.Utf16
import ScriptChannel.Proofs.Charset.Utf8
import ScriptChannel.Proofs.Charset.Whole
import ScriptChannel.Proofs.Codecs
import ScriptChannel.Proofs.Coming
import ScriptChannel.Proofs.Consulted
import ScriptChannel.Proofs.Input.Abreast
import ScriptChannel.Proofs.Input.Account
import ScriptChannel.Proofs.Input.Bookmark
import ScriptChannel.Proofs.Input.Chain
import ScriptChannel.Proofs.Input.Closing
import ScriptChannel.Proofs.Input.Conserving
import ScriptChannel.Proofs.Input.Cutoff
import ScriptChannel.Proofs.Input.Decoding
import ScriptChannel.Proofs.Input.Dry
import ScriptChannel.Proofs.Input.Endings
import ScriptChannel.Proofs.Input.Frugal
import ScriptChannel.Proofs.Input.Hearing
import ScriptChannel.Proofs.Input.Idle
import ScriptChannel.Proofs.Input.Latching
import ScriptChannel.Proofs.Input.Lines
import ScriptChannel.Proofs.Input.Losses
import ScriptChannel.Proofs.Input.Mirror
import ScriptChannel.Proofs.Input.OneByOne
import ScriptChannel.Proofs.Input.Outlook
import ScriptChannel.Proofs.Input.Paging
import ScriptChannel.Proofs.Input.Piecewise
import ScriptChannel.Proofs.Input.Placing
import ScriptChannel.Proofs.Input.Probing
import ScriptChannel.Proofs.Input.ReadAhead
import ScriptChannel.Proofs.Input.Refusing
import ScriptChannel.Proofs.Input.Remaining
import ScriptChannel.Proofs.Input.Rendering
import ScriptChannel.Proofs.Input.Retracing
import ScriptChannel.Proofs.Input.Rewind
import ScriptChannel.Proofs.Input.Settling
import ScriptChannel.Proofs.Input.Spending
import ScriptChannel.Proofs.Input.Telling
import ScriptChannel.Proofs.Input.Translating
import ScriptChannel.Proofs.Input.Tuning
import ScriptChannel.Proofs.Input.Waiting
import ScriptChannel.Proofs.Input.Withholding
import ScriptChannel.Proofs.Newlines
import ScriptChannel.Proofs.Output.Answers
import ScriptChannel.Proofs.Output.Content
import ScriptChannel.Proofs.Output.Delivery
import ScriptChannel.Proofs.Output.Durability
import ScriptChannel.Proofs.Output.Mirror
import ScriptChannel.Proofs.Output.Obliging
import ScriptChannel.Proofs.Output.Reencoded
import ScriptChannel.Proofs.Output.Refusing
import ScriptChannel.Proofs.Page
import ScriptChannel.Proofs.Persist
import ScriptChannel.Proofs.Refusing
import ScriptChannel.Proofs.Runs
import ScriptChannel.Proofs.Sharing
import ScriptChannel.Proofs.Stock
import ScriptChannel.Proofs.Tile
import ScriptChannel.Proofs.Transport.Complete
import ScriptChannel.Proofs.Transport.Indistinct
import ScriptChannel.Proofs.Transport.Memory
import ScriptChannel.Proofs.Transport.Recorded
import ScriptChannel.Proofs.Transport.Rehearsed
import ScriptChannel.Proofs.Transport.Spending
import ScriptChannel.Proofs.Transport.Store
import ScriptChannel.Proofs.Unreading
import ScriptChannel.Proofs.Written
import ScriptChannel.Shared
import ScriptChannel.Stream
import ScriptChannel.Transport.Memory
import ScriptChannel.Transport.OneWay
import ScriptChannel.Transport.Rehearsed
