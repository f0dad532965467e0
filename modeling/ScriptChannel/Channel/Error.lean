import ScriptChannel.IoError

/-!
# Errors of a channel

Each error has a stable code and belongs to a category that says what its receiver can do about it.
The end of a stream is no error.
-/

namespace ScriptChannel

/-- The operations on positions. -/
inductive Positioning
  | seek
  | tell
  deriving DecidableEq, Repr

def Positioning.name : Positioning → String
  | seek => "seek"
  | tell => "tell"

inductive ErrorCategory
  /-- The channel is not open for that. -/
  | accessMode
  /-- The device cannot do that. -/
  | unsupported
  /-- The device failed. -/
  | transport
  /-- A setting was refused and is unchanged. -/
  | configuration
  /-- A mistake of the program itself. -/
  | invariant
  deriving DecidableEq, Repr

def ErrorCategory.name : ErrorCategory → String
  | accessMode => "AccessMode"
  | unsupported => "Unsupported"
  | transport => "Transport"
  | configuration => "Configuration"
  | invariant => "Invariant"

inductive ChannelError
  | notReadable (channel : String)
  | notWritable (channel : String)
  | nonBlockingWrite (channel : String)
  | closed (channel : String)
  | unsupported (channel : String) (operation : Positioning)
  | io (error : IoError)
  | unknownEncoding (name : String)
  | invalidBufferSize (requested max : Nat)
  | invariant (text : String)
  deriving DecidableEq, Repr

namespace ChannelError

def code : ChannelError → String
  | notReadable _ => "spark.channel.not_readable"
  | notWritable _ => "spark.channel.not_writable"
  | nonBlockingWrite _ => "spark.channel.non_blocking_write"
  | closed _ => "spark.channel.closed"
  | unsupported _ _ => "spark.channel.unsupported"
  | io _ => "spark.channel.transport_io"
  | unknownEncoding _ => "spark.channel.unknown_encoding"
  | invalidBufferSize _ _ => "spark.channel.invalid_buffer_size"
  | invariant _ => "spark.channel.invariant"

def category : ChannelError → ErrorCategory
  | notReadable _ | notWritable _ | nonBlockingWrite _ | closed _ => .accessMode
  | unsupported _ _ => .unsupported
  | io _ => .transport
  | unknownEncoding _ | invalidBufferSize _ _ => .configuration
  | invariant _ => .invariant

def isInvariant (e : ChannelError) : Bool := e.category = .invariant

def message : ChannelError → String
  | notReadable c => s!"channel \"{c}\" wasn't opened for reading"
  | notWritable c => s!"channel \"{c}\" wasn't opened for writing"
  | nonBlockingWrite c => s!"channel \"{c}\": non-blocking write I/O not yet implemented"
  | closed c => s!"channel \"{c}\" is closed"
  | unsupported c op => s!"error during {op.name} on \"{c}\": invalid argument"
  | io e => e.message
  | unknownEncoding name => s!"unknown encoding \"{name}\""
  | invalidBufferSize requested max =>
    s!"buffer size {requested} is outside the accepted range [1, {max}]"
  | invariant text => s!"internal invariant violated: {text}"

/-- A name is given once. -/
def nameAlreadySet (refused : String) : ChannelError :=
  invariant s!"channel name already set, refusing \"{refused}\""

end ChannelError

end ScriptChannel
