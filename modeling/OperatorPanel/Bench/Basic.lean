import OperatorPanel.Panel
import OperatorPanel.Route

/-!
# A bench

A bench holds a simulated controller and a segment directory, at most one panel, and any number of
other things under names: links, channels, writers, readers and buses. It is where the parts of
the panel are tried, alone and together.
-/

namespace OperatorPanel

/-! ### Frames of any kind -/

/-- The kinds of bodies. -/
inductive BodyKind where
  | message | status | notice | pins | word
  deriving DecidableEq, Repr

/-- A body of any kind. -/
inductive Body where
  | message (m : Message)
  | status (s : Status)
  | notice (n : Notice)
  | pins (ps : List NamedPin)
  | word (n : UInt32)

namespace Body

/-- The frame of a body. -/
def encode (type : FrameType) : Body → Except FrameFault (List UInt8)
  | message m => Frame.encode Codec.message type m
  | status s => Frame.encode Codec.status type s
  | notice n => Frame.encode Codec.notice type n
  | pins ps => Frame.encode Codec.pins type ps
  | word n => Frame.encode Codec.u32 type n

/-- The body of a frame. -/
def decode (kind : BodyKind) (type : FrameType) (bytes : List UInt8) : Except FrameFault Body :=
  match kind with
  | .message => (Frame.decode Codec.message type bytes).map message
  | .status => (Frame.decode Codec.status type bytes).map status
  | .notice => (Frame.decode Codec.notice type bytes).map notice
  | .pins => (Frame.decode Codec.pins type bytes).map pins
  | .word => (Frame.decode Codec.u32 type bytes).map word

end Body

/-! ### What is kept under names -/

/-- Things under names. -/
abbrev Shelf (α : Type) := List (String × α)

/-- What is kept under a name, if anything is. -/
def Shelf.get? {α : Type} (s : Shelf α) (id : String) : Option α := List.lookup id s

/-- Keep something under a name, in place of what was kept there. -/
def Shelf.put {α : Type} (s : Shelf α) (id : String) (x : α) : Shelf α :=
  (id, x) :: s.filter (·.1 ≠ id)

/-- Keep nothing under a name. -/
def Shelf.erase {α : Type} (s : Shelf α) (id : String) : Shelf α := s.filter (·.1 ≠ id)

/-- A link with the status that was seen through it. -/
structure WatchedLink (T : Transport) where
  link : Link T
  watch : Watch := {}

/-- A bench and what stands on it. -/
structure Bench where
  world : World
  panel : Option (Routed Panel) := none
  /-- The bus in memory. -/
  memory : MemoryBus := {}
  /-- The bus of the panel refuses to publish. -/
  refuses : Bool := false
  /-- The output pins that were shown, with the values that were shown last. -/
  shown : List NamedPin := []
  /-- How many of the received messages were shown. -/
  told : Nat := 0
  links : Shelf (Routed WatchedLink) := []
  channels : Shelf (Routed OpenChannel) := []
  writers : Shelf SegmentWriter := []
  readers : Shelf SegmentReader := []
  buses : Shelf SegmentBus := []

/-- What a step on a bench can fail with. -/
inductive BenchError where
  | panel (e : PanelError)
  | channel (f : ChannelFault)
  | segment (f : SegmentFault)
  | frame (f : FrameFault)
  | file (f : FileFault)
  | unknownPin (name : String)
  /-- There is nothing of this sort under the name. -/
  | noSuch (what : String)
  /-- The step would go on for ever. -/
  | endless
  deriving DecidableEq

/-- What a link shows. -/
structure LinkView where
  state : LinkState
  connected : Bool
  deriving DecidableEq

/-- What a segment shows to one of its ends. -/
structure SegmentView where
  version : UInt64
  readers : UInt32
  /-- For readers: whether there is something new, and whether the writer is alive. -/
  changed : Bool := false
  alive : Bool := false
  name : String
  size : Nat

/-- What a step gives. -/
inductive Answer where
  | done
  | flag (b : Bool)
  | count (n : Nat)
  | gate (g : Gate)
  | serial (n : Int32)
  | freshness (f : Freshness)
  | notice (n : Option Notice)
  | message (m : Option Message)
  | status (s : Status)
  | peek (p : Peek)
  | value (v : Option PinValue)
  | sample (s : InputSample)
  | pinNames (pins : List InputPin)
  | outputs (out : OutputPins) (published : Nat)
  | changes (pins : List NamedPin)
  | report (r : CycleReport) (pins : List NamedPin)
  | pinCount (n : Nat)
  | stats (s : CycleStats)
  | link (transport : String) (v : LinkView)
  | linkView (v : LinkView)
  /-- The view of a link that could not connect. -/
  | linkFailed (e : PanelError) (v : LinkView)
  | refreshed (r : Except PanelError Freshness) (w : Watch)
  | opened (transport : String)
  | valid (b : Bool)
  | writer (v : SegmentView)
  | writerState (v : SegmentView)
  | written (version : UInt64)
  | framed (version : UInt64) (length : Nat)
  | reader (v : SegmentView)
  | readerState (v : SegmentView)
  | block (b : Block) (version : UInt64)
  | frame (type : FrameType) (version : UInt64) (body : Body)
  | matched (ms : List Directory.Match)
  | names (ns : List String)
  | header (h : SegmentHeader) (length : Nat)

/-- Fields of a file to be overwritten. -/
structure Poke where
  magic : Option UInt64 := none
  version : Option UInt64 := none
  size : Option UInt64 := none
  writerPid : Option UInt32 := none
  readerCount : Option UInt32 := none
  /-- Bytes for the data section, from an address on. -/
  bytes : Option (Nat × List UInt8) := none

/-- Overwrite fields of a file. A file that is too short for them grows. -/
def Poke.apply (p : Poke) (f : SegmentFile) : SegmentFile :=
  let grown (finish : Nat) (used : Bool) (length : Nat) : Nat :=
    if used then max length finish else length
  let length :=
    -- the ends of the fields as they stand in the header
    grown 8 p.magic.isSome <| grown 16 p.version.isSome <| grown 20 p.writerPid.isSome <|
    grown 24 p.readerCount.isSome <| grown 32 p.size.isSome <|
    match p.bytes with
    | some (start, bytes) =>
      grown (Segment.headerLength + start + bytes.length) (!bytes.isEmpty) f.length
    | none => f.length
  { f with
    length
    header :=
      { f.header with
        magic := p.magic.getD f.header.magic
        version := p.version.getD f.header.version
        size := p.size.getD f.header.size
        writerPid := p.writerPid.getD f.header.writerPid
        readerCount := p.readerCount.getD f.header.readerCount }
    data :=
      match p.bytes with
      | some (start, bytes) => f.data.write start bytes
      | none => f.data }

/-- Where the bus of a panel is. -/
inductive BusKind where
  | memory | segment
  deriving DecidableEq, Repr

/-- What can be done on a bench. -/
inductive Step where
  -- the simulated controller
  | ack (a : Acknowledgement)
  | editStatus (f : Status → Status)
  | fault (reason : Option String)
  | unexpected (type : FrameType)
  | commandValid (on : Bool)
  | failOpens (n : Nat)
  | pushNotice (n : Notice)
  | simStatus
  | opens
  | lastReceived
  | clearReceived
  -- the bus in memory
  | set (pin : String) (value : PinValue)
  | outputs
  | refusePublish (on : Bool)
  -- the panel
  | create (settings : Settings) (route : Route) (bus : BusKind)
  | startup
  | cycle
  | run (cycles : Nat)
  | shutdown
  | drop
  | stats
  | previous (pin : String)
  | registered
  | gate
  -- its client
  | dispatch (command : Command) (policy : Option WaitPolicy)
  | runProgram (line : Int32)
  | refresh
  | pollNotice
  | waitReceived (serial : Int32) (limit : Option Span)
  | waitDone (serial : Int32)
  | setSerial (serial : Int32)
  | send (m : Message)
  | connect
  | close
  | snapshot
  -- links
  | link (id : String) (route : Route) (retry : RetryPolicy) (silences : Bool)
  | linkConnect (id : String)
  | linkClose (id : String)
  | linkSend (id : String) (m : Message)
  | linkPeek (id : String)
  | linkPoll (id : String)
  | linkRefresh (id : String)
  -- channels
  | openChannel (id : String) (route : Route) (kind : ChannelKind)
  | channelSend (id : String) (m : Message)
  | channelValid (id : String)
  | channelPeek (id : String)
  | channelPoll (id : String)
  | channelDrop (id : String)
  -- segments
  | writer (id name : String) (size : Nat)
  | write (id : String) (start : Nat) (bytes : List UInt8)
  | writeFrame (id : String) (type : FrameType) (body : Body)
  | writerState (id : String)
  | dropWriter (id : String)
  | reader (id name : String)
  | read (id : String) (range : Option (Nat × Nat))
  | readFrame (id : String) (kind : BodyKind) (type : FrameType)
  | readerState (id : String)
  | dropReader (id : String)
  | find (name : String)
  | alive (pid : UInt32)
  | listFiles
  | putFile (path : String) (length : Nat) (modified : Nat) (poke : Poke)
  | poke (path : String) (poke : Poke)
  | header (path : String)
  | removeFile (path : String)
  -- buses in shared memory
  | bus (id channel : String)
  | sample (id : String)
  | publish (id : String) (out : OutputPins)
  | dropBus (id : String)

end OperatorPanel
