import OperatorPanel.Channel

/-!
# Channels in shared memory

A controller in another process is reached through three segments that are named after the
channel: `<channel>_cmd` is created here, `<channel>_stat` and `<channel>_err` are the
controller's. Each holds one frame, the newest.
-/

namespace OperatorPanel
namespace Shared

def commandSegment (channel : String) : String := channel ++ "_cmd"
def statusSegment (channel : String) : String := channel ++ "_stat"
def noticeSegment (channel : String) : String := channel ++ "_err"

/-- The size of the command segment. -/
def commandSize : Nat := Segment.minSize

/-! ### Messages -/

/-- Create the command segment. -/
def openCommand (channel : String) (w : World) : Except ChannelFault SegmentWriter × World :=
  match w.createSegment (commandSegment channel) commandSize with
  | (.ok writer, w) => (.ok writer, w)
  | (.error fault, w) => (.error (.unavailable .command fault.text), w)

/-- Put a message into the command segment. -/
def send (writer : SegmentWriter) (m : Message) (w : World) :
    Except ChannelFault Unit × SegmentWriter × World :=
  match Frame.encode Codec.message .message m with
  | .error fault => (.error (.frame fault), writer, w)
  | .ok bytes =>
    match w.writeSegment writer bytes with
    | (.ok writer, w) => (.ok (), writer, w)
    | (.error fault, w) => (.error (.segment fault), writer, w)

/-! ### Status -/

/-- An attachment to the status segment. -/
structure StatusEnd where
  reader : SegmentReader
  /-- The status that was found when the channel was opened, until it is looked at. -/
  pending : Option Status
  deriving DecidableEq

/-- What is found in the newest frame. -/
inductive Slot (α : Type) where
  | empty
  | value (x : α)
  | broken (fault : FrameFault)
  | foreign (type : FrameType)

/-- Look for a value of the expected type at the front of a block. -/
def slot {α : Type} (codec : Codec α) (expected : FrameType) (b : Block) : Slot α :=
  let bytes := b.frame
  let type := Frame.typeOf bytes
  if type = expected then
    match Frame.decode codec expected bytes with
    | .ok x => .value x
    | .error fault => .broken fault
  else if type = .empty then .empty
  else .foreign type

/-- What becomes of a fresh attachment to the status segment: it must hold a status. -/
def statusEnd (reader : SegmentReader) (d : Directory) : Except ChannelFault StatusEnd :=
  match reader.read d with
  | .error fault => .error (.unavailable .status fault.text)
  | .ok (block, reader) =>
    match slot Codec.status .status block with
    | .value s => .ok { reader, pending := some s }
    | .broken fault => .error (.frame fault)
    | .empty => .error (.unavailable .status "controller has not published status yet")
    | .foreign type => .error (.unexpected type)

/-- Attach to the status segment; without a status the attachment is given up again. -/
def openStatus (channel : String) (w : World) : Except ChannelFault StatusEnd × World :=
  match w.attachSegment (statusSegment channel) with
  | (.error fault, w) => (.error (.unavailable .status fault.text), w)
  | (.ok reader, w) =>
    match statusEnd reader w.directory with
    | .ok s => (.ok s, w)
    | .error fault => (.error fault, w.dropReader reader)

/-- Look at the status. -/
def peek (s : StatusEnd) (d : Directory) : Peek × StatusEnd :=
  match s.pending with
  -- what was stashed when the channel was opened comes out first, whatever was written since
  | some status => (.status status, { s with pending := none })
  | none =>
    if s.reader.hasChanged d then
      match s.reader.read d with
      | .error fault => (.fault fault.text, s)
      | .ok (block, reader) =>
        let s := { s with reader }
        match slot Codec.status .status block with
        | .value status => (.status status, s)
        | .broken fault => (.fault fault.text, s)
        | .empty => (.noData, s)
        | .foreign type => (.other type, s)
    -- an unchanged segment is reported as a fault only once its writer has gone
    else if s.reader.writerAlive d then (.noData, s)
    else (.fault (s.reader.name ++ " writer exited"), s)

/-! ### Notices -/

/-- Pass over what was there before. -/
def skip (reader : SegmentReader) (d : Directory) : Except ChannelFault SegmentReader :=
  -- notices written before the channel was opened count as taken
  if reader.hasChanged d then
    match reader.read d with
    | .ok (_, reader) => .ok reader
    | .error fault => .error (.segment fault)
  else .ok reader

/-- Attach to the notice segment. -/
def openNotices (channel : String) (w : World) : Except ChannelFault SegmentReader × World :=
  match w.attachSegment (noticeSegment channel) with
  | (.error fault, w) => (.error (.unavailable .error fault.text), w)
  | (.ok reader, w) =>
    match skip reader w.directory with
    | .ok reader => (.ok reader, w)
    | .error fault => (.error fault, w.dropReader reader)

/-- Take the newest notice, if it was not taken yet. -/
def poll (reader : SegmentReader) (d : Directory) :
    Except ChannelFault (Option Notice) × SegmentReader :=
  if reader.hasChanged d then
    match reader.read d with
    | .error fault => (.error (.segment fault), reader)
    | .ok (block, reader) =>
      -- the version is taken over before the frame is looked at: a broken notice is consumed as
      -- well
      match slot Codec.notice .notice block with
      | .value notice => (.ok (some notice), reader)
      | .broken fault => (.error (.frame fault), reader)
      | .empty => (.ok none, reader)
      | .foreign type => (.error (.unexpected type), reader)
  else (.ok none, reader)

/-- The transport to a controller in another process. -/
@[reducible] def transport (channel : String) : Transport where
  name := "shm"
  CommandEnd := SegmentWriter
  StatusEnd := StatusEnd
  NoticeEnd := SegmentReader
  openCommand := openCommand channel
  openStatus := openStatus channel
  openNotices := openNotices channel
  closeCommand writer w := w.dropWriter writer
  closeStatus s w := w.dropReader s.reader
  closeNotices reader w := w.dropReader reader
  isValid _ _ := true  -- the writer's own segment cannot go away under it
  send := send
  peek s w :=
    let (found, s) := peek s w.directory
    (found, s, w)
  poll reader w :=
    let (notice, reader) := poll reader w.directory
    (notice, reader, w)
  patience _ _ := 4  -- the stash, what was written last, and two more looks that find nothing new

end Shared
end OperatorPanel
