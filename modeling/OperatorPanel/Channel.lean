import OperatorPanel.World

/-!
# Channels

Three channels lead to a controller: messages go out, its status and its notices come in. A
`Transport` says how they are opened and used. It knows nothing of dispatching, and dispatching
knows a transport only through its operations.
-/

namespace OperatorPanel

/-- The channels, in the order in which they are opened. -/
inductive ChannelKind where
  | command | status | error
  deriving DecidableEq, Repr

/-- The word for a channel. -/
def ChannelKind.word : ChannelKind → String
  | command => "command"
  | status => "status"
  | error => "error"

/-- What an operation on a channel can fail with. -/
inductive ChannelFault where
  | unavailable (kind : ChannelKind) (reason : String)
  | invalid (kind : ChannelKind)
  | unexpected (type : FrameType)
  | segment (fault : SegmentFault)
  | frame (fault : FrameFault)
  deriving DecidableEq

/-- What is said about a frame of a type that does not belong. -/
def FrameType.unexpectedText (type : FrameType) : String :=
  "unexpected message type " ++ Text.hexadecimal type.toNat

/-- What is said about a fault. -/
def ChannelFault.text : ChannelFault → String
  | unavailable kind reason => kind.word ++ " channel unavailable: " ++ reason
  | invalid kind => kind.word ++ " channel is not valid"
  | unexpected type => type.unexpectedText
  | segment fault => fault.text
  | frame fault => fault.text

/-- A way to reach a controller. -/
structure Transport where
  name : String
  /-- An open channel for messages. -/
  CommandEnd : Type
  /-- An open channel for the status. -/
  StatusEnd : Type
  /-- An open channel for notices. -/
  NoticeEnd : Type
  openCommand : World → Except ChannelFault CommandEnd × World
  openStatus : World → Except ChannelFault StatusEnd × World
  openNotices : World → Except ChannelFault NoticeEnd × World
  closeCommand : CommandEnd → World → World
  closeStatus : StatusEnd → World → World
  closeNotices : NoticeEnd → World → World
  /-- Whether messages can be sent now. -/
  isValid : CommandEnd → World → Bool
  send : CommandEnd → Message → World → Except ChannelFault Unit × CommandEnd × World
  /-- Look at the status, without waiting. -/
  peek : StatusEnd → World → Peek × StatusEnd × World
  /-- Take the next notice, if there is one. -/
  poll : NoticeEnd → World → Except ChannelFault (Option Notice) × NoticeEnd × World
  /-- So many looks at the status suffice to see everything that comes without another message. -/
  patience : StatusEnd → World → Nat

/-- An open channel of any kind. -/
inductive OpenChannel (T : Transport) where
  | command (c : T.CommandEnd)
  | status (s : T.StatusEnd)
  | notices (n : T.NoticeEnd)

/-- Open a channel of some kind. -/
def Transport.openChannel (T : Transport) (kind : ChannelKind) (w : World) :
    Except ChannelFault (OpenChannel T) × World :=
  match kind with
  | .command =>
    let (r, w) := T.openCommand w
    (r.map .command, w)
  | .status =>
    let (r, w) := T.openStatus w
    (r.map .status, w)
  | .error =>
    let (r, w) := T.openNotices w
    (r.map .notices, w)

/-- Close a channel. -/
def OpenChannel.close {T : Transport} (channel : OpenChannel T) (w : World) : World :=
  match channel with
  | .command c => T.closeCommand c w
  | .status s => T.closeStatus s w
  | .notices n => T.closeNotices n w

end OperatorPanel
