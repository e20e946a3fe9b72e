import OperatorPanel.Channel

/-!
# Channels to the simulated controller
-/

namespace OperatorPanel
namespace Simulated

/-- Try to open a channel to the simulated controller. -/
def openEnd {α : Type} (kind : ChannelKind) (end_ : α) (w : World) :
    Except ChannelFault α × World :=
  let (opened, simulator) := w.simulator.openChannel
  let w := { w with simulator }
  if opened then (.ok end_, w)
  else (.error (.unavailable kind "simulated controller not reachable"), w)

/-- Send a message; refused while the command channel is invalid. -/
def send (m : Message) (w : World) : Except ChannelFault Unit × World :=
  if w.simulator.commandValid then (.ok (), { w with simulator := w.simulator.receive m })
  else (.error (.invalid .command), w)

/-- Look at the status; `seen` is the version that was found last. -/
def peek (seen : UInt64) (w : World) : Peek × UInt64 × World :=
  let (found, seen, simulator) := w.simulator.peek seen
  (found, seen, { w with simulator })

/-- Take the oldest notice. -/
def poll (w : World) : Except ChannelFault (Option Notice) × World :=
  let (notice, simulator) := w.simulator.takeNotice
  (.ok notice, { w with simulator })

/-- The transport to the simulated controller. -/
@[reducible] def transport : Transport where
  name := "sim"
  CommandEnd := Unit
  StatusEnd := UInt64
  NoticeEnd := Unit
  openCommand := openEnd .command ()
  openStatus := openEnd .status 0  -- no status has version 0 at first, so the first look finds one
  openNotices := openEnd .error ()
  closeCommand _ w := w
  closeStatus _ w := w
  closeNotices _ w := w
  isValid _ w := w.simulator.commandValid
  send _ m w :=
    let (r, w) := send m w
    (r, (), w)
  peek := peek
  poll _ w :=
    let (r, w) := poll w
    (r, (), w)
  -- the looks that the running command takes, and a few more for faults and odd frames
  patience _ w := w.simulator.pollsUntilDone.getD 0 + 4

end Simulated
end OperatorPanel
