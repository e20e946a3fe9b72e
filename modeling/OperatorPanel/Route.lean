import OperatorPanel.Channel.Shared
import OperatorPanel.Channel.Simulated

/-!
# Routes

The ways to a controller. A `Routed` value belongs to the transport of its route.
-/

namespace OperatorPanel

/-- A way to a controller. -/
inductive Route where
  | simulated
  | shared (channel : String)
  deriving DecidableEq, Repr

/-- The transport of a route. -/
@[reducible] def Route.transport : Route → Transport
  | simulated => Simulated.transport
  | shared channel => Shared.transport channel

/-- Something that belongs to the transport of a route. -/
structure Routed (F : Transport → Type) where
  route : Route
  value : F route.transport

end OperatorPanel
