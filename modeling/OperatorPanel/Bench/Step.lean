import OperatorPanel.Bench.Basic

/-!
# Steps on a bench

Every step is one operation of the library on the things that the bench holds. `Bench.play` also
collects what else can be seen after a step: messages that the simulated controller received, and
warnings and errors in the journal.
-/

namespace OperatorPanel
namespace Bench

/-- What a step leads to. -/
abbrev Outcome := Except BenchError Answer × Bench

variable (b : Bench)

def fails (e : BenchError) : Outcome := (.error e, b)

def gives (a : Answer) : Outcome := (.ok a, b)

/-! ### The simulated controller -/

/-- Change the simulated controller. -/
def script (f : Simulator → Simulator) : Outcome :=
  (.ok .done, { b with world := { b.world with simulator := f b.world.simulator } })

/-! ### Output pins that have changed -/

/-- Whether two values are shown alike: what is not a number is shown in one way. -/
def shownAlike : PinValue → PinValue → Bool
  | .float x, .float y => x = y || (x.isNaN && y.isNaN)
  | a, b => a = b

/-- The pins whose value is not shown like the one that was shown last. -/
def changed (shown : List NamedPin) (now : List NamedPin) : List NamedPin :=
  now.filter fun pin => !shown.any fun old => old.name = pin.name && shownAlike old.value pin.value

/-- The value of every pin that was ever shown. -/
def showing (shown : List NamedPin) (now : List NamedPin) : List NamedPin :=
  now ++ shown.filter fun old => !now.any fun pin => pin.name = old.name

/-- Show the output pins of the bus in memory, as far as they have changed. -/
def showChanges : List NamedPin × Bench :=
  let now := b.memory.outputs.named
  (changed b.shown now, { b with shown := showing b.shown now })

/-! ### The panel -/

/-- The panel with the bus that it works on now. -/
def fitted {T : Transport} (p : Panel T) : Panel T :=
  let carrier := match p.bus.carrier with
    | .memory _ => .memory b.memory
    | .segment bus => .segment bus
  { p with bus := { carrier, refuses := b.refuses } }

/-- Keep a panel after it has worked. -/
def keep (route : Route) (p : Panel route.transport) (w : World) : Bench :=
  let memory := match p.bus.carrier with
    | .memory m => m
    | .segment _ => b.memory
  { b with panel := some ⟨route, p⟩, memory, world := w }

/-- Give up the panel. -/
def dropPanel : Outcome :=
  match b.panel with
  | none => b.gives .done
  | some p =>
    match (b.fitted p.value).drop b.world with
    | none => { b with panel := none }.fails .endless
    | some world => { b with panel := none, world }.gives .done

/-- A bus of a kind for a new panel. -/
def newBus (kind : BusKind) (channel : String) (w : World) : Except PanelError PinBus × World :=
  match kind with
  | .memory => (.ok { carrier := .memory {} }, w)
  | .segment =>
    let (r, w) := SegmentBus.create channel w
    (r.map fun bus => { carrier := .segment bus }, w)

/-- Put a new panel in the place of the old one. -/
def createPanel (settings : Settings) (route : Route) (kind : BusKind) : Outcome :=
  let (_, b) := b.dropPanel
  let b := { b with memory := {}, refuses := false, shown := [] }
  match newBus kind settings.channelId b.world with
  | (.error e, world) => { b with world }.fails (.panel e)
  | (.ok bus, world) =>
    match Panel.create route.transport settings bus with
    | .error e => { b with world := bus.drop world }.fails (.panel e)
    | .ok p => (b.keep route p world).gives (.pinCount p.console.setup.registered.length)

/-- Do something with the panel. -/
def withPanel
    (f : {T : Transport} → Panel T → World → Option (Except PanelError Answer × Panel T × World)) :
    Outcome :=
  match b.panel with
  | none => b.fails (.noSuch "bridge")
  | some ⟨route, p⟩ =>
    match f (b.fitted p) b.world with
    | none => b.fails .endless
    | some (.ok a, p, w) => (b.keep route p w).gives a
    | some (.error e, p, w) => (b.keep route p w).fails (.panel e)

/-- Show what changed on the output pins, after a step of the panel that worked. -/
def withChanges (o : Outcome) (answer : List NamedPin → Answer → Answer) : Outcome :=
  match o with
  | (.error e, b) => (.error e, b)
  | (.ok a, b) =>
    let (pins, b) := b.showChanges
    (.ok (answer pins a), b)

/-- Do something with the client of the panel. -/
def withClient
    (f : {T : Transport} → Client T → World →
      Option (Except PanelError Answer × Client T × World)) : Outcome :=
  b.withPanel fun p w =>
    match f p.client w with
    | none => none
    | some (r, client, w) => some (r, { p with client }, w)

/-! ### Links and channels -/

/-- Do something with a link. -/
def withLink (id : String)
    (f : {T : Transport} → WatchedLink T → World →
      Except BenchError Answer × WatchedLink T × World) :
    Outcome :=
  match b.links.get? id with
  | none => b.fails (.noSuch "manager")
  | some ⟨route, l⟩ =>
    let (r, l, world) := f l b.world
    (r, { b with links := b.links.put id ⟨route, l⟩, world })

def viewOf {T : Transport} (l : Link T) : LinkView := ⟨l.state, l.isConnected⟩

/-- Close the channel under a name. -/
def dropChannel (id : String) : Bench :=
  match b.channels.get? id with
  | none => b
  | some ⟨_, channel⟩ =>
    { b with channels := b.channels.erase id, world := channel.close b.world }

/-- Open a channel; what was open under the name is closed afterwards. -/
def openAs (id : String) (route : Route) (kind : ChannelKind) : Outcome :=
  match route.transport.openChannel kind b.world with
  | (.error f, world) => { b with world }.fails (.channel f)
  | (.ok channel, world) =>
    let b := { b with world }.dropChannel id
    { b with channels := b.channels.put id ⟨route, channel⟩ }.gives (.opened route.transport.name)

/-- What is said where no channel of a kind is under a name. -/
def noChannel (kind : ChannelKind) : Outcome := b.fails (.noSuch (kind.word ++ " channel"))

/-- Send a message over the channel under a name. -/
def sendOver (id : String) (m : Message) : Outcome :=
  match b.channels.get? id with
  | some ⟨route, .command c⟩ =>
    let (r, c, world) := route.transport.send c m b.world
    let b := { b with channels := b.channels.put id ⟨route, .command c⟩, world }
    match r with
    | .ok () => b.gives (.valid (route.transport.isValid c world))
    | .error f => b.fails (.channel f)
  | _ => b.noChannel .command

/-- Whether messages can be sent over the channel under a name. -/
def validOver (id : String) : Outcome :=
  match b.channels.get? id with
  | some ⟨route, .command c⟩ => b.gives (.flag (route.transport.isValid c b.world))
  | _ => b.noChannel .command

/-- Look at the status over the channel under a name. -/
def peekOver (id : String) : Outcome :=
  match b.channels.get? id with
  | some ⟨route, .status s⟩ =>
    let (found, s, world) := route.transport.peek s b.world
    { b with channels := b.channels.put id ⟨route, .status s⟩, world }.gives (.peek found)
  | _ => b.noChannel .status

/-- Take a notice over the channel under a name. -/
def pollOver (id : String) : Outcome :=
  match b.channels.get? id with
  | some ⟨route, .notices n⟩ =>
    let (r, n, world) := route.transport.poll n b.world
    let b := { b with channels := b.channels.put id ⟨route, .notices n⟩, world }
    match r with
    | .ok notice => b.gives (.notice notice)
    | .error f => b.fails (.channel f)
  | _ => b.noChannel .error

/-! ### Segments -/

/-- What keeps a directory from being read that a path names below an empty one. -/
def rootFault? (path : String) : Option FileFault :=
  Path.directoryFault?
    (Path.resolve (fun way => if way = [] then .directory else .missing) []
      (if path = "" then "." else path))

def writerView (w : SegmentWriter) (d : Directory) : SegmentView :=
  { version := w.version, readers := w.readerCount d, name := w.name, size := w.size }

def readerView (r : SegmentReader) (d : Directory) : SegmentView :=
  { version := r.version, readers := r.readerCount d, changed := r.hasChanged d
    alive := r.writerAlive d, name := r.name, size := r.size }

/-- Give up the writer under a name. -/
def dropWriterAt (id : String) : Bench :=
  match b.writers.get? id with
  | none => b
  | some w => { b with writers := b.writers.erase id, world := b.world.dropWriter w }

/-- Give up the reader under a name. -/
def dropReaderAt (id : String) : Bench :=
  match b.readers.get? id with
  | none => b
  | some r => { b with readers := b.readers.erase id, world := b.world.dropReader r }

/-- Give up the bus under a name. -/
def dropBusAt (id : String) : Bench :=
  match b.buses.get? id with
  | none => b
  | some bus => { b with buses := b.buses.erase id, world := bus.drop b.world }

/-- Write bytes with the writer under a name. -/
def writeWith (id : String) (start : Nat) (bytes : List UInt8) (answer : UInt64 → Answer) :
    Outcome :=
  match b.writers.get? id with
  | none => b.fails (.noSuch "writer")
  | some w =>
    let (r, directory) := w.writeAt start bytes b.world.directory
    let b := { b with world := { b.world with directory } }
    match r with
    | .error f => b.fails (.segment f)
    | .ok w => { b with writers := b.writers.put id w }.gives (answer w.version)

/-- Read with the reader under a name. -/
def readWith (id : String) (range : Option (Nat × Nat))
    (answer : Block → SegmentReader → Except BenchError Answer) : Outcome :=
  match b.readers.get? id with
  | none => b.fails (.noSuch "reader")
  | some r =>
    let (start, length) := range.getD (0, r.size)
    match r.readRange start length b.world.directory with
    | .error f => b.fails (.segment f)
    | .ok (block, r) => (answer block r, { b with readers := b.readers.put id r })

/-- Change a file of the directory. -/
def withFile (path : String) (f : String → Nat → Directory → Except BenchError Answer × Directory) :
    Outcome :=
  let d := b.world.directory
  match d.locate path with
  | .error fault => b.fails (.file fault)
  | .ok file =>
    match d.number? file with
    | none => b.fails (.file .noSuchFile)
    | some n =>
      let (r, directory) := f file n d
      (r, { b with world := { b.world with directory } })

/-- Create or overwrite a file. -/
def putFile (path : String) (length modified : Nat) (poke : Poke) : Outcome :=
  let d := b.world.directory
  match d.locate path with
  | .error fault => b.fails (.file fault)
  | .ok file =>
    let content := { poke.apply { length } with modified }
    let directory := match d.number? file with
      | some n => d.modify n fun _ => content
      | none => d.add file content
    { b with world := { b.world with directory } }.gives .done

/-! ### Steps -/

/-- Do one step. -/
def step : Step → Outcome
  | .ack a => b.script ({ · with ack := a })
  | .editStatus f => b.script (·.update f)
  | .fault reason => b.script ({ · with fault := reason })
  | .unexpected type => b.script ({ · with unexpected := some type })
  | .commandValid on => b.script ({ · with commandValid := on })
  | .failOpens n => b.script ({ · with failingOpens := n })
  | .pushNotice n => b.script fun s => { s with notices := s.notices ++ [n] }
  | .simStatus => b.gives (.status b.world.simulator.status)
  | .opens => b.gives (.count b.world.simulator.openAttempts.toNat)
  | .lastReceived => b.gives (.message b.world.simulator.received.getLast?)
  | .clearReceived => { b with told := 0 }.script ({ · with received := [] })
  | .set name value =>
    match InputPin.parse? name with
    | none => b.fails (.unknownPin name)
    | some pin => { b with memory := b.memory.set pin value }.gives .done
  | .outputs => b.gives (.outputs b.memory.outputs b.memory.published)
  | .refusePublish on => { b with refuses := on }.gives .done
  | .create settings route bus => b.createPanel settings route bus
  | .startup =>
    withChanges (b.withPanel fun p w =>
      let (r, p, w) := p.startup w
      some (r.map fun _ => .done, p, w)) fun pins _ => .changes pins
  | .cycle =>
    withChanges (b.withPanel fun p w =>
      match p.cycle w with
      | none => none
      | some (report, p, w) => some (.ok (.report report []), p, w)) fun pins a =>
        match a with
        | .report r _ => .report r pins
        | a => a
  | .run cycles =>
    withChanges (b.withPanel fun p w =>
      match p.run w cycles with
      | none => none
      | some (r, p, w) => some (r.map fun _ => .done, p, w)) fun pins _ => .changes pins
  | .shutdown =>
    b.withPanel fun p w =>
      match p.shutdown w with
      | none => none
      | some (p, w) => some (.ok .done, p, w)
  | .drop => b.dropPanel
  | .stats => b.withPanel fun p w => some (.ok (.stats p.stats), p, w)
  | .previous name =>
    match InputPin.parse? name with
    | none => b.fails (.unknownPin name)
    | some pin => b.withPanel fun p w => some (.ok (.value (p.console.previous.get? pin)), p, w)
  | .registered => b.withPanel fun p w => some (.ok (.pinNames p.console.setup.registered), p, w)
  | .gate => b.gives (.gate b.world.gate)
  | .dispatch command policy =>
    b.withClient fun c w =>
      match c.dispatchWith command (policy.getD c.wait.policy) w with
      | none => none
      | some (r, c, w) => some (r.map .serial, c, w)
  | .runProgram line =>
    b.withClient fun c w =>
      match c.runProgram line w with
      | none => none
      | some (r, c, w) => some (r.map .serial, c, w)
  | .refresh =>
    b.withClient fun c w =>
      let (r, c, w) := c.refresh w
      some (r.map .freshness, c, w)
  | .pollNotice =>
    b.withClient fun c w =>
      let (r, c, w) := c.poll w
      some (r.map .notice, c, w)
  | .waitReceived serial limit =>
    b.withClient fun c w =>
      match c.waitReceivedFor serial (limit.or c.wait.limit) w with
      | none => none
      | some (r, c, w) => some (r.map fun _ => .done, c, w)
  | .waitDone serial =>
    b.withClient fun c w =>
      match c.waitDone serial w with
      | none => none
      | some (r, c, w) => some (r.map fun _ => .done, c, w)
  | .setSerial serial => b.withClient fun c w => some (.ok .done, { c with serial }, w)
  | .send m =>
    b.withClient fun c w =>
      let (r, c, w) := c.send m.serial m.command w
      some (r.map fun _ => .done, c, w)
  | .connect =>
    b.withClient fun c w =>
      let (r, c, w) := c.connect w
      some (r.map fun _ => .done, c, w)
  | .close =>
    b.withClient fun c w =>
      let (c, w) := c.close w
      some (.ok .done, c, w)
  | .snapshot => b.withClient fun c w => some (.ok (.status c.status), c, w)
  | .link id route retry silences =>
    let l : Link route.transport := { retry, silences }
    let world := match b.links.get? id with
      | some ⟨_, old⟩ => (old.link.release b.world).2
      | none => b.world
    { b with links := b.links.put id ⟨route, { link := l }⟩, world }.gives
      (.link route.transport.name (viewOf l))
  | .linkConnect id =>
    b.withLink id fun l w =>
      let (r, link, w) := l.link.connect w
      let view := viewOf link
      (.ok (match r with
        | .ok () => .linkView view
        | .error e => .linkFailed e view), { l with link }, w)
  | .linkClose id =>
    b.withLink id fun l w =>
      let (link, w) := l.link.close w
      (.ok (.linkView (viewOf link)), { l with link }, w)
  | .linkSend id m =>
    b.withLink id fun l w =>
      let (r, link, w) := l.link.send m w
      ((r.map fun _ => Answer.done).mapError .panel, { l with link }, w)
  | .linkPeek id =>
    b.withLink id fun l w =>
      let (found, link, w) := l.link.peek w
      (.ok (.peek found), { l with link }, w)
  | .linkPoll id =>
    b.withLink id fun l w =>
      let (r, link, w) := l.link.poll w
      ((r.map Answer.notice).mapError .panel, { l with link }, w)
  | .linkRefresh id =>
    b.withLink id fun l w =>
      let (r, watch, link, w) := l.watch.refresh l.link w
      (.ok (.refreshed r watch), { link, watch }, w)
  | .openChannel id route kind => b.openAs id route kind
  | .channelSend id m => b.sendOver id m
  | .channelValid id => b.validOver id
  | .channelPeek id => b.peekOver id
  | .channelPoll id => b.pollOver id
  | .channelDrop id => (b.dropChannel id).gives .done
  | .writer id name size =>
    match b.world.createSegment name size with
    | (.error f, world) => { b with world }.fails (.segment f)
    | (.ok w, world) =>
      let view := writerView w world.directory
      let b := { b with world }.dropWriterAt id
      { b with writers := b.writers.put id w }.gives (.writer view)
  | .write id start bytes => b.writeWith id start bytes .written
  | .writeFrame id type body =>
    match body.encode type with
    | .error f => b.fails (.frame f)
    | .ok bytes => b.writeWith id 0 bytes (.framed · bytes.length)
  | .writerState id =>
    match b.writers.get? id with
    | none => b.fails (.noSuch "writer")
    | some w => b.gives (.writerState (writerView w b.world.directory))
  | .dropWriter id => (b.dropWriterAt id).gives .done
  | .reader id name =>
    match b.world.attachSegment name with
    | (.error f, world) => { b with world }.fails (.segment f)
    | (.ok r, world) =>
      let view := readerView r world.directory
      let b := { b with world }.dropReaderAt id
      { b with readers := b.readers.put id r }.gives (.reader view)
  | .read id range => b.readWith id range fun block r => .ok (.block block r.version)
  | .readFrame id kind type =>
    b.readWith id none fun block r =>
      match Body.decode kind type block.frame with
      | .ok body => .ok (.frame (Frame.typeOf block.frame) r.version body)
      | .error f => .error (.frame f)
  | .readerState id =>
    match b.readers.get? id with
    | none => b.fails (.noSuch "reader")
    | some r => b.gives (.readerState (readerView r b.world.directory))
  | .dropReader id => (b.dropReaderAt id).gives .done
  | .find name =>
    match b.world.directory.find name with
    | .ok ms => b.gives (.matched ms)
    | .error f => b.fails (.segment f)
  | .alive pid => b.gives (.flag (b.world.directory.alive pid))
  | .listFiles =>
    match b.world.directory.fault with
    | some fault => b.fails (.file fault)
    | none => b.gives (.names (b.world.directory.entries.map (·.1)))
  | .putFile path length modified poke => b.putFile path length modified poke
  | .poke path poke =>
    b.withFile path fun _ n d =>
      (.ok .done, d.tick.modify n fun f => { poke.apply f with modified := d.tick.now })
  | .header path =>
    b.withFile path fun _ n d => (.ok (.header (d.file n).header (d.file n).length), d)
  | .removeFile path => b.withFile path fun file _ d => (.ok .done, d.remove file)
  | .bus id channel =>
    match SegmentBus.create channel b.world with
    | (.error e, world) => { b with world }.fails (.panel e)
    | (.ok bus, world) =>
      let b := { b with world }.dropBusAt id
      { b with buses := b.buses.put id bus }.gives .done
  | .sample id =>
    match b.buses.get? id with
    | none => b.fails (.noSuch "bus")
    | some bus =>
      let (s, bus, world) := bus.sample b.world
      { b with buses := b.buses.put id bus, world }.gives (.sample s)
  | .publish id out =>
    match b.buses.get? id with
    | none => b.fails (.noSuch "bus")
    | some bus =>
      let (r, bus, world) := bus.publish out b.world
      let b := { b with buses := b.buses.put id bus, world }
      match r with
      | .ok () => b.gives .done
      | .error e => b.fails (.panel e)
  | .dropBus id => (b.dropBusAt id).gives .done

/-! ### What can be seen after a step -/

/-- What the panel on the bench shows. -/
structure PanelView where
  serial : Int32
  jogging : Option UInt8
  link : LinkState
  running : Bool
  baseline : Option Int32

/-- What can be seen after a step. -/
structure Entry where
  result : Except BenchError Answer
  /-- The messages received since the last step. -/
  received : List Message
  /-- The warnings and errors written since the last step. -/
  records : List Record
  panel : Option PanelView

/-- Collect what can be seen after a step. -/
def entry (o : Outcome) : Entry × Bench :=
  let b := o.2
  let received := b.world.simulator.received
  ({ result := o.1
     received := received.drop b.told
     records := b.world.journal.filter fun r => r.level = .warn || r.level = .error
     panel := b.panel.map fun p =>
       { serial := p.value.client.serial, jogging := p.value.console.jogging
         link := p.value.client.link.state, running := p.value.running
         baseline := p.value.baseline } },
    { b with told := received.length, world := { b.world with journal := [] } })

/-- Do some steps, and give up the panel in the end. -/
def play (b : Bench) : List Step → List Entry
  | [] => [(entry b.dropPanel).1]
  | s :: steps =>
    let (e, b) := entry (b.step s)
    e :: play b steps

end Bench
end OperatorPanel
