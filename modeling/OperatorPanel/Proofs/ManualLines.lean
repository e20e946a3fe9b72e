import OperatorPanel.Proofs.PinNames
import OperatorPanel.Proofs.Standstill
import OperatorPanel.Proofs.Velocities

/-!
# Manual lines

Settings that can be used give a panel in any case, with one pin for each of their lines. A cycle
makes the controller receive the lines whose pins turn active in it, the empty one apart
(`Panel.lines_cycle`): settings may have an empty line, and its pin is scanned as the others are,
but the command for it is refused.

* `Panel.manual_lines`: the pins of lines, from the settings to the controller.
-/

namespace OperatorPanel

/-! ### From settings to pins

The limits of the settings on lines, on their number and on their length, are the limits of the
types that a setup is made of. So settings that pass their own check make a setup, and with it one
pin for each line.
-/

theorem BoundedText.mapM_isSome {limit : Nat} {texts : List String}
    (h : ∀ text ∈ texts, text.utf8ByteSize ≤ limit) :
    (texts.mapM (BoundedText.ofString? limit)).isSome := by
  induction texts with
  | nil => rfl
  | cons text texts ih =>
      obtain ⟨hfits, hrest⟩ := List.forall_mem_cons.1 h
      obtain ⟨lines, hlines⟩ := Option.isSome_iff_exists.1 (ih hrest)
      rw [List.mapM_cons, BoundedText.ofString?, dif_pos hfits, hlines]
      rfl

/-- **Settings that can be used give a setup**: the limit for lines is the same in both. -/
theorem Setup.ofSettings_of_valid {settings : Settings} (h : settings.fault? = none) :
    ∃ setup, Setup.ofSettings settings = .ok setup := by
  have hlines : (manualLines? settings.lines).isSome :=
    BoundedText.mapM_isSome fun _ hline => Settings.line_le h hline
  obtain ⟨lines, hlines⟩ := Option.isSome_iff_exists.1 hlines
  rw [ofSettings, hlines]
  exact ⟨_, rfl⟩

/-- Settings that can be used give a panel, whatever transport and bus it has. -/
theorem Panel.create_of_valid {settings : Settings} (h : settings.fault? = none) (T : Transport)
    (bus : PinBus) :
    ∃ p, Panel.create T settings bus = .ok p ∧ p.console.setup.registered
      = InputPin.registered settings.polarities.length settings.lines.length := by
  obtain ⟨setup, hsetup⟩ := Setup.ofSettings_of_valid h
  rw [create, h, hsetup]
  exact ⟨_, rfl, Setup.registered_ofSettings hsetup⟩

namespace InputPin

variable {axes lines j : Nat}

/-- The pins of all lines are scanned. -/
theorem line_mem_registered (hj : j < lines) (hlines : lines ≤ maxLines) :
    .line (UInt8.ofNat j) ∈ registered axes lines := by
  refine mem_registered.2 (.inr (.inr ⟨j, ?_, rfl⟩))
  rw [Nat.min_eq_left hlines]
  exact hj

/-- No number of a line is cut off by the pins' one byte. -/
theorem toNat_line (hj : j < lines) (hlines : lines ≤ maxLines) : (UInt8.ofNat j).toNat = j :=
  UInt8.toNat_ofNat_of_lt' (Nat.lt_of_lt_of_le hj (Nat.le_trans hlines (by decide)))

end InputPin

/-! ### Lines among commands

Of all commands only one runs a line, so the lines that a controller has run can be read off the
messages it has received. A command for an empty line never becomes a message.
-/

namespace Command

/-- The line that a command has run. -/
def line? : Command → Option String
  | .mdiExecute line => some line.text
  | _ => none

theorem line?_eq_some_iff {command : Command} {text : String} :
    command.line? = some text ↔ ∃ line : ManualLine, command = .mdiExecute line ∧
      line.text = text := by
  constructor
  · intro h
    unfold line? at h
    split at h
    · next line => exact ⟨line, rfl, Option.some.inj h⟩
    · cases h
  · rintro ⟨line, rfl, rfl⟩
    rfl

/-- Of lines only the empty one is refused. -/
theorem fault?_mdiExecute {line : ManualLine} :
    (mdiExecute line).fault? = none ↔ line.text ≠ "" := by
  show (if line.text = "" then some Fault.emptyLine else none) = none ↔ _
  split
  · next hempty => simp [hempty]
  · next hline => simp [hline]

end Command

/-- The manual lines among messages, in order. -/
def linesOf (log : List Message) : List String := log.filterMap (·.command.line?)

theorem linesOf_append (log more : List Message) :
    linesOf (log ++ more) = linesOf log ++ linesOf more :=
  List.filterMap_append

/-- The line that an attempt has sent. -/
def Attempt.line? (a : Attempt) : Option String := if a.written then a.command.line? else none

/-- Read off the messages of some attempts, the lines are those of the attempts that were written.
-/
theorem linesOf_messages (n : Int32) (as : List Attempt) :
    linesOf (Attempt.messages n as) = as.filterMap Attempt.line? := by
  induction as generalizing n with
  | nil => rfl
  | cons a as ih =>
      have hrest := ih (Attempt.serialAfter n a)
      unfold linesOf Attempt.messages at hrest ⊢
      rw [Attempt.numbered, List.filterMap_cons, List.filterMap_cons, ← hrest, Attempt.line?,
        Attempt.message?]
      cases a.written <;> rfl

theorem Attempt.messages_singleton (n : Int32) (a : Attempt) :
    messages n [a] = if a.written then [⟨serialAfter n a, a.command⟩] else [] := by
  rw [messages, numbered, numbered, List.filterMap_cons, message?]
  cases a.written <;> rfl

/-! ### Lines that are due

Whether a line is due is decided by its pin alone. No other pin asks for a line, so from what is due
the lines that a cycle runs are found pin by pin.
-/

namespace Console

variable {c : Console} {before now : InputSample} {status : Status} {pin : InputPin}
  {command : Command}

theorem due_line (c : Console) (before now : InputSample) (status : Status) (index : UInt8) :
    c.due before now status (.line index)
      = if before.rises now (.line index) then c.setup.lines[index.toNat]?.map .mdiExecute
        else none := by
  have hpressed : c.pressed now status (.line index)
      = c.setup.lines[index.toNat]?.map .mdiExecute := by
    rw [pressed, momentaryAction, Option.map_map]
    rfl
  show (if before.rises now (.line index) then _ else _) = _
  rw [hpressed]

/-- What a pressed button asks for is no line. -/
theorem line?_pressed (hpin : ∀ index, pin ≠ .line index)
    (h : c.pressed now status pin = some command) : command.line? = none := by
  cases pin with
  | control control => cases control <;> cases h <;> rfl
  | axis a index => cases a <;> cases h <;> rfl
  | line index => exact absurd rfl (hpin index)

/-- No other pin runs a line. -/
theorem line?_due (hpin : ∀ index, pin ≠ .line index)
    (h : c.due before now status pin = some command) : command.line? = none := by
  cases due_cases h with
  | pressed _ hpressed => exact line?_pressed hpin hpressed
  | start => unfold startCommand; dsimp only; split <;> rfl
  | stop => unfold stopCommand; split <;> rfl
  | override hdue => obtain ⟨value, rfl | rfl⟩ := eq_of_dueOverride hdue <;> rfl

/-- The line that a cycle runs for a pin: if the pin turns active, the line of this number, unless
this is empty. -/
def ran? (c : Console) (before now : InputSample) : InputPin → Option String
  | .line index =>
    if before.rises now (.line index) then
      (c.setup.lines[index.toNat]?.map (·.text)).filter (· ≠ "")
    else none
  | _ => none

/-- It is the line of the command that is due for the pin. -/
theorem ran?_eq (c : Console) (before now : InputSample) (status : Status) (pin : InputPin) :
    c.ran? before now pin
      = (c.due before now status pin).bind fun command => command.line?.filter (· ≠ "") := by
  have other (hpin : ∀ index, pin ≠ .line index) :
      (c.due before now status pin).bind (fun command => command.line?.filter (· ≠ "")) = none := by
    apply Option.bind_eq_none_iff.2
    intro command hdue
    rw [line?_due hpin hdue]
    rfl
  -- the pins that are not of a line have nothing to give on either side
  cases pin with
  | control control => exact (other fun _ h => by cases h).symm
  | axis a index => exact (other fun _ h => by cases h).symm
  | line index =>
      rw [due_line, ran?]
      cases before.rises now (.line index) with
      | false => rfl
      | true => cases c.setup.lines[index.toNat]? <;> rfl

/-- The pin with this number is scanned, and there is a line for it. -/
structure HasLine (c : Console) (index : UInt8) (line : ManualLine) : Prop where
  registered : .line index ∈ c.setup.registered
  line : c.setup.lines[index.toNat]? = some line

variable {index : UInt8} {line : ManualLine}

/-- For such a pin the line is due as soon as it turns active. -/
theorem HasLine.due (h : c.HasLine index line) (hrises : before.rises now (.line index) = true) :
    c.due before now status (.line index) = some (.mdiExecute line) := by
  rw [due_line, if_pos hrises, h.line]
  rfl

/-- And it is run, unless it is empty. -/
theorem HasLine.ran? (h : c.HasLine index line) (hrises : before.rises now (.line index) = true) :
    c.ran? before now (.line index) = if line.text = "" then none else some line.text := by
  rw [Console.ran?, if_pos hrises, h.line]
  by_cases hempty : line.text = "" <;> simp [Option.filter, hempty]

end Console

/-! ### The lines of one cycle

A cycle attempts what is due, pin by pin, and the books of the client say which attempts were
written. Where the controller can be reached, that is every attempt for a line that is not empty. If
one line alone is due, the whole cycle comes down to it.
-/

/-- A list in which one element alone gives something. -/
theorem filterMap_eq_toList {α β : Type} {f : α → Option β} {xs : List α} {x : α}
    (hnodup : xs.Nodup) (hx : x ∈ xs) (hothers : ∀ y ∈ xs, y ≠ x → f y = none) :
    xs.filterMap f = (f x).toList := by
  obtain ⟨front, back, rfl⟩ := List.append_of_mem hx
  rw [List.nodup_middle, List.nodup_cons, List.mem_append, not_or] at hnodup
  obtain ⟨⟨hfront, hback⟩, -⟩ := hnodup
  have hnone (ys : List α) (hys : x ∉ ys) (hsub : ys ⊆ front ++ x :: back) :
      ys.filterMap f = [] := by
    apply List.filterMap_eq_nil_iff.2
    intro y hy
    exact hothers y (hsub hy) fun hyx => hys (hyx ▸ hy)
  rw [List.filterMap_append, List.filterMap_cons, hnone front hfront (List.subset_append_left ..),
    hnone back hback fun y hy => List.mem_append_right _ (List.mem_cons_of_mem _ hy)]
  cases f x <;> rfl

namespace Panel

variable {p p' : Panel Simulated.transport} {w w' : World} {report : CycleReport}
  {before : InputSample}

/-- Where the controller can be reached, a line is sent unless it is empty. -/
theorem written_line_iff (hcycle : p.cycle w = some (report, p', w'))
    (hvalid : p.client.link.canSend w = true) {m : InputPin × Attempt} (hm : m ∈ p.attempts w)
    {line : ManualLine} (hcommand : m.2.command = .mdiExecute line) :
    m.2.written = true ↔ line.text ≠ "" := by
  obtain ⟨acted, tidied, hcycled⟩ := Panel.cycled hcycle
  rw [← Command.fault?_mdiExecute, ← hcommand]
  constructor
  · exact hcycled.performs.forall_made Action.passes_of_written m hm
  · intro hpasses
    apply hcycled.performs.written ((p.canSend_scanned w).trans hvalid) m hm hpasses
    rw [hcommand]
    exact fun h => by cases h

/-- So an attempt sends the line of its command, if the command has one that is not empty. -/
theorem line?_attempt (hcycle : p.cycle w = some (report, p', w'))
    (hvalid : p.client.link.canSend w = true) {m : InputPin × Attempt} (hm : m ∈ p.attempts w) :
    m.2.line? = m.2.command.line?.filter (· ≠ "") := by
  rw [Attempt.line?]
  cases hline : m.2.command.line? with
  | none => exact ite_self none
  | some text =>
      obtain ⟨line, hcommand, rfl⟩ := Command.line?_eq_some_iff.1 hline
      simp only [written_line_iff hcycle hvalid hm hcommand, Option.filter, decide_eq_true_eq]

/-- **The lines that a cycle runs** are those whose pins turn active, without the empty ones, in the
order of the pins. -/
theorem lines_cycle (hremembers : p.console.Remembers before)
    (hcycle : p.cycle w = some (report, p', w')) (hvalid : p.client.link.canSend w = true) :
    linesOf w'.simulator.received
      = linesOf w.simulator.received
        ++ p.console.setup.registered.filterMap (p.console.ran? before (p.sampled w)) := by
  have hsent : ((p.attempts w).map (·.2)).filterMap Attempt.line?
      = ((p.attempts w).map fun m => (m.1, m.2.command)).filterMap
          fun m => m.2.line?.filter (· ≠ "") := by
    rw [List.filterMap_map, List.filterMap_map]
    exact List.filterMap_congr fun m hm => line?_attempt hcycle hvalid hm
  have hdue : (fun pin => (p.console.due before (p.sampled w) p.client.status pin).bind
      fun command => command.line?.filter (· ≠ "")) = p.console.ran? before (p.sampled w) :=
    funext fun pin => (p.console.ran?_eq ..).symm
  rw [(Panel.books_cycle hcycle).received, linesOf_append, linesOf_messages, hsent,
    attempts_eq hremembers hcycle, List.filterMap_filterMap, ← hdue]
  simp only [Option.bind_map, Function.comp_def]

/-- Where no other pin of a line turns active, a cycle runs this line. -/
theorem lines_of_single {index : UInt8} {line : ManualLine}
    (hline : p.console.HasLine index line) (hremembers : p.console.Remembers before)
    (hcycle : p.cycle w = some (report, p', w')) (hvalid : p.client.link.canSend w = true)
    (hrises : before.rises (p.sampled w) (.line index) = true)
    (halone : ∀ other, .line other ∈ p.console.setup.registered → other ≠ index →
      before.rises (p.sampled w) (.line other) = false) :
    linesOf w'.simulator.received
      = linesOf w.simulator.received ++ if line.text = "" then [] else [line.text] := by
  have hothers : ∀ other ∈ p.console.setup.registered, other ≠ .line index →
      p.console.ran? before (p.sampled w) other = none := by
    intro other hother hne
    cases other with
    | control control => rfl
    | axis a axis => rfl
    | line other =>
        rw [Console.ran?, halone other hother fun h => hne (congrArg _ h)]
        rfl
  rw [lines_cycle hremembers hcycle hvalid, filterMap_eq_toList
    p.console.setup.nodup_registered hline.registered hothers, hline.ran? hrises]
  split <;> rfl

/-- Where nothing else is due, a cycle decides to run the line. -/
theorem decided_of_single {index : UInt8} {line : ManualLine}
    (hline : p.console.HasLine index line) (hremembers : p.console.Remembers before)
    (hrises : before.rises (p.sampled w) (.line index) = true)
    (halone : ∀ other ∈ p.console.setup.registered, other ≠ .line index →
      p.console.due before (p.sampled w) p.client.status other = none) :
    (p.decided w).1.map (fun m => (m.1, m.2.command)) = [(.line index, .mdiExecute line)] := by
  have hothers : ∀ other ∈ p.console.setup.registered, other ≠ .line index →
      (p.console.due before (p.sampled w) p.client.status other).map (other, ·) = none := by
    intro other hother hne
    rw [halone other hother hne]
    rfl
  rw [decided_eq hremembers, filterMap_eq_toList p.console.setup.nodup_registered
    hline.registered hothers, hline.due hrises]
  rfl

/-- What a cycle sends first arrives before there is anything to wait for. -/
theorem first_arrives (p : Panel Simulated.transport) (command : Command)
    (hvalid : p.client.link.canSend w = true) :
    ∃ client₁ w₁, p.client.sendNext command (p.scanned w).world = (.ok (), client₁, w₁) ∧
      w₁.simulator.received
        = w.simulator.received ++ [⟨p.client.serial + 1, command⟩] := by
  have hcan : p.client.link.canSend (p.scanned w).world = true :=
    (p.canSend_scanned w).trans hvalid
  have hsend := p.client.sendNext_simulated command (p.scanned w).world
  rw [if_pos hcan] at hsend
  refine ⟨_, _, hsend, ?_⟩
  rw [← p.simulator_scanned w]
  rfl

/-- Where nothing is due but a line, the line is all that a cycle sends. -/
theorem received_of_line {pin : InputPin} {line : ManualLine}
    (hremembers : p.console.Remembers before) (hcycle : p.cycle w = some (report, p', w'))
    (hvalid : p.client.link.canSend w = true)
    (hdecided : (p.decided w).1.map (fun m => (m.1, m.2.command)) = [(pin, .mdiExecute line)]) :
    w'.simulator.received = w.simulator.received
      ++ if line.text = "" then [] else [⟨p.client.serial + 1, .mdiExecute line⟩] := by
  have hbooks := Panel.books_cycle hcycle
  -- exactly one attempt was made in this cycle, the one for the line
  have hmade := (attempts_eq hremembers hcycle).trans (decided_eq hremembers w).symm
  rw [hdecided] at hmade
  obtain ⟨⟨pin', a⟩, rest, hattempts, heq, hrest⟩ := List.map_eq_cons_iff.1 hmade
  cases List.map_eq_nil_iff.1 hrest
  obtain ⟨rfl, hcommand⟩ := Prod.mk.inj heq
  have hmem : (pin', a) ∈ p.attempts w := hattempts ▸ List.mem_singleton_self _
  have hwritten := written_line_iff hcycle hvalid hmem hcommand
  rw [Client.Books, hattempts, List.map_singleton] at hbooks
  rw [hbooks.received, Attempt.messages_singleton]
  by_cases hempty : line.text = ""
  · -- an empty line is refused, and all others are sent
    have hrefused : a.written = false := Bool.eq_false_iff.2 fun hwrote => hwritten.1 hwrote hempty
    rw [if_pos hempty, hrefused]
    rfl
  · have hwrote : a.written = true := hwritten.2 hempty
    have hpassed := hbooks.written a (List.mem_singleton_self a) hwrote
    rw [if_neg hempty, if_pos hwrote, Attempt.serialAfter, if_pos hpassed, hcommand]

/-! ### The pins of lines

The statement is about settings, so it starts before there is a panel. What it says about the cycle
needs only that the setup is the one made from these settings, which no event of a session changes.
-/

/-- Settings that can be used give a panel that scans one pin for each of their lines, and its name
is read back. -/
theorem create_with_lines {settings : Settings} (hsettings : settings.fault? = none) (T : Transport)
    (bus : PinBus) :
    ∃ p, Panel.create T settings bus = .ok p ∧ ∀ j < settings.lines.length,
      let pin := InputPin.line (UInt8.ofNat j)
      (UInt8.ofNat j).toNat = j ∧ p.console.setup.registered.count pin = 1 ∧
        InputPin.parse? pin.name = some pin := by
  have hlimit := Settings.lines_le hsettings
  obtain ⟨p, hcreate, hregistered⟩ := create_of_valid hsettings T bus
  refine ⟨p, hcreate, ?_⟩
  intro j hj pin
  have hpin : pin ∈ InputPin.registered settings.polarities.length settings.lines.length :=
    InputPin.line_mem_registered hj hlimit
  refine ⟨InputPin.toNat_line hj hlimit, ?_, ?_⟩
  · rw [hregistered]
    exact List.count_eq_one_of_mem (InputPin.nodup_registered _ _) hpin
  · exact InputPin.parse?_eq_some_iff.2 (InputPin.names_of_registered hpin)

/-- After a startup that succeeds, whatever is done then, the client can send as long as the command
channel of the controller is valid. -/
theorem canSend_of_works {settings : Settings} {bus : PinBus} {p₁ : Panel Simulated.transport}
    {w₁ : World} {works : List Work} {turns : List Turn} {s : Session}
    (hcreate : Panel.create Simulated.transport settings bus = .ok p)
    (hstart : p.startup w = (.ok (), p₁, w₁)) (hworks : Session.Works ⟨p₁, w₁⟩ works turns s) :
    s.panel.client.link.canSend s.world = s.world.simulator.commandValid := by
  obtain ⟨b, hstarted⟩ := Panel.started hstart
  have hclosed : p.client.link.state ≠ .connected := by
    rw [(new_of_create hcreate).link.1]
    exact fun h => by cases h
  have hopen : s.panel.client.link.command.isSome = true :=
    hworks.lasts.steady.command.trans (hstarted.isOpen hclosed).command
  rw [Link.canSend, hopen, Bool.true_and]

/-- Every line of the settings has its pin. -/
theorem hasLine_of_create {settings : Settings} {bus : PinBus} {j : Nat} {text : String}
    (hcreate : Panel.create Simulated.transport settings bus = .ok p)
    (htext : settings.lines[j]? = some text) :
    ∃ line : ManualLine, line.text = text ∧ p.console.HasLine (UInt8.ofNat j) line := by
  obtain ⟨hsettings, setup, hsetup, rfl⟩ := create_eq_ok hcreate
  have hlimit := Settings.lines_le hsettings
  obtain ⟨hj, -⟩ := List.getElem?_eq_some_iff.1 htext
  rw [← (Setup.ofSettings_eq_ok hsetup).2.1, List.getElem?_map] at htext
  obtain ⟨line, hline, rfl⟩ := Option.map_eq_some_iff.1 htext
  refine ⟨line, rfl, ?_, ?_⟩
  · rw [Setup.registered_ofSettings hsetup]
    exact InputPin.line_mem_registered hj hlimit
  · rw [InputPin.toNat_line hj hlimit]
    exact hline

/-- **The pin of every line works, unless the line is empty.** Settings that can be used give a
panel, and for each line one pin is scanned, whose name is read back as this pin. In any session,
where the controller can be reached, in a cycle in which this is the only pin of a line that turns
active, the controller receives the line, and no other one; if the line is empty it receives none.
If nothing else is due, the cycle sends the line before it waits for anything, and sends nothing
else. -/
theorem manual_lines {settings : Settings} (hsettings : settings.fault? = none) :
    (∀ (T : Transport) (bus : PinBus), ∃ p, Panel.create T settings bus = .ok p ∧
      ∀ j < settings.lines.length,
        let pin := InputPin.line (UInt8.ofNat j)
        (UInt8.ofNat j).toNat = j ∧ p.console.setup.registered.count pin = 1 ∧
          InputPin.parse? pin.name = some pin) ∧
    (∀ {bus : PinBus} {p p₁ : Panel Simulated.transport} {w w₁ : World} {works : List Work}
      {turns : List Turn} {s : Session}, Panel.create Simulated.transport settings bus = .ok p →
      p.startup w = (.ok (), p₁, w₁) → Session.Works ⟨p₁, w₁⟩ works turns s →
      s.panel.client.link.canSend s.world = s.world.simulator.commandValid) ∧
    ∀ {bus : PinBus} {p : Panel Simulated.transport} {w : World} {events : List Event}
      {turns : List Turn} {s : Session}, Panel.create Simulated.transport settings bus = .ok p →
      Session.Runs ⟨p, w⟩ events turns s → s.panel.client.link.canSend s.world = true →
      ∀ (j : Nat) (text : String), settings.lines[j]? = some text →
      let index := UInt8.ofNat j
      let pins := s.panel.console.setup.registered
      let before := lastSample .empty turns
      let now := s.panel.sampled s.world
      before.rises now (.line index) = true →
      ((∀ other, .line other ∈ pins → other ≠ index → before.rises now (.line other) = false) →
        ∀ report p' w', s.panel.cycle s.world = some (report, p', w') →
          linesOf w'.simulator.received
            = linesOf s.world.simulator.received ++ if text = "" then [] else [text]) ∧
      ((∀ other ∈ pins, other ≠ .line index →
          s.panel.console.due before now s.panel.client.status other = none) →
        ∃ line : ManualLine, line.text = text ∧
          let message : Message := ⟨s.panel.client.serial + 1, .mdiExecute line⟩
          (s.panel.decided s.world).1.map (fun m => (m.1, m.2.command))
            = [(.line index, .mdiExecute line)] ∧
          (text ≠ "" → ∃ client₁ w₁,
            s.panel.client.sendNext (.mdiExecute line) (s.panel.scanned s.world).world
              = (.ok (), client₁, w₁) ∧
            w₁.simulator.received = s.world.simulator.received ++ [message]) ∧
          ∀ report p' w', s.panel.cycle s.world = some (report, p', w') →
            w'.simulator.received
              = s.world.simulator.received ++ if text = "" then [] else [message]) := by
  refine ⟨create_with_lines hsettings, canSend_of_works, ?_⟩
  intro bus p w events turns s hcreate hruns hvalid j text htext index pins before now hrises
  obtain ⟨hsetup, hremembers⟩ :=
    hruns.remembers (Console.remembers_empty (new_of_create hcreate).previous)
  obtain ⟨line, rfl, hnew⟩ := hasLine_of_create hcreate htext
  have hline : s.panel.console.HasLine index line := by
    refine ⟨?_, ?_⟩
    · rw [hsetup]
      exact hnew.registered
    · rw [hsetup]
      exact hnew.line
  refine ⟨?_, ?_⟩  -- the first part lets other commands be due, as long as none is for a line
  · intro halone report p' w' hcycle
    exact lines_of_single hline hremembers hcycle hvalid hrises halone
  · intro halone
    have hdecided := decided_of_single hline hremembers hrises halone
    refine ⟨line, rfl, hdecided, ?_, ?_⟩
    · intro _
      exact s.panel.first_arrives (.mdiExecute line) hvalid
    · intro report p' w' hcycle
      exact received_of_line hremembers hcycle hvalid hdecided

/-- The button of the first line is pressed. -/
def pressLine : List Event := [.startup, .work (.pins (pressing (.line 0)))]

/-- The settings have one line, and the next cycle can reach the controller and sees that the pin of
this line turns active, and nothing else. -/
structure Presses (text : String) (p : Panel Simulated.transport) (turns : List Turn)
    (s : Session) : Prop where
  create : Panel.create Simulated.transport { lines := [text] } { carrier := .memory {} } = .ok p
  runs : Session.Runs ⟨p, .echoing 7⟩ pressLine turns s
  canSend : s.panel.client.link.canSend s.world = true
  rises : (lastSample .empty turns).rises (s.panel.sampled s.world) (.line 0) = true
  alone : ∀ other ∈ s.panel.console.setup.registered, other ≠ .line 0 →
    (lastSample .empty turns).rises (s.panel.sampled s.world) other = false ∧
      s.panel.console.due (lastSample .empty turns) (s.panel.sampled s.world)
        s.panel.client.status other = none

/-- What can be computed of this. -/
def pressed (turns : List Turn) (s : Session) : Bool := decide (
  s.panel.client.link.canSend s.world = true ∧
  (lastSample .empty turns).rises (s.panel.sampled s.world) (.line 0) = true ∧
  ∀ other ∈ s.panel.console.setup.registered, other ≠ .line 0 →
    (lastSample .empty turns).rises (s.panel.sampled s.world) other = false ∧
      s.panel.console.due (lastSample .empty turns) (s.panel.sampled s.world)
        s.panel.client.status other = none)

theorem presses_of_plays {text : String} {holds : Session → Bool}
    (h : PlaysWith { lines := [text] } pressLine fun _ turns s => pressed turns s && holds s) :
    ∃ p turns s, Presses text p turns s ∧ holds s = true := by
  obtain ⟨p, turns, s, hcreate, hruns, hholds⟩ := h.runs
  obtain ⟨hpressed, hholds⟩ := Bool.and_eq_true_iff.1 hholds
  obtain ⟨hvalid, hrises, halone⟩ := of_decide_eq_true hpressed
  exact ⟨p, turns, s, ⟨hcreate, hruns, hvalid, hrises, halone⟩, hholds⟩

/-- A line that is not empty is received. -/
theorem manual_lines_pressed :
    ∃ p turns s report p' w', Presses "G0 X1" p turns s ∧
      s.panel.cycle s.world = some (report, p', w') ∧
      linesOf w'.simulator.received = linesOf s.world.simulator.received ++ ["G0 X1"] ∧
      ∃ line : ManualLine, line.text = "G0 X1" ∧
        w'.simulator.received = s.world.simulator.received
          ++ [⟨s.panel.client.serial + 1, .mdiExecute line⟩] := by
  have hplays : PlaysWith { lines := ["G0 X1"] } pressLine fun _ turns s =>
      pressed turns s && (s.panel.cycle s.world).isSome := by
    decide +kernel
  obtain ⟨p, turns, s, hpresses, hends⟩ := presses_of_plays hplays
  obtain ⟨⟨report, p', w'⟩, hcycle⟩ := Option.isSome_iff_exists.1 hends
  obtain ⟨hlines, hall⟩ := (manual_lines (new_of_create hpresses.create).valid).2.2
    hpresses.create hpresses.runs hpresses.canSend 0 "G0 X1" rfl hpresses.rises
  have hreceived := hlines ?_ report p' w' hcycle
  · obtain ⟨line, htext, -, -, hsent⟩ := hall fun other hother hne =>
      (hpresses.alone other hother hne).2
    exact ⟨p, turns, s, report, p', w', hpresses, hcycle, hreceived, line, htext,
      hsent report p' w' hcycle⟩
  · intro other hother hne
    exact (hpresses.alone _ hother fun h => hne (InputPin.line.inj h)).1

/-- **The pin of an empty line does nothing**: the settings are taken, and the command for it is
refused. -/
theorem empty_line_refused :
    ({ lines := [""] } : Settings).fault? = none ∧
    ∃ p turns s report p' w', Presses "" p turns s ∧
      s.panel.cycle s.world = some (report, p', w') ∧ report.dispatched = 0 ∧ report.failed = 1 ∧
      w'.simulator.received = s.world.simulator.received := by
  have hplays : PlaysWith { lines := [""] } pressLine fun _ turns s =>
      pressed turns s && (s.panel.cycle s.world).any fun after => decide (
        after.1.dispatched = 0 ∧ after.1.failed = 1 ∧
        after.2.2.simulator.received = s.world.simulator.received) := by
    decide +kernel
  obtain ⟨p, turns, s, hpresses, hends⟩ := presses_of_plays hplays
  obtain ⟨⟨report, p', w'⟩, hcycle, hafter⟩ := (Option.any_eq_true _ _).1 hends
  obtain ⟨hdispatched, hfailed, hreceived⟩ := of_decide_eq_true hafter
  exact ⟨(new_of_create hpresses.create).valid, p, turns, s, report, p', w', hpresses, hcycle,
    hdispatched, hfailed, hreceived⟩

end Panel
end OperatorPanel
