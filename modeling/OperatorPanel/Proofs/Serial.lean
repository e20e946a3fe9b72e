import OperatorPanel.Proofs.Session
import OperatorPanel.Proofs.Startup

/-!
# The serials of a session

Of a run of attempts, each is numbered by its place among those that passed their checks
(`Attempt.numbered`). A client keeps its books right when its serial has come so far, when the
controller has received the messages that were written under these numbers, and when each result
is the number of its attempt (`Accounts`). Books of runs that follow one another add up, so they
are right after any work at all, as soon as one attempt keeps them right.

The main result is `works_account`: from a startup on, the serial counts the attempts that passed
their checks, from the serial that the controller echoed.
-/

namespace OperatorPanel

/-! ### Numbers

The number of an attempt depends on those before it: only an attempt that passes its checks takes a
number, whether it is written then or not. So numbers are counted along the list, and two lists that
follow one another are numbered as one.
-/

namespace Attempt

/-- The serial after an attempt: only what passed its checks spends one. -/
def serialAfter (n : Int32) (a : Attempt) : Int32 := if a.passed then n + 1 else n

/-- The serial after some attempts. -/
def serialAfterAll (n : Int32) (as : List Attempt) : Int32 := as.foldl serialAfter n

/-- Attempts with the serial that each one has. -/
def numbered (n : Int32) : List Attempt → List (Int32 × Attempt)
  | [] => []
  | a :: as => (serialAfter n a, a) :: numbered (serialAfter n a) as

/-- The message of a numbered attempt, if it was written. -/
def message? (a : Int32 × Attempt) : Option Message :=
  if a.2.written then some { serial := a.1, command := a.2.command } else none

/-- The messages that some attempts have sent, in order. -/
def messages (n : Int32) (as : List Attempt) : List Message := (numbered n as).filterMap message?

/-- The second list is numbered where the first one has ended. -/
theorem numbered_append (n : Int32) (as bs : List Attempt) :
    numbered n (as ++ bs) = numbered n as ++ numbered (serialAfterAll n as) bs := by
  induction as generalizing n with
  | nil => rfl
  | cons a as ih =>
      rw [List.cons_append, numbered, ih (serialAfter n a)]
      rfl

/-- So it is with their messages. -/
theorem messages_append (n : Int32) (as bs : List Attempt) :
    messages n (as ++ bs) = messages n as ++ messages (serialAfterAll n as) bs := by
  rw [messages, numbered_append, List.filterMap_append]
  rfl

/-- Serials are counted modulo 2 to the 32nd. -/
theorem serialAfterAll_eq (n : Int32) (as : List Attempt) :
    serialAfterAll n as = n + Int32.ofNat (as.countP (·.passed)) := by
  induction as generalizing n with
  | nil => exact (Int32.add_zero n).symm
  | cons a as ih =>
      show serialAfterAll (serialAfter n a) as = _
      rw [ih, List.countP_cons]
      cases hpassed : a.passed with
      | false => simp [serialAfter, hpassed]
      | true =>
          simp only [serialAfter, hpassed, if_true]
          rw [Int32.ofNat_add, Int32.add_assoc, Int32.add_comm 1]
          rfl

end Attempt

/-! ### Books

Books are kept from one point of a history to another. They compose, which is all that an induction
over a history needs, and the empty books and those of one attempt are where it starts.
-/

open Attempt

/-- **The books are right**: between the serials `n` and `n'` and the logs `before` and `after`
lie these attempts. -/
structure Accounts (n : Int32) (before : List Message) (attempts : List Attempt) (n' : Int32)
    (after : List Message) : Prop where
  /-- One serial is spent on each attempt that passed its checks. -/
  serial : n' = n + Int32.ofNat (attempts.countP (·.passed))
  /-- The controller received what was written, in order and under the serials of the attempts. -/
  received : after = before ++ messages n attempts
  /-- Nothing is written that did not pass its checks. -/
  written : ∀ a ∈ attempts, a.written = true → a.passed = true
  /-- A result is the serial of its attempt, and that attempt was written. -/
  results : ∀ k a, (k, a) ∈ numbered n attempts → ∀ m, a.result = .ok m →
    m = k ∧ a.written = true

namespace Accounts

/-- Where nothing is tried, nothing changes. -/
theorem nil {n n' : Int32} {before after : List Message} (hserial : n' = n)
    (hlog : after = before) : Accounts n before [] n' after where
  serial := hserial.trans (Int32.add_zero n).symm
  received := hlog.trans (List.append_nil before).symm
  written a ha := by cases ha
  results k a ha := by cases ha

/-- The books of one attempt. -/
theorem single {n n' : Int32} {before after : List Message} {a : Attempt}
    (hserial : n' = serialAfter n a) (hlog : after = before ++ messages n [a])
    (hwritten : a.written = true → a.passed = true)
    (hresult : ∀ m, a.result = .ok m → m = serialAfter n a ∧ a.written = true) :
    Accounts n before [a] n' after where
  serial := by rw [hserial, ← serialAfterAll_eq]; rfl
  received := hlog
  written b hb := by
    rw [List.mem_singleton.1 hb]
    exact hwritten
  results k b hb := by
    cases List.mem_singleton.1 hb
    exact hresult

/-- **Books that follow one another add up.** -/
theorem append {n n₁ n' : Int32} {before log after : List Message} {as bs : List Attempt}
    (h : Accounts n before as n₁ log) (h' : Accounts n₁ log bs n' after) :
    Accounts n before (as ++ bs) n' after := by
  -- the second run is numbered from where the first has come
  have hn₁ : n₁ = serialAfterAll n as := by rw [h.serial, serialAfterAll_eq]
  refine ⟨?_, ?_, ?_, ?_⟩
  · rw [h'.serial, hn₁, ← serialAfterAll_eq, ← serialAfterAll_eq]
    exact List.foldl_append.symm
  · rw [h'.received, h.received, messages_append, hn₁, List.append_assoc]
  · intro a ha
    rcases List.mem_append.1 ha with ha | ha
    · exact h.written a ha
    · exact h'.written a ha
  · intro k a ha
    rw [numbered_append, ← hn₁] at ha
    rcases List.mem_append.1 ha with ha | ha
    · exact h.results k a ha
    · exact h'.results k a ha

end Accounts

/-! ### Every attempt keeps them right

An attempt goes one of three ways, and the books of each are read off. After a message comes a wait,
which only looks; so what the client counts and what the controller has received stay as the message
has left them.
-/

namespace Client

/-- What happened between a client in its world and the client afterwards. -/
def Books (c : Client Simulated.transport) (w : World) (attempts : List Attempt)
    (c' : Client Simulated.transport) (w' : World) : Prop :=
  Accounts c.serial w.simulator.received attempts c'.serial w'.simulator.received

/-- **One attempt keeps the books right**, whether it is refused, not sent, or sent. -/
theorem books_attempt {c c' : Client Simulated.transport} {command : Command}
    {policy : WaitPolicy} {w w' : World} {a : Attempt}
    (h : c.attempt command policy w = some (a, c', w')) : c.Books w [a] c' w' := by
  cases attempted h with
  | refused _ =>
      refine .single rfl ?_ (fun hwritten => hwritten) ?_
      · exact (List.append_nil _).symm
      · intro m hm
        cases hm
  | unsent _ _ =>
      refine .single rfl ?_ (fun _ => rfl) ?_
      · exact (List.append_nil _).symm
      · intro m hm
        cases hm
  | sent _ _ hwaits hresult => -- the wait after the message neither spends a serial nor sends
      refine .single ?_ ?_ (fun _ => rfl) ?_
      · exact hwaits.keeps.serial
      · exact hwaits.quiet.simulator.received
      · intro m hm
        exact ⟨hresult m hm, rfl⟩

/-- A program run looks at the status, and makes its attempt if a program is open. -/
theorem books_attemptRun {c c' : Client Simulated.transport} {line : Int32} {w w' : World}
    {a : Attempt} (h : c.attemptRun line w = some (a, c', w')) : c.Books w [a] c' w' := by
  -- the look that comes first leaves the books as they are
  have hserial := (c.keeps_refresh w).serial
  have hreceived := (c.quiet_refresh w).simulator.received
  unfold attemptRun at h
  dsimp only at h
  split at h
  · have hbooks := books_attempt h
    rw [Books, hserial, hreceived] at hbooks
    exact hbooks
  · cases h
    refine .single hserial ?_ (fun hwritten => hwritten) ?_
    · exact hreceived.trans (List.append_nil _).symm
    · intro m hm
      cases hm

end Client

/-- So does the action of a pin. -/
theorem Action.books_attempt {action : Action} {c c' : Client Simulated.transport} {w w' : World}
    {a : Attempt} (h : action.attempt c w = some (a, c', w')) : c.Books w [a] c' w' := by
  cases action with
  | send command => exact Client.books_attempt h
  | startJog axis command => exact Client.books_attempt h
  | runProgram => exact Client.books_attemptRun h

/-- The actions of a scan, one after the other. -/
theorem CycleState.Performs.books {s s' : CycleState Simulated.transport}
    {actions : List (InputPin × Action)} {made : List (InputPin × Attempt)}
    (h : s.Performs actions made s') :
    s.client.Books s.world (made.map (·.2)) s'.client s'.world := by
  induction h with
  | nil s => exact .nil rfl rfl
  | cons hattempt _ ih =>
      have hfirst := Action.books_attempt hattempt
      rw [Client.Books, client_after, simulator_after] at ih
      exact hfirst.append ih

/-! ### Every piece of work keeps them right

A cycle makes several attempts, and what it does besides sends nothing. The other kinds of work make
one attempt or none.
-/

/-- **A cycle keeps the books right**: those of its attempts, with nothing before and after them. -/
theorem Panel.books_cycle {p p' : Panel Simulated.transport} {w w' : World} {report : CycleReport}
    (h : p.cycle w = some (report, p', w')) :
    p.client.Books w ((p.attempts w).map (·.2)) p'.client w' := by
  obtain ⟨acted, tidied, hcycled⟩ := Panel.cycled h
  have hbooks := hcycled.performs.books
  rw [Client.Books, Panel.simulator_scanned] at hbooks
  rw [Client.Books, hcycled.client, hcycled.simulator, hcycled.tidies.serial,
    hcycled.tidies.received]
  exact hbooks

namespace Session

/-- The books of a session. -/
def Books (s : Session) (attempts : List Attempt) (s' : Session) : Prop :=
  s.panel.client.Books s.world attempts s'.panel.client s'.world

/-- **So does every piece of work.** -/
theorem books_does {s s' : Session} {work : Work} {turn : Turn}
    (h : s.does work = some (turn, s')) : s.Books turn.attempts s' := by
  cases did h with
  | around hreceived => exact .nil rfl hreceived
  | looked _ hserial hreceived => exact .nil hserial hreceived
  | tried hattempt => exact Client.books_attempt hattempt
  | ran hattempt => exact Client.books_attemptRun hattempt
  | cycled hcycle =>
      dsimp only [Books]
      exact Panel.books_cycle hcycle

/-- All work keeps the books right. -/
theorem Works.books {s s' : Session} {works : List Work} {turns : List Turn}
    (h : Works s works turns s') : s.Books (turns.flatMap (·.attempts)) s' := by
  induction works generalizing s turns with
  | nil =>
      cases h
      exact .nil rfl rfl
  | cons work works ih =>
      cases h with
      | cons hnext hrest =>
          rw [List.flatMap_cons]
          exact (books_does hnext).append (ih hrest)

end Session

/-! ### From the startup on

A startup sends nothing, and takes its first number from the echo of the status that it has looked
at. From there the books of the work are added to a log that is still the one before the startup.
-/

/-- **The discipline of serials**: a startup takes the echoed serial as its baseline and sends
nothing, and from there the books are right after any work. Only where the count of versions has
just come round to zero is there no status to take the serial from. -/
theorem Panel.works_account {p p₁ : Panel Simulated.transport} {w w₁ : World}
    (hstart : p.startup w = (.ok (), p₁, w₁)) :
    ∃ b, p₁.baseline = some b ∧ p₁.client.serial = b ∧
      (p.client.link.status = none →
        b = if w.simulator.advance.version = 0 then p.client.status.echo
          else w.simulator.status.echo) ∧
      w₁.simulator.received = w.simulator.received ∧
      ∀ (works : List Work) (turns : List Turn) (s : Session),
        Session.Works ⟨p₁, w₁⟩ works turns s →
        Accounts b w.simulator.received (turns.flatMap (·.attempts)) s.panel.client.serial
          s.world.simulator.received := by
  obtain ⟨b, hstarted⟩ := Panel.started hstart
  refine ⟨b, hstarted.baseline, hstarted.serial, ?_, hstarted.received, ?_⟩
  · intro hclosed
    refine hstarted.echo ?_
    intro seen hseen
    rw [hclosed] at hseen
    cases hseen
  · intro works turns s hworks
    have hbooks := hworks.books
    rw [Session.Books, Client.Books, hstarted.serial, hstarted.received] at hbooks
    exact hbooks

/-- With the default settings, at a controller that echoes 7. -/
theorem Panel.works_account_default :
    ∃ p p₁ w₁, Panel.create Simulated.transport {} { carrier := .memory {} } = .ok p ∧
      p.startup (.echoing 7) = (.ok (), p₁, w₁) ∧ p₁.client.serial = 7 ∧
      ∀ (works : List Work) (turns : List Turn) (s : Session),
        Session.Works ⟨p₁, w₁⟩ works turns s →
        Accounts 7 [] (turns.flatMap (·.attempts)) s.panel.client.serial
          s.world.simulator.received := by
  obtain ⟨p, p₁, w₁, hcreate, hclosed, hstart⟩ := Panel.default_starts
  obtain ⟨b, _, hserial, hecho, _, haccounts⟩ := Panel.works_account hstart
  have hb : b = 7 := (hecho hclosed).trans (if_neg (by decide))
  subst hb
  exact ⟨p, p₁, w₁, hcreate, hstart, hserial, haccounts⟩

end OperatorPanel
