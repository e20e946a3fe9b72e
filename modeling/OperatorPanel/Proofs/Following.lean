import OperatorPanel.Proofs.Shutdown

/-!
# Following the controller

What a client knows of its controller it has from looking. `Client.Follows` is a history of the two
in small steps, and every step leaves its signs: that the status of the controller changed, and
that the client looked with success, with the status that the controller had then. All that a
session does is such a history (`Session.Runs.led`), whatever the order of its events.

`Follows.upToDate` says what such a history keeps: the client holds the status that was seen last,
and a look that finds nothing new missed nothing. It rests on the versions, which the controller
counts and the status channel remembers; so the count must not come round to zero.
-/

namespace OperatorPanel

/-! ### Signs

The signs of a history say what could be seen from outside, in the order in which it happened. Two
things are read off them: the status that was seen last, and how many versions the controller has
counted.
-/

/-- A sign of what goes on between a client and its controller. -/
inductive Sign where
  /-- The status of the controller changed. -/
  | changed
  /-- The client looked with success, and the controller had this status. -/
  | seen (status : Status)
  deriving DecidableEq

/-- The status that was seen last, or the one before. -/
def lastSeen (before : Status) : List Sign → Status
  | [] => before
  | .changed :: signs => lastSeen before signs
  | .seen status :: signs => lastSeen status signs

/-- How often the status changed. -/
def changes (signs : List Sign) : Nat := signs.count .changed

@[simp] theorem changes_nil : changes [] = 0 := rfl

@[simp] theorem changes_changed (signs : List Sign) :
    changes (.changed :: signs) = changes signs + 1 := by
  simp [changes]

@[simp] theorem changes_seen (status : Status) (signs : List Sign) :
    changes (.seen status :: signs) = changes signs := by
  simp [changes]

namespace Simulator

/-- The sign that a look leaves where the command that is executing ends with it. -/
def ending (c : Simulator) : List Sign := if c.pollsUntilDone = some 0 then [.changed] else []

/-- That a command ends is a change of the status, but nobody has seen it yet. -/
theorem lastSeen_ending (c : Simulator) (before : Status) (signs : List Sign) :
    lastSeen before (c.ending ++ signs) = lastSeen before signs := by
  unfold ending
  split <;> rfl

/-- A look either changes nothing that it shows, or it counts one version more. -/
theorem advance_cases (c : Simulator) :
    c.ending = [] ∧ c.advance.version = c.version ∧ c.advance.status = c.status ∨
      c.ending = [.changed] ∧ c.advance.version = c.touch.version := by
  unfold ending advance
  rcases c.pollsUntilDone with _ | _ | n
  · exact .inl ⟨rfl, rfl, rfl⟩
  · exact .inr ⟨rfl, rfl⟩
  · exact .inl ⟨by simp, rfl, rfl⟩

/-- The four ways of a look at the status. -/
theorem peek_cases (c : Simulator) (seen : UInt64) :
    (∃ reason, c.peek seen = (.fault reason, seen, c)) ∨
      (∃ type, c.peek seen = (.other type, seen, { c with unexpected := none })) ∨
      (c.advance.version = seen ∧ c.peek seen = (.noData, seen, c.advance)) ∨
      (c.advance.version ≠ seen ∧
        c.peek seen = (.status c.advance.status, c.advance.version, c.advance)) := by
  unfold peek
  split
  · exact .inl ⟨_, rfl⟩
  · split
    · exact .inr (.inl ⟨_, rfl⟩)
    · by_cases hsame : c.advance.version = seen
      · exact .inr (.inr (.inl ⟨hsame, if_pos hsame⟩))
      · exact .inr (.inr (.inr ⟨hsame, if_neg hsame⟩))

theorem toNat_version_touch {c : Simulator} (hfew : c.version.toNat + 1 < UInt64.size) :
    c.touch.version.toNat = c.version.toNat + 1 := by
  show (c.version + 1).toNat = _
  rw [UInt64.toNat_add]
  exact Nat.mod_eq_of_lt hfew

end Simulator

/-! ### Histories in small steps

A history ends where it stands, or it begins with one of four steps. Whatever leaves the status and
the client's copy of it alone is a step without a sign (`Apart`), which is most of what goes on.
-/

namespace Client

/-- Client and controller may have been busy with other things, and the status channel may have
been opened or closed; but neither did the status change nor did the client see any. -/
structure Apart (c : Client Simulated.transport) (w : World) (c' : Client Simulated.transport)
    (w' : World) : Prop where
  watch : c'.watch = c.watch
  channel : c'.link.status = c.link.status ∨ c'.link.status = none ∨ c'.link.status = some 0
  status : w'.simulator.status = w.simulator.status
  version : w'.simulator.version = w.simulator.version
  polls : w'.simulator.pollsUntilDone = w.simulator.pollsUntilDone

theorem Apart.refl (c : Client Simulated.transport) (w : World) : Apart c w c w :=
  ⟨rfl, .inl rfl, rfl, rfl, rfl⟩

/-- From `c` in `w` to `c'` in `w'`, with the signs on the way. -/
inductive Follows : Client Simulated.transport → World → List Sign →
    Client Simulated.transport → World → Prop
  | rest (c : Client Simulated.transport) (w : World) : Follows c w [] c w
  | apart {c c₁ c' : Client Simulated.transport} {w w₁ w' : World} {signs : List Sign} :
      Apart c w c₁ w₁ → Follows c₁ w₁ signs c' w' → Follows c w signs c' w'
  /-- A look that succeeds. -/
  | looked {c c₁ c' : Client Simulated.transport} {w w₁ w' : World} {f : Freshness}
      {signs : List Sign} :
      c.refresh w = (.ok f, c₁, w₁) → Follows c₁ w₁ signs c' w' →
      Follows c w (w.simulator.ending ++ .seen w₁.simulator.status :: signs) c' w'
  /-- The controller receives a message. -/
  | received {c c' : Client Simulated.transport} {w w' : World} {signs : List Sign} (m : Message) :
      Follows c { w with simulator := w.simulator.receive m } signs c' w' →
      Follows c w (.changed :: signs) c' w'
  /-- The controller changes its status by itself. -/
  | edited {c c' : Client Simulated.transport} {w w' : World} {signs : List Sign}
      (f : Status → Status) :
      Follows c { w with simulator := w.simulator.update f } signs c' w' →
      Follows c w (.changed :: signs) c' w'

namespace Follows

variable {c c₁ c' : Client Simulated.transport} {w w₁ w' : World} {signs signs' : List Sign}

theorem trans (h : Follows c w signs c₁ w₁) (h' : Follows c₁ w₁ signs' c' w') :
    Follows c w (signs ++ signs') c' w' := by
  induction h with
  | rest => exact h'
  | apart hapart _ ih => exact .apart hapart (ih h')
  | looked hlook _ ih =>
      rw [List.append_assoc, List.cons_append]
      exact .looked hlook (ih h')
  | received m _ ih => exact .received m (ih h')
  | edited f _ ih => exact .edited f (ih h')

theorem ofApart (h : Apart c w c' w') : Follows c w [] c' w' := .apart h (.rest c' w')

end Follows

/-- There is a history between the two. -/
def Led (c : Client Simulated.transport) (w : World) (c' : Client Simulated.transport)
    (w' : World) : Prop :=
  ∃ signs, Follows c w signs c' w'

namespace Led

variable {c c₁ c' : Client Simulated.transport} {w w₁ w' : World}

theorem refl (c : Client Simulated.transport) (w : World) : Led c w c w := ⟨[], .rest c w⟩

theorem trans (h : Led c w c₁ w₁) (h' : Led c₁ w₁ c' w') : Led c w c' w' := by
  obtain ⟨signs, hfollows⟩ := h
  obtain ⟨signs', hfollows'⟩ := h'
  exact ⟨signs ++ signs', hfollows.trans hfollows'⟩

theorem apart (h : Apart c w c' w') : Led c w c' w' := ⟨[], .ofApart h⟩

end Led

/-! ### What the client knows

The copy is right as long as the version that the channel remembers is right. A channel that was
opened a moment ago remembers zero, and zero is no version of a controller that counts from one.
-/

/-- The two ways of a look. One that succeeds lets the channel take over the version, and where
that is new the client takes over the status. -/
inductive Looked (c : Client Simulated.transport) (w : World) : Except PanelError Freshness →
    Client Simulated.transport → World → Prop
  | failed {e : PanelError} {c₁ : Client Simulated.transport} {w₁ : World} :
      Apart c w c₁ w₁ → Looked c w (.error e) c₁ w₁
  | succeeded {f : Freshness} {seen : UInt64} {c₁ : Client Simulated.transport} {w₁ : World} :
      c.link.status = some seen → w₁.simulator = w.simulator.advance →
      c₁.link.status = some w₁.simulator.version →
      c₁.status = (if w₁.simulator.version = seen then c.status else w₁.simulator.status) →
      Looked c w (.ok f) c₁ w₁

theorem looked {c c₁ : Client Simulated.transport} {w w₁ : World}
    {r : Except PanelError Freshness} (h : c.refresh w = (r, c₁, w₁)) : Looked c w r c₁ w₁ := by
  rcases hopen : c.link.status with _ | seen
  · simp only [refresh, Watch.refresh, Link.peek, hopen] at h
    cases h
    exact .failed (.refl c w)
  · simp only [refresh, Watch.refresh, Link.peek, hopen, Simulated.peek] at h
    -- the four ways of a look: two of them fail, and of the other two only the last one brings a
    -- status
    rcases w.simulator.peek_cases seen with ⟨reason, hpeek⟩ | ⟨type, hpeek⟩ | ⟨hsame, hpeek⟩ |
      ⟨hnew, hpeek⟩
    all_goals
      rw [hpeek] at h
      cases h
    · exact .failed ⟨rfl, .inl hopen.symm, rfl, rfl, rfl⟩
    · exact .failed ⟨rfl, .inl hopen.symm, rfl, rfl, rfl⟩
    · exact .succeeded hopen rfl (congrArg some hsame.symm) (if_pos hsame).symm
    · exact .succeeded hopen rfl rfl (if_neg hnew).symm

/-- **The client is up to date** with a status `S`: it holds that status, and if the version that
its channel remembers is the controller's, then the controller still has it. -/
structure UpToDate (S : Status) (c : Client Simulated.transport) (w : World) : Prop where
  status : c.status = S
  counted : 0 < w.simulator.version.toNat
  seen : ∀ seen, c.link.status = some seen → seen.toNat ≤ w.simulator.version.toNat ∧
    (seen = w.simulator.version → w.simulator.status = S)

namespace UpToDate

variable {S : Status} {c c₁ : Client Simulated.transport} {w w₁ : World}

/-- A client whose channel is closed. -/
theorem ofClosed (hclosed : c.link.status = none) (hcounted : 0 < w.simulator.version) :
    UpToDate c.status c w where
  status := rfl
  counted := hcounted
  seen seen hseen := by
    rw [hclosed] at hseen
    cases hseen

/-- What leaves the status alone leaves the client up to date, also when the channel is opened anew.
-/
theorem apart (h : UpToDate S c w) (hapart : Apart c w c₁ w₁) : UpToDate S c₁ w₁ where
  status := by
    rw [← h.status]
    exact congrArg Watch.status hapart.watch
  counted := by
    rw [hapart.version]
    exact h.counted
  seen seen hseen := by
    rw [hapart.version, hapart.status]
    rcases hapart.channel with hsame | hclosed | hopened
    · exact h.seen seen (hsame ▸ hseen)
    · rw [hclosed] at hseen
      cases hseen
    · -- a channel that was just opened remembers zero, which is no version
      rw [hopened] at hseen
      cases hseen
      have hcounted := h.counted
      refine ⟨Nat.zero_le _, fun hzero => ?_⟩
      rw [← hzero] at hcounted
      exact absurd hcounted (by decide)

/-- A new version is none that was seen. -/
theorem changed (h : UpToDate S c w) (hfew : w.simulator.version.toNat + 1 < UInt64.size)
    (hversion : w₁.simulator.version = w.simulator.touch.version) : UpToDate S c w₁ where
  status := h.status
  counted := by
    rw [hversion, Simulator.toNat_version_touch hfew]
    omega
  seen seen hseen := by
    -- every version that was seen is behind the new one, which has not come round
    have hle := (h.seen seen hseen).1
    rw [hversion, Simulator.toNat_version_touch hfew]
    refine ⟨by omega, fun hsame => ?_⟩
    have hnat := congrArg UInt64.toNat hsame
    rw [Simulator.toNat_version_touch hfew] at hnat
    omega

/-- After a look that succeeds the client is up to date with what the controller has now. -/
theorem looked (h : UpToDate S c w) {f : Freshness} (hlook : c.refresh w = (.ok f, c₁, w₁))
    (hfew : w.simulator.version.toNat + changes w.simulator.ending < UInt64.size) :
    UpToDate w₁.simulator.status c₁ w₁ ∧
      w₁.simulator.version.toNat
        = w.simulator.version.toNat + changes w.simulator.ending := by
  obtain _ | ⟨hopen, hsimulator, hchannel, hstatus⟩ := Client.looked hlook
  obtain ⟨hle, hcurrent⟩ := h.seen _ hopen
  have hversion : w₁.simulator.version.toNat
      = w.simulator.version.toNat + changes w.simulator.ending := by
    rw [hsimulator]
    rcases w.simulator.advance_cases with ⟨hending, hsame, _⟩ | ⟨hending, hnext⟩
    · rw [hending, hsame, changes_nil, Nat.add_zero]
    · rw [hending, changes_changed, changes_nil] at hfew ⊢
      rw [hnext, Simulator.toNat_version_touch hfew]
  have hcounted := h.counted
  refine ⟨⟨?_, by omega, ?_⟩, hversion⟩
  · rw [hstatus]
    split
    · next hsame =>
        -- nothing new, so no command has ended with this look, and nothing has changed before
        rcases w.simulator.advance_cases with ⟨hending, hkept, hkeeps⟩ | ⟨hending, hnext⟩
        · rw [h.status, hsimulator, hkeeps]
          refine (hcurrent ?_).symm
          rw [← hsame, hsimulator, hkept]
        · rw [hending, changes_changed, changes_nil, hsame] at hversion
          omega
    · rfl
  · intro seen' hseen'
    rw [hchannel] at hseen'
    cases hseen'
    exact ⟨Nat.le_refl _, fun _ => rfl⟩

end UpToDate

/-- **A client stays up to date**: through every history it holds the status that was seen last. -/
theorem Follows.upToDate {S : Status} {c c' : Client Simulated.transport} {w w' : World}
    {signs : List Sign} (h : Follows c w signs c' w') (hS : UpToDate S c w)
    (hfew : w.simulator.version.toNat + changes signs < UInt64.size) :
    UpToDate (lastSeen S signs) c' w' := by
  -- the induction is on the history; each step moves the status that was seen last and spends its
  -- share of the versions that are left
  induction h generalizing S with
  | rest => exact hS
  | apart hapart _ ih =>
      rw [← hapart.version] at hfew
      exact ih (hS.apart hapart) hfew
  | @looked c c₁ c' w w₁ w' f signs hlook _ ih =>
      have hsum : changes (w.simulator.ending ++ .seen w₁.simulator.status :: signs)
          = changes w.simulator.ending + changes signs := by
        rw [changes, List.count_append]
        exact congrArg _ (changes_seen _ signs)
      rw [hsum] at hfew
      obtain ⟨hlooked, hversion⟩ := hS.looked hlook (by omega)
      rw [Simulator.lastSeen_ending]
      exact ih hlooked (by omega)
  | @received c c' w w' signs m _ ih =>
      rw [changes_changed] at hfew
      have hversion : (w.simulator.receive m).version.toNat = w.simulator.version.toNat + 1 :=
        Simulator.toNat_version_touch (c := w.simulator) (by omega)
      refine ih (hS.changed (by omega) rfl) ?_
      rw [hversion]
      omega
  | @edited c c' w w' signs f _ ih =>
      rw [changes_changed] at hfew
      have hversion : (w.simulator.update f).version.toNat = w.simulator.version.toNat + 1 :=
        Simulator.toNat_version_touch (c := w.simulator) (by omega)
      refine ih (hS.changed (by omega) rfl) ?_
      rw [hversion]
      omega

end Client

/-! ### All that a client does

Each operation of a client is such a history: a wait consists of looks and pauses, and an attempt of
a message and a wait.
-/

theorem Simulator.takeNotice_eq (c : Simulator) :
    c.takeNotice.2 = { c with notices := c.notices.tail } := by
  unfold takeNotice
  rcases hnotices : c.notices with _ | ⟨notice, notices⟩
  · show c = { c with notices := [] }
    rw [← hnotices]
  · rfl

/-- A poll takes notices from the controller, and nothing else. -/
theorem Link.simulator_poll (l : Link Simulated.transport) (w : World) :
    ∃ notices, (l.poll w).2.2.simulator = { w.simulator with notices } := by
  unfold poll
  split
  · exact ⟨w.simulator.notices, rfl⟩
  · exact ⟨w.simulator.notices.tail, w.simulator.takeNotice_eq⟩

namespace Client

/-- Whatever happens away from the controller and its status. -/
theorem Apart.ofSimulator {c c' : Client Simulated.transport} {w w' : World}
    (hwatch : c'.watch = c.watch) (hchannel : c'.link.status = c.link.status)
    (hsimulator : w'.simulator = w.simulator) : Apart c w c' w' := by
  refine ⟨hwatch, .inl hchannel, ?_, ?_, ?_⟩ <;> rw [hsimulator]

theorem Led.refresh {c c₁ : Client Simulated.transport} {w w₁ : World}
    {r : Except PanelError Freshness} (h : c.refresh w = (r, c₁, w₁)) : Led c w c₁ w₁ := by
  cases hr : r with
  | error e =>
      rw [hr] at h
      cases looked h with
      | failed hapart => exact .apart hapart
  | ok f =>
      rw [hr] at h
      exact ⟨_, .looked h (.rest c₁ w₁)⟩

/-- A wait of any kind, by the invariant that holds for all of them. -/
theorem Waits.led {c c' : Client Simulated.transport} {w w' : World} (h : Waits c w c' w') :
    Led c w c' w' := by
  refine h.invariant (P := fun c₁ w₁ => Led c w c₁ w₁) ?_ ?_ ?_ (.refl c w)
  · intro c₁ w₁ hled
    exact hled.trans (.refresh rfl)
  · intro c₁ w₁ hled
    exact hled.trans (.apart (.ofSimulator rfl rfl rfl))
  · intro c₁ w₁ t hled
    exact hled.trans (.apart (.ofSimulator rfl rfl rfl))

theorem led_attempt {c c' : Client Simulated.transport} {command : Command} {policy : WaitPolicy}
    {w w' : World} {a : Attempt} (h : c.attempt command policy w = some (a, c', w')) :
    Led c w c' w' := by
  cases attempted h with
  | refused _ => exact .refl c w
  | unsent _ _ => exact .apart (.ofSimulator rfl rfl rfl)
  | sent _ _ hwaits _ => -- the serial is spent, then the message arrives, then comes the wait
      have hspent : Led c w { c with serial := c.serial + 1 } w := .apart (.ofSimulator rfl rfl rfl)
      exact hspent.trans (.trans ⟨_, .received _ (.rest _ _)⟩ hwaits.led)

theorem led_attemptRun {c c' : Client Simulated.transport} {line : Int32} {w w' : World}
    {a : Attempt} (h : c.attemptRun line w = some (a, c', w')) : Led c w c' w' := by
  have hlook : Led c w (c.refresh w).2.1 (c.refresh w).2.2 := .refresh rfl
  unfold attemptRun at h
  dsimp only at h
  split at h
  · exact hlook.trans (led_attempt h)
  · cases h
    exact hlook

theorem apart_poll (c : Client Simulated.transport) (w : World) :
    Apart c w (c.poll w).2.1 (c.poll w).2.2 := by
  obtain ⟨notices, hpolled⟩ := c.link.simulator_poll w
  have hchannel : (c.poll w).2.1.link.status = c.link.status := by
    show (c.link.poll w).2.1.status = c.link.status
    unfold Link.poll
    split <;> rfl
  have hsimulator : (c.poll w).2.2.simulator = { w.simulator with notices } := hpolled
  refine ⟨rfl, .inl hchannel, ?_, ?_, ?_⟩ <;> rw [hsimulator]

end Client

theorem Action.led_attempt {action : Action} {c c' : Client Simulated.transport} {w w' : World}
    {a : Attempt} (h : action.attempt c w = some (a, c', w')) : c.Led w c' w' := by
  cases action with
  | send command => exact Client.led_attempt h
  | startJog axis command => exact Client.led_attempt h
  | runProgram => exact Client.led_attemptRun h

/-! ### All that a cycle does

A cycle puts attempts, polls and a look behind each other, and the lines of the journal between them
are of no concern to the controller.
-/

namespace CycleState

theorem Performs.led {s s' : CycleState Simulated.transport}
    {actions : List (InputPin × Action)} {made : List (InputPin × Attempt)}
    (h : s.Performs actions made s') : s.client.Led s.world s'.client s'.world := by
  induction h with
  | nil s => exact .refl _ _
  | @cons s s' pin action a client world actions made hattempt _ ih =>
      -- what is written in the journal about the attempt stays here
      have hafter : client.Led world (s.after pin action a client world).client
          (s.after pin action a client world).world := by
        rw [client_after]
        exact .apart (.ofSimulator rfl rfl (s.simulator_after pin action a client world))
      exact (Action.led_attempt hattempt).trans (hafter.trans ih)

/-- What polls and lines in the journal keep, passing on notices keeps. -/
theorem passNotices_invariant {P : Client Simulated.transport → World → Prop}
    (poll : ∀ c w, P c w → P (c.poll w).2.1 (c.poll w).2.2)
    (note : ∀ c w w', w'.simulator = w.simulator → P c w → P c w')
    {s : CycleState Simulated.transport} (n : Nat) (hP : P s.client s.world) :
    P (s.passNotices n).client (s.passNotices n).world := by
  -- by induction on the notices that may still be passed on
  induction n generalizing s with
  | zero => exact hP
  | succ n ih =>
      have hpolled := poll _ _ hP
      unfold passNotices
      split
      · next client world htaken =>
          rw [htaken] at hpolled
          exact ih (note client world _ rfl hpolled)
      · next htaken =>
          rw [htaken] at hpolled
          exact hpolled
      · next htaken =>
          rw [htaken] at hpolled
          exact hpolled

theorem led_passNotices (s : CycleState Simulated.transport) (n : Nat) :
    s.client.Led s.world (s.passNotices n).client (s.passNotices n).world := by
  apply passNotices_invariant (P := fun c w => s.client.Led s.world c w)
  · intro c w hled
    exact hled.trans (.apart (c.apart_poll w))
  · intro c w w' hnoted hled
    exact hled.trans (.apart (.ofSimulator rfl rfl hnoted))
  · exact .refl _ _

/-- Refreshing is looking, and a line in the journal at most. -/
theorem refresh_eq {s : CycleState Simulated.transport} {r : Except PanelError Freshness}
    {client : Client Simulated.transport} {world : World}
    (hlook : s.client.refresh s.world = (r, client, world)) :
    s.refresh.client = client ∧ s.refresh.world.simulator = world.simulator ∧
      (s.refresh.report.refreshFailed = false → ∃ f, r = .ok f) := by
  unfold refresh
  rw [hlook]
  cases r with
  | error e =>
      refine ⟨rfl, ?_, fun hfailed => by cases hfailed⟩
      dsimp only
      split <;> rfl
  | ok f =>
      refine ⟨rfl, ?_, fun _ => ⟨f, rfl⟩⟩
      dsimp only
      split <;> rfl

theorem led_refresh (s : CycleState Simulated.transport) :
    s.client.Led s.world s.refresh.client s.refresh.world := by
  rcases hlook : s.client.refresh s.world with ⟨r, client, world⟩
  obtain ⟨hclient, hsimulator, _⟩ := refresh_eq hlook
  rw [hclient]
  exact .trans (.refresh hlook) (.apart (.ofSimulator rfl rfl hsimulator))

end CycleState

namespace Panel

variable {p p' : Panel Simulated.transport} {w w' : World}

theorem Cycled.led {report : CycleReport} {acted tidied : CycleState Simulated.transport}
    (h : p.Cycled w report p' w' acted tidied) : p.client.Led w p'.client w' := by
  have hsampled : p.client.Led w (p.scanned w).client (p.scanned w).world :=
    .apart (.ofSimulator rfl rfl (p.simulator_scanned w))
  have htidied := (acted.led_passNotices maxNoticesPerCycle).trans (CycleState.led_refresh _)
  rw [← h.tidied_eq, ← h.client] at htidied
  have hended : p'.client.Led tidied.world p'.client w' :=
    .apart (.ofSimulator rfl rfl h.simulator)
  exact hsampled.trans (h.performs.led.trans (htidied.trans hended))

theorem led_cycle {report : CycleReport} (h : p.cycle w = some (report, p', w')) :
    p.client.Led w p'.client w' := by
  obtain ⟨acted, tidied, hcycled⟩ := Panel.cycled h
  exact hcycled.led

end Panel

/-! ### Startups and shutdowns

Connecting and closing change the channel and not the status, so both are without signs. The handing
back of the baseline is a message like any other.
-/

namespace Simulator.Reached

theorem shown {c c' : Simulator} (h : c.Reached c') :
    c'.status = c.status ∧ c'.version = c.version ∧ c'.pollsUntilDone = c.pollsUntilDone := by
  rw [h]
  exact ⟨rfl, rfl, rfl⟩

end Simulator.Reached

/-- Connecting may open the status channel; where it fails, it closes what it has opened. -/
theorem Link.connect_channel (l : Link Simulated.transport) (w : World) :
    w.simulator.Reached (l.connect w).2.2.simulator ∧
      ((l.connect w).2.1.status = l.status ∨ (l.connect w).2.1.status = none ∨
        (l.connect w).2.1.status = some 0) := by
  unfold connect
  split
  · exact ⟨.refl _, .inl rfl⟩
  · -- only the attempts between silence and its end reach the controller
    have hsilenced : (if l.silences then w.silence else w).simulator = w.simulator := by
      split <;> rfl
    have htried := attempt_tried { l with state := .connecting } l.retry
      (if l.silences then w.silence else w) 0 .zero
    dsimp only
    generalize attempt { l with state := .connecting } l.retry
      (if l.silences then w.silence else w) 0 .zero = tried at htried ⊢
    obtain ⟨e?, attempts, l₁, w₁⟩ := tried
    have hreached := htried.reached
    rw [hsilenced] at hreached
    have hrestored : (if l₁.silences then w₁.restore else w₁).simulator = w₁.simulator := by
      split <;> rfl
    dsimp only at hreached ⊢
    rw [← hrestored] at hreached
    -- after a success the channel is the one that was open, or a new one
    cases e? with
    | none => exact ⟨hreached, htried.grows.status.imp_right .inr⟩
    | some e =>
        rw [release_simulated]
        exact ⟨hreached, .inr (.inl rfl)⟩

/-- A link that is shut remembers no version, unless it was shut before and stays as it is. -/
theorem Link.status_shut (l : Link Simulated.transport) :
    l.shut.status = l.status ∨ l.shut.status = none := by
  unfold shut
  split
  · exact .inl rfl
  · exact .inr rfl

namespace Client

theorem apart_connect (c : Client Simulated.transport) (w : World) :
    Apart c w (c.connect w).2.1 (c.connect w).2.2 := by
  obtain ⟨hreached, hchannel⟩ := c.link.connect_channel w
  obtain ⟨hstatus, hversion, hpolls⟩ := hreached.shown
  exact ⟨rfl, hchannel, hstatus, hversion, hpolls⟩

theorem apart_close (c : Client Simulated.transport) (w : World) :
    Apart c w (c.close w).1 (c.close w).2 := by
  obtain ⟨hclient, hsimulator⟩ := c.close_simulated w
  rw [hclient]
  refine ⟨rfl, c.link.status_shut.imp_right .inl, ?_, ?_, ?_⟩ <;> rw [hsimulator]

end Client

namespace Panel

/-- Whatever becomes of a startup. -/
theorem led_startup (p : Panel Simulated.transport) (w : World) :
    p.client.Led w (p.startup w).2.1.client (p.startup w).2.2 := by
  apply startup_invariant (P := fun c w' => p.client.Led w c w')
  · intro c v hled
    exact hled.trans (.apart (c.apart_connect v))
  · intro c v hled
    exact hled.trans (.refresh rfl)
  · intro c v hled
    exact hled.trans (.apart (c.apart_close v))
  · intro c v hled c' v' hlink hwatch _ hsimulator
    exact hled.trans (.apart (.ofSimulator hwatch (by rw [hlink]) hsimulator))
  · exact .refl _ _

/-- No startup sends anything, nor does it change the serial that is echoed. -/
theorem silent_startup (p : Panel Simulated.transport) (w : World) :
    (p.startup w).2.2.simulator.received = w.simulator.received ∧
      (p.startup w).2.2.simulator.status.echo = w.simulator.status.echo := by
  apply startup_invariant (P := fun _ w' => w'.simulator.received = w.simulator.received ∧
    w'.simulator.status.echo = w.simulator.status.echo)
  · -- the steps of a startup that could reach the controller are connecting, looking and closing
    rintro c v ⟨hreceived, hecho⟩
    have hreached := (c.link.connect_channel v).1
    exact ⟨hreached.received.trans hreceived, hreached.echo.trans hecho⟩
  · rintro c v ⟨hreceived, hecho⟩
    have hlooked := (c.quiet_refresh v).simulator
    exact ⟨hlooked.received.trans hreceived, hlooked.echo.trans hecho⟩
  · intro c v hsilent
    rw [(c.close_simulated v).2]
    exact hsilent
  · intro c v hsilent c' v' _ _ _ hsimulator
    rw [hsimulator]
    exact hsilent
  · exact ⟨rfl, rfl⟩

theorem led_shutdown {p p' : Panel Simulated.transport} {w w' : World}
    (h : p.shutdown w = some (p', w')) : p.client.Led w p'.client w' := by
  obtain ⟨_, rfl, rfl⟩ | ⟨settled, settledWorld, hshut⟩ := shutdown_eq_some h
  · exact .refl _ _
  · -- the last message of the panel is one that the controller may receive
    have hhanded : settled.Led settledWorld settled
        { settledWorld with simulator := w'.simulator } := by
      rw [hshut.simulator]
      cases p.baseline with
      | none => exact .refl _ _
      | some b =>
          show settled.Led settledWorld settled
            { settledWorld with simulator := handedBack b settled.link settledWorld }
          unfold handedBack
          split
          · exact ⟨_, .received _ (.rest _ _)⟩
          · exact .refl _ _
    refine hshut.waits.led.trans (hhanded.trans (.apart ?_))
    rw [hshut.panel]
    exact ⟨rfl, settled.link.status_shut.imp_right .inl, rfl, rfl, rfl⟩

end Panel

/-! ### All that a session does

Each work and each event ends where its operation does; the history of a session is put together
from these.
-/

namespace Session

theorem led_does {s s' : Session} {work : Work} {turn : Turn} (h : s.does work = some (turn, s')) :
    s.panel.client.Led s.world s'.panel.client s'.world := by
  cases work with
  | script script =>
      cases h
      cases script with
      -- an edit is the only script that changes the status
      | edit f => exact ⟨_, .edited f (.rest _ _)⟩
      | _ => exact .apart ⟨rfl, .inl rfl, rfl, rfl, rfl⟩
  | pins bus =>
      cases h
      exact .refl _ _
  | files directory =>
      cases h
      exact .apart (.ofSimulator rfl rfl rfl)
  | pause t =>
      cases h
      exact .apart (.ofSimulator rfl rfl rfl)
  | cycle =>
      obtain ⟨report, panel, world, hcycle, rfl, rfl⟩ := cycle_of_does h
      exact Panel.led_cycle hcycle
  | dispatch command policy =>
      obtain ⟨a, client, world, hattempt, rfl, rfl⟩ := attempt_of_does h
      exact Client.led_attempt hattempt
  | runProgram line =>
      obtain ⟨a, client, world, hattempt, rfl, rfl⟩ := attemptRun_of_does h
      exact Client.led_attemptRun hattempt
  | refresh =>
      have hlook := Client.Led.refresh (c := s.panel.client) (w := s.world) rfl
      cases h
      exact hlook
  | poll =>
      have hpoll := s.panel.client.apart_poll s.world
      cases h
      exact .apart hpoll

theorem led_next {s s' : Session} {event : Event} {turn : Turn}
    (h : s.next event = some (turn, s')) :
    s.panel.client.Led s.world s'.panel.client s'.world := by
  cases event with
  | startup =>
      have hstartup := s.panel.led_startup s.world
      cases h
      exact hstartup
  | work work => exact led_does h
  | shutdown =>
      obtain ⟨panel, world, hshutdown, rfl, rfl⟩ := shutdown_of_next h
      exact Panel.led_shutdown hshutdown

/-- **A session is a history of client and controller.** -/
theorem Runs.led {s s' : Session} {events : List Event} {turns : List Turn}
    (h : s.Runs events turns s') : s.panel.client.Led s.world s'.panel.client s'.world := by
  induction h with
  | nil s => exact .refl _ _
  | cons hnext _ ih => exact (led_next hnext).trans ih

end Session
end OperatorPanel
