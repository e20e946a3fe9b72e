import OperatorPanel.Channel.Simulated
import OperatorPanel.Client

/-!
# Waiting

A client that waits does three things only: it looks at the status, it looks at the clock, and it
sleeps. `Waits` is a run of such steps, and every wait of a client is one, whichever way it ends
(`waitBy_waits`). Hence

* `Waits.invariant`: what holds through each of the three steps holds through every wait;
* `Waits.keeps`: a wait leaves the serial and all but the status channel alone;
* `Waits.quiet`: over the simulated controller, a wait sends nothing and acknowledges nothing.
-/

namespace OperatorPanel

/-! ### Runs of looks -/

namespace Client

variable {T : Transport}

/-- From `c` in `w` the client gets to `c'` in `w'` by looking at the status, looking at the clock,
and sleeping. -/
inductive Waits : Client T → World → Client T → World → Prop
  | done (c : Client T) (w : World) : Waits c w c w
  | look {c c₁ c' : Client T} {w w₁ w' : World} {r : Except PanelError Freshness} :
      c.refresh w = (r, c₁, w₁) → Waits c₁ w₁ c' w' → Waits c w c' w'
  | time {c c' : Client T} {w w₁ w' : World} {now : Nat} :
      w.time = (now, w₁) → Waits c w₁ c' w' → Waits c w c' w'
  | sleep {c c' : Client T} {w w' : World} (t : Span) :
      Waits c (w.sleep t) c' w' → Waits c w c' w'

theorem Waits.trans {c c₁ c' : Client T} {w w₁ w' : World}
    (h : Waits c w c₁ w₁) (h' : Waits c₁ w₁ c' w') : Waits c w c' w' := by
  induction h with
  | done => exact h'
  | look hr _ ih => exact .look hr (ih h')
  | time ht _ ih => exact .time ht (ih h')
  | sleep t _ ih => exact .sleep t (ih h')

/-- **What each step keeps, every wait keeps.** -/
theorem Waits.invariant {P : Client T → World → Prop}
    (look : ∀ c w, P c w → P (c.refresh w).2.1 (c.refresh w).2.2)
    (time : ∀ c w, P c w → P c w.time.2)
    (sleep : ∀ c w t, P c w → P c (w.sleep t))
    {c c' : Client T} {w w' : World} (h : Waits c w c' w') (hP : P c w) : P c' w' := by
  induction h with
  | done => exact hP
  | @look c _ _ w _ _ _ hr _ ih =>
      have hlook := look c w hP
      rw [hr] at hlook
      exact ih hlook
  | @time c _ w _ _ _ ht _ ih =>
      have htime := time c w hP
      rw [ht] at htime
      exact ih htime
  | @sleep c _ w _ t _ ih => exact ih (sleep c w t hP)

/-! ### Every wait is one -/

theorem awaitEcho_waits {serial : Int32} {limit : Option Span} {start rounds : Nat}
    {c c' : Client T} {w w' : World} {r : Except PanelError Unit}
    (h : awaitEcho serial limit start rounds c w = some (r, c', w')) : Waits c w c' w' := by
  induction rounds generalizing c w with
  | zero => cases h
  | succ rounds ih =>
      rcases hlook : c.refresh w with ⟨r₁, c₁, w₁⟩
      rcases htime : w₁.time with ⟨now, w₂⟩
      simp only [awaitEcho, hlook, htime] at h
      split at h  -- the echo is there, or the limit has come, or there is another round
      · cases h
        exact .look hlook (.done c' w')
      · split at h
        · cases h
          exact .look hlook (.time htime (.done c' w'))
        · exact .look hlook (.time htime (.sleep _ (ih h)))

theorem waitReceivedFor_waits {serial : Int32} {limit : Option Span}
    {c c' : Client T} {w w' : World} {r : Except PanelError Unit}
    (h : c.waitReceivedFor serial limit w = some (r, c', w')) : Waits c w c' w' := by
  rcases htime : w.time with ⟨now, w₁⟩
  simp only [waitReceivedFor, htime] at h
  exact .time htime (awaitEcho_waits h)

theorem awaitEnd_waits {serial : Int32} {start rounds : Nat}
    {c c' : Client T} {w w' : World} {r : Except PanelError Unit}
    (h : awaitEnd serial start rounds c w = some (r, c', w')) : Waits c w c' w' := by
  induction rounds generalizing c w with
  | zero => cases h
  | succ rounds ih =>
      rcases htime : w.time with ⟨now, w₁⟩
      rcases hlook : c.refresh (w₁.sleep c.wait.interval) with ⟨r₂, c₂, w₂⟩
      simp only [awaitEnd, htime, hlook] at h
      split at h  -- done, failed, and all other states, in which the limit counts
      · cases h
        exact .done c' w'
      · cases h
        exact .done c' w'
      · split at h
        · cases h
          exact .time htime (.done c' w')
        · exact .time htime (.sleep _ (.look hlook (ih h)))

theorem waitDone_waits {serial : Int32} {c c' : Client T} {w w' : World}
    {r : Except PanelError Unit} (h : c.waitDone serial w = some (r, c', w')) :
    Waits c w c' w' := by
  unfold waitDone at h
  split at h
  · cases h
  · next hrec =>
      cases h
      exact waitReceivedFor_waits hrec
  · next c₁ w₁ hrec =>
      rcases htime : w₁.time with ⟨start, w₂⟩
      simp only [htime] at h
      exact (waitReceivedFor_waits hrec).trans (.time htime (awaitEnd_waits h))

/-- **Every wait is a run of looks**, whatever the policy and whichever way it ends. -/
theorem waitBy_waits {policy : WaitPolicy} {serial : Int32} {c c' : Client T} {w w' : World}
    {r : Except PanelError Unit} (h : c.waitBy policy serial w = some (r, c', w')) :
    Waits c w c' w' := by
  cases policy with
  | none =>
      cases h
      exact .done _ _
  | received => exact waitReceivedFor_waits h
  | done => exact waitDone_waits h

/-! ### What a wait leaves alone -/

/-- What stands still in a client while it looks at the status. -/
structure Keeps (c c' : Client T) : Prop where
  serial : c'.serial = c.serial
  wait : c'.wait = c.wait
  link : c'.link = { c.link with status := c'.link.status }

theorem Keeps.command {c c' : Client T} (h : Keeps c c') : c'.link.command = c.link.command := by
  rw [h.link]

theorem Keeps.trans {c c₁ c' : Client T} (h : Keeps c c₁) (h' : Keeps c₁ c') : Keeps c c' where
  serial := h'.serial.trans h.serial
  wait := h'.wait.trans h.wait
  link := by rw [h'.link, h.link]

theorem keeps_refresh (c : Client T) (w : World) : Keeps c (c.refresh w).2.1 where
  serial := rfl
  wait := rfl
  link := by
    rw [refresh_link]
    exact c.link.peek_link w

theorem Waits.keeps {c c' : Client T} {w w' : World} (h : Waits c w c' w') : Keeps c c' :=
  h.invariant (P := fun c₁ _ => Keeps c c₁) (fun c₁ w₁ h₁ => h₁.trans (keeps_refresh c₁ w₁))
    (fun _ _ h₁ => h₁) (fun _ _ _ h₁ => h₁) ⟨rfl, rfl, rfl⟩

end Client

/-! ### Over the simulated controller -/

/-- What stands still around a client that only looks, while time goes on. -/
structure World.Quiet (w w' : World) : Prop where
  simulator : w.simulator.SameButLooks w'.simulator
  directory : w'.directory = w.directory
  gate : w'.gate = w.gate
  journal : w'.journal = w.journal
  clock : w.clock.now ≤ w'.clock.now

namespace World.Quiet

theorem refl (w : World) : Quiet w w := ⟨.refl _, rfl, rfl, rfl, Nat.le_refl _⟩

theorem trans {w w₁ w' : World} (h : Quiet w w₁) (h' : Quiet w₁ w') : Quiet w w' where
  simulator := h.simulator.trans h'.simulator
  directory := h'.directory.trans h.directory
  gate := h'.gate.trans h.gate
  journal := h'.journal.trans h.journal
  clock := Nat.le_trans h.clock h'.clock

theorem time (w : World) : Quiet w w.time.2 :=
  ⟨.refl _, rfl, rfl, rfl, w.clock.now_le_look⟩

theorem sleep (w : World) (t : Span) : Quiet w (w.sleep t) :=
  ⟨.refl _, rfl, rfl, rfl, Nat.le_add_right _ _⟩

end World.Quiet

namespace Link

theorem quiet_peek (l : Link Simulated.transport) (w : World) : World.Quiet w (l.peek w).2.2 := by
  unfold peek
  split
  · exact .refl w
  · next seen _ => exact ⟨w.simulator.sameButLooks_peek seen, rfl, rfl, rfl, Nat.le_refl _⟩

end Link

namespace Client

theorem quiet_refresh (c : Client Simulated.transport) (w : World) :
    World.Quiet w (c.refresh w).2.2 := by
  rw [refresh_world]
  exact c.link.quiet_peek w

/-- **A wait sends nothing.** -/
theorem Waits.quiet {c c' : Client Simulated.transport} {w w' : World} (h : Waits c w c' w') :
    World.Quiet w w' :=
  h.invariant (P := fun _ w₁ => World.Quiet w w₁) (fun c₁ w₁ h₁ => h₁.trans (quiet_refresh c₁ w₁))
    (fun _ w₁ h₁ => h₁.trans (.time w₁)) (fun _ w₁ t h₁ => h₁.trans (.sleep w₁ t)) (.refl w)

end Client
end OperatorPanel
