import OperatorPanel.Proofs.PanelScene

/-!
# A panel that replaces its segment

A panel that stays running may drop the segment of its inputs and create it again. The bus learns
nothing of it: what it is attached to, it keeps, and it looks for a file under the name only when
it is attached to none. As long as the bus is attached to nothing else than the file under the name
(`Scene.Follows`), a sample without a file is empty and a sample shows the newest frame. Once its
file was dropped it shows the last frame of that file for good (`Stage.replaced`).
-/

namespace OperatorPanel

/-- A new segment has no frame of pins. -/
theorem Contents.pins_zeros (size : Nat) : (zeros size).pins = none := by
  cases hdecode : Frame.decode Codec.pins .pins (zeros size).bytes with
  | error fault => rw [pins, hdecode]; rfl
  | ok pins =>
      have htype := (Frame.decode_eq_ok_iff.1 hdecode).1.type
      have hempty : Frame.typeOf (List.replicate size 0) = .empty := by
        rw [Frame.typeOf, List.length_replicate, List.take_replicate]
        split
        · next hlong =>
            rw [Nat.min_eq_left hlong]
            rfl
        · rfl
      cases hempty.symm.trans htype

namespace Scene

/-- Whatever the bus is attached to stands under the name. -/
def Follows (s : Scene) : Prop := ∀ m, s.hold = some m → s.current = some m.file

/-! ### While the panel runs

As long as the panel runs, files are only added and written to, and the bus knows of no write that
did not happen. So what it shows is what it has read, and it has read the last frame unless there
are writes that it has not seen.
-/

/-- What holds while the panel is running: where nothing was written there is no frame, and the bus
shows the frame that it has read, if it was one. -/
structure Runs (s : Scene) : Prop where
  running : s.running = true
  current : ∀ i, s.current = some i → i < s.files.length
  blank : ∀ i < s.files.length, (s.file i).writes = 0 → (s.file i).pins = none
  hold : ∀ m, s.hold = some m → m.file < s.files.length ∧ m.seen ≤ (s.file m.file).writes
  read : ∀ m, s.hold = some m → m.seen = (s.file m.file).writes →
    ∀ pins, (s.file m.file).pins = some pins → s.shown = pins
  shown : s.hold = none → s.shown = []

variable {s : Scene}

/-- A new file stands behind all others, and nobody has read it. -/
theorem Runs.create (h : s.Runs) (size : Nat) : (s.act (.create size)).Runs := by
  simp only [act]
  split
  · -- the old files keep their numbers, and the new one is blank
    have hgrown (i : Nat) (hi : i < s.files.length) :=
      file_append { s with current := some s.files.length } (.zeros size) hi
    have hlast := file_append_self { s with current := some s.files.length } (.zeros size)
    exact
      { running := h.running
        current := by
          rintro i ⟨⟩
          rw [List.length_append]
          exact Nat.lt_succ_self _
        blank := by
          intro i hi hwrites
          rw [List.length_append, List.length_singleton] at hi
          rcases Nat.lt_or_eq_of_le (Nat.le_of_lt_succ hi) with hi | rfl
          · rw [hgrown i hi] at hwrites ⊢
            exact h.blank i hi hwrites
          · rw [hlast]
            exact Contents.pins_zeros size
        hold := by
          intro m hm
          obtain ⟨hfile, hseen⟩ := h.hold m hm
          rw [hgrown _ hfile, List.length_append]
          exact ⟨Nat.lt_succ_of_lt hfile, hseen⟩
        read := by
          intro m hm
          rw [hgrown _ (h.hold m hm).1]
          exact h.read m hm
        shown := h.shown }
  · exact h

/-- A write changes one file, and is news to whoever has read it. -/
theorem Runs.write (h : s.Runs) (place : Nat) (bytes : List UInt8) :
    (s.act (.write place bytes)).Runs := by
  rcases hcurrent : s.current with _ | i
  · simp only [act, hcurrent]
    exact h
  · rw [act_write_of_current hcurrent]
    split
    · have hfile (j : Nat) (hj : j < s.files.length) :=
        file_modify s (·.write place bytes) (i := i) hj
      exact
        { running := h.running
          current := by
            rw [List.length_modify]
            exact h.current
          blank := by
            intro j hj
            rw [List.length_modify] at hj
            rw [hfile j hj]
            split
            · intro hwrites
              exact absurd hwrites (Nat.succ_ne_zero _)
            · exact h.blank j hj
          hold := by
            intro m hm
            obtain ⟨hj, hseen⟩ := h.hold m hm
            rw [List.length_modify, hfile _ hj]
            refine ⟨hj, ?_⟩
            split
            · exact Nat.le_succ_of_le hseen
            · exact hseen
          read := by
            intro m hm
            obtain ⟨hj, hseen⟩ := h.hold m hm
            rw [hfile _ hj]
            split
            · -- what was just written has not been read
              intro hread
              exact absurd hread (Nat.ne_of_lt (Nat.lt_succ_of_le hseen))
            · exact h.read m hm
          shown := h.shown }
    · exact h

/-- A drop takes the file from its name, and leaves it to those attached. -/
theorem Runs.drop (h : s.Runs) : (s.act .drop).Runs := by
  have hact : s.act .drop = { s with current := none } := if_pos h.running
  rw [hact]
  exact { h with current := nofun }

/-- Who attaches to a file has read nothing of it yet. -/
theorem Runs.attach (h : s.Runs) : s.attach.Runs := by
  rcases hhold : s.hold with _ | m
  · rcases hcurrent : s.current with _ | i
    · rw [attach_of_missing hcurrent]
      exact h
    · -- the bus has read nothing yet, which matters only if nothing was written
      have hi := h.current i hcurrent
      rw [attach_of_current hhold hcurrent]
      exact
        { h with
          hold := by
            rintro m ⟨⟩
            exact ⟨hi, Nat.zero_le _⟩
          read := by
            rintro m ⟨⟩ hwrites pins hpins
            have hnone := h.blank i hi hwrites.symm
            cases hnone.symm.trans hpins
          shown := nofun }
  · rw [attach_of_hold hhold]
    exact h

/-- A look reads the file if there is something new in it. -/
theorem Runs.look (h : s.Runs) : s.look.Runs := by
  rcases hhold : s.hold with _ | m
  · rw [look_of_none hhold]
    exact h
  · -- a file is read when something new is in it; a running panel is never let go of
    cases hnewer : (s.file m.file).newer m.seen with
    | true =>
        rw [look_of_newer hhold hnewer]
        exact
          { h with
            hold := by
              rintro m' ⟨⟩
              exact ⟨(h.hold m hhold).1, Nat.le_refl _⟩
            read := by
              rintro m' ⟨⟩ - pins hpins
              show (s.file m.file).pins.getD s.shown = pins
              rw [show (s.file m.file).pins = some pins from hpins]
              rfl
            shown := nofun }
    | false =>
        rw [look_of_running hhold hnewer h.running]
        exact h

/-- **Every act but the exit** keeps this. -/
theorem Runs.act (h : s.Runs) {a : Act} (ha : a ≠ .exit) : (s.act a).Runs := by
  cases a with
  | create size => exact h.create size
  | write place bytes => exact h.write place bytes
  | drop => exact h.drop
  | exit => exact absurd rfl ha
  | sample => exact h.attach.look

/-- So it holds after any acts of a running panel. -/
theorem Runs.run (h : s.Runs) {acts : List Act} (hacts : .exit ∉ acts) : (s.run acts).Runs := by
  induction acts generalizing s with
  | nil => exact h
  | cons a acts ih =>
      rw [List.mem_cons, not_or] at hacts
      exact ih (h.act (Ne.symm hacts.1)) hacts.2

/-! ### While the bus follows

A bus that follows is attached to the file under the name or to none. If there is no file it is
attached to none, and shows nothing; if there is one, it is attached to it at the sample and reads
what stands there.
-/

/-- Where no file is, a bus that follows shows nothing. -/
theorem Runs.shown_of_missing (h : s.Runs) (hfollows : s.Follows) (hcurrent : s.current = none) :
    s.attach.look.shown = [] := by
  have hhold : s.hold = none := by
    cases hhold : s.hold with
    | none => rfl
    | some m => cases hcurrent.symm.trans (hfollows m hhold)
  rw [attach_of_missing hcurrent, look_of_none hhold]
  exact h.shown hhold

/-- A look at a file shows the frame that stands in it. -/
theorem Runs.shown_look (h : s.Runs) {m : Mark} {pins : List NamedPin} (hhold : s.hold = some m)
    (hpins : (s.file m.file).pins = some pins) (hfew : (s.file m.file).writes < valuesOf 63) :
    s.look.shown = pins := by
  cases hnewer : (s.file m.file).newer m.seen with
  | true =>
      rw [look_of_newer hhold hnewer]
      show (s.file m.file).pins.getD s.shown = pins
      rw [hpins]
      rfl
  | false => -- the frame was read before
      rw [Contents.newer_eq hfew, decide_eq_false_iff_not] at hnewer
      have hseen := (h.hold m hhold).2
      rw [look_of_running hhold (by rw [Contents.newer_eq hfew]; simpa using hnewer) h.running]
      exact h.read m hhold (by omega) pins hpins

/-- Where a file is, a bus that follows shows its frame. -/
theorem Runs.shown_of_current (h : s.Runs) (hfollows : s.Follows) {i : Nat} {pins : List NamedPin}
    (hcurrent : s.current = some i) (hpins : (s.file i).pins = some pins)
    (hfew : (s.file i).writes < valuesOf 63) : s.attach.look.shown = pins := by
  rcases hhold : s.hold with _ | m
  · have hattach := attach_of_current hhold hcurrent
    exact h.attach.shown_look (m := { file := i, seen := 0 }) (by rw [hattach])
      (by rw [hattach]; exact hpins) (by rw [hattach]; exact hfew)
  · obtain rfl : i = m.file := Option.some.inj (hcurrent.symm.trans (hfollows m hhold))
    rw [attach_of_hold hhold]
    exact h.shown_look hhold hpins hfew

/-! ### When the bus does not follow

A bus that does not follow holds a file that nobody writes to any more. After its next look it has
read it to the end, and while the panel runs there is no reason to let go of it.
-/

/-- The bus is attached to a file that is gone from its name, has read it, and shows some pins. -/
structure Stuck (s : Scene) (pins : List NamedPin) : Prop where
  running : s.running = true
  hold : ∃ m, s.hold = some m ∧ m.file < s.files.length ∧ s.current ≠ some m.file ∧
    (s.file m.file).newer m.seen = false
  shown : s.shown = pins

variable {pins : List NamedPin}

/-- Its samples change nothing. -/
theorem Stuck.sample (h : s.Stuck pins) : s.attach.look = s := by
  obtain ⟨m, hhold, -, -, hnewer⟩ := h.hold
  rw [attach_of_hold hhold, look_of_running hhold hnewer h.running]

/-- A file that is created now comes under the name, and the bus does not look there. -/
theorem Stuck.create (h : s.Stuck pins) (size : Nat) : (s.act (.create size)).Stuck pins := by
  obtain ⟨m, hhold, hfile, hgone, hnewer⟩ := h.hold
  simp only [act]
  split
  · have hgrown := file_append { s with current := some s.files.length } (.zeros size) hfile
    refine ⟨h.running, ⟨m, hhold, ?_, ?_, ?_⟩, h.shown⟩
    · rw [List.length_append]
      exact Nat.lt_succ_of_lt hfile
    · intro hcurrent
      -- the new file is another one
      have hlast : s.files.length = m.file := Option.some.inj hcurrent
      omega
    · rw [hgrown]
      exact hnewer
  · exact h

/-- A write goes to the file under the name, which is another one. -/
theorem Stuck.write (h : s.Stuck pins) (place : Nat) (bytes : List UInt8) :
    (s.act (.write place bytes)).Stuck pins := by
  obtain ⟨m, hhold, hfile, hgone, hnewer⟩ := h.hold
  rcases hcurrent : s.current with _ | i
  · simp only [act, hcurrent]
    exact h
  · rw [act_write_of_current hcurrent]
    split
    · -- the panel writes to the file under the name, and the bus holds another one
      have hother : i ≠ m.file := by
        rintro rfl
        exact hgone hcurrent
      have hkept := file_modify s (·.write place bytes) (i := i) hfile
      rw [if_neg hother] at hkept
      refine ⟨h.running, ⟨m, hhold, ?_, hgone, ?_⟩, h.shown⟩
      · rw [List.length_modify]
        exact hfile
      · rw [hkept]
        exact hnewer
    · exact h

/-- A drop takes away what the bus is not attached to. -/
theorem Stuck.drop (h : s.Stuck pins) : (s.act .drop).Stuck pins := by
  obtain ⟨m, hhold, hfile, -, hnewer⟩ := h.hold
  have hact : s.act .drop = { s with current := none } := if_pos h.running
  rw [hact]
  exact ⟨h.running, ⟨m, hhold, hfile, nofun, hnewer⟩, h.shown⟩

/-- **A bus that is stuck stays so**, whatever the panel does while it runs. -/
theorem Stuck.act (h : s.Stuck pins) {a : Act} (ha : a ≠ .exit) : (s.act a).Stuck pins := by
  cases a with
  | create size => exact h.create size
  | write place bytes => exact h.write place bytes
  | drop => exact h.drop
  | exit => exact absurd rfl ha
  | sample =>
      show s.attach.look.Stuck pins
      rw [h.sample]
      exact h

/-- Nor do several acts end it. -/
theorem Stuck.run (h : s.Stuck pins) {acts : List Act} (hacts : .exit ∉ acts) :
    (s.run acts).Stuck pins := by
  induction acts generalizing s with
  | nil => exact h
  | cons a acts ih =>
      rw [List.mem_cons, not_or] at hacts
      exact ih (h.act (Ne.symm hacts.1)) hacts.2

/-- A bus that does not follow is stuck from its next sample on. -/
theorem Runs.stuck (h : s.Runs) (hfollows : ¬s.Follows) :
    s.attach.look.Stuck s.attach.look.shown := by
  simp only [Follows, Classical.not_forall] at hfollows
  obtain ⟨m, hhold, hgone⟩ := hfollows
  obtain ⟨hfile, -⟩ := h.hold m hhold
  rw [attach_of_hold hhold]
  cases hnewer : (s.file m.file).newer m.seen with
  | true =>
      rw [look_of_newer hhold hnewer]
      refine ⟨h.running, ⟨_, rfl, hfile, hgone, ?_⟩, rfl⟩
      exact Contents.newer_writes _
  | false =>
      rw [look_of_running hhold hnewer h.running]
      exact ⟨h.running, ⟨m, hhold, hfile, hgone, hnewer⟩, rfl⟩

/-- The scene tells whether the segment has a file. -/
theorem Shows.missing_iff {start t : Stage} (h : s.Shows start t) :
    t.Missing ↔ s.current = none := by
  refine ⟨fun hmissing => ?_, h.missing⟩
  cases hcurrent : s.current with
  | none => rfl
  | some i => cases hmissing _ (h.stands i hcurrent).2

end Scene

namespace Stage

/-- A bus that was just opened holds nothing. -/
theorem runs_opening (start : Stage) : start.opening.Runs where
  running := rfl
  current := nofun
  blank := nofun
  hold := nofun
  read := nofun
  shown := fun _ => rfl

/-- **What a bus shows of a panel that replaces its segment.** As long as the bus follows, samples
without a file are empty, and otherwise a sample shows the newest frame. When it does not follow,
the next sample shows the last frame of a file that is gone, which is empty just when it names no
pin; and so do all later ones. -/
theorem replaced {start : Stage} (hfresh : start.Fresh) (hmissing : start.Missing)
    {acts : List Act} (hacts : .exit ∉ acts) :
    let t := start.run acts
    let s := start.opening.run acts
    (t.Missing ↔ s.current = none) ∧
    (s.Follows →
      (t.Missing → t.sample = .empty) ∧
      ∀ i pins, s.current = some i → (s.file i).pins = some pins →
        (s.file i).writes < valuesOf 63 → t.sample = (InputSample.ofNamed pins).sample) ∧
    (¬s.Follows →
      t.sample = (InputSample.ofNamed s.look.shown).sample ∧
      (t.sample = .empty ↔ ∀ pin ∈ s.look.shown, InputPin.parse? pin.name = none) ∧
      ∀ more : List Act, .exit ∉ more → ((t.act .sample).run more).sample = t.sample) := by
  intro t s
  have hshows : s.Shows start t := (hfresh.shows hmissing).run acts
  have hruns : s.Runs := start.runs_opening.run hacts
  refine ⟨hshows.missing_iff, fun hfollows => ⟨fun hgone => ?_, ?_⟩, fun hstuck => ?_⟩
  · rw [hshows.sample, hruns.shown_of_missing hfollows (hshows.missing_iff.1 hgone)]
    rfl
  · intro i pins hcurrent hpins hfew
    rw [hshows.sample, hruns.shown_of_current hfollows hcurrent hpins hfew]
  · -- a bus that does not follow is attached, so a sample only looks
    have hattach : s.attach = s := by
      simp only [Scene.Follows, Classical.not_forall] at hstuck
      obtain ⟨m, hhold, -⟩ := hstuck
      exact Scene.attach_of_hold hhold
    have hsample : t.sample = (InputSample.ofNamed s.look.shown).sample := by
      rw [hshows.sample, hattach]
    refine ⟨hsample, ?_, fun more hmore => ?_⟩
    · rw [hsample, InputSample.ofNamed_eq_empty_iff]
    · -- from the next look on the bus is stuck, and every later sample shows the same
      have hlast := (hruns.stuck hstuck).run hmore
      rw [hsample, ((hshows.act .sample).run more).sample]
      show (InputSample.ofNamed ((s.attach.look.run more).attach.look).shown).sample = _
      rw [hlast.sample, hlast.shown, hattach]

/-- The panel writes a frame and drops the segment after the bus has read it. -/
def withdrawn : List Act :=
  [.create Segment.minSize, .write 0 (frameOf [⟨"halui.machine.on", .bit true⟩]), .sample, .drop]

/-- It then creates the segment again and writes another frame. -/
def renewed : List Act :=
  withdrawn
    ++ [.create Segment.minSize, .write 0 (frameOf [⟨"halui.machine.off", .bit true⟩])]

/-- The file is gone while the bus still holds it, and knows of its one write. -/
theorem scene_withdrawn :
    (Scene.run { takes := true } withdrawn).current = none ∧
      (Scene.run { takes := true } withdrawn).hold = some { file := 0, seen := 1 } ∧
      (InputSample.ofNamed (Scene.run { takes := true } withdrawn).look.shown).sample.bit
        (.control .machineOn) = true := by
  decide +kernel

theorem shows_vacant (acts : List Act) :
    (Scene.run { takes := true } acts).Shows vacant (vacant.run acts) := by
  rw [← opening_vacant]
  exact (fresh_vacant.shows missing_vacant).run acts

/-- Without a file a sample is not empty, and with a new file its frame is not shown, not even by
the second sample. -/
theorem stuck_renewed :
    (¬ ∀ (start : Stage) (acts : List Act), start.Fresh → start.Missing → .exit ∉ acts →
      (start.run acts).Missing → (start.run acts).sample = .empty) ∧
    ¬ ∀ (start : Stage) (acts : List Act), start.Fresh → start.Missing → .exit ∉ acts →
      ∀ i pins, (start.opening.run acts).current = some i →
        ((start.opening.run acts).file i).pins = some pins →
        ((start.run acts).act .sample).sample = (InputSample.ofNamed pins).sample := by
  constructor
  · intro h
    obtain ⟨hcurrent, hhold, hbit⟩ := scene_withdrawn
    have hempty := h vacant withdrawn fresh_vacant missing_vacant (by decide)
      ((shows_vacant withdrawn).missing hcurrent)
    rw [(shows_vacant withdrawn).sample, Scene.attach_of_hold hhold] at hempty
    rw [hempty] at hbit
    cases hbit
  · intro h
    have hnewest := h vacant renewed fresh_vacant missing_vacant (by decide) 1
      [⟨"halui.machine.off", .bit true⟩]
    rw [opening_vacant] at hnewest
    -- the second file stands under the name, while the bus shows the first
    have hevaluates : (Scene.run { takes := true } renewed).current = some 1 ∧
        ((Scene.run { takes := true } renewed).file 1).pins
          = some [⟨"halui.machine.off", .bit true⟩] ∧
        (InputSample.ofNamed
          ((Scene.run { takes := true } renewed).act .sample).attach.look.shown).sample
        ≠ (InputSample.ofNamed [⟨"halui.machine.off", .bit true⟩]).sample := by
      decide +kernel
    obtain ⟨hcurrent, hpins, hshown⟩ := hevaluates
    exact hshown (((shows_vacant renewed).act .sample).sample.symm.trans (hnewest hcurrent hpins))

/-- The bus shows what it has read though the file is gone. -/
theorem replaced_withdrawn :
    (vacant.run withdrawn).Missing ∧
      (vacant.run withdrawn).sample.bit (.control .machineOn) = true := by
  obtain ⟨hmissing, -, hstuck⟩ := replaced fresh_vacant missing_vacant
    (show .exit ∉ withdrawn by decide)
  rw [opening_vacant] at hmissing hstuck
  obtain ⟨hcurrent, hhold, hbit⟩ := scene_withdrawn
  have hgone : ¬(Scene.run { takes := true } withdrawn).Follows := by
    intro hfollows
    cases hcurrent.symm.trans (hfollows _ hhold)
  obtain ⟨hsample, -⟩ := hstuck hgone
  exact ⟨hmissing.2 hcurrent, (congrArg (·.bit (.control .machineOn)) hsample).trans hbit⟩

end Stage
end OperatorPanel
