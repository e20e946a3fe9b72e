import OperatorPanel.Proofs.PanelScene

/-!
# How a bus follows its panel

As long as the file of the panel's segment stays, a sample goes by what is new in it: a new frame
of pins is shown, and anything else that is new changes nothing; and when nothing is new, what was
shown stays while the panel is running, and goes when it is not (`Scene.follow`).

New is what was written since the bus last read the file. But a bus that has given the file up
forgets that it has read it: attached again, it takes the last frame for new. Samples follow the
rule just when that frame names no pin or was not given up (`Stage.follows_iff`).
-/

namespace OperatorPanel
namespace Scene

/-! ### The rule

A bus knows of the writes up to which it has read the file that it is attached to. A bus that has
given a file up still has read it that far, but knows it no longer; the rule is about what was read,
and what is shown goes by what is known.
-/

/-- The number of writes that the bus knows of. -/
def seen (s : Scene) : Nat := (s.hold.map (·.seen)).getD 0

/-- The number of writes up to which the bus has read the file, which it may have given up. -/
def read (s : Scene) : Nat := ((s.hold.or s.left).map (·.seen)).getD 0

/-- What is to be shown next when so many writes are no longer new. -/
def follow (s : Scene) (seen : Nat) : List NamedPin :=
  if (s.file 0).newer seen then (s.file 0).pins.getD s.shown
  else if s.running then s.shown
  else []

/-- The bus has given up the file, which has a frame that names a pin. -/
def Revives (s : Scene) : Prop :=
  s.hold = none ∧ s.left ≠ none ∧ (s.file 0).newer 0 = true ∧
    ∃ pins, (s.file 0).pins = some pins ∧ ∃ pin ∈ pins, InputPin.parse? pin.name ≠ none

/-! ### While the file stays

While nobody drops the segment there is one file, and the bus can only be attached to it, or have
given it up after its panel was gone. In the second case nothing is new in it, which is all that the
rule needs.
-/

/-- There is one file, and it stays under the name. Only a bus whose panel is gone has given it up,
and then with nothing new in it. -/
structure Stays (s : Scene) : Prop where
  inside : 0 < s.files.length
  current : s.current = some 0
  hold : ∀ m, s.hold = some m → m.file = 0 ∧ m.seen ≤ (s.file 0).writes
  left : ∀ m, s.left = some m → s.running = false ∧ m.seen ≤ (s.file 0).writes ∧
    (s.file 0).newer m.seen = false
  shown : s.hold = none → s.shown = []

variable {s : Scene}

/-- A write is news to the bus, and only a running panel writes. -/
theorem Stays.write (h : s.Stays) (place : Nat) (bytes : List UInt8) :
    (s.act (.write place bytes)).Stays := by
  rw [act_write_of_current h.current]
  split
  · next hfits =>
      have hrunning := (Bool.and_eq_true_iff.1 hfits).1
      have hfile := file_modify s (·.write place bytes) (i := 0) h.inside
      rw [if_pos rfl] at hfile
      exact
        { inside := by
            rw [List.length_modify]
            exact h.inside
          current := h.current
          hold := fun m hm => by
            rw [hfile]
            exact ⟨(h.hold m hm).1, Nat.le_succ_of_le (h.hold m hm).2⟩
          left := fun m hm => by
            have hgone := (h.left m hm).1  -- the panel that writes is running
            rw [hrunning] at hgone
            cases hgone
          shown := h.shown }
  · exact h

/-- An exit changes no file. -/
theorem Stays.exit (h : s.Stays) : (s.act .exit).Stays :=
  { h with left := fun m hm => ⟨rfl, (h.left m hm).2⟩ }

/-- Who attaches again knows of no write. -/
theorem Stays.attach (h : s.Stays) : s.attach.Stays := by
  rcases hhold : s.hold with _ | m
  · rw [attach_of_current hhold h.current]
    exact
      { h with
        hold := by
          rintro m ⟨⟩
          exact ⟨rfl, Nat.zero_le _⟩
        shown := nofun }
  · rw [attach_of_hold hhold]
    exact h

/-- A look reads what is new, or gives the file up when the panel is gone. -/
theorem Stays.look (h : s.Stays) : s.look.Stays := by
  rcases hhold : s.hold with _ | m
  · rw [look_of_none hhold]
    exact h
  · obtain ⟨hfile, hseen⟩ := h.hold m hhold
    cases hnewer : (s.file m.file).newer m.seen with
    | true => -- what is newer is read, and then nothing is newer than what was seen
        rw [look_of_newer hhold hnewer]
        exact
          { h with
            hold := by
              rintro m' ⟨⟩
              refine ⟨hfile, ?_⟩
              rw [hfile]
              exact Nat.le_refl _
            shown := nofun }
    | false =>
        cases hrunning : s.running with
        | true => -- nothing new from a running panel: the look changes nothing
            rw [look_of_running hhold hnewer hrunning]
            exact h
        | false =>
            -- nothing new, and the panel has gone: the file is let go with all its contents read
            rw [look_of_gone hhold hnewer hrunning]
            rw [hfile] at hnewer
            exact
              { h with
                hold := nofun
                left := by
                  rintro m' ⟨⟩
                  exact ⟨hrunning, hseen, hnewer⟩
                shown := fun _ => rfl }

/-- **The file stays through every act but dropping it.** -/
theorem Stays.act (h : s.Stays) {a : Act} (ha : a ≠ .drop) : (s.act a).Stays := by
  cases a with
  | create size =>
      rw [act_create_of_current h.current]
      exact h
  | write place bytes => exact h.write place bytes
  | drop => exact absurd rfl ha
  | exit => exact h.exit
  | sample => exact h.attach.look

/-- So it stays through any acts without a drop. -/
theorem Stays.run (h : s.Stays) {acts : List Act} (hacts : .drop ∉ acts) : (s.run acts).Stays := by
  induction acts generalizing s with
  | nil => exact h
  | cons a acts ih =>
      rw [List.mem_cons, not_or] at hacts
      exact ih (h.act (Ne.symm hacts.1)) hacts.2

/-! ### What is shown next

A sample attaches where it has to and then looks. Whichever of the two cases it was in, it shows
what the rule gives for the writes that the bus knows of; and the two readings of the rule differ in
one case only, that of a file given up with pins in it.
-/

/-- A look shows what the rule says. -/
theorem shown_look {m : Mark} (hhold : s.hold = some m) (hfile : m.file = 0) :
    s.look.shown = s.follow m.seen := by
  unfold look follow
  rw [hhold]
  dsimp only
  rw [hfile]
  split
  · rfl
  · split <;> rfl

/-- **What is shown next** goes by what the bus knows of. -/
theorem Stays.shown_sample (h : s.Stays) : s.attach.look.shown = s.follow s.seen := by
  rcases hhold : s.hold with _ | m
  · rw [attach_of_current hhold h.current, shown_look rfl rfl, seen, hhold]
    rfl
  · rw [attach_of_hold hhold, shown_look hhold (h.hold m hhold).1, seen, hhold]
    rfl

/-- When the panel is gone and nothing is new, nothing is shown. -/
theorem follow_of_gone {seen : Nat} (hrunning : s.running = false)
    (hnewer : (s.file 0).newer seen = false) : s.follow seen = [] := by
  rw [follow, hnewer, hrunning]
  rfl

/-- The rule is kept just when the bus does not take for new what it has given up. -/
theorem Stays.follow_read_iff (h : s.Stays) :
    (InputSample.ofNamed (s.follow s.seen)).sample = (InputSample.ofNamed (s.follow s.read)).sample
      ↔ ¬s.Revives := by
  -- as long as the bus holds the file, what it knows of is what it has read
  rcases hhold : s.hold with _ | m
  · rcases hleft : s.left with _ | m
    · have hread : s.read = s.seen := by rw [read, seen, hhold, hleft]; rfl
      simp [hread, Revives, hleft]
    · -- the file was given up, and by the rule nothing is to be shown
      obtain ⟨hrunning, -, hnewer⟩ := h.left m hleft
      have hread : s.read = m.seen := by rw [read, hhold, hleft]; rfl
      have hseen : s.seen = 0 := by rw [seen, hhold]; rfl
      have hshown := h.shown hhold
      rw [hread, follow_of_gone hrunning hnewer, hseen, Revives]
      cases hnew : (s.file 0).newer 0 with
      | false =>
          rw [follow_of_gone hrunning hnew]
          simp
      | true =>
          have hempty : (InputSample.ofNamed []).sample = .empty := rfl
          rw [follow, if_pos hnew, hshown, hempty, InputSample.ofNamed_eq_empty_iff]
          cases hpins : (s.file 0).pins with
          | none => simp
          | some pins => simp [hhold, hleft]
  · have hread : s.read = s.seen := by rw [read, seen, hhold]; rfl
    simp [hread, Revives, hhold]

/-- A running panel is not given up. -/
theorem Stays.gone_of_revives (h : s.Stays) (hrevives : s.Revives) : s.running = false := by
  obtain ⟨-, hleft, -⟩ := hrevives
  obtain ⟨m, hm⟩ := Option.ne_none_iff_exists'.1 hleft
  exact (h.left m hm).1

/-- What is new is not new any more after a sample. -/
theorem Stays.seen_sample (h : s.Stays) (hnewer : (s.file 0).newer s.seen = true) :
    s.attach.look.seen = (s.file 0).writes := by
  rcases hhold : s.hold with _ | m
  · rw [seen, hhold] at hnewer
    have hlook := look_of_newer (s := { s with hold := some { file := 0, seen := 0 } })
      (m := { file := 0, seen := 0 }) rfl hnewer
    rw [attach_of_current hhold h.current, hlook]
    rfl
  · have hfile := (h.hold m hhold).1
    rw [seen, hhold] at hnewer
    rw [attach_of_hold hhold, look_of_newer hhold (by rw [hfile]; exact hnewer), seen, hfile]
    rfl

/-- When the panel is gone, one of two samples shows nothing. -/
theorem Stays.shown_of_gone (h : s.Stays) (hrunning : s.running = false) :
    s.follow s.seen = [] ∨ s.attach.look.attach.look.shown = [] := by
  cases hnewer : (s.file 0).newer s.seen with
  | false => exact .inl (follow_of_gone hrunning hnewer)
  | true =>
      obtain ⟨hfiles, -, hrunning'⟩ := s.panel_sample
      have hfile : s.attach.look.file 0 = s.file 0 := by rw [file, file, hfiles]
      refine .inr ?_
      rw [h.attach.look.shown_sample]
      refine follow_of_gone (hrunning'.trans hrunning) ?_
      rw [hfile, h.seen_sample hnewer]
      exact Contents.newer_writes _

end Scene

namespace Stage

/-- **When samples follow the panel.** While the file of the segment stays, a sample shows what the
rule says of the writes that the bus knows of. That is what the rule says of the writes that it has
read, unless the panel is gone and the bus has given up a file with a frame that names a pin. Below
`2 ^ 63` writes those are new that it has not read. When the panel is gone, one of two samples is
empty. And every unknown name is warned of once. -/
theorem follows_iff {start : Stage} {size : Nat} {w : SegmentWriter} (hfresh : start.Fresh)
    (hcreate : (start.world.directory.create start.bus.inputSegment size).result = .ok w)
    {acts : List Act} (hstays : .drop ∉ acts) :
    let t := (start.act (.create size)).run acts
    let s := (start.created size).run acts
    t.sample = (InputSample.ofNamed (s.follow s.seen)).sample ∧
    (t.sample = (InputSample.ofNamed (s.follow s.read)).sample ↔ ¬s.Revives) ∧
    (s.Revives → s.running = false) ∧
    ((s.file 0).writes < valuesOf 63 →
      (s.file 0).newer s.read = decide (s.read < (s.file 0).writes)) ∧
    (s.running = false → t.sample = .empty ∨ (t.act .sample).sample = .empty) ∧
    ∀ name, t.world.warnings name = start.world.warnings name
      + if s.Met name ∧ name ∉ start.bus.warned then 1 else 0 := by
  intro t s
  have hshows : s.Shows start t := (hfresh.shows_created hcreate).run acts
  -- a fresh segment: one file, nothing held, nothing abandoned yet
  have hstart : (start.created size).Stays :=
    { inside := Nat.zero_lt_one
      current := rfl
      hold := nofun
      left := nofun
      shown := fun _ => rfl }
  have hs : s.Stays := hstart.run hstays
  have hsample : t.sample = (InputSample.ofNamed (s.follow s.seen)).sample := by
    rw [hshows.sample, hs.shown_sample]
  refine ⟨hsample, ?_, fun hrevives => hs.gone_of_revives hrevives, Contents.newer_eq,
    fun hgone => ?_, hshows.warnings⟩
  · rw [hsample]
    exact hs.follow_read_iff
  · -- once it has gone, the inputs are inactive after one look or after two
    rcases hs.shown_of_gone hgone with hfirst | hsecond
    · left
      rw [hsample, hfirst]
      rfl
    · right
      rw [(hshows.act .sample).sample]
      exact congrArg (fun pins => (InputSample.ofNamed pins).sample) hsecond

/-- The panel writes and exits, and the bus has taken notice of both. -/
def abandoned : List Act :=
  [.write 0 (frameOf [⟨"halui.estop.activate", .bit true⟩, ⟨"lamp", .bit true⟩]), .sample, .exit,
    .sample]

/-- The bus has read everything and finds the panel gone, and yet the pin turns active again. -/
theorem revives_abandoned :
    ¬ ∀ (start : Stage) (size : Nat) (w : SegmentWriter) (acts : List Act), start.Fresh →
      (start.world.directory.create start.bus.inputSegment size).result = .ok w → .drop ∉ acts →
      let t := (start.act (.create size)).run acts
      let s := (start.created size).run acts
      t.sample = (InputSample.ofNamed (s.follow s.read)).sample := by
  intro h
  obtain ⟨w, hcreate⟩ := create_vacant
  have hrule := h vacant Segment.minSize w abandoned fresh_vacant hcreate (by decide)
  have hsample := ((fresh_vacant.shows_created hcreate).run abandoned).sample
  have hne : (InputSample.ofNamed
        ((vacant.created Segment.minSize).run abandoned).attach.look.shown).sample
      ≠ (InputSample.ofNamed (((vacant.created Segment.minSize).run abandoned).follow
          ((vacant.created Segment.minSize).run abandoned).read)).sample := by
    decide +kernel
  exact hne (hsample.symm.trans hrule)

/-- The unknown name was warned of once, and the next sample shows the pin that was given up. -/
theorem follows_iff_abandoned :
    let t := (vacant.act (.create Segment.minSize)).run abandoned
    t.world.warnings "lamp" = 1 ∧ t.sample.bit (.control .estopActivate) = true := by
  intro t
  obtain ⟨w, hcreate⟩ := create_vacant
  obtain ⟨hsample, -, -, -, -, hwarnings⟩ :=
    follows_iff fresh_vacant hcreate (show .drop ∉ abandoned by decide)
  have hevaluates : (((vacant.created Segment.minSize).run abandoned).Met "lamp" ∧
        "lamp" ∉ vacant.bus.warned) ∧
      (InputSample.ofNamed (((vacant.created Segment.minSize).run abandoned).follow
        ((vacant.created Segment.minSize).run abandoned).seen)).sample.bit
          (.control .estopActivate) = true := by
    decide +kernel
  have hcount := hwarnings "lamp"
  rw [if_pos hevaluates.1] at hcount
  exact ⟨hcount, (congrArg (·.bit (.control .estopActivate)) hsample).trans hevaluates.2⟩

end Stage
end OperatorPanel
