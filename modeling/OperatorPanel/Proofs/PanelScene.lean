import OperatorPanel.Proofs.PanelLook

/-!
# A panel and a bus

A panel process creates the segment of its inputs, writes it, drops it and may exit, and a bus
samples meanwhile (`Stage`). A `Scene` says what is meant by that: what the files of the panel
hold, which of them stands under the name, to which the bus is attached and how many writes of it
the bus knows of, and the frame that is shown.

Every act on a stage is the act on the scene (`Scene.Shows.act`), so that after any run the bus
shows the frame that the scene shows and has warned of every unknown name once
(`Scene.Shows.run`).
-/

namespace OperatorPanel

/-! ### The stage -/

/-- A bus, and a panel process that may have the segment of its inputs. The panel is the process
that acts in the directory. -/
structure Stage where
  bus : SegmentBus
  world : World
  panel : Option SegmentWriter := none

/-- What the panel does to the segment, and a sample of the bus. -/
inductive Act where
  | create (size : Nat)
  | write (start : Nat) (bytes : List UInt8)
  | drop
  /-- The process is gone; what it wrote stays. -/
  | exit
  | sample
  deriving DecidableEq

namespace Stage

/-- The sample that the bus gives now. -/
def sample (t : Stage) : InputSample := (t.bus.sample t.world).1

/-- The bus tries to attach. -/
def attach (t : Stage) : Stage :=
  { t with bus := (t.bus.attach t.world).1, world := (t.bus.attach t.world).2 }

/-- The bus looks at what it is attached to. -/
def look (t : Stage) : Stage :=
  { t with bus := (t.bus.look t.world).1, world := (t.bus.look t.world).2 }

/-- Change the directory. -/
def within (t : Stage) (directory : Directory) : Stage :=
  { t with world := { t.world with directory } }

/-- What an act makes of the stage. -/
def act (t : Stage) : Act → Stage
  | .create size => -- only a running panel creates anything
    if t.world.directory.alive t.world.directory.self then
      match t.world.createSegment t.bus.inputSegment size with
      | (.ok writer, world) => { t with world, panel := some writer }
      | (.error _, world) => { t with world }
    else t
  | .write start bytes =>
    match t.panel with
    | none => t
    | some writer =>
      match writer.writeAt start bytes t.world.directory with
      | (.ok writer, directory) => { t.within directory with panel := some writer }
      | (.error _, directory) => t.within directory
  | .drop =>
    match t.panel with
    | none => t
    | some writer => { t.within (writer.drop t.world.directory) with panel := none }
  | .exit => -- a process that exits drops nothing, and its files stay
    let d := t.world.directory
    { t.within { d with alive := fun pid => pid ≠ d.self && d.alive pid } with panel := none }
  | .sample =>
    let (_, bus, world) := t.bus.sample t.world
    { t with bus, world }

def run (t : Stage) (acts : List Act) : Stage := acts.foldl act t

end Stage

/-! ### The scene

A scene forgets where things are kept: a file is a number in the order of creation, a version is a
count of writes, and what the bus remembers is the frames that it took over. The rules below are
then short enough to be read as the description of what a panel and a bus do.
-/

/-- How much the bus knows of a file. -/
structure Mark where
  file : Nat
  /-- The number of writes that it knows of. -/
  seen : Nat
  deriving DecidableEq

/-- How things stand between the panel and the bus. -/
structure Scene where
  /-- Whether the directory takes the file of the segment. -/
  takes : Bool
  /-- What the panel's files hold, in the order of their creation. -/
  files : List Contents := []
  /-- The file that stands under the name. -/
  current : Option Nat := none
  running : Bool := true
  /-- What the bus is attached to. -/
  hold : Option Mark := none
  /-- What the bus has given up last. -/
  left : Option Mark := none
  /-- The frame that the bus shows. -/
  shown : List NamedPin := []
  /-- The pins of all frames that the bus has taken over. -/
  taken : List NamedPin := []

namespace Scene

/-- What a file holds. -/
def file (s : Scene) (i : Nat) : Contents := s.files.getD i (.zeros 0)

/-- Attached to nothing, the bus attaches to the file that stands under the name, of which it knows
nothing yet. -/
def attach (s : Scene) : Scene :=
  match s.hold, s.current with
  | none, some file => { s with hold := some { file, seen := 0 } }
  | _, _ => s

/-- When there is something new the bus takes it over if it is a frame of pins. When there is not,
and the panel is gone, it gives the file up. -/
def look (s : Scene) : Scene :=
  match s.hold with
  | none => s
  | some m =>
    let c := s.file m.file
    if c.newer m.seen then
      { s with
        hold := some { m with seen := c.writes }
        shown := c.pins.getD s.shown
        taken := s.taken ++ c.pins.getD [] }
    else if s.running then s
    else { s with hold := none, left := some m, shown := [] }

/-- What an act makes of the scene. -/
def act (s : Scene) : Act → Scene
  | .create size => -- under a name there is one file at most
    if s.running && s.current.isNone && s.takes && (Segment.sizeFault? size).isNone then
      { s with files := s.files ++ [.zeros size], current := some s.files.length }
    else s
  | .write start bytes =>
    match s.current with
    | none => s
    | some i =>
      if s.running && start + bytes.length ≤ (s.file i).bytes.length then
        { s with files := s.files.modify i (·.write start bytes) }
      else s
  | .drop => if s.running then { s with current := none } else s
  | .exit => { s with running := false }
  | .sample => s.attach.look

def run (s : Scene) (acts : List Act) : Scene := acts.foldl act s

/-- The bus has met an unknown name. -/
def Met (s : Scene) (name : String) : Prop :=
  InputPin.parse? name = none ∧ ∃ pin ∈ s.taken, pin.name = name

instance (s : Scene) (name : String) : Decidable (s.Met name) := inferInstanceAs (Decidable (_ ∧ _))

end Scene

/-! ### The scene shows the stage

The first file of the panel gets the next free number of the directory, so file `i` of a scene is
file `start + i` there. While the bus is at work the file that stands under the name changes in a
single step, which is why `Shows` keeps it apart from the rest (`Sets`): creating is proved from
`Sets` alone, also at the very beginning, when nothing is known of the name yet.
-/

namespace Stage

/-- The segment of the inputs has no file. -/
def Missing (t : Stage) : Prop := ∀ ms, t.world.directory.find t.bus.inputSegment = .ok ms → ms = []

/-- The file with the panel's inputs is in its place. -/
def Stands (t : Stage) (number : Nat) : Prop :=
  t.world.directory.find t.bus.inputSegment
    = .ok [⟨Directory.fileName t.bus.inputSegment t.world.directory.self,
        t.world.directory.self, number⟩]

end Stage

namespace Scene

/-- The panel's hold on a file of the scene. -/
def writer (s : Scene) (start : Stage) (i : Nat) : SegmentWriter where
  name := start.bus.inputSegment
  file := Directory.fileName start.bus.inputSegment start.world.directory.self
  number := start.world.directory.files.length + i
  size := (s.file i).bytes.length
  version := (s.file i).version

/-- The bus's hold on a file of the scene. -/
def reader (s : Scene) (start : Stage) (m : Mark) : SegmentReader where
  name := start.bus.inputSegment
  number := start.world.directory.files.length + m.file
  size := (s.file m.file).bytes.length
  version := UInt64.ofNat (2 * m.seen)

/-- What the scene says about the directory, the panel and the bus, but for the file that stands
under the name. -/
structure Sets (s : Scene) (start t : Stage) : Prop where
  segment : t.bus.inputSegment = start.bus.inputSegment
  self : t.world.directory.self = start.world.directory.self
  takes : t.world.directory.takes t.bus.inputSegment = s.takes
  running : t.world.directory.alive t.world.directory.self = s.running
  length : t.world.directory.files.length = start.world.directory.files.length + s.files.length
  holds : ∀ i < s.files.length,
    (t.world.directory.file (start.world.directory.files.length + i)).Holds
      start.world.directory.self (s.file i)
  reader : t.bus.reader = s.hold.map (s.reader start)
  known : ∀ m, s.hold = some m → m.file < s.files.length ∧ m.seen ≤ (s.file m.file).writes
  inputs : t.bus.inputs = (InputSample.ofNamed s.shown).sample
  met : ∀ name, name ∈ t.bus.warned ↔ name ∈ start.bus.warned ∨ s.Met name
  warnings : ∀ name, t.world.warnings name = start.world.warnings name
    + if s.Met name ∧ name ∉ start.bus.warned then 1 else 0

/-- The scene shows how things are. -/
structure Shows (s : Scene) (start t : Stage) : Prop extends s.Sets start t where
  missing : s.current = none → t.Missing
  stands : ∀ i, s.current = some i →
    i < s.files.length ∧ t.Stands (start.world.directory.files.length + i)
  panel : t.panel = if s.running then s.current.map (s.writer start) else none

variable {s : Scene} {start t : Stage}

/-! ### Acts on a scene

One equation for each branch that an act takes on a scene. The proofs below rewrite with these and
never open the rules again.
-/

/-- While the file is there nobody creates another. -/
theorem act_create_of_current {i : Nat} (hcurrent : s.current = some i) (size : Nat) :
    s.act (.create size) = s :=
  if_neg (by simp [hcurrent])

theorem act_write_of_current {i : Nat} (hcurrent : s.current = some i) (place : Nat)
    (bytes : List UInt8) :
    s.act (.write place bytes) =
      if s.running && place + bytes.length ≤ (s.file i).bytes.length then
        { s with files := s.files.modify i (·.write place bytes) }
      else s := by
  simp only [act, hcurrent]

theorem attach_of_hold {m : Mark} (hhold : s.hold = some m) : s.attach = s := by
  simp only [attach, hhold]

theorem attach_of_missing (hcurrent : s.current = none) : s.attach = s := by
  cases hhold : s.hold <;> simp only [attach, hhold, hcurrent]

theorem attach_of_current {i : Nat} (hhold : s.hold = none) (hcurrent : s.current = some i) :
    s.attach = { s with hold := some { file := i, seen := 0 } } := by
  simp only [attach, hhold, hcurrent]

theorem look_of_none (hhold : s.hold = none) : s.look = s := by simp only [look, hhold]

theorem look_of_newer {m : Mark} (hhold : s.hold = some m)
    (hnewer : (s.file m.file).newer m.seen = true) :
    s.look =
      { s with
        hold := some { m with seen := (s.file m.file).writes }
        shown := (s.file m.file).pins.getD s.shown
        taken := s.taken ++ (s.file m.file).pins.getD [] } := by
  simp only [look, hhold, hnewer, if_true]

theorem look_of_running {m : Mark} (hhold : s.hold = some m)
    (hnewer : (s.file m.file).newer m.seen = false) (hrunning : s.running = true) :
    s.look = s := by
  simp only [look, hhold, hnewer, hrunning, Bool.false_eq_true, if_true, if_false]

theorem look_of_gone {m : Mark} (hhold : s.hold = some m)
    (hnewer : (s.file m.file).newer m.seen = false) (hrunning : s.running = false) :
    s.look = { s with hold := none, left := some m, shown := [] } := by
  simp only [look, hhold, hnewer, hrunning, Bool.false_eq_true, if_false]

/-- A sample changes nothing of the panel's. -/
theorem panel_sample (s : Scene) : s.attach.look.files = s.files ∧
    s.attach.look.current = s.current ∧ s.attach.look.running = s.running := by
  -- neither step of a sample touches what belongs to the panel
  have hattach : s.attach.files = s.files ∧ s.attach.current = s.current ∧
      s.attach.running = s.running := by
    unfold attach
    split <;> exact ⟨rfl, rfl, rfl⟩
  have hlook (s : Scene) : s.look.files = s.files ∧ s.look.current = s.current ∧
      s.look.running = s.running := by
    unfold look
    split
    · exact ⟨rfl, rfl, rfl⟩
    · dsimp only
      split
      · exact ⟨rfl, rfl, rfl⟩
      · split <;> exact ⟨rfl, rfl, rfl⟩
  obtain ⟨hfiles, hcurrent, hrunning⟩ := hlook s.attach
  exact ⟨hfiles.trans hattach.1, hcurrent.trans hattach.2.1, hrunning.trans hattach.2.2⟩

/-! ### The files of a scene

A new file leaves the old ones alone, and a write changes the one file that it is for.
-/

theorem file_append (s : Scene) (c : Contents) {i : Nat} (h : i < s.files.length) :
    file { s with files := s.files ++ [c] } i = s.file i := by
  rw [file, file, List.getD_eq_getElem?_getD, List.getD_eq_getElem?_getD,
    List.getElem?_append_left h]

theorem file_append_self (s : Scene) (c : Contents) :
    file { s with files := s.files ++ [c] } s.files.length = c := by
  rw [file, List.getD_eq_getElem?_getD, List.getElem?_append_right (Nat.le_refl _), Nat.sub_self]
  rfl

theorem file_modify (s : Scene) (f : Contents → Contents) {i j : Nat} (h : j < s.files.length) :
    file { s with files := s.files.modify i f } j = if i = j then f (s.file j) else s.file j := by
  rw [file, file, List.getD_eq_getElem?_getD, List.getD_eq_getElem?_getD, List.getElem?_modify]
  by_cases hi : i = j <;> simp [hi, h]

/-- The bus's hold is on a file of the same size. -/
theorem map_reader_congr {s' : Scene} (h : ∀ m, s.hold = some m →
    (s'.file m.file).bytes.length = (s.file m.file).bytes.length) :
    s.hold.map (s'.reader start) = s.hold.map (s.reader start) := by
  cases hhold : s.hold with
  | none => rfl
  | some m =>
      rw [Option.map_some, Option.map_some, reader, reader, h m hhold]

/-! ### Creating

A creation fails where the directory does not take the file, where the size is none for a segment,
or where the panel has the segment already; the scene has a guard for each of the three.
-/

/-- Where a segment was created, its file is the last one and stands under the name. -/
theorem Sets.created (h : s.Sets start t) {size : Nat} {w : SegmentWriter}
    (halive : t.world.directory.alive t.world.directory.self = true)
    (hcreate : (t.world.directory.create t.bus.inputSegment size).result = .ok w) :
    Shows { s with files := s.files ++ [.zeros size], current := some s.files.length } start
      (t.act (.create size)) := by
  have hcreated := Directory.create_eq_ok hcreate
  obtain rfl := hcreated.writer
  obtain ⟨hdirectory, hwarnings⟩ := World.noteRemoved_eq
    { t.world with directory := (t.world.directory.create t.bus.inputSegment size).directory }
    t.bus.inputSegment (t.world.directory.create t.bus.inputSegment size).removed
  have hact : t.act (.create size) =
      { t with
        world := ({ t.world with
            directory := (t.world.directory.create t.bus.inputSegment size).directory } :
          World).noteRemoved t.bus.inputSegment
            (t.world.directory.create t.bus.inputSegment size).removed
        panel := some
          { name := t.bus.inputSegment
            file := Directory.fileName t.bus.inputSegment t.world.directory.self
            number := t.world.directory.files.length, size } } := by
    unfold Stage.act World.createSegment
    dsimp only
    rw [if_pos halive, hcreate]
  have hgrown (i : Nat) (hi : i < s.files.length) :=
    file_append { s with current := some s.files.length } (.zeros size) hi
  have hlast := file_append_self { s with current := some s.files.length } (.zeros size)
  rw [hact]
  exact
    { segment := h.segment
      self := by rw [hdirectory, hcreated.self, h.self]
      takes := by rw [hdirectory, hcreated.takes, h.takes]
      running := by rw [hdirectory, hcreated.self, hcreated.alive, h.running]
      length := by
        rw [hdirectory, hcreated.length, List.length_append, h.length]
        rfl
      holds := by
        intro i hi
        have hlength := h.length
        rw [List.length_append, List.length_singleton] at hi
        rw [hdirectory]
        -- the files from before keep their place, and the last one is the new one, full of zeros
        rcases Nat.lt_or_eq_of_le (Nat.le_of_lt_succ hi) with hi | rfl
        · rw [hcreated.file_of_lt (by omega), hgrown i hi]
          exact h.holds i hi
        · rw [← hlength, hcreated.file_last, hlast, ← h.self]
          exact .newFile hcreated.sound
      reader := by
        refine h.reader.trans (map_reader_congr fun m hm => ?_).symm
        rw [hgrown _ (h.known m hm).1]
        rfl
      known := by
        intro m hm
        obtain ⟨hfile, hseen⟩ := h.known m hm
        rw [hgrown _ hfile, List.length_append]
        exact ⟨Nat.lt_succ_of_lt hfile, hseen⟩
      inputs := h.inputs
      met := h.met
      warnings := fun name => (hwarnings name).trans (h.warnings name)
      missing := nofun
      stands := by
        rintro i ⟨⟩
        rw [List.length_append, ← h.length]
        refine ⟨Nat.lt_succ_self _, ?_⟩
        unfold Stage.Stands
        rw [hdirectory, hcreated.self]
        exact hcreated.find
      panel := by
        have hzeros : (Contents.zeros size).bytes.length = size := List.length_replicate
        rw [if_pos (h.running.symm.trans halive), Option.map_some, writer, hlast, hzeros,
          ← h.segment, ← h.self, ← h.length]
        rfl }

/-- Where creating fails nothing changes. -/
theorem act_create_of_error {size : Nat} {fault : SegmentFault}
    (hcreate : t.world.directory.create t.bus.inputSegment size
      = { result := .error fault, directory := t.world.directory }) :
    t.act (.create size) = t := by
  unfold Stage.act World.createSegment
  dsimp only
  rw [hcreate]
  split <;> rfl

theorem Shows.create (h : s.Shows start t) (size : Nat) :
    (s.act (.create size)).Shows start (t.act (.create size)) := by
  by_cases hrunning : s.running = true
  · have halive := h.running.trans hrunning
    rcases hcurrent : s.current with _ | i
    · have hcreate := Directory.create_of_missing (h.missing hcurrent) size
      rw [h.takes] at hcreate
      by_cases hfits : Segment.sizeFault? size = none ∧ s.takes = true
      · rw [if_pos hfits] at hcreate
        obtain ⟨w, hw⟩ := hcreate
        have hact : s.act (.create size)
            = { s with files := s.files ++ [.zeros size], current := some s.files.length } :=
          if_pos (by simp [hrunning, hcurrent, hfits])
        rw [hact]
        exact h.toSets.created halive hw
      · rw [if_neg hfits] at hcreate
        obtain ⟨fault, herror⟩ := hcreate
        have hact : s.act (.create size) = s :=
          if_neg (by simpa [hrunning, hcurrent, and_comm] using hfits)
        rw [hact, act_create_of_error herror]
        exact h
    · -- the panel has the segment already
      obtain ⟨-, hstands⟩ := h.stands i hcurrent
      obtain ⟨fault, herror⟩ := Directory.create_of_owned hstands rfl size
      rw [act_create_of_current hcurrent, act_create_of_error herror]
      exact h
  · have hact : s.act (.create size) = s := if_neg (by simp [hrunning])
    have hact' : t.act (.create size) = t := if_neg (by rw [h.running]; exact hrunning)
    rw [hact, hact']
    exact h

/-! ### Writing

A write either lies within the file or fails without touching it. The panel writes the file that
stands under the name, for it drops the file when it gives the name up.
-/

/-- A write that fits is a write of the file that stands under the name. -/
theorem Shows.write_of_fits (h : s.Shows start t) {i place : Nat} {bytes : List UInt8}
    (hrunning : s.running = true) (hcurrent : s.current = some i)
    (hfits : place + bytes.length ≤ (s.file i).bytes.length) :
    Shows { s with files := s.files.modify i (·.write place bytes) } start
      (t.act (.write place bytes)) := by
  obtain ⟨hi, hstands⟩ := h.stands i hcurrent
  have hlength := h.length
  have hholds := h.holds i hi
  obtain ⟨hwrite, hholds'⟩ := SegmentWriter.writeAt_of_fits (w := s.writer start i)
    (show start.world.directory.files.length + i < _ by omega) rfl hholds hfits
  have hact : t.act (.write place bytes)
      = { t.within ((s.writer start i).wrote place bytes t.world.directory) with
          panel := some { s.writer start i with
            version := ((s.file i).write place bytes).version } } := by
    have hpanel := h.panel
    rw [hrunning, if_pos rfl, hcurrent, Option.map_some] at hpanel
    simp only [Stage.act, hpanel, hwrite]
  have hfile (j : Nat) (hj : j < s.files.length) := file_modify s (·.write place bytes) (i := i) hj
  have hsize (j : Nat) (hj : j < s.files.length) :
      (file { s with files := s.files.modify i (·.write place bytes) } j).bytes.length
        = (s.file j).bytes.length := by
    rw [hfile j hj]
    split
    · next hij =>
        subst hij
        exact Contents.length_write hfits
    · rfl
  have hwriter : writer { s with files := s.files.modify i (·.write place bytes) } start i
      = { s.writer start i with version := ((s.file i).write place bytes).version } := by
    simp only [writer, hfile i hi, if_true, Contents.length_write hfits]
  rw [hact]
  exact
    { segment := h.segment
      self := h.self
      takes := by
        rw [← h.takes]
        exact Directory.takes_congr rfl rfl rfl
      running := h.running
      length := by
        rw [List.length_modify, ← hlength]
        exact List.length_modify ..
      holds := by
        intro j hj
        rw [List.length_modify] at hj
        rw [hfile j hj]
        by_cases hij : i = j  -- only the file that is written changes, and only within its size
        · rw [if_pos hij, ← hij]
          exact hholds'
        · have hother := Directory.file_modify_ne (d := t.world.directory)
            (n := start.world.directory.files.length + i)
            (m := start.world.directory.files.length + j) (by omega)
          rw [if_neg hij]
          -- stated of the number that `modify` changes, not of the panel's writer
          refine Eq.mpr ?_ (h.holds j hj)
          exact congrArg (SegmentFile.Holds · _ _) (hother _)
      reader := by
        refine h.reader.trans (map_reader_congr fun m hm => ?_).symm
        exact hsize _ (h.known m hm).1
      known := by
        intro m hm
        obtain ⟨hm, hseen⟩ := h.known m hm
        rw [List.length_modify, hfile _ hm]
        refine ⟨hm, ?_⟩
        split
        · exact Nat.le_succ_of_le hseen
        · exact hseen
      inputs := h.inputs
      met := h.met
      warnings := h.warnings
      missing := fun hnone => by cases hcurrent.symm.trans hnone
      stands := by
        rw [List.length_modify]
        exact h.stands
      panel := by
        refine Eq.trans ?_ (if_pos hrunning).symm
        show some _ = s.current.map _
        rw [hcurrent]
        exact congrArg some hwriter.symm }

theorem Shows.write (h : s.Shows start t) (place : Nat) (bytes : List UInt8) :
    (s.act (.write place bytes)).Shows start (t.act (.write place bytes)) := by
  have hpanel := h.panel
  -- without a file under the name, or without a panel that runs, there is no writer on either side
  rcases hcurrent : s.current with _ | i
  · have hact : s.act (.write place bytes) = s := by simp only [act, hcurrent]
    have hact' : t.act (.write place bytes) = t := by
      rw [hcurrent, Option.map_none, ite_self] at hpanel
      simp only [Stage.act, hpanel]
    rw [hact, hact']
    exact h
  · rw [act_write_of_current hcurrent]
    by_cases hrunning : s.running = true
    · by_cases hfits : place + bytes.length ≤ (s.file i).bytes.length
      · rw [if_pos (by simp [hrunning, hfits])]
        exact h.write_of_fits hrunning hcurrent hfits
      · have hwrite := SegmentWriter.writeAt_of_not_fits (w := s.writer start i) rfl
          (h.holds i (h.stands i hcurrent).1) hfits
        have hact : t.act (.write place bytes) = t := by
          rw [hrunning, if_pos rfl, hcurrent, Option.map_some] at hpanel
          simp only [Stage.act, hpanel, hwrite]
          rfl
        rw [if_neg (by simp [hfits]), hact]
        exact h
    · have hact : t.act (.write place bytes) = t := by
        rw [if_neg hrunning] at hpanel
        simp only [Stage.act, hpanel]
      rw [if_neg (by simp [hrunning]), hact]
      exact h

/-! ### Dropping and exiting

Both leave the contents of all files as they are. Dropping takes the name away, exiting does not,
which is why a panel that exits leaves a file behind for others to find.
-/

theorem Shows.drop (h : s.Shows start t) : (s.act .drop).Shows start (t.act .drop) := by
  have hpanel := h.panel
  by_cases hrunning : s.running = true
  · have hact : s.act .drop = { s with current := none } := if_pos hrunning
    rw [if_pos hrunning] at hpanel
    -- dropping takes the file from its name; what the bus is attached to is found by its number
    rw [hact]
    rcases hcurrent : s.current with _ | i
    · have hact' : t.act .drop = t := by
        rw [hcurrent, Option.map_none] at hpanel
        simp only [Stage.act, hpanel]
      rw [hact']
      exact
        { h.toSets with
          missing := fun _ => h.missing hcurrent
          stands := nofun
          panel := by
            rw [hpanel, hcurrent]
            exact (if_pos hrunning).symm }
    · have hact' : t.act .drop
          = { t.within ((s.writer start i).drop t.world.directory) with panel := none } := by
        rw [hcurrent, Option.map_some] at hpanel
        simp only [Stage.act, hpanel]
      rw [hact']
      exact
        { segment := h.segment
          self := h.self
          takes := by
            rw [← h.takes]
            exact Directory.takes_congr rfl rfl rfl
          running := h.running
          length := h.length
          holds := h.holds
          reader := h.reader
          known := h.known
          inputs := h.inputs
          met := h.met
          warnings := h.warnings
          missing := by
            intro _ ms hms
            obtain ⟨-, hstands⟩ := h.stands i hcurrent
            rw [Stage.Stands, h.self, h.segment] at hstands
            change (t.world.directory.remove (s.writer start i).file).find t.bus.inputSegment
              = .ok ms at hms
            rw [h.segment] at hms
            exact Directory.find_remove hstands hms
          stands := nofun
          panel := (if_pos hrunning).symm }
  · have hact : s.act .drop = s := if_neg hrunning
    have hact' : t.act .drop = t := by
      rw [if_neg hrunning] at hpanel
      simp only [Stage.act, hpanel]
    rw [hact, hact']
    exact h

theorem Shows.exit (h : s.Shows start t) : (s.act .exit).Shows start (t.act .exit) where
  segment := h.segment
  self := h.self
  -- which process runs has no say in what a directory takes
  takes := by
    rw [act, ← h.takes]
    exact Directory.takes_congr rfl rfl rfl
  running := by simp [act, Stage.act, Stage.within]
  length := h.length
  holds := h.holds
  reader := h.reader
  known := h.known
  inputs := h.inputs
  met := h.met
  warnings := h.warnings
  missing := h.missing
  stands := h.stands
  panel := rfl

/-! ### Sampling

A sample attaches where that is possible and then looks. Along the way it counts itself among the
readers and writes to the journal, and a scene shows none of this.
-/

/-- Counting readers and writing a record that warns of no name change nothing. -/
theorem Shows.recount (h : s.Shows start t) (number : Nat) {f : SegmentHeader → SegmentHeader}
    (hf : ∀ header, ∃ count, f header = { header with readerCount := count })
    {message : String} (hmessage : message ≠ "ignoring unknown input pin") (level : LogLevel)
    (source : Source) (fields : List (String × String)) :
    s.Shows start
      { t with
        world := World.note
          { t.world with directory := t.world.directory.modifyHeader number f }
          level source message fields } := by
  -- to count a reader, and to write down that one does, leaves all that is shown
  have hcounts := Directory.Counts.modifyHeader t.world.directory number hf
  exact
    { segment := h.segment
      self := h.self
      takes := by
        rw [← h.takes]
        exact Directory.takes_congr rfl rfl rfl
      running := h.running
      length := (List.length_modify ..).trans h.length
      holds := fun j hj => (h.holds j hj).counts hcounts
      reader := h.reader
      known := h.known
      inputs := h.inputs
      met := h.met
      warnings := fun name =>
        (World.warnings_note_of_ne _ _ _ _ name hmessage).trans (h.warnings name)
      missing := h.missing
      stands := h.stands
      panel := h.panel }

/-- Attached to nothing, the bus attaches to the file that stands under the name. -/
theorem Shows.attach_of_stands (h : s.Shows start t) {i : Nat} (hhold : s.hold = none)
    (hcurrent : s.current = some i) :
    Shows { s with hold := some { file := i, seen := 0 } } start t.attach := by
  obtain ⟨hi, hstands⟩ := h.stands i hcurrent
  have hattach := Directory.attach_eq hstands (h.holds i hi)
  have hreader := h.reader
  rw [hhold, Option.map_none] at hreader
  -- the bus counts itself in, and makes a note that warns of nothing
  have hact : t.attach =
      { t with
        bus := { t.bus with reader := some (s.reader start { file := i, seen := 0 }) }
        world := World.note { t.world with
            directory := t.world.directory.modifyHeader
              (start.world.directory.files.length + i) (·.addReader) }
          .info .pins "panel inputs attached" [("segment", t.bus.inputSegment)] } := by
    unfold Stage.attach SegmentBus.attach World.attachSegment
    rw [hreader]
    dsimp only
    rw [hattach, reader, ← h.segment]
    rfl
  rw [hact]
  exact
    { h.recount _ (fun _ => ⟨_, rfl⟩) (by decide) _ _ _ with
      reader := rfl
      known := by
        rintro m ⟨⟩
        exact ⟨hi, Nat.zero_le _⟩ }

theorem Shows.attach (h : s.Shows start t) : s.attach.Shows start t.attach := by
  have hreader := h.reader
  -- a bus that is attached already, or finds no file, stays as it is
  rcases hhold : s.hold with _ | m
  · rcases hcurrent : s.current with _ | i
    · have hact : t.attach = t := by
        obtain ⟨fault, herror⟩ := Directory.attach_of_missing (h.missing hcurrent)
        rw [hhold, Option.map_none] at hreader
        unfold Stage.attach SegmentBus.attach World.attachSegment
        rw [hreader, herror]
      rw [attach_of_missing hcurrent, hact]
      exact h
    · rw [attach_of_current hhold hcurrent]
      exact h.attach_of_stands hhold hcurrent
  · have hact : t.attach = t := by
      rw [hhold, Option.map_some] at hreader
      unfold Stage.attach SegmentBus.attach
      rw [hreader]
    rw [attach_of_hold hhold, hact]
    exact h

/-- What was met in the frames before, and in one more. -/
theorem met_append {s' : Scene} {pins : List NamedPin} (h : s'.taken = s.taken ++ pins)
    (name : String) :
    s'.Met name ↔ s.Met name ∨ name ∈ (InputSample.ofNamed pins).unknown := by
  rw [InputSample.mem_unknown_iff, Met, Met, h, ← and_or_left]
  simp only [List.mem_append, or_and_right, exists_or]

/-- The bus reads what is new. -/
theorem Shows.read (h : s.Shows start t) {m : Mark} (hhold : s.hold = some m) :
    Shows { s with hold := some { m with seen := (s.file m.file).writes } } start
      { t with
        bus := { t.bus with
          reader := some { s.reader start m with version := (s.file m.file).version } } } :=
  { h with
    reader := rfl
    known := by
      rintro m' ⟨⟩
      exact ⟨(h.known m hhold).1, Nat.le_refl _⟩ }

/-- The bus takes a frame over, and warns of unknown names in it. -/
theorem Shows.take (h : s.Shows start t) (pins : List NamedPin) :
    Shows { s with shown := pins, taken := s.taken ++ pins } start
      { t with
        bus := { (t.bus.warn t.world (InputSample.ofNamed pins).unknown).1 with
          inputs := (InputSample.ofNamed pins).sample }
        world := (t.bus.warn t.world (InputSample.ofNamed pins).unknown).2 } := by
  obtain ⟨hbus, hdirectory⟩ := t.bus.warn_inputs t.world (InputSample.ofNamed pins).unknown
  have hwarned := t.bus.mem_warned_warn t.world (InputSample.ofNamed pins).unknown
  have hwarnings := t.bus.warnings_warn t.world (InputSample.ofNamed pins).unknown
  have hmet (name : String) : Met { s with shown := pins, taken := s.taken ++ pins } name ↔ _ :=
    met_append rfl name
  have hsegment : (t.bus.warn t.world (InputSample.ofNamed pins).unknown).1.inputSegment
      = t.bus.inputSegment := by rw [hbus]
  exact
    { segment := hsegment.trans h.segment
      self := by
        rw [hdirectory]
        exact h.self
      takes := by
        dsimp only
        rw [hdirectory, hsegment]
        exact h.takes
      running := by
        rw [hdirectory]
        exact h.running
      length := by
        rw [hdirectory]
        exact h.length
      holds := by
        rw [hdirectory]
        exact h.holds
      reader := by
        dsimp only
        rw [hbus]
        exact h.reader
      known := h.known
      inputs := rfl
      met := fun name => by
        rw [hwarned, h.met, hmet, or_assoc]
      warnings := fun name => by
        rw [hwarnings, h.warnings]
        -- a warning is counted for a name met for the first time that was not warned of before the
        -- start
        by_cases hbefore : s.Met name <;> by_cases hold : name ∈ start.bus.warned <;>
          simp [h.met, hmet, hbefore, hold]
      missing := fun hnone ms => by
        dsimp only
        rw [hdirectory, hsegment]
        exact h.missing hnone ms
      stands := fun i hi => by
        refine ⟨(h.stands i hi).1, ?_⟩
        unfold Stage.Stands
        dsimp only
        rw [hdirectory, hsegment]
        exact (h.stands i hi).2
      panel := h.panel }

/-- The bus gives up the file of a panel that is gone. -/
theorem Shows.leave (h : s.Shows start t) (m : Mark) :
    Shows { s with hold := none, left := some m, shown := [] } start
      { t with
        bus := { t.bus with reader := none, inputs := .empty }
        world := (t.world.note .warn .pins "panel input writer exited"
          [("segment", t.bus.inputSegment)]).dropReader (s.reader start m) } := by
  have hrecount := h.recount (s.reader start m).number (f := (·.removeReader))
    (fun _ => ⟨_, rfl⟩) (show "panel input writer exited" ≠ _ by decide) .warn .pins
    [("segment", t.bus.inputSegment)]
  exact
    { hrecount with
      reader := rfl
      known := nofun
      inputs := rfl }

theorem Shows.look (h : s.Shows start t) : s.look.Shows start t.look := by
  have hreader := h.reader
  rcases hhold : s.hold with _ | m
  · have hact : t.look = t := by
      rw [hhold, Option.map_none] at hreader
      unfold Stage.look SegmentBus.look
      rw [hreader]
    rw [look_of_none hhold, hact]
    exact h
  -- what the bus finds depends on whether there is something new, and if not, on whether the panel
  -- is still running
  · obtain ⟨hm, hseen⟩ := h.known m hhold
    rw [hhold, Option.map_some] at hreader
    have hlook := SegmentBus.look_eq hreader (h.holds m.file hm) rfl rfl hseen
    rw [← h.self, h.running] at hlook
    simp only [Stage.look, hlook]
    cases hnewer : (s.file m.file).newer m.seen with
    | true =>
        rw [look_of_newer hhold hnewer]
        cases hpins : (s.file m.file).pins with
        | none =>
            rw [Option.getD_none, Option.getD_none, List.append_nil]
            exact h.read hhold
        | some pins => exact (h.read hhold).take pins
    | false =>
        cases hrunning : s.running with
        | true =>
            rw [look_of_running hhold hnewer hrunning]
            exact h
        | false =>
            rw [look_of_gone hhold hnewer hrunning]
            exact h.leave m

/-! ### Acts -/

/-- **The scene goes on showing how things are.** -/
theorem Shows.act (h : s.Shows start t) (a : Act) : (s.act a).Shows start (t.act a) := by
  cases a with
  | create size => exact h.create size
  | write place bytes => exact h.write place bytes
  | drop => exact h.drop
  | exit => exact h.exit
  | sample => exact h.attach.look

theorem Shows.run (h : s.Shows start t) (acts : List Act) :
    (s.run acts).Shows start (t.run acts) := by
  induction acts generalizing s t with
  | nil => exact h
  | cons a acts ih => exact ih (h.act a)

/-- What the bus shows is the frame of the scene. -/
theorem Shows.sample (h : s.Shows start t) :
    t.sample = (InputSample.ofNamed s.attach.look.shown).sample :=
  h.attach.look.inputs

end Scene

/-! ### Beginnings

A bus that was attached to nothing before has no frame to show, so a run may begin with any
directory in which the panel is free to create its segment.
-/

namespace Stage

variable {start : Stage}

/-- The bus was attached to nothing yet, and the panel is running and has no segment. -/
structure Fresh (t : Stage) : Prop where
  reader : t.bus.reader = none
  inputs : t.bus.inputs = .empty
  panel : t.panel = none
  running : t.world.directory.alive t.world.directory.self = true

/-- The scene before the panel has done anything. -/
def opening (t : Stage) : Scene where
  takes := t.world.directory.takes t.bus.inputSegment

/-- The scene when the panel has created the segment. -/
def created (t : Stage) (size : Nat) : Scene :=
  { t.opening with files := [.zeros size], current := some 0 }

theorem Fresh.sets (h : start.Fresh) : start.opening.Sets start start where
  segment := rfl
  self := rfl
  takes := rfl
  running := h.running
  length := rfl
  holds := nofun
  reader := h.reader
  known := nofun
  inputs := h.inputs
  met := by simp [Scene.Met, opening]
  warnings := by simp [Scene.Met, opening]

/-- While the segment has no file the scene is empty. -/
theorem Fresh.shows (h : start.Fresh) (hmissing : start.Missing) :
    start.opening.Shows start start :=
  { h.sets with
    missing := fun _ => hmissing
    stands := nofun
    panel := h.panel }

/-- With the segment its file is there. -/
theorem Fresh.shows_created (h : start.Fresh) {size : Nat} {w : SegmentWriter}
    (hcreate : (start.world.directory.create start.bus.inputSegment size).result = .ok w) :
    (start.created size).Shows start (start.act (.create size)) :=
  h.sets.created h.running hcreate

/-- A bus in a directory without files. -/
def vacant : Stage where
  bus :=
    { inputSegment := "p_pins_in"
      writer := { name := "p_pins_out", file := "hmi_p_pins_out_1", number := 0, size := 16384 } }
  world :=
    { simulator := { status := {} }
      directory := { root := "", self := 77, alive := fun _ => true } }

theorem fresh_vacant : vacant.Fresh := ⟨rfl, rfl, rfl, rfl⟩

theorem missing_vacant : vacant.Missing := fun _ h => (Directory.find_eq_ok.1 h).2

theorem takes_vacant : vacant.world.directory.takes vacant.bus.inputSegment = true := by
  have hname : Directory.fileName vacant.bus.inputSegment vacant.world.directory.self
      = "hmi_p_pins_in_77" := by
    decide +kernel
  exact Directory.takes_of_name hname rfl rfl (by decide +kernel) (by simp) (by decide +kernel)

theorem create_vacant : ∃ w,
    (vacant.world.directory.create vacant.bus.inputSegment Segment.minSize).result = .ok w := by
  have hcreate := Directory.create_of_missing missing_vacant Segment.minSize
  rw [if_pos ⟨by decide, takes_vacant⟩] at hcreate
  exact hcreate

theorem opening_vacant : vacant.opening = { takes := true } :=
  congrArg (fun takes => ({ takes } : Scene)) takes_vacant

/-- The frame of some pins. -/
def frameOf (pins : List NamedPin) : List UInt8 :=
  ((Frame.encode Codec.pins .pins pins).toOption).getD []

end Stage
end OperatorPanel
