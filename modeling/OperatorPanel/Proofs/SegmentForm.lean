import OperatorPanel.Proofs.SegmentStore

/-!
# Files that one attaches to

A file under the name of a segment may hold anything: another program may have put it there, or a
writer may have crashed while it made it. `SegmentFile.WellFormed` says which files describe a
segment, and the main result `Directory.attach_iff_wellFormed` that attaching accepts these and no
others. It then counts the reader and changes nothing else, and every range that the reader takes
lies inside the file. What is wrong with the other files, in the order in which it is looked for,
says `SegmentFile.Faulty`; they are left as they are.
-/

namespace OperatorPanel

/-! ### The form of a segment -/

/-- A data section may have this size. -/
structure Segment.ValidSize (size : Nat) : Prop where
  least : minSize ≤ size
  greatest : size ≤ maxSize
  whole : size % minSize = 0

theorem Segment.sizeFault?_of_valid {size : Nat} (h : ValidSize size) : sizeFault? size = none :=
  if_pos ⟨h.least, h.greatest, h.whole⟩

theorem Segment.sizeFault?_of_not_valid {size : Nat} (h : ¬ValidSize size) :
    sizeFault? size = some (.invalidSize size) := by
  apply if_neg
  intro hsize
  exact h ⟨hsize.1, hsize.2.1, hsize.2.2⟩

namespace SegmentFile

/-- The file describes a segment and is long enough for it. -/
structure WellFormed (f : SegmentFile) : Prop where
  header : Segment.headerLength ≤ f.length
  magic : f.header.magic = Segment.magic
  size : Segment.ValidSize f.header.size.toNat
  data : Segment.headerLength + f.header.size.toNat ≤ f.length

/-- What is wrong with a file. Each check presupposes those before it. -/
inductive Faulty (f : SegmentFile) (name : String) : SegmentFault → Prop
  | short : f.length < Segment.headerLength → Faulty f name (.corrupted name)
  | foreign : Segment.headerLength ≤ f.length → f.header.magic ≠ Segment.magic →
      Faulty f name (.corrupted name)
  | size : Segment.headerLength ≤ f.length → f.header.magic = Segment.magic →
      ¬Segment.ValidSize f.header.size.toNat →
      Faulty f name (.invalidSize f.header.size.toNat)
  | cut : Segment.headerLength ≤ f.length → f.header.magic = Segment.magic →
      Segment.ValidSize f.header.size.toNat →
      f.length < Segment.headerLength + f.header.size.toNat → Faulty f name (.corrupted name)

variable {f : SegmentFile} {name : String} {fault : SegmentFault}

theorem Faulty.not_wellFormed (h : f.Faulty name fault) : ¬f.WellFormed := by
  intro hf
  cases h with
  | short hshort => exact Nat.not_lt.2 hf.header hshort
  | foreign _ hmagic => exact hmagic hf.magic
  | size _ _ hsize => exact hsize hf.size
  | cut _ _ _ hcut => exact Nat.not_lt.2 hf.data hcut

/-- Every file is in order or has one of the faults, and the check tells which. -/
theorem fault?_cases (f : SegmentFile) (name : String) :
    (f.WellFormed ∧ f.fault? name = none) ∨
      ∃ fault, f.Faulty name fault ∧ f.fault? name = some fault := by
  unfold fault? SegmentHeader.fault?
  -- the checks in the order in which they are made; each one may rely on those before it
  by_cases hshort : f.length < Segment.headerLength
  · right
    exact ⟨_, .short hshort, if_pos hshort⟩
  rw [if_neg hshort]
  have hheader := Nat.not_lt.1 hshort
  by_cases hmagic : f.header.magic ≠ Segment.magic
  · right
    exact ⟨_, .foreign hheader hmagic, by simp [hmagic]⟩
  have hmagic := Decidable.not_not.1 hmagic
  rw [if_pos hmagic, Option.none_or]
  by_cases hsize : ¬Segment.ValidSize f.header.size.toNat
  · right
    exact ⟨_, .size hheader hmagic hsize, by simp [Segment.sizeFault?_of_not_valid hsize]⟩
  have hsize := Classical.not_not.1 hsize
  rw [Segment.sizeFault?_of_valid hsize, Option.none_or]
  by_cases hcut : f.length < Segment.headerLength + f.header.size.toNat
  · right
    exact ⟨_, .cut hheader hmagic hsize hcut, if_pos hcut⟩
  · left
    exact ⟨⟨hheader, hmagic, hsize, Nat.not_lt.1 hcut⟩, if_neg hcut⟩

/-- With one more reader. -/
def counted (f : SegmentFile) : SegmentFile :=
  { f with header := { f.header with readerCount := f.header.readerCount + 1 } }

end SegmentFile

/-! ### What a reader takes -/

/-- A range is taken when it ends within the data and no write is in progress. -/
theorem SegmentReader.readRange_isOk_iff {r : SegmentReader} {start length : Nat} {d : Directory}
    (hsize : r.size ≤ Segment.maxSize) :
    (∃ block r', r.readRange start length d = .ok (block, r')) ↔
      start + length ≤ r.size ∧ Segment.stable (r.header d).version = true := by
  unfold readRange
  dsimp only
  rw [← Nat.not_lt, ← Segment.lt_rangeEnd_iff hsize]
  by_cases hend : r.size < Segment.rangeEnd start length
  · simp [hend]
  · by_cases hstable : Segment.stable (r.header d).version
    · simp [hend, hstable]
    · simp [hend, hstable]

/-! ### Attaching -/

namespace Directory

variable {d : Directory} {name : String} {m : Match}

theorem attach_of_faulty {fault : SegmentFault} (h : d.find name = .ok [m])
    (hfault : (d.file m.number).fault? name = some fault) : d.attach name = (.error fault, d) := by
  unfold attach
  rw [select_of_single h]
  dsimp only
  rw [hfault]

theorem attach_of_wellFormed (h : d.find name = .ok [m])
    (hfault : (d.file m.number).fault? name = none) :
    d.attach name =
      (.ok { name, number := m.number, size := (d.file m.number).header.size.toNat },
        { d with files := d.files.set m.number (d.file m.number).counted }) := by
  unfold attach modifyHeader modify
  rw [select_of_single h]
  dsimp only
  rw [hfault, List.modify_eq_set]
  rfl

/-- A file that has a header is there. -/
theorem lt_of_wellFormed {n : Nat} (h : (d.file n).WellFormed) : n < d.files.length := by
  apply Nat.lt_of_not_le
  intro hle
  have hlength := h.header
  unfold file at hlength
  rw [List.getD_eq_getElem?_getD, List.getElem?_eq_none hle] at hlength
  exact absurd hlength (by decide)

/-- **Attaching to the only file of a segment succeeds just when it is well formed.** The header
then counts one reader more, which is all that changes, and wherever the reader is used later, a
range that it takes lies inside the file. Otherwise attaching fails for what is wrong with the file,
and nothing changes at all. -/
theorem attach_iff_wellFormed (h : d.find name = .ok [m]) :
    ((∃ reader, (d.attach name).1 = .ok reader) ↔ (d.file m.number).WellFormed) ∧
    ((d.file m.number).WellFormed → ∃ reader d', d.attach name = (.ok reader, d') ∧
      reader = { name, number := m.number, size := (d.file m.number).header.size.toNat } ∧
      d'.file m.number = (d.file m.number).counted ∧
      d' = { d with files := d.files.set m.number (d.file m.number).counted } ∧
      ∀ version later start length block reader',
        { reader with version }.readRange start length later = .ok (block, reader') →
        Segment.headerLength + (start + length) ≤ (d.file m.number).length) ∧
    (¬(d.file m.number).WellFormed →
      ∃ fault, (d.file m.number).Faulty name fault ∧ d.attach name = (.error fault, d)) := by
  -- the two cases exclude each other, so each of the three parts is an argument on one side
  rcases (d.file m.number).fault?_cases name with ⟨hform, hfault⟩ | ⟨fault, hfaulty, hfault⟩
  · have hattach := attach_of_wellFormed h hfault
    refine ⟨?_, ?_, ?_⟩
    · rw [hattach]
      exact ⟨fun _ => hform, fun _ => ⟨_, rfl⟩⟩
    · intro _
      refine ⟨_, _, hattach, rfl, ?_, rfl, ?_⟩
      · have hlt := lt_of_wellFormed hform
        show (d.files.set m.number _).getD m.number default = _
        simp [hlt]
      · -- the range lies in the data that the header promises, and these lie in the file
        intro version later start length block reader' hread
        have htaken := (SegmentReader.readRange_isOk_iff hform.size.greatest).1 ⟨_, _, hread⟩
        exact Nat.le_trans (Nat.add_le_add_left htaken.1 _) hform.data
    · intro hnot
      exact absurd hform hnot
  · have hattach := attach_of_faulty h hfault
    have hnot := hfaulty.not_wellFormed
    refine ⟨?_, ?_, ?_⟩
    · rw [hattach]
      constructor
      · rintro ⟨_, hok⟩
        cases hok
      · intro hform
        exact absurd hform hnot
    · intro hform
      exact absurd hform hnot
    · intro _
      exact ⟨fault, hfaulty, hattach⟩

/-- The file of a writer that crashed while it wrote, cut to some length. -/
def abandoned (length : Nat) : Directory where
  root := ""
  self := 1
  alive := fun _ => false
  entries := [("hmi_p_77", 0)]
  files :=
    [{ length
       header :=
         { magic := Segment.magic, version := 3, writerPid := 77, readerCount := 1
           size := UInt64.ofNat Segment.minSize } }]

/-- The file is accepted with its last byte and not without it. -/
theorem attach_iff_wellFormed_abandoned :
    (∃ reader d', (abandoned 4224).attach "p" = (.ok reader, d') ∧
      (d'.file 0).header.readerCount = 2) ∧
    (abandoned 4223).attach "p" = (.error (.corrupted "p"), abandoned 4223) := by
  have hfind (length : Nat) : (abandoned length).find "p" = .ok [⟨"hmi_p_77", 77, 0⟩] := by
    have howner : owner? "p" "hmi_p_77" = some 77 := by decide +kernel
    simp [find, abandoned, howner]
  -- the least size that a segment can have: the data end after 4224 bytes
  have hsize : Segment.ValidSize (UInt64.ofNat Segment.minSize).toNat :=
    ⟨by decide, by decide, by decide⟩
  constructor
  · obtain ⟨reader, d', hattach, -, hfile, -⟩ :=
      (attach_iff_wellFormed (hfind 4224)).2.1 ⟨by decide, rfl, hsize, by decide⟩
    exact ⟨reader, d', hattach, by rw [hfile]; rfl⟩
  · have hcut : ¬((abandoned 4223).file 0).WellFormed := by
      intro h
      exact absurd h.data (by decide)
    obtain ⟨fault, hfaulty, hattach⟩ := (attach_iff_wellFormed (hfind 4223)).2.2 hcut
    -- the faults that come before have nothing to find here
    cases hfaulty with
    | short hshort => exact absurd hshort (by decide)
    | foreign _ hmagic => exact absurd rfl hmagic
    | size _ _ hnot => exact absurd hsize hnot
    | cut => exact hattach

end Directory
end OperatorPanel
