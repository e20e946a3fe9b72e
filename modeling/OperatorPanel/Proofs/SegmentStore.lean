import OperatorPanel.Proofs.SegmentNames

/-!
# What a segment holds

A segment is a store of bytes with a count of writes. `Contents` says so without header, version
and offsets; `Holds` says which file holds which contents; and every operation of writers and
readers is told once in these terms.

* `SegmentFile.Holds.write`: a write of the file is a write of what it holds.
* `SegmentWriter.writeAt_of_fits`, `SegmentReader.readRange_of_fits`: what fits goes through.
* `SegmentReader.hasChanged_eq`: a reader tells whether there were writes that it does not know of.
-/

namespace OperatorPanel

/-! ### Contents

The header of a segment file says with a version how often it was written: each write takes the
version up by two, and it is odd while a write is under way. A count of writes says the same until
the version wraps around, and is easier to reason with.
-/

/-- The bytes of a data section, and how many writes they have seen. -/
structure Contents where
  bytes : List UInt8
  writes : Nat := 0
  deriving DecidableEq

namespace Contents

/-- What a new segment holds. -/
def zeros (size : Nat) : Contents := { bytes := List.replicate size 0 }

/-- Write bytes over those that stand there. -/
def write (c : Contents) (start : Nat) (bytes : List UInt8) : Contents where
  bytes := c.bytes.take start ++ (bytes ++ c.bytes.drop (start + bytes.length))
  writes := c.writes + 1

/-- The version that stands for the number of writes. -/
def version (c : Contents) : UInt64 := UInt64.ofNat (2 * c.writes)

/-- Whether there is something new for a reader that knows of so many writes. Versions come round
after `2 ^ 63` writes. -/
def newer (c : Contents) (seen : Nat) : Bool := (c.writes - seen) % valuesOf 63 ≠ 0

variable {c : Contents} {start : Nat} {bytes : List UInt8}

theorem length_write (h : start + bytes.length ≤ c.bytes.length) :
    (c.write start bytes).bytes.length = c.bytes.length := by
  simp only [write, List.length_append, List.length_take, List.length_drop]
  omega

/-- A write changes the bytes that it covers and no others. -/
theorem getD_write (h : start + bytes.length ≤ c.bytes.length) (i : Nat) :
    (c.write start bytes).bytes.getD i 0
      = if start ≤ i ∧ i - start < bytes.length then bytes.getD (i - start) 0
        else c.bytes.getD i 0 := by
  have htake : (c.bytes.take start).length = start := List.length_take_of_le (by omega)
  -- a byte stands before the range that is written, in it, or behind it
  simp only [write, List.getD_eq_getElem?_getD]
  by_cases hstart : start ≤ i
  · rw [List.getElem?_append_right (by omega), htake]
    by_cases hlt : i - start < bytes.length
    · rw [List.getElem?_append_left hlt, if_pos ⟨hstart, hlt⟩]
    · have hback : start + bytes.length + (i - start - bytes.length) = i := by omega
      rw [List.getElem?_append_right (by omega), List.getElem?_drop, hback,
        if_neg (fun h => hlt h.2)]
  · rw [List.getElem?_append_left (by omega), List.getElem?_take_of_lt (by omega),
      if_neg (fun h => hstart h.1)]

/-- With fewer than `2 ^ 63` writes there is something new just when there was a write. -/
theorem newer_eq {seen : Nat} (h : c.writes < valuesOf 63) :
    c.newer seen = decide (seen < c.writes) := by
  rw [newer, Nat.mod_eq_of_lt (by omega)]
  congr 1
  simp only [ne_eq, eq_iff_iff]
  omega

/-- Whoever knows of all writes finds nothing new. -/
theorem newer_writes (c : Contents) : c.newer c.writes = false := by
  rw [newer, Nat.sub_self]
  rfl

/-- Versions tell apart what they can. -/
theorem version_ne_iff {seen : Nat} (h : seen ≤ c.writes) :
    c.version ≠ UInt64.ofNat (2 * seen) ↔ c.newer seen = true := by
  have hvalues : valuesOf 63 = 9223372036854775808 := rfl
  rw [newer, decide_eq_true_eq, hvalues, version, ne_eq, ← UInt64.toNat_inj,
    UInt64.toNat_ofNat', UInt64.toNat_ofNat']
  omega

/-- No write is in progress. -/
theorem stable_version (c : Contents) : Segment.stable c.version = true := by
  rw [Segment.stable, beq_iff_eq, ← UInt64.toNat_inj, version, UInt64.toNat_mod,
    UInt64.toNat_ofNat']
  show 2 * c.writes % 2 ^ 64 % 2 = 0
  omega

/-- A write takes the version through an odd value to the next even one. -/
theorem version_write : (c.write start bytes).version = c.version + 1 + 1 := by
  rw [version, version, write, Nat.mul_add, UInt64.ofNat_add, UInt64.add_assoc]
  rfl

end Contents

/-! ### Memory

A memory is a list of patches over zeros, so it has an extent, behind which there is nothing but
zeros. A block takes the bytes up to the extent and counts the rest, and the contents are all of
them.
-/

namespace Memory

/-- Nothing was written behind the extent. -/
theorem get_of_extent_le {m : Memory} {i : Nat} (h : m.extent ≤ i) : m.get i = 0 := by
  -- the extent is the greatest end of a patch
  have hfold (patches : List Patch) (n : Nat) :
      n ≤ patches.foldl (fun n p => max n p.finish) n ∧
        ∀ p ∈ patches, p.finish ≤ patches.foldl (fun n p => max n p.finish) n := by
    induction patches generalizing n with
    | nil => simp
    | cons p patches ih =>
        obtain ⟨hle, hall⟩ := ih (max n p.finish)
        rw [List.foldl_cons, List.forall_mem_cons]
        exact ⟨by omega, by omega, hall⟩
  have hnone : m.patches.findSome? (·.get? i) = none := by
    rw [List.findSome?_eq_none_iff]
    intro p hp
    have hfinish := (hfold m.patches 0).2 p hp
    have hextent : m.patches.foldl (fun n p => max n p.finish) 0 ≤ i := h
    rw [Patch.finish] at hfinish
    unfold Patch.get?
    split
    · rw [Array.getElem?_eq_none_iff]
      omega
    · rfl
  rw [get, hnone, Option.getD_none]

end Memory

/-- All bytes of a stretch. -/
def Block.toList (b : Block) : List UInt8 := b.take b.length

/-- Told byte by byte, a block is what the memory has in its range. -/
theorem Memory.toList_block (m : Memory) (start length : Nat) :
    (m.block start length).toList = (List.range length).map fun i => m.get (start + i) := by
  have hlength : (m.block start length).length = length := rfl
  -- up to the extent the bytes are there; beyond it they are zeros
  generalize hn : min length (m.extent - start) = n
  have hleading : (m.block start length).leading
      = (List.range n).map fun i => m.get (start + i) := by
    rw [← hn]
    rfl
  rw [Block.toList, Block.take, Nat.min_self, hlength, hleading, List.length_map,
    List.length_range, List.take_of_length_le (by simp; omega)]
  apply List.ext_getElem
  · simp
    omega
  · intro i hi hi'
    simp only [List.length_map, List.length_range] at hi'
    simp only [List.getElem_append, List.length_map, List.length_range, List.getElem_map,
      List.getElem_range, List.getElem_replicate]
    split
    · rfl
    · exact (get_of_extent_le (by omega)).symm

/-! ### Files

That a file holds some contents is the invariant of everything below: its header is in order and
agrees with the contents in length and version, and its memory with the bytes. It names the process
that made the file, since readers ask for it.
-/

/-- A segment file that a process made holds some contents. -/
structure SegmentFile.Holds (f : SegmentFile) (pid : UInt32) (c : Contents) : Prop where
  sound : Segment.sizeFault? c.bytes.length = none
  length : f.length = Segment.headerLength + c.bytes.length
  magic : f.header.magic = Segment.magic
  writer : f.header.writerPid = pid
  size : f.header.size = UInt64.ofNat c.bytes.length
  version : f.header.version = c.version
  data : ∀ i, f.data.get i = c.bytes.getD i 0

namespace SegmentFile.Holds

variable {f : SegmentFile} {pid : UInt32} {c : Contents} {start : Nat} {bytes : List UInt8}

/-- What a file holds is not longer than a segment may be. -/
theorem length_le (h : f.Holds pid c) : c.bytes.length ≤ Segment.maxSize := by
  have hsound := h.sound
  unfold Segment.sizeFault? at hsound
  split at hsound
  · next hsize => exact hsize.2.1
  · cases hsound

/-- So its length can be read off the header. -/
theorem toNat_size (h : f.Holds pid c) : f.header.size.toNat = c.bytes.length := by
  have hmax : Segment.maxSize = 1073741824 := rfl
  have hle := h.length_le
  rw [h.size, UInt64.toNat_ofNat']
  omega

/-- A new file holds zeros. -/
theorem newFile {d : Directory} {size : Nat} (h : Segment.sizeFault? size = none) :
    (d.newFile size).Holds d.self (.zeros size) := by
  have hlength : (Contents.zeros size).bytes.length = size := List.length_replicate
  refine ⟨by rw [hlength]; exact h, by rw [hlength]; rfl, rfl, rfl, by rw [hlength]; rfl, rfl,
    fun i => ?_⟩
  show ({} : Memory).get i = (List.replicate size 0).getD i 0
  rw [Memory.get_empty, List.getD_eq_getElem?_getD, List.getElem?_replicate]
  split <;> rfl

/-- A write is a write of the contents. -/
theorem write (h : f.Holds pid c) (hfits : start + bytes.length ≤ c.bytes.length) (now : Nat) :
    Holds { f with header := { f.header.advance.advance with lastWrite := now },
                   data := f.data.write start bytes } pid (c.write start bytes) := by
  have hlength := Contents.length_write hfits
  refine ⟨by rw [hlength]; exact h.sound, by rw [hlength]; exact h.length, h.magic, h.writer,
    by rw [hlength]; exact h.size, ?_, fun i => ?_⟩
  · rw [Contents.version_write, ← h.version]
    rfl
  · rw [Contents.getD_write hfits, ← h.data]
    exact f.data.get_write start bytes i

/-- Who reads makes no difference. -/
theorem count (h : f.Holds pid c) (n : UInt32) :
    Holds { f with header := { f.header with readerCount := n } } pid c :=
  ⟨h.sound, h.length, h.magic, h.writer, h.size, h.version, h.data⟩

/-- The file is in order. -/
theorem fault?_eq_none (h : f.Holds pid c) (name : String) : f.fault? name = none := by
  have hheader : Segment.headerLength = 128 := rfl
  have hlength := h.length
  unfold SegmentFile.fault? SegmentHeader.fault?
  rw [if_neg (by omega), h.magic, if_pos rfl, h.toNat_size, h.sound, if_neg (by omega)]
  rfl

/-- Reading gives the bytes that the contents have there. -/
theorem toList_block (h : f.Holds pid c) {length : Nat}
    (hfits : start + length ≤ c.bytes.length) :
    (f.data.block start length).toList = (c.bytes.drop start).take length := by
  rw [Memory.toList_block]
  apply List.ext_getElem
  · simp
    omega
  · intro i hi hi'
    simp only [List.length_map, List.length_range] at hi
    rw [List.getElem_map, List.getElem_range, List.getElem_take, List.getElem_drop, h.data,
      List.getD_eq_getElem?_getD, List.getElem?_eq_getElem (by omega), Option.getD_some]

end SegmentFile.Holds

/-- The end of a range that begins within the greatest address is told right as far as segments
go. -/
theorem Segment.lt_rangeEnd_iff {size start length : Nat} (h : size ≤ Segment.maxSize) :
    size < Segment.rangeEnd start length ↔ size < start + length := by
  have hmax : Segment.maxSize = 1073741824 := rfl
  have hvalues : valuesOf 64 = 18446744073709551616 := rfl
  rw [Segment.rangeEnd, hvalues]
  omega

/-! ### Operations

The files of a directory are numbered, and an operation changes the file of one number. The lemmas
say what that means for this file and for every other.
-/

namespace Directory

variable {d : Directory} {n m : Nat}

theorem file_modify (d : Directory) (n m : Nat) (f : SegmentFile → SegmentFile) :
    (d.modify n f).file m = if n = m ∧ m < d.files.length then f (d.file m) else d.file m := by
  unfold modify file
  rw [List.getD_eq_getElem?_getD, List.getD_eq_getElem?_getD, List.getElem?_modify]
  by_cases hm : m < d.files.length
  · by_cases hn : n = m
    · simp [hm, hn]
    · simp [hn]
  · simp [hm]

theorem file_modify_self (h : n < d.files.length) (f : SegmentFile → SegmentFile) :
    (d.modify n f).file n = f (d.file n) := by
  rw [file_modify, if_pos ⟨rfl, h⟩]

theorem file_modify_ne (h : n ≠ m) (f : SegmentFile → SegmentFile) :
    (d.modify n f).file m = d.file m := by
  rw [file_modify, if_neg (fun hn => h hn.1)]

theorem length_modify (d : Directory) (n : Nat) (f : SegmentFile → SegmentFile) :
    (d.modify n f).files.length = d.files.length := List.length_modify ..

/-! ### Creating

Creating a segment adds a file at the end, after stale ones were removed from the entries. The files
before it keep their numbers, so the ends that hold one go on with it.
-/

namespace Created

variable {name : String} {size : Nat} {w : SegmentWriter} {d' : Directory}

theorem self (h : Created d name size w d') : d'.self = d.self := by rw [h.rest]

theorem alive (h : Created d name size w d') : d'.alive = d.alive := by rw [h.rest]

theorem takes (h : Created d name size w d') : d'.takes name = d.takes name := by
  rw [h.rest]
  exact takes_congr rfl rfl rfl

theorem length (h : Created d name size w d') : d'.files.length = d.files.length + 1 := by
  rw [h.rest]
  exact List.length_append

/-- The files that were there are still there. -/
theorem file_of_lt (h : Created d name size w d') (hn : n < d.files.length) :
    d'.file n = d.file n := by
  rw [h.rest]
  show (d.files ++ [_]).getD n default = d.files.getD n default
  rw [List.getD_eq_getElem?_getD, List.getD_eq_getElem?_getD, List.getElem?_append_left hn]

theorem file_last (h : Created d name size w d') : d'.file d.files.length = d.newFile size := by
  rw [h.rest]
  show (d.files ++ [_]).getD d.files.length default = _
  rw [List.getD_eq_getElem?_getD, List.getElem?_append_right (Nat.le_refl _), Nat.sub_self]
  rfl

end Created

/-! ### Attaching

Attaching reads the header of the file that was selected, and counts the reader in. The contents
stay, since the count is not part of them.
-/

/-- Counting readers leaves a file as it is. -/
theorem holds_modifyHeader {pid : UInt32} {c : Contents} {f : SegmentHeader → SegmentHeader}
    {count : UInt32} (hinside : n < d.files.length)
    (h : (d.file n).Holds pid c)
    (hf : f (d.file n).header = { (d.file n).header with readerCount := count }) :
    ((d.modifyHeader n f).file n).Holds pid c ∧
      ((d.modifyHeader n f).file n).header.readerCount = count := by
  unfold modifyHeader
  rw [file_modify_self hinside, hf]
  exact ⟨h.count count, rfl⟩

/-- Attaching fails, or it counts a reader in the file that was selected. -/
theorem attach_cases (d : Directory) (name : String) :
    (∃ fault, d.attach name = (.error fault, d)) ∨
      ∃ m r, d.select name = .ok m ∧ r.number = m.number ∧
        d.attach name = (.ok r, d.modifyHeader r.number (·.addReader)) := by
  unfold attach
  cases d.select name with
  | error fault => exact .inl ⟨fault, rfl⟩
  | ok m =>
      dsimp only
      cases (d.file m.number).fault? name with
      | some fault => exact .inl ⟨fault, rfl⟩
      | none => exact .inr ⟨m, _, rfl, rfl, rfl⟩

/-- With one file there is no choice. -/
theorem select_of_single {name : String} {m : Match} (h : d.find name = .ok [m]) :
    d.select name = .ok m := by
  unfold select
  rw [h]
  rfl

/-- Where the segment has one file, and this is in order, one attaches to it. -/
theorem attach_eq {name : String} {m : Match} {pid : UInt32} {c : Contents}
    (hfind : d.find name = .ok [m]) (h : (d.file m.number).Holds pid c) :
    d.attach name = (.ok { name, number := m.number, size := c.bytes.length },
      d.modifyHeader m.number (·.addReader)) := by
  unfold attach
  rw [select_of_single hfind]
  dsimp only
  rw [h.fault?_eq_none, h.toNat_size]

/-- Where the segment has no file, nobody attaches. -/
theorem attach_of_missing {name : String} (hnone : ∀ ms, d.find name = .ok ms → ms = []) :
    ∃ fault, d.attach name = (.error fault, d) := by
  unfold attach select
  cases hfind : d.find name with
  | error fault => exact ⟨fault, rfl⟩
  | ok ms =>
      obtain rfl := hnone ms hfind
      exact ⟨_, rfl⟩

end Directory

/-- Who attaches is counted, and otherwise nothing changes. -/
theorem World.directory_attachSegment (w : World) (name : String) :
    match w.attachSegment name with
    | (.ok reader, w') => w'.directory = w.directory.modifyHeader reader.number (·.addReader)
    | (.error _, w') => w'.directory = w.directory := by
  unfold World.attachSegment
  rcases w.directory.attach_cases name with ⟨fault, h⟩ | ⟨m, r, _, _, h⟩ <;> rw [h]

namespace SegmentWriter

variable {w : SegmentWriter} {d : Directory} {pid : UInt32} {c : Contents} {start : Nat}
  {bytes : List UInt8}

/-- What a write makes of the directory. -/
def wrote (w : SegmentWriter) (start : Nat) (bytes : List UInt8) (d : Directory) : Directory :=
  (d.modify w.number fun file =>
    { file with
      header := { file.header.advance.advance with lastWrite := d.now }
      data := file.data.write start bytes }).tick

/-- **A write that fits** goes through, and the file holds what was written. -/
theorem writeAt_of_fits (hinside : w.number < d.files.length) (hsize : w.size = c.bytes.length)
    (h : (d.file w.number).Holds pid c) (hfits : start + bytes.length ≤ c.bytes.length) :
    w.writeAt start bytes d
        = (.ok { w with version := (c.write start bytes).version }, w.wrote start bytes d) ∧
      ((w.wrote start bytes d).file w.number).Holds pid (c.write start bytes) := by
  have hfile : (w.wrote start bytes d).file w.number
      = { d.file w.number with
          header := { (d.file w.number).header.advance.advance with lastWrite := d.now }
          data := (d.file w.number).data.write start bytes } :=
    Directory.file_modify_self hinside _
  have hholds := h.write hfits d.now
  rw [← hfile] at hholds
  refine ⟨?_, hholds⟩
  have hle : ¬w.size < Segment.rangeEnd start bytes.length := by
    rw [hsize, Segment.lt_rangeEnd_iff h.length_le]
    omega
  rw [← hholds.version]
  exact if_neg hle

/-- **A write that does not fit** changes nothing. -/
theorem writeAt_of_not_fits (hsize : w.size = c.bytes.length)
    (h : (d.file w.number).Holds pid c) (hfits : ¬start + bytes.length ≤ c.bytes.length) :
    w.writeAt start bytes d
      = (.error (.invalidSize (Segment.rangeEnd start bytes.length)), d) := by
  have hlt : w.size < Segment.rangeEnd start bytes.length := by
    rw [hsize, Segment.lt_rangeEnd_iff h.length_le]
    omega
  exact if_pos hlt

end SegmentWriter

namespace SegmentReader

variable {r : SegmentReader} {d : Directory} {pid : UInt32} {c : Contents} {start length : Nat}

/-- **A read that fits** gives the bytes, and from then on the reader knows of all writes. -/
theorem readRange_of_fits (hsize : r.size = c.bytes.length) (h : (d.file r.number).Holds pid c)
    (hfits : start + length ≤ c.bytes.length) :
    r.readRange start length d
      = .ok ((d.file r.number).data.block start length, { r with version := c.version }) := by
  have hle : ¬r.size < Segment.rangeEnd start length := by
    rw [hsize, Segment.lt_rangeEnd_iff h.length_le]
    omega
  have hversion : (r.header d).version = c.version := h.version
  unfold readRange
  dsimp only
  rw [if_neg hle, hversion, if_pos c.stable_version]

/-- **A read that does not fit** tells the reader nothing. -/
theorem readRange_of_not_fits (hsize : r.size = c.bytes.length)
    (h : (d.file r.number).Holds pid c) (hfits : ¬start + length ≤ c.bytes.length) :
    r.readRange start length d = .error (.invalidSize (Segment.rangeEnd start length)) := by
  have hlt : r.size < Segment.rangeEnd start length := by
    rw [hsize, Segment.lt_rangeEnd_iff h.length_le]
    omega
  exact if_pos hlt

/-- Reading the whole section gives all that it holds. -/
theorem read_eq (hsize : r.size = c.bytes.length) (h : (d.file r.number).Holds pid c) :
    ∃ block, r.read d = .ok (block, { r with version := c.version }) ∧ block.toList = c.bytes := by
  have hfits : 0 + r.size ≤ c.bytes.length := by omega
  have hblock := h.toList_block hfits
  rw [hsize, List.drop_zero, List.take_length, ← hsize] at hblock
  exact ⟨_, readRange_of_fits hsize h hfits, hblock⟩

/-- **A reader asks for news** by comparing versions. -/
theorem hasChanged_eq {seen : Nat} (h : (d.file r.number).Holds pid c)
    (hseen : r.version = UInt64.ofNat (2 * seen)) (hle : seen ≤ c.writes) :
    r.hasChanged d = c.newer seen := by
  have hversion : (r.header d).version = c.version := h.version
  unfold hasChanged
  dsimp only
  rw [hversion, c.stable_version, Bool.and_true, Bool.eq_iff_iff, bne_iff_ne, hseen]
  exact Contents.version_ne_iff hle

end SegmentReader
end OperatorPanel
