import OperatorPanel.Proofs.SegmentStore

/-!
# A segment and its ledger

A writer and any number of readers share a segment. A `Ledger` says what is meant by that: the
contents, and for everyone who attached the number of writes that is known. Whatever they do in
turn, they get the replies of the ledger, and what can be looked at is what the ledger shows
(`Segment.store_semantics`). That the ledger tells how things are (`Segment.Ledger.Tells`) is kept
by every single use and so by all of them.
-/

namespace OperatorPanel

/-- The reader of a segment that knows of so many writes. -/
def SegmentWriter.readerAt (w : SegmentWriter) (seen : Nat) : SegmentReader where
  name := w.name
  number := w.number
  size := w.size
  version := UInt64.ofNat (2 * seen)

namespace Segment

/-! ### Uses

A segment is used by its one writer and by readers who come and go. Both sides are written down as
data, the uses and the replies, so that a run of the code and one of the ledger can be compared
reply by reply.
-/

/-- What is done with a segment. Readers go by the order in which they attached. -/
inductive Use where
  | write (start : Nat) (bytes : List UInt8)
  | attach
  | read (reader start length : Nat)
  | ask (reader : Nat)
  | detach (reader : Nat)

/-- What comes back. -/
inductive Reply where
  | done
  | fault (fault : SegmentFault)
  | bytes (bytes : List UInt8)
  | changed (changed : Bool)
  | noReader
  deriving DecidableEq

/-- What can be looked at: the data section, the version in the header and the one that the writer
knows, the count of readers, and for every reader the version that it read last. -/
@[ext] structure View where
  bytes : List UInt8
  version : UInt64
  writer : UInt64
  count : UInt32
  readers : List (Option UInt64)

/-- A segment in its directory, with its writer and those who ever attached to it. -/
structure Ends where
  directory : Directory
  writer : SegmentWriter
  readers : List (Option SegmentReader) := []

namespace Ends

/-- Put the segment to use. -/
def use (e : Ends) : Use → Reply × Ends
  | .write start bytes =>
    match e.writer.writeAt start bytes e.directory with
    | (.error fault, directory) => (.fault fault, { e with directory })
    | (.ok writer, directory) => (.done, { e with directory, writer })
  | .attach =>
    match e.directory.attach e.writer.name with
    | (.error fault, directory) => (.fault fault, { e with directory })
    | (.ok reader, directory) =>
      (.done, { e with directory, readers := e.readers ++ [some reader] })
  | .read i start length => -- a reader that has detached, or never attached, is asked for nothing
    match e.readers.getD i none with
    | none => (.noReader, e)
    | some reader =>
      match reader.readRange start length e.directory with
      | .error fault => (.fault fault, e)
      | .ok (block, reader) =>
        (.bytes block.toList, { e with readers := e.readers.set i (some reader) })
  | .ask i =>
    match e.readers.getD i none with
    | none => (.noReader, e)
    | some reader => (.changed (reader.hasChanged e.directory), e)
  | .detach i =>
    match e.readers.getD i none with
    | none => (.noReader, e)
    | some reader =>
      (.done, { e with directory := reader.drop e.directory, readers := e.readers.set i none })

/-- One use after the other, with what comes back. -/
def run (e : Ends) : List Use → List Reply × Ends
  | [] => ([], e)
  | u :: uses =>
    let (reply, e) := e.use u
    let (replies, e) := e.run uses
    (reply :: replies, e)

/-- What is there to be looked at. -/
def view (e : Ends) : View where
  bytes := (List.range e.writer.size).map (e.directory.file e.writer.number).data.get
  version := (e.directory.file e.writer.number).header.version
  writer := e.writer.version
  count := e.writer.readerCount e.directory
  readers := e.readers.map (Option.map (·.version))

end Ends

/-! ### The ledger

The ledger is the segment without its representation: there are no versions, offsets or headers, and
a reader is a mark. It is what a user of segments has in mind, and short enough to be read as the
specification.
-/

/-- The segment as it is meant: what it holds, and for everyone who ever attached the number of
writes that is known, until detaching. -/
structure Ledger where
  contents : Contents
  marks : List (Option Nat) := []

namespace Ledger

/-- How many are attached. -/
def attached (l : Ledger) : Nat := l.marks.countP (·.isSome)

/-- Who was attached counts no longer, but for the mark that is put in its place. -/
theorem attached_set (l : Ledger) {i seen : Nat} (hmark : l.marks.getD i none = some seen)
    (mark : Option Nat) :
    attached { l with marks := l.marks.set i mark } + 1
      = l.attached + if mark.isSome then 1 else 0 := by
  -- a mark that can be looked up stands in the list
  have hget : l.marks[i]? = some (some seen) := by
    rw [List.getD_eq_getElem?_getD] at hmark
    cases hget : l.marks[i]? with
    | none =>
        rw [hget] at hmark
        cases hmark
    | some mark =>
        rw [hget] at hmark
        exact congrArg some hmark
  obtain ⟨hlt, hget⟩ := List.getElem?_eq_some_iff.1 hget
  have hpos : 0 < l.marks.countP (·.isSome) :=
    List.countP_pos_iff.2 ⟨some seen, hget ▸ List.getElem_mem hlt, rfl⟩
  simp only [attached, List.countP_set hlt, hget, Option.isSome_some, if_true]
  omega

/-- What the use is meant to do. -/
def use (l : Ledger) : Use → Reply × Ledger
  | .write start bytes =>
    if start + bytes.length ≤ l.contents.bytes.length then
      -- a write beyond the end is refused as a whole
      (.done, { l with contents := l.contents.write start bytes })
    else (.fault (.invalidSize (rangeEnd start bytes.length)), l)
  | .attach => (.done, { l with marks := l.marks ++ [some 0] })
  | .read i start length =>
    match l.marks.getD i none with
    | none => (.noReader, l)
    | some _ =>
      if start + length ≤ l.contents.bytes.length then
        -- whoever has read knows of all writes
        (.bytes ((l.contents.bytes.drop start).take length),
          { l with marks := l.marks.set i (some l.contents.writes) })
      else (.fault (.invalidSize (rangeEnd start length)), l)
  | .ask i =>
    match l.marks.getD i none with
    | none => (.noReader, l)
    | some seen => (.changed (l.contents.newer seen), l)
  | .detach i =>
    match l.marks.getD i none with
    | none => (.noReader, l)
    | some _ => (.done, { l with marks := l.marks.set i none })

/-- One use after the other, with what comes back. -/
def run (l : Ledger) : List Use → List Reply × Ledger
  | [] => ([], l)
  | u :: uses =>
    let (reply, l) := l.use u
    let (replies, l) := l.run uses
    (reply :: replies, l)

/-- What is meant to be seen. -/
def view (l : Ledger) : View where
  bytes := l.contents.bytes
  version := l.contents.version
  writer := l.contents.version
  count := UInt32.ofNat l.attached
  readers := l.marks.map (Option.map fun seen => UInt64.ofNat (2 * seen))

end Ledger

/-! ### The ledger tells how things are

`Tells` ties the two together. Besides the contents it has to say that the segment has a single
file, since attaching looks for one by name, and that no reader knows of writes that have not been
made, since versions are compared for being different only.
-/

/-- The segment is as the ledger says: its one file holds the contents, and every reader knows of
as many writes as its mark says. -/
structure Ledger.Tells (l : Ledger) (e : Ends) : Prop where
  find : ∃ m, e.directory.find e.writer.name = .ok [m] ∧ m.number = e.writer.number
  inside : e.writer.number < e.directory.files.length
  holds : ∃ pid, (e.directory.file e.writer.number).Holds pid l.contents
  size : e.writer.size = l.contents.bytes.length
  version : e.writer.version = l.contents.version
  count : e.writer.readerCount e.directory = UInt32.ofNat l.attached
  readers : e.readers = l.marks.map (Option.map e.writer.readerAt)
  known : ∀ seen, some seen ∈ l.marks → seen ≤ l.contents.writes

namespace Ledger.Tells

variable {l : Ledger} {e : Ends} {start length i seen : Nat} {bytes : List UInt8}

theorem created {d : Directory} {name : String} {size : Nat} {w : SegmentWriter}
    (h : (d.create name size).result = .ok w) :
    Tells { contents := .zeros size }
      { directory := (d.create name size).directory, writer := w } := by
  have hcreated := Directory.create_eq_ok h
  obtain rfl := hcreated.writer
  have hfile := hcreated.file_last  -- the new file is the last one, and the only one of its segment
  exact
    { find := ⟨_, hcreated.find, rfl⟩
      inside := by
        rw [hcreated.length]
        exact Nat.lt_succ_self _
      holds := ⟨d.self, by rw [hfile]; exact .newFile hcreated.sound⟩
      size := List.length_replicate.symm
      version := rfl
      count := congrArg (·.header.readerCount) hfile
      readers := rfl
      known := fun _ hseen => absurd hseen List.not_mem_nil }

/-- The readers stand at the places of their marks. -/
theorem getD_readers (h : l.Tells e) (i : Nat) :
    e.readers.getD i none = (l.marks.getD i none).map e.writer.readerAt := by
  rw [h.readers, List.getD_eq_getElem?_getD, List.getElem?_map, List.getD_eq_getElem?_getD]
  cases l.marks[i]? <;> rfl

theorem noReader (h : l.Tells e) (hmark : l.marks.getD i none = none) :
    e.readers.getD i none = none := by
  rw [h.getD_readers, hmark]
  rfl

theorem reader (h : l.Tells e) (hmark : l.marks.getD i none = some seen) :
    e.readers.getD i none = some (e.writer.readerAt seen) := by
  rw [h.getD_readers, hmark]
  rfl

theorem mem_of_getD {marks : List (Option Nat)} (h : marks.getD i none = some seen) :
    some seen ∈ marks := by
  rw [List.getD_eq_getElem?_getD] at h
  cases hget : marks[i]? with
  | none =>
      rw [hget] at h
      cases h
  | some mark =>
      rw [hget] at h
      cases h
      exact List.mem_of_getElem? hget

/-- What can be looked at is what the ledger shows. -/
theorem view_eq (h : l.Tells e) : e.view = l.view := by
  obtain ⟨pid, hholds⟩ := h.holds
  refine View.ext ?_ hholds.version h.version h.count ?_
  · -- the bytes that can be looked at are a block that begins at zero
    have hblock := hholds.toList_block
      (show 0 + l.contents.bytes.length ≤ l.contents.bytes.length by omega)
    rw [Memory.toList_block, List.drop_zero, List.take_length] at hblock
    simp only [Nat.zero_add] at hblock
    show (List.range e.writer.size).map _ = _
    rw [h.size]
    exact hblock
  · show e.readers.map _ = l.marks.map _
    rw [h.readers, List.map_map]
    congr 1
    funext mark
    cases mark <;> rfl

/-- A write that fits is one of the ledger. -/
theorem write_of_fits (h : l.Tells e) (hfits : start + bytes.length ≤ l.contents.bytes.length) :
    (e.use (.write start bytes)).1 = .done ∧
      Tells { l with contents := l.contents.write start bytes }
        (e.use (.write start bytes)).2 := by
  obtain ⟨pid, hholds⟩ := h.holds
  obtain ⟨hwrite, hholds'⟩ := SegmentWriter.writeAt_of_fits h.inside h.size hholds hfits
  simp only [Ends.use, hwrite]
  refine ⟨trivial, ?_⟩
  exact
    { find := h.find
      inside := Nat.lt_of_lt_of_eq h.inside (Directory.length_modify ..).symm
      holds := ⟨pid, hholds'⟩
      size := by
        rw [Contents.length_write hfits]
        exact h.size
      version := rfl
      -- a write does not touch the count of readers
      count :=
        (congrArg (·.header.readerCount) (Directory.file_modify_self h.inside _)).trans h.count
      readers := h.readers
      known := fun seen hseen => Nat.le_succ_of_le (h.known seen hseen) }

/-- A write that does not fit is refused, and leaves everything as it is. -/
theorem write_of_not_fits (h : l.Tells e)
    (hfits : ¬start + bytes.length ≤ l.contents.bytes.length) :
    e.use (.write start bytes)
      = (.fault (.invalidSize (rangeEnd start bytes.length)), e) := by
  obtain ⟨pid, hholds⟩ := h.holds
  simp only [Ends.use, SegmentWriter.writeAt_of_not_fits h.size hholds hfits]

/-- Who attaches finds the one file, and gets a mark of its own that knows of no write. -/
theorem attach (h : l.Tells e) :
    (e.use .attach).1 = .done ∧
      Tells { l with marks := l.marks ++ [some 0] } (e.use .attach).2 := by
  obtain ⟨m, hfind, hnumber⟩ := h.find
  obtain ⟨pid, hholds⟩ := h.holds
  have hattach := Directory.attach_eq hfind (hnumber ▸ hholds)
  obtain ⟨hholds', hcount⟩ :=
    Directory.holds_modifyHeader (f := (·.addReader)) h.inside hholds rfl
  have hattached : Ledger.attached { l with marks := l.marks ++ [some 0] } = l.attached + 1 :=
    List.countP_append
  rw [hnumber] at hattach
  simp only [Ends.use, hattach]
  refine ⟨trivial, ?_⟩
  exact
    { find := h.find
      inside := Nat.lt_of_lt_of_eq h.inside (Directory.length_modify ..).symm
      holds := ⟨pid, hholds'⟩
      size := h.size
      version := h.version
      count := by
        rw [hattached, UInt32.ofNat_add, ← h.count]
        exact hcount
      readers := by
        rw [List.map_append, ← h.readers, ← h.size]
        rfl
      -- the new mark knows of no write, and there cannot be fewer
      known := by
        intro seen hseen
        rcases List.mem_append.1 hseen with hseen | hseen
        · exact h.known seen hseen
        · cases List.mem_singleton.1 hseen
          exact Nat.zero_le _ }

/-- A read that fits gives the bytes of the ledger, and puts the reader's mark at all writes. -/
theorem read_of_fits (h : l.Tells e) (hmark : l.marks.getD i none = some seen)
    (hfits : start + length ≤ l.contents.bytes.length) :
    (e.use (.read i start length)).1 = .bytes ((l.contents.bytes.drop start).take length) ∧
      Tells { l with marks := l.marks.set i (some l.contents.writes) }
        (e.use (.read i start length)).2 := by
  obtain ⟨pid, hholds⟩ := h.holds
  have hread := SegmentReader.readRange_of_fits (r := e.writer.readerAt seen) h.size hholds hfits
  -- the mark is moved and not removed, so as many are attached as before
  have hattached := l.attached_set hmark (some l.contents.writes)
  rw [Option.isSome_some, if_pos rfl, Nat.add_right_cancel_iff] at hattached
  simp only [Ends.use, h.reader hmark, hread]
  refine ⟨congrArg Reply.bytes (hholds.toList_block hfits), ?_⟩
  exact
    { find := h.find
      inside := h.inside
      holds := ⟨pid, hholds⟩
      size := h.size
      version := h.version
      count := by
        rw [hattached]
        exact h.count
      readers := by
        rw [List.map_set, ← h.readers]
        rfl
      known := by
        intro seen hseen
        rcases List.mem_or_eq_of_mem_set hseen with hseen | hseen
        · exact h.known seen hseen
        · cases hseen
          exact Nat.le_refl _ }

/-- A read that does not fit leaves the mark where it is. -/
theorem read_of_not_fits (h : l.Tells e) (hmark : l.marks.getD i none = some seen)
    (hfits : ¬start + length ≤ l.contents.bytes.length) :
    e.use (.read i start length) = (.fault (.invalidSize (rangeEnd start length)), e) := by
  obtain ⟨pid, hholds⟩ := h.holds
  have hread := SegmentReader.readRange_of_not_fits (r := e.writer.readerAt seen) h.size hholds
    hfits
  simp only [Ends.use, h.reader hmark, hread]

/-- To ask changes nothing. -/
theorem ask (h : l.Tells e) (hmark : l.marks.getD i none = some seen) :
    e.use (.ask i) = (.changed (l.contents.newer seen), e) := by
  obtain ⟨pid, hholds⟩ := h.holds
  have hchanged := SegmentReader.hasChanged_eq (r := e.writer.readerAt seen) hholds rfl
    (h.known seen (mem_of_getD hmark))
  simp only [Ends.use, h.reader hmark, hchanged]

/-- Who detaches is counted no longer, and its mark is gone. -/
theorem detach (h : l.Tells e) (hmark : l.marks.getD i none = some seen) :
    (e.use (.detach i)).1 = .done ∧
      Tells { l with marks := l.marks.set i none } (e.use (.detach i)).2 := by
  obtain ⟨pid, hholds⟩ := h.holds
  obtain ⟨hholds', hcount⟩ :=
    Directory.holds_modifyHeader (f := (·.removeReader)) h.inside hholds rfl
  have hattached := l.attached_set hmark none
  rw [Option.isSome_none, if_neg Bool.false_ne_true] at hattached
  simp only [Ends.use, h.reader hmark]
  refine ⟨trivial, ?_⟩
  exact
    { find := h.find
      inside := Nat.lt_of_lt_of_eq h.inside (Directory.length_modify ..).symm
      holds := ⟨pid, hholds'⟩
      size := h.size
      version := h.version
      count := by
        have hold := h.count  -- the header counts modulo `2 ^ 32`, and so is one taken off
        rw [← Nat.add_zero l.attached, ← hattached, UInt32.ofNat_add] at hold
        refine hcount.trans ?_
        show e.writer.readerCount e.directory - 1 = _
        rw [hold]
        exact UInt32.add_sub_cancel _ _
      readers := by
        rw [List.map_set, ← h.readers]
        rfl
      known := by
        intro seen hseen
        rcases List.mem_or_eq_of_mem_set hseen with hseen | hseen
        · exact h.known seen hseen
        · cases hseen }

/-- Every use gives the same reply, and leaves the ledger telling how things are. -/
theorem use (h : l.Tells e) (u : Use) :
    (e.use u).1 = (l.use u).1 ∧ (l.use u).2.Tells (e.use u).2 := by
  -- a use of a reader depends on whether there is one at this place
  cases u with
  | write start bytes =>
      by_cases hfits : start + bytes.length ≤ l.contents.bytes.length
      · simp only [Ledger.use, if_pos hfits]
        exact h.write_of_fits hfits
      · simp only [Ledger.use, if_neg hfits, h.write_of_not_fits hfits]
        exact ⟨trivial, h⟩
  | attach => exact h.attach
  | read i start length =>
      cases hmark : l.marks.getD i none with
      | none =>
          simp only [Ends.use, Ledger.use, hmark, h.noReader hmark]
          exact ⟨trivial, h⟩
      | some seen =>
          by_cases hfits : start + length ≤ l.contents.bytes.length
          · simp only [Ledger.use, hmark, if_pos hfits]
            exact h.read_of_fits hmark hfits
          · simp only [Ledger.use, hmark, if_neg hfits, h.read_of_not_fits hmark hfits]
            exact ⟨trivial, h⟩
  | ask i =>
      cases hmark : l.marks.getD i none with
      | none =>
          simp only [Ends.use, Ledger.use, hmark, h.noReader hmark]
          exact ⟨trivial, h⟩
      | some seen =>
          simp only [Ledger.use, hmark, h.ask hmark]
          exact ⟨trivial, h⟩
  | detach i =>
      cases hmark : l.marks.getD i none with
      | none =>
          simp only [Ends.use, Ledger.use, hmark, h.noReader hmark]
          exact ⟨trivial, h⟩
      | some seen =>
          simp only [Ledger.use, hmark]
          exact h.detach hmark

/-- So does every history of uses. -/
theorem run (h : l.Tells e) (uses : List Use) :
    (e.run uses).1 = (l.run uses).1 ∧ (l.run uses).2.Tells (e.run uses).2 := by
  induction uses generalizing l e with
  | nil => exact ⟨rfl, h⟩
  | cons u uses ih =>
      obtain ⟨hreply, hnext⟩ := h.use u
      obtain ⟨hreplies, hlast⟩ := ih hnext
      refine ⟨?_, hlast⟩
      simp only [Ends.run, Ledger.run, hreply, hreplies]

end Ledger.Tells

/-- **A segment is a store.** From its creation on, whatever its writer and any number of readers
do, they get the replies of the ledger and leave what the ledger shows. While there were fewer than
`2 ^ 63` writes a reader finds something new just when there was a write since it last read. -/
theorem store_semantics {d : Directory} {name : String} {size : Nat} {w : SegmentWriter}
    (h : (d.create name size).result = .ok w) (uses : List Use) :
    let e := Ends.run { directory := (d.create name size).directory, writer := w } uses
    let l := Ledger.run { contents := .zeros size } uses
    e.1 = l.1 ∧ e.2.view = l.2.view ∧
    (l.2.contents.writes < valuesOf 63 → ∀ i seen, l.2.marks.getD i none = some seen →
      (e.2.use (.ask i)).1 = .changed (decide (seen < l.2.contents.writes))) ∧
    (l.2.attached < valuesOf 32 →
      (e.2.writer.readerCount e.2.directory).toNat = l.2.attached) := by
  intro e l
  obtain ⟨hreplies, htells⟩ := (Ledger.Tells.created h).run uses
  refine ⟨hreplies, htells.view_eq, fun hfew i seen hmark => ?_, fun hfew => ?_⟩
  · rw [htells.ask hmark, Contents.newer_eq hfew]
  · rw [htells.count, UInt32.toNat_ofNat']
    exact Nat.mod_eq_of_lt hfew

/-- One reader, from attaching to detaching, and offsets as great as they can be. -/
def lifetime : List Use :=
  [.attach, .ask 0, .write 2 [5, 6], .ask 0, .read 0 1 4, .ask 0,
    .write (valuesOf 64 - 1) [7], .read 0 (valuesOf 64 - 1) 2, .ask 0, .detach 0, .ask 0]

theorem store_semantics_lifetime :
    let d : Directory := { root := "", self := 77, alive := fun _ => true }
    ∃ w, (d.create "p_stat" minSize).result = .ok w ∧
      (Ends.run { directory := (d.create "p_stat" minSize).directory, writer := w } lifetime).1
        = [.done, .changed false, .done, .changed true, .bytes [0, 5, 6, 0], .changed false,
            .fault (.invalidSize (valuesOf 64 - 1)), .fault (.invalidSize (valuesOf 64 - 1)),
            .changed false, .done, .noReader] := by
  intro d
  have htakes : d.takes "p_stat" = true := by
    have hname : Directory.fileName "p_stat" d.self = "hmi_p_stat_77" := by decide +kernel
    exact Directory.takes_of_name hname rfl rfl (by decide +kernel) (by simp) (by decide +kernel)
  have hmissing (ms : List Directory.Match) (hms : d.find "p_stat" = .ok ms) : ms = [] :=
    (Directory.find_eq_ok.1 hms).2
  have hcreate := Directory.create_of_missing hmissing minSize
  rw [if_pos ⟨by decide, htakes⟩] at hcreate
  obtain ⟨w, hw⟩ := hcreate
  refine ⟨w, hw, ?_⟩
  exact (store_semantics hw lifetime).1.trans (by decide +kernel)

end Segment
end OperatorPanel
