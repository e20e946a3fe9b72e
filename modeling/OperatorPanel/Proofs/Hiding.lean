import OperatorPanel.PinBus
import OperatorPanel.Proofs.Owners

/-!
# Hidden files

Files of a directory may be hidden (`Directory.hide`). Whoever creates a segment, or attaches to
one, comes to the same when files of other segments are hidden (`Directory.create_hide`,
`Directory.attach_hide`); and so does all that a bridge does with its channels and its pins, as long
as none of its own files are hidden.
-/

namespace OperatorPanel

namespace Directory

variable {p : String → Bool} {d : Directory} {name file : String} {size : Nat}

/-! ### What is hidden is not missed

Every operation on a directory looks for files by the name of one segment, or goes to a file by its
number. Hiding files of other segments takes nothing away that such an operation could find, and the
numbers of files stay as they are.
-/

/-- The directory without some of its files. -/
def hide (d : Directory) (p : String → Bool) : Directory :=
  { d with entries := d.entries.filter fun e => !p e.1 }

/-- None of the files is one of the segment. -/
def Foreign (p : String → Bool) (name : String) : Prop :=
  ∀ file pid, owner? name file = some pid → p file = false

/-- The files of a segment are found among the others, in their order. -/
theorem find_hide (h : Foreign p name) : (d.hide p).find name = d.find name := by
  -- only entries that are recognized for the name matter, and none of them is hidden
  have hentries : (d.hide p).entries.filterMap (fun e =>
        (owner? name e.1).map fun pid => ({ file := e.1, pid, number := e.2 } : Match))
      = d.entries.filterMap fun e =>
        (owner? name e.1).map fun pid => { file := e.1, pid, number := e.2 } := by
    unfold hide
    dsimp only
    rw [List.filterMap_filter]
    refine List.filterMap_congr fun e _ => ?_
    cases howner : owner? name e.1 with
    | none => simp
    | some pid => simp [h e.1 pid howner]
  unfold find
  rw [hentries]
  rfl

/-- The best of several files is chosen by their headers. -/
theorem best?_hide (ms : List Match) : (d.hide p).best? ms = d.best? ms := by
  induction ms with
  | nil => rfl
  | cons m ms ih =>
      unfold best?
      rw [ih]
      rfl

/-- Whoever attaches does not miss files of other segments. -/
theorem attach_hide (h : Foreign p name) :
    (d.hide p).attach name = Prod.map id (·.hide p) (d.attach name) := by
  -- hiding touches neither the files nor who is alive, so the choice is the same
  have hselect : (d.hide p).select name = d.select name := by
    unfold select
    rw [find_hide h]
    simp only [best?_hide]
  unfold attach
  rw [hselect]
  cases d.select name with
  | error fault => rfl
  | ok m =>
      dsimp only
      rw [show (d.hide p).file m.number = d.file m.number from rfl]
      cases (d.file m.number).fault? name with
      | some fault => rfl
      | none => rfl

/-- A file is removed from what is left. -/
theorem remove_hide : (d.hide p).remove file = (d.remove file).hide p := by
  unfold remove hide
  dsimp only
  rw [List.filter_filter, List.filter_filter]
  simp only [Bool.and_comm]

/-- Stale files are removed one by one. -/
theorem claimFrom_hide (ms : List Match) :
    (d.hide p).claimFrom name ms
      = { d.claimFrom name ms with directory := (d.claimFrom name ms).directory.hide p } := by
  induction ms generalizing d with
  | nil => rfl
  | cons m ms ih =>
      unfold claimFrom
      rw [show (d.hide p).self = d.self from rfl, show (d.hide p).alive = d.alive from rfl]
      split
      · rfl
      · rw [remove_hide, ih]

/-- Whoever claims a name looks at the files of that name only. -/
theorem claim_hide (h : Foreign p name) :
    (d.hide p).claim name
      = { d.claim name with directory := (d.claim name).directory.hide p } := by
  unfold claim
  rw [find_hide h]
  cases d.find name with
  | error fault => rfl
  | ok ms => exact claimFrom_hide ms

/-- The path for a file in one piece leads to it, whatever stands beside it. -/
theorem locate_hide (pid : UInt32) (hslash : '/' ∉ (fileName name pid).toList) :
    (d.hide p).locate (fileName name pid) = d.locate (fileName name pid) := by
  obtain ⟨cs, hcs⟩ := toList_fileName name pid
  -- a file in one piece is never found to be a directory
  have hplace (d : Directory) : d.look [fileName name pid] = .file ∨
      d.look [fileName name pid] = .missing := by
    have hlook := d.look_ne_directory (fileName name pid)
    cases h : d.look [fileName name pid] with
    | directory => exact absurd h hlook
    | file => exact .inl rfl
    | missing => exact .inr rfl
  unfold locate
  rw [follow_piece _ hcs hslash, follow_piece _ hcs hslash,
    show (d.hide p).root = d.root from rfl, show (d.hide p).fault = d.fault from rfl]
  cases (Path.textFault? (pathOf d.root (fileName name pid))).or d.fault with
  | some fault => rfl
  | none =>
      by_cases hlong : Path.maxName < (fileName name pid).utf8ByteSize
      · simp [hlong]
      · rcases hplace (d.hide p) with h | h <;> rcases hplace d with h' | h' <;>
          simp [hlong, h, h']

/-- A new file is put beside those that are left, if it is not hidden itself. -/
theorem add_hide (h : p file = false) (new : SegmentFile) :
    (d.hide p).add file new = (d.add file new).hide p := by
  unfold add hide
  dsimp only
  rw [List.filter_append, List.filter_filter, List.filter_filter]
  simp [h, Bool.and_comm]

/-- Whoever creates a segment does not miss files of others. -/
theorem create_hide (h : Foreign p name) (hslash : '/' ∉ (fileName name d.self).toList) :
    (d.hide p).create name size
      = { d.create name size with directory := (d.create name size).directory.hide p } := by
  -- claiming a name changes the entries, and not who asks
  have hself : (d.claim name).directory.self = d.self := by rw [(d.cleared_claim name).1.rest]
  unfold create
  cases Segment.sizeFault? size with
  | some fault => rfl
  | none =>
      dsimp only
      rw [claim_hide h]
      dsimp only
      cases (d.claim name).fault with
      | some fault => rfl
      | none =>
          dsimp only
          rw [show ((d.claim name).directory.hide p).self = d.self from hself, hself,
            locate_hide d.self hslash]
          cases hlocate : (d.claim name).directory.locate (fileName name d.self) with
          | error fault => rfl
          | ok file =>
              obtain ⟨rfl, _⟩ := locate_fileName_eq_ok.1 hlocate
              dsimp only
              rw [add_hide (h _ _ (owner?_fileName name d.self))]
              rfl

/-- There is no slash in the name of a file unless there is one in that of the segment. -/
theorem slash_not_mem_fileName (h : '/' ∉ name.toList) (pid : UInt32) :
    '/' ∉ (fileName name pid).toList := by
  have hdigits : '/' ∉ Nat.toDigits 10 pid.toNat := fun hmem =>
    absurd (Nat.isDigit_of_mem_toDigits (by decide) (by decide) hmem) (by decide)
  simp [fileName, stem, Text.decimal, String.toList_append, h, hdigits]

end Directory

variable {p : String → Bool}

/-- A write goes to a file by its number. -/
theorem SegmentWriter.writeAt_hide (writer : SegmentWriter) (start : Nat) (bytes : List UInt8)
    {d : Directory} : writer.writeAt start bytes (d.hide p)
      = Prod.map id (·.hide p) (writer.writeAt start bytes d) := by
  unfold writeAt
  dsimp only
  split
  · rfl
  · rfl

/-! ### Bridges among hidden files

What a bridge does it does through these operations and the journal. So each lemma below is one of
them told for a world: the results are the same, and the files are hidden afterwards that were
hidden before.
-/

namespace World

variable {w : World} {name : String}

/-- The world without some of its files. -/
def hide (w : World) (p : String → Bool) : World := { w with directory := w.directory.hide p }

/-- Removed files are noted in the journal. -/
theorem noteRemoved_hide (w : World) (name : String) (pids : List UInt32) :
    (w.hide p).noteRemoved name pids = (w.noteRemoved name pids).hide p := by
  unfold noteRemoved
  induction pids generalizing w with
  | nil => rfl
  | cons pid pids ih =>
      exact ih (w.note .warn .segmentWriter "removing stale segment"
        [("segment", name), ("stale_pid", Text.decimal pid.toNat)])

theorem createSegment_hide (h : Directory.Foreign p name) (hslash : '/' ∉ name.toList)
    (size : Nat) :
    (w.hide p).createSegment name size = Prod.map id (·.hide p) (w.createSegment name size) := by
  have hcreate : (w.hide p).directory.create name size = _ :=
    Directory.create_hide h (Directory.slash_not_mem_fileName hslash _)
  unfold createSegment
  rw [hcreate]
  dsimp only [Prod.map, id]
  rw [← noteRemoved_hide]
  rfl

theorem attachSegment_hide (h : Directory.Foreign p name) :
    (w.hide p).attachSegment name = Prod.map id (·.hide p) (w.attachSegment name) := by
  have hattach : (w.hide p).directory.attach name = _ := Directory.attach_hide h
  unfold attachSegment
  rw [hattach]
  rfl

theorem writeSegment_hide (writer : SegmentWriter) (bytes : List UInt8) :
    (w.hide p).writeSegment writer bytes
      = Prod.map id (·.hide p) (w.writeSegment writer bytes) := by
  have hwrite : writer.write bytes (w.hide p).directory = _ := writer.writeAt_hide 0 bytes
  unfold writeSegment
  rw [hwrite]
  rfl

theorem dropWriter_hide (writer : SegmentWriter) :
    (w.hide p).dropWriter writer = (w.dropWriter writer).hide p := by
  unfold dropWriter hide
  dsimp only
  rw [SegmentWriter.drop, Directory.remove_hide]
  rfl

end World

namespace Shared

variable {w : World} {channel : String}

theorem openCommand_hide (h : Directory.Foreign p (commandSegment channel))
    (hslash : '/' ∉ (commandSegment channel).toList) :
    openCommand channel (w.hide p) = Prod.map id (·.hide p) (openCommand channel w) := by
  unfold openCommand
  rw [World.createSegment_hide h hslash]
  rcases w.createSegment (commandSegment channel) commandSize with ⟨_ | _, w⟩ <;> rfl

/-- To send is to write into a segment that is open. -/
theorem send_hide (writer : SegmentWriter) (m : Message) :
    send writer m (w.hide p) = Prod.map id (Prod.map id (·.hide p)) (send writer m w) := by
  unfold send
  cases Frame.encode Codec.message .message m with
  | error fault => rfl
  | ok bytes =>
      dsimp only
      rw [World.writeSegment_hide]
      rcases w.writeSegment writer bytes with ⟨_ | _, w⟩ <;> rfl

theorem openStatus_hide (h : Directory.Foreign p (statusSegment channel)) :
    openStatus channel (w.hide p) = Prod.map id (·.hide p) (openStatus channel w) := by
  unfold openStatus
  rw [World.attachSegment_hide h]
  rcases w.attachSegment (statusSegment channel) with ⟨_ | reader, w⟩
  · rfl
  · dsimp only [Prod.map, id]
    rw [show statusEnd reader (w.hide p).directory = statusEnd reader w.directory from rfl]
    cases statusEnd reader w.directory <;> rfl

theorem openNotices_hide (h : Directory.Foreign p (noticeSegment channel)) :
    openNotices channel (w.hide p) = Prod.map id (·.hide p) (openNotices channel w) := by
  unfold openNotices
  rw [World.attachSegment_hide h]
  rcases w.attachSegment (noticeSegment channel) with ⟨_ | reader, w⟩
  · rfl
  · dsimp only [Prod.map, id]
    rw [show skip reader (w.hide p).directory = skip reader w.directory from rfl]
    cases skip reader w.directory <;> rfl

end Shared

namespace SegmentBus

variable {w : World} {b : SegmentBus}

theorem create_hide {channel : String} (h : Directory.Foreign p (channel ++ "_pins_out"))
    (hslash : '/' ∉ (channel ++ "_pins_out").toList) :
    create channel (w.hide p) = Prod.map id (·.hide p) (create channel w) := by
  unfold create
  dsimp only
  rw [World.createSegment_hide h hslash]
  rcases w.createSegment (channel ++ "_pins_out") outputSize with ⟨_ | _, w⟩ <;> rfl

theorem attach_hide (h : Directory.Foreign p b.inputSegment) :
    b.attach (w.hide p) = Prod.map id (·.hide p) (b.attach w) := by
  unfold attach
  cases b.reader with
  | some reader => rfl
  | none =>
      dsimp only
      rw [World.attachSegment_hide h]
      rcases w.attachSegment b.inputSegment with ⟨_ | _, w⟩ <;> rfl

/-- Warnings go into the journal. -/
theorem warn_hide (b : SegmentBus) (w : World) (names : List String) :
    b.warn (w.hide p) names = Prod.map id (·.hide p) (b.warn w names) := by
  induction names generalizing b w with
  | nil => rfl
  | cons name names ih =>
      unfold warn
      split
      · exact ih b w
      · exact ih { b with warned := name :: b.warned }
          (w.note .warn .pins "ignoring unknown input pin" [("pin", name)])

/-- What is taken over is read in the file that the bus is attached to. -/
theorem take_hide (reader : SegmentReader) :
    b.take reader (w.hide p) = Prod.map id (·.hide p) (b.take reader w) := by
  unfold take
  rw [show reader.read (w.hide p).directory = reader.read w.directory from rfl]
  cases reader.read w.directory with
  | error fault => rfl
  | ok found =>
      obtain ⟨block, reader⟩ := found
      dsimp only
      cases Shared.slot Codec.pins .pins block with
      | value pins =>
          dsimp only
          rw [warn_hide]
          rfl
      | broken fault => rfl
      | empty => rfl
      | foreign type => rfl

/-- A look reads that file too, or lets go of it. -/
theorem look_hide : b.look (w.hide p) = Prod.map id (·.hide p) (b.look w) := by
  unfold look
  cases b.reader with
  | none => rfl
  | some reader =>
      dsimp only
      rw [show reader.hasChanged (w.hide p).directory = reader.hasChanged w.directory from rfl,
        show reader.writerAlive (w.hide p).directory = reader.writerAlive w.directory from rfl]
      split
      · exact take_hide reader
      · split <;> rfl

/-- A sample attaches before it looks, if it has to. -/
theorem sample_hide (h : Directory.Foreign p b.inputSegment) :
    b.sample (w.hide p) = Prod.map id (Prod.map id (·.hide p)) (b.sample w) := by
  unfold sample
  rw [attach_hide h]
  dsimp only [Prod.map, id]
  rw [look_hide]
  rfl

/-- To publish is to write into the segment of the outputs. -/
theorem publish_hide (out : OutputPins) :
    b.publish out (w.hide p) = Prod.map id (Prod.map id (·.hide p)) (b.publish out w) := by
  unfold publish
  split
  · rfl
  · cases Frame.encode Codec.pins .pins out.named with
    | error fault => rfl
    | ok bytes =>
        dsimp only
        rw [World.writeSegment_hide]
        rcases w.writeSegment b.writer bytes with ⟨_ | _, w⟩ <;> rfl

theorem drop_hide : b.drop (w.hide p) = (b.drop w).hide p := by
  unfold drop
  rw [World.dropWriter_hide]
  cases b.reader <;> rfl

end SegmentBus
end OperatorPanel
