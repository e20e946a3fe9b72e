import Mathlib.Logic.Function.Basic
import OperatorPanel.Proofs.Untouched

/-!
# Channels apart

The segments of a channel are named after it, and their files after them and their owners. Nothing
is lost in these names: a file tells the segment, and a segment tells the channel and what it is for
(`Directory.find_located`, `Role.segment_inj`).

So bridges, panels and controllers of different channels keep out of each other's way in one
directory (`Commons`). A move of one channel leaves the files of the others untouched
(`Commons.Ordered.step`), and comes to the same when they are hidden (`Commons.step_hide`); and so
does any run of moves (`Commons.channels_apart`).
-/

namespace OperatorPanel

open Directory (Own Apart)

/-! ### Names

A channel has five segments, each named by the channel and a suffix of its own. Names of channels
are free, and one may well end like a suffix or like a whole file name; that nothing is confused all
the same is read off the ends of the names.
-/

/-- What a segment of a channel is for. -/
inductive Role where
  | command | status | notices | outputs | inputs
  deriving DecidableEq

namespace Role

/-- All there are. -/
def all : List Role := [command, status, notices, outputs, inputs]

theorem mem_all (r : Role) : r ∈ all := by cases r <;> decide

/-- The name of the segment. -/
def segment (channel : String) : Role → String
  | command => Shared.commandSegment channel
  | status => Shared.statusSegment channel
  | notices => Shared.noticeSegment channel
  | outputs => channel ++ "_pins_out"
  | inputs => channel ++ "_pins_in"

/-- What follows the channel in the name. -/
def suffix : Role → String
  | command => "_cmd"
  | status => "_stat"
  | notices => "_err"
  | outputs => "_pins_out"
  | inputs => "_pins_in"

theorem segment_eq (channel : String) (r : Role) : r.segment channel = channel ++ r.suffix := by
  cases r <;> rfl

/-- No suffix ends another. -/
theorem eq_of_suffix {r r' : Role} (h : r.suffix.toList <:+ r'.suffix.toList) : r = r' := by
  revert h
  cases r <;> cases r' <;> decide

/-- **A segment tells the channel and what it is for.** -/
theorem segment_inj {channel channel' : String} {r r' : Role} :
    r.segment channel = r'.segment channel' ↔ channel = channel' ∧ r = r' := by
  constructor
  case mpr =>
    rintro ⟨rfl, rfl⟩
    rfl
  intro h
  rw [segment_eq, segment_eq, ← String.toList_inj, String.toList_append, String.toList_append] at h
  have hrole : r = r' := by
    -- the shorter suffix ends the longer one, so they are one and the same
    obtain ⟨between, _, hsuffix⟩ | ⟨between, _, hsuffix⟩ := List.append_eq_append_iff.1 h
    · exact (eq_of_suffix ⟨between, hsuffix.symm⟩).symm
    · exact eq_of_suffix ⟨between, hsuffix.symm⟩
  rw [hrole] at h
  exact ⟨String.toList_inj.1 (List.append_cancel_right h), hrole⟩

/-- There is a slash in the name only if there is one in that of the channel. -/
theorem slash_not_mem_segment {channel : String} (h : '/' ∉ channel.toList) (r : Role) :
    '/' ∉ (r.segment channel).toList := by
  have hsuffix : '/' ∉ r.suffix.toList := by cases r <;> decide
  rw [segment_eq, String.toList_append, List.mem_append, not_or]
  exact ⟨h, hsuffix⟩

end Role

namespace Directory

variable {d d' : Directory} {channel channel' : String}

/-- **A file tells the segment and the owner.** -/
theorem find_located {name name' file : String} {pid : UInt32} {number : Nat}
    (hlocate : d.locate (fileName name' pid) = .ok file) (hfile : (file, number) ∈ d.entries) :
    ∃ ms, d.find name = .ok ms ∧ ((∃ m ∈ ms, m.file = file) ↔ name = name') ∧
      ∀ m ∈ ms, m.file = file → m.pid = pid := by
  obtain ⟨rfl, _, hreads, _⟩ := locate_fileName_eq_ok.1 hlocate
  have howner := owner?_fileName name' pid
  have hfind : d.find name = .ok _ := find_eq_ok.2 ⟨hreads, rfl⟩
  -- the segment is read from the name of the file, so no other segment finds it
  refine ⟨_, hfind, ⟨?_, ?_⟩, ?_⟩
  · rintro ⟨m, hm, hsame⟩
    have hfound := ((mem_find_iff hfind).1 hm).2
    rw [hsame] at hfound
    exact name_eq_of_owner? howner hfound
  · rintro rfl
    exact ⟨⟨_, pid, number⟩, (mem_find_iff hfind).2 ⟨hfile, howner⟩, rfl⟩
  · intro m hm hsame
    have hfound := ((mem_find_iff hfind).1 hm).2
    rw [hsame] at hfound
    cases name_eq_of_owner? howner hfound
    exact Option.some.inj (hfound.symm.trans howner)

/-- The file is one of a segment of the channel. -/
def ofChannel (channel file : String) : Bool :=
  Role.all.any fun r => (owner? (r.segment channel) file).isSome

theorem own_segment (channel : String) (r : Role) : Own (ofChannel channel) (r.segment channel) :=
  fun _ _ howner => List.any_eq_true.2 ⟨r, r.mem_all, by rw [howner]; rfl⟩

/-- **No file is one of two channels.** -/
theorem apart_of_ne (h : channel ≠ channel') : Apart (ofChannel channel) (ofChannel channel') := by
  intro file hfile
  rw [← Bool.not_eq_true]
  intro hfile'
  obtain ⟨r, _, howner⟩ := List.any_eq_true.1 hfile
  obtain ⟨r', _, howner'⟩ := List.any_eq_true.1 hfile'
  obtain ⟨pid, howner⟩ := Option.isSome_iff_exists.1 howner
  obtain ⟨pid', howner'⟩ := Option.isSome_iff_exists.1 howner'
  exact h (Role.segment_inj.1 (name_eq_of_owner? howner' howner)).1

/-- The files of a channel: what stands in the directory for each, and the file itself. -/
def filesOf (d : Directory) (channel : String) : List ((String × Nat) × SegmentFile) :=
  (d.entries.filter (ofChannel channel ·.1)).map fun e => (e, d.file e.2)

theorem Untouched.filesOf (h : Untouched (ofChannel channel) d d') :
    d'.filesOf channel = d.filesOf channel := by
  unfold Directory.filesOf
  rw [h.entries]
  refine List.map_congr_left fun e he => ?_
  obtain ⟨hmem, hof⟩ := List.mem_filter.1 he
  rw [h.files e hmem hof]

end Directory

/-! ### Ends

Whatever is held of a channel, and whatever can be done with it. The operations are those of the
processes themselves; here they get one type of request and one of answer, so that runs of many
processes can be spoken of.
-/

/-- What is held of a channel: a panel and a controller hold writers and readers, a bridge a writer
for its messages, a reader for the notices, the end of the status channel and a bus. -/
inductive End where
  | writer (writer : SegmentWriter)
  | reader (reader : SegmentReader)
  | status (status : Shared.StatusEnd)
  | bus (bus : SegmentBus)

/-- What comes back. -/
inductive Response where
  | done
  | segment (fault : SegmentFault)
  | channel (fault : ChannelFault)
  | panel (error : PanelError)
  | bytes (block : Block)
  | changed (changed : Bool)
  | status (found : Peek)
  | notice (notice : Option Notice)
  | sample (inputs : InputSample)

/-- What an operation leads to: the answer, what is held then, and the world. -/
structure Outcome where
  response : Response
  held : Option End
  world : World

/-- How to get hold of something. -/
inductive Opening where
  /-- A bridge opens one of its channels, or makes its bus. -/
  | command
  | status
  | notices
  | bus
  /-- A panel or a controller creates a segment, or attaches to one. -/
  | create (r : Role) (size : Nat)
  | attach (r : Role)

/-- What can be done with what is held. -/
inductive Use where
  | write (start : Nat) (bytes : List UInt8)
  | send (m : Message)
  | read (start length : Nat)
  | ask
  | poll
  | peek
  | sample
  | publish (out : OutputPins)
  | drop

namespace Outcome

/-- What was opened is held. -/
def opened {ε α : Type} (fault : ε → Response) (toEnd : α → End) :
    Except ε α × World → Outcome
  | (.ok x, w) => ⟨.done, some (toEnd x), w⟩
  | (.error e, w) => ⟨fault e, none, w⟩

/-- The same among fewer files. -/
def hide (o : Outcome) (p : String → Bool) : Outcome := { o with world := o.world.hide p }

theorem opened_hide {ε α : Type} (fault : ε → Response) (toEnd : α → End)
    (r : Except ε α × World) (p : String → Bool) :
    opened fault toEnd (Prod.map id (·.hide p) r) = (opened fault toEnd r).hide p := by
  obtain ⟨_ | x, w⟩ := r <;> rfl

end Outcome

/-- Get hold of something of a channel. -/
def Opening.run (channel : String) (w : World) : Opening → Outcome
  | command => .opened .channel .writer (Shared.openCommand channel w)
  | status => .opened .channel .status (Shared.openStatus channel w)
  | notices => .opened .channel .reader (Shared.openNotices channel w)
  | bus => .opened .panel .bus (SegmentBus.create channel w)
  | create r size => .opened .segment .writer (w.createSegment (r.segment channel) size)
  | attach r => .opened .segment .reader (w.attachSegment (r.segment channel))

/-- Use what is held; what cannot be done with it comes to nothing. -/
def End.use (w : World) : End → Use → Outcome
  | .writer x, .write start bytes =>
    match x.writeAt start bytes w.directory with
    | (.ok x, directory) => ⟨.done, some (.writer x), { w with directory }⟩
    | (.error fault, directory) => ⟨.segment fault, some (.writer x), { w with directory }⟩
  | .writer x, .send m =>
    match Shared.send x m w with
    | (.ok _, x, w) => ⟨.done, some (.writer x), w⟩
    | (.error fault, x, w) => ⟨.channel fault, some (.writer x), w⟩
  | .writer x, .drop => ⟨.done, none, w.dropWriter x⟩
  | .reader x, .read start length =>
    match x.readRange start length w.directory with
    | .ok (block, x) => ⟨.bytes block, some (.reader x), w⟩
    | .error fault => ⟨.segment fault, some (.reader x), w⟩
  | .reader x, .ask => ⟨.changed (x.hasChanged w.directory), some (.reader x), w⟩
  | .reader x, .poll =>
    match Shared.poll x w.directory with
    | (.ok notice, x) => ⟨.notice notice, some (.reader x), w⟩
    | (.error fault, x) => ⟨.channel fault, some (.reader x), w⟩
  | .reader x, .drop => ⟨.done, none, w.dropReader x⟩
  | .status s, .peek =>
    let (found, s) := Shared.peek s w.directory
    ⟨.status found, some (.status s), w⟩
  | .status s, .drop => ⟨.done, none, w.dropReader s.reader⟩
  | .bus b, .sample =>
    let (inputs, b, w) := b.sample w
    ⟨.sample inputs, some (.bus b), w⟩
  | .bus b, .publish out =>
    match b.publish out w with
    | (.ok _, b, w) => ⟨.done, some (.bus b), w⟩
    | (.error e, b, w) => ⟨.panel e, some (.bus b), w⟩
  | .bus b, .drop => ⟨.done, none, b.drop w⟩
  | held, _ => ⟨.done, some held, w⟩  -- an end is not used for what it cannot do

namespace End

variable {p q : String → Bool} {d d' : Directory} {w : World} {e : End}

/-- The files that are reached. -/
def numbers : End → List Nat
  | writer x => [x.number]
  | reader x => [x.number]
  | status s => [s.reader.number]
  | bus b => b.writer.number :: (b.reader.map (·.number)).toList

/-- What is held leads to files among these. -/
def Sits (q : String → Bool) (d : Directory) : End → Prop
  | writer x => x.Sits q d
  | reader x => d.Leads q x.number
  | status s => d.Leads q s.reader.number
  | bus b => b.Sits q d

theorem Sits.leads (h : e.Sits q d) {n : Nat} (hn : n ∈ e.numbers) : d.Leads q n := by
  -- every end holds one file or two, and where it sits says so
  cases e with
  | writer x =>
      obtain ⟨_, hleads⟩ := h
      rw [List.mem_singleton.1 hn]
      exact hleads
  | reader x =>
      rw [List.mem_singleton.1 hn]
      exact h
  | status s =>
      rw [List.mem_singleton.1 hn]
      exact h
  | bus b =>
      obtain ⟨hwriter, _, hreader⟩ := h
      rcases List.mem_cons.1 hn with rfl | hattached
      · exact hwriter.leads
      · obtain ⟨reader, hmem, rfl⟩ := Option.map_eq_some_iff.1 (Option.mem_toList.1 hattached)
        exact hreader reader hmem

/-- It goes on doing so. -/
theorem Sits.untouched (h : e.Sits q d) (huntouched : d.Untouched p d') : e.Sits q d' := by
  cases e with
  | writer x =>
      obtain ⟨hfile, hleads⟩ := h
      exact ⟨hfile, huntouched.leads hleads⟩
  | reader x => exact huntouched.leads h
  | status s => exact huntouched.leads h
  | bus b =>
      obtain ⟨⟨hfile, hleads⟩, hinputs, hreader⟩ := h
      exact ⟨⟨hfile, huntouched.leads hleads⟩, hinputs,
        fun reader hmem => huntouched.leads (hreader reader hmem)⟩

end End

/-! ### One operation

Every operation is of one channel, and what is held for it leads to files of this channel. Two
things follow for the files of the others: they stay untouched, and it makes no difference whether
they are there.
-/

/-- An outcome in which some files are untouched, and what is held leads to others. -/
structure Outcome.Proper (p q : String → Bool) (w : World) (o : Outcome) : Prop where
  untouched : w.directory.Untouched p o.world.directory
  sits : ∀ e, o.held = some e → e.Sits q o.world.directory

variable {p q : String → Bool} {w : World} {channel : String}

theorem Outcome.Proper.opened {ε α : Type} {sits : Directory → α → Prop} {r : Except ε α × World}
    (h : w.Obtains p sits r) (fault : ε → Response) {toEnd : α → End}
    (hsits : ∀ d x, sits d x → (toEnd x).Sits q d) : Proper p q w (.opened fault toEnd r) := by
  refine ⟨?_, ?_⟩
  · obtain ⟨e | x, w'⟩ := r <;> exact h.untouched
  · intro held hheld
    obtain ⟨e | x, w'⟩ := r
    · cases hheld
    · cases hheld
      exact hsits _ x (h.sits x rfl)

/-- **Getting hold of something** touches no files of others, and leads to one's own. -/
theorem Opening.proper (ho : w.directory.Orderly) (hown : ∀ r : Role, Own q (r.segment channel))
    (hapart : Apart q p) (how : Opening) : (how.run channel w).Proper p q w := by
  cases how with
  | command => exact .opened (Shared.obtains_command ho (hown .command) hapart) _ fun _ _ h => h
  | status => exact .opened (Shared.obtains_status ho (hown .status) hapart) _ fun _ _ h => h
  | notices => exact .opened (Shared.obtains_notices ho (hown .notices) hapart) _ fun _ _ h => h
  | bus =>
      exact .opened (SegmentBus.obtains_create ho (hown .outputs) (hown .inputs) hapart) _
        fun _ _ h => h
  | create r size =>
      exact .opened (World.obtains_createSegment ho (hown r) hapart size) _ fun _ _ h => h
  | attach r => exact .opened (World.obtains_attachSegment ho (hown r) hapart) _ fun _ _ h => h

/-- It comes to the same when files of others are hidden. -/
theorem Opening.run_hide (hown : ∀ r : Role, Own q (r.segment channel)) (hapart : Apart q p)
    (hslash : '/' ∉ channel.toList) (how : Opening) :
    how.run channel (w.hide p) = (how.run channel w).hide p := by
  have hforeign (r : Role) : Directory.Foreign p (r.segment channel) := (hown r).foreign hapart
  have hname (r : Role) : '/' ∉ (r.segment channel).toList := r.slash_not_mem_segment hslash
  -- only a creation looks for a file by its name, so only there the slash is of interest
  cases how with
  | command =>
      have hopen := Shared.openCommand_hide (w := w) (hforeign .command) (hname .command)
      exact (congrArg _ hopen).trans (Outcome.opened_hide ..)
  | status =>
      have hopen := Shared.openStatus_hide (w := w) (hforeign .status)
      exact (congrArg _ hopen).trans (Outcome.opened_hide ..)
  | notices =>
      have hopen := Shared.openNotices_hide (w := w) (hforeign .notices)
      exact (congrArg _ hopen).trans (Outcome.opened_hide ..)
  | bus =>
      have hopen := SegmentBus.create_hide (w := w) (hforeign .outputs) (hname .outputs)
      exact (congrArg _ hopen).trans (Outcome.opened_hide ..)
  | create r size =>
      have hopen := World.createSegment_hide (w := w) (hforeign r) (hname r) size
      exact (congrArg _ hopen).trans (Outcome.opened_hide ..)
  | attach r =>
      have hopen := World.attachSegment_hide (w := w) (hforeign r)
      exact (congrArg _ hopen).trans (Outcome.opened_hide ..)

/-- Something is held. -/
theorem Outcome.Proper.kept {w' : World} {e : End} (response : Response)
    (huntouched : w.directory.Untouched p w'.directory) (hsits : e.Sits q w'.directory) :
    Proper p q w ⟨response, some e, w'⟩ := by
  refine ⟨huntouched, ?_⟩
  intro held hheld
  cases hheld
  exact hsits

/-- Something was given up. -/
theorem Outcome.Proper.gone {w' : World} (huntouched : w.directory.Untouched p w'.directory) :
    Proper p q w ⟨.done, none, w'⟩ := by
  refine ⟨huntouched, ?_⟩
  intro held hheld
  cases hheld

/-- **Using what is held** touches no files of others. -/
theorem End.proper {e : End} (ho : w.directory.Orderly) (h : e.Sits q w.directory)
    (hapart : Apart q p) (use : Use) : (e.use w use).Proper p q w := by
  -- a use that does not fit what is held comes to nothing
  have hrests (response : Response) : Outcome.Proper p q w ⟨response, some e, w⟩ :=
    .kept response (.refl p ho) h
  cases e with
  | writer x =>
      cases use with
      | write start bytes =>
          unfold End.use
          dsimp only
          rcases x.writeAt_cases start bytes w.directory with ⟨fault, hwrite⟩ | ⟨version, hwrite⟩
          · rw [hwrite]
            exact hrests _
          · rw [hwrite]
            obtain ⟨hfile, hleads⟩ := h
            have hwrote := SegmentWriter.Sits.wrote ho ⟨hfile, hleads⟩ hapart start bytes
            exact .kept _ hwrote ⟨hfile, hwrote.leads hleads⟩
      | send m =>
          obtain ⟨huntouched, hsits⟩ := Shared.untouched_send ho h hapart m
          unfold End.use
          dsimp only
          generalize Shared.send x m w = sent at huntouched hsits ⊢
          obtain ⟨fault | _, x', w'⟩ := sent <;> exact .kept _ huntouched hsits
      | drop => exact .gone (World.untouched_dropWriter ho h hapart)
      | _ => exact hrests _
  | reader x =>
      cases use with
      | read start length =>
          unfold End.use
          dsimp only
          cases hread : x.readRange start length w.directory with
          | error fault => exact hrests _
          | ok found =>
              obtain ⟨block, x'⟩ := found
              rw [SegmentReader.readRange_eq_ok hread]
              exact .kept _ (.refl p ho) h
      | poll =>
          have hnumber := Shared.number_poll x w.directory
          unfold End.use
          dsimp only
          generalize Shared.poll x w.directory = polled at hnumber ⊢
          have hleads : w.directory.Leads q polled.2.number := hnumber.symm ▸ h
          obtain ⟨fault | notice, x'⟩ := polled <;> exact .kept _ (.refl p ho) hleads
      | drop => exact .gone (World.untouched_dropReader ho h hapart)
      | _ => exact hrests _
  | status s =>
      cases use with
      | peek =>
          have hnumber := Shared.number_peek s w.directory
          have hleads : w.directory.Leads q (Shared.peek s w.directory).2.reader.number :=
            hnumber.symm ▸ h
          exact .kept _ (.refl p ho) hleads
      | drop => exact .gone (World.untouched_dropReader ho h hapart)
      | _ => exact hrests _
  | bus b =>
      cases use with
      | sample =>
          obtain ⟨huntouched, hsits⟩ := SegmentBus.untouched_sample ho h hapart
          exact .kept _ huntouched hsits
      | publish out =>
          obtain ⟨huntouched, hsits⟩ := SegmentBus.untouched_publish ho h hapart out
          unfold End.use
          dsimp only
          generalize b.publish out w = published at huntouched hsits ⊢
          obtain ⟨error | _, b', w'⟩ := published <;> exact .kept _ huntouched hsits
      | drop => exact .gone (SegmentBus.untouched_drop ho h hapart)
      | _ => exact hrests _

/-- It comes to the same when files of others are hidden. -/
theorem End.use_hide {e : End} (h : e.Sits q w.directory) (hapart : Apart q p) (use : Use) :
    e.use (w.hide p) use = (e.use w use).hide p := by
  -- every use goes to a file by its number, but for the bus, which looks for its panel's file
  cases e with
  | writer x =>
      cases use with
      | write start bytes =>
          unfold End.use
          dsimp only
          rw [show x.writeAt start bytes (w.hide p).directory = _ from x.writeAt_hide start bytes]
          obtain ⟨fault | x', d⟩ := x.writeAt start bytes w.directory <;> rfl
      | send m =>
          unfold End.use
          dsimp only
          rw [Shared.send_hide]
          obtain ⟨fault | _, x', w'⟩ := Shared.send x m w <;> rfl
      | drop => exact congrArg (Outcome.mk _ _) (World.dropWriter_hide x)
      | _ => rfl
  | reader x =>
      cases use with
      | read start length =>
          unfold End.use
          dsimp only
          rw [show x.readRange start length (w.hide p).directory
            = x.readRange start length w.directory from rfl]
          obtain fault | ⟨block, x'⟩ := x.readRange start length w.directory <;> rfl
      | poll =>
          unfold End.use
          dsimp only
          rw [show Shared.poll x (w.hide p).directory = Shared.poll x w.directory from rfl]
          obtain ⟨fault | notice, x'⟩ := Shared.poll x w.directory <;> rfl
      | _ => rfl
  | status s => cases use <;> rfl
  | bus b =>
      cases use with
      | sample =>
          obtain ⟨_, hinputs, _⟩ := h
          unfold End.use
          dsimp only
          rw [SegmentBus.sample_hide (hinputs.foreign hapart)]
          rfl
      | publish out =>
          unfold End.use
          dsimp only
          rw [SegmentBus.publish_hide]
          obtain ⟨error | _, b', w'⟩ := b.publish out w <;> rfl
      | drop => exact congrArg (Outcome.mk _ _) SegmentBus.drop_hide
      | _ => rfl

/-! ### Sharing a directory

A move is made by a process for one channel. What the channels share besides the directory is the
clock and the journal, and none of them reads the journal.
-/

/-- A directory that bridges, panels and controllers share, and what is held of each channel. The
journal takes what all of them write. -/
structure Commons where
  world : World
  ends : String → List End

/-- What happens in the directory. -/
inductive Commons.Move where
  /-- A process gets hold of something of a channel. -/
  | opens (pid : UInt32) (channel : String) (how : Opening)
  /-- What is held of a channel is used. -/
  | uses (channel : String) (i : Nat) (use : Use)
  /-- Processes start and exit, and time passes. -/
  | turn (alive : UInt32 → Bool) (time : Nat)

/-- The channel that a move is of. -/
def Commons.Move.channel? : Move → Option String
  | opens _ channel _ => some channel
  | uses channel _ _ => some channel
  | turn _ _ => none

/-- The world as a process acts in it. -/
def World.actedBy (w : World) (pid : UInt32) : World :=
  { w with directory := w.directory.actedBy pid }

/-- The ends after one of them was used. -/
def End.put (ends : List End) (i : Nat) : Option End → List End
  | some e => ends.set i e
  | none => ends.eraseIdx i

theorem End.mem_put {ends : List End} {i : Nat} {held : Option End} {e : End}
    (h : e ∈ End.put ends i held) : e ∈ ends ∨ held = some e := by
  cases held with
  | none => exact .inl (List.mem_of_mem_eraseIdx h)
  | some e' =>
      rcases List.mem_or_eq_of_mem_set h with hold | rfl
      · exact .inl hold
      · exact .inr rfl

namespace Commons

variable {s s₁ s' : Commons} {channel : String}

/-- What an outcome makes of the commons; these are held of the channel then. -/
def after (s : Commons) (channel : String) (ends : List End) (o : Outcome) : Response × Commons :=
  (o.response, { world := o.world, ends := Function.update s.ends channel ends })

/-- What a move comes to. -/
def step (s : Commons) : Move → Response × Commons
  | .opens pid channel how =>
    let o := how.run channel (s.world.actedBy pid)
    s.after channel (s.ends channel ++ o.held.toList) o
  | .uses channel i use =>
    match (s.ends channel)[i]? with
    | none => (.done, s)
    | some e =>
      let o := e.use s.world use
      s.after channel (End.put (s.ends channel) i o.held) o
  | .turn alive time =>
    let d := { s.world.directory with alive, now := s.world.directory.now + time }
    (.done, { s with world := { s.world with directory := d } })

/-- One move after the other, with what comes back. -/
def run (s : Commons) : List Move → List Response × Commons
  | [] => ([], s)
  | m :: moves =>
    let (response, s) := s.step m
    let (responses, s) := s.run moves
    (response :: responses, s)

/-- The same among fewer files. -/
def hide (s : Commons) (p : String → Bool) : Commons := { s with world := s.world.hide p }

/-- Whatever is held of a channel leads to files of the channel. -/
structure Ordered (s : Commons) : Prop where
  orderly : s.world.directory.Orderly
  sits : ∀ channel, ∀ e ∈ s.ends channel,
    e.Sits (Directory.ofChannel channel) s.world.directory

/-- Nothing of a channel changes. -/
structure Passes (channel : String) (s s' : Commons) : Prop where
  untouched : s.world.directory.Untouched (Directory.ofChannel channel) s'.world.directory
  ends : s'.ends channel = s.ends channel

theorem Passes.refl (h : s.Ordered) (channel : String) : Passes channel s s :=
  ⟨.refl _ h.orderly, rfl⟩

theorem Passes.trans (h : Passes channel s s₁) (h' : Passes channel s₁ s') :
    Passes channel s s' :=
  ⟨h.untouched.trans h'.untouched, h'.ends.trans h.ends⟩

namespace Ordered

/-- An outcome that touches no files of others keeps the order, and passes the other channels. -/
theorem after (h : s.Ordered) {ends : List End} {o : Outcome}
    (huntouched : ∀ p, Apart (Directory.ofChannel channel) p →
      s.world.directory.Untouched p o.world.directory)
    (hends : ∀ e ∈ ends, e ∈ s.ends channel ∨
      e.Sits (Directory.ofChannel channel) o.world.directory) :
    (s.after channel ends o).2.Ordered ∧
      ∀ channel', channel' ≠ channel → Passes channel' s (s.after channel ends o).2 := by
  have hany := huntouched _ (Directory.apart_nothing _)
  unfold Commons.after
  refine ⟨⟨hany.orderly, ?_⟩, ?_⟩
  · intro channel' e he
    dsimp only at he
    -- what is held of the channel itself was there before or comes of this very move
    by_cases hsame : channel' = channel
    · subst hsame
      rw [Function.update_self] at he
      rcases hends e he with hold | hnew
      · exact (h.sits channel' e hold).untouched hany
      · exact hnew
    · rw [Function.update_of_ne hsame] at he
      exact (h.sits channel' e he).untouched hany
  · intro channel' hne
    refine ⟨huntouched _ (Directory.apart_of_ne (Ne.symm hne)), ?_⟩
    exact Function.update_of_ne hne ..

theorem opens (h : s.Ordered) (pid : UInt32) (channel : String) (how : Opening) :
    (s.step (.opens pid channel how)).2.Ordered ∧
      ∀ channel', channel' ≠ channel →
        Passes channel' s (s.step (.opens pid channel how)).2 := by
  have horderly : (s.world.actedBy pid).directory.Orderly := h.orderly.congr rfl rfl
  have hproper (p) (hapart : Apart (Directory.ofChannel channel) p) :=
    how.proper horderly (Directory.own_segment channel) hapart
  refine h.after ?_ ?_
  · intro p hapart
    exact (hproper p hapart).untouched.congr rfl rfl rfl rfl
  · intro e he
    rcases List.mem_append.1 he with hold | hnew
    · exact .inl hold
    · have hown := (hproper _ (Directory.apart_nothing _)).sits
      exact .inr (hown e (Option.mem_toList.1 hnew))

theorem uses (h : s.Ordered) (channel : String) (i : Nat) (use : Use) :
    (s.step (.uses channel i use)).2.Ordered ∧
      ∀ channel', channel' ≠ channel →
        Passes channel' s (s.step (.uses channel i use)).2 := by
  unfold step
  dsimp only
  cases hget : (s.ends channel)[i]? with
  | none => -- a channel without such an end stays as it is
      refine ⟨h, ?_⟩
      intro channel' _
      exact .refl h channel'
  | some e =>
      have hsits := h.sits channel e (List.mem_of_getElem? hget)
      have hproper (p) (hapart : Apart (Directory.ofChannel channel) p) :=
        End.proper h.orderly hsits hapart use
      refine h.after ?_ ?_
      · intro p hapart
        exact (hproper p hapart).untouched
      · intro e' he'
        rcases End.mem_put he' with hold | hnew
        · exact .inl hold
        · exact .inr ((hproper _ (Directory.apart_nothing _)).sits e' hnew)

theorem turn (h : s.Ordered) (alive : UInt32 → Bool) (time : Nat) :
    (s.step (.turn alive time)).2.Ordered ∧
      ∀ channel, Passes channel s (s.step (.turn alive time)).2 := by
  have huntouched (p : String → Bool) :
      s.world.directory.Untouched p (s.step (.turn alive time)).2.world.directory :=
    (Directory.Untouched.refl p h.orderly).congr rfl rfl rfl rfl
  have hany := huntouched fun _ => false
  refine ⟨⟨hany.orderly, ?_⟩, ?_⟩
  · intro channel e he
    exact (h.sits channel e he).untouched hany
  · intro channel
    exact ⟨huntouched _, rfl⟩

/-- **A move keeps the order**, and passes the channels that it is not of. -/
theorem step (h : s.Ordered) (m : Move) :
    (s.step m).2.Ordered ∧
      ∀ channel, m.channel? ≠ some channel → Passes channel s (s.step m).2 := by
  -- a move names one channel at most, and the others are passed by
  cases m with
  | opens pid c how =>
      obtain ⟨hordered, hpasses⟩ := h.opens pid c how
      refine ⟨hordered, ?_⟩
      intro channel hne
      apply hpasses
      rintro rfl
      exact hne rfl
  | uses c i use =>
      obtain ⟨hordered, hpasses⟩ := h.uses c i use
      refine ⟨hordered, ?_⟩
      intro channel hne
      apply hpasses
      rintro rfl
      exact hne rfl
  | turn alive time =>
      obtain ⟨hordered, hpasses⟩ := h.turn alive time
      exact ⟨hordered, fun channel _ => hpasses channel⟩

/-- **So does any run of moves.** -/
theorem run (h : s.Ordered) (moves : List Move) :
    (s.run moves).2.Ordered ∧ ∀ channel, (∀ m ∈ moves, m.channel? ≠ some channel) →
      Passes channel s (s.run moves).2 := by
  induction moves generalizing s with
  | nil =>
      refine ⟨h, ?_⟩
      intro channel _
      exact .refl h channel
  | cons m moves ih => -- the moves keep the order, which the next move needs as well
      obtain ⟨hordered, hpasses⟩ := h.step m
      obtain ⟨hordered', hpasses'⟩ := ih hordered
      refine ⟨hordered', ?_⟩
      intro channel hmoves
      obtain ⟨hm, hrest⟩ := List.forall_mem_cons.1 hmoves
      exact (hpasses channel hm).trans (hpasses' channel hrest)

end Ordered

/-- **A move comes to the same when files of another channel are hidden.** -/
theorem step_hide (h : s.Ordered) {m : Move}
    (hm : ∀ c, m.channel? = some c → c ≠ channel ∧ '/' ∉ c.toList) :
    (s.hide (Directory.ofChannel channel)).step m
      = Prod.map id (·.hide (Directory.ofChannel channel)) (s.step m) := by
  -- opening looks for files of its own segment, and a use finds its end where it was
  cases m with
  | opens pid c how =>
      obtain ⟨hne, hslash⟩ := hm c rfl
      have hrun := how.run_hide (w := s.world.actedBy pid) (Directory.own_segment c)
        (Directory.apart_of_ne hne) hslash
      unfold step
      dsimp only
      rw [show (s.hide (Directory.ofChannel channel)).world.actedBy pid
        = (s.world.actedBy pid).hide (Directory.ofChannel channel) from rfl, hrun]
      rfl
  | uses c i use =>
      obtain ⟨hne, _⟩ := hm c rfl
      unfold step
      dsimp only
      rw [show (s.hide (Directory.ofChannel channel)).ends = s.ends from rfl]
      cases hget : (s.ends c)[i]? with
      | none => rfl
      | some e =>
          have huse := End.use_hide (h.sits c e (List.mem_of_getElem? hget))
            (Directory.apart_of_ne hne) use
          dsimp only
          rw [show (s.hide (Directory.ofChannel channel)).world
            = s.world.hide (Directory.ofChannel channel) from rfl, huse]
          rfl
  | turn alive time => rfl

theorem run_hide (h : s.Ordered) {moves : List Move}
    (hmoves : ∀ m ∈ moves, ∀ c, m.channel? = some c → c ≠ channel ∧ '/' ∉ c.toList) :
    (s.hide (Directory.ofChannel channel)).run moves
      = Prod.map id (·.hide (Directory.ofChannel channel)) (s.run moves) := by
  induction moves generalizing s with
  | nil => rfl
  | cons m moves ih =>
      obtain ⟨hm, hrest⟩ := List.forall_mem_cons.1 hmoves
      unfold run
      rw [step_hide h hm]
      dsimp only [Prod.map]
      rw [ih (h.step m).1 hrest]
      rfl

/-- **Channels keep apart.** A directory that holds the file that a segment has for an owner lists
it for this segment only, and gives the owner. The name of a segment tells the channel and what the
segment is for.

So let any bridges, panels and controllers share an orderly directory, and let them have done
whatever they do. A run of moves that are not of a channel leaves the files of the channel as they
are, the counts of their readers included, and whatever is held of it; nothing that is held of
another channel leads to one of them; and all answers are the same, and all else comes to the same,
as if these files were not there. -/
theorem channels_apart :
    (∀ (d : Directory) (name name' file : String) (pid : UInt32) (number : Nat),
      d.locate (Directory.fileName name' pid) = .ok file → (file, number) ∈ d.entries →
      ∃ ms, d.find name = .ok ms ∧ ((∃ m ∈ ms, m.file = file) ↔ name = name') ∧
        ∀ m ∈ ms, m.file = file → m.pid = pid) ∧
    (∀ (channel channel' : String) (r r' : Role),
      r.segment channel = r'.segment channel' ↔ channel = channel' ∧ r = r') ∧
    ∀ start : Commons, start.world.directory.Orderly → (∀ channel, start.ends channel = []) →
    ∀ (before moves : List Move) (channel : String),
      (∀ m ∈ moves, ∀ c, m.channel? = some c → c ≠ channel ∧ '/' ∉ c.toList) →
      let now := (start.run before).2
      let later := (now.run moves).2
      later.world.directory.filesOf channel = now.world.directory.filesOf channel ∧
      later.ends channel = now.ends channel ∧
      (∀ c ≠ channel, ∀ held ∈ later.ends c, ∀ n ∈ held.numbers,
        ∀ e ∈ later.world.directory.filesOf channel, e.1.2 ≠ n) ∧
      (now.hide (Directory.ofChannel channel)).run moves
        = ((now.run moves).1, later.hide (Directory.ofChannel channel)) := by
  refine ⟨fun _ _ _ _ _ _ => Directory.find_located, fun _ _ _ _ => Role.segment_inj, ?_⟩
  intro start horderly hnone before moves channel hmoves now later
  have hstart : start.Ordered := by
    refine ⟨horderly, ?_⟩
    intro c e he
    rw [hnone] at he
    cases he
  -- the moves of the history are ordered first, and then those that follow
  have hnow := (hstart.run before).1
  obtain ⟨hlater, hpasses⟩ := hnow.run moves
  have hother : ∀ m ∈ moves, m.channel? ≠ some channel := by
    intro m hm heq
    exact (hmoves m hm channel heq).1 rfl
  have hpass := hpasses channel hother
  refine ⟨hpass.untouched.filesOf, hpass.ends, ?_, run_hide hnow hmoves⟩
  -- a file of the channel that an end of another one held would belong to both
  intro c hne held hheld n hn e he
  obtain ⟨e', he', rfl⟩ := List.mem_map.1 he
  obtain ⟨hmem, hof⟩ := List.mem_filter.1 he'
  intro hnumber
  have hown := ((hlater.sits c held hheld).leads hn).2 e' hmem hnumber
  rw [Directory.apart_of_ne hne _ hown] at hof
  cases hof

/-- The command segment of a channel, with nobody else there yet. -/
def early : Commons where
  world := { Stage.vacant.world with
    directory :=
      { root := ""
        self := 5
        alive := fun pid => pid = 5 ∨ pid = 7
        entries := [("hmi_p_cmd_5", 0)]
        files := [{ length := 4224 }] } }
  ends _ := []

/-- A bridge whose channel is named after this very file gets its own command segment; the file is
still found, and is as it was. -/
theorem channels_apart_early :
    (∃ ms, early.world.directory.find "p_cmd" = .ok ms ∧ ∃ m ∈ ms, m.file = "hmi_p_cmd_5") ∧
      (early.run [.opens 7 "p_cmd_5" .command]).1 = [.done] ∧
      (early.run [.opens 7 "p_cmd_5" .command]).2.world.directory.filesOf "p"
        = [(("hmi_p_cmd_5", 0), { length := 4224 })] := by
  obtain ⟨hfind, _, hrun⟩ := channels_apart
  have hname : Directory.fileName "p_cmd" 5 = "hmi_p_cmd_5" := by decide +kernel
  have horderly : early.world.directory.Orderly := ⟨⟨by decide, by decide⟩, by decide⟩
  -- the channel `p` has a file that looks like one of a channel `p_cmd_5` at first sight
  refine ⟨?_, ?_, ?_⟩
  · have hlocate := Directory.takes_iff.1 (Directory.takes_of_name
      (show Directory.fileName "p_cmd" early.world.directory.self = _ from hname) rfl rfl
      (by decide +kernel) (by simp) (by decide +kernel))
    obtain ⟨ms, hms, hiff, _⟩ := hfind early.world.directory "p_cmd" "p_cmd" _ 5 0 hlocate
      (hname ▸ List.mem_cons_self)
    rw [← hname]
    exact ⟨ms, hms, hiff.2 rfl⟩
  · have hname' : Directory.fileName (Shared.commandSegment "p_cmd_5") 7
        = "hmi_p_cmd_5_cmd_7" := by
      decide +kernel
    have htakes : (early.world.actedBy 7).directory.takes (Shared.commandSegment "p_cmd_5")
        = true :=
      Directory.takes_of_name hname' rfl rfl (by decide +kernel) (by simp) (by decide +kernel)
    obtain ⟨writer, hwriter⟩ := (Directory.create_iff htakes).2
      ⟨(by decide : Segment.sizeFault? Shared.commandSize = none), by decide +kernel⟩
    show [(Outcome.opened Response.channel End.writer
      (Shared.openCommand "p_cmd_5" (early.world.actedBy 7))).response] = [.done]
    unfold Shared.openCommand World.createSegment
    dsimp only
    rw [hwriter]
    rfl
  · have hother : ∀ m ∈ [Move.opens 7 "p_cmd_5" .command], ∀ c, m.channel? = some c →
        c ≠ "p" ∧ '/' ∉ c.toList := by
      intro m hm c hc
      rw [List.mem_singleton.1 hm] at hc
      cases hc
      exact ⟨by decide, by simp⟩
    have hsame := (hrun early horderly (fun _ => rfl) [] _ "p" hother).1
    exact hsame.trans (by decide +kernel)

end Commons
end OperatorPanel
