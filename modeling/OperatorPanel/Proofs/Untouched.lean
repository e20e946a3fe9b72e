import OperatorPanel.Proofs.FailedConnect
import OperatorPanel.Proofs.Hiding
import OperatorPanel.Proofs.Publication

/-!
# Untouched files

What becomes of some files of a directory while others are at work in it: `Directory.Untouched` says
that nothing does. Whoever creates a segment or attaches to one leaves the files of other segments
untouched (`Directory.untouched_create`, `World.obtains_attachSegment`). What is got in this way
leads to a file of one's own for good (`Directory.Leads`, `Directory.Untouched.leads`), so that
whatever is done with it does not touch files of others either. This is followed here up to the
channels and the pins of a bridge.
-/

namespace OperatorPanel

variable {p q : String → Bool}

namespace Directory

variable {d d₁ d' : Directory} {name file : String} {number size : Nat}

/-! ### Directories

A file is known by a name or by a number. Names are what a process is given to look for, numbers are
what it holds on to; so files may lose their names while somebody still has them. What is followed
here is followed under both.
-/

/-- A sound directory in which every name has a file of its own. -/
structure Orderly (d : Directory) : Prop extends d.Sound where
  numbers : (d.entries.map (·.2)).Nodup

/-- Only what stands in the directory matters. -/
theorem Orderly.congr (ho : d.Orderly) (hentries : d'.entries = d.entries)
    (hfiles : d'.files = d.files) : d'.Orderly := by
  refine ⟨⟨?_, ?_⟩, ?_⟩
  · rw [hentries]
    exact ho.names
  · rw [hentries, hfiles]
    exact ho.inside
  · rw [hentries]
    exact ho.numbers

/-- In an orderly directory a number tells the name. -/
theorem Orderly.eq_of_number (ho : d.Orderly) {e e' : String × Nat} (he : e ∈ d.entries)
    (he' : e' ∈ d.entries) (h : e.2 = e'.2) : e = e' :=
  List.inj_on_of_nodup_map ho.numbers he he' h

/-- What becomes of an orderly directory while some of its files are left as they are. -/
structure Untouched (p : String → Bool) (d d' : Directory) : Prop where
  entries : d'.entries.filter (p ·.1) = d.entries.filter (p ·.1)
  files : ∀ e ∈ d.entries, p e.1 = true → d'.file e.2 = d.file e.2
  length : d.files.length ≤ d'.files.length
  fresh : ∀ e ∈ d'.entries, e ∈ d.entries ∨ d.files.length ≤ e.2
  orderly : d'.Orderly

/-- The number leads to one of these files, or to a file that has no name any more. -/
def Leads (q : String → Bool) (d : Directory) (number : Nat) : Prop :=
  number < d.files.length ∧ ∀ e ∈ d.entries, e.2 = number → q e.1 = true

/-- All files of the segment are among these. -/
def Own (q : String → Bool) (name : String) : Prop :=
  ∀ file pid, owner? name file = some pid → q file = true

/-- No file is among both. -/
def Apart (q p : String → Bool) : Prop := ∀ file, q file = true → p file = false

theorem apart_nothing (q : String → Bool) : Apart q fun _ => false := fun _ _ => rfl

theorem Own.foreign (hown : Own q name) (hapart : Apart q p) : Foreign p name :=
  fun file pid howner => hapart file (hown file pid howner)

namespace Untouched

theorem refl (p : String → Bool) (ho : d.Orderly) : Untouched p d d :=
  ⟨rfl, fun _ _ _ => rfl, Nat.le_refl _, fun _ he => .inl he, ho⟩

theorem trans (h : Untouched p d d₁) (h' : Untouched p d₁ d') : Untouched p d d' where
  entries := h'.entries.trans h.entries
  files e he hp := by
    have hkept : e ∈ d₁.entries.filter (p ·.1) := by
      rw [h.entries]
      exact List.mem_filter.2 ⟨he, hp⟩
    rw [h'.files e (List.mem_filter.1 hkept).1 hp, h.files e he hp]
  length := Nat.le_trans h.length h'.length
  fresh e he := by
    rcases h'.fresh e he with hold | hnew
    · exact h.fresh e hold
    · exact .inr (Nat.le_trans h.length hnew)
  orderly := h'.orderly

/-- Only what stands in the directories matters. -/
theorem congr (h : Untouched p d d') {d₂ : Directory} (hentries : d₁.entries = d.entries)
    (hfiles : d₁.files = d.files) (hentries' : d₂.entries = d'.entries)
    (hfiles' : d₂.files = d'.files) : Untouched p d₁ d₂ := by
  -- directories with the same entries and the same files are the same as far as this goes
  have hfile (n : Nat) : d₁.file n = d.file n := by
    unfold Directory.file
    rw [hfiles]
  have hfile' (n : Nat) : d₂.file n = d'.file n := by
    unfold Directory.file
    rw [hfiles']
  refine ⟨?_, ?_, ?_, ?_, h.orderly.congr hentries' hfiles'⟩
  · rw [hentries, hentries']
    exact h.entries
  · intro e he hp
    rw [hentries] at he
    rw [hfile, hfile']
    exact h.files e he hp
  · rw [hfiles, hfiles']
    exact h.length
  · rw [hentries, hentries', hfiles]
    exact h.fresh

/-- What leads to a file of one's own goes on doing so, whatever is done to the directory. -/
theorem leads (h : Untouched p d d') (hleads : d.Leads q number) : d'.Leads q number := by
  refine ⟨Nat.lt_of_lt_of_le hleads.1 h.length, fun e he hnumber => ?_⟩
  -- a number that was given is never given again, so what has lost its name gets no other
  rcases h.fresh e he with hold | hnew
  · exact hleads.2 e hold hnumber
  · rw [hnumber] at hnew
    exact absurd hleads.1 (Nat.not_lt.2 hnew)

/-- A file of another name is removed. -/
theorem remove (ho : d.Orderly) (h : p file = false) : Untouched p d (d.remove file) where
  entries := by
    unfold Directory.remove
    dsimp only
    rw [List.filter_filter]
    refine List.filter_congr fun e _ => ?_
    by_cases hfile : e.1 = file
    · rw [hfile, h, Bool.false_and]
    · rw [decide_eq_true hfile, Bool.and_true]
  files _ _ _ := rfl
  length := Nat.le_refl _
  fresh _ he := .inl (List.mem_filter.1 he).1
  orderly :=
    { ho.toSound.removed file with numbers := (List.filter_sublist.map _).nodup ho.numbers }

/-- A file of another name is added. -/
theorem add (ho : d.Orderly) (h : p file = false) (new : SegmentFile) :
    Untouched p d (d.add file new) where
  entries := by
    have hkept := (Untouched.remove ho h).entries
    unfold Directory.remove at hkept
    unfold Directory.add
    dsimp only at hkept ⊢
    rw [List.filter_append, hkept, List.filter_singleton, h]
    exact List.append_nil _
  files e he _ := file_of_prefix (List.prefix_append ..) (ho.inside e he)
  length := by
    unfold Directory.add
    rw [List.length_append]
    exact Nat.le_add_right _ _
  fresh e he := by
    rcases List.mem_append.1 he with hold | hnew
    · exact .inl (List.mem_filter.1 hold).1
    · rw [List.mem_singleton.1 hnew]
      exact .inr (Nat.le_refl _)
  orderly := by
    -- the old names are other names, and the old numbers are smaller than the new one
    have hold (e) (he : e ∈ d.entries.filter (·.1 ≠ file)) : e.1 ≠ file ∧ e.2 ≠ d.files.length :=
      ⟨of_decide_eq_true (List.mem_filter.1 he).2,
        Nat.ne_of_lt (ho.inside e (List.mem_filter.1 he).1)⟩
    refine ⟨⟨?_, ?_⟩, ?_⟩
    · unfold Directory.add
      dsimp only
      rw [List.map_append, List.nodup_append]
      refine ⟨(List.filter_sublist.map _).nodup ho.names, List.nodup_singleton _, ?_⟩
      rintro _ hname _ hnew rfl
      obtain ⟨e, he, rfl⟩ := List.mem_map.1 hname
      exact (hold e he).1 (List.mem_singleton.1 hnew)
    · intro e he
      unfold Directory.add
      rw [List.length_append]
      rcases List.mem_append.1 he with hold | hnew
      · exact Nat.lt_add_right _ (ho.inside e (List.mem_filter.1 hold).1)
      · rw [List.mem_singleton.1 hnew]
        exact Nat.lt_succ_self _
    · unfold Directory.add
      dsimp only
      rw [List.map_append, List.nodup_append]
      refine ⟨(List.filter_sublist.map _).nodup ho.numbers, List.nodup_singleton _, ?_⟩
      rintro _ hnumber _ hnew rfl
      obtain ⟨e, he, rfl⟩ := List.mem_map.1 hnumber
      exact (hold e he).2 (List.mem_singleton.1 hnew)

/-- A file is changed that is none of them. -/
theorem modify (ho : d.Orderly) (hapart : Apart q p) (h : d.Leads q number)
    (f : SegmentFile → SegmentFile) : Untouched p d (d.modify number f) where
  entries := rfl
  files e he hp := by
    refine file_modify_ne (fun hnumber => ?_) f
    rw [hapart e.1 (h.2 e he hnumber.symm)] at hp
    cases hp
  length := Nat.le_of_eq (length_modify ..).symm
  fresh _ he := .inl he
  orderly :=
    { names := ho.names
      inside := fun e he => Nat.lt_of_lt_of_eq (ho.inside e he) (length_modify ..).symm
      numbers := ho.numbers }

end Untouched

/-- Claiming a name touches no file of another segment. -/
theorem untouched_claimFrom (ho : d.Orderly) (h : Foreign p name) {ms : List Match}
    (hms : ∀ m ∈ ms, owner? name m.file = some m.pid) :
    Untouched p d (d.claimFrom name ms).directory := by
  induction ms generalizing d with
  | nil => exact .refl p ho
  | cons m ms ih =>
      obtain ⟨hm, hrest⟩ := List.forall_mem_cons.1 hms
      unfold claimFrom
      split
      · exact .refl p ho
      · have hremove := Untouched.remove ho (h m.file m.pid hm)
        exact hremove.trans (ih hremove.orderly hrest)

/-- **Creating a segment touches no file of another.** -/
theorem untouched_create (ho : d.Orderly) (h : Foreign p name) (size : Nat) :
    Untouched p d (d.create name size).directory := by
  -- what a claim removes are files of the segment, and these are not among the others
  have hclaim : Untouched p d (d.claim name).directory := by
    unfold claim
    cases hfind : d.find name with
    | error fault => exact .refl p ho
    | ok ms => exact untouched_claimFrom ho h fun m hm => ((mem_find_iff hfind).1 hm).2
  unfold create
  cases Segment.sizeFault? size with
  | some fault => exact .refl p ho
  | none =>
      dsimp only
      cases (d.claim name).fault with
      | some fault => exact hclaim
      | none =>
          dsimp only
          cases hlocate : (d.claim name).directory.locate
              (fileName name (d.claim name).directory.self) with
          | error fault => exact hclaim
          | ok file => -- the file is added under a name of the segment
              obtain ⟨rfl, _⟩ := locate_fileName_eq_ok.1 hlocate
              exact hclaim.trans (.add hclaim.orderly (h _ _ (owner?_fileName ..)) _)

/-- The best of some files is one of them. -/
theorem mem_of_best? {ms : List Match} {m : Match} (h : d.best? ms = some m) : m ∈ ms := by
  induction ms generalizing m with
  | nil => cases h
  | cons first ms ih => -- the best of a list is the first one or the best of the others
      unfold best? at h
      cases hbest : d.best? ms with
      | none =>
          rw [hbest] at h
          cases h
          exact List.mem_cons_self
      | some best =>
          rw [hbest] at h
          dsimp only at h
          split at h
          · cases h
            exact List.mem_cons_self
          · cases h
            exact List.mem_cons_of_mem _ (ih hbest)

/-- What is selected is a file of the segment that stands in the directory. -/
theorem mem_of_select {m : Match} (h : d.select name = .ok m) :
    (m.file, m.number) ∈ d.entries ∧ owner? name m.file = some m.pid := by
  unfold select at h
  split at h
  · cases h
  · next ms hfind =>
      split at h
      · next hbest =>
          cases h
          exact (mem_find_iff hfind).1 (mem_of_best? hbest)
      · cases h

/-- Whoever attaches is led to a file of the segment. -/
theorem leads_of_select (ho : d.Orderly) (hown : Own q name) {m : Match}
    (h : d.select name = .ok m) : d.Leads q m.number := by
  obtain ⟨hmem, howner⟩ := mem_of_select h
  refine ⟨ho.inside _ hmem, fun e he hnumber => ?_⟩
  obtain rfl := ho.eq_of_number he hmem hnumber
  exact hown _ m.pid howner

end Directory

/-! ### Opening

Opening ends with something to hold or with a fault. In both cases the files that are followed are
untouched, so this is said once for all kinds of ends.
-/

/-- The file of a writer is one of these. -/
structure SegmentWriter.Sits (q : String → Bool) (d : Directory) (writer : SegmentWriter) :
    Prop where
  file : q writer.file = true
  leads : d.Leads q writer.number

/-- How opening something ends: the files that are followed are untouched, and what was opened is in
its place. -/
structure World.Obtains {ε α : Type} (p : String → Bool) (sits : Directory → α → Prop) (w : World)
    (r : Except ε α × World) : Prop where
  untouched : w.directory.Untouched p r.2.directory
  sits : ∀ x, r.1 = .ok x → sits r.2.directory x

namespace World

open Directory (Own Apart)

variable {w w' : World} {name : String}

theorem Obtains.failed {ε α : Type} {sits : Directory → α → Prop} (e : ε)
    (h : w.directory.Untouched p w'.directory) : w.Obtains p sits (.error e, w') := by
  refine ⟨h, ?_⟩
  intro x hx
  cases hx

theorem Obtains.succeeded {ε α : Type} {sits : Directory → α → Prop} {x : α}
    (h : w.directory.Untouched p w'.directory) (hsits : sits w'.directory x) :
    w.Obtains p sits ((.ok x, w') : Except ε α × World) := by
  refine ⟨h, ?_⟩
  intro y hy
  cases hy
  exact hsits

/-- The file that is created has a number of its own, and its name is one of the segment. -/
theorem obtains_createSegment (ho : w.directory.Orderly) (hown : Own q name) (hapart : Apart q p)
    (size : Nat) :
    w.Obtains p (SegmentWriter.Sits q) (w.createSegment name size) := by
  have huntouched := Directory.untouched_create ho (hown.foreign hapart) size
  have hdirectory : (w.createSegment name size).2.directory
      = (w.directory.create name size).directory := (noteRemoved_eq ..).1
  refine ⟨hdirectory ▸ huntouched, ?_⟩
  intro writer hwriter
  obtain ⟨rfl, hmade, _⟩ := Directory.create_ok hwriter
  have howner := hown _ _ (Directory.owner?_fileName name w.directory.self)
  rw [hdirectory, hmade]
  refine ⟨howner, ?_, ?_⟩
  · dsimp only
    rw [List.length_append]
    exact Nat.lt_succ_self _
  · -- the entries that were there have other numbers than the new file
    intro e he hnumber
    rcases List.mem_append.1 he with hold | hnew
    · have hlt := ho.inside e (List.mem_filter.1 hold).1
      exact absurd hnumber (Nat.ne_of_lt hlt)
    · rw [List.mem_singleton.1 hnew]
      exact howner

/-- To attach is to count a reader in a file of the segment. -/
theorem obtains_attachSegment (ho : w.directory.Orderly) (hown : Own q name) (hapart : Apart q p) :
    w.Obtains p (fun d reader => d.Leads q reader.number) (w.attachSegment name) := by
  unfold attachSegment
  rcases w.directory.attach_cases name with ⟨fault, h⟩ | ⟨m, r, hselect, hnumber, h⟩
  · rw [h]
    exact .failed fault (.refl p ho)
  · rw [h]
    have hleads := Directory.leads_of_select ho hown hselect
    rw [← hnumber] at hleads
    have huntouched := Directory.Untouched.modify ho hapart hleads
      fun file => { file with header := file.header.addReader }
    exact .succeeded huntouched (huntouched.leads hleads)

/-! ### Using

What is done with an end is done to the file that it leads to, which is none of those that are
followed.
-/

theorem untouched_dropWriter {writer : SegmentWriter} (ho : w.directory.Orderly)
    (h : writer.Sits q w.directory) (hapart : Apart q p) :
    w.directory.Untouched p (w.dropWriter writer).directory :=
  .remove ho (hapart _ h.file)

theorem untouched_dropReader {reader : SegmentReader} (ho : w.directory.Orderly)
    (h : w.directory.Leads q reader.number) (hapart : Apart q p) :
    w.directory.Untouched p (w.dropReader reader).directory :=
  .modify ho hapart h fun file => { file with header := file.header.removeReader }

end World

/-- A write is a write of the writer's file, and the writer remembers the version. -/
theorem SegmentWriter.writeAt_cases (writer : SegmentWriter) (start : Nat) (bytes : List UInt8)
    (d : Directory) :
    (∃ fault, writer.writeAt start bytes d = (.error fault, d)) ∨
      ∃ version, writer.writeAt start bytes d
        = (.ok { writer with version }, writer.wrote start bytes d) := by
  unfold writeAt
  dsimp only
  split
  · exact .inl ⟨_, rfl⟩
  · exact .inr ⟨_, rfl⟩

/-- A write moves the stamp and the version of the file along with its data. -/
theorem SegmentWriter.Sits.wrote {writer : SegmentWriter} {d : Directory}
    (ho : d.Orderly) (h : writer.Sits q d) (hapart : Directory.Apart q p) (start : Nat)
    (bytes : List UInt8) : d.Untouched p (writer.wrote start bytes d) := by
  have hmodified := Directory.Untouched.modify ho hapart h.leads fun file =>
    { file with
      header := { file.header.advance.advance with lastWrite := d.now }
      data := file.data.write start bytes }
  exact hmodified.congr rfl rfl rfl rfl

/-! ### What bridges do

A bridge opens its ends by creating or attaching, and gives an attachment back that it cannot use: a
status channel without a status in it, or notices that cannot be read.
-/

namespace Shared

open Directory (Own Apart)

variable {w : World} {channel : String}

theorem obtains_command (ho : w.directory.Orderly) (hown : Own q (commandSegment channel))
    (hapart : Apart q p) : w.Obtains p (SegmentWriter.Sits q) (openCommand channel w) := by
  have hgets := World.obtains_createSegment ho hown hapart commandSize
  unfold openCommand
  generalize w.createSegment (commandSegment channel) commandSize = made at hgets ⊢
  obtain ⟨fault | writer, w'⟩ := made
  · exact .failed _ hgets.untouched
  · exact .succeeded hgets.untouched (hgets.sits writer rfl)

theorem obtains_status (ho : w.directory.Orderly) (hown : Own q (statusSegment channel))
    (hapart : Apart q p) :
    w.Obtains p (fun d s => d.Leads q s.reader.number) (openStatus channel w) := by
  have hgets := World.obtains_attachSegment ho hown hapart
  unfold openStatus
  generalize w.attachSegment (statusSegment channel) = attached at hgets ⊢
  obtain ⟨fault | reader, w'⟩ := attached
  · exact .failed _ hgets.untouched
  · have hleads := hgets.sits reader rfl
    dsimp only
    cases hend : statusEnd reader w'.directory with
    | ok s =>
        rw [← number_statusEnd hend] at hleads
        exact .succeeded hgets.untouched hleads
    -- a reader that finds no status is dropped, which counts it out in its own file
    | error fault =>
        have hdropped := World.untouched_dropReader hgets.untouched.orderly hleads hapart
        exact .failed fault (hgets.untouched.trans hdropped)

theorem obtains_notices (ho : w.directory.Orderly) (hown : Own q (noticeSegment channel))
    (hapart : Apart q p) :
    w.Obtains p (fun d reader => d.Leads q reader.number) (openNotices channel w) := by
  have hgets := World.obtains_attachSegment ho hown hapart
  unfold openNotices
  generalize w.attachSegment (noticeSegment channel) = attached at hgets ⊢
  obtain ⟨fault | reader, w'⟩ := attached
  · exact .failed _ hgets.untouched
  · have hleads := hgets.sits reader rfl
    dsimp only
    cases hskip : skip reader w'.directory with
    | ok reader' =>
        rw [← number_skip hskip] at hleads
        exact .succeeded hgets.untouched hleads
    | error fault => -- so is one that cannot read the old notices
        have hdropped := World.untouched_dropReader hgets.untouched.orderly hleads hapart
        exact .failed fault (hgets.untouched.trans hdropped)

theorem untouched_send {writer : SegmentWriter} (ho : w.directory.Orderly)
    (h : writer.Sits q w.directory) (hapart : Apart q p) (m : Message) :
    w.directory.Untouched p (send writer m w).2.2.directory ∧
      (send writer m w).2.1.Sits q (send writer m w).2.2.directory := by
  unfold send World.writeSegment SegmentWriter.write
  cases Frame.encode Codec.message .message m with
  | error fault => exact ⟨.refl p ho, h⟩
  | ok bytes =>
      dsimp only
      rcases writer.writeAt_cases 0 bytes w.directory with ⟨fault, hwrite⟩ | ⟨version, hwrite⟩
      · rw [hwrite]
        exact ⟨.refl p ho, h⟩
      · rw [hwrite]
        have hwrote := h.wrote ho hapart 0 bytes
        exact ⟨hwrote, h.file, hwrote.leads h.leads⟩

/-- The status is looked at with one reader. -/
theorem number_peek (s : StatusEnd) (d : Directory) :
    (peek s d).2.reader.number = s.reader.number := by
  unfold peek
  split
  · rfl
  · split
    · split
      · rfl
      · next hread =>
          have hnumber := number_read hread
          dsimp only
          split <;> exact hnumber
    · split <;> rfl

/-- Notices are looked for with one reader. -/
theorem number_poll (reader : SegmentReader) (d : Directory) :
    (poll reader d).2.number = reader.number := by
  unfold poll
  split
  · split
    · rfl
    · next hread =>
        have hnumber := number_read hread
        split <;> exact hnumber
  · rfl

end Shared

namespace SegmentBus

open Directory (Own Apart)

variable {w : World} {b : SegmentBus}

/-- Both segments of a bus are among its own. -/
structure Sits (q : String → Bool) (d : Directory) (b : SegmentBus) : Prop where
  writer : b.writer.Sits q d
  inputs : Own q b.inputSegment
  reader : ∀ reader, b.reader = some reader → d.Leads q reader.number

/-- To make a bus, only the segment of its outputs is created; that of the inputs is waited for. -/
theorem obtains_create {channel : String} (ho : w.directory.Orderly)
    (houtputs : Own q (channel ++ "_pins_out")) (hinputs : Own q (channel ++ "_pins_in"))
    (hapart : Apart q p) : w.Obtains p (Sits q) (create channel w) := by
  have hgets := World.obtains_createSegment ho houtputs hapart outputSize
  unfold create
  dsimp only
  generalize w.createSegment (channel ++ "_pins_out") outputSize = made at hgets ⊢
  obtain ⟨fault | writer, w'⟩ := made
  · exact .failed _ hgets.untouched
  · have hsits : Sits q w'.directory { inputSegment := channel ++ "_pins_in", writer } := by
      refine ⟨hgets.sits writer rfl, hinputs, ?_⟩
      intro reader hreader
      cases hreader
    exact .succeeded hgets.untouched hsits

theorem untouched_attach (ho : w.directory.Orderly) (h : b.Sits q w.directory)
    (hapart : Apart q p) :
    w.directory.Untouched p (b.attach w).2.directory ∧
      (b.attach w).1.Sits q (b.attach w).2.directory := by
  have hgets := World.obtains_attachSegment ho h.inputs hapart
  unfold attach
  split
  · exact ⟨.refl p ho, h⟩
  · generalize w.attachSegment b.inputSegment = attached at hgets ⊢
    obtain ⟨fault | reader, w'⟩ := attached
    · exact ⟨hgets.untouched, ⟨h.writer.file, hgets.untouched.leads h.writer.leads⟩, h.inputs,
        fun reader hreader => hgets.untouched.leads (h.reader reader hreader)⟩
    · refine ⟨hgets.untouched, ⟨h.writer.file, hgets.untouched.leads h.writer.leads⟩, h.inputs,
        fun _ hreader => ?_⟩
      cases hreader
      exact hgets.sits reader rfl

/-- On each of the four ways of a sample the bus keeps to the reader that it has after attaching. -/
theorem untouched_sample (ho : w.directory.Orderly) (h : b.Sits q w.directory)
    (hapart : Apart q p) :
    w.directory.Untouched p (b.sample w).2.2.directory ∧
      (b.sample w).2.1.Sits q (b.sample w).2.2.directory := by
  obtain ⟨huntouched, hattached⟩ := untouched_attach ho h hapart
  have hwriter := (Rests.sample b w).writer
  have hsegment := b.inputSegment_sample w
  have hsampled := b.sampled w
  generalize (b.sample w).2.1 = b' at hwriter hsegment hsampled ⊢
  generalize (b.sample w).2.2.directory = d' at hsampled ⊢
  -- a look changes one file at most, and that one belongs to the segment of the bus
  have hlook : (b.attach w).2.directory.Untouched p d' ∧
      ∀ reader, b'.reader = some reader → d'.Leads q reader.number := by
    cases hsampled with
    | missing _ hnone _ =>
        refine ⟨.refl p huntouched.orderly, fun _ hreader => ?_⟩
        rw [hnone] at hreader
        cases hreader
    | taken hreader _ hread _ =>
        have hleads := hattached.reader _ hreader
        refine ⟨.refl p huntouched.orderly, fun _ hreader' => ?_⟩
        rw [hread] at hreader'
        cases hreader'
        exact hleads
    | kept hreader _ hkept hor _ =>
        have hleads := hattached.reader _ hreader
        refine ⟨.refl p huntouched.orderly, fun _ hreader' => ?_⟩
        rw [hkept] at hreader'
        cases hreader'
        rcases hor with rfl | rfl <;> exact hleads
    | exited hreader _ _ hnone _ =>
        refine ⟨.modify huntouched.orderly hapart (hattached.reader _ hreader) _,
          fun _ hreader' => ?_⟩
        rw [hnone] at hreader'
        cases hreader'
  have hall := huntouched.trans hlook.1
  refine ⟨hall, ?_, hsegment ▸ h.inputs, hlook.2⟩
  rw [hwriter]
  exact ⟨h.writer.file, hall.leads h.writer.leads⟩

theorem untouched_publish (ho : w.directory.Orderly) (h : b.Sits q w.directory)
    (hapart : Apart q p) (out : OutputPins) :
    w.directory.Untouched p (b.publish out w).2.2.directory ∧
      (b.publish out w).2.1.Sits q (b.publish out w).2.2.directory := by
  unfold publish World.writeSegment SegmentWriter.write
  split
  · exact ⟨.refl p ho, h⟩
  · cases Frame.encode Codec.pins .pins out.named with
    | error fault => exact ⟨.refl p ho, h⟩
    | ok bytes =>
        dsimp only
        rcases b.writer.writeAt_cases 0 bytes w.directory with ⟨fault, hwrite⟩ | ⟨version, hwrite⟩
        · rw [hwrite]
          exact ⟨.refl p ho, h⟩
        · -- a write goes to the file that the bus holds itself
          rw [hwrite]
          have hwrote := h.writer.wrote ho hapart 0 bytes
          exact ⟨hwrote, ⟨h.writer.file, hwrote.leads h.writer.leads⟩, h.inputs,
            fun reader hreader => hwrote.leads (h.reader reader hreader)⟩

/-- The file of the outputs is removed, and the file of the inputs loses a reader. -/
theorem untouched_drop (ho : w.directory.Orderly) (h : b.Sits q w.directory) (hapart : Apart q p) :
    w.directory.Untouched p (b.drop w).directory := by
  have hwriter := World.untouched_dropWriter ho h.writer hapart
  unfold drop
  dsimp only
  cases hreader : b.reader with
  | none => exact hwriter
  | some reader =>
      have hleads := hwriter.leads (h.reader reader hreader)
      exact hwriter.trans (World.untouched_dropReader hwriter.orderly hleads hapart)

end SegmentBus

end OperatorPanel
