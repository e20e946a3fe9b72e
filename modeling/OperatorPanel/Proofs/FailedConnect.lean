import OperatorPanel.Channel.Shared
import OperatorPanel.Proofs.Owners
import OperatorPanel.Proofs.PanelLook
import OperatorPanel.Proofs.Restart

/-!
# Failed connects

Connecting through shared memory creates a segment and counts readers in others. When it fails, all
of this is taken back: of the files that there were, those of dead owners of the command segment may
be gone, and all others are as they have been (`Shared.failed_connect`).

What a link would leave if it gave up what it holds is `Shared.released`. Nothing but such files is
gone from it after any opening (`Shared.leaves_openMissing`), and so after any number of attempts
(`Shared.leaves_attempt`).
-/

namespace OperatorPanel

/-! ### Taking back

Everything that connecting does to a directory has an inverse: a created file is removed, and a
counted reader is counted out. What makes the inverses meet is that the changes of headers commute,
so that they can be taken back in any order. `Cleared` says of two directories that they differ in
stale files of one segment at most.
-/

theorem modify_prefix {α : Type} {l l' : List α} (h : l <+: l') (n : Nat) (f : α → α) :
    l.modify n f <+: l'.modify n f := by
  obtain ⟨rest, rfl⟩ := h
  induction l generalizing n with
  | nil => cases n <;> exact List.nil_prefix
  | cons a l ih =>
      cases n with
      | zero => exact List.prefix_append _ _
      | succ n => exact (List.prefix_cons_inj a).2 (ih n)

namespace SegmentHeader

/-- A reader who comes and goes leaves nothing. -/
theorem removeReader_addReader (h : SegmentHeader) : h.addReader.removeReader = h := by
  unfold removeReader addReader
  rw [UInt32.add_sub_cancel]

/-- It makes no difference who comes first. -/
theorem removeReader_comm (h : SegmentHeader) :
    h.addReader.removeReader = h.removeReader.addReader := by
  rw [removeReader_addReader, addReader, removeReader, UInt32.sub_add_cancel]

end SegmentHeader

namespace Directory

variable {d d' : Directory} {name file : String} {n m : Nat}

/-- Two changes of one header are one. -/
theorem modifyHeader_twice (d : Directory) (n : Nat) (f g : SegmentHeader → SegmentHeader) :
    (d.modifyHeader n f).modifyHeader n g = d.modifyHeader n (g ∘ f) := by
  unfold modifyHeader modify
  dsimp only
  rw [List.modify_modify_eq]
  rfl

theorem modifyHeader_id (d : Directory) (n : Nat) : d.modifyHeader n id = d := by
  unfold modifyHeader modify
  rw [show (fun f : SegmentFile => { f with header := id f.header }) = id from rfl, List.modify_id]

/-- So a reader that is counted in and out again has changed no header. -/
theorem removeReader_addReader (d : Directory) (n : Nat) :
    (d.modifyHeader n (·.addReader)).modifyHeader n (·.removeReader) = d := by
  have hsame : (fun h : SegmentHeader => h.removeReader) ∘ (fun h : SegmentHeader => h.addReader)
      = id := funext SegmentHeader.removeReader_addReader
  rw [modifyHeader_twice, hsame, modifyHeader_id]

theorem removeReader_comm (d : Directory) (n m : Nat) :
    (d.modifyHeader n (·.addReader)).modifyHeader m (·.removeReader)
      = (d.modifyHeader m (·.removeReader)).modifyHeader n (·.addReader) := by
  by_cases hnm : n = m
  · have hsame : (fun h : SegmentHeader => h.removeReader) ∘ (fun h : SegmentHeader => h.addReader)
        = (fun h : SegmentHeader => h.addReader) ∘ fun h : SegmentHeader => h.removeReader :=
      funext SegmentHeader.removeReader_comm
    rw [hnm, modifyHeader_twice, modifyHeader_twice, hsame]
  · unfold modifyHeader modify
    dsimp only
    rw [List.modify_modify_ne _ _ _ hnm]

namespace Cleared

theorem removed (h : Cleared name d d') (file : String) :
    Cleared name (d.remove file) (d'.remove file) where
  rest := by
    unfold Directory.remove
    rw [h.rest]
  entries := h.entries.filter _
  stale e he hgone := by
    obtain ⟨hmem, hkept⟩ := List.mem_filter.1 he
    exact h.stale e hmem fun hstays => hgone (List.mem_filter.2 ⟨hstays, hkept⟩)
  files := h.files

theorem modified (h : Cleared name d d') (n : Nat) (f : SegmentHeader → SegmentHeader) :
    Cleared name (d.modifyHeader n f) (d'.modifyHeader n f) where
  rest := by
    unfold modifyHeader modify
    rw [h.rest]
  entries := h.entries
  stale := h.stale
  files := modify_prefix h.files n _

end Cleared

/-- A segment that was created and dropped leaves nothing. -/
theorem cleared_created {size : Nat} {w : SegmentWriter}
    (h : (d.create name size).result = .ok w) :
    Cleared name d (w.drop (d.create name size).directory) := by
  -- creating has removed stale files, and added one of its own name
  obtain ⟨rfl, hdirectory, hfree⟩ := create_ok h
  rw [hdirectory]
  have hentries : ((d.entries.filter fun e => owner? name e.1 = none)
        ++ [(fileName name d.self, d.files.length)]).filter (·.1 ≠ fileName name d.self)
      = d.entries.filter fun e => owner? name e.1 = none := by
    rw [List.filter_append,
      filter_fileName d.self fun e he => of_decide_eq_true (List.mem_filter.1 he).2]
    simp
  unfold SegmentWriter.drop remove
  dsimp only
  rw [hentries]
  refine ⟨rfl, List.filter_sublist, fun e he hgone => ?_, List.prefix_append ..⟩
  -- what is gone beyond the own file was taken for a stale one
  cases howner : owner? name e.1 with
  | none => exact absurd (List.mem_filter.2 ⟨he, decide_eq_true howner⟩) hgone
  | some pid => exact (d.owned_or_stale howner).resolve_left (hfree e he)

end Directory

/-! ### Openings

At each stage of connecting a link holds the ends that it has opened so far. To say that nothing was
left behind, one asks at each stage what would remain if the link gave up now.
-/

namespace Shared

variable {channel : String} {l l' : Link (transport channel)} {w w' : World} {d d' : Directory}

/-- The directory without a segment, if one is held. -/
def without (writer : Option SegmentWriter) (d : Directory) : Directory :=
  match writer with
  | some writer => writer.drop d
  | none => d

/-- The directory without a reader, if one is attached. -/
def unread (reader : Option SegmentReader) (d : Directory) : Directory :=
  match reader with
  | some reader => reader.drop d
  | none => d

/-- What is left of a directory when a link gives up all that it holds. -/
def released (l : Link (transport channel)) (d : Directory) : Directory :=
  unread l.notices (unread (l.status.map (·.reader)) (without l.command d))

/-- This is what giving up leaves. -/
theorem directory_release (l : Link (transport channel)) (w : World) :
    (l.release w).2.directory = released l w.directory := by
  obtain ⟨retry, silences, _ | c, _ | s, _ | n, state⟩ := l <;> rfl

/-- A link that holds nothing has nothing to give up. -/
theorem released_of_empty (h : l.Empty) (d : Directory) : released l d = d := by
  unfold released
  rw [h.command, h.status, h.notices]
  rfl

/-- A reader that is counted out changes one header, in both directories alike. -/
theorem cleared_unread {name : String} (reader : Option SegmentReader)
    (h : Directory.Cleared name d d') :
    Directory.Cleared name (unread reader d) (unread reader d') := by
  cases reader with
  | none => exact h
  | some reader => exact h.modified reader.number _

/-- A link that gives something up leaves no more of a directory in which less is left. -/
theorem cleared_released {name : String} (l : Link (transport channel))
    (h : Directory.Cleared name d d') : Directory.Cleared name (released l d) (released l d') := by
  apply cleared_unread
  apply cleared_unread
  cases l.command with
  | none => exact h
  | some writer => exact h.removed writer.file

theorem unread_addReader (reader : Option SegmentReader) (d : Directory) (n : Nat) :
    unread reader (d.modifyHeader n (·.addReader))
      = (unread reader d).modifyHeader n (·.addReader) := by
  cases reader with
  | none => rfl
  | some reader => exact d.removeReader_comm n reader.number

/-- To drop a segment is to remove a file, which no header minds. -/
theorem without_addReader (writer : Option SegmentWriter) (d : Directory) (n : Nat) :
    without writer (d.modifyHeader n (·.addReader))
      = (without writer d).modifyHeader n (·.addReader) := by
  cases writer <;> rfl

/-- A reader of the status is counted out again. -/
theorem released_status (l : Link (transport channel)) (hclosed : l.status = none)
    (s : StatusEnd) (d : Directory) :
    released { l with status := some s } (d.modifyHeader s.reader.number (·.addReader))
      = released l d := by
  unfold released
  rw [hclosed, without_addReader]
  exact congrArg (unread l.notices) (Directory.removeReader_addReader _ s.reader.number)

/-- So is a reader of notices. -/
theorem released_notices (l : Link (transport channel)) (hclosed : l.notices = none)
    (reader : SegmentReader) (d : Directory) :
    released { l with notices := some reader } (d.modifyHeader reader.number (·.addReader))
      = released l d := by
  unfold released
  rw [hclosed, without_addReader, unread_addReader]
  exact Directory.removeReader_addReader _ reader.number

/-- **Opening the command channel** clears the name of its segment, if nothing else. -/
theorem cleared_openCommand (channel : String) (w : World) :
    match openCommand channel w with
    | (.ok writer, w') =>
      Directory.Cleared (commandSegment channel) w.directory (writer.drop w'.directory)
    | (.error _, w') => Directory.Cleared (commandSegment channel) w.directory w'.directory := by
  unfold openCommand World.createSegment
  dsimp only
  generalize hmade : w.directory.create (commandSegment channel) commandSize = made
  -- the journal tells of every stale file, and the directory does not change by that
  have hdirectory := (World.noteRemoved_eq { w with directory := made.directory }
    (commandSegment channel) made.removed).1
  cases hresult : made.result with
  | error fault =>
      dsimp only
      rw [hdirectory, ← hmade]
      rw [← hmade] at hresult
      exact (Directory.create_error hresult).1
  | ok writer =>
      dsimp only
      rw [hdirectory, ← hmade]
      rw [← hmade] at hresult
      exact Directory.cleared_created hresult

/-- Reading goes on with the same file. -/
theorem number_read {reader reader' : SegmentReader} {block : Block}
    (h : reader.read d = .ok (block, reader')) : reader'.number = reader.number :=
  congrArg (·.number) (SegmentReader.read_eq_ok h)

/-- A status is looked at with the reader that has found it. -/
theorem number_statusEnd {reader : SegmentReader} {s : StatusEnd}
    (h : statusEnd reader d = .ok s) : s.reader.number = reader.number := by
  unfold statusEnd at h
  split at h
  · cases h
  · next hread =>
      split at h <;> cases h
      exact number_read hread

/-- Old notices are passed over with the reader that has attached. -/
theorem number_skip {reader reader' : SegmentReader} (h : skip reader d = .ok reader') :
    reader'.number = reader.number := by
  unfold skip at h
  split at h
  · split at h
    · next hread =>
        cases h
        exact number_read hread
    · cases h
  · cases h
    rfl

/-- **Opening the status channel** counts a reader, or nobody when there is no status. -/
theorem directory_openStatus (channel : String) (w : World) :
    match openStatus channel w with
    | (.ok s, w') => w'.directory = w.directory.modifyHeader s.reader.number (·.addReader)
    | (.error _, w') => w'.directory = w.directory := by
  have hattached := w.directory_attachSegment (statusSegment channel)
  unfold openStatus
  generalize w.attachSegment (statusSegment channel) = attached at hattached ⊢
  obtain ⟨_ | reader, w'⟩ := attached
  · exact hattached
  · dsimp only at hattached ⊢
    cases hend : statusEnd reader w'.directory with
    | ok s =>
        dsimp only
        rw [number_statusEnd hend]
        exact hattached
    -- the reader that was counted in is dropped at once when the status cannot be read
    | error fault =>
        show w'.directory.modifyHeader reader.number (·.removeReader) = w.directory
        rw [hattached, Directory.removeReader_addReader]

/-- **Opening the notice channel** counts a reader, or nobody when it fails. -/
theorem directory_openNotices (channel : String) (w : World) :
    match openNotices channel w with
    | (.ok reader, w') => w'.directory = w.directory.modifyHeader reader.number (·.addReader)
    | (.error _, w') => w'.directory = w.directory := by
  have hattached := w.directory_attachSegment (noticeSegment channel)
  unfold openNotices
  generalize w.attachSegment (noticeSegment channel) = attached at hattached ⊢
  obtain ⟨_ | reader, w'⟩ := attached
  · exact hattached
  · dsimp only at hattached ⊢
    cases hskip : skip reader w'.directory with
    | ok reader' =>
        dsimp only
        rw [number_skip hskip]
        exact hattached
    | error fault => -- the reader that was counted is dropped again before the failure is reported
        show w'.directory.modifyHeader reader.number (·.removeReader) = w.directory
        rw [hattached, Directory.removeReader_addReader]

/-! ### Connecting

A connect opens the command channel, the status channel and the notice channel, in this order, and
stops at the first that fails. Whatever it has opened by then is still held, so the relation below
passes from step to step.
-/

/-- After these steps a link would leave a directory in which less stands at most. -/
def Leaves (l : Link (transport channel)) (w : World) (l' : Link (transport channel))
    (w' : World) : Prop :=
  Directory.Cleared (commandSegment channel) (released l w.directory) (released l' w'.directory)

theorem Leaves.refl (l : Link (transport channel)) (w : World) : Leaves l w l w :=
  Directory.Cleared.refl _ _

/-- In particular when it would leave the same directory. -/
theorem Leaves.of_eq (h : released l' w'.directory = released l w.directory) :
    Leaves l w l' w' := by
  unfold Leaves
  rw [h]
  exact Directory.Cleared.refl _ _

theorem Leaves.trans {l₁ : Link (transport channel)} {w₁ : World} (h : Leaves l w l₁ w₁)
    (h' : Leaves l₁ w₁ l' w') : Leaves l w l' w' :=
  Directory.Cleared.trans h h'

/-- Opening the command channel may remove stale files. -/
theorem leaves_openCommand (l : Link (transport channel)) (w : World) :
    match l.openCommand w with
    | (.ok l', w') => Leaves l w l' w'
    | (.error _, w') => Leaves l w l w' := by
  have hopened := cleared_openCommand channel w
  obtain ⟨retry, silences, _ | writer, status, notices, state⟩ := l
  · unfold Link.openCommand
    dsimp only
    generalize openCommand channel w = opened at hopened ⊢
    obtain ⟨_ | writer, w'⟩ := opened
    · exact cleared_released _ hopened
    · exact cleared_released ⟨retry, silences, none, status, notices, state⟩ hopened
  · exact .refl _ _

/-- Opening the status channel counts a reader, whom the link would count out again. -/
theorem leaves_openStatus (l : Link (transport channel)) (w : World) :
    match l.openStatus w with
    | (.ok l', w') => Leaves l w l' w'
    | (.error _, w') => Leaves l w l w' := by
  have hopened := directory_openStatus channel w
  unfold Link.openStatus
  cases hstatus : l.status with
  | some s => exact .refl l w
  | none => -- the file gains one reader, who is among those that the link would count out
      dsimp only
      generalize openStatus channel w = opened at hopened ⊢
      obtain ⟨_ | s, w'⟩ := opened
      · exact .of_eq (congrArg (released l) hopened)
      · refine .of_eq ?_
        rw [hopened, released_status l hstatus]

/-- So does opening the notice channel. -/
theorem leaves_openNotices (l : Link (transport channel)) (w : World) :
    match l.openNotices w with
    | (.ok l', w') => Leaves l w l' w'
    | (.error _, w') => Leaves l w l w' := by
  have hopened := directory_openNotices channel w
  unfold Link.openNotices
  cases hnotices : l.notices with
  | some reader => exact .refl l w
  | none =>
      dsimp only
      generalize openNotices channel w = opened at hopened ⊢
      obtain ⟨_ | reader, w'⟩ := opened
      · exact .of_eq (congrArg (released l) hopened)
      · refine .of_eq ?_
        rw [hopened, released_notices l hnotices]

/-- **Opening what is missing**, as far as it goes. -/
theorem leaves_openMissing (l : Link (transport channel)) (w : World) :
    Leaves l w (l.openMissing w).2.1 (l.openMissing w).2.2 := by
  have hcommand := leaves_openCommand l w
  unfold Link.openMissing
  generalize l.openCommand w = opened at hcommand ⊢
  obtain ⟨_ | l₁, w₁⟩ := opened  -- each step is taken only when the one before has succeeded
  · exact hcommand
  · have hstatus := leaves_openStatus l₁ w₁
    dsimp only at hcommand ⊢
    generalize l₁.openStatus w₁ = opened at hstatus ⊢
    obtain ⟨_ | l₂, w₂⟩ := opened
    · exact hcommand.trans hstatus
    · have hnotices := leaves_openNotices l₂ w₂
      dsimp only at hstatus ⊢
      generalize l₂.openNotices w₂ = opened at hnotices ⊢
      obtain ⟨_ | l₃, w₃⟩ := opened
      · exact hcommand.trans (hstatus.trans hnotices)
      · exact hcommand.trans (hstatus.trans hnotices)

/-- **Any number of attempts**: every one that fails is followed by a pause, in which no file is
touched. -/
theorem leaves_attempt (l : Link (transport channel)) (retry : RetryPolicy) (w : World)
    (attempts : UInt32) (waited : Span) :
    Leaves l w (l.attempt retry w attempts waited).2.2.1
      (l.attempt retry w attempts waited).2.2.2 := by
  -- by induction on the attempts that the budget still allows
  fun_induction Link.attempt l retry w attempts waited with
  | case1 l w attempts waited l₁ w₁ hopen =>
      have hopened := leaves_openMissing l w
      rw [hopen] at hopened
      exact hopened
  | case2 l w attempts waited e l₁ w₁ hopen hallows _ ih =>
      have hopened := leaves_openMissing l w
      rw [hopen] at hopened
      exact hopened.trans ih
  | case3 l w attempts waited e l₁ w₁ hopen hspent =>
      have hopened := leaves_openMissing l w
      rw [hopen] at hopened
      exact hopened

/-- **A connect that fails gives everything up.** -/
theorem cleared_connect {e : PanelError} (h : l.connect w = (.error e, l', w')) :
    l'.state = .disconnected ∧ l'.Empty ∧
      Directory.Cleared (commandSegment channel) (released l w.directory) w'.directory := by
  unfold Link.connect at h
  split at h
  · cases h
  · dsimp only at h
    generalize hstarted : (if l.silences then w.silence else w) = started at h
    have hdirectory : started.directory = w.directory := by
      rw [← hstarted]
      split <;> rfl
    have htried := leaves_attempt { l with state := .connecting } l.retry started 0 .zero
    generalize Link.attempt { l with state := .connecting } l.retry started 0 .zero = tried
      at htried h
    -- only a connect that has failed gives up what it holds
    obtain ⟨_ | e, attempts, l₁, w₁⟩ := tried
    · cases h
    · generalize hheard : (if l₁.silences then w₁.restore else w₁) = heard at h
      have hafter : heard.directory = w₁.directory := by
        rw [← hheard]
        split <;> rfl
      have hleft := directory_release l₁ heard
      cases h
      refine ⟨rfl, ⟨rfl, rfl, rfl⟩, ?_⟩
      show Directory.Cleared _ _ (l₁.release heard).2.directory
      rw [hleft, hafter, ← hdirectory]
      exact htried

/-- **A failed connect leaves no trace.** Take a link that holds no channel, in shared memory with
files of any contents, and any budget for attempts. When connecting fails, the link is disconnected
and holds no channel. Whatever stands in the directory has stood there before, and has the bytes
that it had, count of readers included; and what stands there no longer is a file of the command
segment that a dead owner had left behind. That it is such a file is said by the rule for names, or
there is a plus sign before the number. -/
theorem failed_connect {e : PanelError} (hempty : l.Empty) (hsound : w.directory.Sound)
    (h : l.connect w = (.error e, l', w')) :
    l'.state = .disconnected ∧ l'.Empty ∧
      (∀ entry ∈ w'.directory.entries, entry ∈ w.directory.entries ∧
        w'.directory.file entry.2 = w.directory.file entry.2) ∧
      ∀ entry ∈ w.directory.entries, entry ∉ w'.directory.entries →
        ∃ pid, pid ≠ w.directory.self ∧ w.directory.alive pid = false ∧
          Directory.owner? (commandSegment channel) entry.1 = some pid ∧
          (Directory.ruled? (commandSegment channel) entry.1 = some pid ∨
            Directory.Signed (commandSegment channel) entry.1) := by
  obtain ⟨hstate, hclosed, hcleared⟩ := cleared_connect h
  rw [released_of_empty hempty] at hcleared
  refine ⟨hstate, hclosed, ?_, ?_⟩
  · intro entry hentry
    have hstood := hcleared.entries.subset hentry
    exact ⟨hstood, Directory.file_of_prefix hcleared.files (hsound.inside entry hstood)⟩
  · intro entry hentry hgone
    obtain ⟨pid, howner, hself, hdead⟩ := hcleared.stale entry hentry hgone
    refine ⟨pid, hself, hdead, howner, ?_⟩
    by_cases hsigned : Directory.Signed (commandSegment channel) entry.1
    · exact .inr hsigned
    · exact .inl ((Directory.owner?_of_not_signed hsigned).symm.trans howner)

/-- A link that tries once. -/
def once : Link (transport "x") where
  retry := { total := ⟨0⟩, interval := ⟨0⟩ }
  silences := false

/-- The world around some command segments, of which no process runs but the one that acts. -/
def among (entries : List (String × Nat)) : World where
  simulator := { status := .atRest 3 }
  directory :=
    { root := "", self := 7, alive := fun _ => false, entries
      files := List.replicate entries.length { length := 4224 } }

/-- Who holds the command segment already fails to connect, and keeps it. -/
theorem failed_connect_held :
    ∃ e l' w', once.connect (among [("hmi_x_cmd_5", 0), ("hmi_x_cmd_7", 1)]) = (.error e, l', w') ∧
      l'.state = .disconnected ∧ w'.directory.entries = [("hmi_x_cmd_7", 1)] := by
  generalize hw : among [("hmi_x_cmd_5", 0), ("hmi_x_cmd_7", 1)] = w
  -- the directory is computed once, and the rest is the theorem
  have hfails : (once.connect w).1.isOk = false ∧
      (once.connect w).2.2.directory.entries = [("hmi_x_cmd_7", 1)] := by
    rw [← hw]
    decide +kernel
  have hsound : w.directory.Sound := by
    rw [← hw]
    exact ⟨by decide, by decide⟩
  generalize hconnect : once.connect w = connected at hfails
  obtain ⟨e | _, l', w'⟩ := connected
  · obtain ⟨hstate, _⟩ := failed_connect ⟨rfl, rfl, rfl⟩ hsound hconnect
    exact ⟨e, l', w', rfl, hstate, hfails.2⟩
  · cases hfails.1

/-- Without a controller a link that has created the command segment has to drop it. -/
theorem connect_missing {writer : SegmentWriter} {w₁ : World}
    (hcommand : openCommand "x" w = (.ok writer, w₁))
    (hmissing : w₁.directory.find (statusSegment "x") = .ok []) :
    ∃ e l' w', once.connect w = (.error e, l', w') ∧ w'.directory = writer.drop w₁.directory := by
  have hselect : w₁.directory.select (statusSegment "x")
      = .error (.notFound (statusSegment "x")) := by
    unfold Directory.select
    rw [hmissing]
    rfl
  have hattach : w₁.attachSegment (statusSegment "x")
      = (.error (.notFound (statusSegment "x")), w₁) := by
    unfold World.attachSegment Directory.attach
    rw [hselect]
  have hstatus : openStatus "x" w₁
      = (.error (.unavailable .status (SegmentFault.notFound (statusSegment "x")).text), w₁) := by
    unfold openStatus
    rw [hattach]
  have htried : Link.openMissing { once with state := .connecting } w
      = (some (.ofFault (.unavailable .status (SegmentFault.notFound (statusSegment "x")).text)),
        { once with state := .connecting, command := some writer }, w₁) := by
    unfold Link.openMissing Link.openCommand Link.openStatus
    dsimp only [once]
    rw [hcommand]
    dsimp only
    rw [hstatus]
  -- there is no budget for another attempt
  have honce : ¬once.retry.allowsRetry .zero = true := by decide
  have hattempt : Link.attempt { once with state := .connecting } once.retry w 0 .zero
      = (some (.ofFault (.unavailable .status (SegmentFault.notFound (statusSegment "x")).text)),
        1, { once with state := .connecting, command := some writer }, w₁) := by
    rw [Link.attempt, htried]
    exact dif_neg honce
  unfold Link.connect
  rw [if_neg (by decide)]
  dsimp only
  rw [if_neg (by decide), hattempt]
  exact ⟨_, _, _, rfl, rfl⟩

/-- **A file that is no segment's by the rule** is gone after a connect that failed because there is
no controller. -/
theorem failed_connect_signed :
    Directory.ruled? (commandSegment "x") "hmi_x_cmd_+4194305" = none ∧
      ∃ e l' w', once.connect (among [("hmi_x_cmd_+4194305", 0)]) = (.error e, l', w') ∧
        w'.directory.entries = [] := by
  refine ⟨by decide +kernel, ?_⟩
  -- the world is named, so that no step below computes with all of it
  generalize hw : among [("hmi_x_cmd_+4194305", 0)] = w
  have hname : Directory.fileName (commandSegment "x") w.directory.self = "hmi_x_cmd_7" := by
    rw [← hw]
    decide +kernel
  -- the file in the way has a dead owner and a name that is taken for one of the segment
  have htakes : w.directory.takes (commandSegment "x") = true := by
    refine Directory.takes_of_name hname ?_ ?_ (by decide +kernel) (by simp) (by decide +kernel) <;>
      (rw [← hw]; rfl)
  have hcreates : ∃ writer, (w.directory.create (commandSegment "x") commandSize).result
      = .ok writer := by
    refine (Directory.create_iff htakes).2 ⟨by decide, ?_⟩
    rw [← hw]
    decide +kernel
  obtain ⟨writer, hwriter⟩ := hcreates
  obtain ⟨hheld, hdirectory, _⟩ := Directory.create_ok hwriter
  have hcommand : openCommand "x" w = (.ok writer, (w.createSegment (commandSegment "x")
      commandSize).2) := by
    unfold openCommand World.createSegment
    dsimp only
    rw [hwriter]
  have hnoted : (w.createSegment (commandSegment "x") commandSize).2.directory
      = (w.directory.create (commandSegment "x") commandSize).directory :=
    (World.noteRemoved_eq ..).1
  -- and there is no file for the status, so that the connection fails after the removal
  obtain ⟨e, l', w', hconnect, hleft⟩ := connect_missing hcommand (by
    rw [hnoted, hdirectory, ← hw]
    exact Directory.find_eq_ok.2 ⟨rfl, by decide +kernel⟩)
  refine ⟨e, l', w', hconnect, ?_⟩
  rw [hleft, hnoted, hdirectory, hheld, ← hw]
  decide +kernel

end Shared
end OperatorPanel
