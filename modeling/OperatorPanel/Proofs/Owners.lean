import Mathlib.Data.List.Nodup
import OperatorPanel.Proofs.SegmentStore

/-!
# Owners

Who owns the name of a segment stands in the names of the files. Claiming a name takes away the
files of dead owners and no other file (`Directory.cleared_claim`), and stops at the first owner
that lives; so creating a segment goes through just when nobody owns it (`Directory.create_iff`).

When any number of processes create segments and drop them, every segment has one owner at most,
and each has its file until it drops it (`Owners.single_owner`).

An owner is read from the name of a file also where a plus sign stands before its number, against
the rule that there are digits only (`Directory.ruled?`). Such a file is taken for one of the
segment's (`Owners.takes_signed`).
-/

namespace OperatorPanel

/-! ### Names and owners

The file of a segment is called after the segment and its owner, with an underscore between the two.
Names of segments have underscores of their own, so it is the last one that counts; a number has
none.
-/

namespace Text

/-- What ends at the last underscore is told from what follows it. -/
theorem last_underscore {xs ys ds es : List Char} (h : xs ++ '_' :: ds = ys ++ '_' :: es)
    (hds : '_' ∉ ds) (hes : '_' ∉ es) : xs = ys ∧ ds = es := by
  -- where the two splittings differ, one of the two ends would contain an underscore
  obtain ⟨zs, rfl, hzs⟩ | ⟨zs, rfl, hzs⟩ := List.append_eq_append_iff.1 h <;>
    rcases zs with _ | ⟨z, zs⟩
  · exact ⟨(List.append_nil _).symm, (List.cons.inj hzs).2⟩
  · rw [List.cons_append, List.cons.injEq] at hzs
    exact absurd (hzs.2 ▸ List.mem_append_right _ (List.mem_cons_self ..)) hds
  · exact ⟨List.append_nil _, (List.cons.inj hzs).2.symm⟩
  · rw [List.cons_append, List.cons.injEq] at hzs
    exact absurd (hzs.2 ▸ List.mem_append_right _ (List.mem_cons_self ..)) hes

end Text

namespace Directory

variable {d d₁ d' : Directory} {name name' file : String} {pid pid' : UInt32}

/-- The owner by the rule for names: nothing but digits follows. -/
def ruled? (name file : String) : Option UInt32 :=
  (Text.after? (stem name).toList file.toList).bind fun digits =>
  (Text.digits? digits).bind fun pid =>
  if pid < valuesOf 32 then some (UInt32.ofNat pid) else none

/-- There is a plus sign before the number of the owner. -/
def Signed (name file : String) : Prop :=
  ∃ digits, file.toList = (stem name).toList ++ '+' :: digits

/-- By the rule a sign is no part of a number. -/
theorem ruled?_of_signed (h : Signed name file) : ruled? name file = none := by
  obtain ⟨digits, hfile⟩ := h
  have hdigits : Text.digits? ('+' :: digits) = none := by
    refine Option.eq_none_iff_forall_ne_some.2 fun n hn => ?_
    exact absurd (List.mem_cons_self ..) ((Text.digits?_eq_some_iff.1 hn).not_mem rfl)
  rw [ruled?, Text.after?_eq_some_iff.2 hfile, Option.bind_some, hdigits]
  rfl

/-- The name of a file that was made for an owner keeps the rule. -/
theorem ruled?_fileName (name : String) (pid : UInt32) :
    ruled? name (fileName name pid) = some pid := by
  have hdigits : Text.digits? (Text.decimal pid.toNat).toList = some pid.toNat := by
    rw [Text.decimal, String.toList_ofList]
    exact Text.digits?_eq_some_iff.2 (Text.digits_toDigits _)
  exact read_eq_some_iff.2 ⟨Text.decimal pid.toNat, rfl, hdigits⟩

/-- Where there is no sign, owners are read by the rule. -/
theorem owner?_of_not_signed (h : ¬Signed name file) : owner? name file = ruled? name file := by
  unfold owner? ruled?
  cases hafter : Text.after? (stem name).toList file.toList with
  | none => rfl
  | some digits =>
      have hunsigned : Text.unsigned? digits = Text.digits? digits := by
        unfold Text.unsigned?
        split
        · next rest => exact absurd ⟨rest, Text.after?_eq_some_iff.1 hafter⟩ h
        · rfl
      rw [Option.bind_some, Option.bind_some, hunsigned]

/-- **Owners are read by the rule**, but where there is a plus sign before a number that fits. -/
theorem owner?_eq_ruled?_iff :
    owner? name file = ruled? name file ↔ ¬(Signed name file ∧ (owner? name file).isSome) := by
  by_cases hsigned : Signed name file
  · rw [ruled?_of_signed hsigned]
    simp [hsigned]
  · simp [hsigned, owner?_of_not_signed hsigned]

/-- Whatever counts as the number of an owner, with a sign or without, is free of underscores. -/
theorem eq_append_of_owner? (h : owner? name file = some pid) :
    ∃ digits, file.toList = (stem name).toList ++ digits ∧ '_' ∉ digits := by
  obtain ⟨digits, rfl, hread⟩ := read_eq_some_iff.1 h
  have hnumeral := Text.unsigned?_eq_some_iff.1 hread
  exact ⟨digits.toList, String.toList_append, hnumeral.not_mem (by decide) (by decide)⟩

/-- **No file belongs to two segments.** -/
theorem name_eq_of_owner? (h : owner? name file = some pid)
    (h' : owner? name' file = some pid') : name' = name := by
  obtain ⟨digits, hfile, hdigits⟩ := eq_append_of_owner? h
  obtain ⟨digits', hfile', hdigits'⟩ := eq_append_of_owner? h'
  rw [hfile] at hfile'
  have hstem (name : String) (digits : List Char) : (stem name).toList ++ digits
      = ("hmi_".toList ++ name.toList) ++ '_' :: digits := by
    simp [stem, String.toList_append]
  rw [hstem, hstem] at hfile'
  obtain ⟨hnames, _⟩ := Text.last_underscore hfile' hdigits hdigits'
  exact String.ext (List.append_cancel_left hnames).symm

/-! ### Claiming

Claiming goes over the files of a segment in the order in which the directory lists them. It removes
the stale ones as it comes to them, and stops at the first that is owned; so a claim that fails may
have removed some.
-/

/-- A file of the segment that a live process owns, or the one that acts. -/
def Owned (d : Directory) (name file : String) : Prop :=
  ∃ pid, owner? name file = some pid ∧ (pid = d.self ∨ d.alive pid = true)

instance (d : Directory) (name file : String) : Decidable (d.Owned name file) :=
  decidable_of_iff (∃ pid ∈ owner? name file, pid = d.self ∨ d.alive pid = true) (by rfl)

/-- A file of the segment that a dead process has left behind. -/
def Stale (d : Directory) (name file : String) : Prop :=
  ∃ pid, owner? name file = some pid ∧ pid ≠ d.self ∧ d.alive pid = false

/-- What becomes of a directory in which files of dead owners are removed, and nothing is done to
the files that there were. -/
structure Cleared (name : String) (d d' : Directory) : Prop where
  rest : d' = { d with entries := d'.entries, files := d'.files }
  entries : d'.entries.Sublist d.entries
  stale : ∀ e ∈ d.entries, e ∉ d'.entries → d.Stale name e.1
  files : d.files <+: d'.files

namespace Cleared

theorem refl (name : String) (d : Directory) : Cleared name d d :=
  ⟨rfl, .refl _, fun _ h h' => absurd h h', List.prefix_rfl⟩

theorem trans (h : Cleared name d d₁) (h' : Cleared name d₁ d') : Cleared name d d' where
  rest := by rw [h'.rest, h.rest]
  entries := h'.entries.trans h.entries
  stale e he hgone := by
    by_cases hkept : e ∈ d₁.entries
    · have hstale := h'.stale e hkept hgone
      rw [h.rest] at hstale
      exact hstale
    · exact h.stale e he hkept
  files := h.files.trans h'.files

/-- One file is removed. -/
theorem remove (h : d.Stale name file) : Cleared name d (d.remove file) where
  rest := rfl
  entries := List.filter_sublist
  stale e he hgone := by
    by_cases hfile : e.1 = file
    · rw [hfile]
      exact h
    · exact absurd (List.mem_filter.2 ⟨he, decide_eq_true hfile⟩) hgone
  files := List.prefix_rfl

end Cleared

/-- A file of the segment is owned, or it is stale. -/
theorem owned_or_stale (d : Directory) (h : owner? name file = some pid) :
    d.Owned name file ∨ d.Stale name file := by
  by_cases hlives : pid = d.self ∨ d.alive pid = true
  · exact .inl ⟨pid, h, hlives⟩
  · rw [not_or, Bool.not_eq_true] at hlives
    exact .inr ⟨pid, h, hlives⟩

theorem Stale.not_owned (h : d.Stale name file) : ¬d.Owned name file := by
  obtain ⟨pid, howner, hself, hdead⟩ := h
  rintro ⟨pid', howner', hlives⟩
  cases howner.symm.trans howner'
  rcases hlives with rfl | halive
  · exact hself rfl
  · rw [hdead] at halive
    cases halive

/-- Claiming removes stale files of the segment at most, and comes to its end when all are
stale. -/
theorem cleared_claimFrom {ms : List Match}
    (hms : ∀ m ∈ ms, owner? name m.file = some m.pid) :
    Cleared name d (d.claimFrom name ms).directory ∧
      (d.claimFrom name ms).directory.files = d.files ∧
      ((d.claimFrom name ms).fault = none ↔ ∀ m ∈ ms, ¬d.Owned name m.file) := by
  -- the induction is on the files of the segment that are still to be looked at
  induction ms generalizing d with
  | nil => exact ⟨.refl name d, rfl, by simp [claimFrom]⟩
  | cons m ms ih =>
      obtain ⟨hm, hrest⟩ := List.forall_mem_cons.1 hms
      unfold claimFrom
      split
      · next hlives =>
          have howned : d.Owned name m.file := ⟨m.pid, hm, by simpa using hlives⟩
          refine ⟨.refl name d, rfl, ?_⟩
          simp [howned]
      · next hdead =>
          have hstale : d.Stale name m.file := ⟨m.pid, hm, by simpa using hdead⟩
          obtain ⟨hcleared, hfiles, hfault⟩ := @ih (d.remove m.file) hrest
          refine ⟨(Cleared.remove hstale).trans hcleared, hfiles, ?_⟩
          rw [List.forall_mem_cons]
          exact hfault.trans ⟨fun h => ⟨hstale.not_owned, h⟩, fun h => h.2⟩

/-- **Claiming a name removes stale files of the segment at most**; in a directory that can be read
it goes through just when no file of the segment is owned. -/
theorem cleared_claim (d : Directory) (name : String) :
    Cleared name d (d.claim name).directory ∧ (d.claim name).directory.files = d.files ∧
      (d.fault = none →
        ((d.claim name).fault = none ↔ ∀ e ∈ d.entries, ¬d.Owned name e.1)) := by
  unfold claim
  cases hfind : d.find name with
  | error fault =>
      refine ⟨.refl name d, rfl, fun hreads => ?_⟩
      rw [find, hreads] at hfind
      cases hfind
  | ok ms =>
      obtain ⟨hcleared, hfiles, hfault⟩ :=
        cleared_claimFrom (d := d) fun m hm => ((mem_find_iff hfind).1 hm).2
      refine ⟨hcleared, hfiles, fun _ => hfault.trans ⟨fun h e he howned => ?_, fun h m hm => ?_⟩⟩
      · obtain ⟨pid, howner, _⟩ := id howned
        exact h { file := e.1, pid, number := e.2 } ((mem_find_iff hfind).2 ⟨he, howner⟩) howned
      · exact h _ ((mem_find_iff hfind).1 hm).1

/-! ### Creating

A segment is created under a name that was claimed. By then all of its files are gone, so the new
one is the only one, and it stands under a name that was free.
-/

variable {size : Nat}

/-- **Who can create a segment**: whoever asks for a size that segments may have, when nobody owns
the name. -/
theorem create_iff (htakes : d.takes name = true) :
    (∃ w, (d.create name size).result = .ok w) ↔
      Segment.sizeFault? size = none ∧ ∀ e ∈ d.entries, ¬d.Owned name e.1 := by
  -- that the directory takes the file says that nothing is wrong with its path
  obtain ⟨_, _, hreads, _⟩ := locate_fileName_eq_ok.1 (takes_iff.1 htakes)
  obtain ⟨hcleared, _, hclaim⟩ := d.cleared_claim name
  have hlocate : (d.claim name).directory.locate (fileName name d.self)
      = .ok (fileName name d.self) := by
    have htaken : (d.claim name).directory.takes name = true := by
      rw [hcleared.rest, ← htakes]
      exact takes_congr rfl rfl rfl
    have hself : (d.claim name).directory.self = d.self := by rw [hcleared.rest]
    rw [← hself]
    exact takes_iff.1 htaken
  unfold create
  -- what is left is the size, and whether the claim meets a living owner
  cases hsize : Segment.sizeFault? size with
  | some fault => simp
  | none =>
      dsimp only
      rw [← hclaim hreads]
      cases hfault : (d.claim name).fault with
      | some fault => simp
      | none =>
          have hself : (d.claim name).directory.self = d.self := by rw [hcleared.rest]
          dsimp only
          rw [hself, hlocate]
          simp

/-- Where the segment has no file, nothing stands under a name for one. -/
theorem filter_fileName {entries : List (String × Nat)} (pid : UInt32)
    (hnone : ∀ e ∈ entries, owner? name e.1 = none) :
    entries.filter (·.1 ≠ fileName name pid) = entries := by
  refine List.filter_eq_self.2 fun e he => decide_eq_true fun hfile => ?_
  have howner := hnone e he
  rw [hfile, owner?_fileName] at howner
  cases howner

/-- **What creating a segment does**: the files of the segment are gone, which are all stale, and
there is a new one. -/
theorem create_ok {w : SegmentWriter} (h : (d.create name size).result = .ok w) :
    w = { name, file := fileName name d.self, number := d.files.length, size } ∧
      (d.create name size).directory =
        { d with
          entries := d.entries.filter (fun e => owner? name e.1 = none)
            ++ [(fileName name d.self, d.files.length)]
          files := d.files ++ [d.newFile size] } ∧
      ∀ e ∈ d.entries, ¬d.Owned name e.1 := by
  unfold create at h ⊢
  split at h
  · cases h
  · dsimp only at h ⊢
    split at h
    · cases h
    · next hclaim =>
        obtain ⟨hreads, hdirectory⟩ := claim_eq hclaim
        have hfree := ((d.cleared_claim name).2.2 hreads).1 hclaim
        -- the claim went through, so what is left of the directory is what belongs to other
        -- segments
        rw [hdirectory] at h ⊢
        split at h
        · cases h
        · next file hlocate =>
            cases h
            obtain ⟨rfl, _⟩ := locate_fileName_eq_ok.1 hlocate
            refine ⟨rfl, ?_, hfree⟩
            dsimp only [add]
            rw [filter_fileName d.self fun e he => of_decide_eq_true (List.mem_filter.1 he).2]
            rfl

/-- When a segment cannot be created, stale files of its are removed at most. -/
theorem create_error {fault : SegmentFault} (h : (d.create name size).result = .error fault) :
    Cleared name d (d.create name size).directory ∧
      (d.create name size).directory.files = d.files := by
  obtain ⟨hcleared, hfiles, _⟩ := d.cleared_claim name
  unfold create at h ⊢
  split at h
  · exact ⟨.refl name d, rfl⟩
  · dsimp only at h ⊢
    split at h
    · exact ⟨hcleared, hfiles⟩
    · split at h
      · exact ⟨hcleared, hfiles⟩
      · cases h

/-! ### Processes at work

Each process acts in the directory under its own number, and a process that exits leaves its files
where they are. What is kept through all of it is `Owners.Ordered`: the file of whoever holds a
segment is in its place, and nobody holds a segment twice.
-/

/-- A directory as it is: every name stands in it once, and leads to a file. -/
structure Sound (d : Directory) : Prop where
  names : (d.entries.map (·.1)).Nodup
  inside : ∀ e ∈ d.entries, e.2 < d.files.length

theorem Cleared.sound (h : Cleared name d d') (hsound : d.Sound) : d'.Sound where
  names := (h.entries.map _).nodup hsound.names
  inside e he := Nat.lt_of_lt_of_le (hsound.inside e (h.entries.subset he)) h.files.length_le

/-- Files that are still there have not changed. -/
theorem file_of_prefix (h : d.files <+: d'.files) {n : Nat} (hn : n < d.files.length) :
    d'.file n = d.file n := by
  obtain ⟨files, hfiles⟩ := h
  unfold file
  rw [← hfiles, List.getD_eq_getElem?_getD, List.getD_eq_getElem?_getD,
    List.getElem?_append_left hn]

/-- In a sound directory removing a name removes one entry. -/
theorem Sound.remove (h : d.Sound) {number : Nat} (he : (file, number) ∈ d.entries) :
    (d.remove file).entries = d.entries.erase (file, number) := by
  rw [List.Nodup.erase_eq_filter (List.Nodup.of_map _ h.names)]
  refine List.filter_congr fun e hmem => ?_
  rw [Bool.eq_iff_iff, decide_eq_true_iff, bne_iff_ne, not_iff_not]
  exact ⟨fun hfile => List.inj_on_of_nodup_map h.names hmem he hfile, fun heq => heq ▸ rfl⟩

theorem Sound.removed (h : d.Sound) (file : String) : (d.remove file).Sound where
  names := (List.filter_sublist.map _).nodup h.names
  inside e he := h.inside e (List.mem_filter.1 he).1

/-- A new file for a segment, in the place of those that the segment had. -/
theorem Sound.created (h : d.Sound) (name : String) (pid : UInt32) (new : SegmentFile) :
    Sound { d with
      entries := d.entries.filter (fun e => owner? name e.1 = none)
        ++ [(fileName name pid, d.files.length)]
      files := d.files ++ [new] } where
  -- no other file stands under the name that the new one gets, for such a file would be one of the
  -- segment
  names := by
    dsimp only
    rw [List.map_append, List.nodup_append]
    refine ⟨(List.filter_sublist.map _).nodup h.names, List.nodup_singleton _, ?_⟩
    rintro _ hold file hnew rfl
    obtain ⟨e, he, rfl⟩ := List.mem_map.1 hold
    have hnone := of_decide_eq_true (List.mem_filter.1 he).2
    rw [List.mem_singleton.1 hnew, owner?_fileName] at hnone
    cases hnone
  inside e he := by
    show e.2 < (d.files ++ [new]).length
    rw [List.length_append]
    rcases List.mem_append.1 he with hold | hnew
    · exact Nat.lt_add_right _ (h.inside e (List.mem_filter.1 hold).1)
    · rw [List.mem_singleton.1 hnew]
      exact Nat.lt_succ_self _

/-- The directory as a process acts in it. -/
def actedBy (d : Directory) (pid : UInt32) : Directory := { d with self := pid }

end Directory

/-- A segment that a process holds. -/
structure Holding where
  pid : UInt32
  writer : SegmentWriter
  deriving DecidableEq

/-- A directory, and the segments that are held in it by processes that run. -/
structure Owners where
  directory : Directory
  held : List Holding := []

/-- What happens to segments. -/
inductive Deed where
  /-- A process, if it runs, creates a segment. -/
  | create (pid : UInt32) (name : String) (size : Nat)
  /-- Who holds a segment drops it. -/
  | drop (h : Holding)
  /-- Processes start, and others exit: these drop nothing. -/
  | turn (alive : UInt32 → Bool)

namespace Owners

variable {o : Owners}

/-- What a deed comes to. -/
def after (o : Owners) : Deed → Owners
  | .create pid name size =>
    if o.directory.alive pid then
      let made := (o.directory.actedBy pid).create name size
      match made.result with
      | .ok writer => { directory := made.directory, held := o.held ++ [{ pid, writer }] }
      | .error _ => { o with directory := made.directory }
    else o
  | .drop h =>
    if h ∈ o.held then { directory := h.writer.drop o.directory, held := o.held.erase h } else o
  | .turn alive =>
    { directory := { o.directory with alive }, held := o.held.filter fun h => alive h.pid }

/-- One deed after the other. -/
def run (o : Owners) (deeds : List Deed) : Owners := deeds.foldl after o

/-- A process that runs and can create a segment has it afterwards. -/
theorem after_create {pid : UInt32} {name : String} {size : Nat}
    (halive : o.directory.alive pid = true)
    (htakes : (o.directory.actedBy pid).takes name = true)
    (hsize : Segment.sizeFault? size = none)
    (hfree : ∀ e ∈ o.directory.entries, ¬(o.directory.actedBy pid).Owned name e.1) :
    o.after (.create pid name size) =
      { directory :=
          { o.directory.actedBy pid with
            entries := o.directory.entries.filter (fun e => Directory.owner? name e.1 = none)
              ++ [(Directory.fileName name pid, o.directory.files.length)]
            files := o.directory.files ++ [(o.directory.actedBy pid).newFile size] }
        held := o.held ++ [{
          pid
          writer :=
            { name, file := Directory.fileName name pid, number := o.directory.files.length,
              size } }] } := by
  -- no file is in the way, so the segment is created
  obtain ⟨w, hw⟩ := (Directory.create_iff htakes).2 ⟨hsize, hfree⟩
  obtain ⟨rfl, hdirectory, _⟩ := Directory.create_ok hw
  rw [after, if_pos halive]
  dsimp only
  rw [hw, hdirectory]
  rfl

/-- Who holds a segment runs, and its file stands in the directory. -/
structure Stands (d : Directory) (h : Holding) : Prop where
  alive : d.alive h.pid = true
  file : h.writer.file = Directory.fileName h.writer.name h.pid
  entry : (h.writer.file, h.writer.number) ∈ d.entries

/-- All that is held stands, and no two hold the same segment. -/
structure Ordered (o : Owners) : Prop where
  sound : o.directory.Sound
  stands : ∀ h ∈ o.held, Stands o.directory h
  single : (o.held.map (·.writer.name)).Nodup

/-- The owner of a file that is held. -/
theorem Stands.owner {d : Directory} {h : Holding} (hstands : Stands d h) :
    Directory.owner? h.writer.name h.writer.file = some h.pid := by
  rw [hstands.file]
  exact Directory.owner?_fileName ..

/-- A file that is held is not stale, so it is not removed as such. -/
theorem Stands.cleared {d d' : Directory} {h : Holding} {pid : UInt32} {name : String}
    (hstands : Stands d h) (hcleared : (d.actedBy pid).Cleared name d') : Stands d' h where
  alive := by
    rw [hcleared.rest]
    exact hstands.alive
  file := hstands.file
  entry := by
    by_cases hkept : (h.writer.file, h.writer.number) ∈ d'.entries
    · exact hkept
    · obtain ⟨owner, howner, _, hdead⟩ := hcleared.stale _ hstands.entry hkept
      cases Directory.name_eq_of_owner? howner hstands.owner
      cases howner.symm.trans hstands.owner
      exact absurd (hstands.alive.symm.trans hdead) Bool.noConfusion

namespace Ordered

/-- What is held is none of the segment that is created. -/
theorem owner?_eq_none (h : o.Ordered) {name : String} {pid : UInt32}
    (hfree : ∀ e ∈ o.directory.entries, ¬(o.directory.actedBy pid).Owned name e.1) {held : Holding}
    (hheld : held ∈ o.held) : Directory.owner? name held.writer.file = none := by
  have hstands := h.stands held hheld
  cases howner : Directory.owner? name held.writer.file with
  | none => rfl
  | some owner =>
      refine absurd ⟨owner, howner, .inr ?_⟩ (hfree _ hstands.entry)
      cases Directory.name_eq_of_owner? howner hstands.owner
      cases howner.symm.trans hstands.owner
      exact hstands.alive

theorem create (h : o.Ordered) (pid : UInt32) (name : String) (size : Nat) :
    (o.after (.create pid name size)).Ordered := by
  unfold after
  dsimp only
  split
  · next halive =>
      split
      · next writer hresult =>
          obtain ⟨rfl, hdirectory, hfree⟩ := Directory.create_ok hresult
          rw [hdirectory]
          have hsound : (o.directory.actedBy pid).Sound := ⟨h.sound.names, h.sound.inside⟩
          refine ⟨hsound.created name pid _, ?_, ?_⟩
          · -- the segments that were held before are others, so none of their files was in the way
            intro held hheld
            rcases List.mem_append.1 hheld with hold | hnew
            · have hstands := h.stands held hold
              refine ⟨hstands.alive, hstands.file, List.mem_append_left _ ?_⟩
              exact List.mem_filter.2 ⟨hstands.entry, decide_eq_true (h.owner?_eq_none hfree hold)⟩
            · rw [List.mem_singleton.1 hnew]
              exact ⟨halive, rfl, List.mem_append_right _ (List.mem_singleton_self _)⟩
          · dsimp only
            rw [List.map_append, List.nodup_append]
            refine ⟨h.single, List.nodup_singleton _, ?_⟩
            rintro _ hold name hnew rfl
            obtain ⟨held, hheld, rfl⟩ := List.mem_map.1 hold
            have hname : held.writer.name = name := List.mem_singleton.1 hnew
            have hnone := h.owner?_eq_none hfree hheld
            rw [← hname, (h.stands held hheld).owner] at hnone
            cases hnone
      · next fault hresult =>
          -- a claim that failed has removed stale files, and none of those is held
          obtain ⟨hcleared, _⟩ := Directory.create_error hresult
          exact
            { sound := hcleared.sound ⟨h.sound.names, h.sound.inside⟩
              stands := fun held hheld => (h.stands held hheld).cleared hcleared
              single := h.single }
  · exact h

theorem drop (h : o.Ordered) (holding : Holding) : (o.after (.drop holding)).Ordered := by
  unfold after
  dsimp only
  split
  · next hholds =>
      refine ⟨h.sound.removed _, ?_, ?_⟩
      · intro held hheld
        have hmem := List.mem_of_mem_erase hheld
        have hstands := h.stands held hmem
        refine ⟨hstands.alive, hstands.file, List.mem_filter.2 ⟨hstands.entry, ?_⟩⟩
        refine decide_eq_true fun hsame => ?_
        -- who holds the same file holds the same segment
        have hname : holding.writer.name = held.writer.name := by
          have howner := (h.stands holding hholds).owner
          rw [← hsame] at howner
          exact Directory.name_eq_of_owner? hstands.owner howner
        have heq : held = holding := List.inj_on_of_nodup_map h.single hmem hholds hname.symm
        exact ((List.Nodup.of_map _ h.single).mem_erase_iff.1 hheld).1 heq
      · exact (List.erase_sublist.map _).nodup h.single
  · exact h

theorem turn (h : o.Ordered) (alive : UInt32 → Bool) : (o.after (.turn alive)).Ordered where
  sound := ⟨h.sound.names, h.sound.inside⟩
  stands held hheld := by
    obtain ⟨hmem, halive⟩ := List.mem_filter.1 hheld
    have hstands := h.stands held hmem
    exact ⟨halive, hstands.file, hstands.entry⟩
  single := (List.filter_sublist.map _).nodup h.single

/-- **Every deed keeps the order.** -/
theorem after (h : o.Ordered) (deed : Deed) : (o.after deed).Ordered := by
  cases deed with
  | create pid name size => exact h.create pid name size
  | drop holding => exact h.drop holding
  | turn alive => exact h.turn alive

/-- **So does any number of deeds.** -/
theorem run (h : o.Ordered) (deeds : List Deed) : (o.run deeds).Ordered := by
  induction deeds generalizing o with
  | nil => exact h
  | cons deed deeds ih => exact ih (h.after deed)

end Ordered

/-! ### Names by the rule

Names by the rule are all that processes ever add, so a file that breaks it was there from the
beginning.
-/

/-- A deed adds no file but under a name that was made for its owner. -/
theorem entries_after (o : Owners) (deed : Deed) :
    ∀ e ∈ (o.after deed).directory.entries,
      e ∈ o.directory.entries ∨ ∃ name pid, e.1 = Directory.fileName name pid := by
  intro e he
  -- only creating brings an entry, and it is one with the name of a file
  cases deed with
  | create pid name size =>
      unfold after at he
      dsimp only at he
      split at he
      · split at he
        · next hresult =>
            obtain ⟨_, hdirectory, _⟩ := Directory.create_ok hresult
            rw [hdirectory] at he
            rcases List.mem_append.1 he with hold | hnew
            · exact .inl (List.mem_filter.1 hold).1
            · rw [List.mem_singleton.1 hnew]
              exact .inr ⟨name, pid, rfl⟩
        · next hresult =>
            exact .inl ((Directory.create_error hresult).1.entries.subset he)
      · exact .inl he
  | drop holding =>
      unfold after at he
      dsimp only at he
      split at he
      · exact .inl (List.mem_filter.1 he).1
      · exact .inl he
  | turn alive => exact .inl he

theorem entries_run (o : Owners) (deeds : List Deed) :
    ∀ e ∈ (o.run deeds).directory.entries,
      e ∈ o.directory.entries ∨ ∃ name pid, e.1 = Directory.fileName name pid := by
  induction deeds generalizing o with
  | nil => exact fun e he => .inl he
  | cons deed deeds ih =>
      intro e he
      rcases ih (o.after deed) e he with hold | hmade
      · exact o.entries_after deed e hold
      · exact .inr hmade

/-- **Against the rule** belongs what was there from the beginning, at most. -/
theorem ruled_run (o : Owners) (deeds : List Deed) (name : String) :
    ∀ e ∈ (o.run deeds).directory.entries,
      Directory.owner? name e.1 = Directory.ruled? name e.1 ∨
        Directory.Signed name e.1 ∧ e ∈ o.directory.entries := by
  intro e he
  by_cases hsigned : Directory.Signed name e.1 ∧ (Directory.owner? name e.1).isSome
  · refine .inr ⟨hsigned.1, (o.entries_run deeds e he).resolve_right ?_⟩
    rintro ⟨name', pid, hfile⟩
    obtain ⟨owner, howner⟩ := Option.isSome_iff_exists.1 hsigned.2
    have hruled := Directory.ruled?_of_signed hsigned.1
    rw [hfile] at howner hruled
    cases Directory.name_eq_of_owner? howner (Directory.owner?_fileName name' pid)
    rw [Directory.ruled?_fileName] at hruled
    cases hruled
  · exact .inl (Directory.owner?_eq_ruled?_iff.2 hsigned)

/-- **A segment has one owner.** Let processes create segments and drop them in a directory, start
and exit, in whatever order. Who holds a segment runs, and its file stands there; and no two hold
the same segment. A process can create a segment, if the path leads to a file, just when the size is
that of a segment and the process itself and the others that run own no file of it. Then all files
of the segment are gone, a new one is there, and nothing has happened to the other files; and when
it cannot be created, nothing has happened either but that stale files of the segment may be gone.
Who drops a segment removes its file and no other.

To whom a file belongs is read by the rule, unless the file was there from the beginning and has a
plus sign before the number. -/
theorem single_owner {o : Owners} (hsound : o.directory.Sound) (hnone : o.held = [])
    (deeds : List Deed) :
    let now := o.run deeds
    (∀ h ∈ now.held, Stands now.directory h) ∧
      (now.held.map (·.writer.name)).Nodup ∧
      (∀ pid name size,
        let d := now.directory.actedBy pid
        let made := d.create name size
        (d.takes name = true → ((∃ w, made.result = .ok w) ↔
          Segment.sizeFault? size = none ∧ ∀ e ∈ d.entries, ¬d.Owned name e.1)) ∧
        (∀ w, made.result = .ok w →
          w.file = Directory.fileName name pid ∧
          made.directory.entries
            = d.entries.filter (fun e => Directory.owner? name e.1 = none)
              ++ [(w.file, w.number)] ∧
          (∀ e ∈ d.entries, d.Stale name e.1 ∨ Directory.owner? name e.1 = none) ∧
          ∀ e ∈ d.entries, made.directory.file e.2 = d.file e.2) ∧
        ∀ fault, made.result = .error fault → d.Cleared name made.directory ∧
          ∀ e ∈ d.entries, made.directory.file e.2 = d.file e.2) ∧
      (∀ h ∈ now.held,
        (h.writer.drop now.directory).entries
            = now.directory.entries.erase (h.writer.file, h.writer.number) ∧
          (h.writer.drop now.directory).files = now.directory.files) ∧
      ∀ name, ∀ e ∈ now.directory.entries,
        Directory.owner? name e.1 = Directory.ruled? name e.1 ∨
          Directory.Signed name e.1 ∧ e ∈ o.directory.entries := by
  intro now
  -- in the beginning nothing is held, so the order is there
  have hordered : now.Ordered := by
    refine Ordered.run ⟨hsound, ?_, ?_⟩ deeds <;> rw [hnone]
    · exact fun _ => List.not_mem_nil.elim
    · exact List.nodup_nil
  refine ⟨hordered.stands, hordered.single, ?_, ?_, fun name => o.ruled_run deeds name⟩
  · intro pid name size d made
    have hinside : ∀ e ∈ d.entries, e.2 < d.files.length := hordered.sound.inside
    refine ⟨Directory.create_iff, ?_, ?_⟩
    · intro w hw
      obtain ⟨rfl, hdirectory, hfree⟩ := Directory.create_ok hw
      have hmade : made.directory = _ := hdirectory
      rw [hmade]
      refine ⟨rfl, rfl, fun e he => ?_, fun e he => ?_⟩
      · cases howner : Directory.owner? name e.1 with
        | none => exact .inr rfl
        | some owner => exact .inl ((d.owned_or_stale howner).resolve_left (hfree e he))
      · exact Directory.file_of_prefix (List.prefix_append ..) (hinside e he)
    · intro fault hfault
      obtain ⟨hcleared, _⟩ := Directory.create_error hfault
      exact ⟨hcleared, fun e he => Directory.file_of_prefix hcleared.files (hinside e he)⟩
  · intro h hheld
    exact ⟨hordered.sound.remove (hordered.stands h hheld).entry, rfl⟩

/-- A file that a process has left behind, and one that is no segment's. -/
def bequeathed : Directory where
  root := ""
  self := 7
  alive := fun pid => pid = 7 || pid = 9
  entries := [("hmi_p_5", 0), ("hmi_p_5_notes", 1)]
  files := [{ length := 4224 }, { length := 12 }]

/-- One process creates the segment, another one creates and drops a different one, and then the
first one exits without dropping its own. -/
def handedOver : List Deed :=
  [.create 9 "p" 4096, .create 7 "q" 4096, .drop ⟨7, ⟨"q", "hmi_q_7", 3, 4096, 0⟩⟩,
    .turn fun pid => pid = 7]

/-- The directory after these: there is a file of the process that has exited. -/
def handed : Directory :=
  { bequeathed with
    alive := fun pid => pid = 7
    entries := [("hmi_p_5_notes", 1), ("hmi_p_9", 2)]
    files := bequeathed.files ++ [(bequeathed.actedBy 9).newFile 4096, bequeathed.newFile 4096] }

theorem run_handedOver :
    Owners.run { directory := bequeathed } handedOver = { directory := handed } := by
  -- names are worked out once, since the rest of the evaluation compares them
  have hnine : Directory.fileName "p" 9 = "hmi_p_9" := by decide +kernel
  have hseven : Directory.fileName "q" 7 = "hmi_q_7" := by decide +kernel
  have hstale : bequeathed.entries.filter (fun e => Directory.owner? "p" e.1 = none)
      = [("hmi_p_5_notes", 1)] := by decide +kernel
  have hother : [("hmi_p_5_notes", 1), ("hmi_p_9", 2)].filter
        (fun e => Directory.owner? "q" e.1 = none)
      = [("hmi_p_5_notes", 1), ("hmi_p_9", 2)] := by decide +kernel
  rw [run, handedOver, List.foldl_cons,
    after_create (by decide) (Directory.takes_of_name hnine rfl rfl (by decide +kernel) (by simp)
      (by decide +kernel)) (by decide) (by decide +kernel), hnine, hstale]
  rw [List.foldl_cons,
    after_create (by decide) (Directory.takes_of_name hseven rfl rfl (by decide +kernel) (by simp)
      (by decide +kernel)) (by decide) (by decide +kernel), hseven]
  dsimp only [List.singleton_append]
  rw [show bequeathed.files.length = 2 from rfl, hother]
  rw [List.foldl_cons, after, if_pos (by decide +kernel), List.foldl_cons, List.foldl_nil]
  rfl

/-- The process that runs can create the segment after all that; then no file that was left behind
is there, neither the one from the beginning nor that of the process which has exited since. -/
theorem single_owner_bequeathed :
    let now := Owners.run { directory := bequeathed } handedOver
    let made := (now.directory.actedBy 7).create "p" 4096
    now.directory.entries.map (·.1) = ["hmi_p_5_notes", "hmi_p_9"] ∧
      (∃ w, made.result = .ok w) ∧
      made.directory.entries.map (·.1) = ["hmi_p_5_notes", "hmi_p_7"] := by
  have hsound : bequeathed.Sound := ⟨by decide, by decide⟩
  -- before the creation to be explained, other processes have created and dropped
  have hname : Directory.fileName "p" 7 = "hmi_p_7" := by decide +kernel
  have htakes : (handed.actedBy 7).takes "p" = true :=
    Directory.takes_of_name hname rfl rfl (by decide +kernel) (by simp) (by decide +kernel)
  obtain ⟨_, _, hcreates, _⟩ :=
    single_owner (o := { directory := bequeathed }) hsound rfl handedOver
  rw [run_handedOver] at hcreates ⊢
  obtain ⟨hiff, hmade, _⟩ := hcreates 7 "p" 4096
  obtain ⟨w, hw⟩ := (hiff htakes).2 ⟨by decide, by decide +kernel⟩
  obtain ⟨hfile, hentries, _⟩ := hmade w hw
  refine ⟨rfl, ⟨w, hw⟩, (congrArg (List.map (·.1)) hentries).trans ?_⟩
  rw [List.map_append, List.map_singleton, hfile, hname]
  dsimp only
  decide +kernel

/-- A file with a plus sign before a number, and no process but the one that acts. -/
def signed : Directory where
  root := ""
  self := 7
  alive := fun _ => false
  entries := [("hmi_p_+4194305", 0)]
  files := [{ length := 4224 }]

/-- **A file that is no segment's by the rule** is removed as stale when the segment is created; and
when a process with this number runs, the segment cannot be created. -/
theorem takes_signed :
    signed.Sound ∧ (∀ e ∈ signed.entries, Directory.ruled? "p" e.1 = none) ∧
      (∃ w, (signed.create "p" 4096).result = .ok w) ∧
      (signed.create "p" 4096).directory.entries = [("hmi_p_7", 1)] ∧
      (Directory.create { signed with alive := fun _ => true } "p" 4096).result
        = .error (.alreadyExists "p") := by
  have hname : Directory.fileName "p" signed.self = "hmi_p_7" := by decide +kernel
  have htakes : signed.takes "p" = true :=
    Directory.takes_of_name hname rfl rfl (by decide +kernel) (by simp) (by decide +kernel)
  have hcreates : ∃ w, (signed.create "p" 4096).result = .ok w :=
    (Directory.create_iff htakes).2 ⟨by decide, by decide +kernel⟩
  obtain ⟨w, hw⟩ := hcreates
  refine ⟨⟨by decide, by decide⟩, by decide +kernel, ⟨w, hw⟩, ?_, by decide +kernel⟩
  rw [(Directory.create_ok hw).2.1]
  decide +kernel

end Owners
end OperatorPanel
