import OperatorPanel.Proofs.Numerals
import OperatorPanel.World

/-!
# Names of segments

The file of a segment is found by its name. A name that was made for an owner is read back as the
name of that owner's file (`Directory.owner?_fileName`), and the path that it gives leads to it and
nowhere else (`Directory.locate_fileName_eq_ok`). Claiming a name leaves no file of the segment, so
that after a segment was created there is one file of it, the new one (`Directory.create_eq_ok`).
-/

namespace OperatorPanel

namespace Path

/-- A part that is a name leads to what stands under it. -/
theorem follow_name (look : List String → Place) (way : List String) {part : String}
    (hname : part ≠ "" ∧ part ≠ "." ∧ part ≠ "..") (parts : List String) :
    follow look (way, .directory) (part :: parts)
      = if maxName < part.utf8ByteSize then .error .nameTooLong
        else follow look (way ++ [part], look (way ++ [part])) parts := by
  rw [follow, if_neg (by simp [hname]), if_neg hname.2.2]

end Path

namespace Directory

variable {d : Directory} {name file : String} {pid : UInt32}

/-! ### The name of a file -/

theorem toList_fileName (name : String) (pid : UInt32) :
    ∃ cs, (fileName name pid).toList = 'h' :: cs := by
  rw [fileName, stem, String.toList_append, String.toList_append, String.toList_append]
  exact ⟨_, rfl⟩

/-- A number behind the stem is the owner's, if it fits, by whatever rule it is read. -/
theorem read_eq_some_iff {read : List Char → Option Nat} :
    ((Text.after? (stem name).toList file.toList).bind fun digits =>
      (read digits).bind fun n => if n < valuesOf 32 then some (UInt32.ofNat n) else none)
        = some pid
      ↔ ∃ digits : String, file = stem name ++ digits ∧ read digits.toList = some pid.toNat := by
  constructor
  · -- what stands behind the stem is all that is read as a number
    intro h
    obtain ⟨digits, hafter, h⟩ := Option.bind_eq_some_iff.1 h
    obtain ⟨n, hread, h⟩ := Option.bind_eq_some_iff.1 h
    split at h
    · next hfits =>
        have hpid : pid.toNat = n := by
          rw [← Option.some.inj h]
          exact UInt32.toNat_ofNat_of_lt' hfits
        refine ⟨String.ofList digits, String.ext ?_, ?_⟩
        · rw [String.toList_append, String.toList_ofList]
          exact Text.after?_eq_some_iff.1 hafter
        · rw [String.toList_ofList, hpid]
          exact hread
    · cases h
  · rintro ⟨digits, rfl, hread⟩
    have hafter : Text.after? (stem name).toList (stem name ++ digits).toList
        = some digits.toList :=
      Text.after?_eq_some_iff.2 String.toList_append
    have hfits : pid.toNat < valuesOf 32 := pid.toNat_lt
    rw [hafter, Option.bind_some, hread, Option.bind_some, if_pos hfits, UInt32.ofNat_toNat]

/-- **The owner is read from the name** that was made for it. -/
theorem owner?_fileName (name : String) (pid : UInt32) :
    owner? name (fileName name pid) = some pid :=
  read_eq_some_iff.2 ⟨Text.decimal pid.toNat, rfl, Text.unsigned?_decimal _⟩

/-- A text that starts with a letter is a name. -/
theorem isName_of_toList {part : String} {cs : List Char} (h : part.toList = 'h' :: cs) :
    part ≠ "" ∧ part ≠ "." ∧ part ≠ ".." := by
  refine ⟨?_, ?_, ?_⟩ <;>
  · rintro rfl
    cases h

/-- What stands under a name of the directory is a file or nothing. -/
theorem look_ne_directory (d : Directory) (part : String) : d.look [part] ≠ .directory := by
  unfold look
  dsimp only
  split <;> simp

/-- A path in one piece leads to the file of this name. -/
theorem follow_piece (d : Directory) {path : String} {cs : List Char}
    (hpath : path.toList = 'h' :: cs) (hslash : '/' ∉ path.toList) :
    Path.follow d.look ([], .directory) (Path.parts path)
      = if Path.maxName < path.utf8ByteSize then .error .nameTooLong
        else .ok ([path], d.look [path]) := by
  have hparts : Path.parts path = [path] := by
    rw [Path.parts, Text.split_of_not_mem hslash, List.map_singleton, String.ofList_toList]
  rw [hparts, Path.follow_name _ _ (isName_of_toList hpath)]
  rfl

/-- A path of more pieces leads nowhere: there is nothing below the first. -/
theorem follow_pieces (d : Directory) {path : String} {cs : List Char}
    (hpath : path.toList = 'h' :: cs) (hslash : '/' ∈ path.toList) :
    ∃ fault, Path.follow d.look ([], .directory) (Path.parts path) = .error fault := by
  obtain ⟨first, rest, hsplit, hfirst⟩ := List.eq_append_cons_of_mem hslash
  obtain ⟨second, pieces, hrest⟩ := List.exists_cons_of_ne_nil (Text.split_ne_nil '/' rest)
  have hparts : Path.parts path
      = String.ofList first :: String.ofList second :: pieces.map String.ofList := by
    rw [Path.parts, hsplit, Text.split_append hfirst, hrest]
    rfl
  rw [hparts]
  rw [hpath] at hsplit
  cases first with
  | nil => -- the path starts with a letter
      rw [List.nil_append] at hsplit
      cases hsplit
  | cons c first =>
      rw [List.cons_append, List.cons.injEq] at hsplit
      obtain ⟨rfl, -⟩ := hsplit
      rw [Path.follow_name _ _ (isName_of_toList String.toList_ofList)]
      split
      · exact ⟨_, rfl⟩
      · cases hlook : d.look ([] ++ [String.ofList ('h' :: first)]) with
        | missing => exact ⟨_, rfl⟩
        | file => exact ⟨_, rfl⟩
        | directory => exact absurd hlook (look_ne_directory d _)

/-- **The path that is made for an owner leads to its file**, unless the name is no name of a file
or the directory cannot be read. -/
theorem locate_fileName_eq_ok {file : String} :
    d.locate (fileName name pid) = .ok file ↔
      file = fileName name pid ∧ Path.textFault? (pathOf d.root (fileName name pid)) = none ∧
        d.fault = none ∧ '/' ∉ (fileName name pid).toList ∧
        (fileName name pid).utf8ByteSize ≤ Path.maxName := by
  -- the name begins with a letter, so without a slash it leads to a file in the directory itself
  obtain ⟨cs, hcs⟩ := toList_fileName name pid
  generalize fileName name pid = path at hcs ⊢
  unfold locate
  cases htext : Path.textFault? (pathOf d.root path) with
  | some fault => simp
  | none =>
      cases hfault : d.fault with
      | some fault => simp
      | none =>
          by_cases hslash : '/' ∈ path.toList
          · obtain ⟨fault, hfollow⟩ := follow_pieces d hcs hslash
            simp [hfollow, hslash]
          · rw [Option.none_or, follow_piece d hcs hslash]
            by_cases hlong : Path.maxName < path.utf8ByteSize
            · simp [hlong, hslash]
            · have hlook := look_ne_directory d path
              rw [if_neg hlong]
              cases hplace : d.look [path] with
              | directory => exact absurd hplace hlook
              | missing => simp [Nat.not_lt.1 hlong, hslash, eq_comm]
              | file => simp [Nat.not_lt.1 hlong, hslash, eq_comm]

/-! ### Claiming a name -/

theorem find_eq_ok {ms : List Match} :
    d.find name = .ok ms ↔ d.fault = none ∧ ms = d.entries.filterMap fun e =>
      (owner? name e.1).map fun pid => { file := e.1, pid, number := e.2 } := by
  unfold find
  split
  · next hfault => simp [hfault]
  · next fault _ hfault => simp [hfault]
  · next hfault => simp [hfault, eq_comm]

/-- What is found are the entries of which the names are read as those of the segment. -/
theorem mem_find_iff {ms : List Match} (h : d.find name = .ok ms) {m : Match} :
    m ∈ ms ↔ (m.file, m.number) ∈ d.entries ∧ owner? name m.file = some m.pid := by
  rw [(find_eq_ok.1 h).2, List.mem_filterMap]
  constructor
  · rintro ⟨e, he, hmatch⟩
    obtain ⟨pid, howner, rfl⟩ := Option.map_eq_some_iff.1 hmatch
    exact ⟨he, howner⟩
  · rintro ⟨he, howner⟩
    exact ⟨_, he, by rw [howner]; rfl⟩

/-- Claiming goes through when the owners are dead, and removes their files. -/
theorem claimFrom_eq {ms : List Match} (h : (d.claimFrom name ms).fault = none) :
    (d.claimFrom name ms).directory
      = { d with entries := d.entries.filter fun e => ms.all (·.file ≠ e.1) } := by
  -- by induction on the files; one with a living owner ends the claim
  induction ms generalizing d with
  | nil =>
      show d = { d with entries := d.entries.filter fun _ => true }
      rw [List.filter_eq_self.2 fun _ _ => rfl]
  | cons m ms ih =>
      unfold claimFrom at h ⊢
      split at h
      · cases h
      · next howner =>
          rw [if_neg howner]
          show (claimFrom (d.remove m.file) name ms).directory = _
          rw [ih h, remove, List.filter_filter]
          congr 1
          -- a file stays if it is neither the first nor one of the others
          refine List.filter_congr fun e _ => ?_
          rw [List.all_cons, Bool.and_comm]
          simp [eq_comm]

/-- **A name that was claimed has no file any more**, and all other files are left. -/
theorem claim_eq (h : (d.claim name).fault = none) :
    d.fault = none ∧ (d.claim name).directory
      = { d with entries := d.entries.filter fun e => owner? name e.1 = none } := by
  unfold claim at h ⊢
  split at h
  · cases h
  · next ms hfind =>
      refine ⟨(find_eq_ok.1 hfind).1, ?_⟩
      show (d.claimFrom name ms).directory = _
      rw [claimFrom_eq h]
      congr 1
      refine List.filter_congr fun e he => ?_
      rw [Bool.eq_iff_iff, List.all_eq_true, decide_eq_true_iff]
      constructor
      · intro hkept
        cases howner : owner? name e.1 with
        | none => rfl
        | some pid => -- its file would have been found
            have hgone := hkept { file := e.1, pid, number := e.2 }
              ((mem_find_iff hfind).2 ⟨he, howner⟩)
            simp at hgone
      · intro hnone m hm
        obtain ⟨_, howner⟩ := (mem_find_iff hfind).1 hm
        refine decide_eq_true fun hsame => ?_
        rw [hsame, hnone] at howner
        cases howner

/-- The file of a segment that was just created. -/
def newFile (d : Directory) (size : Nat) : SegmentFile where
  length := Segment.headerLength + size
  header := .forWriter size d.self d.now
  modified := d.now

/-- What a directory is like after a segment was created in it: of the files of the segment only
the new one is there. -/
structure Created (d : Directory) (name : String) (size : Nat) (w : SegmentWriter)
    (d' : Directory) : Prop where
  sound : Segment.sizeFault? size = none
  writer : w = { name, file := fileName name d.self, number := d.files.length, size }
  find : d'.find name = .ok [⟨fileName name d.self, d.self, d.files.length⟩]
  rest : d' = { d with entries := d'.entries, files := d.files ++ [d.newFile size] }

/-- In a directory without files of the segment its new file is the only one. -/
theorem created_add {entries : List (String × Nat)} {size : Nat}
    (hsize : Segment.sizeFault? size = none) (hfault : d.fault = none)
    (hnone : ∀ e ∈ entries, owner? name e.1 = none) :
    Created d name size
      { name, file := fileName name d.self, number := d.files.length, size }
      (({ d with entries } : Directory).add (fileName name d.self) (d.newFile size)) := by
  refine ⟨hsize, rfl, find_eq_ok.2 ⟨hfault, ?_⟩, rfl⟩
  show _ = (entries.filter (·.1 ≠ fileName name d.self)
    ++ [(fileName name d.self, d.files.length)]).filterMap _
  have hold : (entries.filter (·.1 ≠ fileName name d.self)).filterMap (fun e =>
      (owner? name e.1).map fun pid => ({ file := e.1, pid, number := e.2 } : Match)) = [] := by
    rw [List.filterMap_eq_nil_iff]
    intro e he
    rw [hnone e (List.mem_filter.1 he).1]
    rfl
  rw [List.filterMap_append, hold, List.nil_append, List.filterMap_cons, owner?_fileName]
  rfl

/-- **After a segment was created its name is taken by the new file alone.** -/
theorem create_eq_ok {size : Nat} {w : SegmentWriter} (h : (d.create name size).result = .ok w) :
    Created d name size w (d.create name size).directory := by
  unfold create at h ⊢
  split at h  -- the size is checked, then the claim, and then the place for the file
  · cases h
  · next hsize =>
      dsimp only at h ⊢
      split at h
      · cases h
      · next hclaim =>
          obtain ⟨hfault, hdirectory⟩ := claim_eq hclaim
          rw [hdirectory] at h ⊢
          split at h
          · cases h
          · next file hlocate =>
              cases h
              obtain ⟨rfl, -⟩ := locate_fileName_eq_ok.1 hlocate
              refine created_add hsize hfault fun e he => ?_
              exact of_decide_eq_true (List.mem_filter.1 he).2

/-- Without its only file the segment has none. -/
theorem find_remove {m : Match} (h : d.find name = .ok [m]) {ms : List Match}
    (hms : (d.remove m.file).find name = .ok ms) : ms = [] := by
  refine List.eq_nil_iff_forall_not_mem.2 fun m' hm' => ?_
  obtain ⟨hmem, howner⟩ := (mem_find_iff hms).1 hm'
  obtain ⟨hmem, hkept⟩ := List.mem_filter.1 hmem
  -- the match would be the one that was removed
  obtain rfl := List.mem_singleton.1 ((mem_find_iff h).2 ⟨hmem, howner⟩)
  exact absurd rfl (of_decide_eq_true hkept)

/-- The path of the acting process's file of a segment leads to it. -/
def takes (d : Directory) (name : String) : Bool := (d.locate (fileName name d.self)).isOk

theorem takes_iff : d.takes name = true ↔
    d.locate (fileName name d.self) = .ok (fileName name d.self) := by
  unfold takes
  cases hlocate : d.locate (fileName name d.self) with
  | error fault => simp [Except.isOk, Except.toBool]
  | ok file => simp [Except.isOk, Except.toBool, (locate_fileName_eq_ok.1 hlocate).1]

/-- A directory that can be read takes a file whose name has no slash and no NUL and is short
enough. -/
theorem takes_of_name {file : String} (hname : fileName name d.self = file)
    (hroot : d.root = "") (hfault : d.fault = none) (hslash : '/' ∉ file.toList)
    (hnul : file.contains '\x00' = false) (hshort : file.utf8ByteSize ≤ Path.maxName) :
    d.takes name = true := by
  obtain ⟨cs, hcs⟩ := toList_fileName name d.self
  rw [hname] at hcs
  have hpath : pathOf d.root file = file := by
    rw [hroot, pathOf, if_pos (by decide)]
    exact String.empty_append
  have htext : Path.textFault? file = none := by
    have hlong : ¬Path.maxPath < file.utf8ByteSize := by
      have hmax : Path.maxName < Path.maxPath := by decide
      omega
    rw [Path.textFault?, hnul, if_neg Bool.false_ne_true, if_neg (isName_of_toList hcs).1,
      if_neg hlong]
  rw [takes_iff, locate_fileName_eq_ok, hname, hpath]
  exact ⟨rfl, htext, hfault, hslash, hshort⟩

/-- What stands in the directory makes no difference to it. -/
theorem takes_congr {d' : Directory} (hroot : d'.root = d.root) (hself : d'.self = d.self)
    (hfault : d'.fault = d.fault) : d'.takes name = d.takes name := by
  rw [Bool.eq_iff_iff, takes_iff, takes_iff, locate_fileName_eq_ok, locate_fileName_eq_ok, hroot,
    hself, hfault]

/-- **Where the segment has no file**, creating it goes through just when its size is that of a
segment and its path leads to its file; and otherwise nothing changes. -/
theorem create_of_missing (hnone : ∀ ms, d.find name = .ok ms → ms = []) (size : Nat) :
    if Segment.sizeFault? size = none ∧ d.takes name = true then
      ∃ w, (d.create name size).result = .ok w
    else ∃ fault, d.create name size = { result := .error fault, directory := d } := by
  cases hsize : Segment.sizeFault? size with
  | some fault =>
      rw [if_neg (by simp)]
      unfold create
      rw [hsize]
      exact ⟨fault, rfl⟩
  | none =>
      cases hfind : d.find name with
      | error fault => -- a directory that cannot be read takes no file either
          have htakes : d.takes name ≠ true := by
            intro htakes
            obtain ⟨-, -, hfault, -⟩ := locate_fileName_eq_ok.1 (takes_iff.1 htakes)
            unfold find at hfind
            rw [hfault] at hfind
            cases hfind
          rw [if_neg (fun h => htakes h.2)]
          unfold create claim
          rw [hsize, hfind]
          exact ⟨fault, rfl⟩
      | ok ms =>
          obtain rfl := hnone ms hfind
          -- with no file to look at, the claim changes nothing
          have hclaim : d.claim name = { directory := d } := by
            unfold claim
            rw [hfind]
            rfl
          unfold takes create
          rw [hsize, hclaim]
          dsimp only
          cases d.locate (fileName name d.self) with
          | error fault => exact ⟨_, rfl⟩
          | ok file => exact ⟨_, rfl⟩

/-- A directory with nothing in it takes every segment with a short name and a size of segments. -/
theorem create_of_empty {file : String} {size : Nat} (hentries : d.entries = [])
    (hname : fileName name d.self = file) (hroot : d.root = "") (hfault : d.fault = none)
    (hslash : '/' ∉ file.toList) (hnul : file.contains '\x00' = false)
    (hshort : file.utf8ByteSize ≤ Path.maxName) (hsize : Segment.sizeFault? size = none) :
    ∃ w, (d.create name size).result = .ok w := by
  have hmissing (ms : List Match) (hms : d.find name = .ok ms) : ms = [] := by
    rw [(find_eq_ok.1 hms).2, hentries]
    rfl
  have hcreate := create_of_missing hmissing size
  rwa [if_pos ⟨hsize, takes_of_name hname hroot hfault hslash hnul hshort⟩] at hcreate

/-- Where the acting process has the segment already, nothing changes. -/
theorem create_of_owned {m : Match} (hfind : d.find name = .ok [m]) (hself : m.pid = d.self)
    (size : Nat) : ∃ fault, d.create name size = { result := .error fault, directory := d } := by
  have hclaim : d.claim name = { fault := some (.alreadyExists name), directory := d } := by
    unfold claim
    rw [hfind]
    show claimFrom d name [m] = _
    rw [claimFrom, if_pos (by simp [hself])]
  unfold create
  rw [hclaim]
  cases hsize : Segment.sizeFault? size with
  | some fault => exact ⟨fault, rfl⟩
  | none => exact ⟨_, rfl⟩

end Directory
end OperatorPanel
