import OperatorPanel.Proofs.Owners

/-!
# Which files are a segment's

By the rule a file is a segment's when its name is the segment's and nothing but digits follow,
which give the process that owns it (`Directory.Belongs`). What is read from names is this, and
also a number behind a plus sign (`Directory.Marked`). So looking for the files of a segment keeps
the rule just in the directories that hold no such name (`Directory.recognized_iff`); in the others
a file that is no segment's may be taken for one that a dead process left behind, and be removed
(`Directory.takes_marked`).
-/

namespace OperatorPanel
namespace Directory

variable {d : Directory} {name file : String} {pid pid' : UInt32}

/-- The file of a segment by the rule: its name is the stem of the segment, and one or more digits
that give the process that owns it. -/
def Belongs (name file : String) (pid : UInt32) : Prop :=
  ∃ digits, file = "hmi_" ++ name ++ "_" ++ digits ∧ Text.Digits digits.toList pid.toNat

/-- The name of the file has a plus sign before the digits. -/
def Marked (name file : String) (pid : UInt32) : Prop :=
  ∃ digits, file = "hmi_" ++ name ++ "_" ++ ("+" ++ digits) ∧
    Text.Digits digits.toList pid.toNat

/-- **What the rule says.** -/
theorem ruled?_eq_some_iff : ruled? name file = some pid ↔ Belongs name file pid := by
  refine read_eq_some_iff.trans (exists_congr fun digits => ?_)
  rw [Text.digits?_eq_some_iff]
  rfl

/-- **What is read from a name**: the number behind the stem, with or without a sign. -/
theorem owner?_eq_some_iff :
    owner? name file = some pid ↔ Belongs name file pid ∨ Marked name file pid := by
  refine read_eq_some_iff.trans ⟨?_, ?_⟩
  · rintro ⟨digits, rfl, hread⟩
    generalize hcs : digits.toList = cs at hread
    cases Text.unsigned?_eq_some_iff.1 hread with
    | plain h => exact .inl ⟨digits, rfl, hcs ▸ h⟩
    | signed h => -- the plus sign belongs to the digits that were read, not to the name
        rename_i ds
        have hsign : digits = "+" ++ String.ofList ds := by
          apply String.ext
          simp [hcs]
        exact .inr ⟨String.ofList ds, by rw [hsign]; rfl, String.toList_ofList ▸ h⟩
  · rintro (⟨digits, rfl, h⟩ | ⟨digits, rfl, h⟩)
    · exact ⟨digits, rfl, Text.unsigned?_eq_some_iff.2 (.plain h)⟩
    · refine ⟨"+" ++ digits, rfl, Text.unsigned?_eq_some_iff.2 ?_⟩
      rw [String.toList_append]
      exact .signed h

/-- A name with a sign is no segment's by the rule. -/
theorem Marked.not_belongs (h : Marked name file pid) : ¬Belongs name file pid' := by
  obtain ⟨digits, rfl, _⟩ := h
  rintro ⟨digits', hfile, hdigits⟩
  obtain rfl := (String.append_right_inj _).1 hfile
  apply hdigits.not_mem (c := '+') rfl
  simp

/-- What is found are entries of the directory, in their order. -/
theorem found_sublist {ms : List Match} (h : d.find name = .ok ms) :
    (ms.map fun m => (m.file, m.number)).Sublist d.entries := by
  rw [(find_eq_ok.1 h).2]
  generalize d.entries = entries
  induction entries with
  | nil => simp
  | cons e entries ih =>
      rw [List.filterMap_cons]
      cases owner? name e.1 with
      | none => exact ih.cons e
      | some pid => exact ih.cons_cons e

/-- What is gone after a segment was created, or was to be, was stale. -/
theorem stale_of_removed {size : Nat} {e : String × Nat} (he : e ∈ d.entries)
    (hgone : e ∉ (d.create name size).directory.entries) : d.Stale name e.1 := by
  cases hresult : (d.create name size).result with
  | error fault => exact (create_error hresult).1.stale e he hgone
  | ok w =>
      obtain ⟨-, hdirectory, hfree⟩ := create_ok hresult
      cases howner : owner? name e.1 with
      | some pid => exact (d.owned_or_stale howner).resolve_left (hfree e he)
      | none => -- files of other segments stay
          rw [hdirectory] at hgone
          refine absurd (List.mem_append_left _ (List.mem_filter.2 ⟨he, ?_⟩)) hgone
          simpa using howner

/-- **Which files are taken for a segment's.** In a directory that can be read, looking for the
files of a segment finds entries of the directory, in their order and none twice: those that are the
segment's by the rule, each with its owner, and those with a sign before the number. So it keeps the
rule just where no name has a sign there. When a process creates the segment it removes none but
such files, and only those of processes that do not run. -/
theorem recognized_iff (name : String) (hreads : d.fault = none) :
    ∃ ms, d.find name = .ok ms ∧
      (ms.map fun m => (m.file, m.number)).Sublist d.entries ∧
      (∀ m, m ∈ ms ↔ (m.file, m.number) ∈ d.entries ∧
        (Belongs name m.file m.pid ∨ Marked name m.file m.pid)) ∧
      ((∀ m, m ∈ ms ↔ (m.file, m.number) ∈ d.entries ∧ Belongs name m.file m.pid) ↔
        ∀ e ∈ d.entries, ∀ pid, ¬Marked name e.1 pid) ∧
      ∀ size, ∀ e ∈ d.entries, e ∉ (d.create name size).directory.entries →
        ∃ pid, (Belongs name e.1 pid ∨ Marked name e.1 pid) ∧
          pid ≠ d.self ∧ d.alive pid = false := by
  obtain ⟨ms, hfind⟩ : ∃ ms, d.find name = .ok ms := ⟨_, find_eq_ok.2 ⟨hreads, rfl⟩⟩
  have hmem : ∀ m, m ∈ ms ↔ (m.file, m.number) ∈ d.entries ∧
      (Belongs name m.file m.pid ∨ Marked name m.file m.pid) := by
    intro m
    rw [mem_find_iff hfind, owner?_eq_some_iff]
  -- the rule fails exactly on entries with a plus sign, since the two readings exclude each other
  refine ⟨ms, hfind, ?_, hmem, ⟨?_, ?_⟩, ?_⟩
  · exact found_sublist hfind
  · intro hrule e he pid hmarked
    have hfound := (hmem ⟨e.1, pid, e.2⟩).2 ⟨he, .inr hmarked⟩
    exact hmarked.not_belongs ((hrule _).1 hfound).2
  · intro hnone m
    rw [hmem]
    exact and_congr_right fun he => or_iff_left (hnone _ he _)
  · intro size e he hgone
    obtain ⟨pid, howner, hself, hdead⟩ := stale_of_removed he hgone
    exact ⟨pid, owner?_eq_some_iff.1 howner, hself, hdead⟩

/-- Names like those of the segment `p`; the only process that runs is the one that acts. -/
def neighbours : Directory where
  root := ""
  self := 7
  alive := fun pid => pid = 7
  entries := [("hmi_p_", 0), ("hmi_p_004194305", 1), ("hmi_p_q_4194305", 2),
    ("hmi_p_-4194305", 3), ("hmi_p_4294967296", 4), ("hmi_p_+4194305", 5)]
  files := List.replicate 6 { length := 4224 }

/-- Of these names one is the segment's by the rule. -/
theorem belongs_neighbours : Belongs "p" "hmi_p_004194305" 4194305 :=
  ruled?_eq_some_iff.1 (by decide +kernel)

/-- Another one has a sign. -/
theorem marked_neighbours : Marked "p" "hmi_p_+4194305" 4194305 :=
  ⟨"4194305", rfl, Text.digits?_eq_some_iff.1 (by decide +kernel)⟩

/-- Both are found, so the rule is not kept. -/
theorem recognized_iff_neighbours :
    neighbours.fault = none ∧ ∃ ms, neighbours.find "p" = .ok ms ∧
      ⟨"hmi_p_004194305", 4194305, 1⟩ ∈ ms ∧ ⟨"hmi_p_+4194305", 4194305, 5⟩ ∈ ms ∧
      ¬∀ m, m ∈ ms ↔ (m.file, m.number) ∈ neighbours.entries ∧ Belongs "p" m.file m.pid := by
  obtain ⟨ms, hfind, -, hmem, hexact, -⟩ := recognized_iff (d := neighbours) "p" rfl
  refine ⟨rfl, ms, hfind, (hmem _).2 ⟨by decide, .inl belongs_neighbours⟩,
    (hmem _).2 ⟨by decide, .inr marked_neighbours⟩, fun hrule => ?_⟩
  exact hexact.1 hrule ("hmi_p_+4194305", 5) (by decide) _ marked_neighbours

/-- **A file that is no segment's is taken for one that was left behind**, and is removed when the
segment is created, together with the one that was. -/
theorem takes_marked :
    (∃ ms, neighbours.find "p" = .ok ms ∧ ⟨"hmi_p_+4194305", 4194305, 5⟩ ∈ ms) ∧
      (∀ pid, ¬Belongs "p" "hmi_p_+4194305" pid) ∧
      (∃ w, (neighbours.create "p" 4096).result = .ok w) ∧
      (neighbours.create "p" 4096).directory.entries.map (·.1)
        = ["hmi_p_", "hmi_p_q_4194305", "hmi_p_-4194305", "hmi_p_4294967296", "hmi_p_7"] := by
  have hname : fileName "p" neighbours.self = "hmi_p_7" := by decide +kernel
  have htakes : neighbours.takes "p" = true :=
    takes_of_name hname rfl rfl (by decide +kernel) (by simp) (by decide +kernel)
  obtain ⟨w, hw⟩ : ∃ w, (neighbours.create "p" 4096).result = .ok w :=
    (create_iff htakes).2 ⟨by decide, by decide +kernel⟩
  refine ⟨⟨_, find_eq_ok.2 ⟨rfl, rfl⟩, by decide +kernel⟩,
    fun pid => marked_neighbours.not_belongs, ⟨w, hw⟩, ?_⟩
  rw [(create_ok hw).2.1]
  decide +kernel

end Directory
end OperatorPanel
