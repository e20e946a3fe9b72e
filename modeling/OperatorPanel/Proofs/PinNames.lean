import Mathlib.Data.List.Nodup
import OperatorPanel.Pin.Sample
import OperatorPanel.Proofs.Numerals

/-!
# Names of pins

Below `halui`, a name is one of the labels of the controls, a numeral behind `mdi-command-`, or a
numeral between the group and the signal of an axis control (`InputPin.Labels`). A pin with an index
has many names, since a numeral may have a plus sign and leading zeros; a name has one pin.

The main result is `InputPin.names_read`: the reader takes these names and no others. Its three
stages do not get into each other's way: no label of a control starts as the names of lines do, and
none has two dots.
-/

namespace OperatorPanel

open Text

/-! ### The labels of controls -/

namespace Control

theorem nodup_labels : (all.map label).Nodup := by simp [all, label]

theorem label_inj {c d : Control} (h : c.label = d.label) : c = d :=
  List.inj_on_of_nodup_map nodup_labels c.mem_all d.mem_all h

theorem find?_label_eq_some_iff {cs : List Char} {c : Control} :
    all.find? (·.label.toList == cs) = some c ↔ cs = c.label.toList := by
  constructor
  · intro h
    have hlabel := List.find?_some h
    exact (beq_iff_eq.1 hlabel).symm
  · rintro rfl
    cases hfound : all.find? (·.label.toList == c.label.toList) with
    | none =>
        have hmissing := List.find?_eq_none.1 hfound c c.mem_all
        exact absurd (beq_self_eq_true _) hmissing
    | some d =>
        have hlabel := List.find?_some hfound
        rw [label_inj (String.toList_inj.1 (beq_iff_eq.1 hlabel))]

/-- No label has two dots, and none starts as the names of lines do. -/
theorem label_plain (c : Control) : c.label.toList.count '.' ≤ 1 ∧
    after? "mdi-command-".toList c.label.toList = none := by
  have hall : ∀ c ∈ all, c.label.toList.count '.' ≤ 1 ∧
      after? "mdi-command-".toList c.label.toList = none := by
    decide +kernel
  exact hall c c.mem_all

theorem label_ne_line (c : Control) (ds : List Char) :
    c.label.toList ≠ "mdi-command-".toList ++ ds := by
  intro h
  have hafter := c.label_plain.2
  rw [after?_eq_some_iff.2 h] at hafter
  cases hafter

end Control

/-! ### The grammar -/

namespace InputPin

/-- What stands below `halui` in the names of a pin. -/
inductive Labels : List Char → InputPin → Prop
  | control (c : Control) : Labels c.label.toList (.control c)
  | line {ds : List Char} {n : Nat} : Numeral ds n → n < maxLines →
      Labels ("mdi-command-".toList ++ ds) (.line (UInt8.ofNat n))
  | axis (a : AxisControl) {ds : List Char} {n : Nat} : Numeral ds n → n < maxAxes →
      Labels (a.group.toList ++ '.' :: (ds ++ '.' :: a.signal.toList)) (.axis a (UInt8.ofNat n))

/-- The names of a pin. -/
def Names (s : String) (pin : InputPin) : Prop :=
  ∃ label, s.toList = "halui.".toList ++ label ∧ Labels label pin

/-! ### The stages of the reader -/

theorem index?_eq_some_iff {limit : Nat} {cs : List Char} {index : UInt8} :
    index? limit cs = some index ↔ ∃ n, Numeral cs n ∧ n < limit ∧ index = UInt8.ofNat n := by
  rw [index?, Option.bind_eq_some_iff]
  constructor
  · rintro ⟨n, hn, hindex⟩
    split at hindex
    · next hlt =>
        cases hindex
        exact ⟨n, unsigned?_eq_some_iff.1 hn, hlt, rfl⟩
    · cases hindex
  · rintro ⟨n, hn, hlt, rfl⟩
    exact ⟨n, unsigned?_eq_some_iff.2 hn, if_pos hlt⟩

/-- No dot stands in the group of an axis control. -/
theorem dot_not_mem_group (a : AxisControl) : '.' ∉ a.group.toList := by cases a <;> decide

theorem find?_group_signal (a : AxisControl) :
    (AxisControl.all.find? fun b =>
      b.group.toList == a.group.toList && b.signal.toList == a.signal.toList) = some a := by
  cases a <;> rfl

theorem axisOf?_eq_some_iff {cs : List Char} {pin : InputPin} :
    axisOf? cs = some pin ↔ ∃ (a : AxisControl) (ds : List Char) (n : Nat),
      cs = a.group.toList ++ '.' :: (ds ++ '.' :: a.signal.toList) ∧ Numeral ds n ∧
        n < maxAxes ∧ pin = .axis a (UInt8.ofNat n) := by
  simp only [axisOf?, Option.bind_eq_some_iff, Option.map_eq_some_iff, Prod.exists]
  constructor
  · -- both cuts are at the first dot, and neither the group nor the digits hold one
    rintro ⟨group, rest, hgroup, ds, signal, hsignal, index, hindex, a, ha, rfl⟩
    obtain ⟨rfl, -⟩ := cut?_eq_some_iff.1 hgroup
    obtain ⟨rfl, -⟩ := cut?_eq_some_iff.1 hsignal
    obtain ⟨n, hn, hlt, rfl⟩ := index?_eq_some_iff.1 hindex
    have hwords := List.find?_some ha
    simp only [Bool.and_eq_true, beq_iff_eq] at hwords
    rw [← hwords.1, ← hwords.2]
    exact ⟨a, ds, n, rfl, hn, hlt, rfl⟩
  · rintro ⟨a, ds, n, rfl, hn, hlt, rfl⟩
    have hdot : '.' ∉ ds := hn.not_mem (by decide) (by decide)
    exact ⟨_, _, cut?_eq_some_iff.2 ⟨rfl, dot_not_mem_group a⟩, _, _,
      cut?_eq_some_iff.2 ⟨rfl, hdot⟩, _, index?_eq_some_iff.2 ⟨n, hn, hlt, rfl⟩, a,
      find?_group_signal a, rfl⟩

/-- The names of axes have two dots. -/
theorem label_ne_axis (c : Control) (a : AxisControl) (ds : List Char) :
    c.label.toList ≠ a.group.toList ++ '.' :: (ds ++ '.' :: a.signal.toList) := by
  intro h
  have hcount := c.label_plain.1
  rw [h] at hcount
  simp only [List.count_append, List.count_cons_self] at hcount
  omega

/-- Nor do they start as the names of lines do. -/
theorem after?_axis (a : AxisControl) (rest : List Char) :
    after? "mdi-command-".toList (a.group.toList ++ rest) = none := by
  cases a <;> rfl

/-- **What is read below `halui`**: the labels of the grammar. -/
theorem ofLabel?_eq_some_iff {cs : List Char} {pin : InputPin} :
    ofLabel? cs = some pin ↔ Labels cs pin := by
  constructor
  · -- the three ways to read a label are tried in order
    intro h
    unfold ofLabel? at h
    split at h
    · next c hc =>
        cases h
        rw [Control.find?_label_eq_some_iff.1 hc]
        exact .control c
    · split at h
      · next ds hds =>
          rw [after?_eq_some_iff.1 hds]
          obtain ⟨index, hindex, rfl⟩ := Option.map_eq_some_iff.1 h
          obtain ⟨n, hn, hlt, rfl⟩ := index?_eq_some_iff.1 hindex
          exact .line hn hlt
      · obtain ⟨a, ds, n, rfl, hn, hlt, rfl⟩ := axisOf?_eq_some_iff.1 h
        exact .axis a hn hlt
  · intro h
    -- a label that is no fixed one falls through to the ways below
    have fixed (hnone : ∀ c : Control, cs ≠ c.label.toList) :
        Control.all.find? (·.label.toList == cs) = none :=
      Option.eq_none_iff_forall_ne_some.2 fun c hc =>
        hnone c (Control.find?_label_eq_some_iff.1 hc)
    cases h with
    | control c => rw [ofLabel?, Control.find?_label_eq_some_iff.2 rfl]
    | @line ds n hn hlt =>
        rw [ofLabel?, fixed fun c => (c.label_ne_line ds).symm]
        dsimp only
        rw [after?_eq_some_iff.2 rfl]
        dsimp only
        rw [index?_eq_some_iff.2 ⟨n, hn, hlt, rfl⟩]
        rfl
    | @axis a ds n hn hlt =>
        rw [ofLabel?, fixed fun c => (label_ne_axis c a ds).symm]
        dsimp only
        rw [after?_axis]
        exact axisOf?_eq_some_iff.2 ⟨a, ds, n, rfl, hn, hlt, rfl⟩

theorem parse?_eq_some_iff {s : String} {pin : InputPin} :
    parse? s = some pin ↔ Names s pin := by
  simp only [parse?, Option.bind_eq_some_iff, after?_eq_some_iff, ofLabel?_eq_some_iff]
  rfl

/-! ### The names that pins are given -/

/-- **A pin that has names is given one of them.** -/
theorem Labels.names_name {cs : List Char} {pin : InputPin} (h : Labels cs pin) :
    Names pin.name pin := by
  have hname : pin.name.toList = "halui.".toList ++ pin.label.toList := by
    simp [name, pinNamespace]
  refine ⟨pin.label.toList, hname, ?_⟩
  cases h with
  | control c => exact .control c
  | @line ds n hn hlt => -- in two digits or more, the index reads back as the same number
      have hindex : (UInt8.ofNat n).toNat = n :=
        UInt8.toNat_ofNat_of_lt' (Nat.lt_trans hlt (by decide))
      rw [label, hindex, String.toList_append]
      exact .line (numeral_decimalPair n) hlt
  | @axis a ds n hn hlt =>
      have hindex : (UInt8.ofNat n).toNat = n :=
        UInt8.toNat_ofNat_of_lt' (Nat.lt_trans hlt (by decide))
      have hlabel : (label (.axis a (UInt8.ofNat n))).toList
          = a.group.toList ++ '.' :: ((decimal n).toList ++ '.' :: a.signal.toList) := by
        simp [label, hindex]
      rw [hlabel]
      exact .axis a (numeral_decimal n) hlt

/-- Every pin of a machine has names. -/
theorem names_of_registered {axes lines : Nat} {pin : InputPin} (h : pin ∈ registered axes lines) :
    Names pin.name pin := by
  rcases mem_registered.1 h with ⟨c, rfl⟩ | ⟨a, n, hn, rfl⟩ | ⟨n, hn, rfl⟩
  · exact (Labels.control c).names_name
  · have haxis : n < maxAxes := Nat.lt_of_lt_of_le hn (Nat.min_le_right ..)
    exact (Labels.axis a (numeral_decimal n) haxis).names_name
  · have hline : n < maxLines := Nat.lt_of_lt_of_le hn (Nat.min_le_right ..)
    exact (Labels.line (numeral_decimal n) hline).names_name

end InputPin

/-! ### Names that stand for no pin -/

/-- The names that cannot be read are listed as they come. -/
theorem InputSample.unknown_ofNamed (pins : List NamedPin) :
    (ofNamed pins).unknown
      = (pins.map (·.name)).filter fun name => (InputPin.parse? name).isNone := by
  -- the fold may start with unknown names
  have hfold (found : Named) :
      (pins.foldl Named.add found).unknown
        = found.unknown ++ (pins.map (·.name)).filter fun name =>
            (InputPin.parse? name).isNone := by
    induction pins generalizing found with
    | nil => simp
    | cons pin pins ih =>
        rw [List.foldl_cons, ih, Named.add]
        cases hparse : InputPin.parse? pin.name with
        | none => simp [hparse]
        | some p => simp [hparse]
  exact hfold ⟨empty, []⟩

theorem InputSample.mem_unknown_iff {pins : List NamedPin} {name : String} :
    name ∈ (ofNamed pins).unknown ↔
      InputPin.parse? name = none ∧ ∃ pin ∈ pins, pin.name = name := by
  rw [unknown_ofNamed, List.mem_filter, List.mem_map, Option.isNone_iff_eq_none, and_comm]

namespace InputPin

/-- **The names of the grammar are read, each as its pin, and no others are**: these come back as
unknown. The name that a pin is given is read back as this pin. -/
theorem names_read :
    (∀ s pin, parse? s = some pin ↔ Names s pin) ∧
    (∀ s, parse? s = none ↔ ∀ pin, ¬Names s pin) ∧
    (∀ pins s, s ∈ (InputSample.ofNamed pins).unknown ↔
      (∀ pin, ¬Names s pin) ∧ ∃ pin ∈ pins, pin.name = s) ∧
    (∀ s pin pin', Names s pin → Names s pin' → pin = pin') ∧
    (∀ s pin, parse? s = some pin → parse? pin.name = some pin) := by
  have hnone (s : String) : parse? s = none ↔ ∀ pin, ¬Names s pin := by
    simp only [Option.eq_none_iff_forall_ne_some, ne_eq, parse?_eq_some_iff]
  refine ⟨fun s pin => parse?_eq_some_iff, hnone, fun pins s => ?_, fun s pin pin' h h' => ?_,
    fun s pin h => ?_⟩
  · rw [InputSample.mem_unknown_iff, hnone]
  · exact Option.some.inj ((parse?_eq_some_iff.2 h).symm.trans (parse?_eq_some_iff.2 h'))
  · obtain ⟨cs, -, hlabels⟩ := parse?_eq_some_iff.1 h
    exact parse?_eq_some_iff.2 hlabels.names_name

/-- A name that the pin itself is not given. -/
example : Names "halui.jog.+02.plus" (.axis .jogPlus 2) := by
  apply parse?_eq_some_iff.1
  decide +kernel

end InputPin
end OperatorPanel
