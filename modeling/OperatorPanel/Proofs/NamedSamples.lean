import Mathlib.Data.List.Nodup
import OperatorPanel.Proofs.PinNames

/-!
# Samples of named values

The main result `InputSample.sample_of_named` says what a list of named values leaves behind: for
every pin the value of the last entry that names it (`NamedPin.Latest`), in whichever spelling, and
the names that stand for no pin. Where no pin is named twice the order of the list does not matter.

A sample is determined by what it says about the pins (`InputSample.ext_get?`), so that two lists
are compared pin by pin.
-/

namespace OperatorPanel

/-! ### A sample and its values -/

namespace InputSample

theorem nodup_pins (sample : InputSample) : (sample.entries.map (·.1)).Nodup := by
  refine List.pairwise_map.2 (sample.sorted.imp ?_)
  intro a b hlt heq
  rw [heq] at hlt
  exact Nat.lt_irrefl _ hlt

theorem mem_entries_iff {sample : InputSample} {pin : InputPin} {value : PinValue} :
    (pin, value) ∈ sample.entries ↔ sample.get? pin = some value := by
  rw [get?, Option.map_eq_some_iff]
  constructor
  · intro hmem
    -- an entry for the pin is found; as no two entries share a pin, it is this one
    have hfound : ∃ e, sample.entries.find? (·.1 = pin) = some e := by
      apply Option.isSome_iff_exists.1
      rw [List.find?_isSome]
      exact ⟨_, hmem, by simp⟩
    obtain ⟨e, he⟩ := hfound
    have hpin : e.1 = pin := by simpa using List.find?_some he
    have hsame : e = (pin, value) :=
      List.inj_on_of_nodup_map sample.nodup_pins (List.mem_of_find?_eq_some he) hmem hpin
    exact ⟨e, he, by rw [hsame]⟩
  · rintro ⟨e, he, rfl⟩
    have hpin : e.1 = pin := by simpa using List.find?_some he
    rw [← hpin]
    exact List.mem_of_find?_eq_some he

/-- Samples with the same values are equal. -/
theorem ext_get? {a b : InputSample} (h : ∀ pin, a.get? pin = b.get? pin) : a = b := by
  have hperm : a.entries.Perm b.entries := by
    apply (List.perm_ext_iff_of_nodup a.nodup_pins.of_map b.nodup_pins.of_map).2
    rintro ⟨pin, value⟩
    rw [mem_entries_iff, mem_entries_iff, h pin]
  have hentries : a.entries = b.entries := by
    apply hperm.eq_of_pairwise _ a.sorted b.sorted
    intro x y _ _ hxy hyx
    exact absurd (Nat.lt_trans hxy hyx) (Nat.lt_irrefl _)
  cases a
  cases b
  cases hentries
  rfl

end InputSample

/-! ### The last entry of a pin -/

namespace NamedPin

/-- The entry stands for this pin. -/
def Stands (entry : NamedPin) (pin : InputPin) : Prop := InputPin.parse? entry.name = some pin

instance (entry : NamedPin) (pin : InputPin) : Decidable (entry.Stands pin) :=
  inferInstanceAs (Decidable (_ = _))

/-- The last entry that names the pin has this value. -/
def Latest (pins : List NamedPin) (pin : InputPin) (value : PinValue) : Prop :=
  ∃ front last back, pins = front ++ last :: back ∧ last.Stands pin ∧ last.value = value ∧
    ∀ later ∈ back, ¬later.Stands pin

/-- No pin is named twice, by whichever names. -/
def NamedOnce (pins : List NamedPin) : Prop :=
  pins.Pairwise fun a b => ∀ pin, a.Stands pin → ¬b.Stands pin

theorem NamedOnce.perm {pins pins' : List NamedPin} (h : NamedOnce pins) (hperm : pins'.Perm pins) :
    NamedOnce pins' := by
  apply (hperm.pairwise_iff _).2 h
  intro a b hab pin hb ha
  exact hab pin ha hb

/-- Where no pin is named twice, any entry of a pin is the last one. -/
theorem NamedOnce.latest_iff {pins : List NamedPin} (h : NamedOnce pins) {pin : InputPin}
    {value : PinValue} :
    Latest pins pin value ↔ ∃ entry ∈ pins, entry.Stands pin ∧ entry.value = value := by
  constructor
  · rintro ⟨front, last, back, rfl, hlast, hvalue, -⟩
    exact ⟨last, by simp, hlast, hvalue⟩
  · rintro ⟨entry, hmem, hentry, hvalue⟩
    obtain ⟨front, back, rfl⟩ := List.append_of_mem hmem
    refine ⟨front, entry, back, rfl, hentry, hvalue, ?_⟩
    have hback := (List.pairwise_cons.1 (List.pairwise_append.1 h).2.1).1
    intro later hlater
    exact hback later hlater pin hentry

end NamedPin

/-! ### What a list leaves behind -/

namespace InputSample

open NamedPin

theorem get?_add (found : Named) (entry : NamedPin) (pin : InputPin) :
    (found.add entry).sample.get? pin
      = if entry.Stands pin then some entry.value else found.sample.get? pin := by
  cases hparse : InputPin.parse? entry.name with
  | none => simp [Named.add, NamedPin.Stands, hparse]
  | some p => simp [Named.add, NamedPin.Stands, hparse]

/-- The last entry is found first from behind. -/
theorem get?_ofNamed (pins : List NamedPin) (pin : InputPin) :
    (ofNamed pins).sample.get? pin
      = (pins.reverse.find? fun entry => entry.Stands pin).map (·.value) := by
  -- what the fold starts with shows through where no entry names the pin
  have hfold (found : Named) :
      (pins.foldl Named.add found).sample.get? pin
        = ((pins.reverse.find? fun entry => entry.Stands pin).map (·.value)).or
            (found.sample.get? pin) := by
    induction pins generalizing found with
    | nil => simp
    | cons entry pins ih =>
        rw [List.foldl_cons, ih, get?_add, List.reverse_cons, List.find?_append,
          List.find?_singleton]
        by_cases hentry : entry.Stands pin
        · simp [hentry]
        · simp [hentry]
  rw [ofNamed, hfold, get?_empty, Option.or_none]

theorem get?_ofNamed_eq_some_iff {pins : List NamedPin} {pin : InputPin} {value : PinValue} :
    (ofNamed pins).sample.get? pin = some value ↔ Latest pins pin value := by
  rw [get?_ofNamed, Option.map_eq_some_iff]
  constructor
  · -- the last that stands for the pin is the first one in the reversed list
    rintro ⟨last, hlast, rfl⟩
    obtain ⟨hstands, later, earlier, hpins, hlater⟩ := List.find?_eq_some_iff_append.1 hlast
    refine ⟨earlier.reverse, last, later.reverse, ?_, by simpa using hstands, rfl, ?_⟩
    · rw [← List.reverse_reverse pins, hpins]
      simp
    · intro entry hentry
      simpa using hlater entry (List.mem_reverse.1 hentry)
  · rintro ⟨front, last, back, rfl, hlast, rfl, hback⟩
    refine ⟨last, ?_, rfl⟩
    apply List.find?_eq_some_iff_append.2
    refine ⟨by simpa using hlast, back.reverse, front.reverse, by simp, ?_⟩
    intro entry hentry
    simpa using hback entry (List.mem_reverse.1 hentry)

theorem get?_ofNamed_eq_none_iff {pins : List NamedPin} {pin : InputPin} :
    (ofNamed pins).sample.get? pin = none ↔ ∀ entry ∈ pins, ¬entry.Stands pin := by
  rw [get?_ofNamed, Option.map_eq_none_iff, List.find?_eq_none]
  simp

/-- **Named values give an empty sample just when none of the names is that of a pin.** -/
theorem ofNamed_eq_empty_iff (pins : List NamedPin) :
    (ofNamed pins).sample = .empty ↔ ∀ entry ∈ pins, InputPin.parse? entry.name = none := by
  constructor
  · intro h entry hentry
    apply Option.eq_none_iff_forall_ne_some.2
    intro pin hpin
    have hnone : (ofNamed pins).sample.get? pin = none := by rw [h, get?_empty]
    exact get?_ofNamed_eq_none_iff.1 hnone entry hentry hpin
  · intro h
    apply ext_get?
    intro pin
    rw [get?_empty]
    apply get?_ofNamed_eq_none_iff.2
    intro entry hentry hpin
    cases (h entry hentry).symm.trans hpin

theorem sample_of_perm {pins pins' : List NamedPin} (h : NamedOnce pins) (hperm : pins'.Perm pins) :
    (ofNamed pins').sample = (ofNamed pins).sample := by
  apply ext_get?
  intro pin
  apply Option.ext
  intro value
  rw [get?_ofNamed_eq_some_iff, get?_ofNamed_eq_some_iff, (h.perm hperm).latest_iff, h.latest_iff]
  simp only [hperm.mem_iff]

/-- **The sample of a list of named values.** Each pin has the value of the last entry that names
it, and none if there is no such entry; the names that stand for no pin are listed as they come.
Hence the order of a list that names no pin twice does not matter, and the name that a pin of a
machine is given is never unknown. -/
theorem sample_of_named (pins : List NamedPin) :
    (∀ pin value, (ofNamed pins).sample.get? pin = some value ↔ Latest pins pin value) ∧
    (∀ pin, (ofNamed pins).sample.get? pin = none ↔ ∀ entry ∈ pins, ¬entry.Stands pin) ∧
    (ofNamed pins).unknown
      = (pins.map (·.name)).filter (fun name => (InputPin.parse? name).isNone) ∧
    (NamedOnce pins → ∀ pins', pins'.Perm pins →
      (ofNamed pins').sample = (ofNamed pins).sample) ∧
    (∀ axes lines, ∀ pin ∈ InputPin.registered axes lines, pin.name ∉ (ofNamed pins).unknown) := by
  refine ⟨?_, ?_, unknown_ofNamed pins, ?_, ?_⟩
  · intro pin value
    exact get?_ofNamed_eq_some_iff
  · intro pin
    exact get?_ofNamed_eq_none_iff
  · intro h pins' hperm
    exact sample_of_perm h hperm
  · intro axes lines pin hpin hunknown
    have hparse := InputPin.parse?_eq_some_iff.2 (InputPin.names_of_registered hpin)
    rw [(mem_unknown_iff.1 hunknown).1] at hparse
    cases hparse

/-- The plus pin of the second axis under two names: whichever comes last is heard. -/
theorem sample_of_named_aliased :
    let pressed : NamedPin := ⟨"halui.jog.1.plus", .bit true⟩
    let released : NamedPin := ⟨"halui.jog.01.plus", .bit false⟩
    let other : NamedPin := ⟨"halui.jog.0.plus", .bit true⟩
    (ofNamed [pressed, ⟨"halui.jog", .bit true⟩, released]).sample.get? (.axis .jogPlus 1)
        = some (.bit false) ∧
      (ofNamed [other, pressed]).sample = (ofNamed [pressed, other]).sample := by
  intro pressed released other
  constructor
  · apply ((sample_of_named _).1 _ _).2
    refine ⟨[pressed, ⟨"halui.jog", .bit true⟩], released, [], rfl, ?_, rfl, by simp⟩
    decide +kernel
  · have hpressed : pressed.Stands (.axis .jogPlus 1) := by decide +kernel
    have hother : other.Stands (.axis .jogPlus 0) := by decide +kernel
    apply (sample_of_named [pressed, other]).2.2.2.1 _ _ (List.Perm.swap ..)
    refine List.pairwise_pair.2 ?_
    intro pin h h'
    cases Option.some.inj (hpressed.symm.trans h)
    cases hother.symm.trans h'

end InputSample
end OperatorPanel
