import OperatorPanel.Pin.Output
import OperatorPanel.Proofs.NamedSamples

/-!
# Names of outputs

The names of the output pins depend on the number of joints only: nineteen names that exist once
(`OutputPins.onceNames`) and six for each joint, which have its numeral between two dots
(`JointPins.fullName`). No two of them are the same (`OutputPins.nodup_names`), the values under
them determine the outputs (`OutputPins.named_inj`), and none is the name of an input
(`OutputPins.parse?_name`).
-/

namespace OperatorPanel

open Text

/-! ### One joint -/

namespace JointPins

/-- What stands behind the numeral in the names of a joint. -/
def signals : List String :=
  ["is-homed", "has-fault", "on-soft-min-limit", "on-soft-max-limit", "on-hard-min-limit",
    "on-hard-max-limit"]

/-- The name of a signal of a joint. -/
def fullName (index : Nat) (signal : String) : String :=
  pinNamespace ++ ".joint." ++ decimal index ++ "." ++ signal

theorem map_name_named (joint : JointPins) (index : Nat) :
    (joint.named index).map (·.name) = signals.map (fullName index) := rfl

theorem toList_fullName (index : Nat) (signal : String) :
    (fullName index signal).toList
      = "halui.".toList ++
          ("joint".toList ++ '.' :: ((decimal index).toList ++ '.' :: signal.toList)) := by
  simp [fullName, pinNamespace]

/-- The numeral ends at the next dot. -/
theorem fullName_inj {m n : Nat} {s t : String} (h : fullName m s = fullName n t) :
    m = n ∧ s = t := by
  have hlist := congrArg String.toList h
  simp only [toList_fullName, List.append_cancel_left_eq, List.cons.injEq, true_and] at hlist
  obtain ⟨hdigits, hsignal⟩ :=
    eq_of_append_sep (dot_not_mem_decimal m) (dot_not_mem_decimal n) hlist
  exact ⟨decimal_inj (String.toList_inj.1 hdigits), String.toList_inj.1 hsignal⟩

theorem named_inj {a b : JointPins} {index : Nat} (h : a.named index = b.named index) : a = b := by
  cases a
  cases b
  simp only [named, List.cons.injEq, NamedPin.mk.injEq, PinValue.bit.injEq, true_and, and_true] at h
  simp only [mk.injEq]
  exact h

/-- An input of an axis has another signal. -/
theorem parse?_fullName {index : Nat} {signal : String} (hsignal : signal ∈ signals) :
    InputPin.parse? (fullName index signal) = none := by
  apply Option.eq_none_iff_forall_ne_some.2
  intro pin hpin
  obtain ⟨label, hlabel, hnames⟩ := InputPin.parse?_eq_some_iff.1 hpin
  rw [toList_fullName, List.append_cancel_left_eq] at hlabel
  cases hnames with
  -- the three forms of a label: a fixed one has too few dots, the other two another group or signal
  | control c =>
      have hdots := c.label_plain.1
      rw [← hlabel] at hdots
      simp only [List.count_append, List.count_cons_self] at hdots
      omega
  | line _ _ => cases hlabel
  | @axis a ds n hn _ =>
      have hjoint : '.' ∉ "joint".toList := by decide
      have hdot : '.' ∉ ds := hn.not_mem (by decide) (by decide)
      obtain ⟨_, hrest⟩ := eq_of_append_sep hjoint (InputPin.dot_not_mem_group a) hlabel
      obtain ⟨_, hsame⟩ := eq_of_append_sep (dot_not_mem_decimal index) hdot hrest
      have hother : ∀ a ∈ AxisControl.all, a.signal ∉ signals := by decide
      rw [String.toList_inj.1 hsame] at hsignal
      exact hother a a.mem_all hsignal

end JointPins

/-! ### All outputs -/

namespace OutputPins

/-- The names of the pins that exist once. -/
def onceNames : List String := (namedOnce {}).map (·.name)

theorem map_name_namedOnce (out : OutputPins) : out.namedOnce.map (·.name) = onceNames := by
  simp only [onceNames, namedOnce, List.map_cons, List.map_nil]

theorem map_name_namedJoints (index : Nat) (joints : List JointPins) :
    (namedJoints index joints).map (·.name)
      = (List.range' index joints.length).flatMap fun n =>
          JointPins.signals.map (JointPins.fullName n) := by
  induction joints generalizing index with
  | nil => rfl
  | cons joint joints ih =>
      rw [namedJoints, List.map_append, ih, JointPins.map_name_named, List.length_cons,
        List.range'_succ, List.flatMap_cons]

/-- Names of joints have a dot more than the others. -/
theorem fullName_not_mem_onceNames (index : Nat) (signal : String) :
    JointPins.fullName index signal ∉ onceNames := by
  have hall : ∀ name ∈ onceNames, name.toList.count '.' = 2 := by decide +kernel
  intro hmem
  have hdots := hall _ hmem
  rw [JointPins.toList_fullName] at hdots
  simp only [List.count_append, List.count_cons_self] at hdots
  have hfirst : "halui.".toList.count '.' = 1 := by decide
  omega

theorem nodup_names (out : OutputPins) : (out.named.map (·.name)).Nodup := by
  -- the names that exist once are finitely many; those of the axes differ by number and signal
  have honce : onceNames.Nodup := by decide +kernel
  have hsignals : JointPins.signals.Nodup := by decide
  rw [named, List.map_append, map_name_namedOnce, map_name_namedJoints]
  apply List.nodup_append.2
  refine ⟨honce, ?_, ?_⟩
  · apply List.pairwise_flatMap.2
    constructor
    · intro n _
      refine List.pairwise_map.2 (hsignals.imp ?_)
      intro s t hst heq
      exact hst (JointPins.fullName_inj heq).2
    · refine List.Pairwise.imp ?_ List.nodup_range'
      intro m n hmn x hx y hy hxy
      obtain ⟨s, _, rfl⟩ := List.mem_map.1 hx
      obtain ⟨t, _, rfl⟩ := List.mem_map.1 hy
      exact hmn (JointPins.fullName_inj hxy).1
  · -- and no name of an axis is one of those
    intro name hmem other hother heq
    obtain ⟨n, _, hn⟩ := List.mem_flatMap.1 hother
    obtain ⟨s, _, rfl⟩ := List.mem_map.1 hn
    rw [heq] at hmem
    exact fullName_not_mem_onceNames n s hmem

/-! ### Values -/

theorem namedJoints_inj {as bs : List JointPins} {index : Nat}
    (h : namedJoints index as = namedJoints index bs) : as = bs := by
  induction as generalizing index bs with
  | nil =>
      cases bs with
      | nil => rfl
      | cons b bs => cases h
  | cons a as ih =>
      cases bs with
      | nil => cases h
      | cons b bs =>
          obtain ⟨hfirst, hrest⟩ := List.append_inj h rfl
          rw [JointPins.named_inj hfirst, ih hrest]

/-- **Named values determine the outputs.** -/
theorem named_inj {a b : OutputPins} (h : a.named = b.named) : a = b := by
  obtain ⟨honce, hjoints⟩ := List.append_inj h rfl
  have hjoints := namedJoints_inj hjoints
  cases a
  cases b
  simp only [namedOnce, List.cons.injEq, NamedPin.mk.injEq, PinValue.bit.injEq, PinValue.word.injEq,
    PinValue.float.injEq, true_and, and_true] at honce
  simp only [mk.injEq]
  simp only at hjoints
  simp [honce, hjoints]

/-- **No output has the name of an input.** -/
theorem parse?_name (out : OutputPins) {pin : NamedPin} (h : pin ∈ out.named) :
    InputPin.parse? pin.name = none := by
  have hname : pin.name ∈ out.named.map (·.name) := List.mem_map_of_mem h
  rw [named, List.map_append, map_name_namedOnce, map_name_namedJoints] at hname
  rcases List.mem_append.1 hname with honce | hjoint
  · have hall : ∀ name ∈ onceNames, InputPin.parse? name = none := by decide +kernel
    exact hall pin.name honce
  · obtain ⟨n, _, hn⟩ := List.mem_flatMap.1 hjoint
    obtain ⟨signal, hsignal, hfull⟩ := List.mem_map.1 hn
    rw [← hfull]
    exact JointPins.parse?_fullName hsignal

end OutputPins
end OperatorPanel
