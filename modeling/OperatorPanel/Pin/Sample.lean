import OperatorPanel.Pin.Input
import OperatorPanel.Pin.Value

/-!
# Samples

One cycle's worth of input values. `InputSample` keeps at most one value per pin, in the order of
`InputPin.rank`; a pin without a value is inactive. Two samples with the same values are equal,
since there is only one way to list them.
-/

namespace OperatorPanel

namespace Control

theorem ctorIdx_lt (c : Control) : c.ctorIdx < 33 := by cases c <;> decide

theorem ctorIdx_inj {a b : Control} (h : a.ctorIdx = b.ctorIdx) : a = b := by
  rw [← Control.ofNat_ctorIdx a, ← Control.ofNat_ctorIdx b, h]

end Control

namespace AxisControl

theorem ctorIdx_lt (a : AxisControl) : a.ctorIdx < 6 := by cases a <;> decide

theorem ctorIdx_inj {a b : AxisControl} (h : a.ctorIdx = b.ctorIdx) : a = b := by
  rw [← AxisControl.ofNat_ctorIdx a, ← AxisControl.ofNat_ctorIdx b, h]

end AxisControl

/-- No two pins share a place. -/
theorem InputPin.rank_inj {p q : InputPin} (h : p.rank = q.rank) : p = q := by
  -- the ranks of the three sorts of pins lie in ranges of their own
  cases p with
  | control c =>
    have hc := c.ctorIdx_lt
    cases q with
    | control d => exact congrArg _ (Control.ctorIdx_inj h)
    | axis a n => simp only [rank] at h; omega
    | line n => simp only [rank] at h; omega
  | axis a n =>
    have ha := a.ctorIdx_lt
    have hn := n.toNat_lt
    cases q with
    | control d => have hd := d.ctorIdx_lt; simp only [rank] at h; omega
    | axis b m =>
      have hb := b.ctorIdx_lt
      have hm := m.toNat_lt
      simp only [rank] at h
      have h1 : a = b := AxisControl.ctorIdx_inj (by omega)
      have h2 : n = m := UInt8.toNat_inj.1 (by omega)
      rw [h1, h2]
    | line m => simp only [rank] at h; omega
  | line n =>
    cases q with
    | control d => have hd := d.ctorIdx_lt; simp only [rank] at h; omega
    | axis b m =>
      have hb := b.ctorIdx_lt
      have hm := m.toNat_lt
      simp only [rank] at h; omega
    | line m =>
      have h2 : n = m := UInt8.toNat_inj.1 (by simp only [rank] at h; omega)
      rw [h2]

namespace InputSample

/-- Put a value at the pin's place, over the one that stands there. -/
def insertEntry (pin : InputPin) (value : PinValue) :
    List (InputPin × PinValue) → List (InputPin × PinValue)
  | [] => [(pin, value)]
  | e :: es =>
    if pin.rank < e.1.rank then (pin, value) :: e :: es
    else if e.1.rank < pin.rank then e :: insertEntry pin value es
    else (pin, value) :: es

theorem mem_insertEntry {pin : InputPin} {value : PinValue} {e : InputPin × PinValue} :
    ∀ {es : List (InputPin × PinValue)}, e ∈ insertEntry pin value es → e = (pin, value) ∨ e ∈ es
  | [], h => by simpa [insertEntry] using h
  | d :: es, h => by
    unfold insertEntry at h
    split at h
    · simpa using h
    · split at h
      · rcases List.mem_cons.1 h with h | h
        · simp [h]
        · rcases mem_insertEntry h with h | h <;> simp [h]
      · rcases List.mem_cons.1 h with h | h <;> simp [h]

/-- The entries stand in rising order. -/
def Sorted (es : List (InputPin × PinValue)) : Prop :=
  es.Pairwise fun a b => a.1.rank < b.1.rank

theorem sorted_insertEntry {pin : InputPin} {value : PinValue} :
    ∀ {es : List (InputPin × PinValue)}, Sorted es → Sorted (insertEntry pin value es)
  | [], _ => by simp [insertEntry, Sorted]
  | d :: es, h => by
    have ⟨hd, hes⟩ := List.pairwise_cons.1 h
    unfold insertEntry
    split
    · -- it comes before all others
      next hlt =>
      refine List.pairwise_cons.2 ⟨fun e he => ?_, h⟩
      rcases List.mem_cons.1 he with rfl | he
      · exact hlt
      · exact Nat.lt_trans hlt (hd e he)
    · split
      · -- it comes somewhere behind the first
        next hgt =>
        refine List.pairwise_cons.2 ⟨fun e he => ?_, sorted_insertEntry hes⟩
        rcases mem_insertEntry he with rfl | he
        · exact hgt
        · exact hd e he
      · -- it takes the place of the first
        next h1 h2 =>
        refine List.pairwise_cons.2 ⟨fun e he => ?_, hes⟩
        have := hd e he
        show pin.rank < e.1.rank
        omega

end InputSample

/-- The values of some pins, at most one each. -/
structure InputSample where
  /-- The pins that have a value, in rising order of rank. -/
  entries : List (InputPin × PinValue)
  sorted : InputSample.Sorted entries
  deriving DecidableEq

namespace InputSample

/-- No pin has a value: all are inactive. -/
def empty : InputSample := ⟨[], .nil⟩

instance : Inhabited InputSample := ⟨empty⟩

/-- Give a pin a value. -/
def insert (sample : InputSample) (pin : InputPin) (value : PinValue) : InputSample :=
  ⟨insertEntry pin value sample.entries, sorted_insertEntry sample.sorted⟩

/-- The value of a pin, if it has one. -/
def get? (sample : InputSample) (pin : InputPin) : Option PinValue :=
  (sample.entries.find? (·.1 = pin)).map (·.2)

/-- Whether a pin is active. -/
def bit (sample : InputSample) (pin : InputPin) : Bool :=
  match sample.get? pin with
  | some value => value.asBit
  | none => false

/-- A pin's value as a number. -/
def float (sample : InputSample) (pin : InputPin) : Number :=
  match sample.get? pin with
  | some value => value.asFloat
  | none => 0

/-! ### The values through `get?` -/

theorem find?_insertEntry (pin q : InputPin) (value : PinValue) :
    ∀ {es : List (InputPin × PinValue)}, Sorted es →
      (insertEntry pin value es).find? (·.1 = q)
        = if pin = q then some (pin, value) else es.find? (·.1 = q)
  | [], _ => by simp [insertEntry, List.find?_cons]; split <;> simp_all
  | d :: es, h => by
    have ⟨hd, hes⟩ := List.pairwise_cons.1 h
    unfold insertEntry
    split
    · by_cases hq : pin = q <;> simp [hq]
    · split
      · -- behind the first entry, which is not the one for this pin
        next hgt =>
        rw [List.find?_cons, List.find?_cons, find?_insertEntry pin q value hes]
        by_cases hdq : d.1 = q
        · have : pin ≠ q := by rintro rfl; rw [hdq] at hgt; omega
          simp [hdq, this]
        · simp [hdq]
      · -- equal ranks: the first entry was for this pin
        next h1 h2 =>
        have hpd : pin = d.1 := InputPin.rank_inj (by omega)
        by_cases hq : pin = q
        · simp [hq]
        · simp [hq, ← hpd]

@[simp] theorem get?_insert (sample : InputSample) (pin q : InputPin) (value : PinValue) :
    (sample.insert pin value).get? q = if pin = q then some value else sample.get? q := by
  simp only [get?, insert, find?_insertEntry pin q value sample.sorted]
  split <;> simp_all

@[simp] theorem get?_empty (q : InputPin) : empty.get? q = none := rfl

/-! ### Samples from named values -/

/-- A sample, and the names met on the way that stand for no pin. -/
structure Named where
  sample : InputSample
  unknown : List String

/-- One more named value. -/
def Named.add (found : Named) (pin : NamedPin) : Named :=
  match InputPin.parse? pin.name with
  | some p => { found with sample := found.sample.insert p pin.value }
  | none => { found with unknown := found.unknown ++ [pin.name] }

/-- The sample of a list of named values: of several values of one pin the last one counts. The
names that stand for no pin are listed as they come, with repetitions. -/
def ofNamed (pins : List NamedPin) : Named :=
  pins.foldl Named.add ⟨empty, []⟩

end InputSample
end OperatorPanel
