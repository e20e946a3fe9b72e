import OperatorPanel.Text.Digits

/-!
# Numerals in names

What the readers of names take for a number: `Text.Digits` and, with a plus sign in front allowed,
`Text.Numeral` say which texts these are and what they stand for, and the readers take just these
(`Text.digits?_eq_some_iff`, `Text.unsigned?_eq_some_iff`). A name is cut where a separator stands
for the first time (`Text.cut?_eq_some_iff`).
-/

namespace OperatorPanel.Text

variable {cs : List Char} {n : Nat}

/-! ### Digits -/

/-- One or more decimal digits of this value, leading zeros included. -/
structure Digits (cs : List Char) (n : Nat) : Prop where
  ne_nil : cs ≠ []
  isDigit : ∀ c ∈ cs, c.isDigit = true
  value : Nat.ofDigitChars 10 cs 0 = n

theorem digits?_eq_some_iff : digits? cs = some n ↔ Digits cs n := by
  have hvalue : digitsValue cs = Nat.ofDigitChars 10 cs 0 := rfl
  unfold digits?
  rw [hvalue]
  constructor
  · intro h
    split at h
    · next hdigits =>
        simp only [Bool.and_eq_true, Bool.not_eq_true', List.isEmpty_eq_false_iff,
          List.all_eq_true] at hdigits
        exact ⟨hdigits.1, hdigits.2, Option.some.inj h⟩
    · cases h
  · rintro ⟨hne, hdigits, rfl⟩
    rw [if_pos]
    simp only [Bool.and_eq_true, Bool.not_eq_true', List.isEmpty_eq_false_iff, List.all_eq_true]
    exact ⟨hne, hdigits⟩

theorem Digits.not_mem (h : Digits cs n) {c : Char} (hc : c.isDigit = false) : c ∉ cs := by
  intro hmem
  rw [h.isDigit c hmem] at hc
  cases hc

theorem digits_toDigits (n : Nat) : Digits (Nat.toDigits 10 n) n where
  ne_nil := Nat.toDigits_ne_nil
  isDigit _ hc := Nat.isDigit_of_mem_toDigits (by decide) (by decide) hc
  value := Nat.ofDigitChars_toDigits (by decide) (by decide)

/-- A zero in front changes nothing. -/
theorem Digits.cons_zero (h : Digits cs n) : Digits ('0' :: cs) n where
  ne_nil := List.cons_ne_nil _ _
  isDigit := by
    intro c hc
    rcases List.mem_cons.1 hc with rfl | hc
    · rfl
    · exact h.isDigit c hc
  value := by
    rw [Nat.ofDigitChars_cons]
    exact h.value

/-! ### Numerals -/

/-- Digits behind an optional plus sign. -/
inductive Numeral : List Char → Nat → Prop
  | plain {ds : List Char} {n : Nat} : Digits ds n → Numeral ds n
  | signed {ds : List Char} {n : Nat} : Digits ds n → Numeral ('+' :: ds) n

theorem unsigned?_eq_some_iff : unsigned? cs = some n ↔ Numeral cs n := by
  unfold unsigned?
  split
  · next ds =>
      rw [digits?_eq_some_iff]
      constructor
      · exact .signed
      · -- digits alone do not begin with a plus sign, so the numeral is no plain one
        intro h
        cases h with
        | plain h => exact absurd (List.mem_cons_self ..) (h.not_mem (c := '+') rfl)
        | signed h => exact h
  · next hplus =>
      rw [digits?_eq_some_iff]
      constructor
      · exact .plain
      · intro h
        cases h with
        | plain h => exact h
        | signed h => exact absurd rfl (hplus _)

/-- Nothing but digits and a plus sign stands in a numeral. -/
theorem Numeral.not_mem (h : Numeral cs n) {c : Char} (hc : c.isDigit = false) (hplus : c ≠ '+') :
    c ∉ cs := by
  cases h with
  | plain h => exact h.not_mem hc
  | signed h =>
      rw [List.mem_cons, not_or]
      exact ⟨hplus, h.not_mem hc⟩

theorem numeral_decimal (n : Nat) : Numeral (decimal n).toList n := by
  rw [decimal, String.toList_ofList]
  exact .plain (digits_toDigits n)

theorem numeral_decimalPair (n : Nat) : Numeral (decimalPair n).toList n := by
  unfold decimalPair
  split
  · have hpair : ("0" ++ decimal n).toList = '0' :: Nat.toDigits 10 n := by simp [decimal]
    rw [hpair]
    exact .plain (digits_toDigits n).cons_zero
  · exact numeral_decimal n

/-- Numerals are read back. -/
theorem unsigned?_decimal (n : Nat) : unsigned? (decimal n).toList = some n :=
  unsigned?_eq_some_iff.2 (numeral_decimal n)

/-- Different numbers have different numerals. -/
theorem decimal_inj {m n : Nat} (h : decimal m = decimal n) : m = n := by
  have hread := unsigned?_decimal m
  rw [h, unsigned?_decimal] at hread
  exact (Option.some.inj hread).symm

theorem dot_not_mem_decimal (n : Nat) : '.' ∉ (decimal n).toList :=
  (numeral_decimal n).not_mem (by decide) (by decide)

/-! ### Pieces -/

/-- A text is cut at the first separator. -/
theorem cut?_eq_some_iff {sep : Char} {s front rest : List Char} :
    cut? sep s = some (front, rest) ↔ s = front ++ sep :: rest ∧ sep ∉ front := by
  induction s generalizing front with
  | nil => simp [cut?]
  | cons c cs ih =>
      by_cases hc : c = sep
      · -- the separator comes first: the front is empty
        subst hc
        have hcut : cut? c (c :: cs) = some ([], cs) := by simp [cut?]
        rw [hcut, Option.some.injEq, Prod.mk.injEq]
        constructor
        · rintro ⟨rfl, rfl⟩
          exact ⟨rfl, List.not_mem_nil⟩
        · rintro ⟨hs, hfront⟩
          cases front with
          | nil => exact ⟨rfl, (List.cons.inj hs).2⟩
          | cons d ds =>
              cases hs
              exact absurd (List.mem_cons_self ..) hfront
      · -- another character comes first: it goes to the front
        have hcut : cut? sep (c :: cs) = (cut? sep cs).map fun p => (c :: p.1, p.2) := by
          simp only [cut?, List.dropWhile_cons, List.takeWhile_cons]
          rw [if_pos (by simpa using hc), if_pos (by simpa using hc)]
          split <;> rfl
        rw [hcut, Option.map_eq_some_iff]
        constructor
        · rintro ⟨⟨ds, rest⟩, hcut, heq⟩
          cases heq
          obtain ⟨rfl, hsep⟩ := ih.1 hcut
          exact ⟨rfl, by simp [Ne.symm hc, hsep]⟩
        · rintro ⟨hs, hfront⟩
          cases front with
          | nil => exact absurd (List.cons.inj hs).1 hc
          | cons d ds =>
              obtain ⟨rfl, hcs⟩ := List.cons.inj hs
              rw [List.mem_cons, not_or] at hfront
              exact ⟨(ds, rest), ih.2 ⟨hcs, hfront.2⟩, rfl⟩

/-- Pieces that end at their first separators are the same where the texts are. -/
theorem eq_of_append_sep {sep : Char} {a b rest rest' : List Char} (ha : sep ∉ a) (hb : sep ∉ b)
    (h : a ++ sep :: rest = b ++ sep :: rest') : a = b ∧ rest = rest' := by
  have hcut : cut? sep (a ++ sep :: rest) = some (a, rest) := cut?_eq_some_iff.2 ⟨rfl, ha⟩
  rw [cut?_eq_some_iff.2 ⟨h, hb⟩, Option.some.injEq, Prod.mk.injEq] at hcut
  exact ⟨hcut.1.symm, hcut.2.symm⟩

end OperatorPanel.Text
