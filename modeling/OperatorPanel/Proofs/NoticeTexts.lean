import OperatorPanel.Proofs.Delivery

/-!
# Texts that are cut off

A text that must not take more than so many bytes is cut off between two characters, and not before
it has to be: what is left is the longest beginning that fits (`BoundedText.longest_cutOff`). There
is only one (`BoundedText.Longest.unique`), and a text that fits is its own, so cutting off once
more changes nothing. Notices are made from texts in this way (`Notice.longest_beginning`).
-/

namespace OperatorPanel

namespace BoundedText

variable {limit : Nat} {text held other : String}

/-- There is no room for the next of these characters, if there is one. -/
def Full (limit : Nat) (held : String) : List Char → Prop
  | [] => True
  | c :: _ => limit < (held.push c).utf8ByteSize

/-- Filling takes characters from the front, and stops at the first for which there is no room. -/
theorem fill_spec (held : BoundedText limit) (cs : List Char) :
    ∃ taken rest, cs = taken ++ rest ∧ (fill held cs).text = held.text ++ String.ofList taken ∧
      Full limit (fill held cs).text rest := by
  induction cs generalizing held with
  | nil => exact ⟨[], [], rfl, by simp [fill], trivial⟩
  | cons c cs ih =>
      by_cases hroom : (held.text.push c).utf8ByteSize ≤ limit
      · obtain ⟨taken, rest, rfl, htext, hfull⟩ := ih ⟨held.text.push c, hroom⟩
        -- there is room: the rest is filled into the longer text
        have hfill : fill held (c :: (taken ++ rest))
            = fill ⟨held.text.push c, hroom⟩ (taken ++ rest) := by
          rw [fill, dif_pos hroom]
        rw [hfill]
        refine ⟨c :: taken, rest, rfl, ?_, hfull⟩
        rw [htext]
        apply String.ext
        simp [String.toList_append]
      · -- there is none: the filling ends here, also for shorter characters behind this one
        have hfill : fill held (c :: cs) = held := by rw [fill, dif_neg hroom]
        rw [hfill]
        exact ⟨[], c :: cs, rfl, by simp, Nat.lt_of_not_le hroom⟩

/-- The longest beginning of a text, in whole characters, that takes at most so many bytes. -/
structure Longest (limit : Nat) (text held : String) : Prop where
  begins : ∃ rest, text = held ++ rest
  fits : held.utf8ByteSize ≤ limit
  longest : ∀ other rest, text = other ++ rest → other.utf8ByteSize ≤ limit →
    ∃ more, held = other ++ more

/-- A beginning that has room for nothing more is the longest. -/
theorem longest_of_full {rest : List Char} (htext : text = held ++ String.ofList rest)
    (hfits : held.utf8ByteSize ≤ limit) (hfull : Full limit held rest) :
    Longest limit text held where
  begins := ⟨_, htext⟩
  fits := hfits
  longest := by
    intro other rest' hother hsize
    have hlists : other.toList ++ rest'.toList = held.toList ++ rest := by
      rw [← String.toList_append, ← hother, htext, String.toList_append, String.toList_ofList]
    obtain ⟨more, hheld, -⟩ | ⟨beyond, hbeyond, hrest⟩ := List.append_eq_append_iff.1 hlists
    · refine ⟨String.ofList more, String.ext ?_⟩
      rw [hheld, String.toList_append, String.toList_ofList]
    · cases beyond with
      | nil =>
          refine ⟨"", String.ext ?_⟩
          rw [String.append_empty, hbeyond, List.append_nil]
      | cons c beyond => -- the other beginning holds the character for which there is no room
          rw [hrest, List.cons_append] at hfull
          have hpush : other = held.push c ++ String.ofList beyond := by
            apply String.ext
            simp [hbeyond]
          rw [hpush, String.utf8ByteSize_append] at hsize
          exact absurd hfull (by simp only [Full]; omega)

/-- A text that fits is its own longest beginning. -/
theorem longest_self (h : text.utf8ByteSize ≤ limit) : Longest limit text text := by
  have hall : text = text ++ String.ofList [] := by simp
  exact longest_of_full hall h trivial

/-- **There is one longest beginning.** -/
theorem Longest.unique (h : Longest limit text held) (h' : Longest limit text other) :
    held = other := by
  obtain ⟨rest, htext⟩ := h.begins
  obtain ⟨rest', htext'⟩ := h'.begins
  obtain ⟨more, hheld⟩ := h.longest other rest' htext' h'.fits
  obtain ⟨more', hother⟩ := h'.longest held rest htext h.fits
  have hsize : held.utf8ByteSize = held.utf8ByteSize + more'.utf8ByteSize + more.utf8ByteSize := by
    conv_lhs => rw [hheld, hother]
    rw [String.utf8ByteSize_append, String.utf8ByteSize_append]
  have hmore : more = "" := by
    apply String.utf8ByteSize_eq_zero_iff.1
    omega
  rw [hheld, hmore, String.append_empty]

/-- What there is of a text after cutting it off, and what became of the rest. -/
theorem cutOff_spec (limit : Nat) (text : String) :
    ∃ rest, text = (cutOff limit text).text ++ String.ofList rest ∧
      Full limit (cutOff limit text).text rest := by
  obtain ⟨taken, rest, htext, hcut, hfull⟩ :=
    fill_spec (⟨"", Nat.zero_le _⟩ : BoundedText limit) text.toList
  refine ⟨rest, String.ext ?_, hfull⟩
  have hheld : (cutOff limit text).text = String.ofList taken := by
    rw [cutOff, hcut, String.empty_append]
  rw [hheld, htext, String.toList_append, String.toList_ofList, String.toList_ofList]

/-- **Cutting off leaves the longest beginning.** -/
theorem longest_cutOff (limit : Nat) (text : String) :
    Longest limit text (cutOff limit text).text := by
  obtain ⟨rest, htext, hfull⟩ := cutOff_spec limit text
  exact longest_of_full htext (cutOff limit text).size_le hfull

/-- A text that fits is not cut off. -/
theorem cutOff_of_fits (h : text.utf8ByteSize ≤ limit) : (cutOff limit text).text = text :=
  (longest_cutOff limit text).unique (longest_self h)

theorem ext {a b : BoundedText limit} (h : a.text = b.text) : a = b := by
  obtain ⟨text, hsize⟩ := a
  cases h
  rfl

/-- Cutting off once more changes nothing. -/
theorem cutOff_text (held : BoundedText limit) : cutOff limit held.text = held :=
  ext (cutOff_of_fits held.size_le)

/-- **Where a text is cut off**, the next character would not have fitted. -/
theorem cutOff_next (h : limit < text.utf8ByteSize) :
    ∃ c rest, text = (cutOff limit text).text.push c ++ rest ∧
      limit < ((cutOff limit text).text.push c).utf8ByteSize := by
  obtain ⟨rest, htext, hfull⟩ := cutOff_spec limit text
  cases rest with
  | nil =>
      have hall : text = (cutOff limit text).text := by simpa using htext
      rw [hall] at h
      exact absurd (cutOff limit text).size_le (Nat.not_le.2 h)
  | cons c rest =>
      refine ⟨c, String.ofList rest, htext.trans (String.ext ?_), hfull⟩
      simp [String.toList_append]

/-- The byte that is left is not enough for the next character, and is not used for the last one. -/
example : (cutOff 4 "xé€y").text = "xé" := by
  decide +kernel

end BoundedText

/-- A notice takes at most 267 bytes. -/
theorem Codec.atMost_notice : notice.AtMost 267 :=
  ((atMost_oneOf _).pair (atMost_bounded maxNoticeBytes)).as _ _

namespace Notice

/-- **The text of a notice is the longest beginning that fits**: it is the whole text where this
takes at most 255 bytes, and otherwise the next character would go beyond them. A notice that is
made from the text of a notice is the same again, and every notice can be framed and is read back,
under whatever type and with whatever behind it. -/
theorem longest_beginning (kind : NoticeKind) (text : String) :
    let n := Notice.ofText kind text
    n.kind = kind ∧
      BoundedText.Longest 255 text n.text.text ∧
      (text.utf8ByteSize ≤ 255 → n.text.text = text) ∧
      (255 < text.utf8ByteSize → ∃ c rest,
        text = n.text.text.push c ++ rest ∧ 255 < (n.text.text.push c).utf8ByteSize) ∧
      Notice.ofText kind n.text.text = n ∧
      ∀ type, ∃ frame, Frame.encode Codec.notice type n = .ok frame ∧
        ∀ behind, Frame.decode Codec.notice type (frame ++ behind) = .ok n := by
  intro n
  refine ⟨rfl, BoundedText.longest_cutOff 255 text, BoundedText.cutOff_of_fits,
    BoundedText.cutOff_next, ?_, fun type => ?_⟩
  · exact congrArg (Notice.mk kind) (BoundedText.cutOff_text n.text)
  · have hlength : (Codec.notice.write n).length < valuesOf 32 :=
      Nat.lt_of_le_of_lt (Codec.atMost_notice n) (by decide)
    obtain ⟨hencode, hdecode⟩ := Frame.spec Codec.readsBack_notice type hlength
    exact ⟨_, hencode, fun behind => (hdecode behind).2⟩

end Notice
end OperatorPanel
