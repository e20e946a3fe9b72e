import OperatorPanel.Proofs.Feed

/-!
# Notices in shared memory

A notice channel passes over what was there when it was opened. From then on a poll takes the
newest contents if something was published since the poll before, whatever they are, and nothing
otherwise (`Shared.notice_mailbox`). Contents that make a poll fail are taken all the same, and so
are not met again.
-/

namespace OperatorPanel

open Feed (Move)

namespace Shared

/-- What is found in the notice segment. -/
def noticeIn (c : Contents) : Slot Notice := found Codec.notice .notice c.bytes

/-- What a poll gives for a frame in the notice segment. -/
def Slot.poll : Slot Notice → Except ChannelFault (Option Notice)
  | .value notice => .ok (some notice)
  | .broken fault => .error (.frame fault)
  | .empty => .ok none
  | .foreign type => .error (.unexpected type)

/-- What a poll gives, given what it takes. -/
def tell : Option Contents → Except ChannelFault (Option Notice)
  | some c => (noticeIn c).poll
  | none => .ok none

section

variable {f : Feed} {g : Glance} {channel : String}

/-- A poll takes what is new. -/
theorem poll_eq (h : f.Shows g) {seen : Nat} (hseen : seen ≤ g.contents.writes) :
    (transport channel).poll (f.writer.readerAt seen) f.world =
      (tell (if g.contents.newer seen then some g.contents else none),
        f.writer.readerAt g.contents.writes, f.world) := by
  simp only [poll, h.hasChanged hseen]
  by_cases hnewer : g.contents.newer seen = true
  · obtain ⟨block, hread, hslot⟩ := h.read seen
    have hslot : slot Codec.notice .notice block = noticeIn g.contents := hslot ..
    simp only [if_pos hnewer, hread, hslot]
    show _ = ((noticeIn g.contents).poll, _)
    cases noticeIn g.contents <;> rfl
  · simp only [if_neg hnewer, ← Feed.Shows.readerAt_eq hseen hnewer]
    rfl

/-- The channel is always opened, and knows of all writes then. -/
theorem openNotices_eq (h : f.Shows g) (hname : f.writer.name = noticeSegment channel) :
    ∃ w, openNotices channel f.world = (.ok (f.writer.readerAt g.contents.writes), w) ∧
      Feed.Shows ⟨w, f.writer⟩ g := by
  obtain ⟨w, hattach, hshows⟩ := h.attach
  have hskip : skip (f.writer.readerAt 0) w.directory
      = .ok (f.writer.readerAt g.contents.writes) := by
    obtain ⟨block, hread, -⟩ := hshows.read 0
    have hchanged := hshows.hasChanged (Nat.zero_le _)
    unfold skip
    by_cases hnewer : g.contents.newer 0 = true
    · rw [if_pos (hchanged.trans hnewer), hread]
    · rw [if_neg (hchanged ▸ hnewer), Feed.Shows.readerAt_eq (Nat.zero_le _) hnewer]
  rw [hname] at hattach
  refine ⟨w, ?_, hshows⟩
  unfold openNotices
  simp only [hattach, hskip]

end

/-- **The notice mailbox.** A controller made the notice segment and published whatever it liked.
Then the channel opens, which always goes through. Whatever is published afterwards, and whenever
one polls: what the polls take was published after the opening, is taken in this order and none of
it twice, and each poll tells what it takes. With fewer than `2 ^ 63` publications a poll takes the
newest contents if there was a publication since the poll before, or since the opening, and nothing
otherwise. -/
theorem notice_mailbox {w w₁ : World} {channel : String} {size : Nat} {writer : SegmentWriter}
    (hmade : w.createSegment (noticeSegment channel) size = (.ok writer, w₁))
    (before moves : List Move) :
    let f := Feed.run ⟨w₁, writer⟩ before
    let g := (Feed.blank ⟨w₁, writer⟩ size).run before
    ∃ reader w₂, openNotices channel f.world = (.ok reader, w₂) ∧
      let answers := Feed.watch (transport channel).poll ⟨w₂, f.writer⟩ reader moves
      let looks := g.atLooks moves
      let taken := news g.contents.writes looks
      answers = taken.map tell ∧
      taken.reduceOption.Sublist (g.editions moves) ∧
      (g.contents :: g.editions moves).Pairwise (·.writes < ·.writes) ∧
      ((g.editions moves).length < valuesOf 63 → ∀ (i : Nat) (last now : Glance),
        (g :: looks)[i]? = some last → looks[i]? = some now →
        taken[i]? = some (if last.contents.writes < now.contents.writes then some now.contents
          else none)) := by
  intro f g
  obtain ⟨hblank, hname⟩ := Feed.Shows.made hmade
  have hshows : f.Shows g := hblank.run before
  have hname' : f.writer.name = noticeSegment channel := (hblank.name_run before).trans hname
  -- what was written before the channel is opened counts as seen
  obtain ⟨w₂, hopen, hshows₂⟩ := openNotices_eq hshows hname'
  refine ⟨_, w₂, hopen, ?_⟩
  intro answers looks taken
  refine ⟨?_, ?_, g.editions_increase moves, fun hfew i last now hlast hnow => ?_⟩
  · -- the answers: poll by poll what the ledger has as news
    have hanswers : answers = List.zipWith (fun _ => tell) looks taken :=
      Feed.watch_eq (transport channel).poll id hshows₂ hname'
        (fun h _ hseen => poll_eq h hseen) (Nat.le_refl _) moves
    have hlength : taken.length = looks.length := length_news _ _
    rw [hanswers, ← List.map_uncurry_zip_eq_zipWith]
    refine Eq.trans ?_ (congrArg (List.map tell) (List.map_snd_zip (Nat.le_of_eq hlength)))
    rw [List.map_map]
    rfl
  · -- each edition is taken at most once, and in order
    have hnews := news_sublist g.contents.writes g moves (Nat.le_refl _)
    rwa [unknown_self, List.nil_append] at hnews
  · -- as long as versions cannot come round, news are what has a higher count
    exact getElem?_news_atLooks hfew hlast hnow

/-- The frame of a notice. -/
def noticeFrame (n : Notice) : List UInt8 :=
  ((Frame.encode Codec.notice .notice n).toOption).getD []

/-- Two notices that follow one another. -/
def noticeBefore : Notice := { kind := .text, text := ⟨"old", by decide⟩ }
def noticeAfter : Notice := { kind := .operator, text := ⟨"new", by decide⟩ }

/-- Everything that may stand in a notice segment, polled twice each. -/
def diagnostics : List Move :=
  [.look, .publish (noticeFrame noticeAfter), .look, .look,
    .publish (Frame.bare .notice), .look, .look, .publish (Frame.bare .status), .look, .look,
    .publish (Frame.bare .empty), .look, .exit, .look]

theorem notice_mailbox_diagnostics : ∃ writer w₁ reader w₂,
    Stage.vacant.world.createSegment (noticeSegment "p") Segment.minSize = (.ok writer, w₁) ∧
      let f := Feed.run ⟨w₁, writer⟩ [.publish (noticeFrame noticeBefore)]
      openNotices "p" f.world = (.ok reader, w₂) ∧
      Feed.watch (transport "p").poll ⟨w₂, f.writer⟩ reader diagnostics =
        [.ok none, .ok (some noticeAfter), .ok none, .error (.frame (.body .endOfBytes)), .ok none,
          .error (.unexpected .status), .ok none, .ok none, .ok none] := by
  have hname : Directory.fileName (noticeSegment "p") Stage.vacant.world.directory.self
      = "hmi_p_err_77" := by
    decide +kernel
  obtain ⟨writer, w₁, hmade, hblank⟩ :=
    Feed.made_vacant hname (by decide +kernel) (by simp) (by decide +kernel)
  obtain ⟨reader, w₂, hopen, hanswers, -⟩ :=
    notice_mailbox hmade [.publish (noticeFrame noticeBefore)] diagnostics
  refine ⟨writer, w₁, reader, w₂, hmade, hopen, hanswers.trans ?_⟩
  rw [hblank]
  decide +kernel

end Shared
end OperatorPanel
