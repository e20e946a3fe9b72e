import Mathlib.Data.List.ReduceOption
import OperatorPanel.Proofs.PanelScene
import OperatorPanel.Proofs.SegmentLedger

/-!
# What a controller publishes

A controller makes a segment and publishes in it, each time over what was there, until it exits;
now and then someone at the other end looks (`Feed`). A `Glance` is what there is to be seen.
Without files and versions it says what a look should find: `Glance.editions` is what was published,
`Glance.atLooks` what is there at every look, and `news` what of this is new to the one who looks.

* `news_sublist`: what is new was published, and nothing is new twice.
* `newest_known`: after a look the newest contents are known.
* `Feed.watch_eq`: whoever reads what is new, and only then, is answered by `news`.
-/

namespace OperatorPanel

/-- A segment, and the controller that writes it. -/
structure Feed where
  world : World
  writer : SegmentWriter

/-- What happens to a feed. -/
inductive Feed.Move where
  /-- The controller writes from the start of the segment on. -/
  | publish (bytes : List UInt8)
  /-- The controller's process is gone; what it wrote stays. -/
  | exit
  /-- Someone at the other end looks. -/
  | look
  deriving DecidableEq

open Feed (Move)

/-! ### What there is to be seen

A glance is all of a feed that can be told from the other end. Its moves are few, and so the facts
about many looks below are inductions over a list of moves, without a file in them.
-/

/-- What there is to be seen: what the segment holds, and whether the controller is running. -/
structure Glance where
  contents : Contents
  running : Bool

namespace Glance

/-- The controller can publish so many bytes. -/
def takes (g : Glance) (bytes : List UInt8) : Bool :=
  g.running && bytes.length ≤ g.contents.bytes.length

/-- What a move makes of it. -/
def after (g : Glance) : Move → Glance
  | .publish bytes =>
    if g.takes bytes then { g with contents := g.contents.write 0 bytes } else g
  | .exit => { g with running := false }
  | .look => g

def run (g : Glance) (moves : List Move) : Glance := moves.foldl after g

/-- What is there at every look. -/
def atLooks (g : Glance) : List Move → List Glance
  | [] => []
  | .look :: moves => g :: g.atLooks moves
  | .publish bytes :: moves => (g.after (.publish bytes)).atLooks moves
  | .exit :: moves => (g.after .exit).atLooks moves

/-- What the segment holds after every publication, in their order. -/
def editions (g : Glance) : List Move → List Contents
  | [] => []
  | .publish bytes :: moves =>
    if g.takes bytes then
      g.contents.write 0 bytes :: editions { g with contents := g.contents.write 0 bytes } moves
    else g.editions moves
  | .exit :: moves => (g.after .exit).editions moves
  | .look :: moves => g.editions moves

variable {g : Glance} {bytes : List UInt8}

/-- The two cases of a publication; nothing else asks whether there is room. -/
theorem after_of_takes (h : g.takes bytes = true) :
    g.after (.publish bytes) = { g with contents := g.contents.write 0 bytes } := if_pos h

theorem after_of_not_takes (h : ¬g.takes bytes = true) : g.after (.publish bytes) = g := if_neg h

theorem fits_of_takes (h : g.takes bytes = true) :
    0 + bytes.length ≤ g.contents.bytes.length := by
  rw [takes, Bool.and_eq_true, decide_eq_true_eq] at h
  omega

/-- No move takes a write back. -/
theorem writes_after (g : Glance) (m : Move) : g.contents.writes ≤ (g.after m).contents.writes := by
  cases m with
  | publish bytes =>
      by_cases htakes : g.takes bytes = true
      · rw [after_of_takes htakes]
        exact Nat.le_succ _
      · exact Nat.le_of_eq (congrArg (·.contents.writes) (after_of_not_takes htakes)).symm
  | exit | look => exact Nat.le_refl _

/-- No two publications are the same. -/
theorem editions_increase (g : Glance) (moves : List Move) :
    (g.contents :: g.editions moves).Pairwise (·.writes < ·.writes) := by
  induction moves generalizing g with
  | nil => exact List.pairwise_singleton _ _
  | cons m moves ih =>
      -- a publication that fits is the next edition, and all others are newer still
      cases m with
      | publish bytes =>
          rw [editions]
          split
          · have hlater := ih { g with contents := g.contents.write 0 bytes }
            have hnow : g.contents.writes < (g.contents.write 0 bytes).writes := Nat.lt_succ_self _
            refine List.pairwise_cons.2 ⟨fun c hc => ?_, hlater⟩
            rcases List.mem_cons.1 hc with rfl | hc
            · exact hnow
            · exact Nat.lt_trans hnow ((List.pairwise_cons.1 hlater).1 c hc)
          · exact ih g
      | exit => exact ih (g.after .exit)
      | look => exact ih g

/-- Without the first look there are the others. -/
theorem atLooks_erase (g : Glance) (moves : List Move) :
    g.atLooks (moves.erase .look) = (g.atLooks moves).tail := by
  induction moves generalizing g with
  | nil => rfl
  | cons m moves ih =>
      cases m with
      | publish bytes => exact ih _
      | exit => exact ih _
      | look => rfl

/-- Looks leave what is published as it is. -/
theorem editions_erase (g : Glance) (moves : List Move) :
    g.editions (moves.erase .look) = g.editions moves := by
  induction moves generalizing g with
  | nil => rfl
  | cons m moves ih =>
      cases m with
      | publish bytes =>
          show g.editions (.publish bytes :: moves.erase .look) = _
          rw [editions, editions, ih, ih]
      | exit => exact ih _
      | look => rfl

end Glance

/-! ### News

Someone who looks remembers a count of writes, and what is there is new when the count is another
one. The count is kept in 63 bits of a version, so it can come round, and only facts that say so ask
for few writes.
-/

/-- What is new at some looks, to someone who knows of so many writes. -/
def news (seen : Nat) : List Glance → List (Option Contents)
  | [] => []
  | g :: looks =>
    (if g.contents.newer seen then some g.contents else none) :: news g.contents.writes looks

/-- What is looked into at some looks, by someone who comes with contents that were read before:
they are taken up at the first look, and what is new at the others. -/
def examined (first : Contents) : List Glance → List (Option Contents)
  | [] => []
  | _ :: looks => some first :: news first.writes looks

theorem length_news (seen : Nat) (looks : List Glance) :
    (news seen looks).length = looks.length := by
  induction looks generalizing seen with
  | nil => rfl
  | cons g looks ih => exact congrArg (· + 1) (ih _)

theorem length_examined (first : Contents) (looks : List Glance) :
    (examined first looks).length = looks.length := by
  cases looks with
  | nil => rfl
  | cons g looks => exact congrArg (· + 1) (length_news first.writes looks)

/-- What was there already, as far as it is not known. -/
def unknown (seen : Nat) (g : Glance) : List Contents :=
  if seen < g.contents.writes then [g.contents] else []

theorem unknown_of_lt {seen : Nat} {g : Glance} (h : seen < g.contents.writes) :
    unknown seen g = [g.contents] := if_pos h

theorem unknown_self (g : Glance) : unknown g.contents.writes g = [] := if_neg (Nat.lt_irrefl _)

/-- There is nothing new unless there was a write. -/
theorem lt_of_newer {c : Contents} {seen : Nat} (h : c.newer seen = true) : seen < c.writes := by
  rw [Contents.newer, decide_eq_true_eq] at h
  apply Nat.lt_of_not_le
  intro hle
  rw [Nat.sub_eq_zero_of_le hle, Nat.zero_mod] at h
  exact h rfl

/-- **Nothing is new twice.** What is new was published, in this order, or was there before. -/
theorem news_sublist (seen : Nat) (g : Glance) (moves : List Move)
    (hseen : seen ≤ g.contents.writes) :
    (news seen (g.atLooks moves)).reduceOption.Sublist (unknown seen g ++ g.editions moves) := by
  induction moves generalizing seen g with
  | nil => exact List.nil_sublist _
  | cons m moves ih =>
      cases m with
      -- a publication moves what is unknown on by one, or replaces it; only a look makes it known
      | publish bytes =>
          by_cases htakes : g.takes bytes = true
          · have hlt : seen < (g.contents.write 0 bytes).writes := Nat.lt_succ_of_le hseen
            have hrest := ih seen { g with contents := g.contents.write 0 bytes } (Nat.le_of_lt hlt)
            rw [unknown_of_lt hlt] at hrest
            rw [Glance.atLooks, Glance.after_of_takes htakes, Glance.editions, if_pos htakes]
            exact hrest.trans (List.sublist_append_right ..)
          · rw [Glance.atLooks, Glance.after_of_not_takes htakes, Glance.editions, if_neg htakes]
            exact ih seen g hseen
      | exit => exact ih seen (g.after .exit) hseen
      | look =>
          have hrest := ih g.contents.writes g (Nat.le_refl _)
          rw [unknown_self, List.nil_append] at hrest
          rw [Glance.atLooks, news, Glance.editions]
          by_cases hnewer : g.contents.newer seen = true
          · rw [if_pos hnewer, List.reduceOption_cons_of_some, unknown_of_lt (lt_of_newer hnewer)]
            exact hrest.cons_cons _
          · rw [if_neg hnewer, List.reduceOption_cons_of_none]
            exact hrest.trans (List.sublist_append_right ..)

/-- Nothing is looked into twice. -/
theorem examined_sublist (g : Glance) (moves : List Move) :
    (examined g.contents (g.atLooks moves)).reduceOption.Sublist
      (g.contents :: g.editions moves) := by
  have hnews := news_sublist g.contents.writes g (moves.erase .look) (Nat.le_refl _)
  rw [unknown_self, List.nil_append, g.atLooks_erase, g.editions_erase] at hnews
  cases hlooks : g.atLooks moves with
  | nil => exact List.nil_sublist _
  | cons now looks =>
      rw [hlooks] at hnews
      rw [examined, List.reduceOption_cons_of_some]
      exact hnews.cons_cons _

/-- With fewer than `2 ^ 63` writes since then, every write makes news. -/
theorem newer_of_lt {c : Contents} {seen : Nat} (h : seen < c.writes)
    (hfew : c.writes - seen < valuesOf 63) : c.newer seen = true := by
  -- so many writes fit into the version, so their number is seen in it
  rw [Contents.newer, Nat.mod_eq_of_lt hfew, decide_eq_true_eq]
  omega

/-- **After a look the newest contents are known.** -/
theorem newest_known {c : Contents} {g g' : Glance} {moves : List Move} {i : Nat}
    (hc : c = g.contents ∨ c.writes < g.contents.writes)
    (hfew : g.contents.writes - c.writes + (g.editions moves).length < valuesOf 63)
    (hlook : (g.atLooks moves)[i]? = some g') :
    some g'.contents ∈ (some c :: news c.writes (g.atLooks moves)).take (i + 2) := by
  induction moves generalizing c g i with
  | nil => cases hlook
  | cons m moves ih =>
      cases m with
      -- the moves before the look in question may publish and exit, and looks before it only make
      -- more known
      | publish bytes =>
          by_cases htakes : g.takes bytes = true
          · rw [Glance.atLooks, Glance.after_of_takes htakes] at hlook ⊢
            rw [Glance.editions, if_pos htakes, List.length_cons] at hfew
            refine ih (.inr ?_) ?_ hlook
            · show c.writes < g.contents.writes + 1
              rcases hc with rfl | hlt <;> omega
            · show g.contents.writes + 1 - c.writes + _ < _
              omega
          · rw [Glance.atLooks, Glance.after_of_not_takes htakes] at hlook ⊢
            rw [Glance.editions, if_neg htakes] at hfew
            exact ih hc hfew hlook
      | exit => exact ih (g := g.after .exit) hc hfew hlook
      | look =>
          rw [Glance.atLooks] at hlook ⊢
          rw [Glance.editions] at hfew
          rw [news]
          have hnow : some g.contents ∈
              [some c, if g.contents.newer c.writes then some g.contents else none] := by
            rcases hc with rfl | hlt
            · exact List.mem_cons_self
            · rw [if_pos (newer_of_lt hlt (by omega))]
              exact List.mem_cons_of_mem _ List.mem_cons_self
          cases i with
          | zero =>
              cases hlook
              exact hnow
          | succ i =>
              have hlater := ih (.inl rfl) (by omega) hlook
              rw [List.take_succ_cons, List.mem_cons] at hlater
              show some g'.contents ∈ [some c, _] ++ _
              rcases hlater with hsame | hlater
              · exact List.mem_append_left _ (hsame ▸ hnow)
              · exact List.mem_append_right _ hlater

/-- After every look but the first, if this takes up what was read before. -/
theorem newest_examined {g now : Glance} {moves : List Move} {i : Nat}
    (hfew : (g.editions moves).length < valuesOf 63) (hpos : 0 < i)
    (hlook : (g.atLooks moves)[i]? = some now) :
    some now.contents ∈ (examined g.contents (g.atLooks moves)).take (i + 1) := by
  -- without its first look, the history has one look less and the same publications
  obtain ⟨i, rfl⟩ := Nat.exists_eq_succ_of_ne_zero (Nat.ne_of_gt hpos)
  cases hlooks : g.atLooks moves with
  | nil =>
      rw [hlooks] at hlook
      cases hlook
  | cons first looks =>
      rw [hlooks] at hlook
      have hothers : g.atLooks (moves.erase .look) = looks := by
        rw [g.atLooks_erase, hlooks]
        rfl
      have hknown : some now.contents ∈ (some g.contents ::
          news g.contents.writes (g.atLooks (moves.erase .look))).take (i + 2) := by
        refine newest_known (.inl rfl) ?_ (hothers.symm ▸ hlook)
        rw [g.editions_erase]
        omega
      rwa [hothers] at hknown

/-- No look undoes a write, and only publications write. -/
theorem writes_atLooks {g g' : Glance} {moves : List Move} (h : g' ∈ g.atLooks moves) :
    g.contents.writes ≤ g'.contents.writes ∧
      g'.contents.writes ≤ g.contents.writes + (g.editions moves).length := by
  -- by induction on the moves; a publication that is taken adds one write
  induction moves generalizing g with
  | nil => cases h
  | cons m moves ih =>
      cases m with
      | publish bytes =>
          by_cases htakes : g.takes bytes = true
          · rw [Glance.atLooks, Glance.after_of_takes htakes] at h
            rw [Glance.editions, if_pos htakes, List.length_cons]
            have hbounds := ih h
            change g.contents.writes + 1 ≤ _ ∧ _ ≤ g.contents.writes + 1 + _ at hbounds
            omega
          · rw [Glance.atLooks, Glance.after_of_not_takes htakes] at h
            rw [Glance.editions, if_neg htakes]
            exact ih h
      | exit => exact ih (g := g.after .exit) h
      | look =>
          rcases List.mem_cons.1 h with rfl | h
          · exact ⟨Nat.le_refl _, Nat.le_add_right _ _⟩
          · exact ih h

/-- What is new at a look depends on the look before. -/
theorem getElem?_news {seen before i : Nat} {looks : List Glance} {now : Glance}
    (hnow : looks[i]? = some now)
    (hbefore : (seen :: looks.map (·.contents.writes))[i]? = some before) :
    (news seen looks)[i]?
      = some (if now.contents.newer before then some now.contents else none) := by
  induction looks generalizing seen i with
  | nil => cases hnow
  | cons g looks ih =>
      cases i with
      | zero =>
          cases hnow
          cases hbefore
          rfl
      | succ i => exact ih hnow hbefore

/-- With fewer than `2 ^ 63` publications there is something new just when there was one since the
look before, or since the beginning. -/
theorem getElem?_news_atLooks {g last now : Glance} {moves : List Move} {i : Nat}
    (hfew : (g.editions moves).length < valuesOf 63)
    (hlast : (g :: g.atLooks moves)[i]? = some last) (hnow : (g.atLooks moves)[i]? = some now) :
    (news g.contents.writes (g.atLooks moves))[i]?
      = some (if last.contents.writes < now.contents.writes then some now.contents else none) := by
  -- what is new is counted from the look before
  have hbefore : ((g :: g.atLooks moves).map (·.contents.writes))[i]?
      = some last.contents.writes := by
    rw [List.getElem?_map, hlast]
    rfl
  have hsince : g.contents.writes ≤ last.contents.writes := by
    rcases List.mem_cons.1 (List.mem_of_getElem? hlast) with rfl | hmem
    · exact Nat.le_refl _
    · exact (writes_atLooks hmem).1
  have hnew := (writes_atLooks (List.mem_of_getElem? hnow)).2
  rw [getElem?_news hnow hbefore]
  congr 1
  by_cases hlt : last.contents.writes < now.contents.writes
  · rw [if_pos hlt, if_pos (newer_of_lt hlt (by omega))]
  · rw [if_neg hlt, if_neg (fun hnewer => hlt (lt_of_newer hnewer))]

/-- What is new at a look is what is there. -/
theorem contents_of_news {seen i : Nat} {looks : List Glance} {now : Glance} {c : Contents}
    (hnow : looks[i]? = some now) (hnews : (news seen looks)[i]? = some (some c)) :
    c = now.contents := by
  induction looks generalizing seen i with
  | nil => cases hnow
  | cons g looks ih =>
      cases i with
      | zero =>
          cases hnow
          rw [news, List.getElem?_cons_zero] at hnews
          split at hnews <;> cases hnews
          rfl
      | succ i => exact ih hnow hnews

/-- At the first look it is what was read before that is looked into, at any other what is there. -/
theorem contents_of_examined {first c : Contents} {looks : List Glance} {i : Nat} {now : Glance}
    (hnow : looks[i]? = some now) (h : (examined first looks)[i]? = some (some c)) :
    c = if i = 0 then first else now.contents := by
  cases looks with
  | nil => cases hnow
  | cons g looks =>
      cases i with
      | zero =>
          cases h
          rfl
      | succ i =>
          rw [List.getElem?_cons_succ] at hnow
          rw [examined, List.getElem?_cons_succ] at h
          exact contents_of_news hnow h

/-- At the first look something is looked into. -/
theorem pos_of_examined {first : Contents} {looks : List Glance} {i : Nat}
    (h : (examined first looks)[i]? = some none) : 0 < i := by
  apply Nat.pos_of_ne_zero
  rintro rfl
  cases looks <;> cases h

/-! ### The feed is as the glance says

The feed keeps its promises as long as it is left alone: the segment has one file, its contents are
those of the glance, and its process runs as long as the glance says. A reader does not disturb
this, since all that it changes in a file is the count of readers.
-/

namespace Feed

/-- The process that made the segment. -/
def owner (f : Feed) : UInt32 := (f.world.directory.file f.writer.number).header.writerPid

def running (f : Feed) : Bool := f.world.directory.alive f.owner

/-- What a move makes of the feed. What does not fit is not written. -/
def after (f : Feed) : Move → Feed
  | .publish bytes =>
    if f.running then
      match f.world.writeSegment f.writer bytes with
      | (.ok writer, world) => { world, writer }
      | (.error _, world) => { f with world }
    else f
  | .exit =>
    let d := f.world.directory
    { f with
      world := { f.world with
        directory := { d with alive := fun pid => pid ≠ f.owner && d.alive pid } } }
  | .look => f

def run (f : Feed) (moves : List Move) : Feed := moves.foldl after f

/-- What is said, look by look, to someone at the other end. -/
def watch {E A : Type} (look : E → World → A × E × World) (f : Feed) (e : E) : List Move → List A
  | [] => []
  | .look :: moves =>
    let (answer, e, world) := look e f.world
    answer :: watch look { f with world } e moves
  | .publish bytes :: moves => watch look (f.after (.publish bytes)) e moves
  | .exit :: moves => watch look (f.after .exit) e moves

/-- There is to be seen what the glance says: the segment has one file, which holds the contents. -/
structure Shows (f : Feed) (g : Glance) : Prop where
  find : ∃ m, f.world.directory.find f.writer.name = .ok [m] ∧ m.number = f.writer.number
  inside : f.writer.number < f.world.directory.files.length
  holds : (f.world.directory.file f.writer.number).Holds f.owner g.contents
  size : f.writer.size = g.contents.bytes.length
  running : f.running = g.running

/-- What there is to be seen in a new segment. -/
def blank (f : Feed) (size : Nat) : Glance := ⟨.zeros size, f.running⟩

namespace Shows

variable {f : Feed} {g : Glance} {bytes : List UInt8}

/-- What fits is written. -/
theorem publish_of_takes (h : f.Shows g) (htakes : g.takes bytes = true) :
    f.after (.publish bytes) =
      { world := { f.world with directory := f.writer.wrote 0 bytes f.world.directory }
        writer := { f.writer with version := (g.contents.write 0 bytes).version } } := by
  have hrunning : f.running = true :=
    h.running.trans (Bool.and_eq_true_iff.1 htakes).1
  obtain ⟨hwrite, -⟩ :=
    SegmentWriter.writeAt_of_fits h.inside h.size h.holds (Glance.fits_of_takes htakes)
  unfold after World.writeSegment SegmentWriter.write
  dsimp only
  rw [if_pos hrunning, hwrite]

/-- What does not fit is not. -/
theorem publish_of_not_takes (h : f.Shows g) (htakes : ¬g.takes bytes = true) :
    f.after (.publish bytes) = f := by
  unfold after
  dsimp only
  split
  · next hrunning =>
      have hfits : ¬0 + bytes.length ≤ g.contents.bytes.length := by
        rw [Glance.takes, ← h.running, hrunning, Bool.true_and, decide_eq_true_eq] at htakes
        omega
      have hwrite := SegmentWriter.writeAt_of_not_fits h.size h.holds hfits
      unfold World.writeSegment SegmentWriter.write
      rw [hwrite]
  · rfl

theorem after (h : f.Shows g) (m : Move) : (f.after m).Shows (g.after m) := by
  cases m with
  | publish bytes =>
      by_cases htakes : g.takes bytes = true
      · have hfits := Glance.fits_of_takes htakes
        obtain ⟨-, hholds⟩ := SegmentWriter.writeAt_of_fits h.inside h.size h.holds hfits
        -- the owner stands in the file and not with the writer, so a write has to leave it there
        have howner : (f.after (.publish bytes)).owner = f.owner := by
          rw [h.publish_of_takes htakes]
          exact hholds.writer
        have hrunning : (f.after (.publish bytes)).running = f.running := by
          unfold Feed.running
          rw [howner, h.publish_of_takes htakes]
          rfl
        rw [Glance.after_of_takes htakes]
        refine ⟨?_, ?_, ?_, ?_, hrunning.trans h.running⟩
        · rw [h.publish_of_takes htakes]
          exact h.find
        · rw [h.publish_of_takes htakes]
          exact Nat.lt_of_lt_of_eq h.inside (Directory.length_modify ..).symm
        · rw [howner, h.publish_of_takes htakes]
          exact hholds
        · rw [h.publish_of_takes htakes]
          exact h.size.trans (Contents.length_write hfits).symm
      · rw [h.publish_of_not_takes htakes, Glance.after_of_not_takes htakes]
        exact h
  | exit =>
      refine ⟨h.find, h.inside, h.holds, h.size, ?_⟩
      show (f.owner ≠ f.owner && _) = false
      simp
  | look => exact h

theorem run (h : f.Shows g) (moves : List Move) : (f.run moves).Shows (g.run moves) := by
  induction moves generalizing f g with
  | nil => exact h
  | cons m moves ih => exact ih (h.after m)

/-- Name, number and size of the segment stay. -/
theorem readerAt_after (h : f.Shows g) (m : Move) :
    (f.after m).writer.readerAt = f.writer.readerAt := by
  cases m with
  | publish bytes =>
      by_cases htakes : g.takes bytes = true
      · rw [h.publish_of_takes htakes]
        rfl
      · rw [h.publish_of_not_takes htakes]
  | exit | look => rfl

theorem name_after (h : f.Shows g) (m : Move) : (f.after m).writer.name = f.writer.name :=
  congrArg (fun readerAt => (readerAt 0).name) (h.readerAt_after m)

theorem name_run (h : f.Shows g) (moves : List Move) :
    (f.run moves).writer.name = f.writer.name := by
  induction moves generalizing f g with
  | nil => rfl
  | cons m moves ih => exact (ih (h.after m)).trans (h.name_after m)

/-- A new segment holds zeros. -/
theorem made {w w' : World} {name : String} {size : Nat} {writer : SegmentWriter}
    (h : w.createSegment name size = (.ok writer, w')) :
    Shows ⟨w', writer⟩ (blank ⟨w', writer⟩ size) ∧ writer.name = name := by
  obtain ⟨hresult, hdirectory⟩ := World.createSegment_eq_ok h
  have hcreated := Directory.create_eq_ok hresult
  obtain rfl := hcreated.writer
  rw [← hdirectory] at hcreated
  have hfile := hcreated.file_last
  -- a segment that was just made has no version yet, and knows its owner
  have hholds : (w'.directory.file w.directory.files.length).Holds w.directory.self
      (.zeros size) := by
    rw [hfile]
    exact .newFile hcreated.sound
  refine ⟨⟨⟨_, hcreated.find, rfl⟩, ?_, ?_, List.length_replicate.symm, rfl⟩, rfl⟩
  · rw [hcreated.length]
    exact Nat.lt_succ_self _
  · unfold Feed.owner
    rw [hholds.writer]
    exact hholds

/-! ### Who is attached

Attaching and reading are what others do to the feed. Either leaves it as it is to be seen.
-/

/-- One attaches, and there is the same to be seen. -/
theorem attach (h : f.Shows g) :
    ∃ w, f.world.attachSegment f.writer.name = (.ok (f.writer.readerAt 0), w) ∧
      Shows { f with world := w } g := by
  -- the reader attaches to the file that the writer made, and is counted in
  obtain ⟨m, hfind, hnumber⟩ := h.find
  have hattach := Directory.attach_eq hfind (hnumber ▸ h.holds)
  rw [hnumber, ← h.size] at hattach
  obtain ⟨hholds, -⟩ :=
    Directory.holds_modifyHeader (f := (·.addReader)) h.inside h.holds rfl
  refine ⟨{ f.world with
    directory := f.world.directory.modifyHeader f.writer.number (·.addReader) }, ?_, ?_⟩
  · unfold World.attachSegment
    rw [hattach]
    rfl
  · -- the count of readers is all that differs, so the file still holds what it held
    have howner : owner ⟨{ f.world with
        directory := f.world.directory.modifyHeader f.writer.number (·.addReader) }, f.writer⟩
        = f.owner := hholds.writer
    refine ⟨⟨m, hfind, hnumber⟩, ?_, ?_, h.size, ?_⟩
    · exact Nat.lt_of_lt_of_eq h.inside (Directory.length_modify ..).symm
    · rw [howner]
      exact hholds
    · unfold Feed.running
      rw [howner]
      exact h.running

/-- Reading finds the contents, and all writes are known then. -/
theorem read (h : f.Shows g) (seen : Nat) :
    ∃ block, (f.writer.readerAt seen).read f.world.directory
        = .ok (block, f.writer.readerAt g.contents.writes) ∧
      ∀ {α : Type} (codec : Codec α) (type : FrameType),
        Shared.slot codec type block = Shared.found codec type g.contents.bytes := by
  obtain ⟨block, hread, hblock⟩ :=
    SegmentReader.read_eq (r := f.writer.readerAt seen) h.size h.holds
  refine ⟨block, hread, fun codec type => ?_⟩
  rw [Shared.slot_eq, hblock]

theorem hasChanged (h : f.Shows g) {seen : Nat} (hseen : seen ≤ g.contents.writes) :
    (f.writer.readerAt seen).hasChanged f.world.directory = g.contents.newer seen :=
  SegmentReader.hasChanged_eq (r := f.writer.readerAt seen) h.holds rfl hseen

theorem writerAlive (h : f.Shows g) (seen : Nat) :
    (f.writer.readerAt seen).writerAlive f.world.directory = g.running := h.running

/-- As long as there is nothing new, it is the same to know of all writes. -/
theorem readerAt_eq {seen : Nat} (hseen : seen ≤ g.contents.writes)
    (hnewer : ¬g.contents.newer seen = true) (writer : SegmentWriter) :
    writer.readerAt seen = writer.readerAt g.contents.writes := by
  have hversion := Contents.version_ne_iff hseen
  -- a version in which nothing has changed is the same version, so both readers are one
  unfold SegmentWriter.readerAt
  congr 1
  exact (Decidable.not_not.1 (hversion.not.2 hnewer)).symm

end Shows

/-- **Whoever reads what is new, and only then, is answered by the news.** Suppose that a look
answers by what is there and by what of it is new, and that all writes are known afterwards. -/
theorem watch_eq {E A : Type} (look : E → World → A × E × World) (toEnd : SegmentReader → E)
    {answer : Glance → Option Contents → A} {name : String} {f : Feed} {g : Glance}
    (h : f.Shows g) (hname : f.writer.name = name)
    (hlook : ∀ {f : Feed} {g : Glance} {seen : Nat},
      f.Shows g → f.writer.name = name → seen ≤ g.contents.writes →
      look (toEnd (f.writer.readerAt seen)) f.world =
        (answer g (if g.contents.newer seen then some g.contents else none),
          toEnd (f.writer.readerAt g.contents.writes), f.world))
    {seen : Nat} (hseen : seen ≤ g.contents.writes) (moves : List Move) :
    watch look f (toEnd (f.writer.readerAt seen)) moves
      = List.zipWith answer (g.atLooks moves) (news seen (g.atLooks moves)) := by
  induction moves generalizing f g seen with
  | nil => rfl
  | cons m moves ih =>
      -- each move is followed on both sides, and at a look the answer is the next one of the list
      have hnext := ih (h.after m) (h.name_after m ▸ hname) (Nat.le_trans hseen (g.writes_after m))
      cases m with
      | publish bytes => rwa [h.readerAt_after] at hnext
      | exit => exact hnext
      | look =>
          rw [watch, hlook h hname hseen, Glance.atLooks, news, List.zipWith_cons_cons]
          exact congrArg _ (ih h hname (Nat.le_refl _))

/-- In a directory without files, where every process runs, a segment can be made. -/
theorem made_vacant {name file : String}
    (hname : Directory.fileName name Stage.vacant.world.directory.self = file)
    (hslash : '/' ∉ file.toList) (hnul : file.contains '\x00' = false)
    (hshort : file.utf8ByteSize ≤ Path.maxName) :
    ∃ writer w, Stage.vacant.world.createSegment name Segment.minSize = (.ok writer, w) ∧
      blank ⟨w, writer⟩ Segment.minSize = ⟨.zeros Segment.minSize, true⟩ := by
  obtain ⟨writer, hwriter⟩ := Directory.create_of_empty rfl hname rfl rfl hslash hnul hshort
    (show Segment.sizeFault? Segment.minSize = none by decide)
  have hmade : Stage.vacant.world.createSegment name Segment.minSize
      = (.ok writer, (Stage.vacant.world.createSegment name Segment.minSize).2) :=
    Prod.ext hwriter rfl
  refine ⟨writer, _, hmade, ?_⟩
  obtain ⟨-, hdirectory⟩ := World.createSegment_eq_ok hmade
  unfold blank Feed.running
  rw [hdirectory, (Directory.create_eq_ok hwriter).alive]
  rfl

end Feed

/-- A frame without a body. -/
def Frame.bare (type : FrameType) : List UInt8 := Codec.u32.write type ++ Codec.bytesOf 4 0

end OperatorPanel
