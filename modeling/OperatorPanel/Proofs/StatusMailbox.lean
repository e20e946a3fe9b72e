import OperatorPanel.Client
import OperatorPanel.Proofs.Feed

/-!
# The status in shared memory

A status channel keeps what was found when it was opened until it is looked at; from then on it
reports what is new. So nothing is reported twice or out of order, and from the second look on
nothing that is there is missed (`Shared.status_mailbox`).

What was kept may have been overwritten before the first look. It is reported all the same, so the
first status that is found need not be the newest one; every other one is
(`Shared.status_newest_iff`, `Shared.status_overtaken`).
-/

namespace OperatorPanel

open Feed (Move)

/-- The status in an answer. -/
def Peek.status? : Peek → Option Status
  | .status s => some s
  | _ => none

namespace Shared

def Slot.value? {α : Type} : Slot α → Option α
  | .value x => some x
  | _ => none

/-- What is said of a frame in the status segment. -/
def Slot.peek : Slot Status → Peek
  | .value s => .status s
  | .broken fault => .fault fault.text
  | .empty => .noData
  | .foreign type => .other type

/-- What is found in the status segment. -/
def statusIn (c : Contents) : Slot Status := found Codec.status .status c.bytes

/-- What a look says, given what it looks into. -/
def report (segment : String) (g : Glance) : Option Contents → Peek
  | some c => (statusIn c).peek
  | none => if g.running then .noData else .fault (segment ++ " writer exited")

section

variable {f : Feed} {g : Glance} {channel : String}

/-- Once the status from the opening was taken, a look reports what is new. -/
theorem peek_eq (h : f.Shows g) (hname : f.writer.name = statusSegment channel) {seen : Nat}
    (hseen : seen ≤ g.contents.writes) :
    (transport channel).peek ⟨f.writer.readerAt seen, none⟩ f.world =
      (report (statusSegment channel) g
          (if g.contents.newer seen then some g.contents else none),
        ⟨f.writer.readerAt g.contents.writes, none⟩, f.world) := by
  have hsegment : (f.writer.readerAt seen).name = statusSegment channel := hname
  simp only [peek, h.hasChanged hseen, h.writerAlive seen, hsegment]
  -- where nothing is new, all that is left to ask is whether the controller still runs
  by_cases hnewer : g.contents.newer seen = true
  · obtain ⟨block, hread, hslot⟩ := h.read seen
    have hslot : slot Codec.status .status block = statusIn g.contents := hslot ..
    simp only [if_pos hnewer, hread, hslot]
    show _ = ((statusIn g.contents).peek, _)
    cases statusIn g.contents <;> rfl
  · simp only [if_neg hnewer, ← Feed.Shows.readerAt_eq hseen hnewer]
    show _ = (if g.running then _ else _, _)
    cases g.running <;> rfl

/-- Where a status stands the channel is opened, and keeps it. -/
theorem openStatus_eq (h : f.Shows g) (hname : f.writer.name = statusSegment channel)
    {first : Status} (hfirst : statusIn g.contents = .value first) :
    ∃ w, openStatus channel f.world
        = (.ok ⟨f.writer.readerAt g.contents.writes, some first⟩, w) ∧
      Feed.Shows ⟨w, f.writer⟩ g := by
  obtain ⟨w, hattach, hshows⟩ := h.attach
  obtain ⟨block, hread, hslot⟩ := hshows.read 0
  have hslot : slot Codec.status .status block = .value first := (hslot ..).trans hfirst
  rw [hname] at hattach
  refine ⟨w, ?_, hshows⟩
  unfold openStatus statusEnd
  simp only [hattach, hread, hslot]

/-- The first look reports what was kept, and every other one what is new. -/
theorem watch_eq (h : f.Shows g) (hname : f.writer.name = statusSegment channel) {c : Contents}
    {first : Status} (hfirst : statusIn c = .value first) (hc : c.writes ≤ g.contents.writes)
    (moves : List Move) :
    Feed.watch (transport channel).peek f ⟨f.writer.readerAt c.writes, some first⟩ moves
      = List.zipWith (report (statusSegment channel)) (g.atLooks moves)
          (examined c (g.atLooks moves)) := by
  -- by induction on the moves; up to the first look nothing happens to the end, so what was kept is
  -- still there
  induction moves generalizing f g with
  | nil => rfl
  | cons m moves ih =>
      have hnext := ih (h.after m) ((h.name_after m).trans hname)
        (Nat.le_trans hc (g.writes_after m))
      cases m with
      | publish bytes => rwa [h.readerAt_after] at hnext
      | exit => exact hnext
      | look =>
          rw [Glance.atLooks, examined, List.zipWith_cons_cons, report, hfirst]
          exact congrArg _ (Feed.watch_eq (transport channel).peek (fun r => ⟨r, none⟩) h hname
            (fun h hname hseen => peek_eq h hname hseen) hc moves)

end

/-- A status segment was made, and the channel opened when a status stood in it: what is said look
by look from then on. -/
theorem answers_eq {w w₁ : World} {channel : String} {size : Nat} {writer : SegmentWriter}
    (hmade : w.createSegment (statusSegment channel) size = (.ok writer, w₁)) (before : List Move)
    {first : Status}
    (hfirst : statusIn ((Feed.blank ⟨w₁, writer⟩ size).run before).contents = .value first) :
    let f := Feed.run ⟨w₁, writer⟩ before
    let g := (Feed.blank ⟨w₁, writer⟩ size).run before
    let s : StatusEnd := ⟨f.writer.readerAt g.contents.writes, some first⟩
    ∃ w₂, openStatus channel f.world = (.ok s, w₂) ∧ Feed.Shows ⟨w₂, f.writer⟩ g ∧
      ∀ moves, Feed.watch (transport channel).peek ⟨w₂, f.writer⟩ s moves
        = List.zipWith (report (statusSegment channel)) (g.atLooks moves)
            (examined g.contents (g.atLooks moves)) := by
  intro f g s
  obtain ⟨hblank, hname⟩ := Feed.Shows.made hmade
  have hshows : f.Shows g := hblank.run before
  have hname' : f.writer.name = statusSegment channel := (hblank.name_run before).trans hname
  obtain ⟨w₂, hopen, hshows₂⟩ := openStatus_eq hshows hname' hfirst
  exact ⟨w₂, hopen, hshows₂, watch_eq hshows₂ hname' hfirst (Nat.le_refl _)⟩

/-- Where an answer was given something was there, and something or nothing was looked into. -/
theorem getElem?_report {segment : String} {looks : List Glance} {seen : List (Option Contents)}
    {i : Nat} {now : Glance} {answer : Peek} (hnow : looks[i]? = some now)
    (h : (List.zipWith (report segment) looks seen)[i]? = some answer) :
    ∃ c?, seen[i]? = some c? ∧ answer = report segment now c? := by
  obtain ⟨now', c?, hnow', hseen, rfl⟩ := List.getElem?_zipWith_eq_some.1 h
  rw [hnow] at hnow'
  cases hnow'
  exact ⟨c?, hseen, rfl⟩

/-- A status is reported only where it was looked into. -/
theorem eq_some_of_report_status {segment : String} {g : Glance} {c? : Option Contents}
    {s : Status} (h : report segment g c? = .status s) :
    ∃ c, c? = some c ∧ statusIn c = .value s := by
  cases c? with
  | none =>
      rw [report] at h
      split at h <;> cases h
  | some c =>
      refine ⟨c, rfl, ?_⟩
      rw [report] at h
      cases hc : statusIn c <;> rw [hc] at h <;> cases h
      rfl

/-- That there is no data is reported only of an empty segment, or where nothing is new and the
controller is running. -/
theorem report_eq_noData {segment : String} {g : Glance} {c? : Option Contents}
    (h : report segment g c? = .noData) :
    (∃ c, c? = some c ∧ statusIn c = .empty) ∨ c? = none ∧ g.running = true := by
  -- only an empty segment has an answer of this kind among the contents
  cases c? with
  | none =>
      right
      rw [report] at h
      cases hrunning : g.running <;> rw [hrunning] at h <;> cases h
      exact ⟨rfl, rfl⟩
  | some c =>
      left
      refine ⟨c, rfl, ?_⟩
      rw [report] at h
      cases hc : statusIn c with
      | empty => rfl
      | value | broken | foreign =>
          rw [hc] at h
          cases h

/-- The statuses in the answers are those that were looked into. -/
theorem statuses_report {segment : String} {looks : List Glance} {seen : List (Option Contents)}
    (hlength : seen.length = looks.length) :
    (List.zipWith (report segment) looks seen).filterMap Peek.status?
      = seen.reduceOption.filterMap fun c => (statusIn c).value? := by
  -- by induction on the looks, of which each has one answer
  induction looks generalizing seen with
  | nil =>
      obtain rfl := List.eq_nil_of_length_eq_zero hlength
      rfl
  | cons g looks ih =>
      cases seen with
      | nil => cases hlength
      | cons c? seen =>
          have hrest := ih (Nat.succ.inj hlength)
          cases c? with
          | none =>
              rw [List.zipWith_cons_cons, List.reduceOption_cons_of_none, ← hrest, report]
              cases g.running <;> rfl
          | some c =>
              rw [List.zipWith_cons_cons, List.reduceOption_cons_of_some, report,
                List.filterMap_cons, List.filterMap_cons, hrest]
              cases statusIn c <;> rfl

/-- **The status mailbox.** A controller made the status segment, published whatever it liked and
showed a status last. Then the channel opens. Whatever is published afterwards, and whenever one
looks: what is looked into is the contents from the opening and the publications after it, in their
order and none twice, and is reported as what it is. So the statuses reported are among those that
were published, in their order. With fewer than `2 ^ 63` publications every look but the first
leaves nothing unexamined, and there is no data only where the segment is empty, or where an
earlier look examined what is there and the controller is running. -/
theorem status_mailbox {w w₁ : World} {channel : String} {size : Nat} {writer : SegmentWriter}
    (hmade : w.createSegment (statusSegment channel) size = (.ok writer, w₁)) (before : List Move)
    {first : Status}
    (hfirst : statusIn ((Feed.blank ⟨w₁, writer⟩ size).run before).contents = .value first)
    (moves : List Move) :
    let f := Feed.run ⟨w₁, writer⟩ before
    let g := (Feed.blank ⟨w₁, writer⟩ size).run before
    ∃ s w₂, openStatus channel f.world = (.ok s, w₂) ∧
      let answers := Feed.watch (transport channel).peek ⟨w₂, f.writer⟩ s moves
      let looks := g.atLooks moves
      let editions := g.contents :: g.editions moves
      let seen := examined g.contents looks
      answers = List.zipWith (report (statusSegment channel)) looks seen ∧
      seen.reduceOption.Sublist editions ∧
      editions.Pairwise (·.writes < ·.writes) ∧
      (answers.filterMap Peek.status?).Sublist (editions.filterMap fun c => (statusIn c).value?) ∧
      ((g.editions moves).length < valuesOf 63 → ∀ i now, looks[i]? = some now →
        (0 < i → some now.contents ∈ seen.take (i + 1)) ∧
        (answers[i]? = some .noData → statusIn now.contents = .empty ∨
          now.running = true ∧ some now.contents ∈ seen.take i)) := by
  intro f g
  obtain ⟨w₂, hopen, -, hanswers⟩ := answers_eq hmade before hfirst
  refine ⟨_, w₂, hopen, ?_⟩
  intro answers looks editions seen
  have hanswers : answers = List.zipWith (report (statusSegment channel)) looks seen :=
    hanswers moves
  have hseen : seen.reduceOption.Sublist editions := examined_sublist g moves
  -- that nothing is missed is known of the contents that were examined, so every answer is taken
  -- back to what was looked into
  refine ⟨hanswers, hseen, g.editions_increase moves, ?_, fun hfew i now hnow => ⟨?_, ?_⟩⟩
  · rw [hanswers, statuses_report (length_examined ..)]
    exact hseen.filterMap _
  · intro hpos
    exact newest_examined hfew hpos hnow
  · intro hnoData
    rw [hanswers] at hnoData
    obtain ⟨c?, hexamined, hreport⟩ := getElem?_report hnow hnoData
    rcases report_eq_noData hreport.symm with ⟨c, rfl, hempty⟩ | ⟨rfl, hrunning⟩
    · left
      have hc := contents_of_examined hnow hexamined
      by_cases hzero : i = 0
      · -- the first look finds the status from the opening
        rw [if_pos hzero] at hc
        rw [hc, hfirst] at hempty
        cases hempty
      · rw [if_neg hzero] at hc
        exact hc ▸ hempty
    · -- nothing new was found now, so what is there was examined before
      right
      have hknown : some now.contents ∈ seen.take (i + 1) :=
        newest_examined hfew (pos_of_examined hexamined) hnow
      rw [List.take_add_one, hexamined, List.mem_append] at hknown
      rcases hknown with hknown | hknown
      · exact ⟨hrunning, hknown⟩
      · cases List.mem_singleton.1 hknown

/-- The frame of a status. -/
def statusFrame (s : Status) : List UInt8 :=
  ((Frame.encode Codec.status .status s).toOption).getD []

/-- Two statuses that follow one another. -/
def statusBefore : Status := {}
def statusAfter : Status := { echo := 1 }

/-- The segment of a controller that has published the first of them. -/
theorem made_statusBefore : ∃ writer w,
    Stage.vacant.world.createSegment (statusSegment "p") Segment.minSize = (.ok writer, w) ∧
      Feed.blank ⟨w, writer⟩ Segment.minSize = ⟨.zeros Segment.minSize, true⟩ ∧
      statusIn ((Feed.blank ⟨w, writer⟩ Segment.minSize).run
        [.publish (statusFrame statusBefore)]).contents = .value statusBefore := by
  have hname : Directory.fileName (statusSegment "p") Stage.vacant.world.directory.self
      = "hmi_p_stat_77" := by
    decide +kernel
  obtain ⟨writer, w, hmade, hblank⟩ :=
    Feed.made_vacant hname (by decide +kernel) (by simp) (by decide +kernel)
  refine ⟨writer, w, hmade, hblank, ?_⟩
  rw [hblank, statusIn, found_eq_value_iff]
  decide +kernel

/-- Looks at everything that may stand in a status segment, until the controller is gone. -/
def kinds : List Move :=
  [.look, .publish (Frame.bare .status), .look, .look, .publish (Frame.bare .notice), .look,
    .publish (Frame.bare .empty), .look, .publish (statusFrame statusAfter), .exit, .look, .look]

theorem status_mailbox_kinds : ∃ writer w₁ s w₂,
    Stage.vacant.world.createSegment (statusSegment "p") Segment.minSize = (.ok writer, w₁) ∧
      let f := Feed.run ⟨w₁, writer⟩ [.publish (statusFrame statusBefore)]
      openStatus "p" f.world = (.ok s, w₂) ∧
      Feed.watch (transport "p").peek ⟨w₂, f.writer⟩ s kinds =
        [.status statusBefore, .fault "bincode: io error: unexpected end of file", .noData,
          .other .notice, .noData, .status statusAfter, .fault "p_stat writer exited"] := by
  obtain ⟨writer, w₁, hmade, hblank, hfirst⟩ := made_statusBefore
  obtain ⟨s, w₂, hopen, hanswers, -⟩ := status_mailbox hmade _ hfirst kinds
  refine ⟨writer, w₁, s, w₂, hmade, hopen, hanswers.trans ?_⟩
  rw [hblank]
  decide +kernel

/-! ### Which status is the newest

What is kept from the opening is the one thing that may be out of date when it is reported. The
theorem below says exactly when: at the first look, and if the segment shows another status by then.
-/

/-- Refresh the status through a link. -/
def refreshing {T : Transport} (e : Watch × Link T) (w : World) :
    (Except PanelError Freshness × Watch) × (Watch × Link T) × World :=
  let (r, watch, l, w) := e.1.refresh e.2 w
  ((r, watch), (watch, l), w)

/-- The status that a refresh has found. -/
def refreshed : Except PanelError Freshness × Watch → Option Status
  | (.ok .new, watch) => some watch.status
  | _ => none

/-- A refresh finds a status just when a look does, and keeps this one. -/
theorem watch_refreshing {T : Transport} (f : Feed) (watch : Watch) {l : Link T} {s : T.StatusEnd}
    (hstatus : l.status = some s) (moves : List Move) :
    (f.watch refreshing (watch, l) moves).map refreshed
      = (f.watch T.peek s moves).map Peek.status? := by
  -- by induction on the moves; the link takes every look over to its status end
  induction moves generalizing f watch l s with
  | nil => rfl
  | cons m moves ih =>
      cases m with
      | publish bytes => exact ih (f.after (.publish bytes)) watch hstatus
      | exit => exact ih (f.after .exit) watch hstatus
      | look =>
          obtain ⟨found, s', w', hpeek⟩ : ∃ found s' w', T.peek s f.world = (found, s', w') :=
            ⟨_, _, _, rfl⟩
          have hlink : l.peek f.world = (found, { l with status := some s' }, w') := by
            simp only [Link.peek, hstatus, hpeek]
          simp only [Feed.watch, refreshing, Watch.refresh, hlink, hpeek, List.map_cons]
          cases found with
          | status st => exact congrArg _ (ih ⟨w', f.writer⟩ _ rfl)
          | noData | fault | other => exact congrArg _ (ih ⟨w', f.writer⟩ _ rfl)

/-- **A status that is found is the newest, unless the first look comes late.** The first look finds
the status from the opening. A status that is found at any look, or kept by a refresh that reports a
new one, is the newest in the segment, except just when this is the first look and the segment no
longer shows the status from the opening. -/
theorem status_newest_iff {w w₁ : World} {channel : String} {size : Nat} {writer : SegmentWriter}
    (hmade : w.createSegment (statusSegment channel) size = (.ok writer, w₁)) (before : List Move)
    {first : Status}
    (hfirst : statusIn ((Feed.blank ⟨w₁, writer⟩ size).run before).contents = .value first)
    (moves : List Move) (watch : Watch) (l : Link (transport channel)) :
    let f := Feed.run ⟨w₁, writer⟩ before
    let looks := ((Feed.blank ⟨w₁, writer⟩ size).run before).atLooks moves
    ∃ s w₂, openStatus channel f.world = (.ok s, w₂) ∧
      let answers := Feed.watch (transport channel).peek ⟨w₂, f.writer⟩ s moves
      let refreshes :=
        Feed.watch refreshing ⟨w₂, f.writer⟩ (watch, { l with status := some s }) moves
      ∀ i now, looks[i]? = some now →
        (i = 0 → answers[i]? = some (.status first)) ∧
        ∀ st, answers[i]? = some (.status st) ∨ (refreshes.map refreshed)[i]? = some (some st) →
          (statusIn now.contents = .value st ↔
            (i = 0 → statusIn now.contents = .value first)) := by
  intro f looks
  obtain ⟨w₂, hopen, -, hanswers⟩ := answers_eq hmade before hfirst
  refine ⟨_, w₂, hopen, ?_⟩
  intro answers refreshes i now hnow
  have hanswers : answers
      = List.zipWith (report (statusSegment channel)) looks (examined _ looks) :=
    hanswers moves
  constructor
  · -- the first look reports what was kept at the opening
    rintro rfl
    obtain ⟨later, hlooks⟩ : ∃ later, looks = now :: later := by
      cases hlooks : looks <;> rw [hlooks] at hnow <;> cases hnow
      exact ⟨_, rfl⟩
    rw [hanswers, hlooks, examined, List.zipWith_cons_cons, report, hfirst]
    rfl
  · intro st hst
    -- a refresh finds what a look finds
    have hanswer : answers[i]? = some (.status st) := by
      rcases hst with hst | hst
      · exact hst
      · rw [watch_refreshing ⟨w₂, f.writer⟩ watch rfl, List.getElem?_map] at hst
        change answers[i]?.map Peek.status? = _ at hst
        obtain ⟨answer, hanswer, hstatus⟩ := Option.map_eq_some_iff.1 hst
        cases answer <;> cases hstatus
        exact hanswer
    rw [hanswers] at hanswer
    obtain ⟨c?, hexamined, hreport⟩ := getElem?_report hnow hanswer
    obtain ⟨c, rfl, hst⟩ := eq_some_of_report_status hreport.symm
    have hc := contents_of_examined hnow hexamined
    -- at a later look the contents that were looked into are those that stand there
    by_cases hzero : i = 0
    · rw [if_pos hzero] at hc
      rw [hc, hfirst] at hst
      cases hst
      simp [hzero]
    · rw [if_neg hzero] at hc
      rw [← hc, hst]
      simp [hzero]

/-- A status that is published after the opening and before the first look. -/
def overtaking : List Move := [.publish (statusFrame statusAfter), .look, .look]

/-- The first look does not find it, the second one does. -/
theorem status_newest_iff_overtaking : ∃ writer w₁ s w₂,
    Stage.vacant.world.createSegment (statusSegment "p") Segment.minSize = (.ok writer, w₁) ∧
      let f := Feed.run ⟨w₁, writer⟩ [.publish (statusFrame statusBefore)]
      openStatus "p" f.world = (.ok s, w₂) ∧
      let answers := Feed.watch (transport "p").peek ⟨w₂, f.writer⟩ s overtaking
      let looks := ((Feed.blank ⟨w₁, writer⟩ Segment.minSize).run
        [.publish (statusFrame statusBefore)]).atLooks overtaking
      answers[0]? = some (.status statusBefore) ∧
      (∃ now, looks[0]? = some now ∧ statusIn now.contents ≠ .value statusBefore) ∧
      ∀ now st, looks[1]? = some now → answers[1]? = some (.status st) →
        statusIn now.contents = .value st := by
  obtain ⟨writer, w₁, hmade, hblank, hfirst⟩ := made_statusBefore
  obtain ⟨s, w₂, hopen, hnewest⟩ := status_newest_iff hmade _ hfirst overtaking {}
    { retry := ⟨⟨0⟩, ⟨0⟩⟩, silences := false }
  refine ⟨writer, w₁, s, w₂, hmade, hopen, ?_⟩
  rw [hblank] at hnewest ⊢
  refine ⟨(hnewest 0 _ rfl).1 rfl, ?_, fun now st hnow hst => ?_⟩
  · refine ⟨_, rfl, ?_⟩
    rw [statusIn, ne_eq, found_eq_value_iff]
    decide +kernel
  · exact ((hnewest 1 now hnow).2 st (.inl hst)).2 nofun

/-- What a peek reports need not be the newest: a status that is published between the opening and
the first look is passed over by this. -/
theorem status_overtaken : ∃ writer w₁ s w₂,
    Stage.vacant.world.createSegment (statusSegment "p") Segment.minSize = (.ok writer, w₁) ∧
      let f := Feed.run ⟨w₁, writer⟩ [.publish (statusFrame statusBefore)]
      openStatus "p" f.world = (.ok s, w₂) ∧
      let f' := Feed.after ⟨w₂, f.writer⟩ (.publish (statusFrame statusAfter))
      ((transport "p").peek s f'.world).1 = .status statusBefore ∧
      (∃ block reader, s.reader.read f'.world.directory = .ok (block, reader) ∧
        slot Codec.status .status block = .value statusAfter) ∧
      statusBefore ≠ statusAfter := by
  obtain ⟨writer, w₁, hmade, hblank, hfirst⟩ := made_statusBefore
  obtain ⟨w₂, hopen, hshows, -⟩ := answers_eq hmade _ hfirst
  refine ⟨writer, w₁, _, w₂, hmade, hopen, rfl, ?_, by decide⟩
  have hlater := hshows.after (.publish (statusFrame statusAfter))
  obtain ⟨block, hread, hslot⟩ := hlater.read
    ((Feed.blank ⟨w₁, writer⟩ Segment.minSize).run
      [.publish (statusFrame statusBefore)]).contents.writes
  rw [hshows.readerAt_after] at hread
  refine ⟨block, _, hread, ?_⟩
  rw [hslot, found_eq_value_iff, hblank]
  decide +kernel

end Shared
end OperatorPanel
