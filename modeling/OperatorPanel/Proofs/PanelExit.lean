import OperatorPanel.PinBus
import OperatorPanel.Proofs.NamedSamples

/-!
# When a panel exits

A bus that finds the writer of the panel's segment dead gives the segment up and makes every input
inactive. The file may still be there, and the next sample attaches to it again, by a reader that
has read nothing yet: what the panel wrote last is news to it. So the inputs of a panel that exited
stay inactive just as long as nothing that the bus takes over names a pin.

* `SegmentBus.sampled`: the four ways of a sample.
* `SegmentBus.samples_empty_iff`: samples stay empty as long as the news does, whatever becomes of
  the directory meanwhile.
* `SegmentBus.inactive_iff`: after the writer was found dead, with a directory that is left alone,
  it is the frame left behind that decides.
-/

namespace OperatorPanel

/-! ### News

A reader compares the version that it remembers with that of the file. One that has read nothing yet
remembers zero, and so any frame in the file is news to it.
-/

/-- What a reader finds that it has not read yet, if it is a frame of pins. -/
def SegmentReader.news (r : SegmentReader) (d : Directory) : Option (List NamedPin) :=
  if r.hasChanged d then
    match r.read d with
    | .error _ => none
    | .ok (block, _) =>
      match Shared.slot Codec.pins .pins block with
      | .value pins => some pins
      | .broken _ | .empty | .foreign _ => none
  else none

/-- What a reader remembers of a read is the version. -/
theorem SegmentReader.readRange_eq_ok {r r' : SegmentReader} {start length : Nat} {d : Directory}
    {block : Block} (h : r.readRange start length d = .ok (block, r')) :
    r' = { r with version := (r.header d).version } := by
  unfold SegmentReader.readRange at h
  dsimp only at h
  split at h
  · cases h
  · split at h
    · cases h
      rfl
    · cases h

theorem SegmentReader.read_eq_ok {r r' : SegmentReader} {d : Directory} {block : Block}
    (h : r.read d = .ok (block, r')) : r' = { r with version := (r.header d).version } :=
  readRange_eq_ok h

/-- The frame that is news to whoever attaches to a segment now. -/
def Directory.leftBehind (d : Directory) (name : String) : Option (List NamedPin) :=
  match d.attach name with
  | (.ok reader, d) => reader.news d
  | (.error _, _) => none

/-! ### Counting readers

Attaching, reading and giving up change the counts of readers in the files, which nobody asks for.
So for all questions about news a directory may be replaced by one that differs in these counts.
-/

/-- The same directory, but for the numbers of readers. -/
structure Directory.Counts (d d' : Directory) : Prop where
  root : d'.root = d.root
  fault : d'.fault = d.fault
  alive : d'.alive = d.alive
  entries : d'.entries = d.entries
  file : ∀ n, ∃ count, d'.file n =
    { d.file n with header := { (d.file n).header with readerCount := count } }

namespace Directory.Counts

variable {d d' : Directory}

theorem refl (d : Directory) : d.Counts d := ⟨rfl, rfl, rfl, rfl, fun _ => ⟨_, rfl⟩⟩

theorem trans {d₁ : Directory} (h : d.Counts d₁) (h' : d₁.Counts d') : d.Counts d' where
  root := h'.root.trans h.root
  fault := h'.fault.trans h.fault
  alive := h'.alive.trans h.alive
  entries := h'.entries.trans h.entries
  file n := by
    obtain ⟨count, hfile⟩ := h.file n
    obtain ⟨count', hfile'⟩ := h'.file n
    rw [hfile] at hfile'
    exact ⟨count', hfile'⟩

/-- Attaching and detaching count. -/
theorem modifyHeader (d : Directory) (number : Nat) {f : SegmentHeader → SegmentHeader}
    (hf : ∀ header, ∃ count, f header = { header with readerCount := count }) :
    d.Counts (d.modifyHeader number f) := by
  refine ⟨rfl, rfl, rfl, rfl, fun n => ?_⟩
  unfold Directory.modifyHeader Directory.modify Directory.file
  rw [List.getD_eq_getElem?_getD, List.getD_eq_getElem?_getD, List.getElem?_modify]
  split
  · cases hget : d.files[n]? with
    | none => exact ⟨_, rfl⟩
    | some file =>
        obtain ⟨count, hcount⟩ := hf file.header
        refine ⟨count, ?_⟩
        show { file with header := f file.header } = _
        rw [hcount]
        rfl
  · exact ⟨(d.files[n]?.getD default).header.readerCount, by simp⟩

/-- Versions are no counts of readers. -/
theorem version (h : d.Counts d') (n : Nat) :
    (d'.file n).header.version = (d.file n).header.version := by
  obtain ⟨count, hfile⟩ := h.file n
  rw [hfile]

theorem data (h : d.Counts d') (n : Nat) : (d'.file n).data = (d.file n).data := by
  obtain ⟨count, hfile⟩ := h.file n
  rw [hfile]

theorem fault? (h : d.Counts d') (n : Nat) (name : String) :
    (d'.file n).fault? name = (d.file n).fault? name := by
  obtain ⟨count, hfile⟩ := h.file n
  rw [hfile]
  rfl

theorem find (h : d.Counts d') (name : String) : d'.find name = d.find name := by
  unfold Directory.find
  rw [h.fault, h.root, h.entries]

theorem preferred (h : d.Counts d') (m n : Directory.Match) :
    d'.preferred m n = d.preferred m n := by
  obtain ⟨_, hm⟩ := h.file m.number
  obtain ⟨_, hn⟩ := h.file n.number
  unfold Directory.preferred
  rw [h.alive, hm, hn]

/-- Which of several files is taken depends on their owners and their stamps. -/
theorem best? (h : d.Counts d') (ms : List Directory.Match) : d'.best? ms = d.best? ms := by
  induction ms with
  | nil => rfl
  | cons m ms ih => simp only [Directory.best?, ih, h.preferred]

theorem select (h : d.Counts d') (name : String) : d'.select name = d.select name := by
  unfold Directory.select
  rw [h.find]
  simp only [h.best?]

/-- Whoever attaches finds the same. -/
theorem attach (h : d.Counts d') (name : String) :
    (d'.attach name).1 = (d.attach name).1 ∧ d.Counts (d'.attach name).2 := by
  unfold Directory.attach
  rw [h.select]
  split
  · exact ⟨rfl, h⟩
  · next m _ =>
      obtain ⟨_, hfile⟩ := h.file m.number
      rw [h.fault?]
      split
      · exact ⟨rfl, h⟩
      · rw [hfile]
        exact ⟨rfl, h.trans (modifyHeader d' m.number fun _ => ⟨_, rfl⟩)⟩

theorem drop (h : d.Counts d') (r : SegmentReader) : d.Counts (r.drop d') :=
  h.trans (modifyHeader d' r.number fun _ => ⟨_, rfl⟩)

theorem hasChanged (h : d.Counts d') (r : SegmentReader) : r.hasChanged d' = r.hasChanged d := by
  unfold SegmentReader.hasChanged SegmentReader.header
  rw [h.version]

/-- Readers find the same news. -/
theorem news (h : d.Counts d') (r : SegmentReader) : r.news d' = r.news d := by
  unfold SegmentReader.news SegmentReader.read SegmentReader.readRange SegmentReader.header
  rw [h.hasChanged, h.version, h.data]

end Directory.Counts

namespace SegmentBus

/-- What a sample takes over. -/
def news (b : SegmentBus) (w : World) : Option (List NamedPin) :=
  (b.attach w).1.reader.bind fun reader => reader.news (b.attach w).2.directory

/-- A sample has nothing to take over, and finds that the writer is not running any more. -/
def FindsDead (b : SegmentBus) (w : World) : Prop :=
  ∃ reader, (b.attach w).1.reader = some reader ∧
    reader.hasChanged (b.attach w).2.directory = false ∧
    reader.writerAlive (b.attach w).2.directory = false

/-! ### One sample

After the bus has tried to attach there are four ways on, and for each of them it is said what
becomes of the reader and of the inputs. What follows about many samples is read off these four.
-/

/-- The four ways of a sample, from some inputs; the reader and the directory are those after the
bus has tried to attach. -/
inductive Sampled (inputs : InputSample) (d : Directory) (reader? : Option SegmentReader) :
    SegmentBus → Directory → Prop
  /-- There is nothing to attach to. -/
  | missing {b' : SegmentBus} :
      reader? = none → b'.reader = none → b'.inputs = inputs → Sampled inputs d reader? b' d
  /-- The bus takes over what is new. -/
  | taken {b' : SegmentBus} {reader : SegmentReader} {pins : List NamedPin} :
      reader? = some reader → reader.news d = some pins →
      b'.reader = some { reader with version := (reader.header d).version } →
      b'.inputs = (InputSample.ofNamed pins).sample → Sampled inputs d reader? b' d
  /-- Nothing is new, or it is no frame of pins. -/
  | kept {b' : SegmentBus} {reader reader' : SegmentReader} :
      reader? = some reader → reader.news d = none → b'.reader = some reader' →
      (reader' = reader ∨ reader' = { reader with version := (reader.header d).version }) →
      b'.inputs = inputs → Sampled inputs d reader? b' d
  /-- Nothing is new, and the writer is not running any more. -/
  | exited {b' : SegmentBus} {reader : SegmentReader} :
      reader? = some reader → reader.hasChanged d = false → reader.writerAlive d = false →
      b'.reader = none → b'.inputs = .empty → Sampled inputs d reader? b' (reader.drop d)

theorem attach_inputs (b : SegmentBus) (w : World) :
    (b.attach w).1.inputs = b.inputs ∧ (b.attach w).1.inputSegment = b.inputSegment := by
  unfold attach
  split
  · exact ⟨rfl, rfl⟩
  · split <;> exact ⟨rfl, rfl⟩

/-- Warnings are about names only. -/
theorem warn_inputs (b : SegmentBus) (w : World) (names : List String) :
    (b.warn w names).1 = { b with warned := (b.warn w names).1.warned } ∧
      (b.warn w names).2.directory = w.directory := by
  induction names generalizing b w with
  | nil => exact ⟨rfl, rfl⟩
  | cons name names ih =>
      unfold warn
      split
      · exact ih b w
      · obtain ⟨hbus, hdirectory⟩ := ih { b with warned := name :: b.warned }
          (w.note .warn .pins "ignoring unknown input pin" [("pin", name)])
        refine ⟨?_, hdirectory⟩
        rw [hbus]

/-- A change that is found is read, and taken over if it is a frame of pins. -/
theorem take_sampled {b : SegmentBus} {reader : SegmentReader} {w : World}
    (hchanged : reader.hasChanged w.directory = true) (hreader : b.reader = some reader) :
    Sampled b.inputs w.directory b.reader (b.take reader w).1 (b.take reader w).2.directory := by
  unfold take
  split
  · -- what cannot be read is left for the next sample
    next hread =>
      refine .kept hreader ?_ hreader (.inl rfl) rfl
      rw [SegmentReader.news, hchanged, if_pos rfl, hread]
  · next block reader' hread =>
      have hreader' := SegmentReader.read_eq_ok hread
      have hnews : reader.news w.directory
          = match Shared.slot Codec.pins .pins block with
            | .value pins => some pins
            | .broken _ | .empty | .foreign _ => none := by
        rw [SegmentReader.news, hchanged, if_pos rfl, hread]
      dsimp only
      split  -- of what was read only a frame of pins is taken over
      · next pins hslot =>
          rw [hslot] at hnews
          obtain ⟨hwarn, hdirectory⟩ := warn_inputs { b with reader := some reader' } w
            (InputSample.ofNamed pins).unknown
          rw [hdirectory]
          refine .taken hreader hnews ?_ rfl
          rw [hwarn, hreader']
      · next hslot =>
          rw [hslot] at hnews
          exact .kept hreader hnews rfl (.inr hreader') rfl
      · next hslot =>
          rw [hslot] at hnews
          exact .kept hreader hnews rfl (.inr hreader') rfl
      · next hslot =>
          rw [hslot] at hnews
          exact .kept hreader hnews rfl (.inr hreader') rfl

/-- Without a change it is the writer that matters. -/
theorem look_sampled (b : SegmentBus) (w : World) :
    Sampled b.inputs w.directory b.reader (b.look w).1 (b.look w).2.directory := by
  unfold look
  split
  · next hreader => exact .missing hreader hreader rfl
  · next reader hreader =>
      split  -- something is new in the file, or the writer decides
      · next hchanged => exact take_sampled hchanged hreader
      · next hchanged =>
          rw [Bool.not_eq_true] at hchanged
          have hnews : reader.news w.directory = none := by
            rw [SegmentReader.news, hchanged]
            rfl
          split
          · exact .kept hreader hnews hreader (.inl rfl) rfl
          · next halive =>
              rw [Bool.not_eq_true] at halive
              exact .exited hreader hchanged halive rfl rfl

/-- **A sample goes one of the four ways.** -/
theorem sampled (b : SegmentBus) (w : World) :
    Sampled b.inputs (b.attach w).2.directory (b.attach w).1.reader (b.sample w).2.1
      (b.sample w).2.2.directory := by
  have hlook := look_sampled (b.attach w).1 (b.attach w).2
  rw [(b.attach_inputs w).1] at hlook
  exact hlook

/-- What a bus shows is what it keeps. -/
theorem sample_inputs (b : SegmentBus) (w : World) : (b.sample w).2.1.inputs = (b.sample w).1 :=
  rfl

/-- With news a sample is the news. -/
theorem sample_of_news {b : SegmentBus} {w : World} {pins : List NamedPin}
    (h : b.news w = some pins) : (b.sample w).1 = (InputSample.ofNamed pins).sample := by
  obtain ⟨reader, hreader, hnews⟩ := Option.bind_eq_some_iff.1 h
  have hsampled := b.sampled w
  rw [← sample_inputs]
  generalize (b.sample w).2.2.directory = d at hsampled
  -- the sample went one of the four ways, and only one of them goes with news
  cases hsampled with
  | missing hmissing =>
      rw [hmissing] at hreader
      cases hreader
  | taken hreader' hnews' _ hinputs =>
      cases hreader.symm.trans hreader'
      cases hnews.symm.trans hnews'
      exact hinputs
  | kept hreader' hnews' =>
      cases hreader.symm.trans hreader'
      cases hnews.symm.trans hnews'
  | exited hreader' hchanged =>
      cases hreader.symm.trans hreader'
      rw [SegmentReader.news, hchanged] at hnews
      cases hnews

/-- Without news inputs that are inactive stay so. -/
theorem sample_of_no_news {b : SegmentBus} {w : World} (h : b.news w = none)
    (hinputs : b.inputs = .empty) : (b.sample w).1 = .empty := by
  have hsampled := b.sampled w
  rw [← sample_inputs]
  generalize (b.sample w).2.2.directory = d at hsampled
  cases hsampled with
  | missing _ _ hkept => exact hkept.trans hinputs
  | taken hreader hnews =>
      rw [news, hreader, Option.bind_some, hnews] at h
      cases h
  | kept _ _ _ _ hkept => exact hkept.trans hinputs
  | exited _ _ _ _ hreset => exact hreset

/-- A bus that finds the writer dead gives the segment up and shows nothing. -/
theorem sample_of_findsDead {b : SegmentBus} {w : World} (h : b.FindsDead w) :
    (b.sample w).1 = .empty ∧ (b.sample w).2.1.reader = none := by
  obtain ⟨reader, hreader, hchanged, hdead⟩ := h
  unfold sample look
  dsimp only
  rw [hreader]
  dsimp only
  rw [hchanged, hdead]
  exact ⟨rfl, rfl⟩

/-! ### Many samples

Between two samples anything may become of the directory. All that matters for the inputs is what
the bus takes over, and only a frame that names a pin makes one of them active.
-/

/-- Samples one after the other; before each of them the directory changes. -/
def samples (b : SegmentBus) (w : World) : List (Directory → Directory) → List InputSample
  | [] => []
  | change :: changes =>
    let (s, b, w) := b.sample { w with directory := change w.directory }
    s :: b.samples w changes

/-- What these samples take over. -/
def newsOf (b : SegmentBus) (w : World) : List (Directory → Directory) → List (List NamedPin)
  | [] => []
  | change :: changes =>
    let w := { w with directory := change w.directory }
    (b.news w).toList ++ (b.sample w).2.1.newsOf (b.sample w).2.2 changes

/-- **Inputs that are inactive stay so just as long as no news names a pin**, whatever becomes of
the directory. -/
theorem samples_empty_iff {b : SegmentBus} (w : World) (changes : List (Directory → Directory))
    (hinputs : b.inputs = .empty) :
    (∀ s ∈ b.samples w changes, s = .empty) ↔
      ∀ pins ∈ b.newsOf w changes, ∀ pin ∈ pins, InputPin.parse? pin.name = none := by
  -- the invariant is that the inputs are inactive before every sample
  induction changes generalizing b w with
  | nil => simp [samples, newsOf]
  | cons change changes ih =>
      rw [samples, newsOf, List.forall_mem_cons]
      generalize hw : ({ w with directory := change w.directory } : World) = w₁
      cases hnews : b.news w₁ with
      | none =>
          have hempty := sample_of_no_news hnews hinputs
          have hrest := ih (b.sample w₁).2.2 ((b.sample_inputs w₁).trans hempty)
          rw [Option.toList_none, List.nil_append, ← hrest]
          exact and_iff_right hempty
      | some pins =>
          have hsample := sample_of_news hnews
          rw [Option.toList_some, List.singleton_append, List.forall_mem_cons, hsample,
            InputSample.ofNamed_eq_empty_iff]
          -- a frame without known pins leaves the inputs inactive for the samples after it
          refine and_congr_right fun hpins => ih (b.sample w₁).2.2 ?_
          rw [sample_inputs, hsample]
          exact (InputSample.ofNamed_eq_empty_iff pins).2 hpins

/-! ### A directory that is left alone

Where nothing changes but the counts of readers, a bus can find one frame at most: the one that
whoever attaches would find. It may find it again and again, since it gives the file up and attaches
to it anew.
-/

/-- A reader of the file to which one attaches in `d`: it has read what is there, or nothing. -/
def Attached (d : Directory) (name : String) (r : SegmentReader) : Prop :=
  ∃ fresh, (d.attach name).1 = .ok fresh ∧
    (r = fresh ∨ r = { fresh with version := (fresh.header d).version })

theorem Attached.read {d : Directory} {name : String} {r : SegmentReader}
    (h : Attached d name r) : Attached d name { r with version := (r.header d).version } := by
  obtain ⟨fresh, hfresh, rfl | rfl⟩ := h
  · exact ⟨r, hfresh, .inr rfl⟩
  · exact ⟨fresh, hfresh, .inr rfl⟩

/-- What has been read is no news. -/
theorem Attached.news {d : Directory} {name : String} {r : SegmentReader} {pins : List NamedPin}
    (h : Attached d name r) (hnews : r.news d = some pins) : d.leftBehind name = some pins := by
  obtain ⟨fresh, hfresh, rfl | rfl⟩ := h
  · have hcounts := ((Directory.Counts.refl d).attach name).2
    unfold Directory.leftBehind
    rcases hattach : d.attach name with ⟨found, d'⟩
    rw [hattach] at hfresh hcounts
    dsimp only at hfresh hcounts
    rw [hfresh, ← hnews]
    exact hcounts.news r
  · -- this reader has read what is there, so nothing is new to it
    have hchanged : SegmentReader.hasChanged
        { fresh with version := (fresh.header d).version } d = false := by
      simp [SegmentReader.hasChanged, SegmentReader.header]
    rw [SegmentReader.news, hchanged] at hnews
    cases hnews

/-- A bus in a directory in which nothing has happened since `d` but the bus itself. -/
structure Alone (d : Directory) (name : String) (b : SegmentBus) (w : World) : Prop where
  counts : d.Counts w.directory
  segment : b.inputSegment = name
  reader : ∀ r, b.reader = some r → Attached d name r

variable {d : Directory} {name : String} {b : SegmentBus} {w : World}

theorem Alone.attach (h : Alone d name b w) : Alone d name (b.attach w).1 (b.attach w).2 := by
  -- whoever attaches now finds what one would have found in `d`
  obtain ⟨hresult, hcounts⟩ := h.counts.attach name
  unfold SegmentBus.attach World.attachSegment
  split
  · exact h
  · next hdetached =>
      rw [h.segment]
      rcases hattach : w.directory.attach name with ⟨r, d'⟩
      rw [hattach] at hresult hcounts
      cases r with
      | error fault =>
          refine ⟨hcounts, h.segment, fun r hr => ?_⟩
          rw [hdetached] at hr
          cases hr
      | ok fresh =>
          refine ⟨hcounts, rfl, fun r hr => ?_⟩
          cases hr
          exact ⟨fresh, hresult.symm, .inl rfl⟩

theorem inputSegment_sample (b : SegmentBus) (w : World) :
    (b.sample w).2.1.inputSegment = b.inputSegment := by
  have hattach := (b.attach_inputs w).2
  rw [← hattach]
  show ((b.attach w).1.look (b.attach w).2).1.inputSegment = _
  unfold look take  -- no step of a look names a segment, but for the journal
  split
  · rfl
  · split
    · split
      · rfl
      · dsimp only
        split
        · rw [(warn_inputs _ _ _).1]
        · rfl
        · rfl
        · rfl
    · split <;> rfl

/-- A sample leaves the directory as it was but for the counts, on each of the four ways. -/
theorem Alone.sample (h : Alone d name b w) :
    Alone d name (b.sample w).2.1 (b.sample w).2.2 := by
  have hattach := h.attach
  have hsegment := (b.inputSegment_sample w).trans h.segment
  have hversion (r : SegmentReader) :
      (r.header (b.attach w).2.directory).version = (r.header d).version :=
    hattach.counts.version r.number
  have hsampled := b.sampled w
  -- attaching has been counted already, so only an exit counts once more
  have hcounts : d.Counts (b.sample w).2.2.directory := by
    generalize (b.sample w).2.2.directory = d' at hsampled
    cases hsampled with
    | missing => exact hattach.counts
    | taken => exact hattach.counts
    | kept => exact hattach.counts
    | exited => exact hattach.counts.drop _
  refine ⟨hcounts, hsegment, fun r hr => ?_⟩
  -- a bus that is still attached has read all that there is
  generalize (b.sample w).2.2.directory = d' at hsampled
  cases hsampled with
  | missing _ hnone _ =>
      rw [hnone] at hr
      cases hr
  | exited _ _ _ hnone =>
      rw [hnone] at hr
      cases hr
  | taken hreader _ hread _ =>
      rw [hread] at hr
      cases hr
      rw [hversion]
      exact (hattach.reader _ hreader).read
  | kept hreader _ hkept hor _ =>
      rw [hkept] at hr
      cases hr
      rcases hor with rfl | rfl
      · exact hattach.reader _ hreader
      · rw [hversion]
        exact (hattach.reader _ hreader).read

/-- All that can be news is the frame left behind. -/
theorem Alone.news (h : Alone d name b w) {pins : List NamedPin} (hnews : b.news w = some pins) :
    d.leftBehind name = some pins := by
  have hattach := h.attach
  obtain ⟨r, hr, hfound⟩ := Option.bind_eq_some_iff.1 hnews
  rw [hattach.counts.news] at hfound
  exact (hattach.reader r hr).news hfound

/-- By induction on the samples: each finds the frame left behind, or nothing. -/
theorem Alone.newsOf (h : Alone d name b w) (n : Nat) :
    ∀ pins ∈ b.newsOf w (List.replicate n id), d.leftBehind name = some pins := by
  induction n generalizing b w with
  | zero => simp [SegmentBus.newsOf]
  | succ n ih =>
      intro pins hpins
      rw [List.replicate_succ] at hpins
      rcases List.mem_append.1 hpins with hpins | hpins
      · exact h.news (Option.mem_toList.1 hpins)
      · exact ih h.sample pins hpins

/-- For a bus that is not attached, the frame left behind is news. -/
theorem news_eq_leftBehind (hdetached : b.reader = none) :
    b.news w = w.directory.leftBehind b.inputSegment := by
  unfold SegmentBus.news SegmentBus.attach World.attachSegment Directory.leftBehind
  rw [hdetached]
  dsimp only
  rcases w.directory.attach b.inputSegment with ⟨_ | fresh, d'⟩
  · dsimp only
    rw [hdetached]
    rfl
  · rfl

/-- **In a directory that is left alone, a bus that is not attached stays inactive just as long as
the frame left behind names no pin.** -/
theorem alone_samples_iff (hdetached : b.reader = none) (hinputs : b.inputs = .empty) :
    (∀ n, ∀ s ∈ b.samples w (List.replicate n id), s = .empty) ↔
      ∀ pins, w.directory.leftBehind b.inputSegment = some pins →
        ∀ pin ∈ pins, InputPin.parse? pin.name = none := by
  constructor
  · intro hempty pins hleft
    have hnews : b.news w = some pins := (news_eq_leftBehind hdetached).trans hleft
    -- already the first sample takes over what was left behind
    have hfirst := (samples_empty_iff w (List.replicate 1 id) hinputs).1 (hempty 1)
    refine hfirst pins ?_
    show pins ∈ (b.news w).toList ++ _
    rw [hnews]
    exact List.mem_cons_self ..
  · intro hleft n
    refine (samples_empty_iff w (List.replicate n id) hinputs).2 fun pins hpins => ?_
    have halone : Alone w.directory b.inputSegment b w :=
      ⟨.refl _, rfl, fun r hr => by rw [hdetached] at hr; cases hr⟩
    exact hleft pins (halone.newsOf n pins hpins)

/-! ### After the writer was found dead

The sample that finds the writer dead resets the inputs and gives the file up, and so the samples
after it start from a bus that is not attached.
-/

/-- **When the inputs of a panel that exited stay inactive.** A sample that finds the writer dead is
empty. Those that follow are empty as long as nothing that they take over names a pin; and if the
directory is left alone, that is just when the frame left behind names none. -/
theorem inactive_iff (hdead : b.FindsDead w) :
    (b.sample w).1 = .empty ∧
    (∀ changes, (∀ s ∈ (b.sample w).2.1.samples (b.sample w).2.2 changes, s = .empty) ↔
      ∀ pins ∈ (b.sample w).2.1.newsOf (b.sample w).2.2 changes,
        ∀ pin ∈ pins, InputPin.parse? pin.name = none) ∧
    ((∀ n, ∀ s ∈ (b.sample w).2.1.samples (b.sample w).2.2 (List.replicate n id), s = .empty) ↔
      ∀ pins, (b.sample w).2.2.directory.leftBehind b.inputSegment = some pins →
        ∀ pin ∈ pins, InputPin.parse? pin.name = none) := by
  obtain ⟨hempty, hdetached⟩ := sample_of_findsDead hdead
  have hinputs := (b.sample_inputs w).trans hempty
  refine ⟨hempty, fun changes => samples_empty_iff _ changes hinputs, ?_⟩
  rw [alone_samples_iff hdetached hinputs, inputSegment_sample]

end SegmentBus

/-! ### A panel that crashed

A panel may exit without dropping its segment, and then its last frame stays in the file.
-/

/-- No file of the segment has an owner or a writer that is running. -/
def Directory.Deserted (d : Directory) (name : String) : Prop :=
  ∀ ms, d.find name = .ok ms →
    ∀ m ∈ ms, d.alive m.pid = false ∧ d.alive (d.file m.number).header.writerPid = false

namespace Crash

/-- What the panel wrote last: one pin is active. -/
def frame : List UInt8 :=
  ((Frame.encode Codec.pins .pins [⟨"halui.machine.on", .bit true⟩]).toOption).getD []

/-- No process is running, and the file of one panel is left. -/
def world : World where
  simulator := { status := {} }
  directory :=
    { root := ""
      self := 1
      alive := fun _ => false
      entries := [("hmi_p_pins_in_77", 0)]
      files :=
        [{ length := Segment.headerLength + Segment.minSize
           header :=
             { magic := Segment.magic, version := 2, writerPid := 77
               size := UInt64.ofNat Segment.minSize }
           data := ({} : Memory).write 0 frame }] }

/-- A bus that has read what the panel wrote. -/
def bus : SegmentBus where
  inputSegment := "p_pins_in"
  writer := { name := "p_pins_out", file := "hmi_p_pins_out_1", number := 1, size := 16384 }
  reader := some { name := "p_pins_in", number := 0, size := Segment.minSize, version := 2 }

theorem findsDead : bus.FindsDead world := ⟨_, rfl, rfl, rfl⟩

theorem deserted : world.directory.Deserted bus.inputSegment := by
  intro ms hms m hm
  exact ⟨rfl, rfl⟩

/-- The bus finds the panel dead, and at the next sample the pin turns active again. -/
theorem acts_again :
    ¬ ∀ (b : SegmentBus) (w : World), b.FindsDead w → w.directory.Deserted b.inputSegment →
      ∀ n, ∀ s ∈ (b.sample w).2.1.samples (b.sample w).2.2 (List.replicate n id), s = .empty := by
  intro h  -- the sample that resets the inputs is empty; the one after it is not
  have hsamples := h bus world findsDead deserted 1
  have hactive : ((bus.sample world).2.1.samples (bus.sample world).2.2 [id]).all
      (fun s => decide (s = .empty)) = false := by
    decide +kernel
  rw [List.all_eq_false] at hactive
  obtain ⟨s, hs, hne⟩ := hactive
  exact hne (decide_eq_true (hsamples s hs))

/-- What decides is the frame that the panel has left. -/
theorem inactive_iff_crash :
    bus.FindsDead world ∧
    ((∀ n, ∀ s ∈ (bus.sample world).2.1.samples (bus.sample world).2.2 (List.replicate n id),
        s = .empty) ↔
      ∀ pins, (bus.sample world).2.2.directory.leftBehind "p_pins_in" = some pins →
        ∀ pin ∈ pins, InputPin.parse? pin.name = none) :=
  ⟨findsDead, (SegmentBus.inactive_iff findsDead).2.2⟩

end Crash
end OperatorPanel
