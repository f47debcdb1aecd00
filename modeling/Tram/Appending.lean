/-
Tram/Appending.lean

A file opened for appending only (`WAV_OPEN_APPEND`).

Before each of its writes `wav_write` seeks to the end of the data, and the
setters are refused once there is data.  So what has been written stays: other
calls in between, seeks among them, do not matter (`append_reads_back`).  A file
opened with `WAV_OPEN_WRITE` has neither (`header_in_sync_reset`).
-/
import Mathlib.Data.List.Flatten
import Tram.Drafts
import Tram.ReadBack

namespace Tram

/-! ### What is written -/

/-- The buffer of a call that answers that it has written. -/
def writtenBy (r : WavReader) : WriterCall → Bytes
  | .write buffer count =>
      match r.wavWrite buffer count with
      | .ok (n, _) => if n = 0 then [] else buffer
      | .error _ => []
  | .stream _ | .set _ => []

/-- The data written in a run. -/
def writtenData (tr : List (WavReader × WriterCall)) : Bytes :=
  tr.flatMap fun p => writtenBy p.1 p.2

theorem writtenData_concat (tr : List (WavReader × WriterCall)) (r : WavReader) (c : WriterCall) :
    writtenData (tr ++ [(r, c)]) = writtenData tr ++ writtenBy r c := by
  rw [writtenData, List.flatMap_append, List.flatMap_singleton]
  rfl

/-- The buffer of a call. -/
def WriterCall.buffer : WriterCall → Bytes
  | .write buffer _ => buffer
  | .stream _ | .set _ => []

/-- What is written comes from the buffers, in the order of the calls. -/
theorem writtenData_sublist (tr : List (WavReader × WriterCall)) :
    List.Sublist (writtenData tr) ((tr.map Prod.snd).flatMap WriterCall.buffer) := by
  rw [List.flatMap_map, writtenData]
  refine List.Sublist.flatMap_right tr fun p _ => ?_
  rcases p with ⟨r, _ | ⟨buffer, count⟩ | _⟩
  · exact List.Sublist.refl _
  · show List.Sublist (writtenBy r (.write buffer count)) buffer
    rw [writtenBy]
    split
    · split
      · exact List.nil_sublist _
      · exact List.Sublist.refl _
    · exact List.nil_sublist _
  · exact List.Sublist.refl _

/-- The buffer of a write holds the frames it is said to hold. -/
def Supplies (r : WavReader) : WriterCall → Prop
  | .write buffer count =>
      buffer.length = r.file.format.blockAlign / r.file.format.numChannels
        * (r.file.format.numChannels * count) ∧ r.file.format.numChannels * count < 2 ^ 64
  | .stream _ | .set _ => True

instance (r : WavReader) : ∀ c, Decidable (Supplies r c)
  | .write _ _ => @instDecidableAnd _ _ (Nat.decEq _ _) (Nat.decLt _ _)
  | .stream _ | .set _ => .isTrue trivial

/-! ### The invariant -/

/-- The size is that of the data written, and with whole frames the file holds
just this data. -/
structure Appended (d : Draft) (data : Bytes) : Prop where
  size : d.size = data.length
  short : d.body.length ≤ data.length
  whole : d.format.numChannels ∣ d.format.blockAlign →
    d.body = data ∧ d.format.blockAlign ∣ data.length

namespace Appended

variable {d : Draft} {data : Bytes}

theorem moves (h : Appended d data) {r : WavReader} (hmoves : d.Moves r) :
    ∃ d', r = Draft.reader d' ∧ Appended d' data := by
  obtain ⟨pos, err, rfl⟩ := hmoves
  exact ⟨_, rfl, h.size, h.short, h.whole⟩

/-- A setter that writes the header finds no data. -/
theorem set (h : Appended d data) (happend : d.AppendOnly) {d' : Draft}
    (hcase : d.SetterCase d') : Appended d' data := by
  cases hcase with
  | unchanged => exact h
  | refused code => exact ⟨h.size, h.short, h.whole⟩
  | formatted hw _ =>
      have hempty : d.size = 0 := (not_not.mp fun hnot => hw ⟨happend, hnot⟩).2.2
      obtain rfl : data = [] := List.length_eq_zero_iff.mp (h.size.symm.trans hempty)
      have hbody : d.body = [] := List.length_eq_zero_iff.mp (Nat.le_zero.mp h.short)
      exact ⟨h.size, h.short, fun _ => ⟨hbody, Nat.dvd_zero _⟩⟩

/-- A write begins behind the last whole frame. -/
theorem write (h : Appended d data) (hvalid : d.Valid) (happend : d.AppendOnly) {buffer : Bytes}
    {count n : ℕ} {r : WavReader} (hsupplies : Supplies d.reader (.write buffer count))
    (hfits : (data ++ if n = 0 then [] else buffer).length < 2 ^ 32)
    (hcase : d.WriteCase buffer count n r) :
    ∃ d', r = Draft.reader d' ∧ Appended d' (data ++ if n = 0 then [] else buffer) := by
  obtain ⟨hlen, hword⟩ := hsupplies
  have hlen : buffer.length = d.format.blockAlign / d.format.numChannels
      * (d.format.numChannels * count) := hlen
  cases hcase with
  | nothing hmoves =>
      rw [if_pos rfl, List.append_nil]
      exact h.moves hmoves
  | @written pos sampleSize items chunk _ hcount _ hpos _ hsample hitems hchunk =>
      have hpos := hpos happend
      have hitems : items = d.format.numChannels * count := hitems.trans (u64_of_lt hword)
      have hbytes : sampleSize * items = buffer.length := by
        rw [hlen, hsample, hitems]
      obtain rfl : chunk = buffer := by
        rw [hchunk, hbytes, List.take_length]
      -- nothing is answered for frames of no bytes, and then the buffer is empty
      have hdone : (if (if sampleSize = 0 then 0 else items) / d.format.numChannels = 0 then []
          else chunk) = chunk := by
        by_cases hzero : sampleSize = 0
        · rw [if_pos hzero, Nat.zero_div, if_pos rfl]
          rw [hzero, Nat.zero_mul] at hbytes
          exact (List.length_eq_zero_iff.mp hbytes.symm).symm
        · rw [if_neg hzero, hitems, Nat.mul_div_cancel_left _ hvalid.format.channels, if_neg hcount]
      rw [hdone] at hfits ⊢
      rw [List.length_append] at hfits
      refine ⟨_, rfl, ?_, ?_, fun hwhole => ?_⟩
      · show u32 (d.size + sampleSize * items) = (data ++ chunk).length
        rw [hbytes, h.size, List.length_append, u32_of_lt hfits]
      · show (overwrite d.body pos chunk).length ≤ (data ++ chunk).length
        have hback : pos ≤ data.length := by
          rw [hpos, ← h.size]
          exact Nat.div_mul_le_self _ _
        have hshort := h.short
        rw [length_overwrite, List.length_append]
        omega
      · obtain ⟨hbody, hdata⟩ := h.whole hwhole
        have hend : pos = d.body.length := by
          rw [hpos, h.size, hbody, Nat.div_mul_cancel hdata]
        refine ⟨?_, ?_⟩
        · show overwrite d.body pos chunk = data ++ chunk
          rw [hend, overwrite_length, hbody]
        · show d.format.blockAlign ∣ (data ++ chunk).length
          rw [List.length_append, hlen, ← Nat.mul_assoc, Nat.div_mul_cancel hwhole]
          exact Nat.dvd_add hdata (Nat.dvd_mul_right _ _)

end Appended

/-- The calls do not select the extensible format, and their buffers are long
enough. -/
def PlainCall (r : WavReader) (c : WriterCall) : Prop := c.Plain ∧ Supplies r c

instance (r : WavReader) (c : WriterCall) : Decidable (PlainCall r c) :=
  inferInstanceAs (Decidable (_ ∧ _))

theorem Appended.call {d : Draft} {data : Bytes} (h : Appended d data) (hvalid : d.Valid)
    (happend : d.AppendOnly) {c : WriterCall} (hc : PlainCall d.reader c) {a : WriterAnswer}
    {r : WavReader} (hfits : (data ++ writtenBy d.reader c).length < 2 ^ 32)
    (hcall : d.reader.writerCall c = .ok (a, r)) :
    ∃ d', r = Draft.reader d' ∧ Appended d' (data ++ writtenBy d.reader c) := by
  cases c with
  | stream c =>
      obtain ⟨⟨answer, r'⟩, hmade, hr⟩ := except_map_ok hcall
      obtain rfl := (Prod.mk.inj hr).2
      rw [writtenBy, List.append_nil]
      exact h.moves (Draft.call_reader hvalid hmade)
  | write buffer count =>
      obtain ⟨⟨n, r'⟩, hwrite, hr⟩ := except_map_ok hcall
      obtain rfl := (Prod.mk.inj hr).2
      have hwritten : writtenBy d.reader (.write buffer count) = if n = 0 then [] else buffer := by
        rw [writtenBy, hwrite]
      rw [hwritten] at hfits ⊢
      exact h.write hvalid happend hc.2 hfits (Draft.wavWrite_reader hvalid hwrite)
  | set s =>
      obtain ⟨r', hmade, hr⟩ := except_map_ok hcall
      obtain rfl := (Prod.mk.inj hr).2
      obtain ⟨file, hset, rfl⟩ := Draft.withFile_reader hmade
      obtain ⟨d', rfl, hcase⟩ := Draft.set_draft hvalid hc.1 hset
      rw [writtenBy, List.append_nil]
      exact ⟨d', rfl, h.set happend hcase⟩

/-! ### Every run -/

variable {mode : ℕ} {tr : List (WavReader × WriterCall)} {r : WavReader}

theorem appended_run (hmode : WritingMode mode) (happend : mode &&& wavOpenWrite = 0)
    (hrun : (wavWriter mode).Run tr r) (hcalls : Machine.All PlainCall tr)
    (hfits : (writtenData tr).length < 2 ^ 32) :
    ∃ d : Draft, r = d.reader ∧ d.Valid ∧ d.mode = mode ∧ Appended d (writtenData tr) := by
  induction hrun with
  | start hinit =>
      obtain ⟨isANewFile, rfl⟩ := Draft.wavInitNew_draft hinit
      exact ⟨_, rfl, ⟨hmode, wavOpen_settable, Nat.two_pow_pos 32⟩, rfl, rfl, Nat.le_refl 0,
        fun _ => ⟨rfl, Nat.dvd_zero _⟩⟩
  | @next tr r c r' _ hstep ih =>
      obtain ⟨htr, hc⟩ := Machine.all_snoc.mp hcalls
      rw [writtenData_concat] at hfits ⊢
      have hbefore : (writtenData tr).length < 2 ^ 32 := by
        rw [List.length_append] at hfits
        omega
      obtain ⟨d, rfl, hvalid, hmoded, h⟩ := ih htr hbefore
      obtain ⟨a, hcall⟩ := hstep
      have happended : d.AppendOnly := by
        rw [Draft.AppendOnly, hmoded]
        exact happend
      obtain ⟨d₁, hd₁, hvalid₁, hmode₁⟩ := writerCall_draft hvalid hc.1 hcall
      obtain ⟨d₂, hd₂, h₂⟩ := h.call hvalid happended hc hfits hcall
      obtain rfl : d₁ = d₂ := Draft.reader_injective (hd₁.symm.trans hd₂)
      exact ⟨d₁, hd₁, hvalid₁, hmode₁.trans hmoded, h₂⟩

/-- **Appending keeps everything.**  Whatever calls are made on a file opened for
appending only, in whatever order, none of them failing in the system: as long as
the file has less than `2 ^ 32` bytes, at every moment at which its tag is one
the parser knows, its blocks are not empty and consist of whole samples, the file,
once flushed, opens, and reading it gives the data written so far, byte for
byte. -/
theorem append_reads_back (hmode : WritingMode mode) (happend : mode &&& wavOpenWrite = 0)
    (hrun : (wavWriter mode).Run tr r) (hcalls : Machine.All PlainCall tr)
    (hfits : 36 + (writtenData tr).length < 2 ^ 32)
    (htag : r.file.format.formatTag ∈ supportedFormats) (hblock : 0 < r.file.format.blockAlign)
    (hwhole : r.file.format.numChannels ∣ r.file.format.blockAlign) :
    ∃ bytes, r.file.contents = some bytes ∧ ReadsAs r.file.format bytes (writtenData tr) := by
  have hword : (writtenData tr).length < 2 ^ 32 := by omega
  obtain ⟨d, rfl, hvalid, -, hsize, -, hkept⟩ := appended_run hmode happend hrun hcalls hword
  obtain ⟨hbody, hframes⟩ := hkept hwhole
  have hreads := wavImage_reads hvalid.format.fits
    ⟨hvalid.format.channels, hblock, hwhole, hvalid.format.plain⟩ htag hframes hfits
    (u32_lt (36 + d.size)) []
  rw [List.append_nil, ← hsize] at hreads
  refine ⟨wavImage d.format (u32 (36 + d.size)) d.size d.body, rfl, ?_⟩
  rw [hbody]
  exact hreads

/-- Two writes with a rewind and a refused setter between them. -/
def appendCalls : List WriterCall :=
  [.set (.setNumChannels 1), .set (.setSampleSize 1), .write [1, 2] 2, .stream .rewind,
    .set (.setSampleSize 2), .stream .errClear, .write [3] 1]

theorem append_reads_back_rewound :
    ∃ tr r bytes, (wavWriter wavOpenAppend).Run tr r ∧ tr.map Prod.snd = appendCalls ∧
      r.file.contents = some bytes ∧ writtenData tr = [1, 2, 3] ∧
      ReadsAs r.file.format bytes [1, 2, 3] := by
  have hexec : ((WavReader.wavInitNew wavOpenAppend []).toOption.bind fun r =>
      Machine.execute (fun r c => if PlainCall r c then r.writerNext c else none) r
        appendCalls).map (fun r => (r.file.format.formatTag, r.file.format.blockAlign,
          r.file.format.numChannels, r.file.contents.map (List.drop 44)))
        = some (1, 1, 1, some [1, 2, 3]) := by
    decide +kernel
  obtain ⟨r, hr, hview⟩ := Option.map_eq_some_iff.mp hexec
  obtain ⟨tr, hrun, hplain, hcalls⟩ := writer_execute hr
  simp only [Prod.mk.injEq] at hview
  obtain ⟨htag, hblock, hchannels, hdata⟩ := hview
  have hshort : (writtenData tr).length ≤ 3 := by
    have hlen := (writtenData_sublist tr).length_le
    rwa [hcalls] at hlen
  obtain ⟨bytes, hbytes, hreads⟩ := append_reads_back (by decide) (by decide) hrun hplain
    (by omega) (by rw [htag]; decide) (by rw [hblock]; decide)
    (by rw [hchannels]; exact one_dvd _)
  obtain ⟨d, rfl, -, -, -, -, hkept⟩ := appended_run (by decide) (by decide) hrun hplain (by omega)
  have hbody : writtenData tr = [1, 2, 3] := by
    rw [← (hkept (by rw [show d.format.numChannels = 1 from hchannels]; exact one_dvd _)).1,
      ← drop_wavImage d.format (u32 (36 + d.size)) d.size d.body]
    exact Option.some.inj hdata
  rw [hbody] at hreads
  exact ⟨tr, _, bytes, hrun, hcalls, hbytes, hbody, hreads⟩

end Tram
