/-
Tram/Survival.lean

A recording whose file calls fail.

`wav_write` puts the data first and the two sizes behind it, that of the data
last, and nothing is written once an error is pending.  So at every moment the
file is a header, the data its size speaks of, and maybe more: what has been
recorded without an error stays readable.

The writes of the setup are not looked at one by one.  A function that comes
back without an error has seen no failure (`Clean`), so a setup without one is
the setup of `Tram.RecordedFile`.

`recording_survives` is about every run of a stream and all outcomes of the
calls.  The bytes are those of the stream, which the file has once flushed; a
program that is killed loses what `<stdio.h>` still holds.
-/
import Tram.ErrorLatch
import Tram.ReadBack

namespace Tram

/-! ### What a file holds -/

variable {format : WavFormat} {data : Bytes}

/-- The file holds `data`, behind a header that tells how much it is. -/
def Holds (format : WavFormat) (data bytes : Bytes) : Prop :=
  ∃ riffSize rest, riffSize < 2 ^ 32 ∧
    bytes = wavImage format riffSize data.length (data ++ rest)

/-! ### Calls that fail -/

namespace ByteFile

variable (fp : ByteFile)

theorem outcome_cases : ∃ ok rest, fp.outcome = (ok, { fp with outcomes := rest }) := by
  rw [outcome]
  rcases fp with ⟨bytes, pos, - | ⟨ok, rest⟩⟩
  · exact ⟨true, [], rfl⟩
  · exact ⟨ok, rest, rfl⟩

theorem fseek_cases (pos : ℕ) :
    ∃ rest, fp.fseek pos = (false, { fp with outcomes := rest }) ∨
      fp.fseek pos = (true, { fp with pos, outcomes := rest }) := by
  obtain ⟨ok, rest, hok⟩ := fp.outcome_cases
  refine ⟨rest, ?_⟩
  rw [fseek, hok]
  cases ok with
  | false => exact Or.inl rfl
  | true => exact Or.inr rfl

theorem fwrite_cases (data : Bytes) :
    ∃ rest, fp.fwrite data = (false, { fp with outcomes := rest }) ∨
      fp.fwrite data = (true, ⟨overwrite fp.bytes fp.pos data, fp.pos + data.length, rest⟩) := by
  obtain ⟨ok, rest, hok⟩ := fp.outcome_cases
  refine ⟨rest, ?_⟩
  rw [fwrite, hok]
  cases ok with
  | false => exact Or.inl rfl
  | true => exact Or.inr rfl

theorem ftell_cases :
    ∃ rest, fp.ftell = (none, { fp with outcomes := rest }) ∨
      fp.ftell = (some fp.pos, { fp with outcomes := rest }) := by
  obtain ⟨ok, rest, hok⟩ := fp.outcome_cases
  refine ⟨rest, ?_⟩
  rw [ftell, hok]
  cases ok with
  | false => exact Or.inl rfl
  | true => exact Or.inr rfl

end ByteFile

namespace WavRecorder

/-- Whatever the call comes back with satisfies `Q`. -/
def Leaves (r : Except WavFault WavRecorder) (Q : WavRecorder → Prop) : Prop := ∀ s, r = .ok s → Q s

theorem leaves_ok {s : WavRecorder} {Q : WavRecorder → Prop} (h : Q s) : Leaves (.ok s) Q :=
  fun _ hs => Except.ok.inj hs ▸ h

theorem leaves_error {f : WavFault} {Q : WavRecorder → Prop} : Leaves (.error f) Q := by
  intro s hs
  cases hs

/-- The record of a recording, with this file. -/
def onFile (format : WavFormat) (data : Bytes) (fp : ByteFile) : WavRecorder :=
  { recorded format data with fp := some fp }

/-- A failing call sets the error. -/
theorem leaves_stdio {fp : ByteFile} {call : ByteFile → Bool × ByteFile}
    {next : WavRecorder → Except WavFault WavRecorder} {Q : WavRecorder → Prop}
    (hfails : ∀ fp', call fp = (false, fp') → Q { onFile format data fp' with err := .os })
    (hgoes : ∀ fp', call fp = (true, fp') → Leaves (next (onFile format data fp')) Q) :
    Leaves ((onFile format data fp).stdio call next) Q := by
  rcases hcall : call fp with ⟨_ | _, fp'⟩
  · simp only [stdio, onFile, hcall]
    exact leaves_ok (hfails fp' hcall)
  · simp only [stdio, onFile, hcall]
    exact hgoes fp' hcall

theorem leaves_fseek {fp : ByteFile} {pos : ℕ} {next : WavRecorder → Except WavFault WavRecorder}
    {Q : WavRecorder → Prop}
    (hfails : ∀ rest, Q { onFile format data { fp with outcomes := rest } with err := .os })
    (hgoes : ∀ rest, Leaves (next (onFile format data { fp with pos, outcomes := rest })) Q) :
    Leaves ((onFile format data fp).stdio (ByteFile.fseek pos) next) Q := by
  obtain ⟨rest, hcall | hcall⟩ := fp.fseek_cases pos
  all_goals
    refine leaves_stdio (fun fp' h => ?_) fun fp' h => ?_
    all_goals
      rw [hcall] at h
      cases h
  · exact hfails rest
  · exact hgoes rest

theorem leaves_fwrite {fp : ByteFile} {bytes : Bytes}
    {next : WavRecorder → Except WavFault WavRecorder} {Q : WavRecorder → Prop}
    (hfails : ∀ rest, Q { onFile format data { fp with outcomes := rest } with err := .os })
    (hgoes : ∀ rest, Leaves (next (onFile format data
      ⟨overwrite fp.bytes fp.pos bytes, fp.pos + bytes.length, rest⟩)) Q) :
    Leaves ((onFile format data fp).stdio (ByteFile.fwrite bytes) next) Q := by
  obtain ⟨rest, hcall | hcall⟩ := fp.fwrite_cases bytes
  all_goals
    refine leaves_stdio (fun fp' h => ?_) fun fp' h => ?_
    all_goals
      rw [hcall] at h
      cases h
  · exact hfails rest
  · exact hgoes rest

/-! ### One write -/

/-- A recording without an error, and the outcomes to come. -/
def recordedWith (format : WavFormat) (data : Bytes) (rest : List Bool) : WavRecorder :=
  onFile format data
    ⟨wavImage format (36 + data.length) data.length data, 44 + data.length, rest⟩

theorem recordedWith_nil (format : WavFormat) (data : Bytes) :
    recordedWith format data [] = recorded format data := by
  rw [recordedWith, onFile, recorded, wavHeader_image]

/-- Behind a write of `buffer`: it is recorded, or an error is pending and the
file holds the data with it or without it. -/
def Written (format : WavFormat) (data buffer : Bytes) (s : WavRecorder) : Prop :=
  (∃ rest, s = recordedWith format (data ++ buffer) rest) ∨
    s.err ≠ .ok ∧ ∃ bytes, s.contents = some bytes ∧
      (Holds format data bytes ∨ Holds format (data ++ buffer) bytes)

/-- A failing call leaves the file as it is. -/
theorem written_failed {buffer bytes : Bytes} {pos : ℕ} {rest : List Bool} {data' : Bytes}
    (h : Holds format data bytes ∨ Holds format (data ++ buffer) bytes) :
    Written format data buffer { onFile format data' ⟨bytes, pos, rest⟩ with err := .os } :=
  Or.inr ⟨nofun, bytes, rfl, h⟩

/-- The sizes are written behind the data, that of the data last. -/
theorem wavUpdateSizes_leaves {buffer : Bytes} (htotal : 36 + (data ++ buffer).length < 2 ^ 32)
    (rest : List Bool) :
    Leaves (wavUpdateSizes (onFile format (data ++ buffer)
        ⟨wavImage format (36 + data.length) data.length (data ++ buffer),
          44 + (data ++ buffer).length, rest⟩))
      (Written format data buffer) := by
  have hold : 36 + data.length < 2 ^ 32 := by
    rw [List.length_append] at htotal
    omega
  have hdata : ∀ riffSize, riffSize < 2 ^ 32 →
      Holds format data (wavImage format riffSize data.length (data ++ buffer)) :=
    fun riffSize hriff => ⟨riffSize, buffer, hriff, rfl⟩
  have hboth : Holds format (data ++ buffer)
      (wavImage format (36 + (data ++ buffer).length) (data ++ buffer).length (data ++ buffer)) :=
    ⟨_, [], htotal, by rw [List.append_nil]⟩
  -- wherever `ftell` sends the last seek
  have hsizes : ∀ savePos rest, savePos = none ∨ savePos = some (44 + (data ++ buffer).length) →
      Leaves ((onFile format (data ++ buffer)
          ⟨wavImage format (36 + data.length) data.length (data ++ buffer),
            44 + (data ++ buffer).length, rest⟩).stdio (ByteFile.fseek (sizeofChunkHeader - 4))
        fun r => r.stdio (ByteFile.fwrite (leBytes 4 r.riffChunk.size)) fun r =>
          r.stdio (ByteFile.fseek (r.dataOffset - 4)) fun r =>
            r.stdio (ByteFile.fwrite (leBytes 4 r.dataHeader.size)) fun r =>
              r.stdio (seekBack savePos) .ok) (Written format data buffer) := by
    intro savePos rest hsave
    refine leaves_fseek (fun _ => written_failed (Or.inl (hdata _ hold))) fun _ => ?_
    refine leaves_fwrite (fun _ => written_failed (Or.inl (hdata _ hold))) fun _ => ?_
    have hriff := @overwrite_riffSize format (36 + data.length) data.length (data ++ buffer)
      (36 + (data ++ buffer).length)
    simp only [sizeofChunkHeader]
    rw [show (onFile format (data ++ buffer) _).riffChunk.size = 36 + (data ++ buffer).length from rfl,
      hriff]
    refine leaves_fseek (fun _ => written_failed (Or.inl (hdata _ htotal))) fun _ => ?_
    refine leaves_fwrite (fun _ => written_failed (Or.inl (hdata _ htotal))) fun rest => ?_
    have hlast := @overwrite_size format (36 + (data ++ buffer).length) data.length (data ++ buffer)
      (data ++ buffer).length
    rw [show (onFile format (data ++ buffer) _).dataHeader.size = (data ++ buffer).length from rfl,
      show (onFile format (data ++ buffer) _).dataOffset - 4 = 40 from rfl, hlast]
    rcases hsave with rfl | rfl
    · refine leaves_stdio (fun fp' h => ?_) fun fp' h => ?_
      · cases h
        exact written_failed (Or.inr hboth)
      · cases h
    · refine leaves_fseek (fun _ => written_failed (Or.inr hboth)) fun rest => ?_
      exact leaves_ok (Or.inl ⟨rest, rfl⟩)
  set fp : ByteFile := ⟨wavImage format (36 + data.length) data.length (data ++ buffer),
    44 + (data ++ buffer).length, rest⟩ with hfp
  obtain ⟨rest', htell | htell⟩ := fp.ftell_cases
  · have h := hsizes none rest' (Or.inl rfl)
    rw [wavUpdateSizes]
    simp only [onFile, htell]
    exact h
  · have h := hsizes _ rest' (Or.inr rfl)
    rw [wavUpdateSizes]
    simp only [onFile, htell]
    exact h

/-- `wav_write` on a recording without an error. -/
theorem wavWrite_leaves {buffer : Bytes} {count : ℕ} (hblock : format.blockAlign ≠ 0)
    (htag : format.formatTag ≠ wavFormatExtensible)
    (hlen : buffer.length
      = format.blockAlign / format.numChannels * (format.numChannels * count))
    (htotal : 36 + (data ++ buffer).length < 2 ^ 32) (rest : List Bool) :
    Leaves ((recordedWith format data rest).wavWrite buffer count) (Written format data buffer) := by
  have hmode : ¬ ((recordedWith format data rest).mode &&& wavOpenWrite = 0 ∧
      (recordedWith format data rest).mode &&& wavOpenAppend = 0) :=
    fun h => absurd h.1 (by show wavOpenWrite &&& wavOpenWrite ≠ 0; decide)
  have hheld : Holds format data (wavImage format (36 + data.length) data.length data) := by
    refine ⟨36 + data.length, [], ?_, by rw [List.append_nil]⟩
    rw [List.length_append] at htotal
    omega
  have hformat : (recordedWith format data rest).format = format := rfl
  rw [wavWrite, if_neg hmode, hformat, if_neg htag]
  by_cases hcount : count = 0
  · obtain rfl : buffer = [] := by
      rw [hcount, Nat.mul_zero, Nat.mul_zero] at hlen
      exact List.length_eq_zero_iff.mp hlen
    rw [if_pos hcount]
    exact leaves_ok (Or.inl ⟨rest, by rw [List.append_nil]⟩)
  rw [if_neg hcount]
  set fp : ByteFile := ⟨wavImage format (36 + data.length) data.length data, 44 + data.length, rest⟩
    with hfp
  obtain ⟨rest₁, htell | htell⟩ := fp.ftell_cases
  · -- the error is looked at right behind the call
    have hwavTell : (recordedWith format data rest).wavTell
        = .ok { onFile format data { fp with outcomes := rest₁ } with err := .os } := by
      simp only [wavTell, recordedWith, onFile, ← hfp, htell]
      rfl
    rw [hwavTell]
    exact leaves_ok (written_failed (Or.inl hheld))
  have hwavTell : (recordedWith format data rest).wavTell
      = .ok (onFile format data { fp with outcomes := rest₁ }) := by
    have hpos : ¬ fp.pos < 44 := by
      show ¬ 44 + data.length < 44
      omega
    simp only [wavTell, recordedWith, onFile, ← hfp, htell]
    exact (if_neg hpos).trans (if_neg hblock)
  rw [hwavTell]
  dsimp only
  rw [if_neg (by show ¬ WavErrCode.ok ≠ .ok; decide), ← hlen, List.take_length]
  refine leaves_fwrite (fun _ => written_failed (Or.inl hheld)) fun rest₂ => ?_
  rw [List.length_append] at htotal
  have hriff : u32 (36 + data.length + buffer.length) = 36 + (data ++ buffer).length := by
    rw [u32_of_lt (by omega), List.length_append, Nat.add_assoc]
  have hdata : u32 (data.length + buffer.length) = (data ++ buffer).length := by
    rw [u32_of_lt (by omega), List.length_append]
  have hpos : 44 + data.length + buffer.length = 44 + (data ++ buffer).length := by
    rw [List.length_append, Nat.add_assoc]
  have hsizes : ∀ s, s = onFile format (data ++ buffer)
      ⟨wavImage format (36 + data.length) data.length (data ++ buffer),
        44 + (data ++ buffer).length, rest₂⟩ →
      Leaves s.wavUpdateSizes (Written format data buffer) := by
    rintro s rfl
    refine wavUpdateSizes_leaves ?_ rest₂
    rw [List.length_append]
    exact htotal
  apply hsizes
  simp only [onFile, recorded, hfp, hriff, hdata, hpos, overwrite_body]

/-- Nothing is written while an error is pending. -/
theorem wavWrite_pending {s s' : WavRecorder} (herr : s.err ≠ .ok) {buffer : Bytes} {count : ℕ}
    (h : s.wavWrite buffer count = .ok s') : s'.err ≠ .ok ∧ s'.contents = s.contents := by
  have hset : ∀ (s₁ : WavRecorder) (code : WavErrCode), s₁.err = s.err →
      s₁.wavErrSet code ≠ .ok s' := by
    intro s₁ code hsame hok
    rw [wavErrSet, hsame, if_neg herr] at hok
    cases hok
  rw [wavWrite] at h
  dsimp only at h
  split at h
  · exact absurd h (hset s .mode rfl)
  split at h
  · exact absurd h (hset s .format rfl)
  split at h
  · cases h
    exact ⟨herr, rfl⟩
  rw [wavTell] at h
  rcases hfp : s.fp with - | fp
  · rw [hfp] at h
    cases h
  simp only [hfp] at h
  obtain ⟨rest, htell | htell⟩ := fp.ftell_cases
  · simp only [htell] at h
    rw [wavErrSet, if_neg herr] at h
    cases h
  · simp only [htell] at h
    by_cases hpos : fp.pos < s.dataOffset
    · rw [if_pos hpos] at h
      cases h
    by_cases hblock : s.format.blockAlign = 0
    · rw [if_neg hpos, if_pos hblock] at h
      cases h
    rw [if_neg hpos, if_neg hblock] at h
    dsimp only at h
    rw [if_pos herr] at h
    cases h
    exact ⟨herr, by simp only [contents, hfp, Option.map_some]⟩

/-! ### A whole log -/

/-- What the file of a recording holds: all the fragments, or, with an error
pending, the first ones. -/
def Survives (format : WavFormat) (data : Bytes) (buffers : List Bytes) (s : WavRecorder) : Prop :=
  (∃ rest, s = recordedWith format (data ++ buffers.flatten) rest) ∨
    s.err ≠ .ok ∧ ∃ bytes j, s.contents = some bytes ∧ j ≤ buffers.length ∧
      Holds format (data ++ (buffers.take j).flatten) bytes

/-- With an error pending the log changes nothing. -/
theorem recordLog_pending (log : List Event) {s : WavRecorder} (herr : s.err ≠ .ok) :
    Leaves (s.recordLog log) fun s' => s'.err ≠ .ok ∧ s'.contents = s.contents := by
  induction log generalizing s with
  | nil => exact leaves_ok ⟨herr, rfl⟩
  | cons e rest ih =>
      cases e with
      | statsPush | writei | prepare => exact ih herr
      | wavWrite buffer frames =>
          rw [recordLog]
          rcases hwrite : s.wavWrite buffer frames with f | s₁
          · exact leaves_error
          obtain ⟨herr₁, hsame⟩ := wavWrite_pending herr hwrite
          rw [← hsame]
          exact ih herr₁

theorem recordLog_survives (hblock : format.blockAlign ≠ 0)
    (htag : format.formatTag ≠ wavFormatExtensible) (log : List Event) {data : Bytes}
    (hlen : ∀ buffer frames, .wavWrite buffer frames ∈ log →
      buffer.length = format.blockAlign / format.numChannels * (format.numChannels * frames))
    (htotal : 36 + (data ++ (recordedBuffers log).flatten).length < 2 ^ 32) (rest : List Bool) :
    Leaves ((recordedWith format data rest).recordLog log)
      (Survives format data (recordedBuffers log)) := by
  induction log generalizing data rest with
  | nil =>
      exact leaves_ok (Or.inl ⟨rest, by rw [recordedBuffers, List.filterMap_nil, List.flatten_nil,
        List.append_nil]⟩)
  | cons e log ih =>
      have hlog : ∀ buffer frames, .wavWrite buffer frames ∈ log → _ :=
        fun buffer frames hmem => hlen buffer frames (List.mem_cons_of_mem e hmem)
      cases e with
      | statsPush | writei | prepare => exact ih hlog htotal rest
      | wavWrite buffer frames =>
          have hcons : recordedBuffers (.wavWrite buffer frames :: log)
              = buffer :: recordedBuffers log := rfl
          rw [hcons, List.flatten_cons, ← List.append_assoc] at htotal
          have hfits : 36 + (data ++ buffer).length < 2 ^ 32 := by
            rw [List.length_append] at htotal
            omega
          have hwritten := wavWrite_leaves hblock htag (hlen _ _ List.mem_cons_self) hfits rest
          rw [hcons, recordLog]
          rcases hwrite : (recordedWith format data rest).wavWrite buffer frames with f | s₁
          · exact leaves_error
          rcases hwritten s₁ hwrite with ⟨rest₁, rfl⟩ | ⟨herr, bytes, hbytes, hheld⟩
          · -- the fragment is in the file
            intro s hs
            rcases ih hlog htotal rest₁ s hs with ⟨rest₂, rfl⟩ | ⟨herr, bytes, j, hbytes, hj, hheld⟩
            · refine Or.inl ⟨rest₂, ?_⟩
              rw [List.flatten_cons, List.append_assoc]
            · refine Or.inr ⟨herr, bytes, j + 1, hbytes, Nat.succ_le_succ hj, ?_⟩
              rwa [List.take_succ_cons, List.flatten_cons, ← List.append_assoc]
          · -- the file stays as the failing call has left it
            intro s hs
            obtain ⟨herr', hsame⟩ := recordLog_pending log herr s hs
            refine Or.inr ⟨herr', bytes, ?_⟩
            rw [hsame]
            rcases hheld with hheld | hheld
            · exact ⟨0, hbytes, Nat.zero_le _, by rwa [List.take_zero, List.flatten_nil, List.append_nil]⟩
            · refine ⟨1, hbytes, by rw [List.length_cons]; omega, ?_⟩
              rwa [List.take_succ_cons, List.take_zero, List.flatten_cons, List.flatten_nil,
                List.append_nil]

/-! ### A setup without an error -/

/-- The record, with nothing failing from now on. -/
def unfailing (s : WavRecorder) : WavRecorder :=
  { s with fp := s.fp.map fun fp => { fp with outcomes := [] } }

/-- If `r` comes back without an error, `s` had none, and `r'` comes back with the
same record. -/
def Unfails (s : WavRecorder) (r r' : Except WavFault WavRecorder) : Prop :=
  ∀ s', r = .ok s' → s'.err = .ok → s.err = .ok ∧ r' = .ok s'.unfailing

theorem unfails_ok (s : WavRecorder) : Unfails s (.ok s) (.ok s.unfailing) := by
  intro s' h herr
  cases h
  exact ⟨herr, rfl⟩

theorem unfails_errSet (s : WavRecorder) {code : WavErrCode} (hcode : code ≠ .ok)
    (r' : Except WavFault WavRecorder) : Unfails s (s.wavErrSet code) r' := by
  intro s' h herr
  rw [wavErrSet] at h
  split at h
  · cases h
    exact absurd herr hcode
  · cases h

theorem unfails_ite {s : WavRecorder} {p : Prop} [Decidable p]
    {r₁ r₂ r₁' r₂' : Except WavFault WavRecorder} (h₁ : Unfails s r₁ r₁') (h₂ : Unfails s r₂ r₂') :
    Unfails s (if p then r₁ else r₂) (if p then r₁' else r₂') := by
  split
  · exact h₁
  · exact h₂

theorem unfails_stdio {s : WavRecorder} {call : ByteFile → Bool × ByteFile}
    {next next' : WavRecorder → Except WavFault WavRecorder}
    (hcall : ∀ fp fp', call fp = (true, fp') →
      call { fp with outcomes := [] } = (true, { fp' with outcomes := [] }))
    (hnext : ∀ fp, Unfails s (next { s with fp := some fp })
      (next' (unfailing { s with fp := some fp }))) :
    Unfails s (s.stdio call next) (s.unfailing.stdio call next') := by
  intro s' h herr
  rcases hfp : s.fp with - | fp
  · rw [stdio, hfp] at h
    cases h
  rcases hres : call fp with ⟨_ | _, fp'⟩
  all_goals
    rw [stdio, hfp] at h
    dsimp only at h
    rw [hres] at h
  · exact unfails_errSet { s with fp := some fp' } (by decide) _ s' h herr
  · obtain ⟨hok, heq⟩ := hnext fp' s' h herr
    refine ⟨hok, ?_⟩
    rw [← heq, stdio, unfailing, hfp, Option.map_some]
    dsimp only
    rw [hcall fp fp' hres]
    rfl

theorem unfails_fseek {s : WavRecorder} {pos : ℕ}
    {next next' : WavRecorder → Except WavFault WavRecorder}
    (hnext : ∀ fp, Unfails s (next { s with fp := some fp })
      (next' (unfailing { s with fp := some fp }))) :
    Unfails s (s.stdio (ByteFile.fseek pos) next)
      (s.unfailing.stdio (ByteFile.fseek pos) next') := by
  refine unfails_stdio (fun fp fp' h => ?_) hnext
  obtain ⟨rest, hcall | hcall⟩ := fp.fseek_cases pos <;> rw [hcall] at h <;> cases h
  rfl

theorem unfails_fwrite {s : WavRecorder} {bytes : Bytes}
    {next next' : WavRecorder → Except WavFault WavRecorder}
    (hnext : ∀ fp, Unfails s (next { s with fp := some fp })
      (next' (unfailing { s with fp := some fp }))) :
    Unfails s (s.stdio (ByteFile.fwrite bytes) next)
      (s.unfailing.stdio (ByteFile.fwrite bytes) next') := by
  refine unfails_stdio (fun fp fp' h => ?_) hnext
  obtain ⟨rest, hcall | hcall⟩ := fp.fwrite_cases bytes <;> rw [hcall] at h <;> cases h
  rfl

theorem unfails_ifWritable {s : WavRecorder} {r r' : Except WavFault WavRecorder}
    (h : Unfails s r r') : Unfails s (s.ifWritable r) (s.unfailing.ifWritable r') :=
  unfails_ite (unfails_errSet s (by decide) _) h

theorem unfails_dataChunk (s : WavRecorder) :
    Unfails s s.writeDataChunk s.unfailing.writeDataChunk :=
  unfails_ite (unfails_fseek fun _ => unfails_fwrite fun _ => unfails_ok _) (unfails_ok s)

theorem unfails_formatChunk (s : WavRecorder) :
    Unfails s (s.writeFormatChunk writeDataChunk) (s.unfailing.writeFormatChunk writeDataChunk) := by
  refine unfails_ite ?_ (unfails_dataChunk s)
  exact unfails_fseek fun _ => unfails_fwrite fun _ => unfails_fwrite fun _ => unfails_dataChunk _

theorem unfails_header (s : WavRecorder) :
    Unfails s s.wavWriteHeader s.unfailing.wavWriteHeader := by
  have hchunks : ∀ t : WavRecorder, Unfails t
      (t.stdio (ByteFile.fseek 0) fun r =>
        r.stdio (ByteFile.fwrite (r.riffChunk.toBytes ++ leBytes 4 r.waveId)) fun r =>
          r.writeFormatChunk writeDataChunk)
      (t.unfailing.stdio (ByteFile.fseek 0) fun r =>
        r.stdio (ByteFile.fwrite (r.riffChunk.toBytes ++ leBytes 4 r.waveId)) fun r =>
          r.writeFormatChunk writeDataChunk) :=
    fun t => unfails_fseek fun _ => unfails_fwrite fun _ => unfails_formatChunk _
  intro s' h herr
  rw [wavWriteHeader] at h
  exact hchunks _ s' h herr

theorem unfails_sampleSize (s : WavRecorder) (sampleSize : ℕ) :
    Unfails s (s.wavSetSampleSize sampleSize) (s.unfailing.wavSetSampleSize sampleSize) :=
  unfails_ifWritable (unfails_ite (unfails_errSet s (by decide) _) (unfails_header _))

theorem unfails_numChannels (s : WavRecorder) (numChannels : ℕ) :
    Unfails s (s.wavSetNumChannels numChannels) (s.unfailing.wavSetNumChannels numChannels) :=
  unfails_ifWritable (unfails_ite (unfails_errSet s (by decide) _)
    (unfails_ite (unfails_ok s) (unfails_header _)))

theorem unfails_sampleRate (s : WavRecorder) (sampleRate : ℕ) :
    Unfails s (s.wavSetSampleRate sampleRate) (s.unfailing.wavSetSampleRate sampleRate) :=
  unfails_ifWritable (unfails_ite (unfails_ok s) (unfails_header _))

theorem Unfails.bind {s : WavRecorder} {r r' : Except WavFault WavRecorder}
    {next : WavRecorder → Except WavFault WavRecorder} (h : Unfails s r r')
    (hnext : ∀ s', Unfails s' (next s') (next s'.unfailing)) :
    Unfails s (r.bind next) (r'.bind next) := by
  rcases r with f | s₁
  · nofun
  · intro s' hs' herr
    obtain ⟨herr₁, heq⟩ := hnext s₁ s' hs' herr
    obtain ⟨hok, rfl⟩ := h s₁ rfl herr₁
    exact ⟨hok, heq⟩

theorem unfails_format (s : WavRecorder) (format : ℕ) :
    Unfails s (s.wavSetFormat format) (s.unfailing.wavSetFormat format) := by
  refine unfails_ifWritable (unfails_ite (unfails_ok s) (unfails_ite ?_ (unfails_header _)))
  exact unfails_ite ((unfails_sampleSize _ 4).bind unfails_header) (unfails_header _)

theorem unfails_setup {calls : List RecorderCall}
    (hset : ∀ c ∈ calls, ∀ buffer count, c ≠ .write buffer count) (s : WavRecorder) :
    Unfails s (runCalls call s calls) (runCalls call s.unfailing calls) := by
  induction calls generalizing s with
  | nil => exact unfails_ok s
  | cons c rest ih =>
      rw [runCalls_cons, runCalls_cons]
      refine Unfails.bind ?_ (ih fun c' hmem => hset c' (List.mem_cons_of_mem c hmem))
      cases c with
      | setFormat format => exact unfails_format s format
      | setSampleSize sampleSize => exact unfails_sampleSize s sampleSize
      | setNumChannels numChannels => exact unfails_numChannels s numChannels
      | setSampleRate sampleRate => exact unfails_sampleRate s sampleRate
      | write buffer count => exact absurd rfl (hset _ List.mem_cons_self buffer count)

theorem wavInit_unfailing {outcomes : List Bool} {s : WavRecorder} (h : wavInit outcomes = .ok s)
    (herr : s.err = .ok) : wavInit [] = .ok s.unfailing := by
  rw [wavInit] at h
  obtain ⟨ok, rest, hok⟩ := (ByteFile.mk [] 0 outcomes).outcome_cases
  rw [hok] at h
  cases ok with
  | false =>
      cases h
      cases herr
  | true => exact (unfails_header (newFile ⟨[], 0, rest⟩) s h herr).2

/-- A setup without an error is the one in which nothing fails. -/
theorem setup_unfailing {set : StreamSettings} {outcomes : List Bool} {s : WavRecorder}
    (h : setupWavRecorder outcomes set = .ok s) (herr : s.err = .ok) :
    setupWavRecorder [] set = .ok s.unfailing := by
  rw [setupWavRecorder_calls] at h ⊢
  rcases hinit : wavInit outcomes with f | s₀
  · rw [hinit] at h
    cases h
  rw [hinit] at h
  have hcalls : ∀ c ∈ setupCalls set, ∀ buffer count, c ≠ .write buffer count := by
    simp [setupCalls]
  obtain ⟨herr₀, hrest⟩ := unfails_setup hcalls s₀ s h herr
  rw [wavInit_unfailing hinit herr₀]
  exact hrest

/-- The record of a setup without an error. -/
theorem recordedWith_of_unfailing {s : WavRecorder} (h : s.unfailing = recorded format []) :
    ∃ rest, s = recordedWith format [] rest := by
  rw [← recordedWith_nil] at h
  rcases s with ⟨fp, mode, isANewFile, riffChunk, waveId, formatHeader, formatOffset, format',
    dataHeader, dataOffset, err⟩
  simp only [unfailing, recordedWith, onFile, recorded, WavRecorder.mk.injEq] at h
  obtain ⟨hfp, rfl, rfl, rfl, rfl, rfl, rfl, rfl, rfl, rfl, rfl⟩ := h
  obtain ⟨⟨bytes, pos, rest⟩, rfl, hfile⟩ := Option.map_eq_some_iff.mp hfp
  obtain ⟨rfl, rfl, -⟩ := ByteFile.mk.inj hfile
  exact ⟨rest, rfl⟩

theorem recordLog_append (s : WavRecorder) (log log' : List Event) :
    s.recordLog (log ++ log') = (s.recordLog log).bind fun s' => s'.recordLog log' := by
  induction log generalizing s with
  | nil => rfl
  | cons e rest ih =>
      cases e with
      | statsPush | writei | prepare => exact ih s
      | wavWrite buffer frames =>
          rw [List.cons_append, recordLog, recordLog]
          rcases s.wavWrite buffer frames with f | s₁
          · rfl
          · exact ih s₁

/-- The file of a recording, with and without an error. -/
theorem Survives.held {buffers : List Bytes} {s : WavRecorder}
    (h : Survives format data buffers s) (htotal : 36 + (data ++ buffers.flatten).length < 2 ^ 32) :
    ∃ bytes j, s.contents = some bytes ∧ j ≤ buffers.length ∧ (s.err = .ok → j = buffers.length) ∧
      Holds format (data ++ (buffers.take j).flatten) bytes := by
  rcases h with ⟨rest, rfl⟩ | ⟨herr, bytes, j, hbytes, hj, hheld⟩
  · refine ⟨_, buffers.length, rfl, le_rfl, fun _ => rfl, ?_⟩
    rw [List.take_length]
    exact ⟨_, [], htotal, by rw [List.append_nil]⟩
  · exact ⟨bytes, j, hbytes, hj, fun hok => absurd hok herr, hheld⟩

end WavRecorder

/-! ### Every run -/

variable {lib : Libavtp} {set : StreamSettings} {D : Discipline Bytes}

/-- Whatever is held behind the header of the stream plays back. -/
theorem Holds.playsBack (hset : WholeFrames lib set) {buffers : List Bytes} {bytes : Bytes}
    (h : Holds (streamFormat set.bitDepth set.channels set.sampleRate) buffers.flatten bytes)
    (hlen : ∀ buffer ∈ buffers, buffer.length = set.dataLen)
    (hfits : 36 + buffers.flatten.length < 2 ^ 32) : PlaysBack set bytes buffers.flatten := by
  obtain ⟨riffSize, rest, hriff, rfl⟩ := h
  exact playsBack_fragments hset hlen hfits hriff rest

section Runs

variable {tr : List (Linked TalkerState Bytes ListenerSession × LinkLabel TalkerInput IterInput)}
  {g : Linked TalkerState Bytes ListenerSession}

/-- **Recordings survive.**  In every run of a stream of whole frames, over any
network, and whatever calls on the file fail behind a setup without an error: as
long as the recording has less than `2 ^ 32` bytes, after each event the file,
once flushed, plays back as the first fragments played, all those recorded before
the first error among them, and all of them if there has been none. -/
theorem recording_survives (hset : WholeFrames lib set) (hrun : (stream lib set true D).Run tr g)
    (hfits : 36 + (playedBuffers g.receiver.state.loop.log).flatten.length < 2 ^ 32)
    {outcomes : List Bool} {fp fp₁ fp₂ : WavRecorder}
    (hsetup : WavRecorder.setupWavRecorder outcomes set = .ok fp) (hok : fp.err = .ok) {i k : ℕ}
    (hik : i ≤ k) (hfirst : fp.recordLog (g.receiver.state.loop.log.take i) = .ok fp₁)
    (hok₁ : fp₁.err = .ok) (hrest : fp.recordLog (g.receiver.state.loop.log.take k) = .ok fp₂) :
    ∃ bytes j, fp₂.contents = some bytes ∧
      (recordedBuffers (g.receiver.state.loop.log.take i)).length ≤ j ∧
      j ≤ (recordedBuffers (g.receiver.state.loop.log.take k)).length ∧
      (fp₂.err = .ok → j = (recordedBuffers (g.receiver.state.loop.log.take k)).length) ∧
      PlaysBack set bytes ((playedBuffers g.receiver.state.loop.log).take j).flatten := by
  have hinv := recordInv_run hset.pduSize (o := g.receiver) hrun.link_receiver
  rw [← hinv.recorded] at hfits ⊢
  have hlen := hinv.length
  have hwrites := fun buffer frames (h : Event.wavWrite buffer frames ∈ g.receiver.state.loop.log) =>
    hinv.wholeWrites hset hfits h
  generalize g.receiver.state.loop.log = log at *
  obtain ⟨rest, rfl⟩ := WavRecorder.recordedWith_of_unfailing
    (Except.ok.inj ((WavRecorder.setup_unfailing hsetup hok).symm.trans hset.setup))
  -- the events up to `i`, those up to `k`, and the others
  have hsplit : log.take k = log.take i ++ (log.take k).drop i := by
    have h := (List.take_append_drop i (log.take k)).symm
    rwa [List.take_take, Nat.min_eq_left hik] at h
  have hall : recordedBuffers log
      = recordedBuffers (log.take i) ++ recordedBuffers ((log.take k).drop i)
        ++ recordedBuffers (log.drop k) := by
    rw [← recordedBuffers_append, ← hsplit, ← recordedBuffers_append, List.take_append_drop]
  have hfits' := hfits
  simp only [hall, List.flatten_append, List.length_append] at hfits'
  rw [hsplit, recordedBuffers_append, List.length_append]
  rw [hsplit, WavRecorder.recordLog_append, hfirst] at hrest
  have hsurvives := WavRecorder.recordLog_survives (Nat.ne_of_gt hset.readable.block)
    hset.readable.tag
  rcases hsurvives (log.take i) (fun b f hmem => hwrites b f (List.mem_of_mem_take hmem))
    (by rw [List.nil_append]; omega) rest fp₁ hfirst with ⟨rest₁, rfl⟩ | ⟨herr, -⟩
  · obtain ⟨bytes, j, hbytes, hj, hlast, hheld⟩ := (hsurvives ((log.take k).drop i)
      (fun b f hmem => hwrites b f (List.mem_of_mem_take (List.mem_of_mem_drop hmem)))
      (by simp only [List.nil_append, List.length_append]; omega) rest₁ fp₂ hrest).held
      (by simp only [List.nil_append, List.length_append]; omega)
    refine ⟨bytes, (recordedBuffers (log.take i)).length + j, hbytes, Nat.le_add_right _ _,
      Nat.add_le_add_left hj _, fun h => by rw [hlast h], ?_⟩
    have htake : (recordedBuffers log).take ((recordedBuffers (log.take i)).length + j)
        = recordedBuffers (log.take i) ++ (recordedBuffers ((log.take k).drop i)).take j := by
      rw [hall, List.append_assoc, List.take_length_add_append,
        List.take_append_of_le_length hj]
    rw [List.nil_append, ← List.flatten_append, ← htake] at hheld
    refine hheld.playsBack hset (fun b hmem => hlen b (List.mem_of_mem_take hmem)) ?_
    have hparts := congrArg (fun l : List Bytes => l.flatten.length) (List.take_append_drop
      ((recordedBuffers (log.take i)).length + j) (recordedBuffers log))
    simp only [List.flatten_append, List.length_append] at hparts
    omega
  · exact absurd hok₁ herr

end Runs

/-- The last call of the one write fails. -/
theorem recording_survives_mono :
    ∃ tr g fp fp', (stream ieee1722 monoSettings true .faithful).Run tr g ∧
      WavRecorder.setupWavRecorder (List.replicate 36 true ++ [false]) monoSettings = .ok fp ∧
      fp.recordLog g.receiver.state.loop.log = .ok fp' ∧ fp'.err = .os ∧
      ∃ bytes j, fp'.contents = some bytes ∧ j ≤ 1 ∧
        PlaysBack monoSettings bytes ([[1, 2]].take j).flatten := by
  have hexec : (Machine.execute (monoStreamNext true) monoLink
      (monoSends ++ playInputs.map .receive)).map (fun g =>
        (playedBuffers g.receiver.state.loop.log, recordedBuffers g.receiver.state.loop.log,
          (WavRecorder.setupWavRecorder (List.replicate 36 true ++ [false]) monoSettings).bind
            fun fp => (fp.recordLog g.receiver.state.loop.log).bind fun fp' => .ok (fp.err, fp'.err)))
      = some ([[1, 2]], [[1, 2]], .ok (.ok, .os)) := by
    decide +kernel
  obtain ⟨g, hg, hview⟩ := Option.map_eq_some_iff.mp hexec
  obtain ⟨hplayed, hview⟩ := Prod.mk.inj hview
  obtain ⟨hrecorded, hfile⟩ := Prod.mk.inj hview
  obtain ⟨tr, hrun, -⟩ := Machine.Run.execute (M := stream ieee1722 monoSettings true .faithful)
    (fun _ _ _ => monoStreamNext_step) (.start (monoLink_init true .faithful)) hg
  obtain ⟨fp, hsetup, hfile⟩ := except_bind_ok hfile
  obtain ⟨fp', hlog, herrs⟩ := except_bind_ok hfile
  obtain ⟨hok, herr⟩ := Prod.mk.inj (Except.ok.inj herrs)
  have hframes : WholeFrames ieee1722 monoSettings :=
    ⟨Or.inl rfl, by decide, by decide, by decide, by decide, by decide⟩
  have hlast := g.receiver.state.loop.log.take_length
  obtain ⟨bytes, j, hbytes, -, hj, -, hplays⟩ := recording_survives hframes hrun
    (by rw [hplayed]; decide) hsetup hok (Nat.zero_le _) rfl hok (hlast.symm ▸ hlog)
  rw [hlast, hrecorded] at hj
  rw [hplayed] at hplays
  exact ⟨tr, g, fp, fp', hrun, hsetup, hlog, herr, bytes, j, hbytes, hj, hplays⟩

end Tram
