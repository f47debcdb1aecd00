/-
Tram/WavParse.lean

What `wav_parse_header` accepts (`wav.c`).

A file is well formed when it is a RIFF header of the kind WAVE, a sequence of
chunks and the header of a data chunk, with anything behind that.  A format
chunk has at most 40 bytes and leaves a format the library supports, a fact
chunk at most four; either has one at least.  Chunks of other kinds are skipped.

The parser returns without an error exactly on these files, and with the format
and the position of the data they give (`wavInit_accepts`).  The induction
is on the chunks in one direction and on the rounds of the loop in the other.
-/
import Tram.WavReader

namespace Tram

/-! ### Well-formed files -/

/-- The format after a chunk that may come before the data. -/
def acceptChunk (format : WavFormat) (c : Chunk) : Option WavFormat :=
  if c.id = wavFormatChunkId then
    if 0 < c.body.length ∧ c.body.length ≤ sizeofFormatBody ∧
        (format.store c.body).formatTag ∈ supportedFormats then some (format.store c.body)
    else none
  else if c.id = wavFactChunkId then
    if 0 < c.body.length ∧ c.body.length ≤ sizeofFactBody then some format else none
  else if c.id = wavDataChunkId then none
  else if c.id < 2 ^ 32 ∧ c.body.length < 2 ^ 32 then some format
  else none

/-- The format after a sequence of chunks. -/
def acceptChunks (format : WavFormat) : List Chunk → Option WavFormat
  | [] => some format
  | c :: rest => (acceptChunk format c).bind fun format => acceptChunks format rest

/-- The format before the first chunk. -/
def noFormat : WavFormat := WavRecorder.zeroed.format

/-- The file is well formed: behind its chunks, which leave `format`, there are
`size` bytes of data from `offset` on, or so its header says. -/
structure WellFormedWav (bytes : Bytes) (format : WavFormat) (offset size : ℕ) : Prop where
  split : ∃ riffSize chunks rest, riffSize < 2 ^ 32 ∧ size < 2 ^ 32 ∧
    bytes = chunkHeader wavRiffChunkId riffSize ++ (leBytes 4 wavWaveId ++ (chunksBytes chunks
      ++ (chunkHeader wavDataChunkId size ++ rest))) ∧
    offset = 12 + (chunksBytes chunks).length + sizeofChunkHeader ∧
    acceptChunks noFormat chunks = some format

namespace WavReader

/-! ### Single calls -/

/-- The parser has read the first `pos` bytes without an error. -/
structure Reading (bytes : Bytes) (pos : ℕ) (format : WavFormat) (r : WavReader) : Prop where
  fp : r.file.fp = some ⟨bytes, pos, []⟩
  mode : r.file.mode = wavOpenRead
  err : r.file.err = .ok
  ferror : r.ferror = false
  format : r.file.format = format

/-- The data chunk has been found. -/
structure Opened (bytes : Bytes) (format : WavFormat) (offset size : ℕ) (r : WavReader) : Prop
    extends Reading bytes offset format r where
  data : r.file.dataHeader = ⟨wavDataChunkId, size⟩
  offset : r.file.dataOffset = offset

theorem errSet_err {r r' : WavReader} {code : WavErrCode}
    (h : r.errSet code = .ok r') : r'.file.err = code := by
  rw [errSet, WavRecorder.wavErrSet] at h
  split at h
  · cases h
  · rename_i file hset
    cases h
    split at hset <;> cases hset
    rfl

/-- An error is set on a library without one. -/
theorem errSet_clear {r r' : WavReader} {code : WavErrCode}
    (h : r.errSet code = .ok r') : r.file.err = .ok := by
  by_contra herr
  rw [errSet, WavRecorder.wavErrSet, if_neg herr] at h
  cases h

variable {bytes : Bytes} {pos n : ℕ} {format : WavFormat} {r r' : WavReader}
  {next : Bytes → WavReader → Except WavReadFault WavReader}

theorem Reading.advance (h : Reading bytes pos format r) (pos' : ℕ) :
    Reading bytes pos' format (r.setFile ⟨bytes, pos', []⟩) :=
  ⟨rfl, h.mode, h.err, h.ferror, h.format⟩

/-- A read gets what is left of the bytes asked for. -/
theorem Reading.fread (h : Reading bytes pos format r) :
    r.fread n next = next ((bytes.drop pos).take n)
      (r.setFile ⟨bytes, pos + ((bytes.drop pos).take n).length, []⟩) := by
  simp only [WavReader.fread, h.fp, ByteFile.fread, ByteFile.outcome]

theorem Reading.ftell (h : Reading bytes pos format r)
    {next : ℕ → WavReader → Except WavReadFault WavReader} :
    r.ftell next = next pos (r.setFile ⟨bytes, pos, []⟩) := by
  simp only [WavReader.ftell, h.fp, ByteFile.ftell, ByteFile.outcome]

theorem Reading.fskipOr (h : Reading bytes pos format r)
    {next : WavReader → Except WavReadFault WavReader} :
    r.fskipOr n next = next (r.setFile ⟨bytes, pos + n, []⟩) := by
  simp only [WavReader.fskipOr, h.fp, ByteFile.fskip, ByteFile.outcome]

/-- All bytes asked for are there. -/
theorem complete_iff {got : Bytes} : complete n got = true ↔ 0 < n ∧ got.length = n := by
  simp only [complete, Bool.and_eq_true, decide_eq_true_eq, ne_eq]
  omega

theorem Reading.freadOr_full (h : Reading bytes pos format r) {got rest : Bytes} (hn : 0 < n)
    (hsplit : bytes.drop pos = got ++ rest) (hlen : got.length = n) :
    r.freadOr n next = next got (r.setFile ⟨bytes, pos + n, []⟩) := by
  have htake : (bytes.drop pos).take n = got := by rw [hsplit, ← hlen, List.take_left]
  rw [freadOr, h.fread, htake, if_pos (complete_iff.mpr ⟨hn, hlen⟩), hlen]

/-- A checked read that does not find its bytes sets the error. -/
theorem Reading.freadOr_ok (h : Reading bytes pos format r) (hres : r.freadOr n next = .ok r')
    (hok : r'.file.err = .ok) :
    ∃ got rest, bytes.drop pos = got ++ rest ∧ got.length = n ∧
      next got (r.setFile ⟨bytes, pos + n, []⟩) = .ok r' := by
  rw [freadOr, h.fread] at hres
  split at hres
  · rename_i hfull
    obtain ⟨-, hlen⟩ := complete_iff.mp hfull
    rw [hlen] at hres
    exact ⟨_, _, (List.take_append_drop n _).symm, hlen, hres⟩
  · rw [errSet_err hres] at hok
    cases hok

/-! ### The chunks before the data -/

theorem fread_ok (h : r.fread n next = .ok r') :
    ∃ got r₁, next got r₁ = .ok r' ∧ r₁.file.err = r.file.err := by
  rw [fread] at h
  split at h
  · cases h
  split at h
  · exact ⟨_, _, h, rfl⟩
  · exact ⟨_, _, h, rfl⟩

theorem ftell_ok {next : ℕ → WavReader → Except WavReadFault WavReader}
    (h : r.ftell next = .ok r') : ∃ pos r₁, next pos r₁ = .ok r' ∧ r₁.file.err = r.file.err := by
  rw [ftell] at h
  split at h
  · cases h
  split at h
  · exact ⟨_, _, h, rfl⟩
  · exact ⟨_, _, h, rfl⟩

/-- An error that is pending stays. -/
theorem parseChunks_err (rounds : ℕ) {r r' : WavReader} (h : parseChunks rounds r = .ok r')
    (herr : r.file.err ≠ .ok) : r'.file.err ≠ .ok := by
  induction rounds generalizing r with
  | zero =>
      rw [parseChunks] at h
      split at h
      · cases h
        exact herr
      · cases h
  | succ rounds ih =>
      rw [parseChunks] at h
      split at h
      · cases h
        exact herr
      obtain ⟨got, r₁, h, heq⟩ := fread_ok h
      have herr₁ : r₁.file.err ≠ .ok := heq ▸ herr
      split at h
      swap
      · exact absurd (errSet_clear h) herr₁
      dsimp only [parseChunk] at h
      split at h
      · -- a format chunk
        obtain ⟨offset, r₂, h, heq₂⟩ := ftell_ok h
        obtain ⟨body, r₃, h, heq₃⟩ := fread_ok h
        have herr₃ : r₃.file.err ≠ .ok := (heq₃.trans heq₂) ▸ herr₁
        split at h
        · cases h
        dsimp only at h
        split at h
        · exact absurd (errSet_clear h) herr₃
        split at h
        · exact absurd (errSet_clear h) herr₃
        · exact ih h herr₃
      split at h
      · -- a fact chunk
        obtain ⟨offset, r₂, h, heq₂⟩ := ftell_ok h
        obtain ⟨body, r₃, h, heq₃⟩ := fread_ok h
        have herr₃ : r₃.file.err ≠ .ok := (heq₃.trans heq₂) ▸ herr₁
        split at h
        · cases h
        split at h
        · obtain ⟨r₄, hset, -⟩ := except_bind_ok h
          exact absurd (errSet_clear hset) herr₃
        · exact ih h herr₃
      split at h
      · obtain ⟨offset, r₂, h, heq₂⟩ := ftell_ok h
        exact ih h (heq₂ ▸ herr₁)
      · rw [fskipOr] at h
        split at h
        · cases h
        split at h
        · exact ih h herr₁
        · exact absurd (errSet_clear h) herr₁

/-- The reader behind the body `got` of a format chunk. -/
def formatRead (r : WavReader) (bytes : Bytes) (pos size : ℕ) (got : Bytes) : WavReader :=
  { r with file := { r.file with
    fp := some ⟨bytes, pos + got.length, []⟩
    formatHeader := ⟨wavFormatChunkId, size⟩
    formatOffset := pos
    format := r.file.format.store got } }

/-- The reader behind the header of the data chunk. -/
def dataFound (r : WavReader) (bytes : Bytes) (pos size : ℕ) : WavReader :=
  { r with file := { r.file with
    fp := some ⟨bytes, pos, []⟩
    dataHeader := ⟨wavDataChunkId, size⟩
    dataOffset := pos } }

section Cases

variable {size : ℕ} {next : WavReader → Except WavReadFault WavReader}

theorem Reading.parseFormat_eq (h : Reading bytes pos format r) :
    r.parseFormat size next =
      if sizeofFormatBody < ((bytes.drop pos).take size).length then .error .formatOverflow
      else if !complete size ((bytes.drop pos).take size) then
        (formatRead r bytes pos size ((bytes.drop pos).take size)).errSet .format
      else if (format.store ((bytes.drop pos).take size)).formatTag ∉ supportedFormats then
        (formatRead r bytes pos size ((bytes.drop pos).take size)).errSet .format
      else next (formatRead r bytes pos size ((bytes.drop pos).take size)) := by
  simp only [parseFormat, WavReader.ftell, WavReader.fread, setFile, h.fp, ByteFile.ftell,
    ByteFile.fread, ByteFile.outcome, formatRead, h.format]

theorem Reading.parseFact_eq (h : Reading bytes pos format r) :
    r.parseFact size next =
      if sizeofFactBody < ((bytes.drop pos).take size).length then .error .factOverflow
      else if !complete size ((bytes.drop pos).take size) then
        ((r.setFile ⟨bytes, pos + ((bytes.drop pos).take size).length, []⟩).errSet .format).bind next
      else next (r.setFile ⟨bytes, pos + ((bytes.drop pos).take size).length, []⟩) := by
  simp only [parseFact, WavReader.ftell, WavReader.fread, setFile, h.fp, ByteFile.ftell,
    ByteFile.fread, ByteFile.outcome]

theorem Reading.parseData_eq (h : Reading bytes pos format r) :
    r.parseData size next = next (dataFound r bytes pos size) := by
  simp only [parseData, WavReader.ftell, setFile, h.fp, ByteFile.ftell, ByteFile.outcome, dataFound]

end Cases

theorem Chunk.length_toBytes (c : Chunk) : c.toBytes.length = sizeofChunkHeader + c.body.length := by
  rw [Chunk.toBytes, List.length_append, length_chunkHeader]
  rfl

theorem acceptChunk_words {c : Chunk} {format' : WavFormat}
    (h : acceptChunk format c = some format') : c.id < 2 ^ 32 ∧ c.body.length < 2 ^ 32 := by
  rw [acceptChunk] at h
  split at h
  · rename_i hid
    obtain ⟨⟨-, hlen, -⟩, -⟩ := Option.ite_none_right_eq_some.mp h
    exact ⟨hid ▸ by decide, Nat.lt_of_le_of_lt hlen (by decide)⟩
  split at h
  · rename_i hid
    obtain ⟨⟨-, hlen⟩, -⟩ := Option.ite_none_right_eq_some.mp h
    exact ⟨hid ▸ by decide, Nat.lt_of_le_of_lt hlen (by decide)⟩
  split at h
  · cases h
  · exact (Option.ite_none_right_eq_some.mp h).1

/-- One round, once the header of the next chunk is known. -/
theorem Reading.round (h : Reading bytes pos format r)
    (hno : r.file.dataHeader.id ≠ wavDataChunkId) {got rest : Bytes}
    (hsplit : bytes.drop pos = got ++ rest) (hlen : got.length = sizeofChunkHeader) (rounds : ℕ) :
    parseChunks (rounds + 1) r =
      (r.setFile ⟨bytes, pos + sizeofChunkHeader, []⟩).parseChunk (headerOf got).1 (headerOf got).2
        (parseChunks rounds) := by
  rw [parseChunks, if_neg hno, h.freadOr_full (by decide) hsplit hlen]

/-- A chunk that may come before the data takes one round. -/
theorem Reading.accepts (h : Reading bytes pos format r)
    (hno : r.file.dataHeader.id ≠ wavDataChunkId) {c : Chunk} {rest : Bytes} {format' : WavFormat}
    (hsplit : bytes.drop pos = c.toBytes ++ rest) (hacc : acceptChunk format c = some format') :
    ∃ r₁, Reading bytes (pos + c.toBytes.length) format' r₁ ∧
      r₁.file.dataHeader.id ≠ wavDataChunkId ∧
      ∀ rounds, parseChunks (rounds + 1) r = parseChunks rounds r₁ := by
  rw [Chunk.toBytes, List.append_assoc] at hsplit
  have hround := h.round hno hsplit (length_chunkHeader _ _)
  obtain ⟨hid, hsize⟩ := acceptChunk_words hacc
  rw [headerOf_chunkHeader hid hsize] at hround
  have hbody : bytes.drop (pos + sizeofChunkHeader) = c.body ++ rest :=
    ByteFile.drop_of_append hsplit (length_chunkHeader _ _)
  have htake : (bytes.drop (pos + sizeofChunkHeader)).take c.body.length = c.body := by
    rw [hbody, List.take_left]
  have hhead := h.advance (pos + sizeofChunkHeader)
  rw [Chunk.length_toBytes, ← Nat.add_assoc]
  rw [acceptChunk] at hacc
  split at hacc
  · -- a format chunk
    rename_i hid
    obtain ⟨⟨hpos, hlen, htag⟩, hformat⟩ := Option.ite_none_right_eq_some.mp hacc
    obtain rfl := Option.some.inj hformat
    refine ⟨formatRead (r.setFile ⟨bytes, pos + sizeofChunkHeader, []⟩) bytes
      (pos + sizeofChunkHeader) c.body.length c.body, ⟨rfl, h.mode, h.err, h.ferror, ?_⟩, hno,
      fun rounds => ?_⟩
    · show r.file.format.store c.body = _
      rw [h.format]
    · rw [hround, parseChunk, if_pos hid, hhead.parseFormat_eq, htake, if_neg (by omega),
        complete_iff.mpr ⟨hpos, rfl⟩, Bool.not_true, if_neg Bool.false_ne_true,
        if_neg (not_not.mpr htag)]
  rename_i hnotFormat
  split at hacc
  · -- a fact chunk
    rename_i hid
    obtain ⟨⟨hpos, hlen⟩, hformat⟩ := Option.ite_none_right_eq_some.mp hacc
    obtain rfl := Option.some.inj hformat
    refine ⟨_, hhead.advance (pos + sizeofChunkHeader + c.body.length), hno, fun rounds => ?_⟩
    rw [hround, parseChunk, if_neg hnotFormat, if_pos hid, hhead.parseFact_eq, htake,
      if_neg (by omega), complete_iff.mpr ⟨hpos, rfl⟩, Bool.not_true, if_neg Bool.false_ne_true]
  rename_i hnotFact
  split at hacc
  · cases hacc
  · -- a chunk that is skipped
    rename_i hnotData
    obtain ⟨-, hformat⟩ := Option.ite_none_right_eq_some.mp hacc
    obtain rfl := Option.some.inj hformat
    refine ⟨_, hhead.advance (pos + sizeofChunkHeader + c.body.length), hno, fun rounds => ?_⟩
    rw [hround, parseChunk, if_neg hnotFormat, if_neg hnotFact, if_neg hnotData, hhead.fskipOr]

/-- The header of the data chunk ends the loop. -/
theorem Reading.finds (h : Reading bytes pos format r)
    (hno : r.file.dataHeader.id ≠ wavDataChunkId) {size : ℕ} (hsize : size < 2 ^ 32) {rest : Bytes}
    (hsplit : bytes.drop pos = chunkHeader wavDataChunkId size ++ rest) :
    ∃ r', Opened bytes format (pos + sizeofChunkHeader) size r' ∧
      ∀ rounds, parseChunks (rounds + 1) r = .ok r' := by
  have hround := h.round hno hsplit (length_chunkHeader _ _)
  rw [headerOf_chunkHeader (by decide) hsize] at hround
  have hhead := h.advance (pos + sizeofChunkHeader)
  have hnotFormat : wavDataChunkId ≠ wavFormatChunkId := by decide
  have hnotFact : wavDataChunkId ≠ wavFactChunkId := by decide
  refine ⟨dataFound (r.setFile ⟨bytes, pos + sizeofChunkHeader, []⟩) bytes
    (pos + sizeofChunkHeader) size, ⟨⟨rfl, h.mode, h.err, h.ferror, h.format⟩, rfl, rfl⟩,
    fun rounds => ?_⟩
  rw [hround, parseChunk, if_neg hnotFormat, if_neg hnotFact, if_pos rfl, hhead.parseData_eq]
  cases rounds <;> rw [parseChunks] <;> exact if_pos rfl

/-- The loop gets to the data behind chunks that may come before it. -/
theorem Reading.parses {chunks : List Chunk} (h : Reading bytes pos format r)
    (hno : r.file.dataHeader.id ≠ wavDataChunkId) {size : ℕ} (hsize : size < 2 ^ 32) {rest : Bytes}
    (hsplit : bytes.drop pos = chunksBytes chunks ++ (chunkHeader wavDataChunkId size ++ rest))
    {format' : WavFormat} (hacc : acceptChunks format chunks = some format') {rounds : ℕ}
    (hrounds : chunks.length < rounds) :
    ∃ r', Opened bytes format' (pos + (chunksBytes chunks).length + sizeofChunkHeader) size r' ∧
      parseChunks rounds r = .ok r' := by
  induction chunks generalizing pos format r rounds with
  | nil =>
      obtain ⟨rounds, rfl⟩ := Nat.exists_eq_add_one_of_ne_zero (Nat.ne_of_gt hrounds)
      obtain rfl := Option.some.inj hacc
      obtain ⟨r', hopen, heq⟩ := h.finds hno hsize hsplit
      exact ⟨r', hopen, heq rounds⟩
  | cons c chunks ih =>
      obtain ⟨rounds, rfl⟩ := Nat.exists_eq_add_one_of_ne_zero (Nat.ne_zero_of_lt hrounds)
      obtain ⟨format₁, hfirst, hrest⟩ := Option.bind_eq_some_iff.mp hacc
      have hcons : chunksBytes (c :: chunks) = c.toBytes ++ chunksBytes chunks := rfl
      rw [hcons, List.append_assoc] at hsplit
      obtain ⟨r₁, h₁, hno₁, heq⟩ := h.accepts hno hsplit hfirst
      obtain ⟨r', hopen, hres⟩ := ih h₁ hno₁ (ByteFile.drop_of_append hsplit rfl) hrest
        (Nat.lt_of_succ_lt_succ hrounds)
      refine ⟨r', ?_, (heq rounds).trans hres⟩
      rwa [hcons, List.length_append, ← Nat.add_assoc]

/-- A loop that comes to the data has found the header of another chunk. -/
theorem Reading.inside (h : Reading bytes pos format r)
    (hno : r.file.dataHeader.id ≠ wavDataChunkId) {rounds : ℕ}
    (hres : parseChunks rounds r = .ok r') (hok : r'.file.err = .ok) :
    pos + sizeofChunkHeader ≤ bytes.length := by
  rcases rounds with - | rounds
  · rw [parseChunks, if_neg hno] at hres
    cases hres
  · rw [parseChunks, if_neg hno] at hres
    obtain ⟨got, rest, hsplit, hlen, -⟩ := h.freadOr_ok hres hok
    have htotal := congrArg List.length hsplit
    rw [List.length_drop, List.length_append, hlen] at htotal
    have hpos : 0 < sizeofChunkHeader := by decide
    omega

/-- What one round of a loop that comes to the data has found. -/
theorem Reading.round_sound (h : Reading bytes pos format r)
    (hno : r.file.dataHeader.id ≠ wavDataChunkId) {rounds : ℕ}
    (hres : parseChunks (rounds + 1) r = .ok r') (hok : r'.file.err = .ok) :
    (∃ size rest, size < 2 ^ 32 ∧ bytes.drop pos = chunkHeader wavDataChunkId size ++ rest) ∨
      ∃ c rest format', bytes.drop pos = c.toBytes ++ rest ∧
        acceptChunk format c = some format' := by
  rw [parseChunks, if_neg hno] at hres
  obtain ⟨got, rest, hsplit, hlen, hres⟩ := h.freadOr_ok hres hok
  obtain ⟨hgot, hid, hsize⟩ := chunkHeader_headerOf hlen
  have hrest : bytes.drop (pos + sizeofChunkHeader) = rest :=
    ByteFile.drop_of_append hsplit hlen
  have hhead := h.advance (pos + sizeofChunkHeader)
  generalize (headerOf got).1 = id, (headerOf got).2 = size at *
  have hchunk : (rest.take size).length = size →
      bytes.drop pos = Chunk.toBytes ⟨id, rest.take size⟩ ++ rest.drop size := by
    intro hbody
    rw [Chunk.toBytes, List.append_assoc, hbody, List.take_append_drop, ← hgot, hsplit]
  dsimp only [parseChunk] at hres
  split at hres
  · -- a format chunk
    rename_i hfmt
    rw [hhead.parseFormat_eq, hrest] at hres
    split at hres
    · cases hres
    rename_i hroom
    split at hres
    · rw [errSet_err hres] at hok
      cases hok
    rename_i hfull
    obtain ⟨hpos, hbody⟩ := complete_iff.mp (by simpa using hfull)
    split at hres
    · rw [errSet_err hres] at hok
      cases hok
    rename_i htag
    exact .inr ⟨_, _, format.store (rest.take size), hchunk hbody,
      (if_pos hfmt).trans (if_pos ⟨hpos.trans_eq hbody.symm, not_lt.mp hroom, not_not.mp htag⟩)⟩
  rename_i hfmt
  split at hres
  · -- a fact chunk
    rename_i hfact
    rw [hhead.parseFact_eq, hrest] at hres
    split at hres
    · cases hres
    rename_i hroom
    split at hres
    · obtain ⟨r₁, hset, hres⟩ := except_bind_ok hres
      refine absurd hok (parseChunks_err _ hres ?_)
      rw [errSet_err hset]
      decide
    rename_i hfull
    obtain ⟨hpos, hbody⟩ := complete_iff.mp (by simpa using hfull)
    exact .inr ⟨_, _, format, hchunk hbody,
      (if_neg hfmt).trans ((if_pos hfact).trans
        (if_pos ⟨hpos.trans_eq hbody.symm, not_lt.mp hroom⟩))⟩
  rename_i hfact
  split at hres
  · rename_i hdata
    exact .inl ⟨size, rest, hsize, by rw [hsplit, hgot, hdata]⟩
  · -- a chunk that is skipped: the next round finds the file longer than that
    rename_i hdata
    rw [hhead.fskipOr] at hres
    have hinside := (hhead.advance (pos + sizeofChunkHeader + size)).inside hno hres hok
    have hbody : (rest.take size).length = size := by
      rw [List.length_take, ← hrest, List.length_drop]
      omega
    exact .inr ⟨_, _, format, hchunk hbody, (if_neg hfmt).trans ((if_neg hfact).trans
      ((if_neg hdata).trans (if_pos ⟨hid, hbody.trans_lt hsize⟩)))⟩

/-- A loop that comes to the data has found chunks that may come before it. -/
theorem Reading.sound (h : Reading bytes pos format r)
    (hno : r.file.dataHeader.id ≠ wavDataChunkId) {rounds : ℕ}
    (hres : parseChunks rounds r = .ok r') (hok : r'.file.err = .ok) :
    ∃ chunks size rest format', size < 2 ^ 32 ∧
      bytes.drop pos = chunksBytes chunks ++ (chunkHeader wavDataChunkId size ++ rest) ∧
      acceptChunks format chunks = some format' ∧
      Opened bytes format' (pos + (chunksBytes chunks).length + sizeofChunkHeader) size r' := by
  induction rounds generalizing pos format r with
  | zero =>
      rw [parseChunks, if_neg hno] at hres
      cases hres
  | succ rounds ih =>
      rcases h.round_sound hno hres hok with ⟨size, rest, hsize, hsplit⟩ |
        ⟨c, rest, format₁, hsplit, hacc⟩
      · obtain ⟨r₁, hopen, heq⟩ := h.finds hno hsize hsplit
        obtain rfl := Except.ok.inj ((heq rounds).symm.trans hres)
        exact ⟨[], size, rest, format, hsize, hsplit, rfl, hopen⟩
      · obtain ⟨r₁, h₁, hno₁, heq⟩ := h.accepts hno hsplit hacc
        obtain ⟨chunks, size, rest', format', hsize, hsplit', hacc', hopen⟩ :=
          ih h₁ hno₁ ((heq rounds).symm.trans hres)
        have hcons : chunksBytes (c :: chunks) = c.toBytes ++ chunksBytes chunks := rfl
        refine ⟨c :: chunks, size, rest', format', hsize, ?_, ?_, ?_⟩
        · rw [hsplit, hcons, List.append_assoc, ← hsplit', ByteFile.drop_of_append hsplit rfl]
        · exact Option.bind_eq_some_iff.mpr ⟨format₁, hacc, hacc'⟩
        · rwa [hcons, List.length_append, ← Nat.add_assoc]

/-! ### The whole header -/

theorem length_le_chunksBytes (chunks : List Chunk) :
    chunks.length ≤ (chunksBytes chunks).length := by
  induction chunks with
  | nil => exact Nat.le_refl 0
  | cons c chunks ih =>
      have hcons : chunksBytes (c :: chunks) = c.toBytes ++ chunksBytes chunks := rfl
      have hpos : 0 < sizeofChunkHeader := by decide
      rw [hcons, List.length_append, Chunk.length_toBytes, List.length_cons]
      omega

/-- The file as it is opened. -/
def opening (bytes : Bytes) : WavReader :=
  ⟨{ WavRecorder.zeroed with fp := some ⟨bytes, 0, []⟩, mode := wavOpenRead }, false⟩

/-- The reader behind the words of the master chunk. -/
def masterRead (bytes : Bytes) (size : ℕ) : WavReader :=
  ((opening bytes).setFile ⟨bytes, 12, []⟩).setMaster ⟨wavRiffChunkId, size⟩ wavWaveId

theorem opening_reading (bytes : Bytes) : Reading bytes 0 noFormat (opening bytes) :=
  ⟨rfl, rfl, rfl, rfl, rfl⟩

theorem masterRead_reading (bytes : Bytes) (size : ℕ) :
    Reading bytes 12 noFormat (masterRead bytes size) :=
  ⟨rfl, rfl, rfl, rfl, rfl⟩

theorem masterRead_noData (bytes : Bytes) (size : ℕ) :
    (masterRead bytes size).file.dataHeader.id ≠ wavDataChunkId := by
  show (0 : ℕ) ≠ wavDataChunkId
  decide

theorem Reading.setMaster (h : Reading bytes pos format r) (header : WavChunkHeader) (word : ℕ) :
    Reading bytes pos format (r.setMaster header word) :=
  ⟨h.fp, h.mode, h.err, h.ferror, h.format⟩

/-- The parser passes the master chunk. -/
theorem parses_master {bytes rest : Bytes} {size : ℕ} (hsize : size < 2 ^ 32)
    (hsplit : bytes = chunkHeader wavRiffChunkId size ++ (leBytes 4 wavWaveId ++ rest)) :
    wavInit (some bytes) [] = parseChunks (bytes.length + 1) (masterRead bytes size) := by
  have hopen := opening_reading bytes
  have hriff : (chunkHeader wavRiffChunkId size).length = sizeofChunkHeader := length_chunkHeader _ _
  have hword : leNat (leBytes 4 wavWaveId) = wavWaveId := by decide
  have hwave : bytes.drop (0 + sizeofChunkHeader) = leBytes 4 wavWaveId ++ rest :=
    ByteFile.drop_of_append (by rwa [List.drop_zero]) hriff
  have hpast := (hopen.advance (0 + sizeofChunkHeader)).setMaster
    ⟨wavRiffChunkId, size⟩ WavRecorder.zeroed.waveId
  have hlast := (hpast.advance (0 + sizeofChunkHeader + 4)).setMaster
    ⟨wavRiffChunkId, size⟩ wavWaveId
  show wavParseHeader (opening bytes) = _
  rw [wavParseHeader, hopen.freadOr_full (by decide) hsplit hriff,
    headerOf_chunkHeader (by decide) hsize]
  dsimp only
  rw [if_neg (not_not.mpr rfl)]
  refine (hpast.freadOr_full (by decide) hwave (length_leBytes 4 _)).trans ?_
  rw [hword, if_neg (not_not.mpr rfl)]
  exact hlast.ftell

/-- A file that is parsed without an error begins with a master chunk. -/
theorem master_sound {bytes : Bytes} {r : WavReader} (hres : wavInit (some bytes) [] = .ok r)
    (hok : r.file.err = .ok) :
    ∃ size rest, size < 2 ^ 32 ∧
      bytes = chunkHeader wavRiffChunkId size ++ (leBytes 4 wavWaveId ++ rest) := by
  have hopen := opening_reading bytes
  replace hres : wavParseHeader (opening bytes) = .ok r := hres
  rw [wavParseHeader] at hres
  obtain ⟨got, rest, hsplit, hlen, hres⟩ := hopen.freadOr_ok hres hok
  obtain ⟨hgot, -, hsize⟩ := chunkHeader_headerOf hlen
  have hrest : bytes.drop (0 + sizeofChunkHeader) = rest := ByteFile.drop_of_append hsplit hlen
  rw [List.drop_zero] at hsplit
  generalize (headerOf got).1 = id, (headerOf got).2 = size at *
  have hpast := (hopen.advance (0 + sizeofChunkHeader)).setMaster
    ⟨id, size⟩ WavRecorder.zeroed.waveId
  dsimp only at hres
  split at hres
  · rw [errSet_err hres] at hok
    cases hok
  rename_i hid
  obtain rfl := not_not.mp hid
  obtain ⟨word, tail, htail, hword, hres⟩ := hpast.freadOr_ok hres hok
  split at hres
  · rw [errSet_err hres] at hok
    cases hok
  rename_i hwave
  refine ⟨size, tail, hsize, ?_⟩
  rw [hsplit, ← hrest, htail, hgot, ← not_not.mp hwave, leBytes_leNat_of_length hword]

/-! ### The rounds of the loop -/

/-- The bytes in front of the reader. -/
def left (r : WavReader) : ℕ := (r.file.fp.map ByteFile.left).getD 0

theorem left_of_fp {fp : ByteFile} (h : r.file.fp = some fp) : r.left = fp.left := by
  rw [left, h, Option.map_some, Option.getD_some]

theorem errSet_left {code : WavErrCode} (h : r.errSet code = .ok r') : r'.left = r.left := by
  rw [errSet, WavRecorder.wavErrSet] at h
  split at h
  · cases h
  · rename_i file hset
    cases h
    split at hset <;> cases hset
    rfl

theorem errSet_rounds (r : WavReader) (code : WavErrCode) :
    r.errSet code ≠ .error .outOfRounds := by
  intro h
  rw [errSet] at h
  split at h <;> cases h

theorem fread_rounds
    (h : ∀ got r₁, got.length + left r₁ ≤ r.left → next got r₁ ≠ .error .outOfRounds) :
    r.fread n next ≠ .error .outOfRounds := by
  rw [fread]
  split
  · nofun
  rename_i fp hfp
  have hleft := fp.fread_left n
  rw [← left_of_fp hfp] at hleft
  split <;> rename_i heq <;> rw [heq] at hleft <;> exact h _ _ hleft

theorem freadOr_rounds (h : ∀ got r₁, n + left r₁ ≤ r.left → next got r₁ ≠ .error .outOfRounds) :
    r.freadOr n next ≠ .error .outOfRounds := by
  refine fread_rounds fun got r₁ hleft => ?_
  split
  · rename_i hfull
    exact h got r₁ ((complete_iff.mp hfull).2 ▸ hleft)
  · exact errSet_rounds _ _

theorem ftell_rounds {next : ℕ → WavReader → Except WavReadFault WavReader}
    (h : ∀ pos r₁, left r₁ ≤ r.left → next pos r₁ ≠ .error .outOfRounds) :
    r.ftell next ≠ .error .outOfRounds := by
  rw [ftell]
  split
  · nofun
  rename_i fp hfp
  have hleft := Nat.le_of_eq fp.ftell_left
  rw [← left_of_fp hfp] at hleft
  split <;> rename_i heq <;> rw [heq] at hleft <;> exact h _ _ hleft

theorem fskipOr_rounds {next : WavReader → Except WavReadFault WavReader}
    (h : ∀ r₁, left r₁ ≤ r.left → next r₁ ≠ .error .outOfRounds) :
    r.fskipOr n next ≠ .error .outOfRounds := by
  rw [fskipOr]
  split
  · nofun
  rename_i fp hfp
  have hleft := fp.fskip_left n
  rw [← left_of_fp hfp] at hleft
  split <;> rename_i heq <;> rw [heq] at hleft
  · exact h _ hleft
  · exact errSet_rounds _ _

/-- A chunk is read forwards. -/
theorem parseChunk_rounds {id size : ℕ} {next : WavReader → Except WavReadFault WavReader}
    (h : ∀ r₁, left r₁ ≤ r.left → next r₁ ≠ .error .outOfRounds) :
    r.parseChunk id size next ≠ .error .outOfRounds := by
  rw [parseChunk]
  split
  · refine ftell_rounds fun offset r₁ h₁ => fread_rounds fun got r₂ h₂ => ?_
    replace h₂ : got.length + left r₂ ≤ left r₁ := h₂
    split
    · nofun
    dsimp only
    split
    · exact errSet_rounds _ _
    split
    · exact errSet_rounds _ _
    · exact h _ ((Nat.le_of_add_left_le h₂).trans h₁)
  split
  · refine ftell_rounds fun offset r₁ h₁ => fread_rounds fun got r₂ h₂ => ?_
    have h₃ := (Nat.le_of_add_left_le h₂).trans h₁
    split
    · nofun
    split
    · cases hset : r₂.errSet .format with
      | error f => exact fun h => errSet_rounds r₂ .format (hset.trans h)
      | ok r₃ => exact h r₃ ((errSet_left hset).trans_le h₃)
    · exact h _ h₃
  split
  · exact ftell_rounds fun offset r₁ h₁ => h _ h₁
  · exact fskipOr_rounds h

theorem parseChunks_rounds {rounds : ℕ} {r : WavReader} (h : r.left < rounds) :
    parseChunks rounds r ≠ .error .outOfRounds := by
  induction rounds generalizing r with
  | zero => cases h
  | succ rounds ih =>
      rw [parseChunks]
      split
      · nofun
      · have hpos : 0 < sizeofChunkHeader := by decide
        refine freadOr_rounds fun got r₁ h₁ => parseChunk_rounds fun r₂ h₂ => ih ?_
        omega

/-- The rounds are enough, whatever fails. -/
theorem wavParseHeader_rounds (r : WavReader) : r.wavParseHeader ≠ .error .outOfRounds := by
  rw [wavParseHeader]
  refine freadOr_rounds fun got r₁ h₁ => ?_
  dsimp only
  split
  · exact errSet_rounds _ _
  refine freadOr_rounds fun word r₂ h₂ => ?_
  split
  · exact errSet_rounds _ _
  refine ftell_rounds fun _ r₃ h₃ => parseChunks_rounds ?_
  have hmaster : left r₃ ≤ left r₂ ∧ 4 + left r₂ ≤ left r₁ := ⟨h₃, h₂⟩
  have hlen : r.left ≤ (r.file.fp.map fun fp => fp.bytes.length).getD 0 := by
    rw [left]
    cases r.file.fp with
    | none => exact Nat.le_refl 0
    | some fp => exact Nat.sub_le _ _
  omega

theorem wavInit_rounds (file : Option Bytes) (outcomes : List Bool) :
    wavInit file outcomes ≠ .error .outOfRounds := by
  unfold wavInit
  split
  · exact errSet_rounds _ _
  split
  · exact errSet_rounds _ _
  · exact wavParseHeader_rounds _

/-- A file that is opened without an error is well formed. -/
theorem opened_wellFormed {bytes : Bytes} {r : WavReader} (hres : wavInit (some bytes) [] = .ok r)
    (hok : r.file.err = .ok) :
    ∃ format offset size, WellFormedWav bytes format offset size ∧
      Opened bytes format offset size r := by
  obtain ⟨riffSize, rest, hriff, hsplit⟩ := master_sound hres hok
  rw [parses_master hriff hsplit] at hres
  obtain ⟨chunks, size, tail, format, hsize, htail, hacc, hopen⟩ :=
    (masterRead_reading bytes riffSize).sound (masterRead_noData bytes riffSize) hres hok
  refine ⟨format, _, size, ⟨riffSize, chunks, tail, hriff, hsize, ?_, rfl, hacc⟩, hopen⟩
  have hrest : bytes.drop 12 = rest := by
    rw [hsplit, ← List.append_assoc]
    exact List.drop_left' rfl
  rw [hsplit, ← htail, hrest]

/-- A well-formed file is opened. -/
theorem wellFormed_opened {bytes : Bytes} {format : WavFormat} {offset size : ℕ}
    (h : WellFormedWav bytes format offset size) :
    ∃ r, wavInit (some bytes) [] = .ok r ∧ Opened bytes format offset size r := by
  obtain ⟨riffSize, chunks, rest, hriff, hsize, hsplit, rfl, hacc⟩ := h
  have hrest : bytes.drop 12 = chunksBytes chunks ++ (chunkHeader wavDataChunkId size ++ rest) := by
    rw [hsplit, ← List.append_assoc]
    exact List.drop_left' rfl
  have hlen : chunks.length < bytes.length + 1 := by
    have hbytes := congrArg List.length hsplit
    have hchunks := length_le_chunksBytes chunks
    simp only [List.length_append] at hbytes
    omega
  obtain ⟨r, hopen, hres⟩ := (masterRead_reading bytes riffSize).parses
    (masterRead_noData bytes riffSize) hsize hrest hacc hlen
  exact ⟨r, (parses_master hriff hsplit).trans hres, hopen⟩

/-- **What the parser accepts.**  Without failures of the system a file is
opened without an error exactly if it is well formed, and the reader has then
the format, the position and the size of the data the file gives.  The parser
ends on every file, whatever fails. -/
theorem wavInit_accepts (bytes : Bytes) :
    (∀ r, wavInit (some bytes) [] = .ok r → r.file.err = .ok →
      ∃ format offset size, WellFormedWav bytes format offset size ∧
        Opened bytes format offset size r) ∧
    (∀ format offset size, WellFormedWav bytes format offset size →
      ∃ r, wavInit (some bytes) [] = .ok r ∧ Opened bytes format offset size r) ∧
    ∀ outcomes, wavInit (some bytes) outcomes ≠ .error .outOfRounds :=
  ⟨fun _ => opened_wellFormed, fun _ _ _ => wellFormed_opened, wavInit_rounds (some bytes)⟩

end WavReader

end Tram
