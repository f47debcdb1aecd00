/-
Tram/WavImage.lean

A WAV file as bytes: the header the library writes, with any two sizes, and
what is behind it.

The library's own parser takes such a file (`wavImage_wellFormed`), whatever it
holds, and each write of the library to one leaves another one.
-/
import Tram.RecordedFile
import Tram.WavParse

namespace Tram

/-! ### The format -/

/-- The fields of the format fit their words, and there is no extension. -/
structure WavFormat.Fits (format : WavFormat) : Prop where
  tag : format.formatTag < 2 ^ 16
  channels : format.numChannels < 2 ^ 16
  rate : format.sampleRate < 2 ^ 32
  bytesPerSec : format.avgBytesPerSec < 2 ^ 32
  block : format.blockAlign < 2 ^ 16
  bits : format.bitsPerSample < 2 ^ 16
  ext : format.extSize = 0

/-- The body of a format chunk reads back. -/
theorem ofBytes_toBytes {format : WavFormat} (h : format.Fits) :
    WavFormat.ofBytes format.toBytes = format := by
  rcases format with ⟨tag, channels, rate, bytesPerSec, block, bits, ext⟩
  obtain ⟨htag, hchannels, hrate, hbytesPerSec, hblock, hbits, hext⟩ := h
  dsimp only at *
  simp [WavFormat.ofBytes, WavFormat.toBytes, List.drop_append, take_leBytes, drop_leBytes]
  omega

/-- A chunk without the extensible part is the format, on a cleared record. -/
theorem store_toBytes {format : WavFormat} (h : format.Fits) :
    noFormat.store (format.toBytes.take 16) = format := by
  have hbytes : format.toBytes.take 16 ++ noFormat.toBytes.drop 16 = format.toBytes := by
    have hext : format.toBytes.drop 16 = noFormat.toBytes.drop 16 := by
      rw [WavFormat.toBytes, h.ext]
      simp [List.drop_append, drop_leBytes]
      rfl
    rw [← hext, List.take_append_drop]
  have hlen : (format.toBytes.take 16).length = 16 := by simp [WavFormat.toBytes]
  rw [WavFormat.store, hlen, hbytes, ofBytes_toBytes h]

/-! ### The file -/

/-- A file that begins with the header of `format`, with these two sizes. -/
def wavImage (format : WavFormat) (riffSize size : ℕ) (body : Bytes) : Bytes :=
  leBytes 4 wavRiffChunkId ++ leBytes 4 riffSize ++ headerMiddle format ++ leBytes 4 size ++ body

theorem wavHeader_image (format : WavFormat) (size : ℕ) (body : Bytes) :
    wavHeader format size ++ body = wavImage format (36 + size) size body := by
  rw [wavHeader_split, wavImage]

theorem drop_wavImage (format : WavFormat) (riffSize size : ℕ) (body : Bytes) :
    (wavImage format riffSize size body).drop 44 = body :=
  List.drop_left' (by simp [headerMiddle])

theorem wavImage_split (format : WavFormat) (riffSize size : ℕ) (body : Bytes) :
    wavImage format riffSize size body
      = chunkHeader wavRiffChunkId riffSize ++ (leBytes 4 wavWaveId
        ++ (Chunk.toBytes ⟨wavFormatChunkId, format.toBytes.take 16⟩
          ++ (chunkHeader wavDataChunkId size ++ body))) := by
  have hlen : (format.toBytes.take 16).length = 16 := by simp [WavFormat.toBytes]
  rw [Chunk.toBytes, hlen, WavFormat.toBytes_take]
  simp only [wavImage, headerMiddle, chunkHeader, List.append_assoc]

/-- Such a file is well formed, whatever it holds. -/
theorem wavImage_wellFormed {format : WavFormat} (h : format.Fits)
    (htag : format.formatTag ∈ supportedFormats) {riffSize size : ℕ}
    (hriff : riffSize < 2 ^ 32) (hsize : size < 2 ^ 32) (body : Bytes) :
    WellFormedWav (wavImage format riffSize size body) format 44 size := by
  have hlen : (format.toBytes.take 16).length = 16 := by simp [WavFormat.toBytes]
  refine ⟨riffSize, [⟨wavFormatChunkId, format.toBytes.take 16⟩], body, hriff, hsize, ?_, ?_, ?_⟩
  · rw [chunksBytes_cons, chunksBytes_nil, List.append_nil, wavImage_split, Chunk.toBytes]
  · rw [chunksBytes_cons, chunksBytes_nil, List.append_nil, List.length_append, hlen,
      length_chunkHeader]
    rfl
  · have hacc : acceptChunk noFormat ⟨wavFormatChunkId, format.toBytes.take 16⟩ = some format := by
      rw [acceptChunk, if_pos rfl, store_toBytes h]
      exact if_pos ⟨by rw [hlen]; decide, by rw [hlen]; decide, htag⟩
    rw [acceptChunks, hacc]
    rfl

/-- A tag the parser does not know is refused. -/
theorem wavImage_refused {format : WavFormat} (h : format.Fits)
    (htag : format.formatTag ∉ supportedFormats) {riffSize : ℕ} (hriff : riffSize < 2 ^ 32)
    (size : ℕ) (body : Bytes) :
    ∃ r, WavReader.wavInit (some (wavImage format riffSize size body)) [] = .ok r ∧
      r.file.err = .format := by
  have hlen : (format.toBytes.take 16).length = 16 := by simp [WavFormat.toBytes]
  have hsplit := wavImage_split format riffSize size body
  rw [WavReader.parses_master hriff hsplit]
  set bytes := wavImage format riffSize size body with hbytes
  have hmaster := WavReader.masterRead_reading bytes riffSize
  have hchunk : bytes.drop 12 = chunkHeader wavFormatChunkId 16
      ++ (format.toBytes.take 16 ++ (chunkHeader wavDataChunkId size ++ body)) := by
    rw [hsplit, ← List.append_assoc, List.drop_left' (by simp), Chunk.toBytes, hlen,
      List.append_assoc]
  have hbody : (bytes.drop (12 + sizeofChunkHeader)).take 16 = format.toBytes.take 16 := by
    have hdrop : bytes.drop (12 + sizeofChunkHeader) = _ :=
      ByteFile.drop_of_append hchunk (length_chunkHeader _ _)
    rw [hdrop, List.take_left' hlen]
  have hround := hmaster.round (WavReader.masterRead_noData bytes riffSize) hchunk
    (length_chunkHeader _ _) bytes.length
  rw [headerOf_chunkHeader (by decide) (by decide), WavReader.parseChunk, if_pos rfl,
    (hmaster.advance (12 + sizeofChunkHeader)).parseFormat_eq, hbody, if_neg (by rw [hlen]; decide),
    WavReader.complete_iff.mpr ⟨by decide, hlen⟩, Bool.not_true, if_neg Bool.false_ne_true,
    store_toBytes h, if_pos htag] at hround
  exact ⟨_, hround, rfl⟩

/-! ### Writes to it -/

variable {format : WavFormat} {riffSize size : ℕ} {body : Bytes}

theorem overwrite_riffSize (riffSize' : ℕ) :
    overwrite (wavImage format riffSize size body) 4 (leBytes 4 riffSize')
      = wavImage format riffSize' size body := by
  have h := @overwrite_middle (leBytes 4 wavRiffChunkId) (leBytes 4 riffSize)
    (headerMiddle format ++ leBytes 4 size ++ body) (leBytes 4 riffSize') (by simp)
  rw [length_leBytes] at h
  simpa only [wavImage, List.append_assoc] using h

theorem overwrite_size (size' : ℕ) :
    overwrite (wavImage format riffSize size body) 40 (leBytes 4 size')
      = wavImage format riffSize size' body := by
  have h := @overwrite_middle (leBytes 4 wavRiffChunkId ++ leBytes 4 riffSize ++ headerMiddle format)
    (leBytes 4 size) body (leBytes 4 size') (by simp)
  have hlen : (leBytes 4 wavRiffChunkId ++ leBytes 4 riffSize ++ headerMiddle format).length = 40 := by
    simp [headerMiddle]
  rwa [hlen] at h

/-- A write behind the header. -/
theorem overwrite_behind (pos : ℕ) (buffer : Bytes) :
    overwrite (wavImage format riffSize size body) (44 + pos) buffer
      = wavImage format riffSize size (overwrite body pos buffer) := by
  have hlen : (leBytes 4 wavRiffChunkId ++ leBytes 4 riffSize ++ headerMiddle format
      ++ leBytes 4 size).length = 44 := by
    simp [headerMiddle]
  rw [wavImage, wavImage, ← hlen, overwrite_append_left]

theorem overwrite_body (buffer : Bytes) :
    overwrite (wavImage format riffSize size body) (44 + body.length) buffer
      = wavImage format riffSize size (body ++ buffer) := by
  rw [overwrite_behind, overwrite_length]

end Tram
