/-
Tram/Sync.lean

The alignment of audio and video (`sync.py`) by the capture instants that
`avbperf` and `vimbaperf` write into the names of their files.

`avbperf` breaks the instant down with `gmtime_r`, `vimbaperf` with
`datetime.fromtimestamp`, which answers in local time; both close the text with
the `Z` of UTC, and `MediaFile.parse` reads it as UTC.  The offsets are right
for the instants that are read (`plan_aligned`), so they are right for the
capture instants exactly when local time is UTC (`syncMain_aligned_iff`).

Instants on the Python side are exact numbers, where the source has floats.
-/
import Tram.Calendar
import Tram.Clock
import Tram.Text

namespace Tram

/-! ### The text of an instant -/

/-- A date and its time of the day, in the order of ISO 8601, after the text of
the year. -/
def isoText (year : List Char) (c : DateTime) : List Char :=
  year ++ '-' :: (zpad 2 c.month ++ '-' :: (zpad 2 c.day ++ 'T' :: (zpad 2 c.hour ++
    ':' :: (zpad 2 c.minute ++ ':' :: zpad 2 c.second))))

/-- `strftime` with the format `"%Y-%m-%dT%H:%M:%S."` into a buffer of `max`
bytes; it fails when the text and its NUL do not fit.  `%Y` is not padded. -/
def strftime (max : ℕ) (tm : DateTime) : Option (List Char) :=
  let text := isoText (decimal tm.year) tm ++ ['.']
  if text.length < max then some text else none

/-- `datetime.isoformat` of a date without microseconds and time zone. -/
def DateTime.isoformat (c : DateTime) : List Char := isoText (zpad 4 c.year) c

theorem isoText_length {year : List Char} {c : DateTime} (hyear : year.length = 4)
    (hc : c.FourDigit) : (isoText year c).length = 19 := by
  simp only [isoText, List.length_append, List.length_cons, hyear,
    zpad_length (w := 2) (by decide) hc.month, zpad_length (w := 2) (by decide) hc.day,
    zpad_length (w := 2) (by decide) hc.hour, zpad_length (w := 2) (by decide) hc.minute,
    zpad_length (w := 2) (by decide) hc.second]

/-- The two programs write the years with four digits alike. -/
theorem strftime_eq_isoformat {c : DateTime} (hc : c.FourDigit) :
    strftime 21 c = some (c.isoformat ++ ['.']) := by
  have hyear : zpad 4 c.year = decimal c.year := zpad_eq_decimal (w := 3) hc.year_ge
  have hlength := isoText_length (zpad_length (w := 4) (by decide) hc.year_lt) hc
  rw [strftime, DateTime.isoformat, ← hyear, List.length_append, hlength, if_pos (by decide)]

/-! ### The file of the audio -/

/-- The extension of `close_wav_recorder` and `AUDIO_EXTENSION`. -/
def audioExtension : List Char := ['.', 'w', 'a', 'v']

/-- `close_wav_recorder`: the name that the recording gets.  `none` stands for
a text that does not fit its buffer, `aux_str` or `wav_filename`. -/
def closeWavRecorder (start : Timespec) (filename : List Char) : Option (List Char) :=
  (strftime 21 (gmtime start.tvSec)).bind fun auxStr =>
    let wavFilename :=
      filename ++ '_' :: (auxStr ++ (zpad 9 start.tvNsec ++ 'Z' :: audioExtension))
    if wavFilename.length < filename.length + 31 + audioExtension.length + 1 then
      some wavFilename
    else none

/-! ### The file of a video -/

/-- The time zone of the host: the seconds by which local time is ahead of UTC
at an instant.  Python bounds them by a day on either side. -/
structure LocalZone where
  utcOffset : ℤ → ℤ
  neg_day_lt : ∀ t, -86400 < utcOffset t
  lt_day : ∀ t, utcOffset t < 86400

/-- `datetime.fromtimestamp` of whole seconds, without `tz`. -/
def LocalZone.fromtimestamp (zone : LocalZone) (t : ℤ) : DateTime := gmtime (t + zone.utcOffset t)

/-- `VIDEO_EXTENSION` of `vimbaperf` and `VIDEO_SRC_EXTENSION` of `sync.py`. -/
def videoExtension : List Char := ['.', 'a', 'v', 'i']

/-- The end of `main` in `vimbaperf`, for one camera: the name that its video
gets.  `none` stands for the `IndexError` of a camera without stamps. -/
def closeVideo (zone : LocalZone) (outputFile camStrId : List Char) (camStamps : List ℕ) :
    Option (List Char) :=
  match camStamps with
  | [] => none
  | beginStamp :: _ =>
      let startTime := zone.fromtimestamp (beginStamp / nsecPerSec : ℕ)
      let timestamp :=
        startTime.isoformat ++ '.' :: (zpad 9 (beginStamp % nsecPerSec) ++ ['Z'])
      some (outputFile ++ '_' :: (camStrId ++ '_' :: (timestamp ++ videoExtension)))

/-! ### `MediaFile` -/

/-- `AUX_VID_PREFIX`. -/
def auxVidPrefix : List Char := ['s', 'y', 'n', 'c']

/-- `MediaFile`; `tStamp` is in µs. -/
structure MediaFile where
  path : List Char
  filename : List Char
  tStampStr : List Char
  tStamp : ℤ
deriving DecidableEq, Repr

/-- `MediaFile.parse`; `timeparser` is `dateutil`'s `parse(…).timestamp()`.
`none` stands for an exception. -/
def MediaFile.parse (timeparser : List Char → Option ℤ) (path : List Char) : Option MediaFile :=
  let stem := (rsplit '.' path).elim path Prod.fst
  match rsplit '_' stem with
  | none => none
  | some (front, tStampStr) =>
      match timeparser tStampStr with
      | none => none
      | some tStamp =>
          let filename := (rsplit '/' front).elim front Prod.snd
          some ⟨path, eraseText (auxVidPrefix ++ ['_']) 0 filename, tStampStr, tStamp⟩

/-- The time stamp in the name of a file. -/
def stampText (c : DateTime) (nsec : ℕ) : List Char :=
  c.isoformat ++ '.' :: (zpad 9 nsec ++ ['Z'])

/-- What is relied on of `dateutil`: the text of an instant with a final `Z` is
read as UTC, and its fraction is cut off after the microseconds. -/
def ReadsUtc (timeparser : List Char → Option ℤ) : Prop :=
  ∀ (t : ℤ) (nsec : ℕ), InCalendar t → nsec < nsecPerSec →
    timeparser (stampText (gmtime t) nsec) = some (t * 1000000 + (nsec / 1000 : ℕ))

theorem stampText_no_separator (c : DateTime) (nsec : ℕ) : '_' ∉ stampText c nsec := by
  intro hmem
  have hdigits : ∀ w n : ℕ, '_' ∉ zpad w n := fun w n hc =>
    absurd (isDigit_of_mem_zpad hc) (by decide)
  simp [stampText, DateTime.isoformat, isoText, hdigits] at hmem

theorem parse_mediaFile {timeparser : List Char → Option ℤ} (front ext : List Char)
    {stamp : List Char} {tStamp : ℤ} (hstamp : '_' ∉ stamp) (hext : '.' ∉ ext)
    (hparse : timeparser stamp = some tStamp) :
    ∃ file, MediaFile.parse timeparser (front ++ '_' :: (stamp ++ '.' :: ext)) = some file ∧
      file.tStamp = tStamp := by
  have hassoc : front ++ '_' :: (stamp ++ '.' :: ext) = (front ++ '_' :: stamp) ++ '.' :: ext := by
    simp only [List.append_assoc, List.cons_append]
  -- the last dot starts the extension, the last underscore the time stamp
  rw [MediaFile.parse, hassoc, rsplit_append _ hext]
  dsimp only [Option.elim]
  rw [rsplit_append _ hstamp]
  dsimp only
  rw [hparse]
  exact ⟨_, rfl, rfl⟩

theorem lt_of_lt_nsecPerSec {n : ℕ} (h : n < nsecPerSec) : n < 10 ^ 9 := by
  rw [show (10 : ℕ) ^ 9 = 1000000000 by decide]
  exact h

theorem stampText_length {c : DateTime} (hc : c.FourDigit) {nsec : ℕ} (hnsec : nsec < nsecPerSec) :
    (stampText c nsec).length = 30 := by
  have hdate := isoText_length (zpad_length (w := 4) (by decide) hc.year_lt) hc
  have hnine := zpad_length (w := 9) (by decide) (lt_of_lt_nsecPerSec hnsec)
  rw [stampText, DateTime.isoformat, List.length_append, hdate, List.length_cons,
    List.length_append, hnine]
  rfl

/-- The name of the audio file carries the UTC text of its instant. -/
theorem closeWavRecorder_eq {start : Timespec} (hstart : InCalendar start.tvSec)
    (hnsec : start.tvNsec < nsecPerSec) (filename : List Char) :
    closeWavRecorder start filename
      = some (filename ++ '_' ::
          (stampText (gmtime start.tvSec) start.tvNsec ++ audioExtension)) := by
  have hdate := gmtime_fourDigit hstart
  generalize hc : gmtime start.tvSec = c at hdate ⊢
  have htext : (c.isoformat ++ ['.']) ++ (zpad 9 start.tvNsec ++ 'Z' :: audioExtension)
      = stampText c start.tvNsec ++ audioExtension := by
    simp only [stampText, List.append_assoc, List.cons_append, List.nil_append]
  rw [closeWavRecorder, hc, strftime_eq_isoformat hdate, Option.bind_some]
  dsimp only
  rw [htext, if_pos]
  rw [List.length_append, List.length_cons, List.length_append, stampText_length hdate hnsec]
  omega

/-! ### `main` of `sync.py` -/

/-- `VIDEO_DST_EXTENSION`. -/
def videoDstExtension : List Char := ['.', 'm', 'p', '4']

/-- The directory `tmp/` that the three programs share. -/
def tmpDir : List Char := ['t', 'm', 'p', '/']

/-- What one `ffmpeg` command is built from: the two `-ss` offsets in µs, before
formatting, the two inputs, `creation_time` and the output. -/
structure Cut where
  videoOffset : ℤ
  videoPath : List Char
  audioOffset : ℤ
  audioPath : List Char
  creationTime : List Char
  output : List Char
deriving DecidableEq, Repr

/-- The values `main` computes before its loop over the videos, and the
commands of the loop. -/
structure Plan where
  latestStartTime : ℤ
  audioOffset : ℤ
  cuts : List Cut
deriving DecidableEq, Repr

/-- The instant of the file that started last. -/
def latestStart (audioFile : MediaFile) (videoFiles : List MediaFile) : ℤ :=
  videoFiles.foldl (fun latest vfile => max latest vfile.tStamp) audioFile.tStamp

/-- The part of `main` after the two directory scans. -/
def plan (zone : LocalZone) (outputFile : List Char) (audioFile : MediaFile)
    (videoFiles : List MediaFile) : Plan :=
  let latest := latestStart audioFile videoFiles
  let startStampS := zone.fromtimestamp (latest / 1000000)
  let startStampNs := (latest % 1000000).toNat * 1000
  let latestStamp := startStampS.isoformat ++ '.' :: (zpad 9 startStampNs ++ ['Z'])
  let audioOffset := max 0 (latest - audioFile.tStamp)
  ⟨latest, audioOffset, videoFiles.map fun vfile =>
    let filename :=
      if outputFile.isEmpty then vfile.filename else outputFile ++ '_' :: vfile.filename
    { videoOffset := max 0 (latest - vfile.tStamp)
      videoPath := vfile.path
      audioOffset := audioOffset
      audioPath := audioFile.path
      creationTime := latestStamp
      output := ['.', '/'] ++ filename ++ videoDstExtension }⟩

/-- `main` on the listing of `./tmp/`.  `none` stands for an exception, of
`MediaFile.parse` or for want of an audio file. -/
def syncMain (timeparser : List Char → Option ℤ) (zone : LocalZone) (outputFile : List Char)
    (listdir : List (List Char)) : Option Plan := do
  let mediaFile := fun file => MediaFile.parse timeparser (['.', '/'] ++ (tmpDir ++ file))
  let videoFiles ← (listdir.filter fun file => videoExtension.isSuffixOf file).mapM mediaFile
  let audioFile ← (listdir.find? fun file => audioExtension.isSuffixOf file).bind mediaFile
  return plan zone outputFile audioFile videoFiles

/-! ### The offsets are right for the instants that are read -/

/-- The latest of a list of instants and a first one is an upper bound of
them, and one of them. -/
theorem foldl_max_spec (vs : List MediaFile) (t : ℤ) :
    t ≤ vs.foldl (fun latest vfile => max latest vfile.tStamp) t ∧
      (∀ v ∈ vs, v.tStamp ≤ vs.foldl (fun latest vfile => max latest vfile.tStamp) t) ∧
      (vs.foldl (fun latest vfile => max latest vfile.tStamp) t = t ∨
        ∃ v ∈ vs, vs.foldl (fun latest vfile => max latest vfile.tStamp) t = v.tStamp) := by
  induction vs generalizing t with
  | nil => exact ⟨Int.le_refl t, fun v hv => absurd hv List.not_mem_nil, Or.inl rfl⟩
  | cons w vs ih =>
      obtain ⟨hmax, hvs, hmem⟩ := ih (max t w.tStamp)
      rw [List.foldl_cons]
      refine ⟨by omega, ?_, ?_⟩
      · intro v hv
        rcases List.mem_cons.mp hv with rfl | hv
        · omega
        · exact hvs v hv
      · -- either the first two instants give the maximum, or a later one
        rcases hmem with hstart | ⟨v, hv, hlatest⟩
        · rw [hstart]
          rcases Int.le_total t w.tStamp with hle | hle
          · exact Or.inr ⟨w, List.mem_cons_self, Int.max_eq_right hle⟩
          · exact Or.inl (Int.max_eq_left hle)
        · exact Or.inr ⟨v, List.mem_cons_of_mem w hv, hlatest⟩

/-- **The offsets of a plan.**  They align the inputs by the time stamps that
were read, none is negative, and the input that started last is not cut. -/
theorem plan_offsets (zone : LocalZone) (outputFile : List Char) (audioFile : MediaFile)
    (videoFiles : List MediaFile) :
    let p := plan zone outputFile audioFile videoFiles
    p.cuts.map (fun cut => p.audioOffset - cut.videoOffset)
        = videoFiles.map (fun vfile => vfile.tStamp - audioFile.tStamp) ∧
      0 ≤ p.audioOffset ∧ (∀ cut ∈ p.cuts, 0 ≤ cut.videoOffset) ∧
      (p.audioOffset = 0 ∨ ∃ cut ∈ p.cuts, cut.videoOffset = 0) := by
  obtain ⟨haudio, hvideos, hlast⟩ := foldl_max_spec videoFiles audioFile.tStamp
  simp only [plan, latestStart]
  refine ⟨?_, Int.le_max_left _ _, ?_, ?_⟩
  · rw [List.map_map]
    refine List.map_congr_left fun v hv => ?_
    have hle := hvideos v hv
    simp only [Function.comp]
    omega
  · intro cut hcut
    obtain ⟨v, -, rfl⟩ := List.mem_map.mp hcut
    exact Int.le_max_left _ _
  · rcases hlast with hstart | ⟨v, hv, hlatest⟩
    · exact Or.inl (by omega)
    · exact Or.inr ⟨_, List.mem_map.mpr ⟨v, hv, rfl⟩, by dsimp only; omega⟩

/-! ### A recording -/

/-- What a recording leaves in `tmp/`: the audio file that `avbperf` named by
the instant `audio`, and the video files that `vimbaperf` named by the first
stamps `videos` of its cameras, in the order of the listing.  Both programs
count ns in 64 bits. -/
structure Recorded (zone : LocalZone) (filename outputFile : List Char) (audio : ℕ)
    (videos : List ℕ) (listdir : List (List Char)) : Prop where
  audio_lt : audio < 2 ^ 64
  videos_lt : ∀ v ∈ videos, v < 2 ^ 64
  audio_name : ∃ file, closeWavRecorder (.ofNs audio) (tmpDir ++ filename) = some (tmpDir ++ file) ∧
    listdir.find? (fun file => audioExtension.isSuffixOf file) = some file
  video_names : List.Forall₂ (fun file v => ∃ camStrId camStamps,
      closeVideo zone (tmpDir ++ outputFile) camStrId (v :: camStamps) = some (tmpDir ++ file))
    (listdir.filter fun file => videoExtension.isSuffixOf file) videos

/-- The inputs are aligned by their capture instants, up to the µs that each
time stamp is cut to. -/
structure Plan.Aligned (p : Plan) (audio : ℕ) (videos : List ℕ) : Prop where
  offsets : p.cuts.map (fun cut => p.audioOffset - cut.videoOffset)
    = videos.map fun v => ((v / 1000 : ℕ) : ℤ) - (audio / 1000 : ℕ)
  audio_nonneg : 0 ≤ p.audioOffset
  video_nonneg : ∀ cut ∈ p.cuts, 0 ≤ cut.videoOffset
  last : p.audioOffset = 0 ∨ ∃ cut ∈ p.cuts, cut.videoOffset = 0

/-- A plan made of a file read at UTC and of files read at local time is
aligned exactly when the two do not differ. -/
theorem plan_aligned_iff (zone : LocalZone) (name : List Char) {audioFile : MediaFile}
    {videoFiles : List MediaFile} {audio : ℕ} {videos : List ℕ}
    (haudio : audioFile.tStamp = (audio / 1000 : ℕ))
    (hvideos : videoFiles.map MediaFile.tStamp = videos.map fun v =>
      ((v / 1000 : ℕ) : ℤ) + zone.utcOffset (v / nsecPerSec : ℕ) * 1000000) :
    (plan zone name audioFile videoFiles).Aligned audio videos ↔
      ∀ v ∈ videos, zone.utcOffset (v / nsecPerSec : ℕ) = 0 := by
  obtain ⟨hoffsets, hnonneg, hvideo, hlast⟩ := plan_offsets zone name audioFile videoFiles
  -- the offsets of the plan are differences of the instants read
  have hread : videoFiles.map (fun vfile => vfile.tStamp - audioFile.tStamp)
      = videos.map fun v => ((v / 1000 : ℕ) : ℤ)
        + zone.utcOffset (v / nsecPerSec : ℕ) * 1000000 - (audio / 1000 : ℕ) := by
    rw [← haudio]
    have hshift := congrArg (List.map fun t => t - audioFile.tStamp) hvideos
    rw [List.map_map, List.map_map] at hshift
    exact hshift
  rw [hread] at hoffsets
  constructor
  · intro haligned v hv
    have heq := List.map_inj_left.mp (hoffsets.symm.trans haligned.offsets) v hv
    omega
  · intro hutc
    refine ⟨hoffsets.trans (List.map_congr_left fun v hv => ?_), hnonneg, hvideo, hlast⟩
    rw [hutc v hv]
    omega

section Recording

variable {timeparser : List Char → Option ℤ} (hparser : ReadsUtc timeparser)

include hparser

/-- The audio file is read at its instant. -/
theorem parse_audio {audio : ℕ} (haudio : audio < 2 ^ 64) {front name : List Char}
    (hname : closeWavRecorder (.ofNs audio) front = some name) (dir : List Char) :
    ∃ file, MediaFile.parse timeparser (dir ++ name) = some file ∧
      file.tStamp = (audio / 1000 : ℕ) := by
  have hcalendar : InCalendar ((audio / nsecPerSec : ℕ) : ℤ) := by
    rw [InCalendar, nsecPerSec]
    omega
  have hnsec : audio % nsecPerSec < nsecPerSec := Timespec.ofNs_tvNsec_lt audio
  rw [closeWavRecorder_eq hcalendar hnsec] at hname
  obtain rfl := Option.some.inj hname
  obtain ⟨file, hparse, hstamp⟩ := parse_mediaFile (dir ++ front) audioExtension.tail
    (stampText_no_separator _ _) (by decide)
    (hparser _ _ hcalendar hnsec)
  refine ⟨file, ?_, ?_⟩
  · rw [← hparse, List.append_assoc]
    rfl
  · rw [hstamp]
    rw [nsecPerSec]
    omega

/-- A video file is read at the local time of its first stamp. -/
theorem parse_video {zone : LocalZone} {v : ℕ} (hv : v < 2 ^ 64)
    {outputFile camStrId name : List Char} {camStamps : List ℕ}
    (hname : closeVideo zone outputFile camStrId (v :: camStamps) = some name)
    (dir : List Char) :
    ∃ file, MediaFile.parse timeparser (dir ++ name) = some file ∧
      file.tStamp = (v / 1000 : ℕ) + zone.utcOffset (v / nsecPerSec : ℕ) * 1000000 := by
  have hcalendar : InCalendar ((v / nsecPerSec : ℕ) + zone.utcOffset (v / nsecPerSec : ℕ)) := by
    have hlow := zone.neg_day_lt (v / nsecPerSec : ℕ)
    have hhigh := zone.lt_day (v / nsecPerSec : ℕ)
    unfold InCalendar nsecPerSec at *
    omega
  have hnsec : v % nsecPerSec < nsecPerSec := Timespec.ofNs_tvNsec_lt v
  obtain rfl := Option.some.inj hname
  obtain ⟨file, hparse, hstamp⟩ := parse_mediaFile
    (dir ++ (outputFile ++ '_' :: camStrId)) videoExtension.tail
    (stampText_no_separator _ _) (by decide) (hparser _ _ hcalendar hnsec)
  refine ⟨file, ?_, ?_⟩
  · rw [← hparse]
    simp only [stampText, LocalZone.fromtimestamp, videoExtension, List.tail_cons,
      List.append_assoc, List.cons_append, List.nil_append]
  · rw [hstamp]
    rw [nsecPerSec]
    omega

/-- The video files are read at the local times of their first stamps. -/
theorem mapM_parse_videos {zone : LocalZone} {outputFile : List Char} {files : List (List Char)}
    {videos : List ℕ} (hvideos : ∀ v ∈ videos, v < 2 ^ 64)
    (hnames : List.Forall₂ (fun file v => ∃ camStrId camStamps,
      closeVideo zone (tmpDir ++ outputFile) camStrId (v :: camStamps) = some (tmpDir ++ file))
      files videos) :
    ∃ videoFiles,
      files.mapM (fun file => MediaFile.parse timeparser (['.', '/'] ++ (tmpDir ++ file)))
        = some videoFiles ∧
      videoFiles.map MediaFile.tStamp = videos.map fun v =>
        ((v / 1000 : ℕ) : ℤ) + zone.utcOffset (v / nsecPerSec : ℕ) * 1000000 := by
  induction hnames with
  | nil => exact ⟨[], rfl, rfl⟩
  | cons hname _ ih =>
      obtain ⟨camStrId, camStamps, hname⟩ := hname
      obtain ⟨file, hparse, hstamp⟩ :=
        parse_video hparser (hvideos _ List.mem_cons_self) hname ['.', '/']
      obtain ⟨videoFiles, hrest, hstamps⟩ :=
        ih fun v hv => hvideos v (List.mem_cons_of_mem _ hv)
      refine ⟨file :: videoFiles, ?_, ?_⟩
      · rw [List.mapM_cons, hparse, hrest]
        rfl
      · rw [List.map_cons, List.map_cons, hstamp, hstamps]

/-- `main` runs to its end on a recording, on files read at UTC for the audio
and at local time for the videos. -/
theorem syncMain_recorded {zone : LocalZone} {filename outputFile : List Char} (name : List Char)
    {audio : ℕ} {videos : List ℕ} {listdir : List (List Char)}
    (hrec : Recorded zone filename outputFile audio videos listdir) :
    ∃ audioFile videoFiles,
      syncMain timeparser zone name listdir = some (plan zone name audioFile videoFiles) ∧
      audioFile.tStamp = (audio / 1000 : ℕ) ∧
      videoFiles.map MediaFile.tStamp = videos.map fun v =>
        ((v / 1000 : ℕ) : ℤ) + zone.utcOffset (v / nsecPerSec : ℕ) * 1000000 := by
  obtain ⟨file, hname, hfind⟩ := hrec.audio_name
  obtain ⟨audioFile, hparse, hstamp⟩ := parse_audio hparser hrec.audio_lt hname ['.', '/']
  obtain ⟨videoFiles, hmap, hstamps⟩ :=
    mapM_parse_videos hparser hrec.videos_lt hrec.video_names
  refine ⟨audioFile, videoFiles, ?_, hstamp, hstamps⟩
  rw [syncMain]
  simp only [hmap, hfind, Option.bind_some, hparse]
  rfl

end Recording

/-! ### A reader -/

/-- A reader of the texts of instants, in the place of `dateutil`. -/
def readUtc (s : List Char) : Option ℤ := do
  let (year, s) ← readNumber 4 s
  let (month, s) ← (expect '-' s).bind (readNumber 2)
  let (day, s) ← (expect '-' s).bind (readNumber 2)
  let (hour, s) ← (expect 'T' s).bind (readNumber 2)
  let (minute, s) ← (expect ':' s).bind (readNumber 2)
  let (second, s) ← (expect ':' s).bind (readNumber 2)
  let (nsec, s) ← (expect '.' s).bind (readNumber 9)
  if s = ['Z'] then
    some (timegm ⟨year, month, day, hour, minute, second⟩ * 1000000 + (nsec / 1000 : ℕ))
  else none

theorem readUtc_stampText {c : DateTime} (hc : c.FourDigit) {nsec : ℕ} (hnsec : nsec < nsecPerSec) :
    readUtc (stampText c nsec) = some (timegm c * 1000000 + (nsec / 1000 : ℕ)) := by
  have hyear := readNumber_zpad (w := 4) (by decide) hc.year_lt
  have hmonth := readNumber_zpad (w := 2) (by decide) hc.month
  have hday := readNumber_zpad (w := 2) (by decide) hc.day
  have hhour := readNumber_zpad (w := 2) (by decide) hc.hour
  have hminute := readNumber_zpad (w := 2) (by decide) hc.minute
  have hsecond := readNumber_zpad (w := 2) (by decide) hc.second
  have hfraction := readNumber_zpad (w := 9) (by decide) (lt_of_lt_nsecPerSec hnsec)
  simp only [readUtc, stampText, DateTime.isoformat, isoText, List.append_assoc, List.cons_append,
    hyear, hmonth, hday, hhour, hminute, hsecond, hfraction, expect_cons, Option.bind_eq_bind,
    Option.bind_some, if_true]

/-- The reader reads UTC. -/
theorem readsUtc_readUtc : ReadsUtc readUtc := by
  intro t nsec ht hnsec
  have hepoch : -((epochDay : ℤ) * 86400) ≤ t := by
    obtain ⟨hlow, -⟩ := ht
    rw [epochDay]
    omega
  rw [readUtc_stampText (gmtime_fourDigit ht) hnsec, timegm_gmtime hepoch]

/-! ### The theorem -/

/-- **Alignment of audio and video.**  On a recording, `main` computes
offsets that align the files by their capture instants exactly when local time
was UTC at the first stamp of every video: `vimbaperf` writes local time under
the `Z` of UTC. -/
theorem syncMain_aligned_iff (zone : LocalZone) (timeparser : List Char → Option ℤ)
    (hparser : ReadsUtc timeparser) (filename outputFile name : List Char) (audio : ℕ)
    (videos : List ℕ) (listdir : List (List Char))
    (hrec : Recorded zone filename outputFile audio videos listdir) :
    (∃ p, syncMain timeparser zone name listdir = some p ∧ p.Aligned audio videos) ↔
      ∀ v ∈ videos, zone.utcOffset (v / nsecPerSec : ℕ) = 0 := by
  obtain ⟨audioFile, videoFiles, hmain, haudio, hvideos⟩ :=
    syncMain_recorded hparser name hrec
  rw [← plan_aligned_iff zone name haudio hvideos]
  constructor
  · rintro ⟨p, hp, haligned⟩
    obtain rfl := Option.some.inj (hmain.symm.trans hp)
    exact haligned
  · intro haligned
    exact ⟨_, hmain, haligned⟩

/-- The host is an hour ahead of UTC; the camera starts an eighth of a second
before the microphone. -/
theorem syncMain_aligned_hourAhead :
    ¬ ∀ (zone : LocalZone) (timeparser : List Char → Option ℤ), ReadsUtc timeparser →
      ∀ (filename outputFile name : List Char) (audio : ℕ) (videos : List ℕ)
        (listdir : List (List Char)), Recorded zone filename outputFile audio videos listdir →
        ∃ p, syncMain timeparser zone name listdir = some p ∧ p.Aligned audio videos := by
  intro h
  have hrec : Recorded ⟨fun _ => 3600, fun _ => by decide, fun _ => by decide⟩
      "sync_mic".toList "sync".toList 1700000000250000000 [1700000000125000000]
      ["sync_mic_2023-11-14T22:13:20.250000000Z.wav".toList,
        "sync_cam_2023-11-14T23:13:20.125000000Z.avi".toList] :=
    { audio_lt := by decide
      videos_lt := by decide
      audio_name := ⟨"sync_mic_2023-11-14T22:13:20.250000000Z.wav".toList, by decide +kernel, by
        decide +kernel⟩
      video_names := .cons ⟨"cam".toList, [], by decide +kernel⟩ .nil }
  obtain ⟨p, hp, haligned⟩ := h _ _ readsUtc_readUtc _ _ [] _ _ _ hrec
  obtain ⟨audioFile, videoFiles, hmain, haudio, hvideos⟩ :=
    syncMain_recorded readsUtc_readUtc [] hrec
  obtain rfl := Option.some.inj (hmain.symm.trans hp)
  have hzero := (plan_aligned_iff _ _ haudio hvideos).mp haligned _ List.mem_cons_self
  exact absurd hzero (by decide)

theorem syncMain_aligned_greenwich :
    (∃ p, syncMain readUtc ⟨fun _ => 0, fun _ => by decide, fun _ => by decide⟩ []
        ["sync_mic_2023-11-14T22:13:20.250000000Z.wav".toList,
          "sync_cam_2023-11-14T22:13:20.125000000Z.avi".toList] = some p ∧
        p.Aligned 1700000000250000000 [1700000000125000000]) ↔
      ∀ v ∈ [1700000000125000000], (fun _ => 0 : ℤ → ℤ) (v / nsecPerSec : ℕ) = 0 :=
  syncMain_aligned_iff ⟨fun _ => 0, fun _ => by decide, fun _ => by decide⟩ readUtc readsUtc_readUtc
    "sync_mic".toList "sync".toList [] 1700000000250000000 [1700000000125000000]
    ["sync_mic_2023-11-14T22:13:20.250000000Z.wav".toList,
      "sync_cam_2023-11-14T22:13:20.125000000Z.avi".toList]
    { audio_lt := by decide
      videos_lt := by decide
      audio_name := ⟨"sync_mic_2023-11-14T22:13:20.250000000Z.wav".toList, by decide +kernel, by
        decide +kernel⟩
      video_names := .cons ⟨"cam".toList, [], by decide +kernel⟩ .nil }

end Tram
