/-
Tram/Talker.lean

The talker (`avb_aaf_talker` of `avb_aaf.c`).

An iteration reads a period from the sound card into the payload of the PDU,
stamps and numbers the PDU and passes it to `sendto`.  What the system answers
is an input record.  The state also says how the loop was left, so a run ends
with the iteration that leaves the loop, whose PDU may have been sent too.

The log is a history variable: the extents handed to `snd_pcm_readi` and the
PDUs handed to `sendto`.
-/
import Tram.Alsa
import Tram.Pdu
import Tram.Runs
import Tram.Clock

namespace Tram

variable {lib : Libavtp} {set : StreamSettings}

/-! ### State and inputs -/

/-- What the talker did. -/
inductive TalkerEvent
  /-- `snd_pcm_readi`, the bytes its frames take and its result. -/
  | readi (extent : ℕ) (rc : ℤ)
  /-- `snd_pcm_prepare`. -/
  | prepare
  /-- `sendto`. -/
  | send (pdu : Bytes)
deriving DecidableEq, Repr

/-- How the loop is left. -/
inductive LoopExit
  /-- `break`: the escape key. -/
  | brk
  /-- `goto end` with the value of `res`. -/
  | goEnd (res : ℤ)
deriving DecidableEq, Repr

/-- The variables of the loop. -/
structure TalkerState where
  pdu : Bytes
  seqNum : ℕ
  exit : Option LoopExit
  log : List TalkerEvent
deriving DecidableEq, Repr

/-- What the system answers in one iteration: the result of `snd_pcm_readi`
with the bytes of the frames it stores, the clock, the result of `sendto` and
the byte read from the terminal, if any. -/
structure TalkerInput where
  readiRc : ℤ
  captured : Bytes
  clock : Option Timespec
  sendRc : ℤ
  key : Option ℕ
deriving DecidableEq, Repr

/-- The read stores bytes behind the end of the PDU. -/
inductive TalkerFault
  | bufferOverflow
deriving DecidableEq, Repr

/-! ### One iteration -/

/-- Store `data` at `offset`. -/
def storeAt (buffer : Bytes) (offset : ℕ) (data : Bytes) : Bytes :=
  buffer.take offset ++ data ++ buffer.drop (offset + data.length)

/-- The bytes a read of `frames_per_pdu` frames may store. -/
def readExtent (set : StreamSettings) : ℕ := alsaFrameBytes set * set.framesPerPdu

/-- The bytes a read with result `readiRc` stores: those of the frames read. -/
def storedBytes (set : StreamSettings) (inp : TalkerInput) : Bytes :=
  inp.captured.take (alsaFrameBytes set * min inp.readiRc.toNat set.framesPerPdu)

/-- `avb_alsa_read` into `pdu->avtp_payload`. -/
def avbAlsaRead (lib : Libavtp) (set : StreamSettings) (inp : TalkerInput) (s : TalkerState) :
    Except TalkerFault TalkerState :=
  let data := storedBytes set inp
  if s.pdu.length < lib.sizeofStreamPdu + data.length then .error .bufferOverflow
  else
    let recover := if inp.readiRc = -epipe then [TalkerEvent.prepare] else []
    .ok { s with
      pdu := storeAt s.pdu lib.sizeofStreamPdu data
      log := s.log ++ .readi (readExtent set) inp.readiRc :: recover }

/-- The rest of the loop body: stamp, number and send. -/
def stampAndSend (lib : Libavtp) (set : StreamSettings) (inp : TalkerInput) (s : TalkerState) :
    TalkerState :=
  match calculateAvtpTime inp.clock set.maxTransitTime with
  | none => { s with exit := some (.goEnd (-1)) }
  | some avtpTime =>
    match lib.aafPduSet s.pdu .timestamp avtpTime with
    | none => { s with exit := some (.goEnd (-1)) }
    | some pdu =>
      let s := { s with pdu }
      let seqNum := s.seqNum
      let s := { s with seqNum := u8 (seqNum + 1) }
      match lib.aafPduSet s.pdu .seqNum seqNum with
      | none => { s with exit := some (.goEnd (-1)) }
      | some pdu =>
        let s := { s with pdu, log := s.log ++ [.send pdu] }
        -- `res` is still the result of the last set
        if inp.sendRc < 0 then { s with exit := some (.goEnd 0) }
        -- the escape key
        else if inp.key = some 27 then { s with exit := some .brk }
        else s

/-- One iteration of the loop of `avb_aaf_talker`. -/
def talkerIteration (lib : Libavtp) (set : StreamSettings) (inp : TalkerInput)
    (s : TalkerState) : Except TalkerFault TalkerState :=
  (avbAlsaRead lib set inp s).map (stampAndSend lib set inp)

/-- The talker from its loop on.  The PDU is a buffer of `pdu_size` bytes from
`alloca` that has gone through `init_pdu`. -/
def talkerLoop (lib : Libavtp) (set : StreamSettings) : Machine TalkerState TalkerInput where
  init := fun s => ∃ buffer pdu, buffer.length = set.pduSize ∧ initPdu lib buffer set = some pdu ∧
    s = ⟨pdu, 0, none, []⟩
  step := fun s inp s' => s.exit = none ∧ talkerIteration lib set inp s = .ok s'

/-- The PDUs handed to `sendto`, oldest first. -/
def sentPdus (log : List TalkerEvent) : List Bytes :=
  log.filterMap fun
    | .send pdu => some pdu
    | _ => none

/-! ### What an iteration does -/

theorem storeAt_length {buffer data : Bytes} {offset : ℕ}
    (h : offset + data.length ≤ buffer.length) :
    (storeAt buffer offset data).length = buffer.length := by
  simp only [storeAt, List.length_append, List.length_take, List.length_drop]
  omega

theorem storeAt_take {buffer data : Bytes} {offset : ℕ} (h : offset ≤ buffer.length) :
    (storeAt buffer offset data).take offset = buffer.take offset := by
  rw [storeAt, List.append_assoc, List.take_append_of_le_length (by simp [h]), List.take_take,
    Nat.min_self]

@[simp] theorem sentPdus_append (l l' : List TalkerEvent) :
    sentPdus (l ++ l') = sentPdus l ++ sentPdus l' := List.filterMap_append

/-- A read within the PDU changes nothing but the payload. -/
theorem avbAlsaRead_ok {inp : TalkerInput} {s s' : TalkerState}
    (h : avbAlsaRead lib set inp s = .ok s') :
    s'.pdu.length = s.pdu.length ∧
      s'.pdu.take lib.sizeofStreamPdu = s.pdu.take lib.sizeofStreamPdu ∧
      s'.seqNum = s.seqNum ∧ s'.exit = s.exit ∧ sentPdus s'.log = sentPdus s.log ∧
      ∀ e ∈ s'.log, e ∈ s.log ∨ e = .readi (readExtent set) inp.readiRc ∨ e = .prepare := by
  rw [avbAlsaRead] at h
  dsimp only at h
  split at h
  · cases h
  · rename_i hroom
    cases h
    refine ⟨storeAt_length (by omega), storeAt_take (by omega), rfl, rfl, ?_, ?_⟩
    · rw [sentPdus_append]
      split <;> simp [sentPdus]
    · intro e he
      simp only [List.mem_append, List.mem_cons] at he
      rcases he with he | rfl | he
      · exact Or.inl he
      · exact Or.inr (Or.inl rfl)
      · split at he
        · exact Or.inr (Or.inr (List.mem_singleton.mp he))
        · cases he

/-- The rest of the body either gives up without a send, when the clock cannot
be read, or sends the PDU stamped and numbered. -/
theorem stampAndSend_cases (set : StreamSettings) (hlib : lib.Lawful) (inp : TalkerInput)
    {s : TalkerState} (hlen : lib.sizeofStreamPdu ≤ s.pdu.length) :
    inp.clock = none ∧ stampAndSend lib set inp s = { s with exit := some (.goEnd (-1)) } ∨
      ∃ avtpTime pdu₁ pdu₂ exit, lib.aafPduSet s.pdu .timestamp avtpTime = some pdu₁ ∧
        lib.aafPduSet pdu₁ .seqNum s.seqNum = some pdu₂ ∧
        stampAndSend lib set inp s
          = ⟨pdu₂, u8 (s.seqNum + 1), exit, s.log ++ [.send pdu₂]⟩ := by
  rcases hclock : inp.clock with - | now
  · left
    refine ⟨rfl, ?_⟩
    simp only [stampAndSend, hclock, calculateAvtpTime]
  · -- no set fails on a buffer that holds the header
    right
    have htime := calculateAvtpTime_some now set.maxTransitTime
    generalize (now.ns + set.maxTransitTime * nsecPerMsec) % 2 ^ 32 = avtpTime at htime
    obtain ⟨pdu₁, hstamp⟩ := hlib.set_isSome s.pdu .timestamp avtpTime hlen
    have hlen₁ : lib.sizeofStreamPdu ≤ pdu₁.length := by rwa [hlib.set_length hstamp]
    obtain ⟨pdu₂, hnum⟩ := hlib.set_isSome pdu₁ .seqNum s.seqNum hlen₁
    simp only [stampAndSend, hclock, htime, hstamp, hnum]
    split
    · exact ⟨avtpTime, pdu₁, pdu₂, _, hstamp, hnum, rfl⟩
    split
    · exact ⟨avtpTime, pdu₁, pdu₂, _, hstamp, hnum, rfl⟩
    · exact ⟨avtpTime, pdu₁, pdu₂, s.exit, hstamp, hnum, rfl⟩

/-! ### Every run -/

/-- The PDU is always a packet of the stream, and the packets sent are numbered
from zero on. -/
structure TalkerInv (lib : Libavtp) (set : StreamSettings) (s : TalkerState) : Prop where
  length : s.pdu.length = set.pduSize
  header : StreamHeader lib set s.pdu
  seqNum : s.seqNum = (sentPdus s.log).length % 256
  sent : ∀ k pdu, (sentPdus s.log)[k]? = some pdu →
    StreamHeader lib set pdu ∧ lib.aafPduGet pdu .seqNum = some (k % 256)
  reads : ∀ extent rc, .readi extent rc ∈ s.log → extent = readExtent set

theorem talkerInv_init (hlib : lib.Lawful) (hfit : lib.sizeofStreamPdu ≤ set.pduSize)
    {s : TalkerState} (h : (talkerLoop lib set).init s) : TalkerInv lib set s := by
  obtain ⟨buffer, pdu, hbuffer, hinit, rfl⟩ := h
  obtain ⟨q, hq, hlen, hheader⟩ := initPdu_spec hlib set (hbuffer ▸ hfit)
  obtain rfl : q = pdu := Option.some.inj (hq.symm.trans hinit)
  refine ⟨hlen.trans hbuffer, hheader, rfl, ?_, ?_⟩
  · intro k pdu hk
    cases hk
  · intro extent rc hmem
    cases hmem

/-- Reading into the payload keeps the invariant. -/
theorem TalkerInv.read (hlib : lib.Lawful) {inp : TalkerInput} {s s' : TalkerState}
    (h : TalkerInv lib set s) (hread : avbAlsaRead lib set inp s = .ok s') :
    TalkerInv lib set s' := by
  obtain ⟨hlen, htake, hseq, -, hsent, hlog⟩ := avbAlsaRead_ok hread
  refine ⟨hlen.trans h.length, h.header.congr hlib htake, ?_, ?_, ?_⟩
  · rw [hseq, hsent, h.seqNum]
  · rw [hsent]
    exact h.sent
  · intro extent rc hmem
    rcases hlog _ hmem with hmem | heq | heq
    · exact h.reads extent rc hmem
    · exact (TalkerEvent.readi.inj heq).1
    · cases heq

/-- Stamping, numbering and sending keeps the invariant. -/
theorem TalkerInv.send (hlib : lib.Lawful) (hfit : lib.sizeofStreamPdu ≤ set.pduSize)
    {s : TalkerState} (h : TalkerInv lib set s) (inp : TalkerInput) :
    TalkerInv lib set (stampAndSend lib set inp s) := by
  have hlen : lib.sizeofStreamPdu ≤ s.pdu.length := h.length ▸ hfit
  rcases stampAndSend_cases set hlib inp hlen with
    ⟨-, heq⟩ | ⟨avtpTime, pdu₁, pdu₂, exit, hstamp, hnum, heq⟩
  · rw [heq]
    exact ⟨h.length, h.header, h.seqNum, h.sent, h.reads⟩
  · have hlen₁ : lib.sizeofStreamPdu ≤ pdu₁.length := by rwa [hlib.set_length hstamp]
    have hheader : StreamHeader lib set pdu₂ :=
      (h.header.setField hlib hlen (Or.inl rfl) hstamp).setField hlib hlen₁ (Or.inr rfl) hnum
    have hnumber : lib.aafPduGet pdu₂ .seqNum = some ((sentPdus s.log).length % 256) := by
      rw [hlib.get_set_same hlen₁ hnum, h.seqNum]
      exact congrArg some (Nat.mod_mod _ _)
    have hsent : sentPdus (s.log ++ [.send pdu₂]) = sentPdus s.log ++ [pdu₂] :=
      sentPdus_append _ _
    rw [heq]
    refine ⟨?_, hheader, ?_, ?_, ?_⟩
    · rw [hlib.set_length hnum, hlib.set_length hstamp, h.length]
    · simp only [hsent, List.length_append, List.length_singleton, h.seqNum, u8]
      omega
    · intro k pdu hk
      rw [hsent, List.getElem?_append] at hk
      split at hk
      · exact h.sent k pdu hk
      · rename_i hge
        -- the new packet is the last one
        rcases hidx : k - (sentPdus s.log).length with - | n
        · rw [hidx] at hk
          obtain rfl := Option.some.inj hk
          have hlast : k = (sentPdus s.log).length := by omega
          rw [hlast]
          exact ⟨hheader, hnumber⟩
        · rw [hidx] at hk
          cases hk
    · intro extent rc hmem
      rcases List.mem_append.mp hmem with hmem | hmem
      · exact h.reads extent rc hmem
      · cases List.mem_singleton.mp hmem

theorem talkerInv_run (hlib : lib.Lawful) (hfit : lib.sizeofStreamPdu ≤ set.pduSize)
    {tr : List (TalkerState × TalkerInput)} {s : TalkerState}
    (hrun : (talkerLoop lib set).Run tr s) : TalkerInv lib set s := by
  refine hrun.invariant_of_step (fun s h => talkerInv_init hlib hfit h) ?_
  rintro s inp s' h ⟨-, hiter⟩
  rw [talkerIteration] at hiter
  rcases hread : avbAlsaRead lib set inp s with f | s₁
  · rw [hread] at hiter
    cases hiter
  · rw [hread] at hiter
    obtain rfl := Except.ok.inj hiter
    exact (h.read hlib hread).send hlib hfit inp

end Tram
