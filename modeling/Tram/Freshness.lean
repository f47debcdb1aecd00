/-
Tram/Freshness.lean

What the packets of the talker carry (`avb_aaf_talker`, `avb_alsa_read`).

One PDU is used for all packets, and `avb_alsa_read` tells its caller nothing:
after a failed or a short read the rest of the payload is what an earlier
iteration, or nobody, put there, and the packet is sent all the same.

The history of a run says what each read stored.  The payloads sent are those
blocks, one packet for each, exactly when every read before a packet was as
long as the payload.
-/
import Tram.LoopInvariant
import Tram.Talker

namespace Tram

variable {lib : Libavtp} {set : StreamSettings}

/-- The blocks the reads of a run stored, for the iterations that came to
`sendto`. -/
def capturedBlocks (set : StreamSettings) (tr : List (TalkerState × TalkerInput)) : List Bytes :=
  tr.filterMap fun p => if p.2.clock.isSome then some (storedBytes set p.2) else none

/-- The payloads of the packets handed to `sendto`. -/
def sentPayloads (lib : Libavtp) (s : TalkerState) : List Bytes :=
  (sentPdus s.log).map fun pdu => pdu.drop lib.sizeofStreamPdu

/-- The frames read fill the payload of the PDU. -/
def FillsPayload (lib : Libavtp) (set : StreamSettings) (inp : TalkerInput) : Prop :=
  lib.sizeofStreamPdu + (storedBytes set inp).length = set.pduSize

/-- The iteration sends no packet, or its read filled the payload. -/
def SendsFullRead (lib : Libavtp) (set : StreamSettings) (_ : TalkerState) (inp : TalkerInput) :
    Prop :=
  inp.clock.isSome = true → FillsPayload lib set inp

/-! ### The payload of one packet -/

/-- Behind the data stored at `offset` the buffer is as before. -/
theorem storeAt_drop {buffer data : Bytes} {offset : ℕ} (h : offset ≤ buffer.length) :
    (storeAt buffer offset data).drop offset = data ++ buffer.drop (offset + data.length) := by
  have htake : (buffer.take offset).length = offset := by rw [List.length_take, Nat.min_eq_left h]
  calc (storeAt buffer offset data).drop offset
      = (buffer.take offset ++ (data ++ buffer.drop (offset + data.length))).drop offset := by
        rw [storeAt, List.append_assoc]
    _ = data ++ buffer.drop (offset + data.length) := List.drop_left' htake

/-- What a read leaves in the PDU. -/
theorem avbAlsaRead_pdu {inp : TalkerInput} {s s' : TalkerState}
    (h : avbAlsaRead lib set inp s = .ok s') :
    lib.sizeofStreamPdu + (storedBytes set inp).length ≤ s.pdu.length ∧
      s'.pdu = storeAt s.pdu lib.sizeofStreamPdu (storedBytes set inp) := by
  rw [avbAlsaRead] at h
  dsimp only at h
  split at h
  · cases h
  · rename_i hroom
    cases h
    exact ⟨by omega, rfl⟩

/-- An iteration that reads the clock sends one packet: the bytes just stored,
and behind them the old ones. -/
theorem talkerIteration_sends (hlib : lib.Lawful) {inp : TalkerInput} {s s' : TalkerState}
    (h : talkerIteration lib set inp s = .ok s') :
    lib.sizeofStreamPdu + (storedBytes set inp).length ≤ s.pdu.length ∧
      s'.pdu.length = s.pdu.length ∧
      sentPayloads lib s' = sentPayloads lib s ++
        if inp.clock.isSome then [storedBytes set inp ++
          s.pdu.drop (lib.sizeofStreamPdu + (storedBytes set inp).length)] else [] := by
  rw [talkerIteration] at h
  rcases hread : avbAlsaRead lib set inp s with f | s₁
  · rw [hread] at h
    cases h
  rw [hread] at h
  obtain rfl := Except.ok.inj h
  obtain ⟨hroom, hpdu⟩ := avbAlsaRead_pdu hread
  obtain ⟨hlen, -, -, -, hsent, -⟩ := avbAlsaRead_ok hread
  have hheader : lib.sizeofStreamPdu ≤ s₁.pdu.length := by omega
  rcases stampAndSend_cases set hlib inp hheader with
    ⟨hclock, heq⟩ | ⟨avtpTime, pdu₁, pdu₂, exit, hstamp, hnum, heq⟩
  · rw [heq, hclock]
    refine ⟨hroom, hlen, ?_⟩
    show (sentPdus s₁.log).map _ = _ ++ []
    rw [hsent, List.append_nil]
    rfl
  · have hsome : inp.clock.isSome = true := by
      rcases hclock : inp.clock with - | now
      · -- without a clock reading nothing is sent
        have hgiveUp : stampAndSend lib set inp s₁ = { s₁ with exit := some (.goEnd (-1)) } := by
          simp only [stampAndSend, hclock, calculateAvtpTime]
        have hlog := congrArg TalkerState.log (hgiveUp.symm.trans heq)
        exact absurd hlog (by simp)
      · rfl
    have hlen₁ : lib.sizeofStreamPdu ≤ pdu₁.length := by rwa [hlib.set_length hstamp]
    have hpayload : pdu₂.drop lib.sizeofStreamPdu = storedBytes set inp ++
        s.pdu.drop (lib.sizeofStreamPdu + (storedBytes set inp).length) := by
      rw [hlib.set_payload hlen₁ hnum, hlib.set_payload hheader hstamp, hpdu,
        storeAt_drop (by omega)]
    rw [heq, if_pos hsome]
    refine ⟨hroom, ?_, ?_⟩
    · rw [hlib.set_length hnum, hlib.set_length hstamp, hlen]
    · rw [sentPayloads, sentPayloads, sentPdus_append, hsent, List.map_append, ← hpayload]
      rfl

/-! ### Every run -/

theorem setFields_length (hlib : lib.Lawful) (fs : List (AafField × ℕ)) :
    ∀ {p q : Bytes}, setFields lib p fs = some q → q.length = p.length := by
  induction fs with
  | nil =>
      intro p q h
      exact congrArg List.length (Option.some.inj h).symm
  | cons fv rest ih =>
      intro p q h
      obtain ⟨p₁, hset, hrest⟩ := Option.bind_eq_some_iff.mp h
      rw [ih hrest, hlib.set_length hset]

theorem initPdu_length (hlib : lib.Lawful) {buffer pdu : Bytes}
    (h : initPdu lib buffer set = some pdu) : pdu.length = buffer.length := by
  rw [initPdu_eq] at h
  obtain ⟨q, hinit, hfields⟩ := Option.bind_eq_some_iff.mp h
  rw [setFields_length hlib _ hfields, hlib.init_length hinit]

/-- One more iteration: its packet carries the block just captured exactly when
the read filled the payload. -/
theorem sentPayloads_step (hlib : lib.Lawful) {tr : List (TalkerState × TalkerInput)}
    {inp : TalkerInput} {s s' : TalkerState} (hlen : s.pdu.length = set.pduSize)
    (h : talkerIteration lib set inp s = .ok s') :
    sentPayloads lib s' = capturedBlocks set (tr ++ [(s, inp)]) ↔
      sentPayloads lib s = capturedBlocks set tr ∧ SendsFullRead lib set s inp := by
  obtain ⟨hroom, -, hsent⟩ := talkerIteration_sends hlib h
  rw [hsent, capturedBlocks, List.filterMap_append]
  rcases hclock : inp.clock with - | now
  · have hnothing : SendsFullRead lib set s inp := by
      intro hsome
      rw [hclock] at hsome
      cases hsome
    simp [hclock, hnothing, capturedBlocks]
  · have hfull : SendsFullRead lib set s inp ↔ FillsPayload lib set inp :=
      ⟨fun hsends => hsends (by rw [hclock]; rfl), fun hfills _ => hfills⟩
    have hrest : storedBytes set inp ++
        s.pdu.drop (lib.sizeofStreamPdu + (storedBytes set inp).length) = storedBytes set inp ↔
          FillsPayload lib set inp := by
      rw [List.append_right_eq_self, List.drop_eq_nil_iff, hlen, FillsPayload]
      omega
    rw [hfull, ← hrest, ← List.append_singleton_inj]
    simp [hclock, capturedBlocks]

/-- **Fresh audio only.**  In every run the payloads sent are the blocks
captured, each packet carrying the one of its own iteration and nothing else,
exactly when every read before a packet filled the payload. -/
theorem talkerLoop_fresh_iff (hlib : lib.Lawful) {tr : List (TalkerState × TalkerInput)}
    {s : TalkerState} (hrun : (talkerLoop lib set).Run tr s) :
    sentPayloads lib s = capturedBlocks set tr ↔ Machine.All (SendsFullRead lib set) tr := by
  have hinv : s.pdu.length = set.pduSize ∧ (sentPayloads lib s = capturedBlocks set tr ↔
      Machine.All (SendsFullRead lib set) tr) := by
    induction hrun with
    | start h =>
        obtain ⟨buffer, pdu, hbuffer, hinit, rfl⟩ := h
        exact ⟨(initPdu_length hlib hinit).trans hbuffer, iff_of_true rfl Machine.All.nil⟩
    | @next tr s inp s' _ hstep ih =>
        obtain ⟨hlen, hiff⟩ := ih
        obtain ⟨-, hiter⟩ := hstep
        refine ⟨(talkerIteration_sends hlib hiter).2.1.trans hlen, ?_⟩
        rw [sentPayloads_step hlib hlen hiter, Machine.all_snoc, hiff]
  exact hinv.2

/-! ### Two iterations -/

/-- One iteration, where it is possible. -/
def talkerNext (lib : Libavtp) (set : StreamSettings) (s : TalkerState) (inp : TalkerInput) :
    Option TalkerState :=
  if s.exit = none then (talkerIteration lib set inp s).toOption else none

theorem talkerNext_step {s s' : TalkerState} {inp : TalkerInput}
    (h : talkerNext lib set s inp = some s') : (talkerLoop lib set).step s inp s' := by
  obtain ⟨hexit, hnext⟩ := Option.ite_none_right_eq_some.mp h
  refine ⟨hexit, ?_⟩
  rcases hiter : talkerIteration lib set inp s with f | s₁ <;> rw [hiter] at hnext
  · cases hnext
  · rw [Option.some.inj hnext]

/-- The talker of the mono stream before its loop. -/
def monoTalker : TalkerState :=
  ⟨(initPdu ieee1722 (List.replicate 26 0) monoSettings).getD [], 0, none, []⟩

theorem monoTalker_init : (talkerLoop ieee1722 monoSettings).init monoTalker :=
  ⟨List.replicate 26 0, monoTalker.pdu, by decide, by decide +kernel, rfl⟩

theorem capturedBlocks_eq (set : StreamSettings) (tr : List (TalkerState × TalkerInput)) :
    capturedBlocks set tr = (tr.map Prod.snd).filterMap fun inp =>
      if inp.clock.isSome then some (storedBytes set inp) else none := by
  rw [List.filterMap_map]
  rfl

/-- An overrun in the second iteration sends the block of the first one again. -/
theorem talkerLoop_fresh_overrun :
    ¬ ∀ (tr : List (TalkerState × TalkerInput)) (s : TalkerState),
      (talkerLoop ieee1722 monoSettings).Run tr s →
      sentPayloads ieee1722 s = capturedBlocks monoSettings tr := by
  intro h
  have hexec : (Machine.execute (talkerNext ieee1722 monoSettings) monoTalker
      [⟨1, [1, 2], some ⟨10, 0⟩, 26, none⟩, ⟨-32, [], some ⟨10, 20000⟩, 26, none⟩]).map
      (sentPayloads ieee1722) = some [[1, 2], [1, 2]] := by
    decide +kernel
  obtain ⟨s, hs, hview⟩ := Option.map_eq_some_iff.mp hexec
  obtain ⟨tr, hrun, hinputs⟩ := Machine.Run.execute (fun _ _ _ hstep => talkerNext_step hstep)
    (.start monoTalker_init) hs
  have hall := h _ s hrun
  rw [hview, capturedBlocks_eq, List.nil_append, hinputs] at hall
  revert hall
  decide

/-- Two full reads. -/
theorem talkerLoop_fresh_full :
    ∃ tr s, (talkerLoop ieee1722 monoSettings).Run tr s ∧
      sentPayloads ieee1722 s = [[1, 2], [3, 4]] ∧
      Machine.All (SendsFullRead ieee1722 monoSettings) tr := by
  have hexec : (Machine.execute (talkerNext ieee1722 monoSettings) monoTalker
      [⟨1, [1, 2], some ⟨10, 0⟩, 26, none⟩, ⟨1, [3, 4], some ⟨10, 20000⟩, 26, none⟩]).map
      (sentPayloads ieee1722) = some [[1, 2], [3, 4]] := by
    decide +kernel
  obtain ⟨s, hs, hview⟩ := Option.map_eq_some_iff.mp hexec
  obtain ⟨tr, hrun, hinputs⟩ := Machine.Run.execute (fun _ _ _ hstep => talkerNext_step hstep)
    (.start monoTalker_init) hs
  refine ⟨_, s, hrun, hview, (talkerLoop_fresh_iff ieee1722_lawful hrun).mp ?_⟩
  rw [hview, capturedBlocks_eq, List.nil_append, hinputs]
  decide

end Tram
