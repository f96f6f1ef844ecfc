import AstLink.Proofs.Status.Decoding

namespace AstLink

/-!
From a signed word to a byte.

The system reports a status as a signed number, the wrapper computes its exit code in signed numbers
as well, and only a byte of that code reaches the parent.  Residues do not mind the sign: what a
status says can be read off the remainders of the reported number (`Outcome.ofRaw`), and the byte of
a code is its remainder modulo 256.  The exit code that a status leads to is a byte already, so the
last step changes nothing.  The main statement is `narrowing_keeps`.
-/

/-- The bits of a signed word, read without a sign, are its residue. -/
theorem toNat_toUInt32_eq_emod (word : Int32) :
    (word.toUInt32.toNat : Int) = word.toInt % 4294967296 := by
  have signed : word.toInt =
      if 2 * word.toUInt32.toNat < 4294967296 then (word.toUInt32.toNat : Int)
      else word.toUInt32.toNat - 4294967296 := BitVec.toInt_eq_toNat_cond word.toBitVec
  have small : word.toUInt32.toNat < 4294967296 := word.toUInt32.toNat_lt
  split at signed <;> omega

/-- A word whose bits make a small number is that number. -/
theorem toInt_eq_of_toNat {word : Int32} {value : Nat} (bits : word.toUInt32.toNat = value)
    (small : value < 2147483648) : word.toInt = value := by
  have signed : word.toInt = word.toUInt32.toNat :=
    BitVec.toInt_eq_toNat_of_lt (show 2 * word.toUInt32.toNat < 4294967296 by omega)
  rw [signed, bits]

/-- The byte of a code is its remainder modulo 256, whatever its sign. -/
theorem exitByte_eq_emod (code : Int32) : ((exitByte code).toNat : Int) = code.toInt % 256 := by
  have residue := toNat_toUInt32_eq_emod code
  have byte := WaitStatus.toNat_exitByte code
  omega

namespace WaitStatus

/-- How a process ended, read from the number that the system reports. -/
def Outcome.ofRaw (raw : Int) : Outcome :=
  if raw % 128 = 0 then .exited (raw / 256 % 256).toNat
  else if raw % 128 = 127 then .neither
  else .signalled (raw % 128).toNat

theorem outcome_eq_ofRaw (status : WaitStatus) :
    status.outcome = Outcome.ofRaw status.raw.toInt := by
  have residue : (status.word.toNat : Int) = status.raw.toInt % 4294967296 :=
    toNat_toUInt32_eq_emod status.raw
  have ending : ((status.word.toNat % 128 : Nat) : Int) = status.raw.toInt % 128 := by omega
  have code : status.word.toNat / 256 % 256 = (status.raw.toInt / 256 % 256).toNat := by omega
  have normal : status.word.toNat % 128 = 0 ↔ status.raw.toInt % 128 = 0 := by omega
  have stopped : status.word.toNat % 128 = 127 ↔ status.raw.toInt % 128 = 127 := by omega
  unfold outcome Outcome.ofRaw
  simp only [normal, stopped, code, ← ending, Int.toNat_natCast]

/-- What a status answers when it is asked for a code and for a signal. -/
theorem code?_signal?_of_outcome (status : WaitStatus) :
    match status.outcome with
    | .exited _ => status.code? = some status.exitCode
    | .signalled signal => ∃ number, status.signal? = some number ∧
        number.toUInt32.toNat = signal ∧ status.exitCode = signalBase + number
    | .neither => status.code? = none ∧ status.signal? = none := by
  have normal := status.ending_eq_iff 0
  have stopped := status.ending_eq_iff 0x7f
  by_cases exited : status.ending = 0
  · have read : status.outcome = .exited (status.word.toNat / 256 % 256) :=
      if_pos (normal.mp exited)
    have code : status.code? = some ((status.word >>> 8) &&& 0xff).toInt32 := if_pos exited
    simp only [read, exitCode, code]
  · have notExited : status.word.toNat % 128 ≠ 0 := fun zero => exited (normal.mpr zero)
    have noCode : status.code? = none := if_neg exited
    by_cases running : status.ending = 0x7f
    · have read : status.outcome = .neither :=
        (if_neg notExited).trans (if_pos (stopped.mp running))
      have noSignal : status.signal? = none := if_pos (Or.inr running)
      simp only [read, noCode, noSignal, and_self]
    · have read : status.outcome = .signalled (status.word.toNat % 128) :=
        (if_neg notExited).trans (if_neg (fun ones => running (stopped.mpr ones)))
      have signal : status.signal? = some status.ending.toInt32 :=
        if_neg (fun either => either.elim exited running)
      simp only [read]
      refine ⟨_, signal, ?_, ?_⟩
      · rw [UInt32.toUInt32_toInt32, toNat_ending]
      · simp only [exitCode, noCode, signal]

/-- The exit code as a signed number. -/
theorem toInt_exitCode (status : WaitStatus) : status.exitCode.toInt = status.outcome.exit :=
  toInt_eq_of_toNat status.toNat_exitCode
    (Nat.lt_of_lt_of_le status.outcome_exit_lt (by decide))

/-- The numbers that signals have. -/
theorem signalled_bounds {status : WaitStatus} {signal : Nat}
    (signalled : status.outcome = .signalled signal) : 1 ≤ signal ∧ signal ≤ 126 := by
  have small : status.word.toNat % 128 < 128 := Nat.mod_lt _ (by decide)
  unfold outcome at signalled
  split at signalled
  · cases signalled
  · split at signalled
    · cases signalled
    · cases signalled
      omega

end WaitStatus

open WaitStatus

/-- Nothing of a status is lost on the way to the byte that the parent sees.

The exit code of every status is a byte's number, so the byte is the code.  It is the code of the
process after a normal exit; after a signal it lies between 129 and 254, is computed without an
overflow, and tells the signals apart, whether or not a core file was left behind; otherwise it is
one.  Only a normal exit with code zero leads to zero.  For every code, of either sign, the byte is
the remainder modulo 256. -/
theorem narrowing_keeps :
    (∀ status : WaitStatus,
      let exit := status.exitCode.toInt
      0 ≤ exit ∧ exit ≤ 255 ∧ ((exitByte status.exitCode).toNat : Int) = exit ∧
        (exitByte status.exitCode = 0 ↔ Outcome.ofRaw status.raw.toInt = .exited 0) ∧
        match Outcome.ofRaw status.raw.toInt with
        | .exited code => status.code? = some status.exitCode ∧ exit = code
        | .signalled signal =>
            (∃ number, status.signal? = some number ∧ number.toInt = signal ∧
              status.exitCode = signalBase + number ∧ exit = signalBase.toInt + number.toInt) ∧
            129 ≤ exit ∧ exit ≤ 254 ∧
            ∀ (other : WaitStatus) (otherSignal : Nat),
              Outcome.ofRaw other.raw.toInt = .signalled otherSignal ->
              (other.exitCode = status.exitCode ↔ otherSignal = signal)
        | .neither => status.code? = none ∧ status.signal? = none ∧ exit = 1) ∧
    ∀ code : Int32, ((exitByte code).toNat : Int) = code.toInt % 256 := by
  refine ⟨?_, exitByte_eq_emod⟩
  intro status exit
  have value : exit = status.outcome.exit := status.toInt_exitCode
  have small := status.outcome_exit_lt
  have byte := status.toNat_exitByte_exitCode
  have read := status.outcome_eq_ofRaw
  have asked := status.code?_signal?_of_outcome
  refine ⟨by omega, by omega, by omega, ?_, ?_⟩
  · rw [← read, ← outcome_exit_eq_zero_iff, ← byte, ← UInt8.toNat_inj]
    rfl
  · rw [← read]
    cases outcome : status.outcome with
    | exited code =>
        rw [outcome] at asked value
        exact ⟨asked, value⟩
    | neither =>
        rw [outcome] at asked value
        exact ⟨asked.1, asked.2, value⟩
    | signalled signal =>
        rw [outcome] at asked value
        have bounds := signalled_bounds outcome
        have sum : exit = 128 + signal := value
        rcases asked with ⟨number, told, bits, code⟩
        have same : number.toInt = signal := toInt_eq_of_toNat bits (by omega)
        refine ⟨⟨number, told, same, code, ?_⟩, by omega, by omega, ?_⟩
        · rw [same]
          exact sum
        · intro other otherSignal otherRead
          have otherValue : other.exitCode.toInt = 128 + otherSignal := by
            rw [other.toInt_exitCode, other.outcome_eq_ofRaw, otherRead]
            rfl
          rw [← Int32.toInt_inj]
          constructor
          · intro equal
            omega
          · intro equal
            omega

/-- A process that signal 6 ended, with a core file, and with bits set in its status that say
nothing, the sign bit among them.  The signal is still told from another one. -/
theorem narrowing_keeps_aborted :
    let aborted : WaitStatus := ⟨-2147483514⟩
    aborted.dumpedCore = true ∧ aborted.exitCode.toInt = 134 ∧
      (exitByte aborted.exitCode).toNat = 134 ∧
      (WaitStatus.killed 9).exitCode ≠ aborted.exitCode := by
  intro aborted
  have keeps := narrowing_keeps.1 aborted
  have value : aborted.exitCode.toInt = 134 := by decide
  have byte := keeps.2.2.1.trans value
  have apart := keeps.2.2.2.2.2.2.2 (WaitStatus.killed 9) 9 (by decide)
  have other : (9 : Nat) ≠ (aborted.raw.toInt % 128).toNat := by decide
  exact ⟨by decide, value, by omega, fun equal => other (apart.mp equal)⟩

end AstLink
