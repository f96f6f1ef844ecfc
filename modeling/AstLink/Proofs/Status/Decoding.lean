import AstLink.Status

namespace AstLink

/-!
What a wait status says, in numbers.

The system's word is taken apart by masks and shifts.  Here it is read as a number instead: the
remainder modulo 128 tells how the process ended, and the next byte is its code.  Both readings come
to the same exit code of the wrapper, which is below 256, so cutting it down to a byte loses
nothing (`WaitStatus.toNat_exitByte`).
-/

namespace WaitStatus

/-- How a process ended. -/
inductive Outcome where
  /-- It exited normally. -/
  | exited (code : Nat)
  /-- A signal ended it. -/
  | signalled (signal : Nat)
  /-- Neither: it was only stopped, or it goes on. -/
  | neither
  deriving DecidableEq, Repr

/-- How a process ended, read from the number that its word is. -/
def outcome (status : WaitStatus) : Outcome :=
  if status.word.toNat % 128 = 0 then .exited (status.word.toNat / 256 % 256)
  else if status.word.toNat % 128 = 127 then .neither
  else .signalled (status.word.toNat % 128)

/-- The exit code with which a wrapper passes an outcome on. -/
def Outcome.exit : Outcome -> Nat
  | .exited code => code
  | .signalled signal => 128 + signal
  | .neither => 1

/-! ## Masks and shifts -/

theorem toNat_ending (status : WaitStatus) : status.ending.toNat = status.word.toNat % 128 := by
  rw [ending, UInt32.toNat_and]
  exact Nat.and_two_pow_sub_one_eq_mod _ 7

theorem ending_eq_iff (status : WaitStatus) (mask : UInt32) :
    status.ending = mask ↔ status.word.toNat % 128 = mask.toNat := by
  rw [← toNat_ending, UInt32.toNat_inj]

/-- The byte above the ending. -/
theorem toNat_codeByte (status : WaitStatus) :
    ((status.word >>> 8) &&& 0xff).toNat = status.word.toNat / 256 % 256 := by
  rw [UInt32.toNat_and, UInt32.toNat_shiftRight]
  have shifted : status.word.toNat >>> ((8 : UInt32).toNat % 32) = status.word.toNat / 256 :=
    Nat.shiftRight_eq_div_pow _ 8
  rw [shifted]
  exact Nat.and_two_pow_sub_one_eq_mod _ 8

/-! ## Exit codes -/

/-- The exit code after a compiler ended, as a number. -/
theorem toNat_exitCode (status : WaitStatus) :
    status.exitCode.toUInt32.toNat = status.outcome.exit := by
  have normal := status.ending_eq_iff 0
  have stopped := status.ending_eq_iff 0x7f
  unfold exitCode code? signal? outcome
  by_cases exited : status.ending = 0
  · simp only [exited, if_true, normal.mp exited, UInt32.toNat_zero, Outcome.exit]
    rw [UInt32.toUInt32_toInt32]
    exact status.toNat_codeByte
  · have notExited : status.word.toNat % 128 ≠ 0 := fun zero => exited (normal.mpr zero)
    by_cases running : status.ending = 0x7f
    · have allOnes : status.word.toNat % 128 = 127 := stopped.mp running
      simp only [running, allOnes, or_true, if_true]
      rfl
    · have notStopped : status.word.toNat % 128 ≠ 127 := fun ones => running (stopped.mpr ones)
      have sum : (signalBase + status.ending.toInt32).toUInt32.toNat =
          128 + status.word.toNat % 128 := by
        rw [Int32.toUInt32_add, UInt32.toUInt32_toInt32, UInt32.toNat_add, toNat_ending]
        have base : signalBase.toUInt32.toNat = 128 := rfl
        rw [base]
        omega
      simp only [exited, running, notExited, notStopped, if_false, or_self, Outcome.exit]
      exact sum

theorem outcome_exit_lt (status : WaitStatus) : status.outcome.exit < 256 := by
  unfold outcome
  split
  · exact Nat.mod_lt _ (by decide)
  · split
    · exact (by decide : 1 < 256)
    · have small : status.word.toNat % 128 < 128 := Nat.mod_lt _ (by decide)
      simp only [Outcome.exit]
      omega

/-- Nothing but a normal exit with code zero is passed on as zero. -/
theorem outcome_exit_eq_zero_iff (status : WaitStatus) :
    status.outcome.exit = 0 ↔ status.outcome = .exited 0 := by
  cases status.outcome with
  | exited code => simp [Outcome.exit]
  | signalled signal => simp [Outcome.exit]
  | neither => simp [Outcome.exit]

/-- The byte of a code is its remainder modulo 256. -/
theorem toNat_exitByte (code : Int32) : (exitByte code).toNat = code.toUInt32.toNat % 256 := by
  rw [exitByte, UInt32.toNat_toUInt8, Int32.toUInt32_and, UInt32.toNat_and]
  have masked : code.toUInt32.toNat &&& (0xff : Int32).toUInt32.toNat =
      code.toUInt32.toNat % 256 := Nat.and_two_pow_sub_one_eq_mod _ 8
  rw [masked, Nat.mod_mod]

/-- The byte with which the wrapper ends after its compiler. -/
theorem toNat_exitByte_exitCode (status : WaitStatus) :
    (exitByte status.exitCode).toNat = status.outcome.exit := by
  rw [toNat_exitByte, toNat_exitCode]
  exact Nat.mod_eq_of_lt status.outcome_exit_lt

/-! ## Words for endings -/

/-- The status of a normal exit says so. -/
theorem outcome_exited (code : UInt8) : (exited code).outcome = .exited code.toNat := by
  have small : code.toNat < 256 := code.toNat_lt
  have shifted : code.toNat <<< 8 = code.toNat * 256 := Nat.shiftLeft_eq _ 8
  have word : (exited code).word.toNat = code.toNat * 256 := by
    rw [word, exited, UInt32.toUInt32_toInt32, UInt32.toNat_shiftLeft, UInt8.toNat_toUInt32]
    change code.toNat <<< 8 % 4294967296 = _
    omega
  have low : code.toNat * 256 % 128 = 0 := by omega
  have high : code.toNat * 256 / 256 % 256 = code.toNat := by omega
  rw [outcome, word, if_pos low, high]

/-- So does the status of a process that a signal ended. -/
theorem outcome_killed {signal : UInt8} (positive : 0 < signal.toNat) (below : signal.toNat < 127) :
    (killed signal).outcome = .signalled signal.toNat := by
  have word : (killed signal).word.toNat = signal.toNat := by
    rw [word, killed, UInt32.toUInt32_toInt32, UInt32.toNat_and, UInt8.toNat_toUInt32]
    have masked : signal.toNat &&& (0x7f : UInt32).toNat = signal.toNat % 128 :=
      Nat.and_two_pow_sub_one_eq_mod _ 7
    rw [masked]
    omega
  have same : signal.toNat % 128 = signal.toNat := by omega
  rw [outcome, word, same, if_neg (by omega), if_neg (by omega)]

end WaitStatus
end AstLink
