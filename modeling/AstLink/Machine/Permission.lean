import AstLink.Machine.Chars

namespace AstLink
namespace Machine
namespace Permission

/-!
Permissions: what the owner of a file, its group and all others may do with it, as bits and in
words.
-/

/-- The bits of a mode written in base eight. -/
def ofOctal? (text : Chars) : Option Nat :=
  if !text.isEmpty && text.all (fun char => '0' ≤ char && char ≤ '7') then
    some (text.foldl (fun value digit => value * 8 + (digit.toNat - '0'.toNat)) 0)
  else none

def octal (mode : Nat) : Chars := Chars.padLeft '0' 4 (Nat.toDigits 8 mode)

def without (bits others : Nat) : Nat := bits - (bits &&& others)

def allBits : Nat := 0o7777

/-- The bits by which a program takes on its owner or its group. -/
def ownerBits : Nat := 0o6000

def whoBits (letter : Char) : Nat :=
  match letter with
  | 'u' => 0o4700
  | 'g' => 0o2070
  | 'o' => 0o1007
  | _ => allBits

def whoseBits (letters : Chars) : Nat :=
  letters.foldl (fun bits letter => bits ||| whoBits letter) 0

/-- What some people may do, allowed to everybody: the three bits at a place of a mode. -/
def spread (mode shift : Nat) : Nat := (mode >>> shift &&& 7) * 0o111

/-! ## Changes -/

/-- Which bits a change is about, before those of people who are not named are left out. -/
inductive Value where
  | bits (bits : Nat)
  /-- As `bits`; files that somebody may run, and directories, may be run by all. -/
  | runnable (bits : Nat)
  /-- What the people at a place of the mode may do already. -/
  | copied (shift : Nat)
  deriving DecidableEq, Repr

structure Change where
  /-- Whether bits are added, taken away or set. -/
  sign : Char
  /-- The bits of those who are named; none if nobody is. -/
  affected : Nat
  value : Value
  /-- The bits that were spoken of.  Others of `ownerBits` are left alone in directories. -/
  mentioned : Nat
  deriving DecidableEq, Repr

namespace Change

/-- A mode after a change.  A change that names nobody leaves out the bits of a mask. -/
def apply (isDirectory : Bool) (mask mode : Nat) (change : Change) : Nat :=
  let omitted := if isDirectory then without ownerBits change.mentioned else 0
  let value :=
    match change.value with
    | .bits bits => bits
    | .runnable bits => if isDirectory || mode &&& 0o111 != 0 then bits ||| 0o111 else bits
    | .copied shift => spread mode shift
  let whose := if change.affected = 0 then without allBits mask else change.affected
  let value := without (value &&& whose) omitted
  if change.sign = '+' then mode ||| value
  else if change.sign = '-' then without mode value
  else
    let all := if change.affected = 0 then allBits else change.affected
    without mode (without all omitted) ||| value

def lettersValue (letters : Chars) : Value :=
  let bit (letter : Char) : Nat :=
    match letter with
    | 'r' => 0o444
    | 'w' => 0o222
    | 'x' => 0o111
    | 's' => ownerBits
    | 't' => 0o1000
    | _ => 0
  let bits := letters.foldl (fun bits letter => bits ||| bit letter) 0
  if letters.contains 'X' then .runnable bits else .bits bits

def named : Value -> Nat
  | .bits bits | .runnable bits => bits
  | .copied _ => 0

/-- The changes that signs with what stands behind each ask for, up to the end of a clause. -/
def ofSigns? (affected : Nat) : Nat -> Chars -> Option (List Change)
  | 0, _ => none
  | _ + 1, [] => some []
  | bound + 1, sign :: rest =>
      if sign != '+' && sign != '-' && sign != '=' then none
      else
        let digits := rest.takeWhile (fun char => '0' ≤ char && char ≤ '7')
        let letters := rest.takeWhile (fun char => "rwxXst".toList.contains char)
        let change (value : Value) : Change :=
          let bits := named value
          { sign, affected, value, mentioned := if affected = 0 then bits else affected &&& bits }
        let goOn (change : Change) (rest : Chars) : Option (List Change) := do
          return change :: (← ofSigns? affected bound rest)
        match rest with
        | 'u' :: rest => goOn (change (.copied 6)) rest
        | 'g' :: rest => goOn (change (.copied 3)) rest
        | 'o' :: rest => goOn (change (.copied 0)) rest
        | _ =>
            if digits.isEmpty then goOn (change (lettersValue letters)) (rest.drop letters.length)
            else
              let bits := (ofOctal? digits).getD 0
              if affected != 0 || allBits < bits || digits.length < rest.length then none
              else some [⟨sign, allBits, .bits bits, allBits⟩]

/-- The changes that a clause asks for: whose bits they are about, and signs. -/
def ofClause? (clause : Chars) : Option (List Change) :=
  let names := clause.takeWhile (fun char => "ugoa".toList.contains char)
  let signs := clause.drop names.length
  if signs.isEmpty then none else ofSigns? (whoseBits names) (clause.length + 1) signs

/-- The changes that a text asks for: a mode in base eight, or clauses with commas between them. -/
def all? (text : Chars) : Option (List Change) :=
  match ofOctal? text with
  | some mode =>
      let mentioned :=
        if text.length < 5 then mode &&& ownerBits ||| 0o1777 else allBits
      if allBits < mode then none else some [⟨'=', allBits, .bits mode, mentioned⟩]
  | none => do return (← (Chars.splitOn ',' text).mapM ofClause?).flatten

def applyAll (changes : List Change) (isDirectory : Bool) (mask mode : Nat) : Nat :=
  changes.foldl (apply isDirectory mask) mode

end Change

/-! ## Masks -/

/-- What a letter allows to those whose bits are given, when somebody else's mode was as it was at
first. -/
def maskBits? (first : Nat) (letter : Char) : Option Nat :=
  match letter with
  | 'r' => some 0o444
  | 'w' => some 0o222
  | 'x' => some 0o111
  | 'X' => some (if first &&& 0o111 != 0 then 0o111 else 0)
  | 's' => some 0
  | 'u' => some (spread first 6)
  | 'g' => some (spread first 3)
  | 'o' => some (spread first 0)
  | _ => none

def maskSigns? (first whose : Nat) : Nat -> Nat -> Chars -> Option Nat
  | 0, _, _ => none
  | _ + 1, mode, [] => some mode
  | bound + 1, mode, sign :: rest =>
      if sign = '+' || sign = '-' || sign = '=' then do
        let letters := rest.takeWhile (fun char => !(['+', '-', '='].contains char))
        let bits := (← letters.mapM (maskBits? first)).foldl (· ||| ·) 0 &&& whose
        let changed :=
          if sign = '+' then mode ||| bits
          else if sign = '-' then without mode bits
          else without mode whose ||| bits
        maskSigns? first whose bound changed (rest.drop letters.length)
      else none

/-- What a mask allows after clauses with commas between them.  Nothing need stand behind the last
comma. -/
def maskAfter? (mode : Nat) (text : Chars) : Option Nat :=
  let clauses := Chars.splitOn ',' text
  let clauses := if clauses.getLast? = some [] then clauses.dropLast else clauses
  clauses.foldlM
    (fun allowed clause =>
      let names := clause.takeWhile (fun char => "ugoa".toList.contains char)
      let signs := clause.drop names.length
      let whose := if names.isEmpty then 0o777 else whoseBits names &&& 0o777
      if signs.isEmpty then none else maskSigns? mode whose (clause.length + 1) allowed signs)
    mode

def letters (bits : Nat) : Chars :=
  [if bits &&& 4 != 0 then 'r' else '-', if bits &&& 2 != 0 then 'w' else '-',
    if bits &&& 1 != 0 then 'x' else '-']

def words (mode : Nat) : Chars :=
  let part (name : Char) (shift : Nat) : Chars :=
    name :: '=' :: (letters (mode >>> shift &&& 7)).filter (fun char => char != '-')
  part 'u' 6 ++ ',' :: part 'g' 3 ++ ',' :: part 'o' 0

/-- The letters of those at a place of a mode, with another letter for running if a bit is set. -/
def rowPart (mode shift bit : Nat) (small capital : Char) : Chars :=
  let shown := letters (mode >>> shift &&& 7)
  if mode &&& bit = 0 then shown
  else shown.take 2 ++ [if mode >>> shift &&& 1 = 0 then capital else small]

def row (mode : Nat) : Chars :=
  rowPart mode 6 0o4000 's' 'S' ++ rowPart mode 3 0o2000 's' 'S' ++ rowPart mode 0 0o1000 't' 'T'

end Permission
end Machine
end AstLink
