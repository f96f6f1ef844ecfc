import AstLink.Machine.Format
import AstLink.Machine.Utility.Source
import AstLink.Machine.Utility.Viewing

namespace AstLink
namespace Machine
namespace Utility
namespace Dumping

/-!
`od`, which shows what bytes a file has.  The bytes are cut into blocks, and each block is shown once
for every kind of field that was asked for, behind its address.
-/

/-! ## Kinds of fields -/

/-- As what the bytes of a field are read. -/
inductive Shape where
  /-- One character, control characters by their names. -/
  | name
  /-- One character, others than letters and signs by escapes. -/
  | char
  | octal
  | signed
  | unsigned
  | hexadecimal
  | real
  deriving DecidableEq, Repr

structure Kind where
  shape : Shape
  size : Nat
  /-- Whether the characters of a block are shown behind its fields. -/
  trailer : Bool := false

def digitsOf (base bits : Nat) : Nat := (Nat.toDigits base (Nat.pow 2 bits - 1)).length

/-- How many characters a field takes, without the gap before it. -/
def Kind.width (kind : Kind) : Nat :=
  let bits := 8 * kind.size
  match kind.shape with
  | .name | .char => 3
  | .octal => digitsOf 8 bits
  | .signed => 1 + digitsOf 10 (bits - 1)
  | .unsigned => digitsOf 10 bits
  | .hexadecimal => digitsOf 16 bits
  | .real => if kind.size = 4 then 15 else 24

/-- What is shown for a character that has a usual escape. -/
def escape? (char : Char) : Option Chars :=
  ([('\x00', "\\0"), ('\x07', "\\a"), ('\x08', "\\b"), ('\x0c', "\\f"), ('\n', "\\n"),
    ('\r', "\\r"), ('\t', "\\t"), ('\x0b', "\\v")].lookup char).map String.toList

/-- The names of the control characters, and of the blank behind them. -/
def controlNames : List String :=
  ["nul", "soh", "stx", "etx", "eot", "enq", "ack", "bel", "bs", "ht", "nl", "vt", "ff", "cr", "so",
    "si", "dle", "dc1", "dc2", "dc3", "dc4", "nak", "syn", "etb", "can", "em", "sub", "esc", "fs",
    "gs", "rs", "us", "sp"]

/-- The value of bytes, the least significant one first. -/
def valueOf (text : Chars) : Nat := text.foldr (fun char value => value * 256 + char.toNat) 0

/-- The real number that bits stand for: a sign, an exponent and so many binary digits behind the
point. -/
def realOf (bits exponentBits fractionBits : Nat) : Real :=
  let negative := 1 ≤ bits / Nat.pow 2 (exponentBits + fractionBits)
  let exponent := bits / Nat.pow 2 fractionBits % Nat.pow 2 exponentBits
  let fraction := bits % Nat.pow 2 fractionBits
  let magnitude : Magnitude :=
    if exponent = Nat.pow 2 exponentBits - 1 then (if fraction = 0 then .infinite else .undefined)
    else
      let units := if exponent = 0 then fraction else Nat.pow 2 fractionBits + fraction
      let power := Int.ofNat (max exponent 1) - Int.ofNat (Nat.pow 2 (exponentBits - 1) - 1 + fractionBits)
      if 0 ≤ power then .finite (units * Nat.pow 2 power.toNat) 1
      else .finite units (Nat.pow 2 power.natAbs)
  ⟨negative, magnitude⟩

def readsBack (form : Real.Form) (text : Chars) : Magnitude -> Bool
  | .finite numerator denominator =>
      match (Real.scan form text).value.magnitude with
      | .finite above below => above * denominator = numerator * below
      | _ => false
  | _ => true

/-- A real number with as many digits as are needed for it to read back. -/
def realText (form : Real.Form) (least most : Nat) (value : Real) : Chars :=
  let text (precision : Nat) : Chars := Real.digitsFor 'g' false (some precision) value.magnitude
  let isSmall : Bool :=
    match value.magnitude with
    | .finite numerator denominator => numerator * Nat.pow 2 form.smallest.natAbs < denominator
    | _ => false
  let least := if isSmall then 1 else least
  let precisions := (List.range (most - least)).map (least + ·)
  let reads (digits : Nat) : Bool := readsBack form (text digits) value.magnitude
  let precision := (precisions.find? reads).getD most
  (if value.negative then ['-'] else []) ++ text precision

def single : Real.Form := ⟨24, 127, -126⟩

/-- What is shown for the bytes of a field, the least significant one first. -/
def Kind.text (kind : Kind) (bytes : Chars) : Chars :=
  let value := valueOf bytes
  let char := bytes.headD '\x00'
  match kind.shape with
  | .char =>
      (escape? char).getD
        (if isShown char then [char] else Chars.padLeft '0' 3 (Nat.toDigits 8 char.toNat))
  | .name =>
      let code := char.toNat % 128
      match controlNames[code]? with
      | some name => name.toList
      | none => if code = 127 then "del".toList else [Char.ofNat code]
  | .octal => Chars.padLeft '0' kind.width (Nat.toDigits 8 value)
  | .hexadecimal => Chars.padLeft '0' kind.width (Nat.toDigits 16 value)
  | .unsigned => Chars.ofNat value
  | .signed =>
      let all := Nat.pow 2 (8 * kind.size)
      Chars.ofInt (if all / 2 ≤ value then Int.ofNat value - Int.ofNat all else Int.ofNat value)
  | .real =>
      if kind.size = 4 then realText single 6 9 (realOf value 8 23)
      else realText Real.double 15 17 (realOf value 11 52)

/-! ## Reading what is asked for -/

/-- The sizes that go by letters, for whole numbers and for real ones. -/
def sizeLetters (shape : Shape) : List (Char × Nat) :=
  if shape = .real then [('F', 4), ('D', 8)] else [('C', 1), ('S', 2), ('I', 4), ('L', 8)]

def readSize (shape : Shape) (all text : Chars) : Except Chars (Nat × Chars) :=
  let wrong := "invalid type string ".toList ++ marked all
  let usual := if shape = .real then 8 else 4
  let sizes := (sizeLetters shape).map Prod.snd
  match text.head?.bind (fun letter => (sizeLetters shape).lookup letter) with
  | some size => .ok (size, text.drop 1)
  | none =>
      let digits := text.takeWhile Char.isDigit
      let size := Chars.digitsValue digits
      if digits.isEmpty then .ok (usual, text)
      else if Nat.pow 2 31 ≤ size then .error wrong
      else if sizes.contains size then .ok (size, text.drop digits.length)
      else
        let what := if shape = .real then "floating point" else "integral"
        .error (wrong ++ ";\nthis system doesn\x27t provide a ".toList ++ Chars.ofNat size ++
          ("-byte " ++ what ++ " type").toList)

def shape? (letter : Char) : Option Shape :=
  [('a', Shape.name), ('c', .char), ('d', .signed), ('f', .real), ('o', .octal), ('u', .unsigned),
    ('x', .hexadecimal)].lookup letter

/-- The kinds of fields that a text asks for. -/
def readKinds (all : Chars) : Nat -> Chars -> Except Chars (List Kind)
  | 0, _ | _, [] => .ok []
  | bound + 1, letter :: rest => do
      match shape? letter with
      | none =>
          .error
            ("invalid character \x27".toList ++ letter :: "\x27 in type string ".toList ++
              marked all)
      | some shape =>
          let (size, rest) ←
            if shape = .name || shape = .char then .ok (1, rest) else readSize shape all rest
          let trailer := rest.head? = some 'z'
          let kinds ← readKinds all bound (if trailer then rest.drop 1 else rest)
          return { shape, size, trailer } :: kinds

/-- What a letter asks for that is an option of its own. -/
def shorthands : List (Char × String) :=
  [('a', "a"), ('b', "o1"), ('c', "c"), ('d', "u2"), ('f', "fF"), ('i', "dI"), ('l', "dL"),
    ('o', "o2"), ('s', "d2"), ('x', "x2"), ('B', "o2"), ('D', "u4"), ('e', "fD"), ('F', "fD"), ('h', "x2"),
    ('H', "x4"), ('I', "dL"), ('L', "dL"), ('O', "o4"), ('X', "x4")]

def kindsOf (letter : Char) (value : Option Chars) : Except Chars (List Kind) :=
  let text := if letter = 't' then value else (shorthands.lookup letter).map String.toList
  let text := text.getD []
  readKinds text text.length text

/-- Why a text is no number of bytes. -/
inductive AmountFailure where
  | noNumber
  | badSuffix
  | tooLarge
  deriving DecidableEq, Repr

/-- A number of bytes, in base ten, eight or sixteen as its beginning says. -/
def amount? (text : Chars) : Except AmountFailure Nat := do
  let (base, digits) : Nat × Chars :=
    match text.dropWhile Chars.isSpace with
    | '0' :: 'x' :: digits | '0' :: 'X' :: digits => (16, digits)
    | '0' :: digits => (8, '0' :: digits)
    | digits => (10, digits)
  let number := digits.takeWhile (fun char => Real.isHex char && Real.hexValue char < base)
  let value := number.foldl (fun value digit => value * base + Real.hexValue digit) 0
  if number.isEmpty then throw .noNumber
  match multiplier? (digits.drop number.length) with
  | none => throw .badSuffix
  | some factor => if largestCount < value * factor then throw .tooLarge else return value * factor

/-- A number of bytes that an option is given. -/
def amount (option text : Chars) : Task Nat := do
  match amount? text with
  | .ok value => return value
  | .error .noNumber =>
      Task.fail 1 ("invalid ".toList ++ option ++ " argument ".toList ++ marked text)
  | .error .badSuffix =>
      Task.fail 1 ("invalid suffix in ".toList ++ option ++ " argument ".toList ++ marked text)
  | .error .tooLarge =>
      Task.fail 1 (option ++ " argument ".toList ++ marked text ++ " too large".toList)

/-! ## Showing blocks -/

/-- How bytes are shown. -/
structure Manner where
  kinds : List Kind
  /-- The base of addresses; without one there are none. -/
  base : Option Nat
  width : Nat
  /-- Whether blocks that are equal to the one before are shown as well. -/
  complete : Bool
  /-- Whether the most significant byte of a field comes first. -/
  bigFirst : Bool

/-- How many characters an address takes. -/
def Manner.addressWidth (manner : Manner) : Nat :=
  match manner.base with
  | none => 0
  | some 16 => 6
  | some _ => 7

def Manner.address (manner : Manner) (offset : Nat) : Chars :=
  match manner.base with
  | none => []
  | some base => Chars.padLeft '0' manner.addressWidth (Nat.toDigits base offset)

def Manner.fields (manner : Manner) (kind : Kind) : Nat := manner.width / kind.size

/-- The characters of a line of fields, of whatever kind, without the address. -/
def Manner.lineWidth (manner : Manner) : Nat :=
  manner.kinds.foldl (fun widest kind => max widest ((kind.width + 1) * manner.fields kind)) 0

/-- A block as fields of a kind.  The room that other kinds need is shared among the gaps before the
fields. -/
def Manner.line (manner : Manner) (kind : Kind) (block : Chars) : Chars :=
  let fields := manner.fields kind
  let spare := manner.lineWidth - kind.width * fields
  let missing := (manner.width - block.length) / kind.size
  let field (index : Nat) : Chars :=
    let before := spare * (fields - index) / fields
    let after := spare * (fields - index - 1) / fields
    let bytes := Chars.padRight '\x00' kind.size ((block.drop (index * kind.size)).take kind.size)
    let bytes := if manner.bigFirst then bytes.reverse else bytes
    Chars.padLeft ' ' (before - after + kind.width) (kind.text bytes)
  let text := ((List.range (fields - missing)).map field).flatten
  if kind.trailer then
    let left := missing * kind.width + spare * missing / fields
    let shown := block.map (fun char => if isShown char then char else '.')
    text ++ List.replicate left ' ' ++ "  >".toList ++ shown ++ ['<']
  else text

/-- How far showing has come. -/
structure Progress where
  offset : Nat
  allowed : Option Nat
  /-- How many bytes are passed over. -/
  skipped : Nat
  waiting : Chars := []
  before : Option Chars := none
  /-- Whether the block before was equal to the one before it. -/
  repeated : Bool := false
  /-- Whether any file could be read. -/
  started : Bool := false

def showBlock (manner : Manner) (progress : Progress) (block : Chars) : Task Progress := do
  let isSame := !manner.complete && block.length = manner.width && progress.before = some block
  if !isSame then
    for (kind, place) in manner.kinds.zipIdx do
      let start :=
        if place = 0 then manner.address progress.offset
        else List.replicate manner.addressWidth ' '
      Task.line (start ++ manner.line kind block)
  else if !progress.repeated then Task.line ['*']
  return { progress with
    offset := progress.offset + block.length, before := some block, repeated := isSame }

def showBlocks (manner : Manner) : Nat -> Progress -> Task Progress
  | 0, progress => return progress
  | bound + 1, progress => do
      if progress.waiting.length < manner.width then return progress
      let block := progress.waiting.take manner.width
      let waiting := progress.waiting.drop manner.width
      showBlocks manner bound (← showBlock manner { progress with waiting } block)

/-- Passes over bytes, and keeps those that may be shown. -/
def Progress.take (progress : Progress) (text : Chars) : Progress :=
  let kept := text.drop progress.skipped
  let kept := kept.take (progress.allowed.getD kept.length)
  { progress with
    skipped := progress.skipped - text.length
    allowed := progress.allowed.map (· - kept.length)
    waiting := progress.waiting ++ kept }

def showSource (manner : Manner) (descriptor : Nat) :
    Nat -> Progress -> Task (Option Obstacle × Progress)
  | 0, progress => return (none, progress)
  | bound + 1, progress => do
      let wanted := min 4096 (progress.skipped + progress.allowed.getD 4096)
      if wanted = 0 then return (none, progress)
      match ← Work.read descriptor wanted with
      | .error obstacle => return (some obstacle, progress)
      | .ok [] => return (none, progress)
      | .ok text =>
          let progress := progress.take text
          showSource manner descriptor bound (← showBlocks manner progress.waiting.length progress)

def showPath (manner : Manner) (progress : Progress) (path : Chars) : Task Progress := do
  match ← openSource path with
  | .error obstacle =>
      complainOf path obstacle
      Task.setStatus 1
      return progress
  | .ok source =>
      let progress := { progress with started := true }
      let (obstacle, progress) ← showSource manner source.descriptor Work.bound progress
      if let some obstacle := obstacle then
        Task.complain (source.name ++ ": ".toList ++ obstacle.text.toList)
        Task.setStatus 1
      closeSource source
      return progress

/-! ## The command -/

/-- The options of `od`.  Kinds of fields that there are not are only complained about at first. -/
def taking : Taking where
  flags :=
    [given 'A' ["address-radix"], given 'j' ["skip-bytes"], given 'N' ["read-bytes"],
      given 't' ["format"], flag 'v' ["output-duplicates"],
      { letter := 'w', names := ["width"], giving := .wordIfJoined }, given '\x01' ["endian"]] ++
      shorthands.map (fun entry => flag entry.1 [])
  check := fun _ letter value => do
    let text := value.getD []
    match letter with
    | 'A' =>
        if !("doxn".toList.contains (text.headD ' ')) then
          Task.fail 1
            ("invalid output address radix \x27".toList ++ text.take 1 ++
              "\x27; it must be one character from [doxn]".toList)
    | letter =>
        match kindsOf letter value with
        | .ok _ => return
        | .error complaint =>
            if letter = 't' then
              Task.complain complaint
              Task.setStatus 1

/-- The offset that an operand gives, in base eight; it may count blocks of 512 bytes. -/
def offset? (operand : Chars) : Option Nat :=
  let text := if operand.head? = some '+' then operand.drop 1 else operand
  let (text, factor) := if text.getLast? = some 'b' then (text.dropLast, 512) else (text, 1)
  if !text.isEmpty && text.all Format.isOctal then
    some (factor * text.foldl (fun value digit => value * 8 + Real.hexValue digit) 0)
  else none

/-- The operands that are files, and an offset if the last one gives it. -/
def splitOffset (operands : List Chars) : List Chars × Nat :=
  match operands with
  | ['+' :: digits] => ((offset? digits).map (([], ·))).getD (operands, 0)
  | [file, first :: digits] =>
      if first = '+' || first.isDigit then
        ((offset? (first :: digits)).map (([file], ·))).getD (operands, 0)
      else (operands, 0)
  | _ => (operands, 0)

/-- Shows the bytes of files. -/
def run (words : List Chars) : Task Unit := do
  let arguments ← readArguments taking words
  if (← get).status != 0 then Task.stop 1
  let kinds := (arguments.options.map (fun (letter, value) =>
    (kindsOf letter value).toOption.getD [])).flatten
  let kinds := if kinds.isEmpty then [{ shape := .octal, size := 2 }] else kinds
  let read (letter : Char) : Task (Option Nat) :=
    (arguments.value? letter).mapM (amount ['-', letter])
  let isOld := !arguments.options.any (fun option => "AjNtvw\x01".toList.contains option.1)
  let (paths, offset) := if isOld then splitOffset arguments.operands else (arguments.operands, 0)
  let skipped := (← read 'j').getD offset
  let allowed ← read 'N'
  let unit := kinds.foldl (fun unit kind => Nat.lcm unit kind.size) 1
  let wanted := (← read 'w').orElse (fun _ => if arguments.has 'w' then some 32 else none)
  let width ←
    match wanted with
    | none => pure (unit * (16 / unit))
    | some wanted =>
        if wanted = 0 || wanted % unit != 0 then
          Task.complain
            ("warning: invalid width ".toList ++ Chars.ofNat wanted ++ "; using ".toList ++
              Chars.ofNat unit ++ " instead".toList)
          pure unit
        else pure wanted
  let endian ← (arguments.value? '\x01').mapM (choose 1 "--endian".toList [["little"], ["big"]])
  let base :=
    match (arguments.value? 'A').bind List.head? with
    | some 'd' => some 10
    | some 'x' => some 16
    | some 'n' => none
    | _ => some 8
  let manner : Manner :=
    { kinds, base, width, complete := arguments.has 'v', bigFirst := endian = some 1 }
  let mut progress : Progress := { offset := skipped, allowed, skipped }
  for path in orInput paths do
    if !progress.started || progress.skipped != 0 || progress.allowed != some 0 then
      progress ← showPath manner progress path
  if progress.started then
    if progress.skipped != 0 then Task.fail 1 "cannot skip past end of combined input".toList
    if !progress.waiting.isEmpty then
      progress ← showBlock manner { progress with waiting := [] } progress.waiting
    if manner.base.isSome then Task.line (manner.address progress.offset)

end Dumping
end Utility
end Machine
end AstLink
