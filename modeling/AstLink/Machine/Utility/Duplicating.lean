import AstLink.Machine.Utility.Source
import AstLink.Machine.Utility.Viewing

namespace AstLink
namespace Machine
namespace Utility
namespace Duplicating

/-!
`dd`, which copies a file in records of a certain size and counts them.
-/

/-- What is copied, and how. -/
structure Order where
  source : Option Chars := none
  target : Option Chars := none
  inputSize : Nat := 512
  outputSize : Nat := 512
  /-- Whether records are written as they are read. -/
  direct : Bool := false
  count : Option Nat := none
  countsBytes : Bool := false
  skip : Nat := 0
  seek : Nat := 0
  conversions : List Chars := []
  full : Bool := false
  status : Chars := []

def number? (text : Chars) : Option Nat := do
  let factors ← (Chars.splitOn 'x' text).mapM (fun factor =>
    match factor.reverse with
    | 'w' :: digits => (count? digits.reverse).map (2 * ·)
    | 'c' :: digits => count? digits.reverse
    | _ => count? factor)
  return factors.foldl (· * ·) 1

def number (least : Nat) (text : Chars) : Task Nat := do
  match number? text with
  | some value =>
      if value < least then Task.fail 1 ("invalid number: ".toList ++ marked text)
      else return value
  | none => Task.fail 1 ("invalid number: ".toList ++ marked text)

def conversionNames : List String :=
  ["ascii", "ebcdic", "ibm", "block", "unblock", "lcase", "ucase", "sparse", "swab", "sync", "excl",
    "nocreat", "notrunc", "noerror", "fdatasync", "fsync"]

def readOperand (order : Order) (operand : Chars) : Task Order := do
  let (name, value) := (Chars.cut? '=' operand).getD ([], operand)
  match String.ofList name with
  | "if" => return { order with source := some value }
  | "of" => return { order with target := some value }
  | "bs" =>
      let size ← number 1 value
      return { order with inputSize := size, outputSize := size, direct := true }
  | "ibs" => return { order with inputSize := ← number 1 value, direct := false }
  | "obs" => return { order with outputSize := ← number 1 value, direct := false }
  | "count" =>
      match value.reverse with
      | 'B' :: digits =>
          return { order with count := some (← number 0 digits.reverse), countsBytes := true }
      | _ => return { order with count := some (← number 0 value) }
  | "skip" | "iseek" => return { order with skip := ← number 0 value }
  | "seek" | "oseek" => return { order with seek := ← number 0 value }
  | "conv" =>
      let names := Chars.splitOn ',' value
      match names.find? (fun name => !conversionNames.contains (String.ofList name)) with
      | some name => Task.misuse 1 ("invalid conversion: ".toList ++ marked name)
      | none => return { order with conversions := order.conversions ++ names }
  | "iflag" =>
      let names := Chars.splitOn ',' value
      return { order with
        full := order.full || names.contains "fullblock".toList
        countsBytes := order.countsBytes || names.contains "count_bytes".toList }
  | "oflag" => return order
  | "status" =>
      if ["none", "noxfer", "progress"].contains (String.ofList value) then
        return { order with status := value }
      else Task.misuse 1 ("invalid status level: ".toList ++ marked value)
  | _ => Task.misuse 1 ("unrecognized operand ".toList ++ marked operand)

/-- How many records were read and written, whole ones and others, and how many bytes. -/
structure Totals where
  wholeIn : Nat := 0
  partIn : Nat := 0
  wholeOut : Nat := 0
  partOut : Nat := 0
  bytes : Nat := 0

def writeRecord (order : Order) (text : Chars) (totals : Totals) : Task Totals := do
  match ← Work.write 1 text with
  | .error obstacle =>
      let name := (order.target.map marked).getD "\x27standard output\x27".toList
      Task.complain ("error writing ".toList ++ name ++ ": ".toList ++ obstacle.text.toList)
      Task.setStatus 1
      Task.stop 1
  | .ok _ =>
      let totals := { totals with bytes := totals.bytes + text.length }
      return if text.length = order.outputSize then { totals with wholeOut := totals.wholeOut + 1 }
        else { totals with partOut := totals.partOut + 1 }

def writeRecords (order : Order) (totals : Totals) : Nat -> Chars -> Task (Chars × Totals)
  | 0, text => return (text, totals)
  | bound + 1, text => do
      if text.length < order.outputSize then return (text, totals)
      let totals ← writeRecord order (text.take order.outputSize) totals
      writeRecords order totals bound (text.drop order.outputSize)

/-- Reads a record, and with `full` goes on until it is whole. -/
def readRecord (full : Bool) (size : Nat) : Nat -> Chars -> Task (Except Obstacle Chars)
  | 0, text => return .ok text
  | bound + 1, text => do
      match ← Work.read 0 (size - text.length) with
      | .error obstacle => return .error obstacle
      | .ok [] => return .ok text
      | .ok more =>
          let text := text ++ more
          if full && text.length < size then readRecord full size bound text else return .ok text

/-- A record with its conversions made. -/
def converted (order : Order) (text : Chars) : Chars :=
  let has (name : String) : Bool := order.conversions.contains name.toList
  let text := if has "sync" then Chars.padRight '\x00' order.inputSize text else text
  if has "ucase" then text.map Char.toUpper else if has "lcase" then Chars.lower text else text

/-- Copies records.  `waiting` is what was read and not yet written. -/
def copyRecords (order : Order) : Nat -> Chars -> Totals -> Task Totals
  | 0, _, totals => return totals
  | bound + 1, waiting, totals => do
      let finish : Task Totals := do
        if waiting.isEmpty then return totals else writeRecord order waiting totals
      let read := totals.wholeIn + totals.partIn
      let size :=
        match order.count with
        | none => order.inputSize
        | some count =>
            if order.countsBytes then
              let done := totals.wholeIn * order.inputSize
              min order.inputSize (count - done)
            else if read < count then order.inputSize else 0
      if size = 0 then finish
      else
        match ← readRecord order.full size Work.bound [] with
        | .error obstacle =>
            let name := (order.source.map marked).getD "\x27standard input\x27".toList
            Task.complain ("error reading ".toList ++ name ++ ": ".toList ++ obstacle.text.toList)
            Task.setStatus 1
            finish
        | .ok [] => finish
        | .ok text =>
            let totals :=
              if text.length = order.inputSize then { totals with wholeIn := totals.wholeIn + 1 }
              else { totals with partIn := totals.partIn + 1 }
            let text := converted order text
            if order.direct && order.conversions.all (fun name =>
                ["notrunc", "noerror", "sync", "fsync", "fdatasync", "excl", "nocreat"].contains
                  (String.ofList name)) then
              copyRecords order bound [] (← writeRecord order text totals)
            else
              let waiting := waiting ++ text
              let (waiting, totals) ← writeRecords order totals waiting.length waiting
              copyRecords order bound waiting totals

/-- A size in steps of a factor, with at most one place behind the point. -/
def sizeText (factor : Nat) (units : List String) (size : Nat) : Chars :=
  let rec scale (size power : Nat) : List String -> Chars
    | [] => Chars.ofNat size
    | unit :: units =>
        if size < power * factor || units.isEmpty then
          let tenths := (size * 10 + power - 1) / power
          let number :=
            if tenths < 100 then Chars.ofNat (tenths / 10) ++ '.' :: Chars.ofNat (tenths % 10)
            else Chars.ofNat ((size + power / 2) / power)
          number ++ ' ' :: unit.toList
        else scale size (power * factor) units
  scale size factor units

def summary (bytes : Nat) : Chars :=
  let amount := Chars.ofNat bytes ++ (if bytes = 1 then " byte" else " bytes").toList
  let decimal := if 1000 ≤ bytes then [sizeText 1000 ["kB", "MB", "GB", "TB"] bytes] else []
  let binary := if 1024 ≤ bytes then [sizeText 1024 ["KiB", "MiB", "GiB", "TiB"] bytes] else []
  let sizes := decimal ++ binary
  let shown := if sizes.isEmpty then [] else " (".toList ++ Chars.join ", ".toList sizes ++ [')']
  amount ++ shown ++ " copied, 0.0001 s, ".toList ++
    sizeText 1000 ["kB", "MB", "GB", "TB"] (bytes * 10000) ++ "/s".toList

def connect (descriptor : Nat) (path : Chars) (opening : Opening) : Task Unit := do
  match ← Work.openFile path opening with
  | .error obstacle =>
      Task.fail 1 ("failed to open ".toList ++ marked path ++ ": ".toList ++ obstacle.text.toList)
  | .ok opened =>
      if opened != descriptor then
        let _ ← Work.request (.duplicate opened descriptor)
        Work.close opened

/-- Copies a file. -/
def run (words : List Chars) : Task Unit := do
  let arguments ← readArguments { flags := [] } words
  let order ← arguments.operands.foldlM readOperand {}
  let has (name : String) : Bool := order.conversions.contains name.toList
  match order.source with
  | some path => connect 0 path { reads := true }
  | none => pure ()
  match order.target with
  | some path =>
      connect 1 path
        { writes := true, creates := !has "nocreat", exclusive := has "excl"
          truncates := order.seek = 0 && !has "notrunc" }
      if order.seek != 0 && !has "notrunc" then
        let _ ← Work.request (.truncate 1 (order.seek * order.outputSize))
  | none => pure ()
  if order.seek != 0 then
    let _ ← Work.request (.seek 1 (Int.ofNat (order.seek * order.outputSize)) .start)
  if order.skip != 0 then
    let wanted := order.skip * order.inputSize
    let name := order.source.getD "standard input".toList
    let missing ←
      match ← Work.request (.seek 0 (Int.ofNat wanted) .here) with
      | .number _ =>
          let info := (← (Work.inspectOpen 0 : Task _)).toOption
          pure ((info.map (fun info => decide (info.sort = .file && info.size < wanted))).getD false)
      | _ =>
          match ← readRecord true wanted Work.bound [] with
          | .ok text => pure (decide (text.length < wanted))
          | .error _ => pure true
    if missing then
      Task.complain (name ++ ": cannot skip to specified offset".toList)
  let totals ← copyRecords order Work.bound [] {}
  if order.status != "none".toList then
    let line (whole part : Nat) (way : String) : Chars :=
      Chars.ofNat whole ++ '+' :: Chars.ofNat part ++ (" records " ++ way ++ "\n").toList
    Task.complainText
      (line totals.wholeIn totals.partIn "in" ++ line totals.wholeOut totals.partOut "out")
    if order.status != "noxfer".toList then Task.complainText (summary totals.bytes ++ ['\n'])

end Duplicating
end Utility
end Machine
end AstLink
