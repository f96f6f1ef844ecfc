namespace AstLink
namespace Text
namespace Terminal

/-!
Text as a terminal would show it.  A terminal acts on control characters and on control sequences
and shows neither of them, so a text that somebody else supplied is shown without them: whatever it
holds, it cannot move the cursor or change a colour.

The reader of control sequences is a machine that looks at one character at a time.  Only blanks
and line ends are kept of the control characters.  A sequence that is never finished swallows the
rest of the text.
-/

/-- Where a reader stands. -/
inductive Place where
  | ground
  /-- Behind the character that begins a sequence. -/
  | escape
  | escapeIntermediate
  /-- At the start of a control sequence, behind its bracket. -/
  | control
  | controlParameter
  | controlIntermediate
  | controlIgnored
  /-- At the start of a device string. -/
  | device
  | deviceParameter
  | deviceIntermediate
  /-- In the body of a string that ends with a string terminator. -/
  | body
  /-- In an operating-system command, which a bell ends. -/
  | command
  deriving DecidableEq, Repr

def within (low high code : Nat) : Bool := low ≤ code && code ≤ high

/-- Whether a control character is kept: the blanks and the line ends. -/
def isKept (code : Nat) : Bool := code = 0x09 || code = 0x0a || code = 0x0c || code = 0x0d

/-- Whether the continuation bytes of a character hold the string terminator. -/
def holdsTerminator (code : Nat) : Bool :=
  0x80 ≤ code &&
    (code % 0x40 = 0x1c || 0x800 ≤ code && code / 0x40 % 0x40 = 0x1c ||
      0x10000 ≤ code && code / 0x1000 % 0x40 = 0x1c)

/-- Where an ordinary character leads, a place in which it is not shown. -/
def move (place : Place) (code : Nat) : Place :=
  match place with
  | .ground => .ground
  | .escape =>
      if within 0x20 0x2f code then .escapeIntermediate
      else if code = 0x5b then .control
      else if code = 0x5d then .command
      else if code = 0x50 then .device
      else if code = 0x58 || code = 0x5e || code = 0x5f then .body
      else if within 0x30 0x7e code then .ground
      else .escape
  | .escapeIntermediate => if within 0x30 0x7e code then .ground else .escapeIntermediate
  | .control =>
      if within 0x20 0x2f code then .controlIntermediate
      else if within 0x30 0x3f code then .controlParameter
      else if within 0x40 0x7e code then .ground
      else .control
  | .controlParameter =>
      if within 0x20 0x2f code then .controlIntermediate
      else if within 0x3c 0x3f code then .controlIgnored
      else if within 0x40 0x7e code then .ground
      else .controlParameter
  | .controlIntermediate =>
      if within 0x30 0x3f code then .controlIgnored
      else if within 0x40 0x7e code then .ground
      else .controlIntermediate
  | .controlIgnored => if within 0x40 0x7e code then .ground else .controlIgnored
  | .device =>
      if within 0x20 0x2f code then .deviceIntermediate
      else if within 0x30 0x3f code then .deviceParameter
      else if within 0x40 0x7e code then .body
      else .device
  | .deviceParameter =>
      if within 0x20 0x2f code then .deviceIntermediate
      else if within 0x3c 0x3f code then .body
      else if within 0x40 0x7e code then .body
      else .deviceParameter
  | .deviceIntermediate => if within 0x30 0x7e code then .body else .deviceIntermediate
  | .body => if holdsTerminator code then .ground else .body
  | .command => if code = 0x07 then .ground else .command

/-- Whether control characters act in the midst of a sequence, so that those which are kept end
it. -/
def heedsControls : Place -> Bool
  | .ground | .escape | .escapeIntermediate | .control | .controlParameter | .controlIntermediate
  | .controlIgnored => true
  | _ => false

/-- One character: the place behind it and whether it is shown. -/
def step (place : Place) (char : Char) : Place × Bool :=
  let code := char.toNat
  if code = 0x1b then (.escape, false)
  else if code = 0x18 || code = 0x1a then (.ground, false)
  else if heedsControls place && isKept code then (.ground, true)
  else if place = .ground then (.ground, 0x20 ≤ code && code != 0x7f)
  else (move place code, false)

def visibleFrom (place : Place) : List Char -> List Char
  | [] => []
  | char :: chars =>
      let (next, shown) := step place char
      if shown then char :: visibleFrom next chars else visibleFrom next chars

def visible (text : List Char) : List Char := visibleFrom .ground text

end Terminal

def visible (text : String) : String := String.ofList (Terminal.visible text.toList)

end Text
end AstLink
