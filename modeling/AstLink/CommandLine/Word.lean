import AstLink.Text.Similarity
import AstLink.Text.Utf8

namespace AstLink
namespace CommandLine

/-!
The words of the leading part of a command line, one at a time: what a word is depends on the word
alone, except that nothing is an option once the options have been ended.
-/

inductive Positional where
  | compiler
  | target
  | placeholder
  deriving DecidableEq, Repr

namespace Positional

def all : List Positional := [.compiler, .target, .placeholder]

def name : Positional -> String
  | .compiler => "COMPILER"
  | .target => "TARGET"
  | .placeholder => "PLACEHOLDER"

/-- The value at a place.  Of the leading words at most three are values, so nothing comes after
the placeholder. -/
def ofIndex : Nat -> Positional
  | 0 => .compiler
  | 1 => .target
  | _ => .placeholder

end Positional

/-- The options.  Each ends the reading of the command line with a text of its own. -/
inductive Flag where
  | help
  | version
  deriving DecidableEq, Repr

namespace Flag

def all : List Flag := [.help, .version]

def name : Flag -> String
  | .help => "help"
  | .version => "version"

def letter : Flag -> Char
  | .help => 'h'
  | .version => 'V'

def ofName? (name : Bytes) : Option Flag := all.find? (fun flag => Text.bytes flag.name == name)

def ofLetter? (letter : Char) : Option Flag := all.find? (fun flag => flag.letter == letter)

/-- The option that someone who wrote `name` may have meant. -/
def similar? (name : Bytes) : Option Flag :=
  Text.Similarity.closest? (Text.Utf8.lossy name) (fun flag : Flag => flag.name.toList) all

end Flag

inductive Word where
  /-- The end of the options: every later word is a value. -/
  | endOfOptions
  | value
  | flag (flag : Flag)
  /-- An option with a value attached, which none takes. -/
  | flagValue (flag : Flag) (value : Bytes)
  /-- No option that is known.  `text` is as much of the word as is shown. -/
  | unknown (text : String) (similar : Option Flag)
  deriving DecidableEq, Repr

namespace Word

/-- A word that began with two dashes, without them. -/
def ofLong (body : Bytes) : Word :=
  let (name, attached) :=
    match Bytes.cut? Bytes.equals body with
    | some (name, attached) => (name, some attached)
    | none => (body, none)
  match Flag.ofName? name, attached with
  | some known, none => .flag known
  | some known, some attached => .flagValue known attached
  | none, _ => .unknown ("--" ++ Text.shown name) (Flag.similar? name)

/-- A word that began with one dash, without it.  Its letters are options one by one; both options
end the reading, so only the first letter is ever looked at.  Where the word is not text, all of
it is shown. -/
def ofShort (body : Bytes) : Word :=
  match Text.Utf8.units body with
  | some letter :: _ =>
      match Flag.ofLetter? letter with
      | some known => .flag known
      | none => .unknown (String.ofList ['-', letter]) none
  | _ => .unknown ("-" ++ Text.shown body) none

/-- What a word is while options are still read.  A dash that stands alone is a value. -/
def ofBytes (bytes : Bytes) : Word :=
  match bytes with
  | first :: second :: rest =>
      if first = Bytes.dash then
        if second = Bytes.dash then
          if rest = [] then .endOfOptions else ofLong rest
        else ofShort (second :: rest)
      else .value
  | _ => .value

end Word

end CommandLine
end AstLink
