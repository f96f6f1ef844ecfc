import AstLink.Machine.Activity
import AstLink.Machine.Loader
import AstLink.Machine.Signal
import AstLink.Run

namespace AstLink
namespace Machine

/-!
The machine at work: processes that run side by side, and the files, pipes and signals by which they
affect one another.

Time is counted, not measured.  Every process has a time at which it goes on, every request takes a
little of it, and of the processes that can go on the one with the earliest time always goes first.
A process whose request cannot be met yet waits until something happens that may change that.
-/

/-- What a descriptor leads to. -/
inductive Medium where
  /-- One of the two outputs of the first process. -/
  | output (descriptor : Descriptor)
  | pipe (number : Nat)
  | file (number : Nat)
  | directory (place : Place)
  | device (device : Device)
  deriving DecidableEq, Repr

/-- A file that was opened.  Several descriptors, also of several processes, may share it. -/
structure Description where
  medium : Medium
  reads : Bool
  writes : Bool
  appends : Bool := false
  offset : Nat := 0

/-- A pipe: what was written and not yet read, the latest portion last in `front` reversed by
`back`. -/
structure Pipe where
  front : List Chars := []
  back : List Chars := []
  size : Nat := 0

/-- A descriptor of a process. -/
structure Slot where
  description : Nat
  /-- Whether programs that are started do not get the descriptor. -/
  isPrivate : Bool := false

/-- For what a process waits. -/
inductive Reason where
  | pipes
  /-- A process that it started ends. -/
  | children
  deriving DecidableEq, Repr

structure Process where
  number : Nat
  parent : Nat
  /-- When it goes on. -/
  time : Nat
  activity : Activity
  table : List (Nat × Slot)
  working : Place
  mask : Nat := 0o022
  dispositions : List (Nat × Disposition) := []
  /-- Signals that it caught and has not asked for yet, latest first. -/
  caught : List Nat := []
  waiting : Option Reason := none
  /-- How it ended, if it did and nobody has waited for it yet. -/
  ending : Option Ending := none

/-- The machine. -/
structure World where
  tree : Tree
  now : Nat := 0
  descriptions : List (Nat × Description) := []
  nextDescription : Nat := 0
  pipes : List (Nat × Pipe) := []
  /-- Who waits for somebody at the other end of a pipe with a name: the process, the pipe and
  whether the process will write. -/
  arriving : List (Nat × Nat × Bool) := []
  nextPipe : Nat := 0
  processes : List Process := []
  nextProcess : Nat := 1001
  /-- What was written to the outputs of the first process, latest first. -/
  writes : List (Descriptor × Bytes) := []

/-- What a request leads to. -/
inductive Step where
  | answer (world : World) (process : Process) (answer : Answer)
  | wait (world : World) (reason : Reason)
  | finish (world : World) (process : Process) (ending : Ending)
  | become (world : World) (process : Process) (image : Image)

namespace Kernel

/-! ## What things cost, and how much there is of them -/

def requestTime : Nat := 1

/-- The time that starting a process takes from the one that starts it. -/
def forkTime : Nat := 50

/-- The time after which a new process begins. -/
def birthTime : Nat := 150

def loadTime : Nat := 400

/-- The time after which a process ends that another one has killed. -/
def deathTime : Nat := 100

/-- How much time passes until the changes of files are told apart. -/
def tick : Nat := 4000

/-- How much a pipe holds before those who write to it must wait. -/
def pipeRoom : Nat := 65536

def maxProcesses : Nat := 256

def maxDescriptors : Nat := 1024

/-- The time that a change of a file is given; it is later than that of all that was there from the
beginning. -/
def stamp (world : World) : Nat := world.now / tick * tick + 1

/-! ## Descriptors -/

def description? (world : World) (process : Process) (descriptor : Nat) :
    Option (Nat × Description) := do
  let slot ← process.table.lookup descriptor
  let description ← world.descriptions.lookup slot.description
  return (slot.description, description)

def setDescription (world : World) (number : Nat) (description : Description) : World :=
  { world with
    descriptions :=
      (number, description) :: world.descriptions.filter (fun entry => entry.1 != number) }

def newDescription (world : World) (description : Description) : World × Nat :=
  let number := world.nextDescription
  ({ world with
      descriptions := (number, description) :: world.descriptions
      nextDescription := number + 1 },
    number)

def free (process : Process) (least : Nat) : Nat :=
  ((List.range (process.table.length + 1)).map (fun index => least + index)).find?
    (fun descriptor => (process.table.lookup descriptor).isNone) |>.getD least

/-- Makes a descriptor lead to a description. -/
def connect (process : Process) (descriptor : Nat) (slot : Slot) : Process :=
  { process with
    table :=
      (descriptor, slot) :: process.table.filter (fun entry => entry.1 != descriptor) }

def disconnect (process : Process) (descriptor : Nat) : Process :=
  { process with table := process.table.filter (fun entry => entry.1 != descriptor) }

def process? (world : World) (number : Nat) : Option Process :=
  world.processes.find? (fun process => process.number = number)

def setProcess (world : World) (process : Process) : World :=
  { world with
    processes := world.processes.map (fun other =>
      if other.number = process.number then process else other) }

def isAlive (process : Process) : Bool := process.ending.isNone

/-- Whether any process has a description under one of its descriptors. -/
def isHeld (world : World) (description : Nat) : Bool :=
  world.processes.any (fun process =>
    process.table.any (fun entry => entry.2.description = description))

/-- Lets those who wait for a reason try again. -/
def wake (world : World) (concerns : Process -> Bool) (reason : Reason) : World :=
  { world with
    processes := world.processes.map (fun process =>
      if process.waiting = some reason && concerns process then
        { process with waiting := none, time := Nat.max process.time world.now }
      else process) }

/-- Forgets the descriptions that no descriptor leads to any more. -/
def sweep (world : World) (numbers : List Nat) : World :=
  let gone := numbers.filter (fun number => !isHeld world number)
  if gone.isEmpty then world
  else
    wake
      { world with
        descriptions := world.descriptions.filter (fun entry => !gone.contains entry.1) }
      (fun _ => true) .pipes

/-- Whether anybody can still read from a pipe, or write to it. -/
def hasEnd (world : World) (pipe : Nat) (writing : Bool) : Bool :=
  world.descriptions.any (fun (_, description) =>
    description.medium = .pipe pipe && (if writing then description.writes else description.reads))

/-! ## Reading and writing -/

/-- The first characters of a pipe, at most so many, and what is left.  With `line` no more is taken
than up to the end of a line. -/
def takePipe (line : Bool) (count : Nat) (pipe : Pipe) : Chars × Pipe :=
  let front := if pipe.front.isEmpty then pipe.back.reverse else pipe.front
  let back := if pipe.front.isEmpty then [] else pipe.back
  match front with
  | [] => ([], pipe)
  | portion :: rest =>
      let taken :=
        if line then
          let before := portion.takeWhile (fun char => char != '\n')
          if before.length < portion.length then before ++ ['\n'] else before
        else portion.take count
      let left := portion.drop taken.length
      (taken,
        { front := if left.isEmpty then rest else left :: rest
          back
          size := pipe.size - taken.length })

/-- Reads from a pipe all that is there, up to a number of characters. -/
def drainPipe (line : Bool) : Nat -> Nat -> Pipe -> List Chars × Pipe
  | 0, _, pipe => ([], pipe)
  | bound + 1, count, pipe =>
      match takePipe line count pipe with
      | ([], pipe) => ([], pipe)
      | (text, pipe) =>
          if (line && text.getLast? = some '\n') || count ≤ text.length then ([text], pipe)
          else
            let (texts, pipe) := drainPipe line bound (count - text.length) pipe
            (text :: texts, pipe)

def setPipe (world : World) (number : Nat) (pipe : Pipe) : World :=
  { world with
    pipes := (number, pipe) :: world.pipes.filter (fun entry => entry.1 != number) }

def newPipe (world : World) : World × Nat :=
  let pipe := world.nextPipe
  ({ setPipe world pipe {} with nextPipe := pipe + 1 }, pipe)

def read (world : World) (process : Process) (line : Bool) (descriptor count : Nat) : Step :=
  match description? world process descriptor with
  | none => .answer world process (.failed .badDescriptor)
  | some (number, description) =>
      if !description.reads then .answer world process (.failed .badDescriptor)
      else
        match description.medium with
        | .directory _ => .answer world process (.failed .isDirectory)
        | .output _ => .answer world process (.failed .badDescriptor)
        | .device .null => .answer world process (.text [])
        | .device .terminal => .answer world process (.text [])
        | .device _ => .answer world process (.text (List.replicate count '\x00'))
        | .file file =>
            let content := (world.tree.file file).content.drop description.offset
            let taken :=
              if line then
                let before := content.takeWhile (fun byte => byte != Bytes.newline)
                content.take (before.length + 1)
              else content.take count
            let world := setDescription world number
              { description with offset := description.offset + taken.length }
            .answer world process (.text (Chars.ofBytes taken))
        | .pipe pipe =>
            let content := (world.pipes.lookup pipe).getD {}
            if content.size = 0 then
              if hasEnd world pipe true then .wait world .pipes else .answer world process (.text [])
            else
              let (texts, content) :=
                drainPipe line (content.front.length + content.back.length + 1) count content
              let world := wake (setPipe world pipe content) (fun _ => true) .pipes
              .answer world process (.text texts.flatten)

def dispositionOf (process : Process) (signal : Nat) : Disposition :=
  (process.dispositions.lookup signal).getD .standard

def overwrite (content : Bytes) (offset : Nat) (text : Bytes) : Bytes :=
  let before := content.take offset
  before ++ List.replicate (offset - before.length) Bytes.nul ++ text ++
    content.drop (offset + text.length)

def write (world : World) (process : Process) (descriptor : Nat) (text : Chars) : Step :=
  match description? world process descriptor with
  | none => .answer world process (.failed .badDescriptor)
  | some (number, description) =>
      if !description.writes then .answer world process (.failed .badDescriptor)
      else
        match description.medium with
        | .directory _ => .answer world process (.failed .isDirectory)
        | .output descriptor =>
            let world := { world with writes := (descriptor, Chars.toBytes text) :: world.writes }
            .answer world process .done
        | .device .full => .answer world process (.failed .noSpace)
        | .device _ => .answer world process .done
        | .file file =>
            let stored := world.tree.file file
            let offset := if description.appends then stored.content.length else description.offset
            let content := overwrite stored.content offset (Chars.toBytes text)
            let tree := world.tree.setFile file { stored with content, changed := stamp world }
            let world := setDescription { world with tree } number
              { description with offset := offset + text.length }
            .answer world process .done
        | .pipe pipe =>
            let content := (world.pipes.lookup pipe).getD {}
            if !hasEnd world pipe false then
              match dispositionOf process 13 with
              | .standard => .finish world process (.signal .pipe)
              | _ => .answer world process (.failed .noReader)
            else if pipeRoom ≤ content.size then .wait world .pipes
            else
              let content :=
                { content with
                  back := text :: content.back
                  size := content.size + text.length }
              let world := wake (setPipe world pipe content) (fun _ => true) .pipes
              .answer world process .done

/-- Moves the offset of an open file. -/
def seek (world : World) (process : Process) (descriptor : Nat) (offset : Int) (anchor : Anchor) :
    Step :=
  match description? world process descriptor with
  | none => .answer world process (.failed .badDescriptor)
  | some (number, description) =>
      let base : Option Nat :=
        match description.medium, anchor with
        | .file _, .start => some 0
        | .file _, .here => some description.offset
        | .file file, .ending => some (world.tree.file file).content.length
        | .device _, _ => some 0
        | _, _ => none
      match base with
      | none => .answer world process (.failed .noSeek)
      | some base =>
          let offset := Int.ofNat base + offset
          if offset < 0 then .answer world process (.failed .invalid)
          else
            let world := setDescription world number { description with offset := offset.toNat }
            .answer world process (.number offset.toNat)

/-! ## Files -/

def find (world : World) (process : Process) (path : Chars) (follow : Bool) :
    Except Obstacle (Place × Node) :=
  world.tree.find process.working (Chars.toBytes path) follow

def placeOf (world : World) (process : Process) (path : Chars) (follow : Bool) :
    Except Obstacle Place :=
  world.tree.place process.working (Chars.toBytes path) follow

/-- Opens an end of a pipe with a name, once there is somebody at the other end.  A pipe that nobody
had open is empty. -/
def openEnd (world : World) (process : Process) (opening : Opening) (pipe : Nat) : Step :=
  let isWriting := opening.writes
  let others := world.arriving.filter (fun entry => entry.1 != process.number)
  let isAwaited := others.any (fun (number, other, writes) =>
    other = pipe && writes != isWriting &&
      world.processes.any (fun process => process.number = number && process.waiting = some .pipes))
  let isMet := (opening.reads && opening.writes) || hasEnd world pipe (!isWriting) || isAwaited
  let isFresh := !hasEnd world pipe true && !hasEnd world pipe false
  let world := if isFresh then setPipe world pipe {} else world
  if isMet then
    let (world, number) := newDescription { world with arriving := others }
      { medium := .pipe pipe, reads := opening.reads, writes := opening.writes }
    let descriptor := free process 0
    .answer (wake world (fun _ => true) .pipes) (connect process descriptor ⟨number, false⟩)
      (.number descriptor)
  else .wait { world with arriving := (process.number, pipe, isWriting) :: others } .pipes

def openNode (world : World) (process : Process) (opening : Opening) (place : Place) (node : Node) :
    Step :=
  let give (world : World) (medium : Medium) : Step :=
    let (world, number) := newDescription world
      { medium, reads := opening.reads, writes := opening.writes, appends := opening.appends }
    let descriptor := free process 0
    .answer world (connect process descriptor ⟨number, false⟩) (.number descriptor)
  match node with
  | .directory _ =>
      if opening.writes || opening.creates then .answer world process (.failed .isDirectory)
      else give world (.directory place)
  | .file number =>
      let world :=
        if opening.truncates then
          let stored := world.tree.file number
          { world with
            tree := world.tree.setFile number { stored with content := [], changed := stamp world } }
        else world
      give world (.file number)
  | .program _ => give world (.device .null)
  | .link _ => .answer world process (.failed .tooManyLevels)
  | .device .terminal => .answer world process (.failed .noDevice)
  | .pipe number _ => openEnd world process opening number
  | .device device => give world (.device device)
  | .descriptor number =>
      match process.table.lookup number with
      | none => .answer world process (.failed .noEntry)
      | some slot =>
          let descriptor := free process 0
          .answer world (connect process descriptor ⟨slot.description, false⟩) (.number descriptor)

def openFile (world : World) (process : Process) (path : Chars) (opening : Opening) : Step :=
  let refuse (obstacle : Obstacle) : Step := .answer world process (.failed obstacle)
  if maxDescriptors ≤ process.table.length then refuse .noResource
  else
    let found :=
      if opening.creates && path.getLast? = some '/' then
        match placeOf world process (Chars.withoutSlashes path) true with
        | .ok _ => .error .isDirectory
        | .error obstacle => .error obstacle
      else placeOf world process path (!(opening.creates && opening.exclusive))
    match found with
    | .error obstacle => refuse obstacle
    | .ok place =>
        match world.tree.node? place with
        | some node =>
            if opening.creates && opening.exclusive then refuse .isThere
            else openNode world process opening place node
        | none =>
            if opening.creates then
              let mode := opening.mode &&& (0o777 - (process.mask &&& 0o777))
              let tree := world.tree.putFile place { content := [], mode, changed := stamp world }
              match tree.node? place with
              | some node => openNode { world with tree } process opening place node
              | none => refuse .noEntry
            else refuse .noEntry

def infoOf (world : World) (process : Process) (place : Place) (node : Node) : Info :=
  let plain (sort : FileSort) (mode size identity : Nat) : Info :=
    { sort, mode, size, changed := 0, links := 1, identity }
  match node with
  | .directory mode =>
      { plain .directory mode 4096 0 with
        links := 2 + world.tree.directoryCount place
        identity := 1000000 + (place.flatten.foldl (fun sum byte => sum * 31 + byte.toNat) 7) }
  | .file number =>
      let file := world.tree.file number
      { sort := .file
        mode := file.mode
        size := file.content.length
        changed := file.changed
        links := world.tree.linkCount number
        identity := number + 1 }
  | .link target => plain .link 0o777 target.length 0
  | .program _ => plain .file 0o755 100000 0
  | .device _ => plain .device 0o666 0 0
  | .pipe number mode => plain .pipe mode 0 (2000000 + number)
  | .descriptor number =>
      match description? world process number with
      | some (_, { medium := .pipe _, .. }) | some (_, { medium := .output _, .. }) =>
          plain .pipe 0o600 0 0
      | some (_, { medium := .file number, .. }) =>
          let file := world.tree.file number
          { plain .file file.mode file.content.length (number + 1) with changed := file.changed }
      | _ => plain .device 0o666 0 0

/-- What can be found out about what a descriptor leads to. -/
def infoOfOpen (world : World) (process : Process) (medium : Medium) : Info :=
  match medium with
  | .file number => infoOf world process [] (.file number)
  | .directory place => infoOf world process place (.directory Tree.directoryMode)
  | .device device => infoOf world process [] (.device device)
  | .pipe _ | .output _ =>
      { sort := .pipe, mode := 0o600, size := 0, changed := 0, links := 1, identity := 0 }

def pathOf (place : Place) : Chars :=
  if place.isEmpty then ['/'] else place.flatMap (fun name => '/' :: Chars.ofBytes name)

def makeDirectory (world : World) (process : Process) (path : Chars) (mode : Nat) :
    Except Obstacle Tree := do
  let place ← placeOf world process (Chars.withoutSlashes path) false
  if (world.tree.node? place).isSome then throw .isThere
  let mode := mode &&& (0o777 - (process.mask &&& 0o777))
  return world.tree.put place (.directory mode)

def makePipe (world : World) (process : Process) (path : Chars) (mode : Nat) :
    Except Obstacle Tree := do
  let place ← placeOf world process path false
  if (world.tree.node? place).isSome then throw .isThere
  let mode := mode &&& (0o777 - (process.mask &&& 0o777))
  return world.tree.put place (.pipe world.nextPipe mode)

def removeDirectory (world : World) (process : Process) (path : Chars) :
    Except Obstacle Tree := do
  let bare := Chars.withoutSlashes path
  let (place, node) ← find world process bare false
  match node with
  | .directory _ =>
      if place.isEmpty then throw .busy
      if Chars.lastName bare = ['.'] then throw .invalid
      if !(world.tree.names place).isEmpty then throw .notEmpty
      return world.tree.erase place
  | _ => throw .noDirectory

/-- Removes a name of a file. -/
def unlink (world : World) (process : Process) (path : Chars) : Except Obstacle Tree := do
  let (place, node) ← find world process path false
  match node with
  | .directory _ => throw .isDirectory
  | _ => return world.tree.erase place

/-- Moves what is at a path to another path. -/
def rename (world : World) (process : Process) (source target : Chars) :
    Except Obstacle Tree := do
  let (bareSource, bareTarget) := (Chars.withoutSlashes source, Chars.withoutSlashes target)
  let (origin, node) ← find world process bareSource false
  let goal ← placeOf world process bareTarget false
  let isFixed (path : Chars) : Bool := [[], ['.'], ['.', '.']].contains (Chars.lastName path)
  if isFixed bareSource || isFixed bareTarget then throw .busy
  let isDirectory := match node with
    | .directory _ => true
    | _ => false
  if !isDirectory && (source.length != bareSource.length || target.length != bareTarget.length) then
    throw .noDirectory
  if origin = goal then return world.tree
  if origin.isPrefixOf goal then throw .invalid
  match node, world.tree.node? goal with
  | .directory _, some (.directory _) =>
      if !(world.tree.names goal).isEmpty then throw .notEmpty
  | .directory _, some _ => throw .noDirectory
  | _, some (.directory _) => throw .isDirectory
  | _, _ => pure ()
  return world.tree.move origin goal

/-- Gives a file another name. -/
def link (world : World) (process : Process) (source target : Chars) : Except Obstacle Tree := do
  let (_, node) ← find world process source false
  let goal ← placeOf world process target false
  if (world.tree.node? goal).isSome then throw .isThere
  match node with
  | .directory _ => throw .notPermitted
  | node => return world.tree.put goal node

def symbolicLink (world : World) (process : Process) (target path : Chars) :
    Except Obstacle Tree := do
  if target.isEmpty then throw .noEntry
  let place ← placeOf world process path false
  if (world.tree.node? place).isSome then throw .isThere
  return world.tree.put place (.link (Chars.toBytes target))

def changeMode (world : World) (process : Process) (path : Chars) (mode : Nat) :
    Except Obstacle Tree := do
  let (place, node) ← find world process path true
  match node with
  | .file number =>
      let file := world.tree.file number
      return world.tree.setFile number { file with mode }
  | .directory _ => return world.tree.put place (.directory mode)
  | .pipe number _ => return world.tree.put place (.pipe number mode)
  | _ => return world.tree

def changeTime (world : World) (process : Process) (path : Chars) (time : Option Nat) :
    Except Obstacle Tree := do
  let (_, node) ← find world process path true
  match node with
  | .file number =>
      let file := world.tree.file number
      let file := { file with changed := time.getD (stamp world) }
      return world.tree.setFile number file
  | _ => return world.tree

/-! ## Processes -/

/-- Ends a process: its descriptors are closed, the processes that it started go to the first of
all, and whoever started it may wait for it. -/
def finish (world : World) (process : Process) (ending : Ending) : World :=
  let held := process.table.map (fun entry => entry.2.description)
  let ended :=
    { process with
      table := []
      ending := some ending
      activity := .finished ending
      waiting := none
      time := world.now }
  let adopt (other : Process) : Process :=
    if other.parent = process.number then { other with parent := 0 } else other
  let tell (other : Process) : Process :=
    if other.number = process.parent && isAlive other && dispositionOf other 17 = .caught then
      { other with caught := 17 :: other.caught }
    else other
  let world := setProcess world ended
  let world := { world with processes := world.processes.map (fun other => tell (adopt other)) }
  wake (sweep world held) (fun other => other.number = process.parent) .children

/-- Makes a process end soon, whatever it does or waits for.  One that has been killed before stays
killed as it was. -/
def doom (world : World) (process : Process) (ending : Ending) : World :=
  match process.activity with
  | .finished (.signal _) => world
  | _ =>
      setProcess world
        { process with
          activity := .finished ending
          waiting := none
          time := world.now + deathTime }

def sendTo (world : World) (process : Process) (signal : Nat) : World :=
  if signal = 0 || !isAlive process then world
  else
    match dispositionOf process signal, signal with
    | .ignored, _ => world
    | .caught, _ =>
        let process :=
          { process with
            caught := if process.caught.contains signal then process.caught
              else signal :: process.caught }
        wake (setProcess world process) (fun other => other.number = process.number) .children
    | .standard, _ =>
        if isFatal : Signal.isFatal signal then doom world process (.signal ⟨signal, isFatal⟩)
        else world

/-- The process that is behind the other in time, an earlier one if they are level. -/
def earlier (best : Option Process) (child : Process) : Option Process :=
  match best with
  | some other => if child.time < other.time then some child else some other
  | none => some child

def waitFor (world : World) (process : Process) (wanted : Option Nat) (patient : Bool) : Step :=
  let children := world.processes.filter (fun other =>
    other.parent = process.number && (wanted.isNone || wanted = some other.number))
  if children.isEmpty then .answer world process (.failed .noChild)
  else
    let ended := children.filter (fun child => !isAlive child)
    match ended.foldl earlier none with
    | some child =>
        let world :=
          { world with
            processes := world.processes.filter (fun other => other.number != child.number) }
        .answer world process (.ended child.number (child.ending.getD (.exit 0)))
    | none =>
        if !process.caught.isEmpty && patient then .answer world process (.failed .interrupted)
        else if patient then .wait world .children
        else .answer world process .running

/-- Puts a program in the place of the one that a process runs. -/
def execute (world : World) (process : Process) (path : Chars) (words : List Chars)
    (environment : List (Chars × Chars)) : Step :=
  let lengths := environment.map (fun (name, value) => name.length + value.length)
  match Loader.load world.tree process.working (Loader.environmentRoom lengths)
      (Chars.toBytes path) (words.map Chars.toBytes) with
  | .error obstacle => .answer world process (.failed obstacle)
  | .ok image =>
      let (gone, kept) := process.table.partition (fun entry => entry.2.isPrivate)
      let process :=
        { process with
          table := kept
          caught := []
          dispositions := process.dispositions.filter (fun entry => entry.2 = .ignored) }
      let world := sweep (setProcess world process) (gone.map (fun entry => entry.2.description))
      .become world process
        { image with
          environment := environment.map (fun (name, value) =>
            (Chars.toBytes name, Chars.toBytes value)) }

/-- Answers a request that changes only files. -/
def ofFiles (world : World) (process : Process) (result : Except Obstacle Tree) : Step :=
  match result with
  | .ok tree => .answer { world with tree } process .done
  | .error obstacle => .answer world process (.failed obstacle)

def attempt (world : World) (process : Process) (request : Request) : Step :=
  let answer (value : Answer) : Step := .answer world process value
  let found (result : Except Obstacle (Place × Node)) (give : Place -> Node -> Step) : Step :=
    match result with
    | .ok (place, node) => give place node
    | .error obstacle => answer (.failed obstacle)
  match request with
  | .rest => answer .done
  | .read descriptor count => read world process false descriptor count
  | .readLine descriptor => read world process true descriptor pipeRoom
  | .write descriptor text => write world process descriptor text
  | .seek descriptor offset anchor => seek world process descriptor offset anchor
  | .truncate descriptor size =>
      match description? world process descriptor with
      | some (_, { medium := .file number, .. }) =>
          let file := world.tree.file number
          let content := file.content.take size
          let content := content ++ List.replicate (size - content.length) Bytes.nul
          .answer { world with tree := world.tree.setFile number { file with content } } process .done
      | some _ => answer (.failed .invalid)
      | none => answer (.failed .badDescriptor)
  | .openFile path opening => openFile world process path opening
  | .close descriptor =>
      match process.table.lookup descriptor with
      | none => answer (.failed .badDescriptor)
      | some slot =>
          let process := disconnect process descriptor
          .answer (sweep (setProcess world process) [slot.description]) process .done
  | .duplicate source target =>
      match process.table.lookup source with
      | none => answer (.failed .badDescriptor)
      | some slot =>
          if source = target then answer .done
          else
            let before := (process.table.lookup target).toList.map Slot.description
            let process := connect process target ⟨slot.description, false⟩
            .answer (sweep (setProcess world process) before) process .done
  | .duplicateAbove source least =>
      match process.table.lookup source with
      | none => answer (.failed .badDescriptor)
      | some slot =>
          let descriptor := free process least
          .answer world (connect process descriptor ⟨slot.description, true⟩) (.number descriptor)
  | .pipe =>
      let (world, pipe) := newPipe world
      let (world, source) :=
        newDescription world { medium := .pipe pipe, reads := true, writes := false }
      let (world, sink) :=
        newDescription world { medium := .pipe pipe, reads := false, writes := true }
      let first := free process 0
      let process := connect process first ⟨source, false⟩
      let second := free process 0
      .answer world (connect process second ⟨sink, false⟩) (.pair first second)
  | .inspect path follow =>
      found (find world process path follow) (fun place node =>
        answer (.info (infoOf world process place node)))
  | .inspectOpen descriptor =>
      match description? world process descriptor with
      | some (_, description) => answer (.info (infoOfOpen world process description.medium))
      | none => answer (.failed .badDescriptor)
  | .names path =>
      found (find world process path true) (fun place node =>
        match node with
        | .directory _ => answer (.list ((world.tree.names place).map Chars.ofBytes))
        | _ => answer (.failed .noDirectory))
  | .makeDirectory path mode => ofFiles world process (makeDirectory world process path mode)
  | .makePipe path mode =>
      match makePipe world process path mode with
      | .ok tree => .answer { (newPipe world).1 with tree } process .done
      | .error obstacle => answer (.failed obstacle)
  | .removeDirectory path => ofFiles world process (removeDirectory world process path)
  | .unlink path => ofFiles world process (unlink world process path)
  | .rename source target => ofFiles world process (rename world process source target)
  | .link source target => ofFiles world process (link world process source target)
  | .symbolicLink target path => ofFiles world process (symbolicLink world process target path)
  | .readLink path =>
      found (find world process path false) (fun _ node =>
        match node with
        | .link target => answer (.text (Chars.ofBytes target))
        | _ => answer (.failed .invalid))
  | .resolve path =>
      match placeOf world process path true with
      | .ok place => answer (.text (pathOf place))
      | .error obstacle => answer (.failed obstacle)
  | .changeMode path mode => ofFiles world process (changeMode world process path mode)
  | .changeTime path time => ofFiles world process (changeTime world process path time)
  | .enter path =>
      found (find world process path true) (fun place node =>
        match node with
        | .directory _ => .answer world { process with working := place } .done
        | _ => answer (.failed .noDirectory))
  | .working => answer (.text (pathOf process.working))
  | .mask value =>
      .answer world { process with mask := value.getD process.mask } (.number process.mask)
  | .wait wanted patient => waitFor world process wanted patient
  | .execute path words environment => execute world process path words environment
  | .send signal target =>
      match process? world target.toNat with
      | none => answer (.failed .noProcess)
      | some other =>
          if target ≤ 0 then answer (.failed .noProcess)
          else if Signal.largest < signal then answer (.failed .invalid)
          else
            let world := sendTo (setProcess world process) other signal
            match process? world process.number with
            | some process =>
                match process.activity with
                | .finished ending => .finish world process ending
                | _ => .answer world process .done
            | none => answer .done
  | .arrange signal disposition =>
      let others := process.dispositions.filter (fun entry => entry.1 != signal)
      .answer world { process with dispositions := (signal, disposition) :: others } .done
  | .disposition signal => answer (.disposition (dispositionOf process signal))
  | .caught => .answer world { process with caught := [] } (.signals process.caught.reverse)
  | .sleep micros => .answer world { process with time := process.time + micros } .done
  | .self => answer (.number process.number)
  | .parent => answer (.number (if process.parent = 0 then 1 else process.parent))
  | .clock => answer (.number world.now)

def fork (world : World) (process : Process) (child : Activity) : World × Answer :=
  if maxProcesses ≤ (world.processes.filter isAlive).length then (world, .failed .noResource)
  else
    let number := world.nextProcess
    let started :=
      { process with
        number
        parent := process.number
        time := process.time + birthTime
        activity := child
        caught := [] }
    ({ world with
        processes := world.processes ++ [started]
        nextProcess := number + 1 },
      .number number)

def next? (world : World) : Option Process :=
  world.processes.foldl
    (fun best process =>
      if process.waiting.isSome || !isAlive process then best
      else
        match best with
        | some other => if process.time < other.time then some process else best
        | none => some process)
    none

/-- Lets a process go on by one request. -/
def advance (programs : Image -> Activity) (world : World) (process : Process) : World :=
  let world := { world with now := Nat.max world.now process.time }
  match process.activity with
  | .finished ending => finish world process ending
  | .fork child resume =>
      let (world, answer) := fork world process child
      setProcess world
        { process with activity := resume answer, time := process.time + forkTime }
  | .call request resume =>
      match attempt world process request with
      | .answer world process answer =>
          setProcess world
            { process with activity := resume answer, time := process.time + requestTime }
      | .wait world reason => setProcess world { process with waiting := some reason }
      | .finish world process ending => finish world process ending
      | .become world process image =>
          setProcess world
            { process with activity := programs image, time := process.time + loadTime }

/-- Lets processes go on, at most so many requests, until none can. -/
def run (programs : Image -> Activity) : Nat -> World -> World
  | 0, world => world
  | bound + 1, world =>
      match next? world with
      | none => world
      | some process => run programs bound (advance programs world process)

def maxRequests : Nat := 1000000000

/-! ## The first process -/

/-- The machine with a process that has just been started: it reads a text, and its outputs are
kept. -/
def start (tree : Tree) (working : Place) (input : Chars) (activity : Activity) : World × Nat :=
  let world : World := { tree }
  let pipe : Pipe := { back := if input.isEmpty then [] else [input], size := input.length }
  let world := { setPipe world 0 pipe with nextPipe := 1 }
  let (world, stdin) := newDescription world { medium := .pipe 0, reads := true, writes := false }
  let (world, stdout) :=
    newDescription world { medium := .output .stdout, reads := false, writes := true }
  let (world, stderr) :=
    newDescription world { medium := .output .stderr, reads := false, writes := true }
  let number := world.nextProcess
  let process : Process :=
    { number
      parent := 0
      time := 0
      activity
      table := [(0, ⟨stdin, false⟩), (1, ⟨stdout, false⟩), (2, ⟨stderr, false⟩)]
      working }
  ({ world with processes := [process], nextProcess := number + 1 }, number)

/-- How a process ended.  One that never did counts as killed. -/
def endingOf (world : World) (number : Nat) : Ending :=
  ((process? world number).bind Process.ending).getD (.signal .kill)

end Kernel

end Machine
end AstLink
