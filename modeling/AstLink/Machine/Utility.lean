import AstLink.Machine.Loader
import AstLink.Machine.Shell.Evaluator
import AstLink.Machine.Utility.Characters
import AstLink.Machine.Utility.Columns
import AstLink.Machine.Utility.Comparing
import AstLink.Machine.Utility.Copying
import AstLink.Machine.Utility.Dating
import AstLink.Machine.Utility.Describing
import AstLink.Machine.Utility.Dumping
import AstLink.Machine.Utility.Duplicating
import AstLink.Machine.Utility.Editing
import AstLink.Machine.Utility.Expression
import AstLink.Machine.Utility.Finding
import AstLink.Machine.Utility.Folding
import AstLink.Machine.Utility.Gathering
import AstLink.Machine.Utility.Identity
import AstLink.Machine.Utility.Judging
import AstLink.Machine.Utility.Launching
import AstLink.Machine.Utility.Linking
import AstLink.Machine.Utility.Listing
import AstLink.Machine.Utility.Making
import AstLink.Machine.Utility.Naming
import AstLink.Machine.Utility.Numbering
import AstLink.Machine.Utility.Paths
import AstLink.Machine.Utility.Permitting
import AstLink.Machine.Utility.Removing
import AstLink.Machine.Utility.Repeating
import AstLink.Machine.Utility.Saying
import AstLink.Machine.Utility.Searching
import AstLink.Machine.Utility.Sequence
import AstLink.Machine.Utility.Signalling
import AstLink.Machine.Utility.Sizing
import AstLink.Machine.Utility.Sorting
import AstLink.Machine.Utility.Temporary
import AstLink.Machine.Utility.Viewing
import AstLink.Machine.Utility.Wrapping

namespace AstLink
namespace Machine
namespace Utility

/-!
The programs of the machine, each with what it does.
-/

/-- The status with which a program ends when it cannot write. -/
def failedStatus : Tool -> Nat
  | .sort | .list | .search | .searchExtended | .searchFixed => 2
  | .edit => 4
  | .expression => 3
  | .env | .timeout => 125
  | _ => 1

/-- What a program does that is given words behind its own name. -/
def carryOut : Tool -> List Chars -> Task Unit
  | .shell => fun _ => return
  | .baseName => baseNames
  | .directoryName => directoryNames
  | .which => findPrograms
  | .userName => Identity.showUser
  | .identity => Identity.showIdentity
  | .system => Identity.showSystem
  | .terminal => Identity.showTerminal
  | .date => Dating.run
  | .workingDirectory => workingName
  | .bracket => Judging.run Bool.true
  | .echo => echo
  | .expression => Expression.run
  | .printf => printf
  | .sequence => Sequence.count
  | .test => Judging.run Bool.false
  | .yes => Sequence.yes
  | .cat => cat
  | .duplicate => Duplicating.run
  | .dump => Dumping.run
  | .fold => Folding.run
  | .head => head
  | .numberLines => Numbering.run
  | .reverseChars => reverseChars
  | .reverseLines => reverseLines
  | .tail => tail
  | .tee => Sequence.tee
  | .wordCount => wordCount
  | .cut => Columns.cut
  | .edit => Editing.run
  | .paste => Columns.paste
  | .search => Searching.run none
  | .searchExtended => Searching.run (some 'E')
  | .searchFixed => Searching.run (some 'F')
  | .sort => Sorting.run
  | .translate => Characters.run
  | .unique => Repeating.run
  | .compareBytes => Comparing.compareBytes
  | .compareLines => Comparing.compareLines
  | .changeMode => Permitting.run
  | .copy => Copying.copyFiles
  | .link => Linking.run
  | .find => Finding.run
  | .list => Listing.run
  | .makeDirectory => Making.makeDirectories
  | .makePipe => Making.makePipes
  | .move => Copying.moveFiles
  | .readLink => Paths.readLinks
  | .realPath => Paths.realPaths
  | .remove => Removing.run
  | .unlink => Removing.unlink
  | .removeDirectory => Making.removeDirectories
  | .touch => Making.touch
  | .temporary => Temporary.run
  | .describe => Describing.run
  | .truncate => Sizing.run
  | .env => runInEnvironment
  | .false => fun _ => Task.stop 1
  | .kill => Signalling.run
  | .printEnv => showEnvironment
  | .sleep => sleep
  | .timeout => runForTime
  | .withoutTerminal => Wrapping.withoutTerminal
  | .withImportance => Wrapping.withImportance
  | .inSession => Wrapping.inSession
  | .withBuffers => Wrapping.withBuffers
  | .true => fun _ => return
  | .withArguments => Gathering.run

/-- What a process does that runs a program. -/
def activityOf (image : Image) : Activity :=
  let words := image.words.map Chars.ofBytes
  let environment := image.environment.map (fun (name, value) =>
    (Chars.ofBytes name, Chars.ofBytes value))
  match image.tool with
  | .shell => Shell.Evaluator.activity words environment
  | tool => program (failedStatus tool) words environment (carryOut tool (words.drop 1))

end Utility
end Machine
end AstLink
