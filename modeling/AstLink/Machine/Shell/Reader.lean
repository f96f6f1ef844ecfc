import AstLink.Machine.Shell.Lexer

namespace AstLink
namespace Machine
namespace Shell
namespace Reader

/-!
From tokens to commands.  The readers follow the grammar of scripts and call one another; each call
carries a number that bounds the depth of calls.

A shell reads one command line at a time and carries it out before it looks at the next, so a
mistake further down is met only when the script gets there.
-/

open Reading

/-- Ends the reading because of the last token, and says which one should stand there. -/
def unexpected {α : Type} (expected : Option Token) : Reading α := do
  let found := (← get).last.name
  match expected with
  | some token => fail (found ++ " unexpected (expecting " ++ token.name ++ ")")
  | none => fail (found ++ " unexpected")

def tokenWith (grammar : Lexer.Grammar) (watch : Watch) : Reading Token := do
  modify (fun cursor => { cursor with watch })
  Lexer.read grammar

def again : Reading Unit := modify (fun cursor => { cursor with again := true })

def commandWatch (lines : Bool) : Watch := { aliases := true, keywords := true, lines }

/-- What a word after `<&` or `>&` says. -/
def sourceOf (word : Word) : Source :=
  match word.plain? with
  | some [char] =>
      if char.isDigit then .descriptor (char.toNat - '0'.toNat)
      else if char = '-' then .closed
      else .word word
  | _ => .word word

def redirection (grammar : Lexer.Grammar) : Reading Redirection := do
  let opener := (← get).opener
  match opener with
  | .document descriptor tabs =>
      if (← tokenWith grammar { ending := true }) != .word then unexpected none
      let cursor ← get
      let number := cursor.documents.length + cursor.awaited.length
      let awaited : Awaited :=
        { number, ending := cursor.word.bare, tabs, literal := cursor.quoted }
      set { cursor with awaited := cursor.awaited ++ [awaited] }
      return .document descriptor number
  | .duplicate descriptor =>
      if (← tokenWith grammar {}) != .word then unexpected none
      return .duplicate descriptor (sourceOf (← get).word)
  | .file descriptor direction =>
      if (← tokenWith grammar {}) != .word then unexpected none
      return .file descriptor direction (← get).word

def redirections (grammar : Lexer.Grammar) : Nat -> Reading (List Redirection)
  | 0 => return []
  | bound + 1 => do
      match ← tokenWith grammar (commandWatch false) with
      | .redirection =>
          let first ← redirection grammar
          return first :: (← redirections grammar bound)
      | _ =>
          again
          return []

/-- The words that no function may be called. -/
def reserved : List String :=
  [".", ":", "break", "continue", "eval", "exec", "exit", "export", "readonly", "return", "set",
    "shift", "times", "trap", "unset"]

/-- Reads the words after `in`, up to the end of the line. -/
def items (grammar : Lexer.Grammar) : Nat -> Reading (List Word)
  | 0 => return []
  | bound + 1 => do
      match ← tokenWith grammar {} with
      | .word =>
          let word := (← get).word
          return word :: (← items grammar bound)
      | .newline | .semicolon => return []
      | _ => unexpected none

/-- Reads the patterns of an arm, the last token being the first of them, and the parenthesis behind
them. -/
def patterns (grammar : Lexer.Grammar) : Nat -> Reading (List Word)
  | 0 => return []
  | bound + 1 => do
      let first := (← get).word
      match ← tokenWith grammar {} with
      | .pipe =>
          let _ ← tokenWith grammar {}
          return first :: (← patterns grammar bound)
      | .right => return [first]
      | _ => unexpected (some .right)

def allArguments : Word := [.mark, .parameter ['@'] .value false [], .mark]

/-- What kind of list of commands is read. -/
inductive Extent where
  | line
  /-- Commands up to a word or sign that ends them; there must be one. -/
  | some
  /-- Such commands, of which there may be none. -/
  | any
  deriving DecidableEq

/-- One command after another, the first of which may be missing. -/
def afterFirst (first : Option Statement) (second : Statement) : Statement :=
  match first with
  | some first => .sequence first second
  | none => second

def inBackground : Statement -> Statement
  | .pipeline stages _ => .pipeline stages true
  | .redirected line body redirections => .background line body redirections
  | body => .background 0 body []

mutual

/-- Reads a simple command or the definition of a function.  Assignments may come only before the
first word. -/
def simple (grammar : Lexer.Grammar) (line : Nat) (assignments words : List Word)
    (redirected : List Redirection) : Nat -> Reading Statement
  | 0 => fail "too deep"
  | bound + 1 => do
      let finished : Statement :=
        .simple line assignments.reverse words.reverse redirected.reverse
      match ← tokenWith grammar { aliases := words.isEmpty } with
      | .word =>
          let word := (← get).word
          if words.isEmpty && Word.isAssignment word then
            simple grammar line (word :: assignments) words redirected bound
          else simple grammar line assignments (word :: words) redirected bound
      | .redirection =>
          let next ← redirection grammar
          simple grammar line assignments words (next :: redirected) bound
      | .left =>
          match words, assignments, redirected with
          | [word], [], [] =>
              if (← tokenWith grammar {}) != .right then unexpected (some .right)
              let name := (Word.plain? word).getD []
              if !isName name || reserved.contains (String.ofList name) then
                fail "Bad function name"
              modify (fun cursor => { cursor with watch := commandWatch true })
              let body ← command grammar bound
              return .define name body
          | _, _, _ =>
              again
              return finished
      | _ =>
          again
          return finished

def command (grammar : Lexer.Grammar) : Nat -> Reading Statement
  | 0 => fail "too deep"
  | bound + 1 => do
      let line := (← get).line
      let close (expected : Token) (body : Statement) : Reading Statement := do
        if (← Lexer.read grammar) != expected then unexpected (some expected)
        match ← redirections grammar bound with
        | [] => return body
        | redirected =>
            match body with
            | .subshell line body _ => return .subshell line body redirected
            | body => return .redirected line body redirected
      match ← Lexer.read grammar with
      | .keyword .ifWord =>
          let body ← branch grammar bound
          close (.keyword .fiWord) body
      | .keyword .whileWord =>
          let body ← loop grammar false bound
          close (.keyword .doneWord) body
      | .keyword .untilWord =>
          let body ← loop grammar true bound
          close (.keyword .doneWord) body
      | .keyword .forWord =>
          let first ← Lexer.read grammar
          let cursor ← get
          let name := (Word.plain? cursor.word).getD []
          if first != .word || cursor.quoted || !isName name then fail "Bad for loop variable"
          let words ←
            if (← tokenWith grammar (commandWatch true)) = .keyword .inWord then
              items grammar Reading.bound
            else do
              if (← get).last != .semicolon then again
              pure [allArguments]
          if (← tokenWith grammar (commandWatch true)) != .keyword .doWord then
            unexpected (some (.keyword .doWord))
          let body ← required grammar bound
          close (.keyword .doneWord) (.each line name words body)
      | .keyword .caseWord =>
          if (← Lexer.read grammar) != .word then unexpected (some .word)
          let word := (← get).word
          if (← tokenWith grammar (commandWatch true)) != .keyword .inWord then
            unexpected (some (.keyword .inWord))
          let found ← arms grammar bound
          again
          close (.keyword .esacWord) (.choice line word found)
      | .left =>
          let body ← required grammar bound
          close .right (.subshell line body [])
      | .keyword .openBrace =>
          let body ← required grammar bound
          close (.keyword .closeBrace) body
      | .word | .redirection =>
          again
          simple grammar (← get).line [] [] [] bound
      | _ => unexpected none

/-- Reads a condition, what is done if it holds, and what is done otherwise. -/
def branch (grammar : Lexer.Grammar) : Nat -> Reading Statement
  | 0 => fail "too deep"
  | bound + 1 => do
      let condition ← required grammar bound
      if (← Lexer.read grammar) != .keyword .thenWord then
        unexpected (some (.keyword .thenWord))
      let yes ← required grammar bound
      match ← Lexer.read grammar with
      | .keyword .elifWord =>
          let no ← branch grammar bound
          return .branch condition yes (some no)
      | .keyword .elseWord =>
          let no ← required grammar bound
          return .branch condition yes (some no)
      | _ =>
          again
          return .branch condition yes none

def loop (grammar : Lexer.Grammar) (untilTrue : Bool) : Nat -> Reading Statement
  | 0 => fail "too deep"
  | bound + 1 => do
      let condition ← required grammar bound
      if (← Lexer.read grammar) != .keyword .doWord then unexpected (some (.keyword .doWord))
      let body ← required grammar bound
      return .loop untilTrue condition body

def arms (grammar : Lexer.Grammar) :
    Nat -> Reading (List (List Word × Option Statement))
  | 0 => fail "too deep"
  | bound + 1 => do
      match ← tokenWith grammar { keywords := true, lines := true } with
      | .keyword .esacWord => return []
      | first =>
          if first = .left then
            let _ ← tokenWith grammar {}
          let found ← patterns grammar Reading.bound
          let body ← list grammar .any none bound
          match ← tokenWith grammar { keywords := true, lines := true } with
          | .keyword .esacWord => return [(found, body)]
          | .endOfArm => return (found, body) :: (← arms grammar bound)
          | _ => unexpected (some .endOfArm)

def stages (grammar : Lexer.Grammar) : Nat -> Reading (List Statement)
  | 0 => fail "too deep"
  | bound + 1 => do
      match ← Lexer.read grammar with
      | .pipe =>
          modify (fun cursor => { cursor with watch := commandWatch true })
          let next ← command grammar bound
          return next :: (← stages grammar bound)
      | _ =>
          again
          return []

def pipeline (grammar : Lexer.Grammar) : Nat -> Reading Statement
  | 0 => fail "too deep"
  | bound + 1 => do
      let negated ←
        if (← Lexer.read grammar) = .keyword .bang then do
          modify (fun cursor => { cursor with watch := commandWatch false })
          pure true
        else do
          again
          pure false
      let first ← command grammar bound
      let others ← stages grammar bound
      let body := if others.isEmpty then first else .pipeline (first :: others) false
      return if negated then .negated body else body

def chain (grammar : Lexer.Grammar) (first : Statement) : Nat -> Reading Statement
  | 0 => fail "too deep"
  | bound + 1 => do
      match ← Lexer.read grammar with
      | .both =>
          modify (fun cursor => { cursor with watch := commandWatch true })
          let second ← pipeline grammar bound
          chain grammar (.both first second) bound
      | .either =>
          modify (fun cursor => { cursor with watch := commandWatch true })
          let second ← pipeline grammar bound
          chain grammar (.either first second) bound
      | _ =>
          again
          return first

/-- Reads a list of commands; `first` are those that have been read. -/
def list (grammar : Lexer.Grammar) (extent : Extent) (first : Option Statement) :
    Nat -> Reading (Option Statement)
  | 0 => fail "too deep"
  | bound + 1 => do
      let token ← tokenWith grammar (commandWatch (extent != .line))
      let finish : Reading (Option Statement) := do
        grammar.documents
        again
        modify (fun cursor => { cursor with last := .ending })
        return first
      if token = .newline then
        grammar.documents
        return first
      else if token = .ending then finish
      else
        again
        if token.endsList && (extent = .any || (extent = .some && first.isSome)) then return first
        let start ← pipeline grammar bound
        let read ← chain grammar start bound
        let after ← Lexer.read grammar
        let read := if after = .ampersand then inBackground read else read
        let all := some (afterFirst first read)
        match after with
        | .ending =>
            grammar.documents
            again
            modify (fun cursor => { cursor with last := .ending })
            return all
        | .newline =>
            again
            list grammar extent all bound
        | .ampersand | .semicolon => list grammar extent all bound
        | _ =>
            if extent = .line then unexpected none
            again
            return all

/-- Reads commands of which there must be one, unless the script ends here. -/
def required (grammar : Lexer.Grammar) : Nat -> Reading Statement
  | 0 => fail "too deep"
  | bound + 1 => do
      return (← list grammar .some none bound).getD default

end

/-- How words are read in which commands stand within one another at most so deep. -/
def grammar : Nat -> Lexer.Grammar
  | 0 => { commands := fun _ => fail "too deep", documents := fail "too deep" }
  | depth + 1 =>
      { commands := fun closed => do
          let body ← list (grammar depth) .any none bound
          if closed then
            if (← Lexer.read (grammar depth)) != .right then unexpected (some .right)
          return body
        documents := Lexer.awaitedDocuments (grammar depth) }

/-- How deep commands may stand within words. -/
def maxDepth : Nat := 200

/-- Reads the next command line of a script; there is none at the end.  The result says whether the
end has been reached and gives the commands, of which an empty line has none. -/
def next : Reading (Bool × Option Statement) := do
  modify (fun cursor => { cursor with again := false, watch := {}, awaited := [] })
  let body ← list (grammar maxDepth) .line none bound
  let cursor ← get
  return (cursor.again && cursor.last = .ending && body.isNone, body)

end Reader
end Shell
end Machine
end AstLink
