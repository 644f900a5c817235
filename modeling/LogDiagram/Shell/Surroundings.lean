import LogDiagram.Shell.Calculations
import LogDiagram.Shell.Files
import LogDiagram.Shell.Launch

/-!
# Programs about names, surroundings and other programs

* `printLastNames` and `printDirectories` take paths apart;
* `runSurrounded` runs a program with other variables, and `runForWords` runs one with words from the input;
* `runLimited` and `runAsIs` run a program under conditions that make no difference here.
-/

namespace LogDiagram.Shell

/-! ## Paths -/

/-- A name without an ending, unless nothing would be left. -/
def withoutEnding (ending name : Text) : Text :=
  if ending.length < name.length && ending.isSuffixOf name then name.take (name.length - ending.length) else name

def printLastNames : Program := fun arguments session =>
  session.withArguments "basename" ⟨"as:z", [("multiple", 'a'), ("suffix", 's'), ("zero", 'z')], true⟩ 1
    (fun found session =>
      let lineEnd := if found.has 'z' then '\x00' else '\n'
      let say (ending path : Text) (session : Session) : Session :=
        session.print (withoutEnding ending (lastName path) ++ [lineEnd])
      if found.operands.isEmpty then session.missOperand "basename"
      else if found.has 'a' || found.has 's' then
        session.forEach found.operands (say ((found.value? 's').getD []))
      else
        match found.operands with
        | [path] => say [] path session
        | [path, ending] => say ending path session
        | operands =>
          (session.complain "basename" ("extra operand ".toList ++ quoted ((operands[2]?).getD [])) 1).write 2
            "Try 'basename --help' for more information.\n".toList) arguments

/-- A path without its last name. -/
def directoryPart (path : Text) : Text :=
  let bare := withoutEndSlashes path
  if !bare.contains '/' then ['.']
  else
    let front := (bare.reverse.dropWhile (· != '/')).dropWhile (· == '/')
    if front.isEmpty then ['/'] else front.reverse

/-- Prints paths without their last names. -/
def printDirectories : Program := fun arguments session =>
  session.withArguments "dirname" ⟨"z", [("zero", 'z')], false⟩ 1 (fun found session =>
    if found.operands.isEmpty then session.missOperand "dirname"
    else session.forEach found.operands fun path session =>
      session.print (directoryPart path ++ [if found.has 'z' then '\x00' else '\n'])) arguments

def printPrograms : Program := fun arguments session =>
  session.withArguments "which" (Grammar.ofLetters "as") 2 (fun found session =>
    let session := session.withStatus (if found.operands.isEmpty then 1 else 0)
    session.forEach found.operands fun name session =>
      match session.pathOf? name with
      | some path => if found.has 's' then session else session.printLine path
      | none => session.withStatus 1) arguments

/-! ## The system -/

def printSystem : Program := fun arguments session =>
  session.withArguments "uname" ⟨"amnoprsvi", [("all", 'a'), ("machine", 'm'), ("nodename", 'n'),
    ("operating-system", 'o'), ("processor", 'p'), ("kernel-release", 'r'), ("kernel-name", 's'),
    ("kernel-version", 'v')], false⟩ 1
    (fun found session =>
      let parts : List (Char × String) := [('s', "Linux"), ('n', "localhost"), ('r', "6.1.0"), ('v', "#1 SMP"),
        ('m', "x86_64"), ('o', "GNU/Linux")]
      let isAsked (letter : Char) : Bool :=
        found.has letter || found.has 'a' || (found.options.isEmpty && letter == 's')
      session.printLine (Text.joined [' '] ((parts.filter fun part => isAsked part.1).map fun part => part.2.toList)))
    arguments

def printUser : Program := fun arguments session =>
  session.withArguments "id" ⟨"agGnruz", [("user", 'u'), ("group", 'g'), ("groups", 'G'), ("name", 'n')], false⟩ 1
    (fun found session =>
      if ['u', 'g', 'G'].any found.has then session.printLine (if found.has 'n' then "root".toList else ['0'])
      else session.printLine "uid=0(root) gid=0(root) groups=0(root)".toList) arguments

def sayingLine (line : String) : Program := fun _ session => (session.printLine line.toList).withStatus 0

def checkingFiles (program : String) : Program := fun arguments session =>
  session.withArguments program ⟨"cfhRv", [("recursive", 'R')], false⟩ 1 (fun found session =>
    session.forEach (found.operands.drop 1) fun path session =>
      match session.find path with
      | .ok _ => session
      | .error cause => session.refuseAct program "cannot access" path cause) arguments

/-! ## Other programs -/

/-- Runs a program in a session, or complains in the name of another one that this is not possible. -/
def delegate (interpreter : Interpreter) (program : String) (describe : Text → Text) (words : List Text)
    (session : Session) : Session :=
  match session.search (words.head?.getD []) with
  | .refused cause =>
    let status := if cause = .notFound ∨ cause = .notDirectory then 127 else 126
    session.complain program (describe (words.head?.getD []) ++ ':' :: ' ' :: cause.description) status
  | _ => interpreter.launch words session

/-- A word gives a variable a value. -/
def isSetting (word : Text) : Bool := word.contains '=' && word.head? != some '='

def printVariables : Program := fun arguments session =>
  session.withArguments "printenv" ⟨"0", [("null", '0')], true⟩ 2 (fun found session =>
    let lineEnd := if found.has '0' then '\x00' else '\n'
    if found.operands.isEmpty then
      session.print (session.environment.flatMap fun (name, value) => name ++ '=' :: value ++ [lineEnd])
    else
      session.forEach found.operands fun name session =>
        match session.environment.lookup name with
        | some value => session.print (value ++ [lineEnd])
        | none => session.withStatus 1) arguments

/-- Runs a program with other variables, or prints the variables. -/
def runSurrounded : Utility := fun interpreter arguments session =>
  let (isBare, arguments) := match arguments with
    | ['-'] :: rest => (true, rest)
    | arguments => (false, arguments)
  session.withArguments "env" ⟨"iu:0C:S:v", [("ignore-environment", 'i'), ("unset", 'u'), ("null", '0'), ("chdir", 'C'),
    ("split-string", 'S'), ("debug", 'v')], true⟩ 125
    (fun found session =>
      let operands := ((found.values 'S').flatMap fun t =>
        (Text.splitAtChar ' ' t).filter fun word => !word.isEmpty) ++ found.operands
      let (isBare, operands) := match operands with
        | ['-'] :: rest => (true, rest)
        | operands => (isBare || found.has 'i', operands)
      let (settings, words) := operands.span isSetting
      let kept := if isBare then session.bindings.filter fun entry => !entry.2.isExported else session.bindings
      let kept := kept.filter fun entry => !(found.values 'u').contains entry.1
      let bindings := settings.foldl (fun (bindings : List (Text × Binding)) setting =>
        let (name, value) := setting.span (· != '=')
        let binding : Binding := ⟨some (value.drop 1), true, false⟩
        if bindings.any fun entry => entry.1 == name then
          bindings.map fun entry => if entry.1 == name then (name, binding) else entry
        else bindings ++ [(name, binding)]) kept
      let place := session.tree.workingPlace
      let moved : Except OsError Session := match found.value? 'C' with
        | some path => do
          if session.hasDirectory path then
            return { session with tree := { session.tree with
              workingPlace := ← session.tree.follow (Text.ofPlain path) true } }
          else throw .notFound
        | none => .ok session
      match moved with
      | .error cause =>
        session.complain "env" ("cannot change directory to ".toList ++ quoted ((found.value? 'C').getD []) ++
          ':' :: ' ' :: cause.description) 125
      | .ok moved =>
        let hasPath := bindings.any fun entry => entry.1 == "PATH".toList
        let path : Text × Binding := ("PATH".toList, ⟨some "/bin:/usr/bin".toList, false, false⟩)
        let inner := { moved with bindings := if hasPath then bindings else path :: bindings }
        let after :=
          if words.isEmpty then
            inner.print (inner.environment.flatMap fun (name, value) =>
              name ++ '=' :: value ++ [if found.has '0' then '\x00' else '\n'])
          else delegate interpreter "env" quoted words inner
        { after with bindings := session.bindings, tree := { after.tree with workingPlace := place } }) arguments

def runAsIs (program : String) (letters : String) (status : Nat) : Utility := fun interpreter arguments session =>
  session.withArguments program ⟨letters, [("adjustment", 'n'), ("output", 'o'), ("input", 'i'), ("error", 'e')], true⟩
    status
    (fun found session =>
      if found.operands.isEmpty then
        if program = "nice" then session.printLine ['0']
        else (session.missOperand program).withStatus status
      else
        let describe (name : Text) : Text := "failed to run command ".toList ++ quoted name
        delegate interpreter program (if program = "nice" then quoted else describe) found.operands session) arguments

/-- Runs a program that may not take too long; only waiting takes time. -/
def runLimited : Utility := fun interpreter arguments session =>
  session.withArguments "timeout" ⟨"fk:ps:v", [("kill-after", 'k'), ("signal", 's'), ("foreground", 'f'),
    ("preserve-status", 'p'), ("verbose", 'v')], true⟩ 125
    (fun found session =>
      let hint (session : Session) : Session :=
        (session.write 2 "Try 'timeout --help' for more information.\n".toList).withStatus 125
      match found.operands with
      | [] | [_] => hint (session.complain "timeout" "missing operand".toList 125)
      | limit :: words =>
        match seconds? limit with
        | none => hint (session.complain "timeout" ("invalid time interval ".toList ++ quoted limit) 125)
        | some (num, den) =>
          let isLate : Bool := match words with
            | [name, time] =>
              lastName name == "sleep".toList && num != 0 &&
                (match seconds? time with
                | some (n, d) => n * den > num * d
                | none => false)
            | _ => false
          if isLate then session.withStatus (if (found.value? 's').any fun t =>
              t = "KILL".toList || t = ['9'] then 137 else 124)
          else
            delegate interpreter "timeout" (fun name => "failed to run command ".toList ++ quoted name) words session)
    arguments

/-! ## Words from the input -/

/-- The words of an input: blanks part them, and quotes and backslashes keep blanks. Each comes with whether its line
ends behind it. -/
def inputWords : (fuel : Nat) → (word : Option Text) → Text → Except Text (List (Text × Bool))
  | 0, _, _ => .ok []
  | _, word, [] => .ok (word.toList.map fun word => (word.reverse, true))
  | fuel + 1, word, c :: rest =>
    let grown (t : Text) : Option Text := some (t.reverse ++ word.getD [])
    match c with
    | '\n' =>
      match word with
      | some word => (inputWords fuel none rest).map fun words => (word.reverse, true) :: words
      | none => inputWords fuel none rest
    | '\\' =>
      match rest with
      | d :: rest => inputWords fuel (grown [d]) rest
      | [] => inputWords fuel word []
    | c =>
      if c = ' ' ∨ c = '\t' then
        match word with
        | some word => (inputWords fuel none rest).map fun words => (word.reverse, rest.head? == some '\n') :: words
        | none => inputWords fuel none rest
      else if c = '\'' ∨ c = '"' then
        let (inner, after) := rest.span fun d => d != c && d != '\n'
        if after.head? = some c then inputWords fuel (grown inner) (after.drop 1)
        else
          .error ("unmatched ".toList ++ (if c = '"' then "double" else "single").toList ++
            " quote; by default quotes are special to xargs unless you use the -0 option".toList)
      else inputWords fuel (grown [c]) rest

/-- Words in groups for one run each: at most so many words, or so many lines. -/
def grouped (words lines : Option Nat) : (fuel : Nat) → List (Text × Bool) → List (List Text)
  | 0, _ => []
  | _, [] => []
  | fuel + 1, all =>
    let size : Nat := match words, lines with
      | some n, _ => max 1 n
      | none, some n =>
        -- The words up to the end of the last line of the group.
        let (count, _, _) := all.foldl (fun ((count, left, isDone) : Nat × Nat × Bool) (_, isEnd) =>
          if isDone then (count, left, true)
          else if isEnd then (count + 1, left - 1, left ≤ 1)
          else (count + 1, left, false)) (0, n, false)
        max 1 count
      | none, none => all.length
    (all.take size).map (·.1) :: grouped words lines fuel (all.drop size)

/-- A word with every occurrence of a text replaced by another one; `fuel` bounds them. -/
def replacedIn (mark t : Text) : (fuel : Nat) → Text → Text
  | 0, word => word
  | fuel + 1, word =>
    match Text.cut? mark word with
    | some (front, rest) => if mark.isEmpty then word else front ++ t ++ replacedIn mark t fuel rest
    | none => word

/-- Runs a program with words from the input as arguments. -/
def runForWords : Utility := fun interpreter arguments session =>
  session.withArguments "xargs" ⟨"0a:d:E:I:L:n:oP:prs:tx", [("null", '0'), ("arg-file", 'a'), ("delimiter", 'd'),
    ("replace", 'I'), ("max-lines", 'L'), ("max-args", 'n'), ("max-procs", 'P'), ("no-run-if-empty", 'r'),
    ("verbose", 't'), ("max-chars", 's')], true⟩ 1
    (fun found session =>
      let (input, session) := match found.value? 'a' with
        | some path => (session.readFile path, session)
        | none => session.takeInput
      match input with
      | .error cause =>
        session.complain "xargs" ("Cannot open input file ".toList ++
          quoted ((found.value? 'a').getD []) ++ ':' :: ' ' :: cause.description) 1
      | .ok content =>
        let separator : Option Char :=
          if found.has '0' then some '\x00'
          else match found.value? 'd' with
            | some ['\\', 'n'] => some '\n'
            | some ['\\', 't'] => some '\t'
            | some ['\\', '0'] => some '\x00'
            | some (c :: _) => some c
            | _ => none
        let pieces (c : Char) : List Text :=
          let pieces := Text.splitAtChar c content
          if pieces.getLast? = some [] then pieces.dropLast else pieces
        let words : Except Text (List (Text × Bool)) :=
          match separator, found.has 'I' with
          | some c, _ => .ok ((pieces c).map fun word => (word, true))
          | none, true => do
            let lines ← ((pieces '\n').map behindBlanks).mapM fun line =>
              -- Blanks part no words here.
              let kept := line.flatMap fun c => if c = ' ' ∨ c = '\t' then ['\\', c] else [c]
              (inputWords (2 * kept.length + 2) none kept).map fun words => words.flatMap (·.1)
            return (lines.filter fun line => !line.isEmpty).map fun line => (line, true)
          | none, false => inputWords (content.length + 2) none content
        match words with
        | .error complaint => session.complain "xargs" complaint 1
        | .ok words =>
          let words := match found.value? 'E' with
            | some mark => words.takeWhile fun word => word.1 != mark
            | none => words
          let number (letter : Char) : Option Nat := (found.value? letter).bind digitsValue?
          let command := if found.operands.isEmpty then ["echo".toList] else found.operands
          let runs : List (List Text) :=
            match found.value? 'I' with
            | some mark =>
              words.map fun (word, _) => command.map fun part => replacedIn mark word (part.length + 1) part
            | none =>
              let groups := grouped (number 'n') (number 'L') (words.length + 1) words
              if words.isEmpty then (if found.has 'r' then [] else [command])
              else groups.map fun group => command ++ group
          -- A run sees nothing of the input.
          let start := session.openStream 0 .nowhere
          let (after, code, _) := runs.foldl (fun ((session, code, isStopped) : Session × Nat × Bool) words =>
            if isStopped then (session, code, true)
            else
              let session := if found.has 't' then session.write 2 (Text.joined [' '] words ++ ['\n']) else session
              let name := words.head?.getD []
              match session.search name with
              | .refused cause =>
                let status := if cause = .notFound ∨ cause = .notDirectory then 127 else 126
                (session.complain "xargs" (Session.fileFailure name cause) status, status, true)
              | _ =>
                let session := interpreter.launch words session
                if session.status = 255 then
                  (session.complain "xargs" (name ++ ": exited with status 255; aborting".toList) 124, 124, true)
                else if session.status > 128 then
                  (session.complain "xargs" (name ++ ": terminated by signal ".toList ++
                    Text.ofNat (session.status - 128)) 125, 125, true)
                else (session, if session.status = 0 then code else 123, false)) (start, 0, false)
          (after.withStreamsOf session).withStatus code) arguments

end LogDiagram.Shell
