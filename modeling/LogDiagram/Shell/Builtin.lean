import LogDiagram.Shell.Condition
import LogDiagram.Shell.Pattern
import LogDiagram.Shell.Printing
import LogDiagram.Shell.Signal

/-!
# Commands of the shell itself

Commands that change the shell that runs them, or that it has of its own. A special one that is used wrongly is the end
of the shell.

* `plainBuiltins` are those that need nothing but a session, and `specialNames` those that are special.
-/

namespace LogDiagram.Shell

/-- The names of the commands whose failure ends the shell and whose assignments stay. -/
def specialNames : List String :=
  [".", ":", "break", "continue", "eval", "exec", "exit", "export", "local", "readonly", "return", "set", "shift",
    "times", "trap", "unset"]

def reservedWords : List String :=
  ["!", "\x7b", "\x7d", "case", "do", "done", "elif", "else", "esac", "fi", "for", "if", "in", "then", "until", "while"]

def isSpecialName (name : Text) : Bool := specialNames.any fun known => known.toList == name

def scriptQuoted (t : Text) : Text :=
  '\'' :: t.flatMap (fun c => if c = '\'' then "'\"'\"'".toList else [c]) ++ ['\'']

namespace Session

def complainAs (session : Session) (name : String) (complaint : Text) (status : Nat) : Session :=
  session.complainAlone (name.toList ++ ':' :: ' ' :: complaint) status

def failAs (session : Session) (name : String) (complaint : Text) : Session :=
  session.fail (name.toList ++ ':' :: ' ' :: complaint)

/-- A command goes on with a number that an argument writes. -/
def withNumber (session : Session) (name : String) (t : Text) (body : Nat → Session) : Session :=
  match digitsValue? t with
  | some n => if n < Nat.pow 2 31 then body n else session.failAs name ("Illegal number: ".toList ++ t)
  | none => session.failAs name ("Illegal number: ".toList ++ t)

end Session

/-! ## The flow of commands -/

/-- Ends the shell with an exit code, by default with that of the last command. -/
def exitShell : Program := fun arguments session =>
  match arguments with
  | [] => session.exit session.status
  | t :: _ => session.withNumber "exit" t session.exit

/-- Ends a function with an exit code, by default with that of the last command. -/
def returnFrom : Program := fun arguments session =>
  let leave (status : Nat) : Session := { session with status := status % 256, flow := .returning }
  match arguments with
  | [] => leave session.status
  | t :: _ => session.withNumber "return" t leave

/-- Leaves loops, or goes on with the next round of one. -/
def leaveLoops (name : String) (flow : Nat → Flow) : Program := fun arguments session =>
  let leave (n : Nat) : Session :=
    if session.loops = 0 then session.withStatus 0
    else { session with status := 0, flow := flow (min n session.loops) }
  match arguments with
  | [] => leave 1
  | t :: _ => session.withNumber name t fun n =>
      if n = 0 then session.failAs name ("Illegal number: ".toList ++ t) else leave n

/-! ## Directories -/

/-- The path of the working directory as it was gone to. -/
def workingPath (session : Session) : Text :=
  let physical := Session.pathOf session.tree.workingPlace
  match session.textOf? "PWD".toList with
  | some path =>
    match path.head?, session.tree.follow path.ofPlain true with
    | some '/', .ok place => if place = session.tree.workingPlace then path else physical
    | _, _ => physical
  | none => physical

/-- A path without dots, joined to the one of the working directory. -/
def tidyPath (current path : Text) : Text :=
  let names := Path.names (if Path.isAbsolute path then path else current ++ '/' :: path)
  let done := names.foldl (fun done name =>
    if name = ['.'] then done else if name = ['.', '.'] then done.tail else name :: done) ([] : List Text)
  if done.isEmpty then ['/'] else done.reverse.flatMap fun name => '/' :: name

/-- Goes to another directory, by default to the one of the user. -/
def changeDirectory : Program := fun arguments session =>
  match Arguments.read ⟨"LPe", [], true⟩ arguments with
  | .error complaint => session.complainAs "cd" complaint 2
  | .ok ⟨options, operands⟩ =>
    let valueOf (name : String) : Text := (session.textOf? name.toList).getD []
    let isBack := operands.head? == some ['-']
    let path := if isBack then valueOf "OLDPWD" else operands.head?.getD (valueOf "HOME")
    let isNear := path.head? == some '/' || path == ['.'] || path == ['.', '.'] || ['.', '/'].isPrefixOf path ||
      ['.', '.', '/'].isPrefixOf path
    let candidates := if isNear then []
      else (Text.splitAtChar ':' (valueOf "CDPATH")).filter fun directory => !directory.isEmpty
    let found := candidates.findSome? fun directory =>
      let candidate := directory ++ '/' :: path
      if session.hasDirectory candidate then some candidate else none
    let isElsewhere := found.isSome
    let path := if isElsewhere then found.getD path else path
    let current := workingPath session
    let isPhysical := (options.map (·.1)).getLast? == some 'P'
    let target := if isPhysical then path else tidyPath current path
    match session.tree.follow (Text.ofPlain target) true, session.hasDirectory target with
    | .ok place, true =>
      let session := { session with tree := { session.tree with workingPlace := place } }
      let session := (session.assignExported "OLDPWD".toList current).assignExported "PWD".toList
        (if isPhysical then Session.pathOf place else target)
      (if isBack || isElsewhere then session.printLine target else session).withStatus 0
    | _, _ => session.complainAs "cd" ("can't cd to ".toList ++ operands.head?.getD path) 2

def printWorkingDirectory : Program := fun arguments session =>
  let isPhysical := (arguments.filter fun t => t == ['-', 'P'] || t == ['-', 'L']).getLast? == some ['-', 'P']
  (session.printLine (if isPhysical then Session.pathOf session.tree.workingPlace else workingPath session)).withStatus 0

/-! ## Variables -/

/-- Variables with a property, in order of their names. -/
def sortedBindings (session : Session) (isWanted : Binding → Bool) : List (Text × Binding) :=
  (session.bindings.filter fun entry => isWanted entry.2).mergeSort fun a b => Text.isUpTo a.1 b.1

/-- Prints variables as the script that makes them. -/
def printBindings (front : Text) (bindings : List (Text × Binding)) (session : Session) : Session :=
  bindings.foldl (fun session (name, binding) =>
    match binding.value with
    | some value => session.printLine (front ++ name ++ '=' :: scriptQuoted value)
    | none => if front.isEmpty then session else session.printLine (front ++ name)) session

/-- Marks variables; those with an equals sign behind their name get a value. -/
def markVariables (name : String) (isWanted : Binding → Bool) (mark : Binding → Binding) : Program :=
  fun arguments session =>
    let session := session.withStatus 0
    match arguments with
    | [] | [['-', 'p']] => printBindings (name.toList ++ [' ']) (sortedBindings session isWanted) session
    | _ =>
      let arguments := if arguments.head? = some ['-', '-'] then arguments.tail else arguments
      session.forEach arguments fun t session =>
        if !session.isRunning then session
        else
          let (target, value) := t.span (· != '=')
          if !isName target then session.failAs name (target ++ ": bad variable name".toList)
          else
            let session := match value with
              | _ :: value => session.assign target value
              | [] => session
            if !session.isRunning then session
            else session.setBinding target (some (mark ((session.binding? target).getD ⟨none, false, false⟩)))

/-- Takes the values from variables, or the meanings from names of functions. -/
def unset : Program := fun arguments session =>
  match Arguments.read ⟨"fv", [], true⟩ arguments with
  | .error complaint => session.failAs "unset" complaint
  | .ok found =>
    (session.withStatus 0).forEach found.operands fun name session =>
      if !session.isRunning then session
      else if found.lastOf? ['f', 'v'] = some 'f' then
        { session with functions := session.functions.filter fun entry => entry.1 != name }
      else if !isName name then session.failAs "unset" (name ++ ": bad variable name".toList)
      else if (session.binding? name).any (·.isFixed) then session.failAs "unset" (name ++ ": is read only".toList)
      else session.setBinding name none

/-- Makes variables a function's own: they are as before when it ends. -/
def keepVariables : Program := fun arguments session =>
  (session.withStatus 0).forEach arguments fun t session =>
    match session.saved with
    | [] => if session.isRunning then session.failAs "local" "not in a function".toList else session
    | frame :: others =>
      let (name, value) := t.span (· != '=')
      if !session.isRunning then session
      else if name = ['-'] then session
      else if !isName name then session.failAs "local" (name ++ ": bad variable name".toList)
      else
        let frame := if frame.any (·.1 == name) then frame else (name, session.binding? name) :: frame
        let session := { session with saved := frame :: others }
        match value with
        | _ :: value => session.assign name value
        | [] => session

/-! ## Options and arguments -/

def shellOptions : List (String × Char) := [
  ("errexit", 'e'), ("noglob", 'f'), ("ignoreeof", 'I'), ("interactive", 'i'), ("monitor", 'm'), ("noexec", 'n'),
  ("stdin", 's'), ("xtrace", 'x'), ("verbose", 'v'), ("vi", 'V'), ("emacs", 'E'), ("noclobber", 'C'),
  ("allexport", 'a'), ("notify", 'b'), ("nounset", 'u'), ("nolog", 'L'), ("debug", 'D'), ("privileged", 'p')]

/-- What a shell is told by options in front of its arguments. -/
structure ShellOptions where
  letters : List Char
  /-- A script follows. -/
  hasScript : Bool
  /-- The arguments behind the options; none if there are no options that end them. -/
  rest : List Text
  /-- The options were ended by dashes. -/
  isEnded : Bool

namespace ShellOptions

def turn (letter : Char) (isOn : Bool) (options : ShellOptions) : ShellOptions :=
  let others := options.letters.filter (· != letter)
  { options with letters := if isOn then letter :: others else others }

def readLetters (isOn isStart : Bool) : Text → ShellOptions → Except Text ShellOptions
  | [], options => .ok options
  | c :: more, options =>
    let sign := if isOn then '-' else '+'
    if c = 'c' && isStart then readLetters isOn isStart more { options with hasScript := true }
    else if c = 'o' then
      match options.rest with
      | [] => readLetters isOn isStart more options
      | name :: rest =>
        match shellOptions.find? fun entry => entry.1.toList == name with
        | some (_, letter) => readLetters isOn isStart more (({ options with rest }).turn letter isOn)
        | none => .error ("Illegal option ".toList ++ sign :: 'o' :: ' ' :: name)
    else if shellOptions.any fun entry => entry.2 == c && c != 'L' && c != 'D' then
      readLetters isOn isStart more (options.turn c isOn)
    else .error ("Illegal option ".toList ++ [sign, c])

/-- The options in front of arguments; `fuel` bounds them. -/
def read (isStart : Bool) : (fuel : Nat) → ShellOptions → Except Text ShellOptions
  | 0, options => .ok options
  | fuel + 1, options =>
    match options.rest with
    | ['-'] :: rest =>
      let options := if isStart then options else (options.turn 'x' false).turn 'v' false
      .ok { options with rest, isEnded := !rest.isEmpty }
    | ['-', '-'] :: rest => .ok { options with rest, isEnded := true }
    | ('-' :: more) :: rest => do read isStart fuel (← readLetters true isStart more { options with rest })
    | ('+' :: more) :: rest => do read isStart fuel (← readLetters false isStart more { options with rest })
    | _ => .ok options

def ofArguments (isStart : Bool) (letters : List Char) (arguments : List Text) : Except Text ShellOptions :=
  read isStart (arguments.length + 1) ⟨letters, false, arguments, false⟩

end ShellOptions

/-- Turns options on and off and replaces the arguments of the shell, or prints its variables. -/
def setOptions : Program := fun arguments session =>
  let session := session.withStatus 0
  match arguments with
  | [] => printBindings [] (sortedBindings session fun _ => true) session
  | [['-', 'o']] =>
    shellOptions.foldl (fun session (name, letter) =>
      session.printLine (filled true 16 name.toList ++ (if session.hasOption letter then "on" else "off").toList))
      (session.printLine "Current option settings".toList)
  | _ =>
    match ShellOptions.ofArguments false session.options arguments with
    | .error complaint => session.failAs "set" complaint
    | .ok options =>
      let session := { session with options := options.letters }
      if options.rest.isEmpty && !options.isEnded then session
      else { session with arguments := options.rest, optionPosition := 0 }

/-- Takes away the first arguments of the shell. -/
def shift : Program := fun arguments session =>
  let take (n : Nat) : Session :=
    if n > session.arguments.length then session.failAs "shift" "can't shift that many".toList
    else ({ session with arguments := session.arguments.drop n, optionPosition := 0 }).withStatus 0
  match arguments with
  | [] => take 1
  | t :: _ => session.withNumber "shift" t take

/-- Sets a variable without any side effect. -/
def Session.setValue (session : Session) (name : String) (value : Option Text) : Session :=
  let binding := (session.binding? name.toList).getD ⟨none, false, false⟩
  session.setBinding name.toList (some { binding with value })

/-- Reads the next option of the arguments of the shell, or of those that are given. -/
def readOption : Program := fun arguments session =>
  match arguments with
  | letters :: target :: given =>
    let arguments := if given.isEmpty then session.arguments else given
    let index := ((session.textOf? "OPTIND".toList).bind digitsValue?).getD 1
    let position := session.optionPosition
    let current := if position = 0 ∨ index ≤ 1 then [] else ((arguments[index - 2]?).getD []).drop position
    let isQuiet := letters.head? == some ':'
    let conclude (session : Session) (found : Char) (index position : Nat) (status : Nat) : Session :=
      let session := (session.setValue "OPTIND" (some (Text.ofNat index))).assign target [found]
      if session.isRunning then { session with optionPosition := position, status } else session
    let use (letter : Char) (more : Text) (index position : Nat) : Session :=
      let goOn := if more.isEmpty then 0 else position
      match Grammar.kind? (Grammar.ofLetters (String.ofList letters)) letter with
      | none =>
        if isQuiet then conclude (session.setValue "OPTARG" (some [letter])) '?' index goOn 0
        else
          let session := session.write 2 ("Illegal option -".toList ++ [letter, '\n'])
          conclude (session.setValue "OPTARG" none) '?' index goOn 0
      | some (false, _) => conclude (session.setValue "OPTARG" (some [])) letter index goOn 0
      | some (true, _) =>
        if !more.isEmpty then conclude (session.setValue "OPTARG" (some more)) letter index 0 0
        else
          match arguments[index - 1]? with
          | some value => conclude (session.setValue "OPTARG" (some value)) letter (index + 1) 0 0
          | none =>
            if isQuiet then conclude (session.setValue "OPTARG" (some [letter])) ':' index 0 0
            else
              let session := session.write 2 ("No arg for -".toList ++ letter :: " option\n".toList)
              conclude (session.setValue "OPTARG" none) '?' index 0 0
    match current with
    | letter :: more => use letter more index (position + 1)
    | [] =>
      match arguments[index - 1]? with
      | some ['-', '-'] => conclude session '?' (index + 1) 0 1
      | some ('-' :: letter :: more) => use letter more (index + 1) 2
      | _ => conclude session '?' index 0 1
  | _ => session.complainAs "getopts" "usage: getopts optstring var [arg]".toList 2

/-! ## Reading lines -/

/-- A line in front of a text: its characters, each with whether it is fixed, and what follows if the line has an end. -/
def takeLine (isRaw : Bool) : (done : Field) → Text → Field × Option Text
  | done, [] => (done.reverse, none)
  | done, '\n' :: rest => (done.reverse, some rest)
  | done, '\\' :: c :: rest =>
    if isRaw then takeLine isRaw (('\\', true) :: done) (c :: rest)
    else if c = '\n' then takeLine isRaw done rest
    else takeLine isRaw ((c, true) :: done) rest
  | done, c :: rest => takeLine isRaw ((c, c == '\\') :: done) rest
termination_by _ t => t.length

/-- A character that parts fields of a line. -/
def isSeparator (separators : Text) (c : Char × Bool) : Bool := !c.2 && separators.contains c.1

/-- A character that parts fields of a line and is a blank. -/
def isBlankSeparator (separators : Text) (c : Char × Bool) : Bool :=
  isSeparator separators c && (c.1 == ' ' || c.1 == '\t' || c.1 == '\n')

def withoutBlanks (separators : Text) (field : Field) : Field :=
  (field.reverse.dropWhile (isBlankSeparator separators)).reverse

/-- What is left of a line for its last variable: a single separator at its end is none of it. -/
def lastField (separators : Text) (field : Field) : Field :=
  let bare := withoutBlanks separators field
  match bare.reverse with
  | c :: front =>
    if isSeparator separators c && !front.any (isSeparator separators) then withoutBlanks separators front.reverse
    else bare
  | [] => []

def lineFields (separators : Text) : (count : Nat) → Field → List Field
  | 0, _ => []
  | 1, field => [lastField separators field]
  | count + 1, field =>
    let (front, rest) := field.span fun c => !isSeparator separators c
    let rest := rest.dropWhile (isBlankSeparator separators)
    let rest := match rest with
      | c :: after => if isSeparator separators c then after.dropWhile (isBlankSeparator separators) else rest
      | [] => []
    front :: lineFields separators count rest

def readLineInto : Program := fun arguments session =>
  match Arguments.read ⟨"rp:", [], true⟩ arguments with
  | .error complaint => session.complainAs "read" complaint 2
  | .ok found =>
    let session := match found.value? 'p' with
      | some prompt => session.write 2 prompt
      | none => session
    if found.operands.isEmpty then session.complainAs "read" "arg count".toList 2
    else
      match found.operands.find? fun name => !isName name with
      | some name => session.complainAs "read" (name ++ ": bad variable name".toList) 2
      | none =>
        match session.rest 0 with
        | .error _ => session.complainAs "read" "read error: Is a directory".toList 2
        | .ok input =>
          let (line, rest) := takeLine (found.has 'r') [] (input.filter (· != '\x00'))
          let session := session.withRest 0 (rest.getD [])
          let separators := session.separators
          let line := line.dropWhile (isBlankSeparator separators)
          let values := lineFields separators found.operands.length line
          let session := (found.operands.zip values).foldl (fun session (name, value) =>
            if session.isRunning then session.assign name value.text else session) session
          if session.isRunning then session.withStatus (if rest.isSome then 0 else 1) else session

/-! ## Processes -/

/-- What is done on signals is set or shown. -/
def setTraps : Program := fun arguments session =>
  let set (action : Option Text) (names : List Text) : Session :=
    names.foldl (fun session t =>
      match trapName? t with
      | some name =>
        let others := session.traps.filter fun entry => entry.1 != name
        { session with traps := match action with
          | some action => (name, action) :: others
          | none => others }
      | none => (session.write 2 ("trap: ".toList ++ t ++ ": bad trap\n".toList)).withStatus 1) (session.withStatus 0)
  let arguments := if arguments.head? = some ['-', '-'] then arguments.tail else arguments
  match arguments with
  | [] =>
    (endName :: signals.map (·.1.toList)).foldl (fun session name =>
      match session.trap? name with
      | some action => session.printLine ("trap -- ".toList ++ scriptQuoted action ++ ' ' :: name)
      | none => session) (session.withStatus 0)
  | [name] => set none [name]
  | ['-'] :: names => set none names
  | action :: names =>
    if (digitsValue? action).isSome then set none (action :: names) else set (some action) names

/-- Sends a signal to processes, of which only the shell itself is known. -/
def sendSignal : Program := fun arguments session =>
  let send (signal : Text) (processes : List Text) : Session :=
    match if signal = ['0'] then some ([], 0) else signal? signal with
    | none => session.complainAs "kill" ("invalid signal number or name: ".toList ++ signal) 2
    | some (name, number) =>
      processes.foldl (fun session process =>
        if (digitsValue? process).isNone && process.head? != some '-' && process.head? != some '%' then
          session.complainAs "kill" ("Illegal number: ".toList ++ process) 2
        else if process = Text.ofNat session.process then session.receive name number
        else session.complainAs "kill" "No such process\n".toList 1) (session.withStatus 0)
  match arguments with
  | ['-', 'l'] :: _ => (signals.foldl (fun session entry => session.printLine entry.1.toList) session).withStatus 0
  | ['-', 's'] :: signal :: rest => send signal rest
  | ['-', '-'] :: rest => send "TERM".toList rest
  | ('-' :: signal) :: rest => send signal rest
  | [] => session.complainAs "kill" "Usage: kill [-s sigspec | -signum | -sigspec] [pid | job]...".toList 2
  | _ => send "TERM".toList arguments

/-- Waits for commands in the background, all of which have ended, and ends as the last one that is named. -/
def waitFor : Program := fun arguments session =>
  session.withStatus (match arguments.getLast? with
    | some t => ((digitsValue? t).bind fun n => session.jobs.lookup n).getD 127
    | none => 0)

/-! ## Tables -/

/-- A program that ends with the given code and does nothing else. -/
def ending (status : Nat) : Program := fun _ session => session.withStatus status

def saying (t : String) : Program := fun _ session => (session.print t.toList).withStatus 0

/-- Prints which rights new files lack. -/
def printMask : Program := fun arguments session =>
  match arguments with
  | [] => saying "0022\n" [] session
  | ['-', 'S'] :: _ => saying "u=rwx,g=rx,o=rx\n" [] session
  | _ => session.withStatus 0

/-- The commands of the shell that need nothing but a session. -/
def plainBuiltins : List (String × Program) := [
  (":", ending 0), ("[", bracket), ("alias", ending 0), ("bg", ending 2), ("break", leaveLoops "break" .leaving),
  ("cd", changeDirectory), ("chdir", changeDirectory), ("continue", leaveLoops "continue" .continuing), ("echo", echo),
  ("exit", exitShell), ("export", markVariables "export" (·.isExported) fun b => { b with isExported := true }),
  ("false", ending 1), ("fg", ending 2), ("getopts", readOption), ("hash", ending 0), ("jobs", ending 0),
  ("kill", sendSignal), ("local", keepVariables), ("printf", printf), ("pwd", printWorkingDirectory),
  ("read", readLineInto), ("readonly", markVariables "readonly" (·.isFixed) fun b => { b with isFixed := true }),
  ("return", returnFrom), ("set", setOptions), ("shift", shift), ("test", test),
  ("times", saying "0m0.000000s 0m0.000000s\n0m0.000000s 0m0.000000s\n"), ("trap", setTraps), ("true", ending 0),
  ("ulimit", saying "unlimited\n"), ("umask", printMask), ("unalias", ending 0), ("unset", unset), ("wait", waitFor)]

/-- The names of the commands that need to run others. -/
def runningNames : List String := [".", "command", "eval", "exec", "type"]

def isBuiltinName (name : Text) : Bool :=
  (plainBuiltins.any fun entry => entry.1.toList == name) || runningNames.any fun known => known.toList == name

def programOf? (programs : List (String × Program)) (name : Text) : Option Program :=
  (programs.find? fun entry => entry.1.toList == name).map (·.2)

end LogDiagram.Shell
