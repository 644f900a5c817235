import LogDiagram.Shell.Launch
import LogDiagram.Shell.Listing
import LogDiagram.Shell.Search

/-!
# Finding files

A program that goes through directories and everything in them, in order of the names, and evaluates an expression for
each file: tests, and actions that are taken if the tests before them hold.

* `FindExpression.read` reads an expression;
* `findFiles` is the program.
-/

namespace LogDiagram.Shell

/-- A file on the way: what is listed, the path that the way started with, and how deep it lies. -/
structure Visited where
  listed : Listed
  start : Text
  depth : Nat

/-- What is known on the way. -/
structure FindState where
  session : Session
  /-- The directory is not gone into. -/
  isPruned : Bool
  /-- The way ends. -/
  isOver : Bool
  hasFailed : Bool
  /-- The paths for commands that are run once for many, by the place of the action; the last path first. -/
  batches : List (Nat × List Text)

inductive FindAction where
  | print (ending : Text)
  | printFormat (format : Text)
  | list
  | delete
  | prune
  | quit
  /-- Runs a command, with the path in the place of braces. -/
  | run (words : List Text)
  /-- Runs a command in the directory of the file, with its name there in the place of braces. -/
  | runInside (words : List Text)
  /-- Runs a command once with all paths. -/
  | runAll (index : Nat) (words : List Text)

/-- What is evaluated for each file. -/
inductive FindExpression where
  | test (holds : Session → Visited → Bool)
  | action (action : FindAction)
  | both (first second : FindExpression)
  | either (first second : FindExpression)
  /-- Both, but only the second one counts. -/
  | list (first second : FindExpression)
  | negation (inner : FindExpression)

/-- What holds for the whole way. -/
structure FindOptions where
  leastDepth : Nat
  greatestDepth : Option Nat
  /-- Directories come behind what is in them. -/
  isDepthFirst : Bool
  followsLinks : Bool
  isExtended : Bool

namespace FindAction

/-- The words of a command, with a path in the place of braces. -/
def filledWords (path : Text) (words : List Text) : List Text :=
  words.map fun word => Text.joined path (splitAtBraces [] word)
where
  /-- The pieces of a word between braces. -/
  splitAtBraces (done : Text) : Text → List Text
    | '\x7b' :: '\x7d' :: rest => done.reverse :: splitAtBraces [] rest
    | c :: rest => splitAtBraces (c :: done) rest
    | [] => [done.reverse]

def runWords (interpreter : Interpreter) (words : List Text) (state : FindState) : Bool × FindState :=
  match words with
  | [] => (false, state)
  | name :: _ =>
    match state.session.search name with
    | .refused cause =>
      let complaint := quoted name ++ ':' :: ' ' :: cause.description
      (false, { state with session := (state.session.complain "find" complaint 1).withStatus 0 })
    | _ =>
      let session := interpreter.launch words state.session
      (session.status == 0, { state with session := session.withStatus 0 })

def item (session : Session) (visited : Visited) (letter : Char) : Text :=
  let listed := visited.listed
  match letter with
  | 'p' => listed.name
  | 'f' => lastName listed.name
  | 'h' =>
    let bare := withoutEndSlashes listed.name
    if bare.contains '/' then bare.take (bare.length - (lastName bare).length - 1) else ['.']
  | 'P' => (listed.name.drop visited.start.length).dropWhile (· == '/')
  | 'H' => visited.start
  | 'd' => Text.ofNat visited.depth
  | 'y' => [match listed.kind with
    | .link _ => 'l'
    | .directory => 'd'
    | .device => 'c'
    | .file => 'f']
  | 'l' => (match listed.kind with
    | .link target => Text.toPlain target
    | _ => [])
  | 'm' => Nat.toDigits 8 (listed.rights session)
  | 'M' => listed.rightLetters session
  | 'k' => Text.ofNat (listed.blocks session)
  | 'n' => Text.ofNat (listed.linkCount session)
  | 'u' | 'g' => "root".toList
  | letter => listed.item session letter

/-- A format with what it asks for; `fuel` bounds its pieces. -/
def filledFormat (session : Session) (visited : Visited) : (fuel : Nat) → Text → Text
  | 0, _ => []
  | _, [] => []
  | fuel + 1, c :: rest =>
    match c, rest with
    | '%', '%' :: rest => '%' :: filledFormat session visited fuel rest
    | '%', rest =>
      let (flags, rest) := rest.span fun c => c == '-' || c == '0'
      let (width, rest) := rest.span Char.isDigit
      match rest with
      | letter :: rest =>
        filled (flags.contains '-') ((digitsValue? width).getD 0) (item session visited letter) ++
          filledFormat session visited fuel rest
      | [] => ['%']
    | '\\', d :: rest =>
      let after := filledFormat session visited fuel rest
      match d with
      | 'n' => '\n' :: after
      | 't' => '\t' :: after
      | '0' => '\x00' :: after
      | '\\' => '\\' :: after
      | d => '\\' :: d :: after
    | c, rest => c :: filledFormat session visited fuel rest

/-- Takes an action, and tells whether it was a success. -/
def take (interpreter : Interpreter) (visited : Visited) (state : FindState) : FindAction → Bool × FindState
  | print ending => (true, { state with session := state.session.print (visited.listed.name ++ ending) })
  | printFormat format =>
    (true, { state with
      session := state.session.print (filledFormat state.session visited (format.length + 1) format) })
  | list =>
    let line := Text.joined [' '] (Listed.longLines ⟨[('s', [])], []⟩ state.session [visited.listed])
    (true, { state with session := state.session.print (line ++ ['\n']) })
  | delete =>
    if lastName visited.listed.name = ['.'] then (true, state)
    else if visited.listed.kind == .directory && !(state.session.tree.children visited.listed.place).isEmpty then
      let complaint := "cannot delete ".toList ++ quoted visited.listed.name ++ ": Directory not empty".toList
      (false, { state with session := state.session.complain "find" complaint 1, hasFailed := true })
    else
      let tree := state.session.tree.withoutBranch visited.listed.place
      (true, { state with session := state.session.withTree tree })
  | prune => (true, { state with isPruned := true })
  | quit => (true, { state with isOver := true })
  | run words => runWords interpreter (filledWords visited.listed.name words) state
  | runInside words =>
    let name := lastName visited.listed.name
    let place := state.session.tree.workingPlace
    let moved (workingPlace : Place) (state : FindState) : FindState :=
      { state with session := state.session.withTree { state.session.tree with workingPlace } }
    let inside := if name = ['.'] then visited.listed.place else visited.listed.place.tail
    let (isSuccess, state) := runWords interpreter (filledWords ('.' :: '/' :: name) words) (moved inside state)
    (isSuccess, moved place state)
  | runAll index _ =>
    let before := (state.batches.lookup index).getD []
    let batches := (index, visited.listed.name :: before) :: state.batches.filter fun entry => entry.1 != index
    (true, { state with batches })

end FindAction

namespace FindExpression

/-! ## Evaluation -/

def evaluate (interpreter : Interpreter) (visited : Visited) : FindExpression → FindState → Bool × FindState
  | test holds, state => (holds state.session visited, state)
  | action taken, state => if state.isOver then (false, state) else taken.take interpreter visited state
  | both first second, state =>
    let (value, state) := evaluate interpreter visited first state
    if value then evaluate interpreter visited second state else (false, state)
  | either first second, state =>
    let (value, state) := evaluate interpreter visited first state
    if value then (true, state) else evaluate interpreter visited second state
  | list first second, state =>
    let (_, state) := evaluate interpreter visited first state
    evaluate interpreter visited second state
  | negation inner, state =>
    let (value, state) := evaluate interpreter visited inner state
    (!value, state)

/-- An expression has an action that stands in the place of printing. -/
def acts : FindExpression → Bool
  | test _ => false
  | action .prune => false
  | action _ => true
  | both first second | either first second | list first second => acts first || acts second
  | negation inner => acts inner

/-- The commands that are run once for many paths, each with its place. -/
def batched : FindExpression → List (Nat × List Text)
  | action (.runAll index words) => [(index, words)]
  | test _ | action _ => []
  | both first second | either first second | list first second => batched first ++ batched second
  | negation inner => batched inner

/-! ## Reading -/

/-- The pattern for names that a text writes. -/
def globOf (t : Text) : Glob :=
  let rec fixed : Text → Text
    | '[' :: '^' :: rest => '[' :: '!' :: fixed rest
    | c :: rest => c :: fixed rest
    | [] => []
  Glob.ofField ((fixed t).map fun c => (c, false))

def pathExpression (isExtended : Bool) (t : Text) : Except Text Expression :=
  let rec turned : Text → Text
    | '\\' :: c :: rest => if ['(', ')', '|'].contains c then c :: turned rest else '\\' :: c :: turned rest
    | c :: rest => if "(|)\x7b\x7d".toList.contains c then '\\' :: c :: turned rest else c :: turned rest
    | [] => []
  Expression.read ⟨true, false⟩ (if isExtended then t else turned t)

/-- A comparison with a number: above it, below it, or equal. -/
def comparison? (t : Text) : Option ((Nat → Bool) × Text) :=
  let read (t : Text) : Option (Nat × Text) :=
    let (digits, rest) := t.span Char.isDigit
    (digitsValue? digits).map fun n => (n, rest)
  match t with
  | '+' :: rest => (read rest).map fun (n, rest) => ((fun m => decide (m > n)), rest)
  | '-' :: rest => (read rest).map fun (n, rest) => ((fun m => decide (m < n)), rest)
  | t => (read t).map fun (n, rest) => ((fun m => m == n), rest)

/-- A test of a size, with a unit behind the number; a size counts whole units, rounded up. -/
def sizeTest? (t : Text) : Option FindExpression :=
  match comparison? t with
  | none => none
  | some (compare, unit) =>
    let size? : Option Nat := match unit with
      | [] | ['b'] => some 512
      | ['c'] => some 1
      | ['w'] => some 2
      | ['k'] => some 1024
      | ['M'] => some (1024 * 1024)
      | ['G'] => some (1024 * 1024 * 1024)
      | _ => none
    size?.map fun size => .test fun session visited => compare ((visited.listed.size session + size - 1) / size)

/-- A test of the rights: all those given, some of them, or exactly them. -/
def rightsTest? (t : Text) : Option FindExpression :=
  let (mark, digits) : Char × Text := match t with
    | '-' :: rest => ('-', rest)
    | '/' :: rest => ('/', rest)
    | t => ('=', t)
  if digits.isEmpty || !digits.all fun c => '0' ≤ c && c ≤ '7' then none
  else
    let wanted := digits.foldl (fun n c => n * 8 + (c.toNat - '0'.toNat)) 0
    some (.test fun session visited =>
      let rights := visited.listed.rights session
      match mark with
      | '-' => rights &&& wanted == wanted
      | '/' => wanted == 0 || rights &&& wanted != 0
      | _ => rights == wanted)

def kindLetter : EntryKind → Char
  | .link _ => 'l'
  | .directory => 'd'
  | .device => 'c'
  | .file => 'f'

def holdsNothing (session : Session) (visited : Visited) : Bool :=
  match visited.listed.kind with
  | .file => visited.listed.size session == 0
  | .directory => (session.tree.children visited.listed.place).isEmpty
  | _ => false

def argumentTest (session : Session) (options : FindOptions) (name : String) (t : Text) :
    Except Text FindExpression :=
  let number (name : String) : Except Text FindExpression :=
    throw ("invalid argument \x60".toList ++ t ++ "' to \x60".toList ++ name.toList ++ ['\''])
  let ofName (form : Visited → Text) (isLoose : Bool) : FindExpression :=
    let fixed (t : Text) : Text := if isLoose then Text.asciiLower t else t
    .test fun _ visited => (globOf (fixed t)).fits (fixed (form visited))
  let ofPath (isLoose : Bool) : Except Text FindExpression := do
    let expression ← pathExpression options.isExtended t
    let mode : MatchMode := ⟨isLoose, false⟩
    return .test fun _ visited =>
      let path := visited.listed.name
      (Expression.findAt? mode path expression (fun first last => first == 0 && last == path.length) none 0 path).isSome
  let ofAge (unit : Nat) : Except Text FindExpression :=
    match comparison? t with
    | some (compare, []) => .ok (.test fun _ _ => unit != 0 && compare 0)
    | _ => number name
  match name with
  | "-name" => .ok (ofName (fun visited => lastName visited.listed.name) false)
  | "-iname" => .ok (ofName (fun visited => lastName visited.listed.name) true)
  | "-path" | "-wholename" => .ok (ofName (fun visited => visited.listed.name) false)
  | "-ipath" | "-iwholename" => .ok (ofName (fun visited => visited.listed.name) true)
  | "-regex" => ofPath false
  | "-iregex" => ofPath true
  | "-type" | "-xtype" =>
    let letters := (Text.splitAtChar ',' t).flatten
    match letters.find? fun c => !"bcdpflsD".toList.contains c with
    | some c => .error ("Unknown argument to ".toList ++ name.toList ++ [':', ' ', c])
    | none => .ok (.test fun _ visited => letters.contains (kindLetter visited.listed.kind))
  | "-size" =>
    match sizeTest? t with
    | some found => .ok found
    | none => .error ("invalid -size type \x60".toList ++ t.drop (t.length - 1) ++ ['\''])
  | "-perm" =>
    match rightsTest? t with
    | some found => .ok found
    | none => .error ("invalid mode ".toList ++ quoted t)
  | "-mtime" | "-atime" | "-ctime" => ofAge 86400
  | "-mmin" | "-amin" | "-cmin" => ofAge 60
  | "-newer" | "-anewer" | "-cnewer" =>
    match session.tree.follow (Text.ofPlain t) true, session.find t with
    | .ok place, .ok _ =>
      let age := Listed.age session ⟨t, place, .file⟩
      .ok (.test fun session visited => visited.listed.age session < age)
    | .error cause, _ | _, .error cause => .error (quoted t ++ ':' :: ' ' :: cause.description)
  | "-links" =>
    match comparison? t with
    | some (compare, []) => .ok (.test fun session visited => compare (visited.listed.linkCount session))
    | _ => number name
  | "-user" | "-group" | "-uid" | "-gid" =>
    .ok (.test fun _ _ => t == "root".toList || t == ['0'])
  | _ =>
    match session.tree.follow (Text.ofPlain t) true with
    | .ok place => .ok (.test fun _ visited => visited.listed.place == place)
    | .error cause => .error (quoted t ++ ':' :: ' ' :: cause.description)

def argumentTests : List String := ["-name", "-iname", "-path", "-wholename", "-ipath", "-iwholename", "-regex",
  "-iregex", "-type", "-xtype", "-size", "-perm", "-mtime", "-atime", "-ctime", "-mmin", "-amin", "-cmin", "-newer",
  "-anewer", "-cnewer", "-links", "-user", "-group", "-uid", "-gid", "-samefile"]

/-- Something read from words, and the words behind it. -/
abbrev Part := Except Text (FindExpression × FindOptions × List Text)

/-- The value of an option that holds for the whole way. -/
def depthOption (name : String) (t : Text) : Except Text Nat :=
  match digitsValue? t with
  | some n => .ok n
  | none => .error ("Expected a positive decimal integer argument to ".toList ++ name.toList ++ ", but got ".toList ++
      quoted t)

mutual

def readList (session : Session) (fuel : Nat) (options : FindOptions) (words : List Text) : Part :=
  match fuel with
  | 0 => .error "too many arguments".toList
  | fuel + 1 => do
    let (first, options, rest) ← readEither session fuel options words
    match rest with
    | [','] :: rest =>
      let (second, options, rest) ← readList session fuel options rest
      return (.list first second, options, rest)
    | rest => return (first, options, rest)

def readEither (session : Session) (fuel : Nat) (options : FindOptions) (words : List Text) : Part :=
  match fuel with
  | 0 => .error "too many arguments".toList
  | fuel + 1 => do
    let (first, options, rest) ← readBoth session fuel options words
    match rest with
    | word :: rest' =>
      if word = "-o".toList ∨ word = "-or".toList then
        if rest'.isEmpty then throw ("expected an expression after ".toList ++ quoted word)
        let (second, options, rest) ← readEither session fuel options rest'
        return (.either first second, options, rest)
      else return (first, options, rest)
    | [] => return (first, options, [])

def readBoth (session : Session) (fuel : Nat) (options : FindOptions) (words : List Text) : Part :=
  match fuel with
  | 0 => .error "too many arguments".toList
  | fuel + 1 => do
    let (first, options, rest) ← readSingle session fuel options words
    match rest with
    | [] => return (first, options, [])
    | word :: rest' =>
      if [[')'], [','], "-o".toList, "-or".toList].contains word then return (first, options, rest)
      else if word = "-a".toList ∨ word = "-and".toList then
        if rest'.isEmpty then throw ("expected an expression after ".toList ++ quoted word)
        let (second, options, rest) ← readBoth session fuel options rest'
        return (.both first second, options, rest)
      else
        let (second, options, rest) ← readBoth session fuel options rest
        return (.both first second, options, rest)

/-- One test, one action, or an expression in parentheses. -/
def readSingle (session : Session) (fuel : Nat) (options : FindOptions) (words : List Text) : Part :=
  match fuel with
  | 0 => .error "too many arguments".toList
  | fuel + 1 =>
    let truth : FindExpression := .test fun _ _ => true
    match words with
    | [] => .error "expected an expression".toList
    | word :: rest =>
      let name := String.ofList word
      let missing : Part := .error ("missing argument to \x60".toList ++ word ++ ['\''])
      match name with
      | "!" | "-not" => do
        let (inner, options, rest) ← readSingle session fuel options rest
        return (.negation inner, options, rest)
      | "(" => do
        if rest.isEmpty then
          throw ("invalid expression; expected to find a ')' but didn't see one. " ++
            "Perhaps you need an extra predicate after '('").toList
        let (inner, options, rest) ← readList session fuel options rest
        match rest with
        | [')'] :: rest => return (inner, options, rest)
        | _ => throw "invalid expression; I was expecting to find a ')' somewhere but did not see one.".toList
      | ")" => .error "invalid expression; you have too many ')'".toList
      | "-true" => .ok (truth, options, rest)
      | "-false" => .ok (.test (fun _ _ => false), options, rest)
      | "-empty" => .ok (.test holdsNothing, options, rest)
      | "-executable" =>
        .ok (.test (fun session visited =>
          visited.listed.kind == .directory || session.isExecutable visited.listed.name), options, rest)
      | "-readable" | "-writable" => .ok (truth, options, rest)
      | "-print" => .ok (.action (.print ['\n']), options, rest)
      | "-print0" => .ok (.action (.print ['\x00']), options, rest)
      | "-ls" => .ok (.action .list, options, rest)
      | "-prune" => .ok (.action .prune, options, rest)
      | "-quit" => .ok (.action .quit, options, rest)
      | "-delete" => .ok (.action .delete, { options with isDepthFirst := true }, rest)
      | "-depth" | "-d" => .ok (truth, { options with isDepthFirst := true }, rest)
      | "-follow" => .ok (truth, { options with followsLinks := true }, rest)
      | "-xdev" | "-mount" | "-daystart" | "-noleaf" | "-warn" | "-nowarn" | "-ignore_readdir_race" =>
        .ok (truth, options, rest)
      | "-maxdepth" | "-mindepth" | "-printf" | "-regextype" =>
        match rest with
        | [] => missing
        | value :: rest =>
          if name = "-printf" then .ok (.action (.printFormat value), options, rest)
          else if name = "-regextype" then
            .ok (truth, { options with isExtended := value != "emacs".toList && value != "findutils-default".toList }, rest)
          else do
            let depth ← depthOption name value
            return (truth, if name = "-maxdepth" then { options with greatestDepth := some depth }
              else { options with leastDepth := depth }, rest)
      | "-exec" | "-execdir" | "-ok" =>
        let name := String.ofList word
        let (command, after) := rest.span fun word => word != [';']
        let (batch, behind) := rest.span fun word => word != ['+']
        if batch.length < command.length && batch.getLast? = some "\x7b\x7d".toList && !behind.isEmpty then
          .ok (.action (.runAll rest.length batch.dropLast), options, behind.drop 1)
        else if command.isEmpty || after.isEmpty then missing
        else .ok (.action (if name = "-execdir" then .runInside command else .run command), options, after.drop 1)
      | name =>
        if argumentTests.contains name then
          match rest with
          | [] => missing
          | value :: rest => do return (← argumentTest session options name value, options, rest)
        else if word.head? = some '-' then .error ("unknown predicate \x60".toList ++ word ++ ['\''])
        else .error ("paths must precede expression: \x60".toList ++ word ++ ['\''])

end

end FindExpression

/-! ## The way -/

/-- Something that is found at a path; links are followed if that is asked for. -/
def visitedAt (session : Session) (followsLinks : Bool) (path : Text) : Except OsError Listed := do
  let (place, kind) ← session.entry path
  match kind, session.find path with
  | .link _, .ok node =>
    if followsLinks then
      return ⟨path, ← session.tree.follow (Text.ofPlain path) true, match node with
        | .directory => .directory
        | .device => .device
        | .file _ => .file⟩
    else return ⟨path, place, kind⟩
  | kind, _ => return ⟨path, place, kind⟩

/-- Goes through everything at and below a path; `fuel` bounds how deep it lies. -/
def visit (interpreter : Interpreter) (options : FindOptions) (expression : FindExpression) (start : Text) :
    (fuel depth : Nat) → (path : Text) → FindState → FindState
  | 0, _, _, state => state
  | fuel + 1, depth, path, state =>
    if state.isOver then state
    else
      match visitedAt state.session options.followsLinks path with
      | .error cause =>
        let complaint := quoted path ++ ':' :: ' ' :: cause.description
        { state with session := state.session.complain "find" complaint 1, hasFailed := true }
      | .ok listed =>
        let evaluate (state : FindState) : FindState :=
          if depth < options.leastDepth then state
          else (expression.evaluate interpreter ⟨listed, start, depth⟩ { state with isPruned := false }).2
        let goInto (state : FindState) : FindState :=
          if listed.kind == .directory && !options.greatestDepth.any fun greatest => depth ≥ greatest then
            (state.session.namesIn listed.place).foldl (fun state name =>
              visit interpreter options expression start fuel (depth + 1) (pathIn path name) state) state
          else state
        if options.isDepthFirst then evaluate (goInto state)
        else
          let state := evaluate { state with isPruned := false }
          if state.isPruned then { state with isPruned := false }
          else if listed.kind == .directory && !state.session.hasDirectory path then
            if options.greatestDepth.any fun greatest => depth ≥ greatest then state
            else
              let complaint := quoted path ++ ": No such file or directory".toList
              { state with session := state.session.complain "find" complaint 1, hasFailed := true }
          else goInto state

/-- Finds files below paths, and does with them what an expression says. -/
def findFiles : Utility := fun interpreter arguments session =>
  let (modes, arguments) := arguments.span fun t => ["-H".toList, "-L".toList, "-P".toList].contains t
  let isStart (t : Text) : Bool := !(t.head? == some '-' && t.length > 1) && !([['('], [')'], ['!'], [',']].contains t)
  let (paths, words) := arguments.span isStart
  let options : FindOptions := ⟨0, none, false, modes.getLast? = some "-L".toList, false⟩
  let session := session.withStatus 0
  let parsed : FindExpression.Part :=
    if words.isEmpty then .ok (.test (fun _ _ => true), options, [])
    else FindExpression.readList session (4 * words.length + 8) options words
  match parsed with
  | .error complaint => session.complain "find" complaint 1
  | .ok (_, _, word :: _) =>
    session.complain "find" (if word = [')'] then "invalid expression; you have too many ')'".toList
      else "paths must precede expression: \x60".toList ++ word ++ ['\'']) 1
  | .ok (expression, options, []) =>
    let expression := if expression.acts then expression else .both expression (.action (.print ['\n']))
    let state : FindState := ⟨session, false, false, false, []⟩
    let state := (if paths.isEmpty then [['.']] else paths).foldl (fun state path =>
      visit interpreter options expression path 64 0 path state) state
    let state := expression.batched.foldl (fun state (index, words) =>
      match state.batches.lookup index with
      | none => state
      | some found =>
        let (isDone, state) := FindAction.runWords interpreter (words ++ found.reverse) state
        if isDone then state else { state with hasFailed := true }) state
    state.session.withStatus (if state.hasFailed then 1 else 0)

end LogDiagram.Shell
