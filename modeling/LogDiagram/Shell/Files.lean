import LogDiagram.Shell.Arguments

/-!
# Programs that change files

Programs that make, copy, move, link and remove files and directories. A program that cannot do its work for one of its
arguments goes on with the others and fails in the end.
-/

namespace LogDiagram.Shell

/-! ## Paths and what they name -/

/-- What a path names if a link at its end is not followed. -/
inductive EntryKind where
  | link (target : Path)
  | file
  | directory
  | device
  deriving DecidableEq, Repr

/-- The last name on a path; a path of slashes is its own name. -/
def lastName (path : Text) : Text :=
  match (Path.names path).getLast? with
  | some name => name
  | none => path.take 1

def withoutEndSlashes (path : Text) : Text :=
  let bare := (path.reverse.dropWhile (· == '/')).reverse
  if bare.isEmpty then path.take 1 else bare

def pathIn (directory name : Text) : Text :=
  if directory.getLast? = some '/' then directory ++ name else directory ++ '/' :: name

namespace Session

/-- The place of what a path names if a link at its end is not followed. -/
def entryPlace (session : Session) (path : Text) : Except OsError Place := session.tree.follow path.ofPlain false

/-- What a path names if a link at its end is not followed. -/
def entry (session : Session) (path : Text) : Except OsError (Place × EntryKind) := do
  let place ← session.entryPlace path
  match session.tree.node? place, session.tree.linkAt? place with
  | none, none => throw .notFound
  | _, some target => return (place, .link target)
  | some .directory, none => return (place, .directory)
  | some node, none =>
    if Path.hasEndSlash path then throw .notDirectory
    return (place, if node = .device then .device else .file)

def withTree (session : Session) (tree : FileTree) : Session := { session with tree }

/-- The session in which everything at one place is at another one, open files included. -/
def moveBranch (session : Session) (source target : Place) : Session :=
  let tree := (session.tree.withoutBranch target).withBranch source target
  let channels := session.channels.map fun (number, channel) =>
    match channel with
    | .file place position isAppending =>
      if source.isSuffixOf place then (number, Channel.file (FileTree.movedPlace source target place) position isAppending)
      else (number, channel)
    | channel => (number, channel)
  { session with tree := tree.withoutBranch source, channels }

def namesIn (session : Session) (place : Place) : List Text :=
  ((session.tree.children place).map Text.toPlain).mergeSort Text.isUpTo

/-- A program asks a question, and gets no answer but what the input says. -/
def ask (session : Session) (program : String) (question : Text) : Bool × Session :=
  let session := session.write 2 (program.toList ++ ": ".toList ++ question ++ "? ".toList)
  match session.rest 0 with
  | .ok input =>
    let (line, rest) := input.span (· != '\n')
    (line.head? == some 'y' || line.head? == some 'Y', session.withRest 0 (rest.drop 1))
  | .error _ => (false, session)

end Session

/-! ## Making files and directories -/

/-- Makes files that are not there, and marks those that are as changed just now. -/
def touch : Program := fun arguments session =>
  session.withArguments "touch" ⟨"acd:fhmr:t:", [("no-create", 'c'), ("date", 'd'), ("reference", 'r')], false⟩ 1
    (fun found session =>
      if found.operands.isEmpty then
        (session.complain "touch" "missing file operand".toList 1).write 2
          "Try 'touch --help' for more information.\n".toList
      else
        session.forEach found.operands fun path session =>
          match session.find path, session.tree.follow path.ofPlain true with
          | .ok node, .ok place => session.withTree (session.tree.set place node)
          | .error .notDirectory, .ok _ =>
            session.complain "touch" ("setting times of ".toList ++ quoted path ++ ": Not a directory".toList) 1
          | .error .notFound, _ =>
            if found.has 'c' then session
            else
              match session.outputPlace path false with
              | .ok (_, session) => session
              | .error cause => session.refuseAct "touch" "cannot touch" path cause
          | .error cause, _ | _, .error cause => session.refuseAct "touch" "cannot touch" path cause) arguments

def makeDirectoryAt (session : Session) (path : Text) : Except OsError Session := do
  let place ← session.entryPlace (withoutEndSlashes path)
  if (session.tree.node? place).isSome || Path.endsInDots path then throw .exists
  match session.tree.node? place.tail with
  | some .directory => return session.withTree (session.tree.set place .directory)
  | some _ => throw .notDirectory
  | none => throw .notFound

/-- The paths on the way to a path, the shortest one first. -/
def pathsTo (path : Text) : List Text :=
  let front : Text := if Path.isAbsolute path then ['/'] else []
  let (paths, _) := (Path.names path).foldl (fun (paths, last) name =>
    let next := if last.isEmpty ∨ last = ['/'] then last ++ name else last ++ '/' :: name
    (next :: paths, next)) (([] : List Text), front)
  paths.reverse

def makeDirectories : Program := fun arguments session =>
  session.withArguments "mkdir" ⟨"m:pvZ", [("parents", 'p'), ("verbose", 'v'), ("mode", 'm')], false⟩ 1
    (fun found session =>
      let make (path : Text) (session : Session) : Session :=
        match makeDirectoryAt session path with
        | .ok session =>
          if found.has 'v' then session.printLine ("mkdir: created directory ".toList ++ quoted path) else session
        | .error cause => session.refuseAct "mkdir" "cannot create directory" path cause
      if found.operands.isEmpty then session.missOperand "mkdir"
      else
        session.forEach found.operands fun path session =>
          if found.has 'p' then
            let (session, _) := (pathsTo path).foldl (fun ((session, isStopped) : Session × Bool) path =>
              if isStopped || session.hasDirectory path then (session, isStopped)
              else
                match session.find path with
                | .ok _ => (session.refuseAct "mkdir" "cannot create directory" path .notDirectory, true)
                | .error _ => (make path session, false)) (session, false)
            session
          else make path session) arguments

def removeDirectoryAt (session : Session) (path : Text) : Except OsError Session := do
  match ← session.entry path with
  | (place, .directory) =>
    if !(session.tree.children place).isEmpty then throw .notEmpty
    return session.withTree (session.tree.withoutBranch place)
  | _ => throw .notDirectory

def removeDirectories : Program := fun arguments session =>
  session.withArguments "rmdir" ⟨"pv", [("parents", 'p'), ("verbose", 'v'), ("ignore-fail-on-non-empty", 'p')], false⟩ 1
    (fun found session =>
      let drop (path : Text) (session : Session) : Session :=
        let session := if found.has 'v' then session.printLine ("rmdir: removing directory, ".toList ++ quoted path)
          else session
        match removeDirectoryAt session path with
        | .ok session => session
        | .error cause => session.refuseAct "rmdir" "failed to remove" path cause
      if found.operands.isEmpty then session.missOperand "rmdir"
      else
        session.forEach found.operands fun path session =>
          if found.has 'p' then session.forEach (pathsTo path).reverse drop else drop path session) arguments

/-- Makes files and directories with names that are not in use. -/
def makeTemporary : Program := fun arguments session =>
  session.withArguments "mktemp" ⟨"dqutp::", [("directory", 'd'), ("quiet", 'q'), ("dry-run", 'u'), ("tmpdir", 'p')],
    false⟩ 1
    (fun found session =>
      let template := found.operands.head?.getD "tmp.XXXXXXXXXX".toList
      let isBelow := found.operands.isEmpty || found.has 'p' || found.has 't'
      let directory := ((found.value? 'p').filter fun t => !t.isEmpty).getD "/tmp".toList
      let marks := template.reverse.takeWhile (· == 'X')
      if marks.length < 3 then
        session.complain "mktemp" ("too few X's in template ".toList ++ quoted template) 1
      else
        let front := template.take (template.length - marks.length)
        let name (n : Nat) : Text :=
          let digits := Text.ofNat n
          let path := front ++ List.replicate (marks.length - digits.length) 'a' ++ digits
          if isBelow then pathIn directory path else path
        match (List.range 1000).find? fun n => (session.find (name n)).toOption.isNone with
        | none => session.complain "mktemp" "no name is free".toList 1
        | some n =>
          let made : Except OsError Session :=
            if found.has 'u' then .ok session
            else if found.has 'd' then makeDirectoryAt session (name n)
            else (session.outputPlace (name n) false).map (·.2)
          match made with
          | .ok session => session.printLine (name n)
          | .error cause => session.complain "mktemp" ("failed to create file via template ".toList ++ quoted template ++
              ':' :: ' ' :: cause.description) 1) arguments

/-! ## Removing -/

/-- Removes files, and directories with everything in them if that is asked for. -/
def remove : Program := fun arguments session =>
  session.withArguments "rm" ⟨"dfiIrRv", [("force", 'f'), ("recursive", 'r'), ("verbose", 'v'), ("dir", 'd'),
    ("interactive", 'i')], false⟩ 1
    (fun found session =>
      let isForced := found.lastOf? ['f', 'i'] == some 'f'
      let isDeep := found.has 'r' || found.has 'R'
      let asks := found.lastOf? ['f', 'i'] == some 'i'
      let drop (path : Text) (place : Place) (kind : EntryKind) (session : Session) : Session :=
        let (agrees, session) :=
          if asks then
            session.ask "rm" ((if kind = .directory then "remove directory " else "remove regular file ").toList ++
              quoted path)
          else (true, session)
        if !agrees then session
        else
          let session := session.withTree (session.tree.withoutBranch place)
          if found.has 'v' then
            session.printLine ((if kind = .directory then "removed directory " else "removed ").toList ++ quoted path)
          else session
      if found.operands.isEmpty then if isForced then session else session.missOperand "rm"
      else
        session.forEach found.operands fun path session =>
          match session.entry path with
          | .error cause =>
            if isForced && (cause = .notFound ∨ cause = .notDirectory) then session
            else session.refuseAct "rm" "cannot remove" path cause
          | .ok (place, .directory) =>
            if isDeep then
              if Path.endsInDots path then
                session.complain "rm" ("refusing to remove '.' or '..' directory: skipping ".toList ++ quoted path) 1
              else drop path place .directory session
            else if found.has 'd' then
              if (session.tree.children place).isEmpty then drop path place .directory session
              else session.refuseAct "rm" "cannot remove" path .notEmpty
            else session.refuseAct "rm" "cannot remove" path .isDirectory
          | .ok (place, kind) =>
            if Path.hasEndSlash path then session.refuseAct "rm" "cannot remove" path .notDirectory
            else drop path place kind session) arguments

def unlinkFile : Program := fun arguments session =>
  match arguments with
  | [path] =>
    match session.entry path with
    | .ok (_, .directory) => session.refuseAct "unlink" "cannot unlink" path .isDirectory
    | .ok (place, _) => (session.withTree (session.tree.withoutBranch place)).withStatus 0
    | .error cause => session.refuseAct "unlink" "cannot unlink" path cause
  | _ => session.missOperand "unlink"

/-! ## Copies -/

/-- Where something is taken to: its place, and what is there already. -/
structure Destination where
  path : Text
  place : Place
  /-- What is there; links are followed. -/
  node : Option Node

/-- What a path of a destination leads to; the directory around it has to be there. -/
def Destination.ofPath (session : Session) (path : Text) : Except OsError Destination := do
  let place ← session.tree.follow path.ofPlain true
  let node := session.tree.node? place
  if node.isNone then
    match session.tree.node? place.tail with
    | some .directory => pure ()
    | some _ => throw .notDirectory
    | none => throw .notFound
  if Path.hasEndSlash path ∧ node ≠ some .directory then throw .notDirectory
  return ⟨path, place, node⟩

/-- What a program does that takes sources to a target. -/
structure Transfer where
  program : String
  /-- Takes one source to one path. -/
  act : (source target : Text) → Session → Session

/-- A program with paths of which the last one is the target, which has to be a directory if there are several. -/
def Transfer.run (transfer : Transfer) (found : Arguments) (session : Session) : Session :=
  let hint (complaint : Text) : Session :=
    (session.complain transfer.program complaint 1).write 2
      ("Try '".toList ++ transfer.program.toList ++ " --help' for more information.\n".toList)
  let into (directory : Text) (sources : List Text) : Session :=
    session.forEach sources fun source session =>
      let name := lastName source
      transfer.act source (if name = ['.'] ∨ name = ['.', '.'] then pathIn directory name
        else pathIn directory name) session
  match found.value? 't', found.operands.reverse with
  | some directory, operands =>
    if session.hasDirectory directory then into directory operands.reverse
    else session.complain transfer.program ("target directory ".toList ++ quoted directory ++
      ": No such file or directory".toList) 1
  | none, [] => hint "missing file operand".toList
  | none, [source] => hint ("missing destination file operand after ".toList ++ quoted source)
  | none, [target, source] =>
    if session.hasDirectory target && !found.has 'T' then into target [source] else transfer.act source target session
  | none, target :: sources =>
    if session.hasDirectory target then into target sources.reverse
    else
      let cause := match session.find target with
        | .ok _ => OsError.notDirectory
        | .error cause => cause
      session.complain transfer.program ("target ".toList ++ quoted target ++ ':' :: ' ' :: cause.description) 1

/-- The path of the copy that is kept of a file that is replaced. -/
def backupPath (path : Text) : Text := path ++ ['~']

/-- A copy of what is at a path is kept if that is asked for. -/
def keepBackup (found : Arguments) (path : Text) (session : Session) : Session :=
  match found.has 'b', session.entryPlace path, session.entryPlace (backupPath path) with
  | true, .ok place, .ok target =>
    if (session.tree.node? place).isSome then session.moveBranch place target else session
  | _, _, _ => session

def leavesFile (found : Arguments) (program : String) (path : Text) (isThere : Bool) (session : Session) :
    Bool × Session :=
  if !isThere then (false, session)
  else
    match found.lastOf? ['f', 'i', 'n'] with
    | some 'n' => (true, session)
    | some 'i' =>
      let (agrees, session) := session.ask program ("overwrite ".toList ++ quoted path)
      (!agrees, session)
    | _ => (false, session)

/-- Copies one file or directory. -/
def copyOne (found : Arguments) (source target : Text) (session : Session) : Session :=
  let isDeep := ['r', 'R', 'a'].any found.has
  let keepsLinks := ['r', 'R', 'a', 'd', 'P'].any found.has && !found.has 'L'
  let refuse (complaint : Text) (session : Session) : Session := session.complain "cp" complaint 1
  let say (session : Session) : Session :=
    if found.has 'v' then session.printLine (quoted source ++ " -> ".toList ++ quoted target) else session
  let quotedBoth : Text := quoted source ++ " and ".toList ++ quoted target
  let readEntry : Except OsError (Place × EntryKind) := do
    match ← session.entry source with
    | (place, .link link) =>
      if keepsLinks then return (place, .link link)
      let node ← session.find source
      return (← session.tree.follow source.ofPlain true, match node with
        | .directory => .directory
        | .device => .device
        | .file _ => .file)
    | other => return other
  match readEntry with
  | .error cause => session.refuseAct "cp" "cannot stat" source cause
  | .ok (sourcePlace, kind) =>
    let isLoose := match session.entry target with
      | .ok (_, .link _) => (session.find target).toOption.isNone
      | _ => false
    match Destination.ofPath session target with
    | .error cause =>
      let what := if kind = .directory then "cannot create directory" else "cannot create regular file"
      session.refuseAct "cp" what target cause
    | .ok destination =>
      let (isLeft, session) := leavesFile found "cp" target (destination.node.isSome && kind != .directory) session
      if isLeft then session
      else
        match kind, destination.node with
        | .directory, node =>
          if !isDeep then refuse ("-r not specified; omitting directory ".toList ++ quoted source) session
          else if node.any (· != .directory) then
            refuse ("cannot overwrite non-directory ".toList ++ quoted target ++ " with directory ".toList ++
              quoted source) session
          else if sourcePlace = destination.place then refuse (quotedBoth ++ " are the same file".toList) session
          else if sourcePlace.isSuffixOf destination.place then
            let copied := session.tree.withBranch sourcePlace destination.place
            let inner := (FileTree.movedPlace sourcePlace destination.place destination.place)
            refuse ("cannot copy a directory, ".toList ++ quoted source ++ ", into itself, ".toList ++ quoted target)
              (session.withTree ((copied.withoutBranch inner).set destination.place .directory))
          else say (session.withTree (session.tree.withBranch sourcePlace destination.place))
        | _, some .directory =>
          refuse ("cannot overwrite directory ".toList ++ quoted target ++ " with non-directory".toList) session
        | kind, _ =>
          if sourcePlace = destination.place then refuse (quotedBoth ++ " are the same file".toList) session
          else if isLoose then
            refuse ("not writing through dangling symlink ".toList ++ quoted target) session
          else
            let session := keepBackup found target session
            match kind with
            | .link link => say (session.withTree (session.tree.makeLink destination.place link))
            | _ =>
              match session.readFile source with
              | .error cause => session.refuseAct "cp" "error reading" source cause
              | .ok content =>
                let isNew := (session.tree.node? destination.place).isNone
                match session.writeFile target content false with
                | .error cause => session.refuseAct "cp" "cannot create regular file" target cause
                | .ok session =>
                  say (if isNew then
                    session.withTree (session.tree.setExecutable destination.place
                      (session.tree.isExecutable sourcePlace))
                    else session)

/-- Copies files, and directories with everything in them if that is asked for. -/
def copyFiles : Program := fun arguments session =>
  session.withArguments "cp" ⟨"abdfHilLnPpRrst:Tuvx", [("recursive", 'r'), ("archive", 'a'), ("force", 'f'),
    ("verbose", 'v'), ("no-clobber", 'n'), ("target-directory", 't'), ("no-target-directory", 'T'),
    ("no-dereference", 'P'), ("dereference", 'L'), ("interactive", 'i'), ("backup", 'b'), ("update", 'u')], false⟩ 1
    (fun found session => Transfer.run ⟨"cp", copyOne found⟩ found session) arguments

/-- Moves one file or directory. -/
def moveOne (found : Arguments) (source target : Text) (session : Session) : Session :=
  let refuse (complaint : Text) : Session := session.complain "mv" complaint 1
  match session.entry source with
  | .error cause => session.refuseAct "mv" "cannot stat" source cause
  | .ok (sourcePlace, kind) =>
    let place := session.entryPlace (if kind = .directory then withoutEndSlashes target else target)
    let destination : Except OsError Place := do
      let place ← place
      match session.tree.node? place.tail with
      | some .directory =>
        if Path.hasEndSlash target ∧ kind ≠ .directory ∧ !session.hasDirectory target then throw .notDirectory
        return place
      | some _ => throw .notDirectory
      | none => throw .notFound
    match destination with
    | .error cause =>
      refuse ("cannot move ".toList ++ quoted source ++ " to ".toList ++ quoted target ++ ':' :: ' ' ::
        cause.description)
    | .ok place =>
      let node := session.tree.node? place
      let isDirectory := node == some .directory && (session.tree.linkAt? place).isNone
      if sourcePlace = place then
        refuse (quoted source ++ " and ".toList ++ quoted target ++ " are the same file".toList)
      else if kind = .directory && sourcePlace.isSuffixOf place then
        refuse ("cannot move ".toList ++ quoted source ++ " to a subdirectory of itself, ".toList ++ quoted target)
      else if kind = .directory && node.isSome && !isDirectory then
        refuse ("cannot overwrite non-directory ".toList ++ quoted target ++ " with directory ".toList ++ quoted source)
      else if kind != .directory && isDirectory then
        refuse ("cannot overwrite directory ".toList ++ quoted target ++ " with non-directory".toList)
      else if isDirectory && !(session.tree.children place).isEmpty then
        refuse ("cannot overwrite ".toList ++ quoted target ++ ": Directory not empty".toList)
      else
        let (isLeft, session) := leavesFile found "mv" target node.isSome session
        if isLeft then session
        else
          let session := (keepBackup found target session).moveBranch sourcePlace place
          if found.has 'v' then session.printLine ("renamed ".toList ++ quoted source ++ " -> ".toList ++ quoted target)
          else session

/-- Gives files and directories other paths. -/
def moveFiles : Program := fun arguments session =>
  session.withArguments "mv" ⟨"bfint:Tuv", [("force", 'f'), ("verbose", 'v'), ("no-clobber", 'n'),
    ("target-directory", 't'), ("no-target-directory", 'T'), ("interactive", 'i'), ("backup", 'b'), ("update", 'u')],
    false⟩ 1
    (fun found session => Transfer.run ⟨"mv", moveOne found⟩ found session) arguments

/-- Copies files that may be run afterwards, or makes directories. -/
def installFiles : Program := fun arguments session =>
  session.withArguments "install" ⟨"cdDm:o:g:t:Tv", [("directory", 'd'), ("mode", 'm'), ("target-directory", 't')],
    false⟩ 1
    (fun found session =>
      if found.has 'd' then makeDirectories (['-', 'p'] :: found.operands) session
      else
        let act (source target : Text) (session : Session) : Session :=
          let session := if found.has 'D' then
              makeDirectories [['-', 'p'], (Path.parent? target).getD ['.']] session
            else session
          let session := copyOne ⟨[], []⟩ source target session
          match session.tree.follow target.ofPlain true with
          | .ok place =>
            let isRunnable := match found.value? 'm' with
              | some mode => mode.any fun c => c == '1' || c == '3' || c == '5' || c == '7' || c == 'x'
              | none => true
            session.withTree (session.tree.setExecutable place isRunnable)
          | .error _ => session
        Transfer.run ⟨"install", act⟩ found session) arguments

/-! ## Links -/

def linkOne (found : Arguments) (source target : Text) (session : Session) : Session :=
  let isSoft := found.has 's'
  let kind := if isSoft then "failed to create symbolic link" else "failed to create hard link"
  let destination : Except OsError Place := do
    let place ← session.entryPlace target
    match session.tree.node? place.tail with
    | some .directory => return place
    | some _ => throw .notDirectory
    | none => throw .notFound
  match if isSoft then .ok ([], .file) else session.entry source with
  | .error cause => session.refuseAct "ln" "failed to access" source cause
  | .ok (_, .directory) => session.complain "ln" (source ++ ": hard link not allowed for directory".toList) 1
  | .ok (sourcePlace, sourceKind) =>
    match destination with
    | .error cause => session.refuseAct "ln" kind target cause
    | .ok place =>
      let isThere := (session.tree.node? place).isSome || (session.tree.linkAt? place).isSome
      if isThere && !found.has 'f' then session.refuseAct "ln" kind target .exists
      else if isThere && session.tree.node? place == some .directory && (session.tree.linkAt? place).isNone then
        session.complain "ln" (target ++ ": cannot overwrite directory".toList) 1
      else
        let tree := session.tree.withoutBranch place
        let tree := match isSoft, sourceKind with
          | true, _ => tree.makeLink place source.ofPlain
          | false, .link link => tree.makeLink place link
          | false, _ =>
            match session.tree.node? sourcePlace with
            | some node => (tree.set place node).setExecutable place (session.tree.isExecutable sourcePlace)
            | none => tree
        let session := session.withTree tree
        if found.has 'v' then
          session.printLine (quoted target ++ (if isSoft then " -> " else " => ").toList ++ quoted source)
        else session

def makeLinks : Program := fun arguments session =>
  session.withArguments "ln" ⟨"bfinrst:TvLP", [("symbolic", 's'), ("force", 'f'), ("no-dereference", 'n'),
    ("verbose", 'v'), ("target-directory", 't'), ("no-target-directory", 'T'), ("relative", 'r')], false⟩ 1
    (fun found session =>
      let hasLinkTarget := match found.operands.getLast? with
        | some target => found.has 'n' && (session.tree.linkAtPath? target.ofPlain).isSome
        | none => false
      match found.operands, found.value? 't' with
      | [source], none => linkOne found source (pathIn ['.'] (lastName source)) session
      | [source, target], none =>
        if hasLinkTarget then linkOne found source target session
        else Transfer.run ⟨"ln", linkOne found⟩ found session
      | [], _ =>
        (session.complain "ln" "missing file operand".toList 1).write 2 "Try 'ln --help' for more information.\n".toList
      | _, _ => Transfer.run ⟨"ln", linkOne found⟩ found session) arguments

/-- Makes a second path of a file. -/
def linkFile : Program := fun arguments session =>
  match arguments with
  | [source, target] => linkOne ⟨[], []⟩ source target (session.withStatus 0)
  | _ => session.missOperand "link"

/-- The absolute path that a path leads to; `isLoose` allows that nothing stands at its end. -/
def realPath (session : Session) (isLoose : Bool) (path : Text) : Except OsError Text := do
  let place ← session.tree.follow path.ofPlain true
  match session.tree.node? place, session.tree.node? place.tail with
  | some _, _ => return Session.pathOf place
  | none, some .directory => if isLoose then return Session.pathOf place else throw .notFound
  | none, some _ => throw .notDirectory
  | none, none => throw .notFound

def printLinks : Program := fun arguments session =>
  session.withArguments "readlink" ⟨"femnqsvz", [("canonicalize", 'f'), ("no-newline", 'n')], false⟩ 1
    (fun found session =>
      if found.operands.isEmpty then session.missOperand "readlink"
      else
        let isReal := found.has 'f' || found.has 'e' || found.has 'm'
        session.forEach found.operands fun path session =>
          let target : Option Text :=
            if isReal then (realPath session (!found.has 'e') path).toOption
            else (session.tree.linkAtPath? path.ofPlain).map Text.toPlain
          match target with
          | some target => if found.has 'n' then session.print target else session.printLine target
          | none => session.withStatus 1) arguments

def printRealPaths : Program := fun arguments session =>
  session.withArguments "realpath" ⟨"eLmPqsz", [("canonicalize-existing", 'e'), ("quiet", 'q')], false⟩ 1
    (fun found session =>
      if found.operands.isEmpty then session.missOperand "realpath"
      else
        session.forEach found.operands fun path session =>
          match realPath session (!found.has 'e') path with
          | .ok target => session.printLine target
          | .error cause => session.refuse "realpath" path cause) arguments

/-! ## Rights and sizes -/

/-- A file may be run after a change of its rights; none for something that is no change. -/
def isRunnableAfter? (mode : Text) (isRunnable : Bool) : Option Bool :=
  match digitsValue? mode with
  | some _ =>
    if mode.all fun c => '0' ≤ c && c ≤ '7' then
      some ((mode.reverse.take 3).any fun c => (c.toNat - '0'.toNat) % 2 == 1)
    else none
  | none =>
    (Text.splitAtChar ',' mode).foldlM (fun isRunnable clause =>
      let (_, rest) := clause.span fun c => ['u', 'g', 'o', 'a'].contains c
      match rest with
      | sign :: letters =>
        if !(['+', '-', '='].contains sign) || letters.any fun c => !(['r', 'w', 'x', 'X', 's', 't', 'u', 'g', 'o'].contains c)
        then none
        else if sign = '=' then some (letters.contains 'x')
        else if letters.contains 'x' then some (sign == '+')
        else some isRunnable
      | [] => none) isRunnable

def changeMode : Program := fun arguments session =>
  let isMode (t : Text) : Bool := t.head? == some '-' && (isRunnableAfter? t false).isSome
  let (modes, others) := arguments.partition isMode
  session.withArguments "chmod" ⟨"cfRv", [("recursive", 'R'), ("verbose", 'v'), ("quiet", 'f')], false⟩ 1
    (fun found session =>
      match modes ++ found.operands with
      | [] => session.missOperand "chmod"
      | [mode] =>
        (session.complain "chmod" ("missing operand after ".toList ++ quoted mode) 1).write 2
          "Try 'chmod --help' for more information.\n".toList
      | mode :: paths =>
        if (isRunnableAfter? mode false).isNone then
          (session.complain "chmod" ("invalid mode: ".toList ++ quoted mode) 1).write 2
            "Try 'chmod --help' for more information.\n".toList
        else
          session.forEach paths fun path session =>
            match session.find path, session.tree.follow path.ofPlain true with
            | .ok _, .ok place =>
              let places := if found.has 'R' then
                  (session.tree.entries.map (·.1)).filter fun other => place.isSuffixOf other
                else [place]
              session.withTree (places.foldl (fun tree place =>
                match tree.node? place with
                | some (.file _) =>
                  tree.setExecutable place ((isRunnableAfter? mode (tree.isExecutable place)).getD false)
                | _ => tree) session.tree)
            | .error cause, _ | _, .error cause => session.refuseAct "chmod" "cannot access" path cause) others

/-- Makes files longer or shorter. -/
def truncateFiles : Program := fun arguments session =>
  session.withArguments "truncate" ⟨"cos:r:", [("size", 's'), ("no-create", 'c')], false⟩ 1 (fun found session =>
    match found.value? 's' with
    | none =>
      (session.complain "truncate" "you must specify either '--size' or '--reference'".toList 1).write 2
        "Try 'truncate --help' for more information.\n".toList
    | some size =>
      let (sign, digits) := match size with
        | c :: rest => if ['+', '-', '<', '>'].contains c then (c, rest) else ('=', size)
        | [] => ('=', [])
      match digitsValue? digits with
      | none => session.complain "truncate" ("Invalid number: ".toList ++ quoted size) 1
      | some n =>
        session.forEach found.operands fun path session =>
          let before := (session.readFile path).toOption
          if before.isNone && found.has 'c' then session
          else
            let content := before.getD []
            let length := match sign with
              | '+' => content.length + n
              | '-' => content.length - n
              | '<' => min content.length n
              | '>' => max content.length n
              | _ => n
            let after := content.take length ++ List.replicate (length - content.length) '\x00'
            match session.writeFile path after false with
            | .ok session => session
            | .error cause =>
              session.complain "truncate" ("cannot open ".toList ++ quoted path ++ " for writing: ".toList ++
                cause.description) 1) arguments

/-- Copies blocks of a file to another one. -/
def copyBlocks : Program := fun arguments session =>
  let value? (name : String) : Option Text :=
    arguments.findSome? fun t => Text.afterPrefix? (name.toList ++ ['=']) t
  let number (name : String) (standard : Nat) : Nat :=
    match (value? name).map fun t => t.span Char.isDigit with
    | some (digits, unit) =>
      ((digitsValue? digits).map fun n => if unit = ['k'] ∨ unit = ['K'] then n * 1024 else
        if unit = ['M'] then n * 1024 * 1024 else n).getD standard
    | none => standard
  let size := number "bs" 512
  let converts (name : String) : Bool := (value? "conv").any fun t => (Text.splitAtChar ',' t).contains name.toList
  let (input, session) : Except OsError Text × Session := match value? "if" with
    | some path => (session.readFile path, session)
    | none => session.takeInput
  match input with
  | .error cause =>
    session.complain "dd" ("failed to open ".toList ++ quoted ((value? "if").getD []) ++ ':' :: ' ' :: cause.description) 1
  | .ok input =>
    let content := input.drop (number "skip" 0 * size)
    let content := if (value? "count").isSome then content.take (number "count" 0 * size) else content
    let content := if converts "ucase" then content.map Char.toUpper
      else if converts "lcase" then content.map Char.toLower else content
    let whole := Text.ofNat (content.length / size) ++ '+' :: (if content.length % size = 0 then ['0'] else ['1'])
    let count := content.length
    let summary := whole ++ " records in\n".toList ++ whole ++ " records out\n".toList ++ Text.ofNat count ++
      (if count = 1 then " byte copied, 0 s, 0 kB/s\n" else " bytes copied, 0 s, 0 kB/s\n").toList
    let session := session.withStatus 0
    match value? "of" with
    | none => (session.print content).write 2 summary
    | some path =>
      let start := number "seek" 0 * size
      let before := ((session.readFile path).toOption).getD []
      let front := before.take start ++ List.replicate (start - before.length) '\x00'
      let after := front ++ content ++ (if converts "notrunc" then before.drop (start + count) else [])
      match session.writeFile path after false with
      | .ok session => session.write 2 summary
      | .error cause =>
        session.complain "dd" ("failed to open ".toList ++ quoted path ++ ':' :: ' ' :: cause.description) 1

end LogDiagram.Shell
