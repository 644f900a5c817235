import LogDiagram.Shell.Files
import LogDiagram.Shell.Order
import LogDiagram.Shell.Pattern
import LogDiagram.Shell.Printing

/-!
# Programs that list files

* `listFiles` prints the names in directories, and what is known of each if that is asked for;
* `describeFiles` prints what a format asks for of each file.

Every file belongs to the first user, and all files are of the same age as far as it is written out.
-/

namespace LogDiagram.Shell

/-- Something that is listed: how it is named, where it stands and what it is. -/
structure Listed where
  name : Text
  place : Place
  kind : EntryKind
  deriving DecidableEq, Repr

namespace Listed

/-- How many bytes a directory takes. -/
def directorySize : Nat := 4096

/-- How many bytes something has; a link has those of the path that it leads to. -/
def size (session : Session) (listed : Listed) : Nat :=
  match listed.kind, session.tree.node? listed.place with
  | .link target, _ => (Text.toPlain target).length
  | .file, some (.file content) => content.length
  | .directory, _ => directorySize
  | _, _ => 0

/-- How many blocks of 1024 bytes something takes; they are given out four at a time. -/
def blocks (session : Session) (listed : Listed) : Nat :=
  match listed.kind with
  | .file | .directory => (listed.size session + 4095) / 4096 * 4
  | _ => 0

def rights (session : Session) (listed : Listed) : Nat :=
  match listed.kind with
  | .link _ => 0o777
  | .directory => 0o755
  | .device => 0o666
  | .file => if session.tree.isExecutable listed.place then 0o755 else 0o644

def letter : EntryKind → Char
  | .link _ => 'l'
  | .directory => 'd'
  | .device => 'c'
  | .file => '-'

def rightLetters (session : Session) (listed : Listed) : Text :=
  let rights := listed.rights session
  letter listed.kind :: ([6, 3, 0] : List Nat).flatMap fun place =>
    let digit := rights / Nat.pow 2 place % 8
    [if digit / 4 = 1 then 'r' else '-', if digit / 2 % 2 = 1 then 'w' else '-', if digit % 2 = 1 then 'x' else '-']

/-- How many paths lead to something: those of a directory are the one from above, its own and those from below. -/
def linkCount (session : Session) (listed : Listed) : Nat :=
  match listed.kind with
  | .directory =>
    2 + ((session.tree.children listed.place).filter fun name =>
      session.tree.node? (name :: listed.place) == some .directory &&
        (session.tree.linkAt? (name :: listed.place)).isNone).length
  | _ => 1

/-- A sign behind a name that tells what it names. -/
def sign (found : Arguments) (session : Session) (listed : Listed) : Text :=
  match listed.kind with
  | .directory => if found.has 'F' || found.has 'p' then ['/'] else []
  | .link _ => if found.has 'F' && !found.has 'l' then ['@'] else []
  | .file => if found.has 'F' && session.tree.isExecutable listed.place then ['*'] else []
  | .device => []

/-- A name in quotes with backslashes in front of what could be misread. -/
def quotedName (name : Text) : Text :=
  '"' :: (name.flatMap fun c =>
    if c = '"' ∨ c = '\\' then ['\\', c] else if c = '\n' then ['\\', 'n'] else [c]) ++ ['"']

def shownName (found : Arguments) (session : Session) (listed : Listed) : Text :=
  (if found.has 'Q' then quotedName listed.name else listed.name) ++ listed.sign found session

/-- A size as it is shown: in bytes, or with at most three digits and a unit, rounded up. -/
def shownSize (isShort : Bool) (bytes : Nat) : Text :=
  let rec withUnit (bytes : Nat) : (units : List Char) → (scale : Nat) → Text
    | [], _ => Text.ofNat bytes
    | unit :: units, scale =>
      let tenths := (bytes * 10 + scale - 1) / scale
      if tenths < 100 then Text.ofNat (tenths / 10) ++ '.' :: (Text.ofNat (tenths % 10) ++ [unit])
      else
        let whole := (bytes + scale - 1) / scale
        if whole < 1024 ∨ units = [] then Text.ofNat whole ++ [unit] else withUnit bytes units (scale * 1024)
  if !isShort || bytes < 1024 then Text.ofNat bytes else withUnit bytes ['K', 'M', 'G', 'T'] 1024

/-- How many blocks something takes, as they are shown. -/
def shownBlocks (found : Arguments) (session : Session) (listed : Listed) : Text :=
  let blocks := listed.blocks session
  if found.has 'h' then shownSize true (blocks * 1024) else Text.ofNat blocks

/-- How old something is: what was changed last comes first. -/
def age (session : Session) (listed : Listed) : Nat := session.tree.entries.findIdx fun entry => entry.1 == listed.place

def ending (name : Text) : Text := if name.contains '.' then (name.reverse.takeWhile (· != '.')).reverse else []

/-- How two listed things compare, as options ask for. -/
def compare (found : Arguments) (session : Session) (a b : Listed) : Ordering :=
  let byName := compareTexts a.name b.name
  let order := match found.lastOf? ['S', 't', 'X', 'v', 'U', 'f'] with
    | some 'S' => (Ord.compare (b.size session) (a.size session)).then byName
    | some 't' => (Ord.compare (a.age session) (b.age session)).then byName
    | some 'X' => (compareTexts (ending a.name) (ending b.name)).then byName
    | some 'v' => (compareVersions (a.name.length + b.name.length + 2) a.name b.name).then byName
    | _ => byName
  let order := if found.has 'r' then order.swap else order
  if found.has 'D' then
    (Ord.compare (if a.kind = .directory then 0 else 1) (if b.kind = .directory then 0 else 1)).then order
  else order

def sorted (found : Arguments) (session : Session) (all : List Listed) : List Listed :=
  all.mergeSort fun a b => Listed.compare found session a b != .gt

def widest (texts : List Text) : Nat := texts.foldl (fun width t => max width t.length) 0

/-- Texts of one column, each filled up to the width of the widest one. -/
def column (isLeft : Bool) (texts : List Text) : List Text := texts.map (filled isLeft (widest texts))

def time : Text := "Jan  1 00:00".toList

def longLines (found : Arguments) (session : Session) (all : List Listed) : List Text :=
  let owner := if found.has 'n' then ['0'] else "root".toList
  let counts := column false (all.map fun listed => Text.ofNat (listed.linkCount session))
  let sizes := column false (all.map fun listed => shownSize (found.has 'h') (listed.size session))
  let blocks := column false (all.map (shownBlocks found session))
  (all.zip (counts.zip (sizes.zip blocks))).map fun (listed, count, size, blocks) =>
    let target : Text := match listed.kind with
      | .link target => " -> ".toList ++ Text.toPlain target
      | _ => []
    Text.joined [' '] ((if found.has 's' then [blocks] else []) ++ [listed.rightLetters session, count] ++
      (if found.has 'g' then [] else [owner]) ++ (if found.has 'o' || found.has 'G' then [] else [owner]) ++
      [size, time, listed.shownName found session ++ target])

/-- The greatest width of a line with several names. -/
def lineWidth (found : Arguments) : Nat :=
  match (found.value? 'w').bind digitsValue? with
  | some 0 => 1000000
  | some n => n
  | none => 80

/-- Names with commas between them, in lines that are not too long. -/
def withCommas (lineWidth : Nat) (names : List Text) : Text :=
  let (done, _) := names.foldl (fun ((done, position) : Text × Nat) name =>
    if done.isEmpty then (name, name.length)
    else if position + name.length + 2 < lineWidth then (done ++ ',' :: ' ' :: name, position + 2 + name.length)
    else (done ++ ',' :: '\n' :: name, name.length)) (([], 0) : Text × Nat)
  if names.isEmpty then [] else done ++ ['\n']

/-- The widths of so many columns, with two blanks behind all but the last one. -/
def columnWidths (isAcross : Bool) (names : List Text) (count : Nat) : List Nat :=
  let rows := (names.length + count - 1) / count
  (List.range count).map fun i =>
    let inColumn := (names.zipIdx).filter fun (_, n) => (if isAcross then n % count else n / rows) == i
    max 3 (widest (inColumn.map (·.1)) + (if i + 1 = count then 0 else 2))

/-- Blanks from one position to another one, with tabs where they fit. -/
def gap : (fuel : Nat) → (start finish : Nat) → Text
  | 0, _, _ => []
  | fuel + 1, start, finish =>
    if finish ≤ start then []
    else if (start + 1) / 8 < finish / 8 then '\t' :: gap fuel (start + (8 - start % 8)) finish
    else ' ' :: gap fuel (start + 1) finish

def inColumns (lineWidth : Nat) (isAcross : Bool) (names : List Text) : Text :=
  let greatest := min 27 names.length
  let fits (count : Nat) : Bool := (columnWidths isAcross names count).foldl (· + ·) 0 < lineWidth
  let count := (((List.range (greatest + 1)).drop 2).reverse.find? fits).getD 1
  let widths := columnWidths isAcross names count
  let rows := (names.length + count - 1) / count
  (List.range rows).flatMap fun row =>
    let cells := (List.range count).filterMap fun i =>
      names[if isAcross then row * count + i else i * rows + row]?
    let (line, _) := (cells.zip widths).zipIdx.foldl (fun ((line, position) : Text × Nat) ((name, width), i) =>
      let blanks := if i + 1 = cells.length then []
        else gap width (position + name.length) (position + width)
      (line ++ name ++ blanks, position + width)) (([], 0) : Text × Nat)
    line ++ ['\n']

def shown (found : Arguments) (session : Session) (all : List Listed) : Text :=
  let all := sorted found session all
  let names := all.map (shownName found session)
  match found.lastOf? ['l', 'g', 'n', 'o', 'm', 'C', 'x', '1'] with
  | some 'm' => withCommas (lineWidth found) names
  | some 'C' => inColumns (lineWidth found) false names
  | some 'x' => inColumns (lineWidth found) true names
  | _ =>
    if ['l', 'g', 'n', 'o'].any found.has then Text.ofLines (longLines found session all)
    else if found.has 'i' then Text.ofLines ((all.zip names).map fun (listed, name) =>
      Text.ofNat (listed.age session + 2) ++ ' ' :: name)
    else if found.has 's' then
      let blocks := column false (all.map (shownBlocks found session))
      Text.ofLines ((blocks.zip names).map fun (count, name) => count ++ ' ' :: name)
    else Text.ofLines names

/-- The size of all that is listed, in front of a directory if sizes are shown. -/
def totalLine (found : Arguments) (session : Session) (all : List Listed) : Text :=
  if ['l', 'g', 'n', 'o', 's'].any found.has then
    let total := (all.map (blocks session)).foldl (· + ·) 0
    "total ".toList ++ (if found.has 'h' then shownSize true (total * 1024) else Text.ofNat total) ++ ['\n']
  else []

def ofDirectory (found : Arguments) (session : Session) (place : Place) : List Listed :=
  let isHidden (name : Text) : Bool :=
    (name.head? == some '.' && !(found.has 'a' || found.has 'A' || found.has 'f')) ||
      (found.has 'B' && name.getLast? == some '~') ||
      (found.values 'I').any fun pattern => (Glob.ofField (pattern.map fun c => (c, false))).fits name
  let dots : List Listed := if found.has 'a' || found.has 'f' then
      [⟨['.'], place, .directory⟩, ⟨['.', '.'], place.tail, .directory⟩]
    else []
  dots ++ ((session.namesIn place).filter fun name => !isHidden name).map fun name =>
    let inner := Text.ofPlain name :: place
    ⟨name, inner, match session.tree.linkAt? inner, session.tree.node? inner with
      | some target, _ => .link target
      | none, some .directory => .directory
      | none, some .device => .device
      | none, _ => .file⟩

/-- Directories with all directories in them, in order; `fuel` bounds how deep they are. -/
def withInner (found : Arguments) (session : Session) : (fuel : Nat) → Text × Place → List (Text × Place)
  | 0, directory => [directory]
  | fuel + 1, (path, place) =>
    let inner := (sorted found session (ofDirectory found session place)).filter fun listed =>
      listed.kind == .directory && !Path.isDots listed.name
    (path, place) :: inner.flatMap fun listed => withInner found session fuel (pathIn path listed.name, listed.place)

end Listed

def listFiles : Program := fun arguments session =>
  session.withArguments "ls" ⟨"1aAbBCdfFgGhHiI:klLmnNopqQrRsStT:uUvw:xXZDYyz", [("all", 'a'), ("almost-all", 'A'),
    ("directory", 'd'), ("classify", 'F'), ("human-readable", 'h'), ("reverse", 'r'), ("recursive", 'R'), ("size", 's'),
    ("quote-name", 'Q'), ("ignore", 'I'), ("hide", 'I'),
    ("width", 'w'), ("inode", 'i'), ("ignore-backups", 'B'), ("numeric-uid-gid", 'n'), ("no-group", 'G'),
    ("dereference", 'L'), ("group-directories-first", 'D'), ("literal", 'N'), ("full-time", 'l'), ("color", 'N')],
    false⟩ 2
    (fun found session =>
      let isPlain := found.has 'd'
      let isLong := ['l', 'g', 'n', 'o'].any found.has
      let keepsLinks := (isPlain || isLong || found.has 'F') && !found.has 'L' && !found.has 'H'
      let operands := if found.operands.isEmpty then [['.']] else found.operands
      let look (path : Text) : Except OsError Listed := do
        let (place, kind) ← session.entry path
        match kind with
        | .link target =>
          if !keepsLinks && (session.hasDirectory path || found.has 'L') then
            let node ← session.find path
            return ⟨path, ← session.tree.follow path.ofPlain true, match node with
              | .directory => .directory
              | .device => .device
              | .file _ => .file⟩
          else return ⟨path, place, .link target⟩
        | kind => return ⟨path, place, kind⟩
      let (items, session) := operands.foldl (fun ((items, session) : List Listed × Session) path =>
        match look path with
        | .ok listed => (listed :: items, session)
        | .error cause => (items, session.refuseAct "ls" "cannot access" path cause |>.withStatus 2)) ([], session)
      let items := items.reverse
      let (directories, files) := items.partition fun listed => listed.kind == .directory && !isPlain
      let directories := (Listed.sorted found session directories).flatMap fun listed =>
        if found.has 'R' then Listed.withInner found session 64 (listed.name, listed.place)
        else [(listed.name, listed.place)]
      let isTitled := operands.length > 1 || found.has 'R'
      let session := session.print (Listed.shown found session files)
      let (session, _) := directories.foldl (fun ((session, isFirst) : Session × Bool) (path, place) =>
        let all := Listed.ofDirectory found session place
        let title := if isTitled then (if isFirst then [] else ['\n']) ++ path ++ [':', '\n'] else []
        (session.print (title ++ Listed.totalLine found session all ++ Listed.shown found session all), false))
        (session, files.isEmpty)
      session)
    (arguments.flatMap fun argument =>
      match String.ofList argument with
      | "--sort=size" => ["-S".toList]
      | "--sort=time" => ["-t".toList]
      | "--sort=extension" => ["-X".toList]
      | "--sort=version" => ["-v".toList]
      | "--sort=none" => ["-U".toList]
      | "--format=commas" => ["-m".toList]
      | "--format=long" => ["-l".toList]
      | "--format=single-column" => ["-1".toList]
      | "--color=never" | "--color=auto" | "--color=none" => []
      | _ => [argument])

/-! ## Formats -/

namespace Listed

def kindName (session : Session) (listed : Listed) : String :=
  match listed.kind with
  | .link _ => "symbolic link"
  | .directory => "directory"
  | .device => "character special file"
  | .file => if listed.size session = 0 then "regular empty file" else "regular file"

def item (session : Session) (listed : Listed) (letter : Char) : Text :=
  match letter with
  | 'n' => listed.name
  | 'N' => quoted listed.name ++ (match listed.kind with
    | .link target => " -> ".toList ++ quoted (Text.toPlain target)
    | _ => [])
  | 's' => Text.ofNat (listed.size session)
  | 'F' => (listed.kindName session).toList
  | 'a' => Nat.toDigits 8 (listed.rights session)
  | 'A' => listed.rightLetters session
  | 'f' => Nat.toDigits 16 ((match listed.kind with
      | .link _ => 0o120000
      | .directory => 0o040000
      | .device => 0o020000
      | .file => 0o100000) + listed.rights session)
  | 'U' | 'G' => "root".toList
  | 'u' | 'g' | 't' | 'T' => ['0']
  | 'h' => Text.ofNat (listed.linkCount session)
  | 'b' => Text.ofNat (listed.blocks session * 2)
  | 'B' => "512".toList
  | 'o' => "4096".toList
  | 'W' | 'X' | 'Y' | 'Z' | 'd' | 'i' => ['0']
  | 'w' | 'x' | 'y' | 'z' => "1970-01-01 00:00:00.000000000 +0000".toList
  | 'm' => ['/']
  | _ => ['?']

/-- A format with what it asks for; `fuel` bounds its pieces. -/
def filledFormat (session : Session) (listed : Listed) (hasEscapes : Bool) : (fuel : Nat) → Text → Text
  | 0, _ => []
  | _, [] => []
  | fuel + 1, c :: rest =>
    match c, rest with
    | '%', '%' :: rest => '%' :: filledFormat session listed hasEscapes fuel rest
    | '%', rest =>
      let (flags, rest) := rest.span fun c => ['-', '0', '+', ' ', '#'].contains c
      let (width, rest) := rest.span Char.isDigit
      let (_, rest) := rest.span fun c => c == '.' || c.isDigit
      match rest with
      | letter :: rest =>
        let t := listed.item session letter
        let width := (digitsValue? width).getD 0
        let isNumber := !t.isEmpty && t.all Char.isDigit
        (if flags.contains '0' && isNumber && !flags.contains '-' then
          List.replicate (width - t.length) '0' ++ t
        else filled (flags.contains '-') width t) ++ filledFormat session listed hasEscapes fuel rest
      | [] => ['%']
    | '\\', d :: rest =>
      if hasEscapes then
        let after := filledFormat session listed hasEscapes fuel rest
        match d with
        | 'n' => '\n' :: after
        | 't' => '\t' :: after
        | '0' => '\x00' :: after
        | '\\' => '\\' :: after
        | d => d :: after
      else c :: filledFormat session listed hasEscapes fuel (d :: rest)
    | c, rest => c :: filledFormat session listed hasEscapes fuel rest

end Listed

/-- Prints what a format asks for of each file. -/
def describeFiles : Program := fun arguments session =>
  session.withArguments "stat" ⟨"c:fLtP:", [("format", 'c'), ("printf", 'P'), ("dereference", 'L'), ("terse", 't')],
    false⟩ 1
    (fun found session =>
      if found.operands.isEmpty then session.missOperand "stat"
      else
        session.forEach found.operands fun path session =>
          let looked : Except OsError Listed := do
            let (place, kind) ← session.entry path
            match kind with
            | .link target =>
              if found.has 'L' then
                let node ← session.find path
                return ⟨path, ← session.tree.follow path.ofPlain true, match node with
                  | .directory => .directory
                  | .device => .device
                  | .file _ => .file⟩
              else return ⟨path, place, .link target⟩
            | kind => return ⟨path, place, kind⟩
          match looked with
          | .error cause => session.refuseAct "stat" "cannot statx" path cause
          | .ok listed =>
            match found.lastOf? ['c', 'P'] with
            | some 'P' =>
              let format := (found.value? 'P').getD []
              session.print (listed.filledFormat session true (format.length + 1) format)
            | some _ =>
              let format := (found.value? 'c').getD []
              session.printLine (listed.filledFormat session false (format.length + 1) format)
            | none =>
              let format := ("  File: %N\n  Size: %-10s\tBlocks: %-10b IO Block: %-6o %F\n" ++
                "Device: 0,0\tInode: %-11i Links: %h\n" ++
                "Access: (0%a/%10.10A)  Uid: (%5u/%8U)   Gid: (%5g/%8G)\n" ++
                "Access: %x\nModify: %y\nChange: %z\n Birth: %w\n").toList
              session.print (listed.filledFormat session false (format.length + 1) format)) arguments

end LogDiagram.Shell
