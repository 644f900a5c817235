import LogDiagram.Shell.Awk.Run
import LogDiagram.Shell.Calculations
import LogDiagram.Shell.Characters
import LogDiagram.Shell.Clock
import LogDiagram.Shell.Columns
import LogDiagram.Shell.Condition
import LogDiagram.Shell.Differences
import LogDiagram.Shell.Digests
import LogDiagram.Shell.Editor
import LogDiagram.Shell.Files
import LogDiagram.Shell.Finder
import LogDiagram.Shell.Launch
import LogDiagram.Shell.Lines
import LogDiagram.Shell.Listing
import LogDiagram.Shell.Order
import LogDiagram.Shell.Search
import LogDiagram.Shell.Surroundings

/-!
# The programs of the system
-/

namespace LogDiagram.Shell

def alone (program : Program) : Utility := fun _ => program

def utilities : List (String × Utility) := [
  ("[", alone bracket), ("arch", alone (sayingLine "x86_64")), ("awk", runRecordScript),
  ("base64", alone printBase64), ("basename", alone printLastNames), ("bash", runShell), ("cat", alone concatenate),
  ("chgrp", alone (checkingFiles "chgrp")), ("chmod", alone changeMode), ("chown", alone (checkingFiles "chown")),
  ("cksum", alone printRemainders), ("cmp", alone compareBytes), ("comm", alone compareSorted),
  ("cp", alone copyFiles), ("cut", alone cutLines), ("dash", runShell), ("date", alone printDate),
  ("dd", alone copyBlocks), ("diff", alone printDifferences), ("dirname", alone printDirectories),
  ("echo", alone echoPlain), ("egrep", alone (searchLines 'E')), ("env", runSurrounded), ("expand", alone expandAll),
  ("expr", alone evaluateWords), ("false", alone (ending 1)), ("fgrep", alone (searchLines 'F')), ("find", findFiles),
  ("fold", alone foldLines), ("grep", alone (searchLines 'G')), ("head", alone printFirst),
  ("hostname", alone (sayingLine "localhost")), ("id", alone printUser), ("install", alone installFiles),
  ("join", alone joinLines), ("kill", alone sendSignal), ("link", alone linkFile), ("ln", alone makeLinks),
  ("ls", alone listFiles), ("mawk", runRecordScript), ("md5sum", alone (printDigests "md5sum" "MD5" 16 Digest.md5)),
  ("mkdir", alone makeDirectories), ("mktemp", alone makeTemporary), ("mv", alone moveFiles),
  ("nice", runAsIs "nice" "n:" 125), ("nl", alone numberLines), ("nohup", runAsIs "nohup" "" 125),
  ("nproc", alone (sayingLine "1")), ("od", alone printUnits), ("paste", alone pasteLines),
  ("printenv", alone printVariables), ("printf", alone printf), ("pwd", alone printWorkingDirectory),
  ("readlink", alone printLinks), ("realpath", alone printRealPaths), ("rev", alone reverseLines),
  ("rm", alone remove), ("rmdir", alone removeDirectories), ("sed", editLines), ("seq", alone countNumbers),
  ("setsid", runAsIs "setsid" "cfw" 1), ("sh", runShell),
  ("sha1sum", alone (printDigests "sha1sum" "SHA1" 20 Digest.sha1)),
  ("sha224sum", alone (printDigests "sha224sum" "SHA224" 28 (Digest.sha2 Digest.sha224))),
  ("sha256sum", alone (printDigests "sha256sum" "SHA256" 32 (Digest.sha2 Digest.sha256))),
  ("sha384sum", alone (printDigests "sha384sum" "SHA384" 48 (Digest.sha2 Digest.sha384))),
  ("sha512sum", alone (printDigests "sha512sum" "SHA512" 64 (Digest.sha2 Digest.sha512))), ("sleep", alone wait),
  ("sort", alone sortLines), ("split", alone splitFile), ("stat", alone describeFiles),
  ("stdbuf", runAsIs "stdbuf" "i:o:e:" 125), ("sum", alone printSums), ("sync", alone (ending 0)),
  ("tac", alone concatenateBack), ("tail", alone printLast), ("tee", alone printAndWrite), ("test", alone test),
  ("timeout", runLimited), ("touch", alone touch), ("tr", alone translateInput), ("true", alone (ending 0)),
  ("truncate", alone truncateFiles), ("uname", alone printSystem), ("unexpand", alone unexpandAll),
  ("uniq", alone printDistinct), ("unlink", alone unlinkFile), ("wc", alone countAll), ("which", alone printPrograms),
  ("whoami", alone (sayingLine "root")), ("xargs", runForWords), ("yes", alone printEndlessly)]

def utility? (name : Text) : Option Utility :=
  (utilities.find? fun entry => entry.1.toList == name).map (·.2)

end LogDiagram.Shell
