import LogDiagram.Text.Lines

/-!
# A sample configuration

A configuration in which every part is used once. The program prints it for users who write their own.
-/

namespace LogDiagram.Config

def sampleLines : List String := [
  "\x7b",
  "  \"sample log\": [",
  "    \"2019-07-13 14:29:05:147 [Networking] DisplayClient say_hello: asking to connect to server\",",
  "    \"2017-07-13 14:29:06:239 [Test] note: Delete this line from the trace\",",
  "    \"2017-07-13 14:29:06:239 [Test] note: regex lines are very slow\",",
  "    \"2019-07-13 14:29:06:239 [Networking] DisplayClient server_response: Today's is a hot " ++
    "day with a max temperature of 37C possibly\",",
  "    \"2019-07-13 14:29:06:239 [Networking] DisplayClient start_routine: state=waiting, entering locked state\"",
  "  ],",
  "  \"translations\": [",
  "    \x7b",
  "      \"group\": \"Networking\",",
  "      \"patterns\": [\"say_hello\"],",
  "      \"print\": \"client -> server : sayHello\",",
  "      \"duplicates\": \"remove_continuous\"",
  "    \x7d,",
  "    \x7b",
  "      \"group\": \"Networking\",",
  "      \"patterns\": [\"start_routine\"],",
  "      \"print\": \"client -> server : start_routine\",",
  "      \"variables\": [",
  "        \x7b \"startswith\": \"state=\", \"endswith\": \", entering\" \x7d",
  "      ]",
  "    \x7d,",
  "    \x7b",
  "      \"group\": \"Networking\",",
  "      \"patterns\": [\"Today\", \"temperature\"],",
  "      \"print\": \"server -> client : Today is $\x7b1\x7d and $\x7b2\x7d\",",
  "      \"variables\": [",
  "        \x7b \"startswith\": \"is a \", \"endswith\": \" day\" \x7d,",
  "        \x7b \"startswith\": \"of \", \"endswith\": \" possibly\" \x7d",
  "      ]",
  "    \x7d,",
  "    \x7b",
  "      \"group\": \"Diagnostics\",",
  "      \"enable\": false,",
  "      \"patterns\": [\"heartbeat\"],",
  "      \"print\": \"client -> client : heartbeat x$\x7bcount\x7d\",",
  "      \"duplicates\": \"count\"",
  "    \x7d",
  "  ],",
  "  \"disable_group\": [\"exclude a particular group of translations\"],",
  "  \"pairs\": [",
  "    \x7b",
  "      \"source\": \"client -> server : sayHello\",",
  "      \"pairswith\": \"server -> client\",",
  "      \"before\": \"client -> server : sayHello\",",
  "      \"error\": \"server -> client : ERROR: NO RESPONSE\"",
  "    \x7d",
  "  ],",
  "  \"wrap_text_pre\": [\"@startuml\", \"skinparam dpi 300\"],",
  "  \"wrap_text_post\": [\"== Done ==\", \"@enduml\"],",
  "  \"blacklist\": [\"Do not translate this line\", \"and this line too\"],",
  "  \"delete_lines\": [\"Delete this line from the trace\", \"2017.* regex lines are very slow\"],",
  "  \"replace_words\": \x7b \"DisplayClient\": \"client\" \x7d,",
  "  \"execute\": [",
  "    \"java -DPLANTUML_LIMIT_SIZE=32768 -jar plantuml.jar " ++
    "\\\"$\x7bfileDirname\x7d/$\x7bfileBasenameNoExtension\x7d/$\x7bfileBasename\x7d_seq.txt\\\"\"",
  "  ],",
  "  \"backup_file\": \"$\x7bfileDirname\x7d/$\x7bfileBasenameNoExtension\x7d/$\x7bfileBasename\x7d.original\",",
  "  \"translation_file\": \"$\x7bfileDirname\x7d/$\x7bfileBasenameNoExtension\x7d/$\x7bfileBasename\x7d_seq.txt\",",
  "  \"auto_new_line\": true",
  "\x7d"]

def sample : Text := Text.ofLines (sampleLines.map String.toList)

end LogDiagram.Config
