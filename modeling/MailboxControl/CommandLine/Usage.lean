import MailboxControl.Operation

/-! The options of the command line, their spellings, and the texts about them. -/

namespace MailboxControl.CommandLine

/-- What an option asks for. The operations exclude one another. -/
inductive Switch where
  | help
  | operation (op : Operation)
  | version
  | session
  | verbose
deriving DecidableEq, Repr

/-- Every spelling, in the order in which candidates are listed. -/
def spellings : List (String × Switch) :=
  [("-h", .help), ("--help", .help), ("--ping", .operation .ping),
    ("--status", .operation .status), ("--reset", .operation .reset),
    ("--point-to-flash", .operation .pointToFlash), ("--suspend", .operation .suspend),
    ("--resume", .operation .resume), ("--flash-modified", .operation .flashModified),
    ("--flash_modified", .operation .flashModified), ("--version", .version),
    ("--session", .session), ("-v", .verbose), ("--verbose", .verbose)]

def lookup? (spelling : String) : Option Switch :=
  (spellings.find? (·.1 == spelling)).map (·.2)

/-- All spellings of an option, as messages name it. -/
def Switch.title (s : Switch) : String :=
  "/".intercalate ((spellings.filter (·.2 == s)).map (·.1))

inductive UsageError where
  | ambiguous (word : String) (candidates : List String)
  | conflict (later earlier : Switch)
  | needsValue (switch : Switch)
  | ignoredValue (switch : Switch) (value : String)
  | noOperation
  | unrecognized (words : List String)
deriving DecidableEq, Repr

/-- An error about one option. -/
def aboutOption (s : Switch) (text : String) : String :=
  "argument " ++ s.title ++ ": " ++ text

def UsageError.message : UsageError → String
  | ambiguous word candidates =>
    "ambiguous option: " ++ word ++ " could match " ++ ", ".intercalate candidates
  | conflict later earlier => aboutOption later ("not allowed with argument " ++ earlier.title)
  | needsValue switch => aboutOption switch "expected one argument"
  | ignoredValue switch value =>
    aboutOption switch ("ignored explicit argument " ++ Text.quoteText value)
  | noOperation =>
    "one of the arguments " ++
      " ".intercalate (Operation.all.map (fun op => (Switch.operation op).title)) ++ " is required"
  | unrecognized words => "unrecognized arguments: " ++ " ".intercalate words

def clientName : String := "MBOX Control"

def version : Nat := 1

def subversion : Nat := 0

def releaseText : String := toString version ++ "." ++ toString subversion

/-- The minor number has two places. -/
def versionText : String :=
  clientName ++ " V" ++ toString version ++ "." ++ (if subversion < 10 then "0" else "") ++
    toString subversion

def usageText : String :=
  "usage: mboxctl [-h]\n" ++
  "               (--ping | --status | --reset | --point-to-flash | --suspend | --resume 0|1 | --flash-modified)\n" ++
  "               [--version] [--session] [-v]\n"

def helpText : String :=
  usageText ++
  "\nSend a control command to the mailbox daemon.\n\noptions:\n" ++
  "  -h, --help            show this help message and exit\n" ++
  "  --ping                ping the daemon\n" ++
  "  --status              check status of the daemon\n" ++
  "  --reset               hard reset the daemon state\n" ++
  "  --point-to-flash      point the lpc mapping back to flash\n" ++
  "  --suspend             suspend the daemon to inhibit flash accesses\n" ++
  "  --resume 0|1          resume the daemon; argument is whether flash was\n" ++
  "                        modified (0 - no | 1 - yes)\n" ++
  "  --flash-modified, --flash_modified\n" ++
  "                        tell the daemon to discard its cache\n" ++
  "  --version             show program's version number and exit\n" ++
  "  --session             talk to a daemon on the session bus instead of the\n" ++
  "                        system bus\n" ++
  "  -v, --verbose         enable debug logging\n"

end MailboxControl.CommandLine
