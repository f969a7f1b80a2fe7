import EventTime.Command.Reader

namespace EventTime.Command

def Setting.longName : Setting → String
  | format => "--format"
  | zone => "--timezone"
  | threads => "--threads"
  | output => "--output"

def Switch.longName : Switch → String
  | listFormats => "--list-formats"
  | verbose => "--verbose"
  | help => "--help"
  | version => "--version"

def versionText : String := "eventtime 0.1.0"

def usage : String :=
  lines
    [ "Usage: eventtime [OPTIONS] [TIMESTAMPS]...",
      "",
      "Writes epoch milliseconds as dates. Without timestamps, they are read from the lines of",
      "the standard input. The word now stands for the present.",
      "",
      "Options:",
      "  -f, --format <FORMAT>      The keyword of a format, or a date template",
      "  -z, --timezone <TIMEZONE>  The time zone, else that of the host",
      "      --threads <THREADS>    The threads that write each timestamp [default: 1]",
      "  -o, --output <OUTPUT>      The file to append to, else the standard output",
      "      --list-formats         List the keywords",
      "  -v, --verbose              Tell more",
      "  -h, --help                 Print help",
      "  -V, --version              Print version" ]

-- What to tell about a command line that is not run. Help and version are no mistakes.
def Stop.message : Stop → String
  | unknownArgument argument => s!"error: unexpected argument '{argument}' found"
  | missingValue setting => s!"error: a value is required for '{setting.longName}'"
  | emptyValue setting => s!"error: a value is required for '{setting.longName}'"
  | badNumber text => s!"error: invalid value '{text}' for '{Setting.threads.longName}'"
  | repeatedSetting setting => s!"error: '{setting.longName}' cannot be used multiple times"
  | repeatedSwitch switch => s!"error: '{switch.longName}' cannot be used multiple times"
  | unneededValue switch => s!"error: unexpected value for '{switch.longName}'"
  | help => usage
  | version => versionText

def Stop.exitCode : Stop → Nat
  | help => 0
  | version => 0
  | _ => 2

end EventTime.Command
