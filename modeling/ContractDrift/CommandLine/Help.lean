/-
The pages that explain the commands.
-/

namespace ContractDrift.CommandLine

/-- The names of all commands. -/
def commandNames : String :=
  "drift-check,validate-soap,validate-message,list-operations,skeleton"

/-- The page on all commands. -/
def overview : String := "\n".intercalate
  ["usage: schema-sentinel [-h] [--log-level \x7bDEBUG,INFO,WARNING,ERROR,CRITICAL\x7d]",
   "                       \x7b" ++ commandNames ++ "\x7d",
   "                       ...",
   "",
   "schema-sentinel: contract compliance and drift detection",
   "",
   "positional arguments:",
   "  \x7b" ++ commandNames ++ "\x7d",
   "    drift-check         Compare stored baselines with live schemas",
   "    validate-soap       Validate a SOAP envelope against the WSDL",
   "    validate-message    Validate a JSON message against a schema",
   "    list-operations     List operations of the stored WSDL",
   "    skeleton            Print a sample SOAP envelope for an operation",
   "",
   "options:",
   "  -h, --help            show this help message and exit",
   "  --log-level \x7bDEBUG,INFO,WARNING,ERROR,CRITICAL\x7d",
   "                        Override SENTINEL_LOG_LEVEL"]

/-- The pages on single commands. -/
def pages : List (String × List String) :=
  [("drift-check",
      ["usage: schema-sentinel drift-check [-h] [--report-dir REPORT_DIR]",
       "                                   [--wsdl-url WSDL_URL]",
       "                                   [--message-schema-url MESSAGE_SCHEMA_URL]",
       "",
       "options:",
       "  -h, --help            show this help message and exit",
       "  --report-dir REPORT_DIR",
       "                        Report output directory",
       "  --wsdl-url WSDL_URL   Live WSDL URL (overrides settings)",
       "  --message-schema-url MESSAGE_SCHEMA_URL",
       "                        Live message schema URL (overrides settings)"]),
   ("validate-soap",
      ["usage: schema-sentinel validate-soap [-h] --operation OPERATION",
       "                                     [--direction \x7binput,output\x7d] [--strict]",
       "                                     envelope",
       "",
       "positional arguments:",
       "  envelope",
       "",
       "options:",
       "  -h, --help            show this help message and exit",
       "  --operation OPERATION",
       "  --direction \x7binput,output\x7d",
       "  --strict              Fail on unexpected elements instead of reporting them"]),
   ("validate-message",
      ["usage: schema-sentinel validate-message [-h] schema_id payload",
       "",
       "positional arguments:",
       "  schema_id",
       "  payload",
       "",
       "options:",
       "  -h, --help  show this help message and exit"]),
   ("list-operations",
      ["usage: schema-sentinel list-operations [-h]",
       "",
       "options:",
       "  -h, --help  show this help message and exit"]),
   ("skeleton",
      ["usage: schema-sentinel skeleton [-h] [--direction \x7binput,output\x7d] operation",
       "",
       "positional arguments:",
       "  operation",
       "",
       "options:",
       "  -h, --help            show this help message and exit",
       "  --direction \x7binput,output\x7d"])]

/-- The page on a command, or on all of them. -/
def page (command : Option String) : String :=
  match command.bind fun name => pages.lookup name with
  | some lines => "\n".intercalate lines
  | none => overview

end ContractDrift.CommandLine
