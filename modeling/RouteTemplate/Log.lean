/-
Log records: who says what, and how urgent it is.
-/

namespace RouteTemplate

inductive Severity where
  | debug
  | info
deriving DecidableEq, Repr

/-- The two parts of the program that keep a log. -/
inductive Logger where
  | transformer
  | hooks
deriving DecidableEq, Repr

structure LogRecord where
  severity : Severity
  logger : Logger
  message : String
deriving DecidableEq, Repr

namespace Severity

/-- How urgent a record is; a log shows what is at least as urgent as asked
for. -/
def rank : Severity → Nat
  | .debug => 10
  | .info => 20

def label : Severity → String
  | .debug => "DEBUG"
  | .info => "INFO"

end Severity

namespace Logger

def label : Logger → String
  | .transformer => "httpx_url_template.transformer"
  | .hooks => "httpx_url_template.hooks"

end Logger

namespace LogRecord

/-- A record on one line, without the time. -/
def line (r : LogRecord) : String :=
  r.severity.label ++ " " ++ r.logger.label ++ ": " ++ r.message

/-- A record as the command line shows it. -/
def shown (r : LogRecord) : String :=
  "[" ++ r.severity.label ++ "] " ++ r.logger.label ++ ": " ++ r.message

end LogRecord
end RouteTemplate
