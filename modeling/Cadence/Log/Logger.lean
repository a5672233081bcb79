import Cadence.Log.Filter

/-!
Setting logging up.  It is done once; later attempts change nothing.  Lines go
to a file if one is asked for and opens, and to standard error otherwise.
-/

namespace Cadence.Log

/-- Where lines go. -/
inductive Sink
  | standardError
  | file
deriving DecidableEq, Repr

/-- What becomes of opening a file: it opens, it turns out to be standard error
itself, or it does not open. -/
inductive Opening
  | opened
  | standardError
  | refused (reason : String)
deriving DecidableEq, Repr

/-- A file that lines are to go to, and what becomes of opening it. -/
structure FileRequest where
  path : String
  opening : Opening
deriving DecidableEq, Repr

def FileRequest.sink (file : FileRequest) : Sink :=
  match file.opening with
  | .opened => .file
  | .standardError => .standardError
  | .refused _ => .standardError

/-- What logging is set up with: a filter, else the one of the environment, and
a file. -/
structure Request where
  filter : Option String
  environmentFilter : Option String
  file : Option FileRequest
deriving DecidableEq, Repr

/-- A logger, and the lines that its set-up has written. -/
structure Logger where
  filter : Filter
  sink : Sink
  /-- Complaints about the filter, which go to standard error as they are. -/
  complaints : List String
  /-- Lines that passed the filter. -/
  lines : List Line
deriving DecidableEq, Repr

namespace Logger

def write (logger : Logger) (line : Line) : Logger :=
  if logger.filter.accepts line then
    { logger with lines := logger.lines ++ [line] }
  else logger

def writeAll (logger : Logger) (lines : List Line) : Logger :=
  lines.foldl write logger

private def line (level : Level) (message : String) : Line :=
  ⟨level, targetOf "logging", message⟩

def refusalNotice (file : FileRequest) : List Line :=
  match file.opening with
  | .opened => []
  | .standardError => []
  | .refused reason =>
      [line .warn ("can't open log file " ++ file.path ++ ": " ++ reason ++
        "; logging to stderr")]

/-- The filter that is asked for, and complaints about it. -/
def chooseFilter (request : Request) : Filter × List String :=
  match request.filter <|> request.environmentFilter with
  | none => (.standard, [])
  | some text => Filter.parse text

def setUp (request : Request) : Logger :=
  let (filter, complaints) := chooseFilter request
  let logger : Logger :=
    { filter
      sink := (request.file.map FileRequest.sink).getD .standardError
      complaints := complaints.map fun complaint =>
        "warning: " ++ complaint ++ ", ignoring it"
      lines := [] }
  (logger.writeAll (request.file.toList.flatMap refusalNotice)).write
    (line .debug "logging initialized")

/-- Attempts to set logging up a second time. -/
def setUpAgain (logger : Logger) (_ : Request) : Logger := logger

def text (logger : Logger) : List Char :=
  logger.lines.flatMap (Line.written Line.heading)

def errorText (logger : Logger) : List String :=
  Text.linesOf (logger.complaints.flatMap (fun complaint => (complaint ++ "\n").toList) ++
    match logger.sink with
    | .standardError => logger.text
    | .file => [])

def fileText (logger : Logger) : List String :=
  match logger.sink with
  | .standardError => []
  | .file => Text.linesOf logger.text

end Logger

end Cadence.Log
