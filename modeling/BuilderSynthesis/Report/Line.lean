import BuilderSynthesis.Text.Segment

/-!
Contract: the lines of a report, by what they are for.

Reports say what a line means; `Line.text` alone decides how it looks on a
terminal. Alerts go to the error stream and everything else to the output.
-/

namespace BuilderSynthesis.Report

inductive Line where
  | heading (text : String)
  | setting (key value : String)
  | bullet (text : String)
  /-- Something that is new. -/
  | addition (text : String)
  /-- A message on the error stream. -/
  | alert (text : String)
  | divider (label : String)
  /-- Text that is laid out already. -/
  | block (text : String)
  | blank
deriving DecidableEq, Repr

namespace Line

def text : Line → String
  | .heading text => text ++ ":"
  | .setting key value => key ++ ": " ++ value
  | .bullet text => "  - " ++ text
  | .addition text => "  + " ++ text
  | .alert text => text
  | .divider label => "── " ++ label ++ " ──"
  | .block text => text
  | .blank => ""

def isAlert : Line → Bool
  | .alert _ => true
  | _ => false

end Line

def textOf (lines : List Line) : String :=
  String.join (lines.map (fun line => line.text ++ "\n"))

def outputText (lines : List Line) : String :=
  textOf (lines.filter (fun line => !line.isAlert))

def alertText (lines : List Line) : String :=
  textOf (lines.filter Line.isAlert)

end BuilderSynthesis.Report
