import ServiceScaffold.Generation
import ServiceScaffold.Summary

/-!
# Reports

The lines that tell what a run did, and those that tell why it stopped.
-/

namespace ServiceScaffold
namespace CommandLine

/-- A fault, and what was being done when it arose. -/
structure Problem where
  context : String
  fault : Fault
  deriving DecidableEq, Repr

def indented (text : String) : String :=
  String.ofList (Text.replaceAll ['\n'] "\n    ".toList ('\n' :: text.toList)).tail

def Problem.message (problem : Problem) : String :=
  "Error: " ++ problem.context ++ "\n\nCaused by:\n" ++ indented problem.fault.message ++ "\n"

def runHeading (descriptorSet : String) (settings : Settings) (verbose : Bool) : String :=
  "→ Generating handlers from: " ++ descriptorSet ++ "\n"
    ++ if verbose then
        "  Handler path: " ++ settings.handlerPath ++ "\n  Package: " ++ settings.packageName
          ++ "\n  Version: " ++ settings.version ++ "\n"
      else ""

def methodLine (name : String) : String :=
  "      + " ++ name ++ "\n"

def mergedLines (verbose : Bool) (summary : Handler.Summary) : String :=
  "  ✓ " ++ summary.path ++ " (" ++ (if summary.created then "created" else "updated") ++ ", "
    ++ toString summary.appended.length ++ " appended, "
    ++ toString summary.preserved.length ++ " kept)\n"
    ++ if verbose then String.join (summary.appended.map methodLine) else ""

def outcomeLines (verbose : Bool) : Handler.Outcome → String × String
  | .merged summary => (mergedLines verbose summary, "")
  | .skipped path reason => ("", "  ⚠ Skipping " ++ path ++ ": " ++ reason.message ++ "\n")

def reportLines (verbose : Bool) (report : FileReport) : String :=
  "\n" ++ report.source ++ "\n"
    ++ String.join (report.outcomes.map fun outcome => (outcomeLines verbose outcome).1)
    ++ "  ✓ " ++ report.tablePath ++ " (" ++ toString report.table.endpoints.length
    ++ " endpoints)\n"

def runText (verbose : Bool) (reports : List FileReport) : String :=
  if reports.isEmpty then "⚠ No services to generate\n"
  else String.join (reports.map (reportLines verbose)) ++ "\n✓ Generation complete!\n"

def runWarnings (reports : List FileReport) : String :=
  String.join (reports.map fun report =>
    String.join (report.outcomes.map fun outcome => (outcomeLines false outcome).2))

def summaryText (json : Bool) (summaries : List FileSummary) : String :=
  if json then (Text.Json.list (summaries.map FileSummary.json)).render ++ "\n"
  else "✓ Parse successful!\n" ++ String.join (summaries.map FileSummary.text)

end CommandLine
end ServiceScaffold
