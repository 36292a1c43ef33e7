import Dataflow.Validation

/-! A validation result as text for people.

A line with the verdict and the counts, the issues by severity, and the nodes that
were inserted; groups that are empty are left out. Every line ends with a line feed. -/
namespace Dataflow

namespace Report

/-- Some lines under a title with their number, or nothing if there are none. -/
def group (title : String) (lines : List String) : List String :=
  if lines.isEmpty then [] else s!"{title} ({lines.length}):" :: lines.map ("  - " ++ ·)

def issueLine (i : Issue) : String := i.text ++ if i.autoFixable then " [auto-fixable]" else ""

def nodeLine (n : Node) : String := s!"{n.id} ({n.type})"

/-- The first line. -/
def verdict (r : Result) : String :=
  let word := if r.valid then "valid" else "invalid"
  let errors := (r.ofSeverity .error).length
  let warnings := (r.ofSeverity .warning).length
  let infos := (r.ofSeverity .info).length
  s!"Workflow is {word}: {errors} error(s), {warnings} warning(s), {infos} info"

def lines (r : Result) : List String :=
  verdict r ::
    (group "Errors" ((r.ofSeverity .error).map issueLine) ++
    group "Warnings" ((r.ofSeverity .warning).map issueLine) ++
    group "Info" ((r.ofSeverity .info).map issueLine) ++
    group "Inserted nodes" (r.insertedNodes.map nodeLine))

end Report

/-- The report of a result. -/
def Result.summary (r : Result) : String := String.join ((Report.lines r).map (· ++ "\n"))

end Dataflow
