import OpenApiClient.Client.Declaration
import OpenApiClient.Client.Grouping

/-!
# Statistics

What a run has made and what it has left out.
-/
namespace OpenApiClient.Client

/-- Counts of a run. -/
structure Statistics where
  modules : Nat := 0
  functions : Nat := 0
  duplicates : Nat := 0
  models : Nat := 0
  skipped : Nat := 0
  warnings : List Warning := []
deriving DecidableEq, Repr

namespace Statistics

/-- Keeps a warning, and counts it if a path is left out. -/
def addWarning (statistics : Statistics) (warning : Warning) : Statistics :=
  { statistics with
      skipped := if warning.isSkipped then statistics.skipped + 1 else statistics.skipped
      warnings := statistics.warnings ++ [warning] }

def addWarnings (statistics : Statistics) (warnings : List Warning) : Statistics :=
  warnings.foldl addWarning statistics

/-- Counts the modules of a grouping and what it left out. -/
def addModules (statistics : Statistics) (grouping : Grouping) : Statistics :=
  let counted : Statistics := { statistics with
    modules := statistics.modules + grouping.modules.length
    functions := statistics.functions + grouping.size
    duplicates := statistics.duplicates + grouping.duplicates }
  counted.addWarnings grouping.warnings

def addModels (statistics : Statistics) (declarations : List Declaration) : Statistics :=
  { statistics with models := statistics.models + declarations.length }

end Statistics

end OpenApiClient.Client
