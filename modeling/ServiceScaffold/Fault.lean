/-!
# Faults

Why a run stops. A fault has a kind, which says the part of the work that failed, and a detail;
its message is the kind's heading followed by the detail.
-/

namespace ServiceScaffold

/-- The part of the work that failed. A run has no faults of the kinds `template` and `yaml` of its
own, but the preamble that a merge is given may fail for any of these. -/
inductive FaultKind
  | parse
  | generation
  | module
  | config
  | template
  | io
  | yaml
  deriving DecidableEq, Repr

def FaultKind.heading : FaultKind → String
  | .parse => "Parse error"
  | .generation => "Generation error"
  | .module => "Module resolution error"
  | .config => "Config error"
  | .template => "Template error"
  | .io => "IO error"
  | .yaml => "YAML error"

structure Fault where
  kind : FaultKind
  detail : String
  deriving DecidableEq, Repr

namespace Fault

def message (fault : Fault) : String :=
  fault.kind.heading ++ ": " ++ fault.detail

end Fault
end ServiceScaffold
