import SqlTemplate.Report
import SqlTemplate.Text.Basic

/-! The settings of a resolution, which always have a marker. -/

namespace SqlTemplate

/-- The settings shared by the resolutions of a query. -/
structure Config where
  /-- The text that stands for one bound value. -/
  marker : Text
  /-- Whether terms with an unknown operator are left out of their group. -/
  ignoresUnknown : Bool
  /-- Whether each outermost resolution is traced. -/
  isTraced : Bool
  /-- A value bound to an empty marker would leave no place in the query. -/
  marker_ne_nil : marker ≠ []

/-- Why settings are refused. -/
inductive ConfigFault where
  /-- The marker is empty. -/
  | emptyMarker

/-- The report of refused settings. -/
def ConfigFault.report : ConfigFault → Report
  | emptyMarker => .plain "ValueError" "marker must be a non-empty string"

namespace Config

/-- A question mark, with unknown operators refused and nothing traced. -/
def default : Config where
  marker := ['?']
  ignoresUnknown := false
  isTraced := false
  marker_ne_nil := by decide

instance : Inhabited Config :=
  ⟨default⟩

/-- Settings with some of them changed. -/
def replace (config : Config) (marker : Option Text) (ignoresUnknown : Option Bool) :
    Except ConfigFault Config :=
  let chosen := marker.getD config.marker
  if given : chosen = [] then .error .emptyMarker
  else .ok ⟨chosen, ignoresUnknown.getD config.ignoresUnknown, config.isTraced, given⟩

/-- Settings under which each outermost resolution is traced. -/
def traced (config : Config) : Config :=
  { config with isTraced := true }

end Config

end SqlTemplate
