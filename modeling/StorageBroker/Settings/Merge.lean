import StorageBroker.Settings.Names
import StorageBroker.Value.Mapping
/-!
# Forced settings

The administrator's settings of a plan and of a service replace what a request asks for, whole
value by whole value: the plan's first, then the service's.

* `apply` -- one group of settings, of which every entry replaces the one of its name;
* `merge` -- several groups, one after the other;
* `merge_nil` -- without settings the request is left as it is.
-/

namespace StorageBroker.Settings

/-- Applies one group of settings; nothing given applies nothing. -/
def apply (parameters settings : Value) : Except Malformed Value :=
  if settings.truthy then parameters.update settings else .ok parameters

/-- Request parameters, a new mapping when there are none. -/
def start (parameters : Value) : Value := if parameters.isNull then .mapping [] else parameters

/-- **Request parameters with groups of settings forced on them**, in order. -/
def merge (parameters : Value) (settings : List Value) : Except Malformed Value :=
  settings.foldlM apply (start parameters)

theorem merge_nil (parameters : Value) : merge parameters [] = .ok (start parameters) := rfl

theorem start_of_ne_null {v : Value} (h : v.isNull = false) : start v = v := by simp [start, h]

end StorageBroker.Settings
