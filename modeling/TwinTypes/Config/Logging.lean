import TwinTypes.Config.Settings
import TwinTypes.Log.Filter

/-!
# Settings of reports

How the settings and the environment make a filter and a way of writing events. The level may be
written in a few ways that filters do not know; a level that makes no filter counts as `warn`, so a
slip in it never stops a run.
-/

namespace TwinTypes

namespace Logging

/-- A text with the capital letters of ASCII made small. -/
def lowered (cs : List Char) : List Char :=
  cs.map Char.toLower

/-- The directives that a level stands for. A level with an equals sign or a comma is a list of
directives already. -/
def levelDirectives (level : String) : String :=
  let cs := Text.trim level.toList
  if cs.isEmpty then Logging.default.level
  else if cs.contains '=' || cs.contains ',' then String.ofList cs
  else if lowered cs = "warning".toList then "warn"
  else if lowered cs = "none".toList then "off"
  else String.ofList (lowered cs)

/-- The directives of the settings with those of the environment after them. -/
def directives (l : Logging) (rustLog : Option String) : String :=
  let level := levelDirectives l.level
  match rustLog.map Text.trimmed with
  | some more => if more.isEmpty then level else level ++ "," ++ more
  | none => level

/-- The filter of the settings. -/
def filter (l : Logging) (rustLog : Option String) : Log.Filter :=
  match Log.Filter.parse (l.directives rustLog) with
  | some f => f
  | none => (Log.Filter.parse Logging.default.level).getD ⟨[], []⟩

end Logging

namespace Log

/-- A way of reporting events. -/
structure Logger where
  /-- Which events are reported. -/
  filter : Filter
  /-- Whether each is a line of JSON. -/
  json : Bool
  /-- Whether any is reported. -/
  enabled : Bool
  deriving Inhabited

/-- The way of reporting events that the settings and the environment ask for. -/
def Logger.of (l : Logging) (rustLog : Option String) : Logger :=
  ⟨l.filter rustLog, l.json, l.stderr⟩

/-- The line of an event, empty if it is not reported. -/
def Logger.line (logger : Logger) (time : String) (e : Event) : String :=
  if logger.enabled && logger.filter.reports e then
    if logger.json then e.jsonLine time else e.plainLine time
  else ""

end Log

end TwinTypes
