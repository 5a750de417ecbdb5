import InstrumentLink.Log.Directive

/-!
Which log entries are shown. A filter is a list of directives, each a threshold for some of the entries; of those that
fit an entry, the one that asks most of it decides.
-/

namespace InstrumentLink

structure LogFilter where
  directives : List Directive
  deriving DecidableEq, Repr

namespace LogFilter

def better (best : Option Directive) (next : Directive) : Option Directive :=
  if best.any (next.specificity < ·.specificity) then best else some next

def decisive? (filter : LogFilter) (entry : LogEntry) : Option Directive :=
  (filter.directives.filter (·.fits entry)).foldl better none

def allows (filter : LogFilter) (entry : LogEntry) : Bool :=
  (filter.decisive? entry).any (·.threshold.allows entry.level)

/-- Directives stand between commas, and places left empty do not count. A filter without directives shows
errors alone; one bad directive spoils the whole. -/
def read? (text : String) : Option LogFilter :=
  let parts := (text.toList.splitOn ',').filter (!·.isEmpty)
  if parts.isEmpty then some ⟨[.ofThreshold .errors]⟩
  else (parts.mapM fun part => Directive.read? (String.ofList part)).map (⟨·⟩)

def default (verbose : Bool) : LogFilter :=
  ⟨[.ofThreshold (if verbose then .debugs else .infos)]⟩

/-- The filter asked for, or the default where none is asked for or what is asked for cannot be read. -/
def choose (asked : Option String) (verbose : Bool) : LogFilter :=
  (asked.bind read?).getD (default verbose)

end LogFilter
end InstrumentLink
