import ReplicaSync.Logging.Directive

/-!
# Log filters

A filter is a list of directives, separated by commas. A record for itself is decided by the most
telling of the directives that speak about it: the one with the longest target, and of those for
one target the one that names a field. A record is also wanted inside a span that a directive
watches, as far as the threshold of the directive goes. A span that is watched is entered in any
case; one that is not wanted is as if it had never been there.
-/

namespace ReplicaSync

/-- The directives of a filter, in the order in which they were given. -/
structure LogFilter where
  directives : List LogDirective
  deriving DecidableEq, Repr

/-- The spans that were entered, the outermost first, and the thresholds that the watched ones
among them bring with them. -/
structure LogScope where
  spans : List LogSpan
  thresholds : List LogThreshold
  deriving DecidableEq, Repr

namespace LogScope

def outside : LogScope := ⟨[], []⟩

/-- A record of this level is wanted because of a span around it. -/
def admits (scope : LogScope) (level : LogLevel) : Bool :=
  scope.thresholds.any (·.admits level)

end LogScope

namespace LogFilter

/-! ### Reading -/

/-- The texts between commas. -/
def pieces : List Char → List (List Char)
  | [] => [[]]
  | c :: rest =>
    if c = ',' then [] :: pieces rest
    else match pieces rest with
      | first :: more => (c :: first) :: more
      | [] => [[c]]

/-- Reads a filter; nothing between two commas is no directive. -/
def ofText (text : String) : Except FilterFault LogFilter :=
  (((pieces text.toList).filter (· ≠ [])).mapM LogDirective.ofText).map LogFilter.mk

/-- The targets of this program, from a level on, and warnings of what it is built on. -/
def standard (level : LogLevel) : LogFilter :=
  let own := ["syncwatch", "core_runtime", "core_sync", "bridge_traits", "bridge_desktop"]
  ⟨(own.map (LogDirective.ofTarget · level)) ++
    [.ofTarget "notify" .warn, .ofTarget "mio" .warn]⟩

/-! ### Records for themselves -/

/-- No name comes before any name; names are in order. -/
def nameLe : Option String → Option String → Bool
  | none, _ => true
  | some _, none => false
  | some a, some b => a ≤ b

/-- Of two directives that speak about the same record, the second tells at least as much. -/
def tellsLess (a b : LogDirective) : Bool :=
  let length (directive : LogDirective) : Nat := directive.target.elim 0 (·.length + 1)
  length a < length b ||
    (length a = length b && nameLe (a.field.map (·.name)) (b.field.map (·.name)))

/-- The more telling of two directives; of two for the same subject, the later. -/
def stronger (a b : LogDirective) : LogDirective := if tellsLess a b then b else a

/-- The directive that decides, among those that speak about a record for itself. -/
def decisive? (filter : LogFilter) (covers : LogDirective → Bool) : Option LogDirective :=
  (filter.directives.filter fun directive => directive.isStatic && covers directive).foldl
    (fun found directive => some (found.elim directive (stronger · directive))) none

/-! ### Records inside spans -/

/-- The last of the directives for each subject. -/
def latest : List LogDirective → List LogDirective
  | [] => []
  | directive :: rest =>
    if rest.any fun later => later.subject = directive.subject then latest rest
    else directive :: latest rest

/-- The directives that watch a span. -/
def watching (filter : LogFilter) (span : LogSpan) : List LogDirective :=
  (latest (filter.directives.filter (·.isDynamic))).filter (·.watches span)

/-- The threshold for what happens inside a span, if the span is watched. -/
def inside? (filter : LogFilter) (span : LogSpan) : Option LogThreshold :=
  match filter.watching span with
  | [] => none
  | watching => some (.widest ((watching.filter (·.accepts span)).map (·.threshold)))

/-! ### Decisions -/

/-- No record beyond this threshold can be wanted. A value that has to be known keeps every span
in play. -/
def reach (filter : LogFilter) : LogThreshold :=
  if filter.directives.any (·.testsValue) then .everything
  else .widest (filter.directives.map (·.threshold))

/-- The event is wanted. -/
def admitsEvent (filter : LogFilter) (scope : LogScope) (event : LogEvent) : Bool :=
  scope.admits event.level ||
    (filter.decisive? (·.coversEvent event)).any (·.threshold.admits event.level)

/-- The span is wanted. -/
def admitsSpan (filter : LogFilter) (scope : LogScope) (span : LogSpan) : Bool :=
  filter.reach.admits span.level &&
    (!(filter.watching span).isEmpty || scope.admits span.level ||
      (filter.decisive? (·.coversSpan span)).any (·.threshold.admits span.level))

/-- Enters a span, if it is wanted. -/
def enter (filter : LogFilter) (scope : LogScope) (span : LogSpan) : LogScope :=
  if filter.admitsSpan scope span then
    ⟨scope.spans ++ [span], scope.thresholds ++ (filter.inside? span).toList⟩
  else scope

/-- Enters spans, the outermost first. -/
def enterAll (filter : LogFilter) (spans : List LogSpan) : LogScope :=
  spans.foldl filter.enter .outside

end LogFilter

end ReplicaSync
