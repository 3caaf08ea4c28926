import ZoneGate.Log.Directive

/-!
# Log filters

A filter is a list of directives. About an event the directive with the longest fitting target
decides; within a span, the directives that are about this span let through what they can besides.
-/
namespace ZoneGate.Log

structure Filter where
  directives : List Directive
  deriving DecidableEq

namespace Filter

/-- The texts between commas, empty ones left out. -/
def parts (s : String) : List String :=
  ((Text.splitAt ',' s.toList).filter fun part => !part.isEmpty).map String.ofList

/-- A filter of some directives. Without any, errors are let through. -/
def ofDirectives (directives : List Directive) : Filter :=
  ⟨if directives.isEmpty then [.ofTarget "" (some .error)] else directives⟩

/-- Reads the directives of a text. Those that cannot be read do not count. -/
def parse (s : String) : Filter := ofDirectives ((parts s).filterMap Directive.parse?)

/-- The limit of the directive that prevails over all others. -/
def limitOf (directives : List Directive) : Limit :=
  let best := directives.foldl (fun (best : Option Directive) d =>
    if best.all d.prevails then some d else best) none
  best.bind (·.limit)

/-- The directives about spans, of which the later ones stand for earlier ones about the same. -/
def dynamics (f : Filter) : List Directive :=
  (f.directives.filter (·.isDynamic)).foldl (fun kept d =>
    kept.filter (fun earlier => !earlier.sameSubject d) ++ [d]) []

/-- The most that any directive might let through. Which values a span has is known only when it is
there, so where values are wanted that is everything. -/
def reach (f : Filter) : Limit :=
  if f.directives.any (·.wantsValue) then some .trace
  else .widest (f.directives.map (·.limit))

/-- Whether a span is entered: directives are about it, or it is let through by its target. -/
def enters (f : Filter) (s : Span) : Bool :=
  f.reach.allows s.level &&
    (f.dynamics.any (·.coversSpan s) ||
      (limitOf (f.directives.filter fun d => d.isStatic && d.coversTarget s.target)).allows s.level)

/-- What is let through within a span whatever its target. -/
def limitWithin (f : Filter) (s : Span) : Limit :=
  if f.enters s then .widest ((f.dynamics.filter (·.acceptsSpan s)).map (·.limit)) else none

/-- Whether an event is let through. -/
def allows (f : Filter) (span : Option Span) (e : Event) : Bool :=
  (limitOf (f.directives.filter (·.coversEvent e))).allows e.level ||
    span.any fun s => (f.limitWithin s).allows e.level

/-- The parts of the service that a change of level is for. -/
def targets : List String := ["tower_http", "zonewarden"]

/-- The filter for one level throughout the service. -/
def ofLevel (level : Level) : Filter := ⟨targets.map fun target => .ofTarget target (some level)⟩

/-- What is let through where nothing else is configured. -/
def standard : Filter := ofLevel .info

/-- The filter that an environment variable sets. Here a directive that cannot be read makes the
whole variable void. -/
def ofVariable (value : Option String) : Filter :=
  match value with
  | none => standard
  | some s =>
    match (parts s).mapM Directive.parse? with
    | some directives => ofDirectives directives
    | none => standard

end Filter

/-- The events that a filter lets through. Without a filter nothing is logged any more. -/
def visible (filter : Option Filter) (span : Option Span) (events : List Event) : List Event :=
  match filter with
  | none => []
  | some f => events.filter (f.allows span)

end ZoneGate.Log
