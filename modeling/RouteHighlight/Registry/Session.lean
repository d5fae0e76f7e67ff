import RouteHighlight.Registry.Basic

/-!
# Sessions with a registry

A session holds a registry and the log of what happened to it. Operations that change it run in
`SessionM`, where an error leaves the state as it was at that point.
-/

namespace RouteHighlight

structure Session where
  registry : Registry
  events : List Event

abbrev SessionM := ExceptT LexError (StateM Session)

namespace Session

def empty : Session := ⟨.empty, []⟩

def report (event : Event) : SessionM Unit :=
  modify fun session => { session with events := session.events ++ [event] }

def compile (pattern : String) : SessionM Glob :=
  match Glob.compile? pattern with
  | some glob => return glob
  | none => throw (.tooLarge pattern)

/-- Registers a highlighter under all of its aliases and patterns. The patterns are compiled
first, so that a bad one leaves no trace. -/
def register (highlighter : Highlighter) : SessionM Unit := do
  let globs ← highlighter.filenames.mapM compile
  report (.registering highlighter.name highlighter.aliases highlighter.filenames)
  modify fun session => { session with registry := session.registry.insert highlighter globs }

def setup : SessionM Unit := register .routes

def initDefaults : SessionM Unit := do
  if (← get).registry.available.isEmpty then setup

end Session

end RouteHighlight
