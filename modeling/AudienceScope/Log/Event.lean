import AudienceScope.Graph.Closure

/-!
Log events: what a run tells about its steps, before any of it is filtered out.
-/

set_option autoImplicit false

namespace AudienceScope

namespace Log

/-- How much an event matters, the most important first. -/
inductive Level where
  | error
  | warn
  | info
  | debug
  | trace
deriving DecidableEq

namespace Level

def text : Level → String
  | error => "ERROR"
  | warn => "WARN"
  | info => "INFO"
  | debug => "DEBUG"
  | trace => "TRACE"

def number : Level → Nat
  | error => 1
  | warn => 2
  | info => 3
  | debug => 4
  | trace => 5

end Level

inductive Source where
  | graph
  | selection
  | config
  | prune
deriving DecidableEq

namespace Source

def name : Source → String
  | graph => "sdkscope_filter::graph"
  | selection => "sdkscope_filter::driver"
  | config => "sdkscope::config"
  | prune => "sdkscope::commands::prune"

end Source

structure Event where
  level : Level
  source : Source
  message : String
  fields : List (String × String)
deriving DecidableEq

namespace Event

def line (event : Event) : String :=
  String.intercalate " "
    (event.level.text :: event.message ::
      event.fields.map fun (name, value) => name ++ "=" ++ value)

end Event

end Log

open Log (Event)

/-- Every registration is traced with the sizes of what it carries. -/
def Population.event? : Population → Option Event
  | .addType name descendants =>
    let carried : IdSet .type := .ofList (descendants.map QualifiedName.typeId)
    some ⟨.trace, .graph, "registered type",
      [("type_id", name.typeId.text), ("descendants", toString carried.size)]⟩
  | .addError declaration =>
    some ⟨.trace, .graph, "registered error",
      [("error_id", declaration.name.errorId.text), ("types", toString declaration.typeIds.size)]⟩
  | .addEndpoint service endpoint =>
    let node := endpoint.node
    some ⟨.trace, .graph, "registered endpoint",
      [("endpoint_id", (service.endpointId endpoint).text), ("types", toString node.types.size),
        ("errors", toString node.errors.size)]⟩
  | .markType _ _ => none
  | .markEndpoints _ _ _ => none

namespace Document

def populatedEvent (document : Document) : Event :=
  ⟨.debug, .selection, "populated audience graph",
    [("api", document.apiName), ("types", toString document.types.length),
      ("errors", toString document.errors.length),
      ("services", toString document.services.length)]⟩

def everythingEvent (document : Document) : Event :=
  ⟨.debug, .selection, "no audiences requested, retaining everything",
    [("api", document.apiName)]⟩

/-- A closure is only told of when it was found. -/
def closureEvent (audiences : List String) (manifest : Manifest) : Event :=
  ⟨.debug, .graph, "built audience closure",
    [("audiences", toString (OrderedSet.ofList audiences).size),
      ("endpoints", toString manifest.endpoints.size),
      ("services", toString manifest.services.size),
      ("errors", toString manifest.errors.size),
      ("types", toString manifest.types.size)]⟩

def filterEvents (document : Document) : Selection → List Event
  | .all => [document.everythingEvent]
  | .only audiences =>
    document.population.filterMap Population.event? ++ [document.populatedEvent] ++
      match document.filter (.only audiences) with
      | .ok manifest => [closureEvent audiences manifest]
      | .error _ => []

end Document

end AudienceScope
