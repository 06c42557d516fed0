import TypedManifest.Schema.Definition

/-!
# The schema of deployment manifests

A manifest is one document. It lists applications, and it may set for all of them what an
application may set for itself: the properties of an application, except those that tell one
application from another, are properties of the manifest too. Both beans hold the very same
properties.

Three lists that only a platform knows (its buildpacks, its services and its domains) come from
sources of hints, each of which may be missing. Buildpacks and domains are offered and never
checked; a service must be one of those known, if any are.
-/

namespace TypedManifest.Manifest

/-- What the schema of manifests depends on. -/
structure Settings where
  /-- The buildpacks of the platform. -/
  buildpacks : Option Source := none
  /-- The services of the platform. -/
  services : Option Source := none
  /-- The domains of the platform. -/
  domains : Option Source := none
  /-- Where the properties are described, each under its name. -/
  descriptions : DescriptionSource := .nowhere
  /-- The number of the first node; the others follow. -/
  firstNode : Nat := 0

/-- How many nodes the schema has. -/
def nodeCount : Nat := 21

/-- The amounts of memory that are offered. -/
def memoryHints : List Hint := [{ value := "256M" }, { value := "512M" }, { value := "1024M" }]

namespace Settings

variable (s : Settings)

/-! ### Types of scalars -/

/-- A path in the file system. -/
def path : SchemaType := .atomic s.firstNode { name := "Path" }

/-- A buildpack. -/
def buildpack : SchemaType :=
  .atomic (s.firstNode + 1) { name := "Buildpack", sources := s.buildpacks.toList }

/-- A domain. -/
def domain : SchemaType :=
  .atomic (s.firstNode + 2) { name := "Domain", sources := s.domains.toList }

/-- A service: one of those known through the source, if there is a source. -/
def service : SchemaType :=
  .atomic (s.firstNode + 3) {
    name := "Service"
    parser := s.services.map (.known "Service")
    sources := s.services.toList }

/-- True or false. -/
def boolean : SchemaType :=
  .atomic (s.firstNode + 4) (.ofEnumeration "boolean" ⟨["true", "false"], []⟩)

/-- A text that is not blank. -/
def filledText : SchemaType :=
  .atomic (s.firstNode + 5) { name := "String", parser := some .nonEmpty }

/-- Any text. -/
def anyText : SchemaType := .atomic (s.firstNode + 6) { name := "String" }

/-- The text of a route. Its domain need not be known. -/
def routeText : SchemaType :=
  .atomic (s.firstNode + 7) { name := "route", parser := some (.route s.domains false) }

/-- An amount of memory. -/
def memory : SchemaType :=
  .atomic (s.firstNode + 8) { name := "Memory", parser := some .memory, hints := memoryHints }

/-- How the health of an application is checked. -/
def healthCheck : SchemaType :=
  .atomic (s.firstNode + 9) (.ofEnumeration "Health Check Type"
    ⟨["none", "process", "port", "http"], [("none", "process")]⟩)

/-- A number of instances. -/
def instanceCount : SchemaType :=
  .atomic (s.firstNode + 10)
    { name := "Strictly Positive Integer", parser := some (.integerAtLeast 1) }

/-- A number of seconds. -/
def seconds : SchemaType :=
  .atomic (s.firstNode + 11) { name := "Positive Integer", parser := some (.integerAtLeast 1) }

/-! ### Collections -/

/-- Any texts. -/
def anyTexts : SchemaType := .sequence (s.firstNode + 12) s.anyText

/-- Domains. -/
def domainList : SchemaType := .sequence (s.firstNode + 13) s.domain

/-- Variables of the environment. -/
def environment : SchemaType := .map (s.firstNode + 14) s.anyText s.anyText

/-- An entry of the list of routes. -/
def route : SchemaType :=
  .bean (s.firstNode + 15) "Route" [.mk "route" s.routeText true none]

/-- Routes. -/
def routes : SchemaType := .sequence (s.firstNode + 16) s.route

/-- Services. -/
def serviceList : SchemaType := .sequence (s.firstNode + 17) s.service

/-! ### The application and the manifest -/

/-- A property that is described under its name. -/
def property (name : String) (type : SchemaType) (required : Bool := false) : Property :=
  .mk name type required (some ⟨s.descriptions, name⟩)

/-- The properties of an application. -/
def properties : List Property := [
  s.property "buildpack" s.buildpack,
  s.property "command" s.anyText,
  s.property "disk_quota" s.memory,
  s.property "domain" s.domain,
  s.property "domains" s.domainList,
  s.property "env" s.environment,
  s.property "host" s.anyText,
  s.property "hosts" s.anyTexts,
  s.property "instances" s.instanceCount,
  s.property "memory" s.memory,
  s.property "name" s.filledText true,
  s.property "no-hostname" s.boolean,
  s.property "no-route" s.boolean,
  s.property "path" s.path,
  s.property "random-route" s.boolean,
  s.property "routes" s.routes,
  s.property "services" s.serviceList,
  s.property "stack" s.anyText,
  s.property "timeout" s.seconds,
  s.property "health-check-type" s.healthCheck,
  s.property "health-check-http-endpoint" s.filledText]

/-- An application. -/
def application : SchemaType := .bean (s.firstNode + 18) "Application" s.properties

/-- Applications. -/
def applications : SchemaType := .sequence (s.firstNode + 19) s.application

/-- A property that tells one application from another. -/
def isIdentifying (name : String) : Bool := ["name", "host", "hosts"].contains name

/-- The properties of an application that the manifest may set for all of them. -/
def shared : List Property := s.properties.filter fun p => !isIdentifying p.name

/-- The manifest. -/
def toplevel : SchemaType :=
  .bean (s.firstNode + 20) "Cloudfoundry Manifest" (
    .mk "applications" s.applications false none :: s.property "inherit" s.anyText :: s.shared)

/-- The names under which properties are described. -/
def describedNames : List String := "inherit" :: s.properties.map Property.name

/-- The schema. -/
def schema : Schema := ⟨s.toplevel, .exactly 1⟩

end Settings

end TypedManifest.Manifest
