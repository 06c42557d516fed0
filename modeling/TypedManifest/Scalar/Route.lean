import TypedManifest.Scalar.Error
import TypedManifest.Text.Blank
import TypedManifest.Text.Digits

/-!
# Routes

A route is written `host[:port][/path]`. The path begins at the first slash, the port follows the
last colon before it, and the host is a list of segments with points between them, none of which is
empty. The route holds no blank, though blanks around it are trimmed.

The host may lie under a domain that is known. A host lies under a domain when the segments of the
domain, compared without regard to ASCII case, are the last segments of the host. Of several such
domains the longest counts, and of equally long ones the one listed last. A strict reader refuses a
host under none of the known domains, provided that any are known.
-/

namespace TypedManifest.Scalar

/-- A route, taken apart. -/
structure Route where
  /-- The whole host name, its domain included. -/
  host : String
  /-- The known domain that the host lies under. -/
  domain : Option String
  /-- The port. -/
  port : Option Nat
  /-- The path with the slash it begins with. -/
  path : Option String
  deriving DecidableEq, Repr

namespace Route

/-- The route as it is written. The domain does not show: it is part of the host. -/
def text (r : Route) : String :=
  r.host ++ (match r.port with | some p => ":" ++ toString p | none => "") ++ r.path.getD ""

/-- The host of a route: one or more segments, none of them empty. -/
def checkHost (host : List Char) : Except Cause Unit :=
  if host = [] then .error (.malformedRoute "missing host")
  else if (host.splitOn '.').any (·.isEmpty) then .error (.malformedRoute "empty domain segment")
  else .ok ()

/-- The host and the port of what stands before the path. -/
def readAuthority (authority : List Char) : Except Cause (List Char × Option Nat) :=
  match Text.cutLast ':' authority with
  | none => (checkHost authority).map fun _ => (authority, none)
  | some (host, port) =>
    match Text.naturalUpTo? Text.maxPort port with
    | none => .error (.malformedRoute s!"'{String.ofList port}' is not a valid port")
    | some n => (checkHost host).map fun _ => (host, some n)

/-- Take a trimmed text apart, leaving the domain open. -/
def split (text : List Char) : Except Cause Route :=
  if text = [] then .error .empty
  else if text.any Text.isBlank then .error (.malformedRoute "contains whitespace")
  else
    let (authority, path) := Text.cutBefore (· == '/') text
    (readAuthority authority).map fun (host, port) => {
      host := String.ofList host
      domain := none
      port
      path := if path = [] then none else some (String.ofList path) }

/-- The host lies under the domain: it is the domain, or it ends in a point and the domain. -/
def liesUnder (host domain : String) : Bool :=
  let h := Text.lower host.toList
  let d := Text.lower domain.toList
  h == d || ('.' :: d).isSuffixOf h

/-- The longest text in UTF-8, the last one of those equally long. -/
def longest? (texts : List String) : Option String :=
  texts.foldl
    (fun best t => match best with
      | some b => if t.utf8ByteSize < b.utf8ByteSize then some b else some t
      | none => some t)
    none

/-- The known domain that a host lies under. -/
def domainOf? (known : List String) (host : String) : Option String :=
  longest? (known.filter (liesUnder host))

/-- Read a route, given the known domains: `none` when nothing is known of them. -/
def read (known : Option (List String)) (strict : Bool) (raw : String) : Except Error Route :=
  match split (Text.trim raw.toList) with
  | .error cause => .error ⟨raw, cause⟩
  | .ok route =>
    let domain := known.bind (domainOf? · route.host)
    match known, domain, strict with
    | some known, none, true => .error ⟨raw, .unknownValue "domain" known⟩
    | _, _, _ => .ok { route with domain }

end Route

end TypedManifest.Scalar
