import CommandRelay.Environment.OptIn
import CommandRelay.Environment.Proxy

/-!
# Which variables cross

Only a short list of variables crosses by itself, proxies with their hosts replaced, and whatever
the user has opted in by name.

## Main definitions

* `EnvironmentFilter.build` — the variables that cross.
-/

namespace CommandRelay

/-- Decides which variables cross. -/
structure EnvironmentFilter where
  /-- The host through which the foreign side reaches this machine. -/
  gateway : String := Proxy.defaultGateway
  deriving DecidableEq, Repr, Inhabited

namespace EnvironmentFilter

/-- Variables that always cross unchanged. -/
def alwaysPass : List String := ["TERM", "COLORTERM", "TERM_PROGRAM", "TERM_PROGRAM_VERSION",
  "LC_TERMINAL", "LC_TERMINAL_VERSION", "DISPLAY"]

/-- Variables that hold the URL of a proxy. -/
def proxyNames : List String := ["HTTP_PROXY", "HTTPS_PROXY", "FTP_PROXY", "ALL_PROXY",
  "http_proxy", "https_proxy", "ftp_proxy", "all_proxy"]

/-- The names among `names` that the source has, with their values. -/
def present (source : Environment) (names : List String) : List (String × String) :=
  names.filterMap fun name => (source.get? name).map fun value => (name, value)

/-- The proxies of the source that can be redirected, with their new values. -/
def proxies (f : EnvironmentFilter) (source : Environment) (direction : Direction) :
    List (String × String) :=
  (present source proxyNames).filterMap fun e =>
    match Proxy.redirect f.gateway direction e.2 with
    | .ok value => some (e.1, value)
    | .error _ => none

/-- The variables that cross: what always passes, then the proxies, then what was opted in, a
later entry replacing an earlier one. -/
def build (f : EnvironmentFilter) (source : Environment) (direction : Direction) : Environment :=
  Dictionary.ofList (present source alwaysPass ++ f.proxies source direction ++
    present source ((OptIn.ofEnvironment source).map OptIn.name))

end EnvironmentFilter

end CommandRelay
