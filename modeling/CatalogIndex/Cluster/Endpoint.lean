/-
  CatalogIndex.Cluster.Endpoint — the address a program talks to.
-/
import CatalogIndex.Config.Basic
import CatalogIndex.Text.Quoted

namespace CatalogIndex

/-- Where the requests go, and whether they carry a name and a password. -/
structure Endpoint where
  baseUrl : String
  hasCredentials : Bool

namespace Endpoint

/-- The address that the settings name, if they make sense.  Credentials need a user; a password
    alone is not used. -/
def ofConfig (c : Config) : Outcome Endpoint := do
  let c ← c.validate
  return { baseUrl := c.baseUrl, hasCredentials := c.username.isSome }

/-- The address in a report, without the credentials themselves. -/
def describe (e : Endpoint) : String :=
  "HttpTransport \x7b base_url: " ++ Text.quoted e.baseUrl ++ ", has_credentials: "
    ++ (if e.hasCredentials then "true" else "false") ++ " \x7d"

end Endpoint

end CatalogIndex
