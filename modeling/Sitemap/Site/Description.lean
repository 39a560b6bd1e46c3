import Sitemap.ActionLog
import Sitemap.Site.Hosted
import Sitemap.Text.Shown

/-!
# Descriptions

One-line texts about an environment, a site and its settings, for logs and failing checks.
A description names the kind of thing and its telling fields; two dots say that there is
more to it.

## Main definitions

- `describeRecord` — the form that all descriptions share
- `Environment.description`, `SiteConfig.description`, `Hosted.description` — what is told
-/

namespace Sitemap

/-- A name with fields in braces. -/
def describeRecord (name : String) (fields : List (String × String)) : String :=
  let shown := fields.map fun (field, value) => field ++ ": " ++ value
  name ++ " \x7b " ++ ", ".intercalate shown ++ " \x7d"

/-- A name with fields in braces and two dots for what is left out. -/
def describePartly (name : String) (fields : List (String × String)) : String :=
  let shown := fields.map fun (field, value) => field ++ ": " ++ value
  name ++ " \x7b " ++ ", ".intercalate (shown ++ [".."]) ++ " \x7d"

/-- The words for a truth value. -/
def describeBool : Bool → String
  | true => "true"
  | false => "false"

/-- Something that may be absent. -/
def describeOption : Option String → String
  | some value => "Some(" ++ value ++ ")"
  | none => "None"

/-- An environment by the number of its last commit. It tells nothing about where it keeps
    its tables. -/
def Environment.description (env : Environment) : String :=
  describePartly "Environment"
    [("path", describeOption none),
      ("txn_id", "TransactionId(" ++ toString env.lastTransaction ++ ")")]

/-- The store of an environment. -/
def Environment.storeDescription (env : Environment) : String :=
  describePartly "PagePersistenceGateway" [("env", env.description)]

/-- The name of a policy. -/
def DeletePolicy.description : DeletePolicy → String
  | reject => "Reject"
  | unpublishFirst => "UnpublishFirst"

/-- The root page that an empty store is given. -/
def RootSeed.description (seed : RootSeed) : String :=
  describeRecord "RootSeed"
    [("code", showText seed.code), ("group", showText seed.group), ("model", showText seed.model)]

/-- The settings of a site. -/
def SiteConfig.description (config : SiteConfig) : String :=
  describeRecord "ServiceConfig"
    [("delete_policy", config.deletePolicy.description),
      ("action_log_capacity", toString config.logCapacity),
      ("root", describeOption (config.root.map RootSeed.description))]

/-- A site that is about to be opened, and whether it has a recorder of its own. -/
def SiteConfig.openingDescription (config : SiteConfig) (ownRecorder : Bool) : String :=
  describeRecord "ServiceBuilder"
    [("config", config.description), ("custom_sink", describeBool ownRecorder)]

/-- A site by its store, its settings and the number of its pages. -/
def Hosted.description (h : Hosted) : String :=
  describePartly "PageTreeService"
    [("gateway", h.env.storeDescription), ("config", h.site.config.description),
      ("pages", toString h.site.tree.size)]

/-- A log whose worker was started. -/
def ActionLog.description (_ : ActionLog) : String :=
  describeRecord "ActionLog" [("running", describeBool true)]

end Sitemap
