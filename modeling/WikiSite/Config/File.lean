import WikiSite.Config.Document
import WikiSite.Config.Layer
import WikiSite.Config.Toml
import WikiSite.Json.Reader
import WikiSite.Site.FileTree

/-!
# Settings files

Settings come from two files: one in the user's home, and one in the root of the site, which is laid over it. A file
is found by its name and one of the extensions of the formats. A file that is missing or no text sets nothing, and a
file that its format does not allow spoils the settings.
-/

namespace WikiSite

/-- A format of settings files. -/
inductive ConfigFormat where
  | toml
  | json
  | yaml
  deriving DecidableEq, Repr

namespace ConfigFormat

/-- The table that a text in the format holds. -/
def read : ConfigFormat → Text → Option (List (Text × ConfigValue))
  | .toml, t => readToml t
  | .json, t =>
    match Json.read t with
    | some (.obj members) => some (ConfigValue.ofJson.ofMembers members)
    | _ => none
  | .yaml, t => ConfigValue.readYaml t

/-- The extensions of settings files and their formats, in the order in which they are tried. -/
def extensions : List (String × ConfigFormat) := [("toml", .toml), ("json", .json), ("yaml", .yaml), ("yml", .yaml)]

end ConfigFormat

/-- The entries of the settings file with the given name, less its extension. A file that has the name as it is hides
the others and sets nothing. -/
def configEntries (tree : FileTree) (base : Path) : Option (List (Text × ConfigValue)) :=
  if tree.isFile base then some []
  else
    let found := ConfigFormat.extensions.find? fun e => tree.isFile (base ++ Path.ofText ('.' :: e.1.toList))
    match found with
    | none => some []
    | some (extension, format) =>
      match tree.readText (base ++ Path.ofText ('.' :: extension.toList)) with
      | .ok text => format.read text
      | .error _ => some []

/-- The settings of the site at a root, for a user with the given home. -/
def loadSettings (tree : FileTree) (home root : Path) : Option Settings :=
  if (decodeUtf8 root).isNone then none
  else
    match configEntries tree (home ++ Path.ofText "/.config/mdsite/settings".toList),
        configEntries tree (root ++ Path.ofText "/mdsite".toList) with
    | some user, some site =>
      ConfigValue.decoder.settings (((ConfigValue.table []).overlay user).overlay site)
    | _, _ => none

end WikiSite
