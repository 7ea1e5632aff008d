import Relink.Backend
import Relink.Glob.Search
import Relink.Settings

/-! Which services have runtime files, and which units of single links are enabled. Both are told by patterns
of paths, and a text that is no pattern counts as one that matches nothing. -/

namespace Relink.Artifacts

/-- The paths that match a pattern; a text that is no pattern matches none. -/
def matching (files : Files.Tree) (here : Files.Place) (pattern : String) : List String :=
  (Glob.paths files here pattern).toOption.getD []

def present (files : Files.Tree) (here : Files.Place) (paths : Settings.Paths) (backend : Backend) :
    Bool :=
  let pattern :=
    match backend with
    | .networkd => paths.networkdArtifacts
    | .networkManager => paths.managerArtifacts
  !(matching files here pattern).isEmpty

/-- The names of the enabled units of single links. -/
def auxiliaryUnits (files : Files.Tree) (here : Files.Place) (paths : Settings.Paths) : List String :=
  (matching files here paths.auxiliaryUnits).filterMap Files.Path.fileName?

end Relink.Artifacts
