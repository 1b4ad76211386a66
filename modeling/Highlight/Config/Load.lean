import Highlight.Config.Basic

/-!
# Finding the configuration

A configuration file that is named has to be in order. The one in the home directory may be
missing or faulty; the program then goes on as if there were none.
-/

namespace Highlight.Config

variable {m : Type → Type} [Monad m]

def loadFrom (host : Host m) (path : String) : m (Except Error Config) := do
  match ← host.readText path with
  | .ok text => return parse host.home text
  | .error e => return .error (.file e)

/-- The name of the configuration file in the home directory. -/
def fileName : String := ".codestyle.conf"

/-- The configuration in the home directory, or the default one. -/
def load (host : Host m) : m Config := do
  match host.home with
  | none => return {}
  | some home =>
    match ← loadFrom host (Path.join home fileName) with
    | .ok config => return config
    | .error _ => return {}

end Highlight.Config
