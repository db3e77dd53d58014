import HeaderBindings.Markers
import HeaderBindings.Path

/-!
# Options of a run

`Options` holds all that one run needs.  Its values come in layers: the built-in
conventions first, then any number of `Settings`, each of which gives some of the
nine values and leaves the others as they are.  A settings file is one layer and the
flags of a command line are another.

Layers can be merged before they are applied: `Settings.merge` keeps, key by key,
the value of the later layer.
-/

namespace HeaderBindings

/-- One layer of settings.  A value that is missing is not set by this layer. -/
structure Settings where
  package : Option Text
  exportMarker : Option Text
  callMarker : Option Text
  stripPrefix : Option Text
  apiFile : Option Text
  funcsFile : Option Text
  runtimeCrate : Option Text
  format : Option Bool
  requireFunctions : Option Bool
  deriving DecidableEq, Repr

namespace Settings

def none : Settings :=
  ⟨.none, .none, .none, .none, .none, .none, .none, .none, .none⟩

instance : Inhabited Settings := ⟨none⟩

/-- Two layers as one; the second one wins where both set a value. -/
def merge (first second : Settings) : Settings where
  package := second.package.or first.package
  exportMarker := second.exportMarker.or first.exportMarker
  callMarker := second.callMarker.or first.callMarker
  stripPrefix := second.stripPrefix.or first.stripPrefix
  apiFile := second.apiFile.or first.apiFile
  funcsFile := second.funcsFile.or first.funcsFile
  runtimeCrate := second.runtimeCrate.or first.runtimeCrate
  format := second.format.or first.format
  requireFunctions := second.requireFunctions.or first.requireFunctions

end Settings

structure Options where
  header : Path
  outDir : Path
  package : Option Text
  markers : Markers
  stripPrefix : Text
  apiFile : Text
  funcsFile : Text
  runtimeCrate : Text
  format : Bool
  requireFunctions : Bool
  deriving DecidableEq, Repr

namespace Options

def ofPaths (header outDir : Path) : Options where
  header := header
  outDir := outDir
  package := none
  markers := .builtin
  stripPrefix := "Oga"
  apiFile := "api.rs"
  funcsFile := "funcs.rs"
  runtimeCrate := "hdrbind_runtime"
  format := true
  requireFunctions := false

def apply (o : Options) (s : Settings) : Options where
  header := o.header
  outDir := o.outDir
  package := s.package.or o.package
  markers := ⟨s.exportMarker.getD o.markers.exporting, s.callMarker.getD o.markers.calling⟩
  stripPrefix := s.stripPrefix.getD o.stripPrefix
  apiFile := s.apiFile.getD o.apiFile
  funcsFile := s.funcsFile.getD o.funcsFile
  runtimeCrate := s.runtimeCrate.getD o.runtimeCrate
  format := s.format.getD o.format
  requireFunctions := s.requireFunctions.getD o.requireFunctions

/-- The package name if the output directory has no name of its own. -/
def fallbackPackage : Text := "bindings"

/-- The package name: the one that was set, or else the name of the output directory. -/
def effectivePackage (o : Options) : Text :=
  o.package.getD ((Path.fileName? o.outDir).getD fallbackPackage)

end Options

end HeaderBindings
