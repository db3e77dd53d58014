import HeaderBindings.Text.Basic

/-!
# Markers

An exported prototype is bracketed by two macro names: the export marker before the
return type and the call marker before the function's name.  Any text can be a
marker as long as a header can hold it as one token: it must not be empty and must
not contain a blank.
-/

namespace HeaderBindings

/-- The two macro names around the return type of an exported prototype. -/
structure Markers where
  /-- The marker before the return type. -/
  exporting : Text
  /-- The marker between the return type and the name. -/
  calling : Text
  deriving DecidableEq, Repr

inductive MarkerRole where
  | exporting | calling
  deriving DecidableEq, Repr

inductive MarkerFault where
  | empty | blank
  deriving DecidableEq, Repr

structure MarkerError where
  role : MarkerRole
  marker : Text
  fault : MarkerFault
  deriving DecidableEq, Repr

def MarkerRole.text : MarkerRole → Text
  | .exporting => "export"
  | .calling => "call"

def MarkerFault.text : MarkerFault → Text
  | .empty => "must not be empty"
  | .blank => "must not contain whitespace"

def MarkerError.message (e : MarkerError) : Text :=
  "invalid " ++ e.role.text ++ " marker '" ++ e.marker ++ "': " ++ e.fault.text

namespace Markers

def builtin : Markers := ⟨"OGA_EXPORT", "OGA_API_CALL"⟩

instance : Inhabited Markers := ⟨builtin⟩

def isBuiltin (m : Markers) : Bool := m = builtin

/-- What is wrong with a text as a marker, if anything. -/
def fault? (marker : Text) : Option MarkerFault :=
  if marker = [] then some .empty
  else if marker.any isBlank then some .blank
  else none

/-- The first fault of the two markers; the export marker is looked at first. -/
def error? (m : Markers) : Option MarkerError :=
  match fault? m.exporting with
  | some f => some ⟨.exporting, m.exporting, f⟩
  | none => (fault? m.calling).map fun f => ⟨.calling, m.calling, f⟩

end Markers

end HeaderBindings
