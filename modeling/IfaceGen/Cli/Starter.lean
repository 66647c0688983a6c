/-!
# The starter configuration

What a new configuration file holds.
-/

namespace IfaceGen

/-- The lines of the starter configuration. -/
def starterLines : List String :=
  ["# Directory containing the package models exported by the type-checker,",
   "# one JSON document per package.",
   "models = \"models\"",
   "",
   "[output]",
   "# Directory the generated files are written to.",
   "dir = \"mocks\"",
   "# Package clause of the generated files.",
   "package = \"mocks\"",
   "# Name of the generated file; \x7bpackage\x7d is replaced by the source package name.",
   "filename = \"\x7bpackage\x7d_iface.go\"",
   "",
   "[output.naming]",
   "# Appended to every struct name to form the interface name.",
   "suffix = \"Iface\"",
   "",
   "# One entry per package to generate interfaces for.",
   "[[packages]]",
   "path = \"example.com/project/sample\""]

/-- The text of the starter configuration. -/
def starterConfig : String :=
  String.join (starterLines.map (· ++ "\n"))

end IfaceGen
