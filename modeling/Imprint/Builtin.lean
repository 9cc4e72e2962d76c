import Imprint.Template

/-!
# Built-in templates

Nine languages come with the program.  All their skeletons have one of two shapes: a declaration
lists the names of the fields, and a definition binds each name to a value between quotes.
-/

namespace Imprint

/-- A declaration that lists the five names with the same text between any two. -/
def Skeleton.listing (head between tail : String) : Skeleton where
  half := .declaration
  segments :=
    [.text head, .slot ⟨.version, .name⟩,
     .text between, .slot ⟨.commitHash, .name⟩,
     .text between, .slot ⟨.commitDate, .name⟩,
     .text between, .slot ⟨.commitDescriptor, .name⟩,
     .text between, .slot ⟨.buildDate, .name⟩,
     .text tail]

/-- A definition that binds each name to its value, with `opening` before every value and
`between` after all but the last. -/
def Skeleton.bindings (head opening between tail : String) : Skeleton where
  half := .definition
  segments :=
    [.text head, .slot ⟨.version, .name⟩, .text opening, .slot ⟨.version, .value⟩,
     .text between, .slot ⟨.commitHash, .name⟩, .text opening, .slot ⟨.commitHash, .value⟩,
     .text between, .slot ⟨.commitDate, .name⟩, .text opening, .slot ⟨.commitDate, .value⟩,
     .text between, .slot ⟨.commitDescriptor, .name⟩, .text opening,
     .slot ⟨.commitDescriptor, .value⟩,
     .text between, .slot ⟨.buildDate, .name⟩, .text opening, .slot ⟨.buildDate, .value⟩,
     .text tail]

namespace Builtin

/-- A header that declares a structure, and a source file that fills it. -/
def c : Template where
  language := "c"
  displayName := "C"
  aliases := ["h"]
  description := "Header declaring build_info_t plus a source file defining build_info"
  convention := .snake
  style := .c
  files := ⟨"version.h", "version.c"⟩
  overrides := Overrides.none
  declaration := .listing
    ("#ifndef __VERSION_H__\n#define __VERSION_H__\n\ntypedef struct \x7b\n    const char\n" ++
     "        *")
    ",\n        *"
    ";\n\x7d build_info_t;\n\nextern build_info_t build_info;\n\n#endif\n"
  definition := .bindings
    "#include \"version.h\"\n\nbuild_info_t build_info = \x7b\n    ."
    " = \""
    "\",\n    ."
    "\",\n\x7d;\n"

/-- An interface and a sealed class. -/
def cSharp : Template where
  language := "csharp"
  displayName := "C#"
  aliases := ["cs", "c#"]
  description := "IBuildInfo interface plus a sealed BuildInfo class"
  convention := .pascal
  style := .cSharp
  files := ⟨"IBuildInfo.cs", "BuildInfo.cs"⟩
  overrides := Overrides.none
  declaration := .listing
    ("// Generated by buildstamp. Do not edit.\n\npublic interface IBuildInfo\n\x7b\n" ++
     "    string ")
    " \x7b get; \x7d\n    string "
    " \x7b get; \x7d\n\x7d\n"
  definition := .bindings
    ("// Generated by buildstamp. Do not edit.\n\n" ++
     "public sealed class BuildInfo : IBuildInfo\n\x7b\n    public string ")
    " => \""
    "\";\n    public string "
    "\";\n\x7d\n"

/-- Package variables and the function that sets them. -/
def go : Template where
  language := "go"
  displayName := "Go"
  aliases := ["golang"]
  description := "Package-level variables in package buildinfo, set from an init function"
  convention := .pascal
  style := .go
  files := ⟨"buildinfo.go", "buildinfo_values.go"⟩
  overrides :=
    (Overrides.none.set .version (some "BuildVersion")).set .commitHash (some "Commit")
  declaration := .listing
    "// Code generated by buildstamp. DO NOT EDIT.\n\npackage buildinfo\n\nvar (\n\t"
    " string\n\t"
    " string\n)\n"
  definition := .bindings
    ("// Code generated by buildstamp. DO NOT EDIT.\n\npackage buildinfo\n\n" ++
     "func init() \x7b\n\t")
    " = \""
    "\"\n\t"
    "\"\n\x7d\n"

/-- An interface and a class that implements it. -/
def java : Template where
  language := "java"
  displayName := "Java"
  aliases := []
  description := "BuildInfo interface plus a GeneratedBuildInfo implementation"
  convention := .camel
  style := .java
  files := ⟨"BuildInfo.java", "GeneratedBuildInfo.java"⟩
  overrides := Overrides.none
  declaration := .listing
    ("// Generated by buildstamp. Do not edit.\n\npublic interface BuildInfo \x7b\n" ++
     "    String ")
    "();\n    String "
    "();\n\x7d\n"
  definition := .bindings
    ("// Generated by buildstamp. Do not edit.\n\n" ++
     "public final class GeneratedBuildInfo implements BuildInfo \x7b\n" ++
     "    @Override public String ")
    "() \x7b return \""
    "\"; \x7d\n    @Override public String "
    "\"; \x7d\n\x7d\n"

/-- A schema and the document that it describes. -/
def json : Template where
  language := "json"
  displayName := "JSON"
  aliases := []
  description := "JSON Schema for the build info document plus the document itself"
  convention := .kebab
  style := .json
  files := ⟨"build-info.schema.json", "build-info.json"⟩
  overrides := Overrides.none
  declaration := .listing
    "\x7b\n  \"type\": \"object\",\n  \"properties\": \x7b\n    \""
    "\": \x7b \"type\": \"string\" \x7d,\n    \""
    "\": \x7b \"type\": \"string\" \x7d\n  \x7d\n\x7d\n"
  definition := .bindings
    "\x7b\n  \""
    "\": \""
    "\",\n  \""
    "\"\n\x7d\n"

/-- A stub with types and a module of constants. -/
def python : Template where
  language := "python"
  displayName := "Python"
  aliases := ["py"]
  description := "Typing stub plus a module of string constants"
  convention := .snake
  style := .python
  files := ⟨"build_info.pyi", "build_info.py"⟩
  overrides := Overrides.none
  declaration := .listing
    "# Generated by buildstamp. Do not edit.\n\n"
    ": str\n"
    ": str\n"
  definition := .bindings
    "# Generated by buildstamp. Do not edit.\n\n"
    " = \""
    "\"\n"
    "\"\n"

/-- A structure and a constant of it. -/
def rust : Template where
  language := "rust"
  displayName := "Rust"
  aliases := ["rs"]
  description := "BuildInfo struct plus a BUILD_INFO constant"
  convention := .snake
  style := .rust
  files := ⟨"build_info.rs", "build_info_values.rs"⟩
  overrides := Overrides.none
  declaration := .listing
    ("// Generated by buildstamp. Do not edit.\n\n" ++
     "#[derive(Debug, Clone, Copy, PartialEq, Eq)]\npub struct BuildInfo \x7b\n    pub ")
    ": &'static str,\n    pub "
    ": &'static str,\n\x7d\n"
  definition := .bindings
    ("// Generated by buildstamp. Do not edit.\n\nuse super::build_info::BuildInfo;\n\n" ++
     "pub const BUILD_INFO: BuildInfo = BuildInfo \x7b\n    ")
    ": \""
    "\",\n    "
    "\",\n\x7d;\n"

/-- A script that exports variables and the file that sets them. -/
def shell : Template where
  language := "shell"
  displayName := "Shell"
  aliases := ["sh", "bash"]
  description := "Sourceable env file plus a script that exports it"
  convention := .screaming
  style := .shell
  files := ⟨"build_info.sh", "build_info.env"⟩
  overrides := Overrides.none
  declaration := .listing
    ("# Generated by buildstamp. Do not edit.\n" ++
     "# Source this file to export the build metadata.\n\n. ./build_info.env\nexport ")
    " "
    "\n"
  definition := .bindings
    "# Generated by buildstamp. Do not edit.\n"
    "='"
    "'\n"
    "'\n"

/-- An interface and a constant object. -/
def typeScript : Template where
  language := "typescript"
  displayName := "TypeScript"
  aliases := ["ts"]
  description := "BuildInfo interface plus an exported buildInfo object"
  convention := .camel
  style := .javaScript
  files := ⟨"build-info.types.ts", "build-info.ts"⟩
  overrides := Overrides.none
  declaration := .listing
    ("// Generated by buildstamp. Do not edit.\n\nexport interface BuildInfo \x7b\n" ++
     "  readonly ")
    ": string;\n  readonly "
    ": string;\n\x7d\n"
  definition := .bindings
    ("// Generated by buildstamp. Do not edit.\n\n" ++
     "import type \x7b BuildInfo \x7d from \"./build-info.types\";\n\n" ++
     "export const buildInfo: BuildInfo = \x7b\n  ")
    ": \""
    "\",\n  "
    "\",\n\x7d;\n"

/-- The built-in templates in ascending order of their language ids. -/
def all : List Template :=
  [c, cSharp, go, java, json, python, rust, shell, typeScript]

end Builtin

end Imprint
