import Imprint.Proofs.Settings.Tree

/-!
# Reading a tree with another value for one setting

Settings are read section by section and key by key.  A setting that is a text is the text of its
value, and no other setting depends on that value.
-/

namespace Imprint.Settings

open Imprint.Settings.Tree (memberOr)

/-! ## Settings that are texts -/

/-- The settings that are a text and never absent. -/
inductive TextSetting where
  | descriptorName
  | directory
  | format
  | variableName
  | tagPattern
  | filePattern
  deriving DecidableEq

namespace TextSetting

/-- The section of a setting. -/
def heading : TextSetting → String
  | .descriptorName => "defaults"
  | .directory | .format => "output"
  | .variableName | .tagPattern | .filePattern => "version"

/-- The key of a setting in its section. -/
def key : TextSetting → String
  | .descriptorName => "descriptor_name"
  | .directory => "dir"
  | .format => "format"
  | .variableName => "env_var"
  | .tagPattern => "tag_pattern"
  | .filePattern => "file_pattern"

/-- The name of the variable that overrides a setting. -/
def environmentName : TextSetting → String
  | .descriptorName => "BUILDSTAMP__DEFAULTS__DESCRIPTOR_NAME"
  | .directory => "BUILDSTAMP__OUTPUT__DIR"
  | .format => "BUILDSTAMP__OUTPUT__FORMAT"
  | .variableName => "BUILDSTAMP__VERSION__ENV_VAR"
  | .tagPattern => "BUILDSTAMP__VERSION__TAG_PATTERN"
  | .filePattern => "BUILDSTAMP__VERSION__FILE_PATTERN"

/-- The text of a setting. -/
def get : TextSetting → Settings → String
  | .descriptorName, settings => settings.defaults.descriptorName
  | .directory, settings => settings.output.directory
  | .format, settings => settings.output.format
  | .variableName, settings => settings.version.variableName
  | .tagPattern, settings => settings.version.tagPattern
  | .filePattern, settings => settings.version.filePattern

/-- Settings with another text for one of them. -/
def put : TextSetting → Settings → String → Settings
  | .descriptorName, settings, text =>
      { settings with defaults := { settings.defaults with descriptorName := text } }
  | .directory, settings, text =>
      { settings with output := { settings.output with directory := text } }
  | .format, settings, text => { settings with output := { settings.output with format := text } }
  | .variableName, settings, text =>
      { settings with version := { settings.version with variableName := text } }
  | .tagPattern, settings, text =>
      { settings with version := { settings.version with tagPattern := text } }
  | .filePattern, settings, text =>
      { settings with version := { settings.version with filePattern := text } }

@[simp]
theorem get_put (setting : TextSetting) (settings : Settings) (text : String) :
    setting.get (setting.put settings text) = text := by
  cases setting <;> rfl

@[simp]
theorem put_put (setting : TextSetting) (settings : Settings) (text other : String) :
    setting.put (setting.put settings text) other = setting.put settings other := by
  cases setting <;> rfl

end TextSetting

/-! ## Sections -/

section

variable {others members : List (String × Tree)} {value : Tree} {text : String}

theorem readDefaults?_branch_eq_some_iff {defaults : DefaultSettings} :
    readDefaults? (.branch members) = some defaults ↔
      memberOr members "languages" Tree.texts? standard.defaults.languages =
          some defaults.languages ∧
        memberOr members "descriptor_name" Tree.text? standard.defaults.descriptorName =
          some defaults.descriptorName := by
  simp only [readDefaults?, Tree.sectionMembers?, Option.bind_eq_bind, Option.bind_some,
    Option.bind_eq_some_iff, Option.some.injEq]
  constructor
  · rintro ⟨_, languages, _, descriptorName, rfl⟩
    exact ⟨languages, descriptorName⟩
  · rintro ⟨languages, descriptorName⟩
    exact ⟨_, languages, _, descriptorName, rfl⟩

theorem readOutput?_branch_eq_some_iff {output : OutputSettings} :
    readOutput? (.branch members) = some output ↔
      memberOr members "dir" Tree.text? standard.output.directory = some output.directory ∧
        memberOr members "no_color" Tree.truth? standard.output.noColor = some output.noColor ∧
        memberOr members "format" Tree.text? standard.output.format = some output.format ∧
        memberOr members "build_info_file" Tree.optionalText? standard.output.buildInfoFile =
          some output.buildInfoFile ∧
        memberOr members "version_file" Tree.optionalText? standard.output.versionFile =
          some output.versionFile := by
  simp only [readOutput?, Tree.sectionMembers?, Option.bind_eq_bind, Option.bind_some,
    Option.bind_eq_some_iff, Option.some.injEq]
  constructor
  · rintro ⟨_, directory, _, noColor, _, format, _, buildInfoFile, _, versionFile, rfl⟩
    exact ⟨directory, noColor, format, buildInfoFile, versionFile⟩
  · rintro ⟨directory, noColor, format, buildInfoFile, versionFile⟩
    exact ⟨_, directory, _, noColor, _, format, _, buildInfoFile, _, versionFile, rfl⟩

theorem readVersion?_branch_eq_some_iff {version : VersionSettings} :
    readVersion? (.branch members) = some version ↔
      memberOr members "env_var" Tree.text? standard.version.variableName =
          some version.variableName ∧
        memberOr members "env_pattern" Tree.optionalText? standard.version.variablePattern =
          some version.variablePattern ∧
        memberOr members "tag_pattern" Tree.text? standard.version.tagPattern =
          some version.tagPattern ∧
        memberOr members "file" Tree.optionalText? standard.version.file = some version.file ∧
        memberOr members "file_pattern" Tree.text? standard.version.filePattern =
          some version.filePattern := by
  simp only [readVersion?, Tree.sectionMembers?, Option.bind_eq_bind, Option.bind_some,
    Option.bind_eq_some_iff, Option.some.injEq]
  constructor
  · rintro ⟨_, variableName, _, variablePattern, _, tagPattern, _, file, _, filePattern, rfl⟩
    exact ⟨variableName, variablePattern, tagPattern, file, filePattern⟩
  · rintro ⟨variableName, variablePattern, tagPattern, file, filePattern⟩
    exact ⟨_, variableName, _, variablePattern, _, tagPattern, _, file, _, filePattern, rfl⟩

theorem ofTree?_eq_some_iff {tree : Tree} {settings : Settings} :
    ofTree? tree = some settings ↔
      memberOr tree.members "defaults" readDefaults? standard.defaults = some settings.defaults ∧
        memberOr tree.members "output" readOutput? standard.output = some settings.output ∧
        memberOr tree.members "templates" readTemplates? standard.templates =
          some settings.templates ∧
        memberOr tree.members "version" readVersion? standard.version = some settings.version := by
  simp only [ofTree?, Option.bind_eq_bind, Option.bind_eq_some_iff, Option.some.injEq]
  constructor
  · rintro ⟨_, defaults, _, output, _, templates, _, version, rfl⟩
    exact ⟨defaults, output, templates, version⟩
  · rintro ⟨defaults, output, templates, version⟩
    exact ⟨_, defaults, _, output, _, templates, _, version, rfl⟩

end

/-! ## Sections with another text -/

section

variable {others members : List (String × Tree)} {value : Tree} {text : String}

theorem readDefaults?_descriptorName (sets : Sets "descriptor_name" value others members)
    (known : value.text? = some text) {defaults : DefaultSettings}
    (read : readDefaults? (.branch others) = some defaults) :
    readDefaults? (.branch members) = some { defaults with descriptorName := text } := by
  rw [readDefaults?_branch_eq_some_iff] at read ⊢
  simp (disch := decide) only [sets.memberOr_elsewhere, sets.memberOr_here, known, read, and_self]

theorem readOutput?_directory (sets : Sets "dir" value others members)
    (known : value.text? = some text) {output : OutputSettings}
    (read : readOutput? (.branch others) = some output) :
    readOutput? (.branch members) = some { output with directory := text } := by
  rw [readOutput?_branch_eq_some_iff] at read ⊢
  simp (disch := decide) only [sets.memberOr_elsewhere, sets.memberOr_here, known, read, and_self]

theorem readOutput?_format (sets : Sets "format" value others members)
    (known : value.text? = some text) {output : OutputSettings}
    (read : readOutput? (.branch others) = some output) :
    readOutput? (.branch members) = some { output with format := text } := by
  rw [readOutput?_branch_eq_some_iff] at read ⊢
  simp (disch := decide) only [sets.memberOr_elsewhere, sets.memberOr_here, known, read, and_self]

theorem readVersion?_variableName (sets : Sets "env_var" value others members)
    (known : value.text? = some text) {version : VersionSettings}
    (read : readVersion? (.branch others) = some version) :
    readVersion? (.branch members) = some { version with variableName := text } := by
  rw [readVersion?_branch_eq_some_iff] at read ⊢
  simp (disch := decide) only [sets.memberOr_elsewhere, sets.memberOr_here, known, read, and_self]

theorem readVersion?_tagPattern (sets : Sets "tag_pattern" value others members)
    (known : value.text? = some text) {version : VersionSettings}
    (read : readVersion? (.branch others) = some version) :
    readVersion? (.branch members) = some { version with tagPattern := text } := by
  rw [readVersion?_branch_eq_some_iff] at read ⊢
  simp (disch := decide) only [sets.memberOr_elsewhere, sets.memberOr_here, known, read, and_self]

theorem readVersion?_filePattern (sets : Sets "file_pattern" value others members)
    (known : value.text? = some text) {version : VersionSettings}
    (read : readVersion? (.branch others) = some version) :
    readVersion? (.branch members) = some { version with filePattern := text } := by
  rw [readVersion?_branch_eq_some_iff] at read ⊢
  simp (disch := decide) only [sets.memberOr_elsewhere, sets.memberOr_here, known, read, and_self]

end

/-! ## All settings -/

section

variable {base tree branch : Tree} {settings : Settings}

theorem ofTree?_defaults (sets : Sets "defaults" branch base.members tree.members)
    (read : ofTree? base = some settings) {defaults : DefaultSettings}
    (known : readDefaults? branch = some defaults) :
    ofTree? tree = some { settings with defaults := defaults } := by
  rw [ofTree?_eq_some_iff] at read ⊢
  simp (disch := decide) only [sets.memberOr_elsewhere, sets.memberOr_here, known, read, and_self]

theorem ofTree?_output (sets : Sets "output" branch base.members tree.members)
    (read : ofTree? base = some settings) {output : OutputSettings}
    (known : readOutput? branch = some output) :
    ofTree? tree = some { settings with output := output } := by
  rw [ofTree?_eq_some_iff] at read ⊢
  simp (disch := decide) only [sets.memberOr_elsewhere, sets.memberOr_here, known, read, and_self]

theorem ofTree?_version (sets : Sets "version" branch base.members tree.members)
    (read : ofTree? base = some settings) {version : VersionSettings}
    (known : readVersion? branch = some version) :
    ofTree? tree = some { settings with version := version } := by
  rw [ofTree?_eq_some_iff] at read ⊢
  simp (disch := decide) only [sets.memberOr_elsewhere, sets.memberOr_here, known, read, and_self]

/-- What is left of a section when it is made a table is read as well, and as before if the section
was a table. -/
theorem exists_read_members {α : Type} {heading : String} {read : Tree → Option α}
    {fallback start found : α}
    (known : memberOr base.members heading read fallback = some found)
    (empty : read (.branch []) = some start) :
    ∃ kept, read (.branch (base.member heading).members) = some kept ∧
      ∀ members, base.members.lookup heading = some (.branch members) → kept = found := by
  rw [memberOr] at known
  rw [Tree.member]
  cases content : base.members.lookup heading with
  | none => exact ⟨start, empty, by simp⟩
  | some old =>
      rw [content] at known
      cases old with
      | branch members => exact ⟨found, known, fun _ _ => rfl⟩
      | absent | truth | integer | float | text | list =>
          exact ⟨start, empty, by simp⟩

/-- A value for a setting in a tree gives the setting the text of that value.  It leaves all other
settings as they are unless the section of the setting has been no table. -/
theorem ofTree?_overrides (setting : TextSetting) {value : Tree} {text : String}
    (overrides : Overrides setting.heading setting.key value base tree)
    (known : value.text? = some text) (read : ofTree? base = some settings) :
    ∃ changed, ofTree? tree = some changed ∧ setting.get changed = text ∧
      ∀ members, base.members.lookup setting.heading = some (.branch members) →
        changed = setting.put settings text := by
  obtain ⟨members, place, sets⟩ := overrides
  obtain ⟨defaults, output, -, version⟩ := ofTree?_eq_some_iff.1 read
  cases setting with
  | descriptorName =>
      obtain ⟨kept, left, same⟩ := exists_read_members defaults rfl
      exact ⟨_, ofTree?_defaults place read (readDefaults?_descriptorName sets known left), rfl,
        fun members table => same members table ▸ rfl⟩
  | directory =>
      obtain ⟨kept, left, same⟩ := exists_read_members output rfl
      exact ⟨_, ofTree?_output place read (readOutput?_directory sets known left), rfl,
        fun members table => same members table ▸ rfl⟩
  | format =>
      obtain ⟨kept, left, same⟩ := exists_read_members output rfl
      exact ⟨_, ofTree?_output place read (readOutput?_format sets known left), rfl,
        fun members table => same members table ▸ rfl⟩
  | variableName =>
      obtain ⟨kept, left, same⟩ := exists_read_members version rfl
      exact ⟨_, ofTree?_version place read (readVersion?_variableName sets known left), rfl,
        fun members table => same members table ▸ rfl⟩
  | tagPattern =>
      obtain ⟨kept, left, same⟩ := exists_read_members version rfl
      exact ⟨_, ofTree?_version place read (readVersion?_tagPattern sets known left), rfl,
        fun members table => same members table ▸ rfl⟩
  | filePattern =>
      obtain ⟨kept, left, same⟩ := exists_read_members version rfl
      exact ⟨_, ofTree?_version place read (readVersion?_filePattern sets known left), rfl,
        fun members table => same members table ▸ rfl⟩

end

end Imprint.Settings
