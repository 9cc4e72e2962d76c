import Imprint.Proofs.Except
import Imprint.Proofs.Number.Integer
import Imprint.Proofs.Settings.Reading
import Imprint.Settings.Sources

/-!
# Settings from the environment

The value of a variable that overrides a setting is first taken for a truth value or a number, if it
looks like one, and then printed again for a setting that is a text.  Main statement: whatever the
file and the other variables say, the variable of a text setting gives it the value as it is printed
again, a change of the value changes nothing else, and the setting is the value itself exactly if
the value is written as it is printed.
-/

namespace Imprint.Settings

open Storage (Disk)
open Text

namespace TextSetting

theorem keyOfVariable?_environmentName (setting : TextSetting) :
    keyOfVariable? setting.environmentName = some (setting.heading ++ "." ++ setting.key) := by
  cases setting <;> decide +kernel

theorem pathOf_key (setting : TextSetting) :
    pathOf (setting.heading ++ "." ++ setting.key) =
      [.member setting.heading, .member setting.key] := by
  cases setting <;> decide +kernel

theorem key_ne_listKey (setting : TextSetting) :
    setting.heading ++ "." ++ setting.key ≠ listKey := by
  cases setting <;> decide +kernel

end TextSetting

/-! ## Values of variables -/

/-- The words of the two truth values. -/
def truthWords : List String := ["true", "false"]

/-- The value of a variable as it is printed again for a text setting. -/
def printedAgain (value : String) : String :=
  let word := String.ofList (lower value.toList)
  if word ∈ truthWords then word
  else
    match int64? value, Binary64.parse? value with
    | some number, _ => toString number
    | none, some number => number.toText
    | none, none => value

/-- A variable gives a setting the text that is printed again. -/
theorem text?_valueOfVariable {key : String} (single : key ≠ listKey) (value : String) :
    (valueOfVariable key value).text? = some (printedAgain value) := by
  rw [valueOfVariable, printedAgain]
  split
  · next small =>
      rw [small]
      rfl
  · next small =>
      rw [small]
      rfl
  · next noTrue noFalse =>
      have noWord : String.ofList (lower value.toList) ∉ truthWords := by
        simpa [truthWords] using ⟨noTrue, noFalse⟩
      rw [if_neg noWord, if_neg single]
      cases int64? value with
      | some number => rfl
      | none =>
          cases Binary64.parse? value with
          | some number => rfl
          | none => rfl

theorem valueOfVariable_ne_branch (key value : String) (members : List (String × Tree)) :
    valueOfVariable key value ≠ .branch members := by
  rw [valueOfVariable]
  split
  · exact Tree.noConfusion
  · exact Tree.noConfusion
  · split
    · exact Tree.noConfusion
    · exact Tree.noConfusion
    · split <;> exact Tree.noConfusion

/-- A value that is written as it is printed again: a truth value is in small letters, an integer
has no ornament, and any other number is the shortest decimal for it. -/
structure IsSettled (value : String) : Prop where
  truth : String.ofList (lower value.toList) ∈ truthWords → value ∈ truthWords
  integer : ∀ number, int64? value = some number → IsPlainInteger value.toList
  float : ∀ number, int64? value = none → Binary64.parse? value = some number →
    number.toText = value

/-- The words of the truth values are in small letters and no numbers. -/
theorem truthWord_settled {word : String} (listed : word ∈ truthWords) :
    String.ofList (lower word.toList) = word ∧ int64? word = none ∧
      Binary64.parse? word = none := by
  have each : ∀ word ∈ truthWords, String.ofList (lower word.toList) = word ∧
      int64? word = none ∧ Binary64.parse? word = none := by
    decide +kernel
  exact each word listed

/-- A value is printed as it is exactly if it is settled. -/
theorem printedAgain_eq_self_iff (value : String) :
    printedAgain value = value ↔ IsSettled value := by
  rw [printedAgain]
  by_cases truth : String.ofList (lower value.toList) ∈ truthWords
  · rw [if_pos truth]
    constructor
    · intro same
      rw [same] at truth
      obtain ⟨-, noInteger, noFloat⟩ := truthWord_settled truth
      exact ⟨fun _ => truth, by simp [noInteger], by simp [noFloat]⟩
    · intro settled
      exact (truthWord_settled (settled.truth truth)).1
  · rw [if_neg truth]
    split
    · next _ _ number integer =>
        rw [toString_eq_iff_of_int64? integer]
        refine ⟨fun plain => ⟨fun word => absurd word truth, fun _ _ => plain, ?_⟩,
          fun settled => settled.integer number integer⟩
        intro _ none
        rw [integer] at none
        contradiction
    · next number noInteger float =>
        constructor
        · intro same
          refine ⟨fun word => absurd word truth, by simp [noInteger], ?_⟩
          intro other _ known
          rw [float, Option.some.injEq] at known
          rwa [← known]
        · intro settled
          exact settled.float number noInteger float
    · next noInteger noFloat =>
        exact iff_of_true rfl
          ⟨fun word => absurd word truth, by simp [noInteger], by simp [noFloat]⟩

example : printedAgain "TRUE" = "true" ∧ printedAgain "+7" = "7" ∧ printedAgain "1e3" = "1000" := by
  decide +kernel

/-! ## A variable in the environment -/

theorem get?_of_ne {name other : String} (different : other ≠ name) (value : String)
    (before after : Environment) :
    Environment.get? (before ++ (name, value) :: after) other =
      Environment.get? (before ++ after) other := by
  rw [Environment.get?, Environment.get?, List.lookup_append, List.lookup_append, List.lookup_cons,
    beq_false_of_ne different]

/-- The layer of the file in use depends on two variables only, those that tell the directories of a
user. -/
theorem fileLayer_congr {environment other : Environment}
    (home : other.get? "HOME" = environment.get? "HOME")
    (directory : other.get? "XDG_CONFIG_HOME" = environment.get? "XDG_CONFIG_HOME") (disk : Disk)
    (explicit : Option String) :
    fileLayer disk other explicit = fileLayer disk environment explicit := by
  have same : userFile other = userFile environment := by
    rw [userFile, userFile, userFile.nonEmptyVariable, userFile.nonEmptyVariable, home, directory]
  rw [fileLayer, fileLayer, fileInUse?.eq_def, fileInUse?.eq_def, same]

theorem load_eq_ok_iff {disk : Disk} {environment : Environment} {explicit : Option String}
    {settings : Settings} :
    load disk environment explicit = .ok settings ↔
      ∃ file, fileLayer disk environment explicit = .ok file ∧
        ofTree? (addLayer (merged [standard.toLayer, file]) (environmentLayer environment)) =
          some settings := by
  rw [load, bind_eq_ok_iff]
  refine exists_congr fun file => and_congr_right fun _ => ?_
  rw [ofLayers, show merged [standard.toLayer, file, environmentLayer environment] =
    addLayer (merged [standard.toLayer, file]) (environmentLayer environment) from rfl]
  cases ofTree? (addLayer (merged [standard.toLayer, file]) (environmentLayer environment)) with
  | none => simp
  | some found => simp

theorem environmentLayer_append (first second : Environment) :
    environmentLayer (first ++ second) = environmentLayer first ++ environmentLayer second :=
  List.filterMap_append

theorem environmentLayer_cons {name key : String} (known : keyOfVariable? name = some key)
    (value : String) (rest : Environment) :
    environmentLayer ((name, value) :: rest) =
      (key, valueOfVariable key value) :: environmentLayer rest := by
  apply List.filterMap_cons_some
  simp only [known, Option.map_some]

theorem exists_variable_of_mem_environmentLayer {environment : Environment}
    {entry : String × Tree} (listed : entry ∈ environmentLayer environment) :
    ∃ source ∈ environment, keyOfVariable? source.1 = some entry.1 := by
  obtain ⟨source, present, made⟩ := List.mem_filterMap.1 listed
  obtain ⟨key, known, rfl⟩ := Option.map_eq_some_iff.1 made
  exact ⟨source, present, known⟩

/-- No variable of an environment overrides a setting, a part of it, or the section it is in. -/
def Spares (environment : Environment) (setting : TextSetting) : Prop :=
  ∀ entry ∈ environment, ∀ key, keyOfVariable? entry.1 = some key →
    IsApart setting.heading setting.key (pathOf key)

namespace TextSetting

variable (setting : TextSetting) (value : String) (before : Environment) {after : Environment}

theorem fileLayer_variable (disk : Disk) (explicit : Option String) :
    fileLayer disk (before ++ (setting.environmentName, value) :: after) explicit =
      fileLayer disk (before ++ after) explicit := by
  apply fileLayer_congr
  · exact get?_of_ne (by cases setting <;> decide) value before after
  · exact get?_of_ne (by cases setting <;> decide) value before after

/-- The variable of a setting overrides it if no variable behind does. -/
theorem overrides_variable (spared : Spares after setting) (tree : Tree) :
    Overrides setting.heading setting.key
      (valueOfVariable (setting.heading ++ "." ++ setting.key) value)
      (addLayer tree (environmentLayer (before ++ after)))
      (addLayer tree (environmentLayer (before ++ (setting.environmentName, value) :: after))) := by
  rw [environmentLayer_append, environmentLayer_append,
    environmentLayer_cons setting.keyOfVariable?_environmentName]
  apply Overrides.of_layer setting.pathOf_key (valueOfVariable_ne_branch _ value)
  intro other listed
  obtain ⟨entry, present, known⟩ := exists_variable_of_mem_environmentLayer listed
  exact spared entry present other.1 known

/-- If there are settings without the variable of a setting, there are some with it, and the setting
is the value as it is printed again. -/
theorem load_variable (spared : Spares after setting) (disk : Disk) (explicit : Option String)
    {settings : Settings} (loaded : load disk (before ++ after) explicit = .ok settings) :
    ∃ changed,
      load disk (before ++ (setting.environmentName, value) :: after) explicit = .ok changed ∧
        setting.get changed = printedAgain value := by
  obtain ⟨file, found, read⟩ := load_eq_ok_iff.1 loaded
  obtain ⟨changed, again, text, -⟩ := ofTree?_overrides setting
    (overrides_variable setting value before spared _)
    (text?_valueOfVariable setting.key_ne_listKey value) read
  rw [← fileLayer_variable setting value] at found
  exact ⟨changed, load_eq_ok_iff.2 ⟨file, found, again⟩, text⟩

/-- Another value of its variable changes a setting and nothing else. -/
theorem load_otherValue (spared : Spares after setting) (disk : Disk) (explicit : Option String)
    {other : String} {settings : Settings}
    (loaded : load disk (before ++ (setting.environmentName, other) :: after) explicit =
      .ok settings) :
    load disk (before ++ (setting.environmentName, value) :: after) explicit =
      .ok (setting.put settings (printedAgain value)) := by
  obtain ⟨file, found, read⟩ := load_eq_ok_iff.1 loaded
  have former := overrides_variable setting other before spared (merged [standard.toLayer, file])
  have latter := overrides_variable setting value before spared (merged [standard.toLayer, file])
  obtain ⟨changed, again, -, rest⟩ := ofTree?_overrides setting (former.of_same latter)
    (text?_valueOfVariable setting.key_ne_listKey value) read
  obtain ⟨members, place, -⟩ := former
  rw [fileLayer_variable, ← fileLayer_variable setting value] at found
  rw [← rest members place.here]
  exact load_eq_ok_iff.2 ⟨file, found, again⟩

/-- Where nothing else is set, all other settings are the standard ones. -/
theorem load_onlyVariable :
    load ⟨[], []⟩ [(setting.environmentName, value)] none =
      .ok (setting.put standard (printedAgain value)) := by
  have loaded : load ⟨[], []⟩ [(setting.environmentName, "x")] none =
      .ok (setting.put standard "x") := by
    rw [← toOption_eq_some_iff]
    cases setting <;> decide +kernel
  have other := load_otherValue setting value [] (List.forall_mem_nil _) ⟨[], []⟩ none loaded
  rwa [put_put] at other

/-- The variable of a text setting gives it the value as it is printed again, where nothing else is
set, and whatever a file and the other variables say unless one behind it overrides the setting.
Settings that load without the variable load with it, a change of the value changes this setting
only, and the setting is the value itself exactly if the value is settled. -/
theorem load_of_variable (spared : Spares after setting) (disk : Disk)
    (explicit : Option String) :
    load ⟨[], []⟩ [(setting.environmentName, value)] none =
        .ok (setting.put standard (printedAgain value)) ∧
      (∀ settings, load disk (before ++ after) explicit = .ok settings →
        ∃ changed,
          load disk (before ++ (setting.environmentName, value) :: after) explicit =
              .ok changed ∧
            setting.get changed = printedAgain value) ∧
      (∀ other settings,
        load disk (before ++ (setting.environmentName, other) :: after) explicit = .ok settings →
          load disk (before ++ (setting.environmentName, value) :: after) explicit =
            .ok (setting.put settings (printedAgain value))) ∧
      ∀ settings,
        load disk (before ++ (setting.environmentName, value) :: after) explicit = .ok settings →
          (setting.get settings = value ↔ IsSettled value) := by
  refine ⟨load_onlyVariable setting value,
    fun settings => load_variable setting value before spared disk explicit,
    fun other settings => load_otherValue setting value before spared disk explicit,
    fun settings loaded => ?_⟩
  have same := loaded.symm.trans (load_otherValue setting value before spared disk explicit loaded)
  rw [Except.ok.inj same, get_put, printedAgain_eq_self_iff]

/-- A project with a file of settings. -/
def projectDisk (file : String) : Disk := ⟨[([".buildstamp.toml"], .file file)], []⟩

theorem load_of_variable_shortened :
    Spares [("BUILDSTAMP__OUTPUT__FORMAT", "json"), ("HOME", "/home/user")] .directory ∧
      load (projectDisk "[output]\ndir = 'out'\n")
          [("PATH", "/bin"), ("BUILDSTAMP__OUTPUT__FORMAT", "json"), ("HOME", "/home/user")] none =
        .ok (TextSetting.directory.put (TextSetting.format.put standard "json") "out") ∧
      (∃ changed,
        load (projectDisk "[output]\ndir = 'out'\n")
            [("PATH", "/bin"), ("BUILDSTAMP__OUTPUT__DIR", "1.10"),
              ("BUILDSTAMP__OUTPUT__FORMAT", "json"), ("HOME", "/home/user")] none =
            .ok changed ∧
          changed.output.directory = "1.1") ∧
      ¬ IsSettled "1.10" := by
  have spared :
      Spares [("BUILDSTAMP__OUTPUT__FORMAT", "json"), ("HOME", "/home/user")] .directory := by
    have noKey : keyOfVariable? "HOME" = none := by decide +kernel
    simp only [Spares, List.forall_mem_cons, noKey,
      show keyOfVariable? "BUILDSTAMP__OUTPUT__FORMAT" = _ from
        TextSetting.format.keyOfVariable?_environmentName, Option.some.injEq, forall_eq',
      TextSetting.format.pathOf_key]
    exact ⟨.key (by decide), by simp, List.forall_mem_nil _⟩
  have base : load (projectDisk "[output]\ndir = 'out'\n")
      [("PATH", "/bin"), ("BUILDSTAMP__OUTPUT__FORMAT", "json"), ("HOME", "/home/user")] none =
        .ok (TextSetting.directory.put (TextSetting.format.put standard "json") "out") := by
    rw [← toOption_eq_some_iff]
    decide +kernel
  have printed : printedAgain "1.10" = "1.1" := by
    decide +kernel
  obtain ⟨-, loads, -, settled⟩ := load_of_variable .directory "1.10" [("PATH", "/bin")] spared
    (projectDisk "[output]\ndir = 'out'\n") none
  obtain ⟨changed, loaded, text⟩ := loads _ base
  rw [printed] at text
  refine ⟨spared, base, ⟨changed, loaded, text⟩, fun unchanged => ?_⟩
  have kept := (settled changed loaded).2 unchanged
  rw [text] at kept
  exact absurd kept (by decide)

/-- A name of a directory arrives as it is from a file, but not from the environment. -/
theorem load_paddedDirectory :
    load (projectDisk "[output]\ndir = '007'\n") [] none =
        .ok (TextSetting.directory.put standard "007") ∧
      ∃ settings,
        load (projectDisk "[output]\ndir = '007'\n") [("BUILDSTAMP__OUTPUT__DIR", "007")] none =
            .ok settings ∧
          settings.output.directory ≠ "007" := by
  constructor
  · rw [← toOption_eq_some_iff]
    decide +kernel
  · refine ⟨TextSetting.directory.put standard "7", ?_, by decide⟩
    rw [← toOption_eq_some_iff]
    decide +kernel

end TextSetting

end Imprint.Settings
