import UseSites.Proofs.Settings.Build
import UseSites.Settings.Loading
/-!
# Loading settings

Loading settings changes no more than the environment: `sameBut_loadSettings` says that all else is left as it was.
When it fails, the reason is one of three: the root is no project, the variables of a
file cannot be taken over, or the settings cannot be built. `judged_projectRoot` and `loads_loadSettings` say so as
lists of cases, which the rest reads off.
-/

namespace UseSites

namespace Surroundings

variable {surroundings : Surroundings} {path root : Path} {given : Given} {obstacle : Obstacle}

/-! ### The root of a project -/

/-- A root leads to a place: its home folder is known, and links do not lead in a circle. -/
def LeadsTo (surroundings : Surroundings) (path : Path) (place : List String) : Prop :=
  ∃ expanded, surroundings.expandHome path = .ok expanded ∧ containsNul expanded = false
    ∧ surroundings.disk.resolve surroundings.folder expanded = some place

/-- What a root leads to is a folder, and one that can be looked into. -/
def IsProject (surroundings : Surroundings) (path root : Path) : Prop :=
  ∃ place entries, surroundings.LeadsTo path place ∧ root = ⟨.root, place⟩
    ∧ surroundings.disk.find [] ⟨.root, place⟩ = .ok (.folder entries) ∧ place ∉ surroundings.closed

/-- What a root leads to is not there, is no folder, or must not be looked into. -/
def LacksProject (surroundings : Surroundings) (path : Path) : Prop :=
  ∃ place, surroundings.LeadsTo path place ∧ surroundings.disk.find [] ⟨.root, place⟩ ≠ .error .nameTooLong
    ∧ ∀ entries, surroundings.disk.find [] ⟨.root, place⟩ = .ok (.folder entries) → place ∈ surroundings.closed

theorem LeadsTo.unique {place other : List String} (hplace : surroundings.LeadsTo path place)
    (hother : surroundings.LeadsTo path other) : other = place := by
  obtain ⟨expanded, hexpanded, -, hresolve⟩ := hplace
  obtain ⟨again, hagain, -, hresolve'⟩ := hother
  obtain rfl := Except.ok.inj (hexpanded.symm.trans hagain)
  exact Option.some.inj (hresolve'.symm.trans hresolve)

theorem IsProject.unique {other : Path} (hproject : surroundings.IsProject path root)
    (hother : surroundings.IsProject path other) : other = root := by
  obtain ⟨place, -, hleads, rfl, -⟩ := hproject
  obtain ⟨place', -, hleads', rfl, -⟩ := hother
  rw [hleads.unique hleads']

/-- A root is only judged by the settings once it is known where it leads. -/
inductive Judged (surroundings : Surroundings) (path : Path) : Except Obstacle Path → Prop where
  | nowhere {obstacle : Obstacle} (hnone : ∀ place, ¬surroundings.LeadsTo path place)
      (hobstacle : ∀ flaw, obstacle ≠ .settings flaw) : Judged surroundings path (.error obstacle)
  | nameTooLong {place : List String} (hleads : surroundings.LeadsTo path place)
      (hfind : surroundings.disk.find [] ⟨.root, place⟩ = .error .nameTooLong) :
      Judged surroundings path (.error .nameTooLong)
  | lacking {flaw : SettingsFlaw} (hlacks : surroundings.LacksProject path) :
      Judged surroundings path (.error (.settings flaw))
  | project {root : Path} (hproject : surroundings.IsProject path root) : Judged surroundings path (.ok root)

theorem eq_homeUnknown_of_expandHome (h : surroundings.expandHome path = .error obstacle) :
    obstacle = .homeUnknown := by
  unfold expandHome at h
  split at h
  · split at h
    · split at h
      · exact (Except.error.inj h).symm
      · dsimp only at h
        split at h
        · exact (Except.error.inj h).symm
        · cases h
    · cases h
  · cases h

theorem judged_projectRoot : surroundings.Judged path (surroundings.projectRoot path) := by
  unfold projectRoot
  cases hexpanded : surroundings.expandHome path with
  | error obstacle =>
    refine .nowhere ?_ ?_
    · rintro place ⟨expanded, hok, -⟩
      cases hexpanded.symm.trans hok
    · rw [eq_homeUnknown_of_expandHome hexpanded]
      exact nofun
  | ok expanded =>
    change Judged _ _ (if containsNul expanded = true then _ else _)
    cases hnul : containsNul expanded with
    | true =>
      refine .nowhere ?_ nofun
      rintro place ⟨again, hok, hplain, -⟩
      obtain rfl := Except.ok.inj (hexpanded.symm.trans hok)
      cases hnul.symm.trans hplain
    | false =>
      cases hresolve : surroundings.disk.resolve surroundings.folder expanded with
      | none =>
        refine .nowhere ?_ nofun
        rintro place ⟨again, hok, -, hsome⟩
        obtain rfl := Except.ok.inj (hexpanded.symm.trans hok)
        cases hresolve.symm.trans hsome
      | some place =>
        have hleads : surroundings.LeadsTo path place := ⟨expanded, hexpanded, hnul, hresolve⟩
        dsimp only
        rw [if_neg Bool.false_ne_true]
        cases hfind : surroundings.disk.find [] ⟨.root, place⟩ with
        | ok entry =>
          cases entry with
          | folder entries =>
            dsimp only
            split
            · rename_i hclosed
              exact .lacking ⟨place, hleads, by simp [hfind], fun _ _ => hclosed⟩
            · rename_i hopen
              exact .project ⟨place, entries, hleads, rfl, hfind, hopen⟩
          | file bytes | link target => exact .lacking ⟨place, hleads, by simp [hfind], by simp [hfind]⟩
        | error trouble =>
          cases trouble with
          | nameTooLong => exact .nameTooLong hleads hfind
          | missing | notAFolder | isAFolder | tooManyLinks =>
            exact .lacking ⟨place, hleads, by simp [hfind], by simp [hfind]⟩

theorem not_isProject_of_lacksProject (hlacks : surroundings.LacksProject path) :
    ¬surroundings.IsProject path root := by
  rintro ⟨other, entries, hother, -, hfolder, hopen⟩
  obtain ⟨place, hplace, -, hclosed⟩ := hlacks
  obtain rfl := hplace.unique hother
  exact hopen (hclosed entries hfolder)

theorem projectRoot_eq_ok_iff : surroundings.projectRoot path = .ok root ↔ surroundings.IsProject path root := by
  constructor
  · intro h
    have hjudged := @judged_projectRoot surroundings path
    rw [h] at hjudged
    cases hjudged with
    | project hproject => exact hproject
  · intro hproject
    have hjudged := @judged_projectRoot surroundings path
    generalize surroundings.projectRoot path = result at hjudged
    cases hjudged with
    | nowhere hnone =>
      obtain ⟨place, -, hleads, -⟩ := hproject
      exact absurd hleads (hnone place)
    | nameTooLong hother hlong =>
      obtain ⟨place, entries, hleads, -, hfolder, -⟩ := hproject
      obtain rfl := hleads.unique hother
      cases hfolder.symm.trans hlong
    | lacking hlacks => exact absurd hproject (not_isProject_of_lacksProject hlacks)
    | project hother => rw [hproject.unique hother]

/-- The settings reject a root just when it leads to what is no folder or must not be looked into. -/
theorem exists_projectRoot_eq_settings_iff :
    (∃ flaw, surroundings.projectRoot path = .error (.settings flaw)) ↔ surroundings.LacksProject path := by
  constructor
  · rintro ⟨flaw, h⟩
    have hjudged := @judged_projectRoot surroundings path
    rw [h] at hjudged
    cases hjudged with
    | nowhere _ hobstacle => exact absurd rfl (hobstacle flaw)
    | lacking hlacks => exact hlacks
  · intro hlacks
    have hjudged := @judged_projectRoot surroundings path
    generalize surroundings.projectRoot path = result at hjudged
    cases hjudged with
    | nowhere hnone =>
      obtain ⟨place, hleads, -⟩ := hlacks
      exact absurd hleads (hnone place)
    | nameTooLong hother hlong =>
      obtain ⟨place, hleads, hname, -⟩ := hlacks
      obtain rfl := hleads.unique hother
      exact absurd hlong hname
    | @lacking flaw _ => exact ⟨flaw, rfl⟩
    | project hproject => exact absurd hproject (not_isProject_of_lacksProject hlacks)

/-! ### Files of variables -/

/-- Surroundings that differ in nothing but their environments. -/
def SameBut (surroundings left : Surroundings) : Prop :=
  left = { surroundings with environment := left.environment }

theorem SameBut.symm {left : Surroundings} (hsame : surroundings.SameBut left) : left.SameBut surroundings := by
  unfold SameBut at hsame ⊢
  rw [hsame]

theorem SameBut.trans {middle left : Surroundings} (hfirst : surroundings.SameBut middle)
    (hsecond : middle.SameBut left) : surroundings.SameBut left := by
  unfold SameBut at hfirst hsecond ⊢
  rw [hfirst] at hsecond
  exact hsecond

theorem sameBut_loadEnvFile : surroundings.SameBut (surroundings.loadEnvFile path).1 := by
  unfold loadEnvFile
  split
  · rfl
  · split <;> rfl

theorem sameBut_loadEnvFileUpwards : surroundings.SameBut surroundings.loadEnvFileUpwards.1 := by
  unfold loadEnvFileUpwards
  split
  · rfl
  · exact sameBut_loadEnvFile

theorem sameBut_loadEnvFiles : surroundings.SameBut (surroundings.loadEnvFiles root).1 := by
  have hown := @sameBut_loadEnvFile surroundings (root.child envFileName)
  unfold loadEnvFiles
  split
  · next left heq =>
    rw [heq] at hown
    exact hown.trans sameBut_loadEnvFileUpwards
  · exact hown

/-- The same disk, seen from the same folder. -/
structure SameDisk (surroundings left : Surroundings) : Prop where
  disk : left.disk = surroundings.disk
  folder : left.folder = surroundings.folder

theorem SameBut.sameDisk {left : Surroundings} (hsame : surroundings.SameBut left) : surroundings.SameDisk left := by
  unfold SameBut at hsame
  constructor <;> rw [hsame]

/-- What keeps the variables of a file from being taken over is no flaw of the settings. -/
theorem ne_settings_of_loadEnvFile (h : (surroundings.loadEnvFile path).2 = some obstacle) (flaw : SettingsFlaw) :
    obstacle ≠ .settings flaw := by
  rintro rfl
  unfold loadEnvFile at h
  split at h
  · cases h
  · split at h
    · cases h
    · obtain ⟨name, -, hname⟩ := Option.map_eq_some_iff.1 h
      cases hname

theorem ne_settings_of_loadEnvFiles (h : (surroundings.loadEnvFiles root).2 = some obstacle) (flaw : SettingsFlaw) :
    obstacle ≠ .settings flaw := by
  unfold loadEnvFiles at h
  split at h
  · next left _ =>
    unfold loadEnvFileUpwards at h
    split at h
    · cases h
    · exact ne_settings_of_loadEnvFile h flaw
  · exact ne_settings_of_loadEnvFile h flaw

/-! ### Settings -/

theorem settingsFor_eq_ok_iff {settings : Settings} :
    surroundings.settingsFor root given = .ok settings
      ↔ Settings.Built surroundings.environment root given settings := by
  unfold settingsFor
  rw [← Settings.build_eq_ok_iff]
  cases Settings.build surroundings.environment root given with
  | error flaw => exact ⟨nofun, nofun⟩
  | ok built => exact ⟨fun h => congrArg _ (Except.ok.inj h), fun h => congrArg _ (Except.ok.inj h)⟩

theorem exists_settingsFor_eq_error (h : ∀ settings, ¬Settings.Built surroundings.environment root given settings) :
    ∃ flaw, surroundings.settingsFor root given = .error (.settings flaw) := by
  unfold settingsFor
  cases hbuild : Settings.build surroundings.environment root given with
  | error flaw => exact ⟨flaw, rfl⟩
  | ok settings => exact absurd (Settings.build_eq_ok_iff.1 hbuild) (h settings)

theorem settingsAt_eq_of_isProject (hproject : surroundings.IsProject path root) :
    surroundings.settingsAt path given = surroundings.settingsFor root given := by
  rw [settingsAt, projectRoot_eq_ok_iff.2 hproject]
  rfl

theorem settingsAt_eq_ok_iff {settings : Settings} :
    surroundings.settingsAt path given = .ok settings ↔ ∃ root, surroundings.IsProject path root
      ∧ Settings.Built surroundings.environment root given settings := by
  rw [settingsAt, bind_eq_ok_iff]
  exact exists_congr fun root => and_congr projectRoot_eq_ok_iff settingsFor_eq_ok_iff

/-- Loading goes on to the next stage only when the one before has succeeded. -/
inductive Loads (surroundings : Surroundings) (path : Path) (given : Given) :
    Surroundings × Except Obstacle Settings → Prop where
  -- nothing has changed yet
  | rejected {obstacle : Obstacle} (hroot : surroundings.projectRoot path = .error obstacle) :
      Loads surroundings path given (surroundings, .error obstacle)
  | stopped {root : Path} {left : Surroundings} {obstacle : Obstacle} (hproject : surroundings.IsProject path root)
      (hleft : surroundings.loadEnvFiles root = (left, some obstacle)) (hobstacle : ∀ flaw, obstacle ≠ .settings flaw) :
      Loads surroundings path given (left, .error obstacle)
  | flawed {root : Path} {left : Surroundings} {flaw : SettingsFlaw} (hproject : surroundings.IsProject path root)
      (hleft : surroundings.loadEnvFiles root = (left, none))
      (hnone : ∀ settings, ¬Settings.Built left.environment root given settings) :
      Loads surroundings path given (left, .error (.settings flaw))
  | built {root : Path} {left : Surroundings} {settings : Settings} (hproject : surroundings.IsProject path root)
      (hleft : surroundings.loadEnvFiles root = (left, none))
      (hbuilt : Settings.Built left.environment root given settings) :
      Loads surroundings path given (left, .ok settings)

theorem loads_loadSettings : surroundings.Loads path given (surroundings.loadSettings path given) := by
  unfold loadSettings
  cases hroot : surroundings.projectRoot path with
  | error obstacle => exact .rejected hroot
  | ok root =>
    have hproject := projectRoot_eq_ok_iff.1 hroot
    dsimp only
    split
    · next left obstacle hleft => exact .stopped hproject hleft (ne_settings_of_loadEnvFiles (by rw [hleft]))
    · next left hleft =>
      cases hsettings : left.settingsFor root given with
      | ok settings => exact .built hproject hleft (settingsFor_eq_ok_iff.1 hsettings)
      | error obstacle =>
        have hnone : ∀ settings, ¬Settings.Built left.environment root given settings := by
          intro settings hbuilt
          cases hsettings.symm.trans (settingsFor_eq_ok_iff.2 hbuilt)
        obtain ⟨flaw, hflaw⟩ := exists_settingsFor_eq_error hnone
        obtain rfl := Except.error.inj (hsettings.symm.trans hflaw)
        exact .flawed hproject hleft hnone

theorem loadSettings_of_built {left : Surroundings} {settings : Settings} (hproject : surroundings.IsProject path root)
    (hleft : surroundings.loadEnvFiles root = (left, none))
    (hbuilt : Settings.Built left.environment root given settings) :
    surroundings.loadSettings path given = (left, .ok settings) := by
  unfold loadSettings
  rw [projectRoot_eq_ok_iff.2 hproject]
  dsimp only
  rw [hleft]
  dsimp only
  rw [settingsFor_eq_ok_iff.2 hbuilt]

theorem sameBut_loadSettings : surroundings.SameBut (surroundings.loadSettings path given).1 := by
  have hloads := @loads_loadSettings surroundings path given
  generalize surroundings.loadSettings path given = result at hloads
  cases hloads with
  | rejected => rfl
  | @stopped root left obstacle _ hleft | @flawed root left flaw _ hleft | @built root left settings _ hleft =>
    have hsame := @sameBut_loadEnvFiles surroundings root
    rw [hleft] at hsame
    exact hsame

theorem sameDisk_loadSettings : surroundings.SameDisk (surroundings.loadSettings path given).1 :=
  sameBut_loadSettings.sameDisk

end Surroundings

end UseSites
