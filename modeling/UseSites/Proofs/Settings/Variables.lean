import Mathlib.Data.List.Nodup
import UseSites.Proofs.Settings.Loading
/-!
# Which value a variable has

Loading settings takes variables over from two files. A variable that has a value keeps it; any other one gets its
value in the file of the project, or else in the next file upwards from the working folder. References to variables in
the second file are resolved when those of the first file are there already.

`Loading` says this of one call. A process makes many calls, in different folders and on a disk that may change in
between, and all that one call leaves to the next is the environment (`Surroundings.after`).
-/

namespace UseSites

namespace Environment

variable {environment : Environment}

theorem lookup_filter_ne {name other : String} (bindings : List (String × String)) (hne : other ≠ name) :
    (bindings.filter (·.1 != name)).lookup other = bindings.lookup other := by
  induction bindings with
  | nil => rfl
  | cons first rest ih =>
    obtain ⟨key, value⟩ := first
    by_cases hkey : key = name
    · have hother : (other == key) = false := beq_false_of_ne (hkey ▸ hne)
      simp [List.lookup_cons, hkey, ih, hkey ▸ hother]
    · simp [List.lookup_cons, hkey, ih]

theorem get?_set (environment : Environment) (name value other : String) :
    (environment.set name value).get? other = if other = name then some value else environment.get? other := by
  unfold set get?
  by_cases h : other = name
  · simp [h]
  · simp [List.lookup_cons, beq_false_of_ne h, h, lookup_filter_ne]

section Adopt

variable {name : String} {rest : List (String × Option String)}

theorem adopt_of_set {old : String} (hset : environment.get? name = some old) (new : Option String) :
    environment.adopt ((name, new) :: rest) = environment.adopt rest := by
  rw [adopt]
  intro _ hunset
  cases hset.symm.trans hunset

theorem adopt_of_no_value : environment.adopt ((name, none) :: rest) = environment.adopt rest := by
  rw [adopt]
  exact nofun

theorem adopt_of_unset (hunset : environment.get? name = none) (value : String) :
    environment.adopt ((name, some value) :: rest)
      = if canHold name value then (environment.set name value).adopt rest else (environment, some name) := by
  rw [adopt]
  exact hunset

end Adopt

/-- A variable that has a value keeps it, also when a later one is refused. -/
theorem get?_adopt_of_some {assignments : List (String × Option String)} {name value : String}
    (h : environment.get? name = some value) : (environment.adopt assignments).1.get? name = some value := by
  induction assignments generalizing environment with
  | nil => exact h
  | cons first rest ih =>
    obtain ⟨other, new⟩ := first
    cases hget : environment.get? other with
    | some old =>
      rw [adopt_of_set hget]
      exact ih h
    | none =>
      cases new with
      | none =>
        rw [adopt_of_no_value]
        exact ih h
      | some new =>
        rw [adopt_of_unset hget]
        split
        · apply ih
          rw [get?_set, if_neg, h]
          intro heq
          rw [heq, hget] at h
          cases h
        · exact h

theorem get?_adopt {assignments : List (String × Option String)} (hnames : (assignments.map Prod.fst).Nodup)
    (hdone : (environment.adopt assignments).2 = none) (name : String) :
    (environment.adopt assignments).1.get? name = (environment.get? name).or (assignments.lookup name).join := by
  induction assignments generalizing environment with
  | nil => simp [adopt]
  | cons first rest ih =>
    obtain ⟨other, new⟩ := first
    obtain ⟨hother, hrest⟩ := List.nodup_cons.1 hnames
    rw [List.lookup_cons]
    cases hget : environment.get? other with
    | some old =>
      rw [adopt_of_set hget] at hdone ⊢
      rw [ih hrest hdone]
      by_cases h : name = other
      · simp [h, hget]
      · simp [beq_false_of_ne h]
    | none =>
      cases new with
      | none =>
        rw [adopt_of_no_value] at hdone ⊢
        rw [ih hrest hdone]
        by_cases h : name = other
        · have hlookup : rest.lookup other = none := by
            apply List.lookup_eq_none_iff.2
            intro assignment hmem
            apply bne_iff_ne.2
            rintro rfl
            exact hother (List.mem_map.2 ⟨assignment, hmem, rfl⟩)
          simp [h, hlookup]
        · simp [beq_false_of_ne h]
      | some value =>
        rw [adopt_of_unset hget] at hdone ⊢
        split at hdone
        · next hholds =>
          rw [if_pos hholds, ih hrest hdone, get?_set]
          by_cases h : name = other
          · simp [h, hget]
          · simp [h, beq_false_of_ne h]
        · cases hdone

end Environment

namespace EnvFile

theorem map_fst_assigned (name : String) (value : Option String) (known : List Assignment) :
    (assigned name value known).map Prod.fst
      = if name ∈ known.map Prod.fst then known.map Prod.fst else known.map Prod.fst ++ [name] := by
  induction known with
  | nil => rfl
  | cons first rest ih =>
    obtain ⟨other, old⟩ := first
    unfold assigned
    by_cases h : other = name
    · simp [h]
    · have h' : ¬name = other := fun heq => h heq.symm
      simp only [beq_false_of_ne h, Bool.false_eq_true, if_false, List.map_cons, ih, List.mem_cons, h', false_or]
      split <;> rfl

theorem nodup_assigned {name : String} {value : Option String} {known : List Assignment}
    (h : (known.map Prod.fst).Nodup) : ((assigned name value known).map Prod.fst).Nodup := by
  rw [map_fst_assigned]
  split
  · exact h
  · next hnew => exact List.nodup_append'.2 ⟨h, List.nodup_singleton _, by simpa using hnew⟩

/-- A file gives each of its variables one final value. -/
theorem nodup_resolved (environment : Environment) (assignments : List Assignment) :
    ((resolved environment assignments).map Prod.fst).Nodup := by
  unfold resolved
  refine List.foldlRecOn (motive := fun known : List Assignment => (known.map Prod.fst).Nodup) assignments _
    (by simp) ?_
  intro known hknown assignment _
  exact nodup_assigned hknown

end EnvFile

namespace Surroundings

variable {surroundings middle left : Surroundings} {path root : Path} {given : Given} {name value : String}

/-! ### The variables of one file -/

def assignmentsIn (surroundings : Surroundings) (path : Path) : List EnvFile.Assignment :=
  match surroundings.disk.read [] path with
  | .error _ => []
  | .ok bytes => ((Text.Utf8.decode bytes.toList).toOption.map EnvFile.assignments).getD []

/-- The final value of a variable in a file, if the file gives it one. -/
def valueIn (surroundings : Surroundings) (path : Path) (name : String) : Option String :=
  ((EnvFile.resolved surroundings.environment (surroundings.assignmentsIn path)).lookup name).join

/-- Taking over the variables of a file, if it is text, changes the environment and nothing else. -/
theorem loadEnvFile_cases (surroundings : Surroundings) (path : Path) :
    (surroundings.assignmentsIn path = [] ∧ (surroundings.loadEnvFile path).1 = surroundings)
      ∨ surroundings.loadEnvFile path
        = ({ surroundings with environment := (surroundings.environment.adopt
              (EnvFile.resolved surroundings.environment (surroundings.assignmentsIn path))).1 },
            (surroundings.environment.adopt
              (EnvFile.resolved surroundings.environment (surroundings.assignmentsIn path))).2.map .badVariable) := by
  unfold loadEnvFile assignmentsIn
  cases surroundings.disk.read [] path with
  | error trouble => exact Or.inl ⟨rfl, rfl⟩
  | ok bytes =>
    dsimp only
    cases Text.Utf8.decode bytes.toList with
    | error position => exact Or.inl ⟨rfl, rfl⟩
    | ok text => exact Or.inr rfl

theorem get?_loadEnvFile_of_some (h : surroundings.environment.get? name = some value) :
    (surroundings.loadEnvFile path).1.environment.get? name = some value := by
  rcases loadEnvFile_cases surroundings path with ⟨-, hleft⟩ | hleft
  · rw [hleft]
    exact h
  · rw [hleft]
    exact Environment.get?_adopt_of_some h

theorem get?_loadEnvFile (hdone : (surroundings.loadEnvFile path).2 = none) (name : String) :
    (surroundings.loadEnvFile path).1.environment.get? name
      = (surroundings.environment.get? name).or (surroundings.valueIn path name) := by
  unfold valueIn
  rcases loadEnvFile_cases surroundings path with ⟨hnone, hleft⟩ | hleft
  · rw [hleft, hnone]
    simp [EnvFile.resolved]
  · rw [hleft] at hdone ⊢
    exact Environment.get?_adopt (EnvFile.nodup_resolved _ _) (Option.map_eq_none_iff.1 hdone) name

/-! ### The next file upwards -/

/-- The file of variables in a folder, or the one in the next folder above that has one. -/
def Nearest (surroundings : Surroundings) : Option Path → Prop
  | none => ∀ place, place <+: surroundings.folder → surroundings.disk.isFile [] ⟨.root, place ++ [envFileName]⟩ = false
  | some path => ∃ place, path = ⟨.root, place ++ [envFileName]⟩ ∧ place <+: surroundings.folder
      ∧ surroundings.disk.isFile [] path = true
      ∧ ∀ nearer, nearer <+: surroundings.folder → place.length < nearer.length →
        surroundings.disk.isFile [] ⟨.root, nearer ++ [envFileName]⟩ = false

theorem nearest_envFileUpwards? (surroundings : Surroundings) :
    surroundings.Nearest surroundings.envFileUpwards? := by
  have hprefix : ∀ place, place <+: surroundings.folder → place.length ≤ surroundings.folder.length
      ∧ place = surroundings.folder.take
        (surroundings.folder.length - (surroundings.folder.length - place.length)) := by
    intro place hplace
    have hlength := hplace.length_le
    refine ⟨hlength, ?_⟩
    rw [Nat.sub_sub_self hlength]
    exact List.prefix_iff_eq_take.1 hplace
  unfold envFileUpwards? upwards
  rw [List.map_map, List.find?_map]
  cases hfind : (List.range (surroundings.folder.length + 1)).find? _ with
  | none =>
    intro place hplace
    obtain ⟨hlength, htake⟩ := hprefix place hplace
    have hnone := List.find?_eq_none.1 hfind (surroundings.folder.length - place.length)
      (List.mem_range.2 (by omega))
    simpa [← htake] using hnone
  | some up =>
    obtain ⟨hfile, hmem, hfirst⟩ := List.find?_range_eq_some.1 hfind
    refine ⟨_, rfl, List.take_prefix _ _, hfile, ?_⟩
    intro nearer hnearer hlonger
    obtain ⟨hlength, htake⟩ := hprefix nearer hnearer
    rw [List.length_take] at hlonger
    have hnone := hfirst (surroundings.folder.length - nearer.length) (by omega)
    simpa [← htake] using hnone

/-! ### One call -/

theorem loadEnvFiles_cases (surroundings : Surroundings) (root : Path) :
    ((surroundings.loadEnvFile (root.child envFileName)).2 = none
        ∧ surroundings.loadEnvFiles root = (surroundings.loadEnvFile (root.child envFileName)).1.loadEnvFileUpwards)
      ∨ (surroundings.loadEnvFile (root.child envFileName)).2 ≠ none
        ∧ surroundings.loadEnvFiles root = surroundings.loadEnvFile (root.child envFileName) := by
  unfold loadEnvFiles
  rcases surroundings.loadEnvFile (root.child envFileName) with ⟨left, _ | obstacle⟩
  · exact Or.inl ⟨rfl, rfl⟩
  · exact Or.inr ⟨nofun, rfl⟩

theorem get?_loadEnvFileUpwards_of_some (h : surroundings.environment.get? name = some value) :
    surroundings.loadEnvFileUpwards.1.environment.get? name = some value := by
  unfold loadEnvFileUpwards
  cases surroundings.envFileUpwards? with
  | none => exact h
  | some path => exact get?_loadEnvFile_of_some h

theorem get?_loadEnvFileUpwards (hdone : surroundings.loadEnvFileUpwards.2 = none) (name : String) :
    surroundings.loadEnvFileUpwards.1.environment.get? name
      = (surroundings.environment.get? name).or (surroundings.envFileUpwards?.bind (surroundings.valueIn · name)) := by
  unfold loadEnvFileUpwards at hdone ⊢
  cases hpath : surroundings.envFileUpwards? with
  | none => simp
  | some path =>
    rw [hpath] at hdone
    exact get?_loadEnvFile hdone name

theorem get?_loadEnvFiles_of_some (h : surroundings.environment.get? name = some value) :
    (surroundings.loadEnvFiles root).1.environment.get? name = some value := by
  rcases loadEnvFiles_cases surroundings root with ⟨-, hleft⟩ | ⟨-, hleft⟩
  · rw [hleft]
    exact get?_loadEnvFileUpwards_of_some (get?_loadEnvFile_of_some h)
  · rw [hleft]
    exact get?_loadEnvFile_of_some h

theorem SameDisk.assignmentsIn_eq (hsame : surroundings.SameDisk left) (path : Path) :
    left.assignmentsIn path = surroundings.assignmentsIn path := by
  unfold assignmentsIn
  rw [hsame.disk]

theorem SameDisk.envFileUpwards?_eq (hsame : surroundings.SameDisk left) :
    left.envFileUpwards? = surroundings.envFileUpwards? := by
  unfold envFileUpwards?
  rw [hsame.disk, hsame.folder]

/-- The files that count for a call have given all variables that had no value the value that they are to have. `middle`
is what there is when the first file is taken over. -/
theorem get?_loadEnvFiles (hdone : (surroundings.loadEnvFiles root).2 = none) :
    ∃ middle : Surroundings, surroundings.SameDisk middle
      ∧ (∀ name, middle.environment.get? name
        = (surroundings.environment.get? name).or (surroundings.valueIn (root.child envFileName) name))
      ∧ ∀ name, (surroundings.loadEnvFiles root).1.environment.get? name
        = (surroundings.environment.get? name).or ((surroundings.valueIn (root.child envFileName) name).or
          (surroundings.envFileUpwards?.bind (middle.valueIn · name))) := by
  rcases loadEnvFiles_cases surroundings root with ⟨hown, hleft⟩ | ⟨hstopped, hleft⟩
  · rw [hleft] at hdone ⊢
    refine ⟨_, sameBut_loadEnvFile.sameDisk, get?_loadEnvFile hown, ?_⟩
    intro name
    rw [get?_loadEnvFileUpwards hdone, get?_loadEnvFile hown, Option.or_assoc,
      sameBut_loadEnvFile.sameDisk.envFileUpwards?_eq]
  · rw [hleft] at hdone
    exact absurd hdone hstopped

def Decides (result : Except Obstacle Settings) : Prop :=
  ∀ obstacle, result = .error obstacle → ∃ flaw, obstacle = .settings flaw

/-- What a call for a project does to variables, and what its settings are then. -/
structure TakesOver (surroundings : Surroundings) (path : Path) (given : Given)
    (outcome : Surroundings × Except Obstacle Settings) : Prop where
  kept : ∀ name value, surroundings.environment.get? name = some value →
    outcome.1.environment.get? name = some value
  rejected : (∀ root, ¬surroundings.IsProject path root) →
    outcome.1 = surroundings ∧ ∃ obstacle, outcome.2 = .error obstacle
  taken : ∀ root, surroundings.IsProject path root → Decides outcome.2 →
    ∃ middle nearest?, surroundings.SameDisk middle ∧ surroundings.Nearest nearest?
      ∧ (∀ name, middle.environment.get? name
        = (surroundings.environment.get? name).or (surroundings.valueIn (root.child envFileName) name))
      ∧ ∀ name, outcome.1.environment.get? name
        = (surroundings.environment.get? name).or ((surroundings.valueIn (root.child envFileName) name).or
          (nearest?.bind (middle.valueIn · name)))
  /-- Settings have the values that are then there, and the defaults otherwise. -/
  built : ∀ root, surroundings.IsProject path root → Decides outcome.2 → ∀ settings,
    outcome.2 = .ok settings ↔ Settings.Built outcome.1.environment root given settings

theorem takesOver_of_loadEnvFiles {result : Except Obstacle Settings} {obstacle? : Option Obstacle}
    (hproject : surroundings.IsProject path root) (hleft : surroundings.loadEnvFiles root = (left, obstacle?))
    (hdone : Decides result → obstacle? = none)
    (hbuilt : Decides result → ∀ settings,
      result = .ok settings ↔ Settings.Built left.environment root given settings) :
    surroundings.TakesOver path given (left, result) where
  kept := by
    intro name value h
    have hkept := @get?_loadEnvFiles_of_some _ root _ _ h
    rwa [hleft] at hkept
  rejected := fun hnone => absurd hproject (hnone root)
  taken := by
    intro other hother hdecides
    obtain rfl := hproject.unique hother
    obtain ⟨middle, hsame, hmiddle, hget⟩ := @get?_loadEnvFiles surroundings other (by rw [hleft]; exact hdone hdecides)
    rw [hleft] at hget
    exact ⟨middle, _, hsame, nearest_envFileUpwards? surroundings, hmiddle, hget⟩
  built := by
    intro other hother hdecides
    obtain rfl := hproject.unique hother
    exact hbuilt hdecides

theorem takesOver_loadSettings (surroundings : Surroundings) (path : Path) (given : Given) :
    surroundings.TakesOver path given (surroundings.loadSettings path given) := by
  have hloads := @loads_loadSettings surroundings path given
  generalize surroundings.loadSettings path given = outcome at hloads
  cases hloads with
  | @rejected obstacle hroot =>
    have hnone : ∀ root, ¬surroundings.IsProject path root := by
      intro root hproject
      cases hroot.symm.trans (projectRoot_eq_ok_iff.2 hproject)
    exact
      { kept := fun _ _ h => h
        rejected := fun _ => ⟨rfl, obstacle, rfl⟩
        taken := fun root hproject => absurd hproject (hnone root)
        built := fun root hproject => absurd hproject (hnone root) }
  | @stopped root left obstacle hproject hleft hobstacle =>
    have hnot : ¬Decides (.error obstacle) := fun hdecides => by
      obtain ⟨flaw, hflaw⟩ := hdecides obstacle rfl
      exact hobstacle flaw hflaw
    exact takesOver_of_loadEnvFiles hproject hleft (fun h => absurd h hnot) fun h => absurd h hnot
  | flawed hproject hleft hnone =>
    exact takesOver_of_loadEnvFiles hproject hleft (fun _ => rfl) fun _ settings =>
      ⟨nofun, fun hbuilt => absurd hbuilt (hnone settings)⟩
  | built hproject hleft hbuilt =>
    refine takesOver_of_loadEnvFiles hproject hleft (fun _ => rfl) fun _ settings => ?_
    rw [← Settings.build_eq_ok_iff] at hbuilt ⊢
    rw [hbuilt]
    exact ⟨fun h => congrArg _ (Except.ok.inj h), fun h => congrArg _ (Except.ok.inj h)⟩

/-! ### Many calls -/

/-- One call for settings, with the disk as it is then. -/
structure Call where
  disk : Disk
  folder : List String
  path : Path
  given : Given

def Call.at (call : Call) (surroundings : Surroundings) : Surroundings :=
  { surroundings with disk := call.disk, folder := call.folder }

def Call.outcome (call : Call) (surroundings : Surroundings) : Surroundings × Except Obstacle Settings :=
  (call.at surroundings).loadSettings call.path call.given

def after (surroundings : Surroundings) : List Call → Surroundings
  | [] => surroundings
  | call :: rest => (call.outcome surroundings).1.after rest

theorem after_append (surroundings : Surroundings) (earlier later : List Call) :
    surroundings.after (earlier ++ later) = (surroundings.after earlier).after later := by
  induction earlier generalizing surroundings with
  | nil => rfl
  | cons call rest ih => exact ih _

theorem get?_after_of_some {calls : List Call} (h : surroundings.environment.get? name = some value) :
    (surroundings.after calls).environment.get? name = some value := by
  induction calls generalizing surroundings with
  | nil => exact h
  | cons call rest ih =>
    apply ih
    exact (takesOver_loadSettings (call.at surroundings) call.path call.given).kept name value h

/-- In every sequence of calls a variable that has a value keeps it to the end, and each call gives the others the value
of the project's file, or else of the next file upwards, before it builds its settings. -/
theorem variables_of_calls (surroundings : Surroundings) (earlier : List Call) (call : Call) (later : List Call) :
    (call.at (surroundings.after earlier)).TakesOver call.path call.given (call.outcome (surroundings.after earlier))
      ∧ ∀ name value, (surroundings.after earlier).environment.get? name = some value →
        (surroundings.after (earlier ++ call :: later)).environment.get? name = some value := by
  refine ⟨takesOver_loadSettings _ _ _, ?_⟩
  intro name value h
  rw [after_append]
  exact get?_after_of_some h

end Surroundings

end UseSites
