import Mathlib.Data.List.Basic
import UseSites.Files.Disk
/-!
# Written files

`read_of_write` says that a file that was written is read back through the path it was written through. The
path can go through links, upwards and down again, on a disk that is no longer the same. What carries the
argument is that writing one file changes no other entry, except for what the folders above it hold: at every
other place the disk is `Alike` before and after, and a path is followed by looking at no more than that.
-/

namespace UseSites

namespace Entry

def member? (name : String) : Entry → Option Entry
  | .folder entries => entries.lookup name
  | _ => none

/-- The entry at a place below an entry, without following links. -/
def at? : List String → Entry → Option Entry
  | [], entry => some entry
  | name :: rest, entry => (entry.member? name).bind (at? rest)

theorem at?_append (first second : List String) (entry : Entry) :
    entry.at? (first ++ second) = (entry.at? first).bind (at? second) := by
  induction first generalizing entry with
  | nil => rfl
  | cons name rest ih =>
    rw [List.cons_append, at?, at?, Option.bind_assoc]
    exact congrArg _ (funext fun inner => ih inner)

/-- The same entry, or two folders. -/
inductive Alike : Option Entry → Option Entry → Prop where
  | refl (entry : Option Entry) : Alike entry entry
  | folders (entries others : List (String × Entry)) : Alike (some (.folder entries)) (some (.folder others))

theorem Alike.exists_folder {entries : List (String × Entry)} {found : Option Entry}
    (h : Alike (some (.folder entries)) found) : ∃ others, found = some (.folder others) := by
  cases h with
  | refl => exact ⟨entries, rfl⟩
  | folders _ others => exact ⟨others, rfl⟩

theorem Alike.eq_link {target : String} {found : Option Entry} (h : Alike (some (.link target)) found) :
    found = some (.link target) := by
  cases h
  rfl

/-- Neither a file nor a folder turns into a link. -/
theorem Alike.exists_of_not_link {entry : Entry} {found : Option Entry} (h : Alike (some entry) found)
    (hentry : ∀ target, entry ≠ .link target) : ∃ other, found = some other ∧ ∀ target, other ≠ .link target := by
  cases h with
  | refl => exact ⟨entry, rfl, hentry⟩
  | folders _ others => exact ⟨.folder others, rfl, fun target heq => nomatch heq⟩

end Entry

namespace Disk

open Entry (Alike)

variable {disk : Disk} {entries : List (String × Entry)} {bytes : ByteArray}

theorem entryAmong?_eq_at? (entries : List (String × Entry)) (place : List String) :
    entryAmong? entries place = (Entry.folder entries).at? place := by
  induction place generalizing entries with
  | nil => rfl
  | cons name rest ih =>
    rw [entryAmong?.eq_def, Entry.at?, Entry.member?]
    dsimp only
    cases entries.lookup name with
    | none => rfl
    | some entry =>
      cases entry with
      | folder inner =>
        cases rest with
        | nil => rfl
        | cons next others => exact ih inner
      | file bytes => cases rest <;> rfl
      | link target => cases rest <;> rfl

theorem entryAt?_eq_at? (disk : Disk) (place : List String) :
    disk.entryAt? place = (Entry.folder disk.entries).at? place :=
  entryAmong?_eq_at? disk.entries place

/-- What stands under a name in the folder at a place. -/
theorem entryAt?_concat {place : List String} (hplace : disk.entryAt? place = some (.folder entries)) (name : String) :
    disk.entryAt? (place ++ [name]) = entries.lookup name := by
  rw [entryAt?_eq_at?] at hplace ⊢
  rw [Entry.at?_append, hplace]
  simp [Entry.at?, Entry.member?]

theorem exists_folder_of_entryAt?_concat {place : List String} {name : String} {entry : Entry}
    (h : disk.entryAt? (place ++ [name]) = some entry) :
    ∃ entries, disk.entryAt? place = some (.folder entries) ∧ entries.lookup name = some entry := by
  rw [entryAt?_eq_at?, Entry.at?_append, Option.bind_eq_some_iff] at h
  obtain ⟨folder, hfolder, hentry⟩ := h
  cases folder with
  | folder entries =>
    exact ⟨entries, by rw [entryAt?_eq_at?, hfolder], by simpa [Entry.at?, Entry.member?] using hentry⟩
  | file bytes => simp [Entry.at?, Entry.member?] at hentry
  | link target => simp [Entry.at?, Entry.member?] at hentry

/-! ### What writing changes -/

theorem lookup_cons_eq_ite (key other : String) (entry : Entry) (rest : List (String × Entry)) :
    List.lookup other ((key, entry) :: rest) = if other = key then some entry else rest.lookup other := by
  rw [List.lookup_cons]
  by_cases h : other = key
  · rw [if_pos h, h, beq_self_eq_true]
  · rw [if_neg h, beq_false_of_ne h]

theorem lookup_replaced (name other : String) (entry : Entry) (entries : List (String × Entry)) :
    (replaced name entry entries).lookup other = if other = name then some entry else entries.lookup other := by
  induction entries with
  | nil => exact lookup_cons_eq_ite name other entry []
  | cons first rest ih =>
    obtain ⟨key, old⟩ := first
    rw [replaced]
    by_cases hkey : key = name
    · subst key
      rw [if_pos rfl, lookup_cons_eq_ite, lookup_cons_eq_ite]
      by_cases h : other = name <;> simp [h]
    · rw [if_neg hkey, lookup_cons_eq_ite, lookup_cons_eq_ite, ih]
      by_cases h : other = key <;> simp [h, hkey]

theorem placed_cons {entry : Entry} {name : String} {rest : List String} {inner : List (String × Entry)}
    (hrest : rest ≠ []) (hfolder : entries.lookup name = some (.folder inner)) :
    placed entry (name :: rest) entries = replaced name (.folder (placed entry rest inner)) entries := by
  rw [placed, hfolder]
  exact hrest

/-- No entry, or a file. -/
def IsFree (entry : Option Entry) : Prop := entry = none ∨ ∃ bytes, entry = some (.file bytes)

theorem IsFree.at?_eq_none {entry : Option Entry} (h : IsFree entry) {rest : List String} (hrest : rest ≠ []) :
    entry.bind (Entry.at? rest) = none := by
  obtain ⟨next, others, rfl⟩ := List.exists_cons_of_ne_nil hrest
  rcases h with rfl | ⟨bytes, rfl⟩ <;> rfl

/-- A file can be written under a name at a place: the folder is there, and nothing but a file has the name. -/
inductive Writable (name : String) : List String → List (String × Entry) → Prop where
  | here {entries : List (String × Entry)} (hfree : IsFree (entries.lookup name)) : Writable name [] entries
  | inside {entries inner : List (String × Entry)} {first : String} {rest : List String}
      (hfolder : entries.lookup first = some (.folder inner)) (hrest : Writable name rest inner) :
      Writable name (first :: rest) entries

theorem writable_of_at? {name : String} {folder : List String} {parent : List (String × Entry)}
    (hfolder : (Entry.folder entries).at? folder = some (.folder parent)) (hfree : IsFree (parent.lookup name)) :
    Writable name folder entries := by
  induction folder generalizing entries with
  | nil =>
    obtain rfl := Entry.folder.inj (Option.some.inj hfolder)
    exact .here hfree
  | cons first rest ih =>
    obtain ⟨inner, hinner, hbelow⟩ := Option.bind_eq_some_iff.1 hfolder
    cases inner with
    | folder inner => exact .inside hinner (ih hbelow)
    | file bytes => cases rest <;> cases hbelow
    | link target => cases rest <;> cases hbelow

theorem Writable.isFree {name : String} {folder : List String} (h : Writable name folder entries) :
    IsFree ((Entry.folder entries).at? (folder ++ [name])) := by
  induction h with
  | @here entries hfree =>
    have hentry : (Entry.folder entries).at? ([] ++ [name]) = entries.lookup name := by
      simp [Entry.at?, Entry.member?]
    rwa [hentry]
  | @inside entries inner first rest hfolder hrest ih =>
    rw [List.cons_append, Entry.at?, Entry.member?, hfolder]
    exact ih

theorem at?_placed {name : String} {folder : List String} (h : Writable name folder entries) :
    (Entry.folder (placed (.file bytes) (folder ++ [name]) entries)).at? (folder ++ [name]) = some (.file bytes) := by
  induction h with
  | here hfree =>
    rw [List.nil_append, placed, Entry.at?, Entry.member?, lookup_replaced, if_pos rfl]
    rfl
  | inside hfolder hrest ih =>
    rw [List.cons_append, placed_cons (List.append_ne_nil_of_right_ne_nil _ (List.cons_ne_nil _ _)) hfolder, Entry.at?,
      Entry.member?, lookup_replaced, if_pos rfl]
    exact ih

/-- Everywhere else the entry is as it was, or it is a folder as it was. -/
theorem alike_placed {name : String} {folder : List String} (h : Writable name folder entries) {place : List String}
    (hplace : place ≠ folder ++ [name]) :
    Alike ((Entry.folder entries).at? place)
      ((Entry.folder (placed (.file bytes) (folder ++ [name]) entries)).at? place) := by
  induction h generalizing place with
  | @here entries hfree =>
    cases place with
    | nil => exact .folders _ _
    | cons other below =>
      rw [List.nil_append, placed, Entry.at?, Entry.member?, Entry.at?, Entry.member?, lookup_replaced]
      by_cases hname : other = name
      · -- below the name there was nothing, and below a file there is nothing either
        subst other
        have hbelow : below ≠ [] := fun hnil => hplace (by rw [hnil, List.nil_append])
        rw [if_pos rfl, hfree.at?_eq_none hbelow, IsFree.at?_eq_none (Or.inr ⟨bytes, rfl⟩) hbelow]
        exact .refl _
      · rw [if_neg hname]
        exact .refl _
  | @inside entries inner first rest hfolder hrest ih =>
    rw [List.cons_append, placed_cons (List.append_ne_nil_of_right_ne_nil _ (List.cons_ne_nil _ _)) hfolder]
    cases place with
    | nil => exact .folders _ _
    | cons other below =>
      rw [Entry.at?, Entry.member?, Entry.at?, Entry.member?, lookup_replaced]
      by_cases hname : other = first
      · subst other
        rw [if_pos rfl, hfolder]
        exact ih fun hbelow => hplace (by rw [hbelow, List.cons_append])
      · rw [if_neg hname]
        exact .refl _

section Put

variable {name : String} {folder : List String}

variable (bytes) in
theorem entryAt?_put_self (h : Writable name folder disk.entries) :
    (disk.put (folder ++ [name]) (.file bytes)).entryAt? (folder ++ [name]) = some (.file bytes) := by
  rw [entryAt?_eq_at?]
  exact at?_placed h

theorem alike_put (h : Writable name folder disk.entries) {place : List String} (hplace : place ≠ folder ++ [name]) :
    Alike (disk.entryAt? place) ((disk.put (folder ++ [name]) (.file bytes)).entryAt? place) := by
  rw [entryAt?_eq_at?, entryAt?_eq_at?]
  exact alike_placed h hplace

theorem isFree_of_writable (h : Writable name folder disk.entries) :
    IsFree (disk.entryAt? (folder ++ [name])) := by
  rw [entryAt?_eq_at?]
  exact h.isFree

theorem ne_of_entryAt? (h : Writable name folder disk.entries) {place : List String} {entry : Entry}
    (hplace : disk.entryAt? place = some entry) (hentry : ∀ bytes, entry ≠ .file bytes) : place ≠ folder ++ [name] := by
  rintro rfl
  rcases hplace ▸ isFree_of_writable h with hnone | ⟨bytes, hfile⟩
  · cases hnone
  · exact hentry bytes (Option.some.inj hfile)

theorem exists_entryAt?_put_folder (h : Writable name folder disk.entries) {place : List String}
    (hplace : disk.entryAt? place = some (.folder entries)) :
    ∃ others, (disk.put (folder ++ [name]) (.file bytes)).entryAt? place = some (.folder others) :=
  (hplace ▸ alike_put h (ne_of_entryAt? h hplace nofun) : Alike (some (.folder entries)) _).exists_folder

theorem entryAt?_put_link (h : Writable name folder disk.entries) {place : List String} {target : String}
    (hplace : disk.entryAt? place = some (.link target)) :
    (disk.put (folder ++ [name]) (.file bytes)).entryAt? place = some (.link target) :=
  (hplace ▸ alike_put h (ne_of_entryAt? h hplace nofun) : Alike (some (.link target)) _).eq_link

variable (bytes) in
/-- Where there is an entry that is no link, there still is one. -/
theorem exists_entryAt?_put (h : Writable name folder disk.entries) {place : List String} {entry : Entry}
    (hplace : disk.entryAt? place = some entry) (hentry : ∀ target, entry ≠ .link target) :
    ∃ other, (disk.put (folder ++ [name]) (.file bytes)).entryAt? place = some other ∧
      ∀ target, other ≠ .link target := by
  by_cases hwritten : place = folder ++ [name]
  · rw [hwritten]
    exact ⟨.file bytes, entryAt?_put_self bytes h, fun target heq => nomatch heq⟩
  · exact (hplace ▸ alike_put h hwritten : Alike (some entry) _).exists_of_not_link hentry

end Put

/-! ### Following a path -/

def HasFolder (disk : Disk) (place : List String) : Prop := ∃ entries, disk.entryAt? place = some (.folder entries)

/-- A path that leads somewhere, with no look at anything but the entries it passes. -/
inductive Follows (disk : Disk) : Nat → List String → List String → Spot → Prop where
  | stop {links : Nat} {place : List String} {entry : Entry} (hentry : disk.entryAt? place = some entry) :
      Follows disk links place [] (.taken place entry)
  | up {links : Nat} {place rest : List String} {spot : Spot} (hfolder : disk.HasFolder place)
      (hrest : Follows disk links place.dropLast rest spot) : Follows disk links place (".." :: rest) spot
  | vacant {links : Nat} {place : List String} {name : String} (hfolder : disk.HasFolder place) (hname : name ≠ "..")
      (hlength : ¬nameLimit < name.utf8ByteSize) (hnone : disk.entryAt? (place ++ [name]) = none) :
      Follows disk links place [name] (.vacant (place ++ [name]))
  | link {links : Nat} {place rest : List String} {name target : String} {spot : Spot}
      (hfolder : disk.HasFolder place) (hname : name ≠ "..") (hlength : ¬nameLimit < name.utf8ByteSize)
      (hlink : disk.entryAt? (place ++ [name]) = some (.link target))
      (hrest : Follows disk links (throughLink place target rest).1 (throughLink place target rest).2 spot) :
      Follows disk (links + 1) place (name :: rest) spot
  | down {links : Nat} {place rest : List String} {name : String} {entry : Entry} {spot : Spot}
      (hfolder : disk.HasFolder place) (hname : name ≠ "..") (hlength : ¬nameLimit < name.utf8ByteSize)
      (hentry : disk.entryAt? (place ++ [name]) = some entry) (hnolink : ∀ target, entry ≠ .link target)
      (hrest : Follows disk links (place ++ [name]) rest spot) : Follows disk links place (name :: rest) spot

variable {links : Nat} {place segments : List String} {spot : Spot}

theorem follows_of_spotFrom (h : disk.spotFrom links place segments = .ok spot) :
    disk.Follows links place segments spot := by
  fun_induction spotFrom disk links place segments with
  | case1 links place entry hentry =>
    cases h
    exact .stop hentry
  | case2 => cases h
  | case3 links place rest entries hfolder ih => exact .up ⟨entries, hfolder⟩ (ih h)
  | case4 => cases h
  | case5 links place name rest entries hfolder hname hlength hnone hempty =>
    cases h
    obtain rfl := List.isEmpty_iff.1 hempty
    exact .vacant ⟨entries, hfolder⟩ hname hlength (entryAt?_concat hfolder name ▸ hnone)
  | case6 => cases h
  | case7 => cases h
  | case8 place name rest entries hfolder hname hlength target hlink links newPlace newRest hthrough ih =>
    refine .link ⟨entries, hfolder⟩ hname hlength ((entryAt?_concat hfolder name).trans hlink) ?_
    rw [hthrough]
    exact ih h
  | case9 links place name rest entries hfolder hname hlength entry hnolink hentry ih =>
    exact .down ⟨entries, hfolder⟩ hname hlength ((entryAt?_concat hfolder name).trans hentry) hnolink (ih h)
  | case10 => cases h

theorem spotFrom_of_follows (h : disk.Follows links place segments spot) :
    disk.spotFrom links place segments = .ok spot := by
  induction h with
  | stop hentry => rw [spotFrom, hentry]
  | up hfolder hrest ih =>
    obtain ⟨entries, hfolder⟩ := hfolder
    rw [spotFrom, hfolder]
    exact ih
  | vacant hfolder hname hlength hnone =>
    obtain ⟨entries, hfolder⟩ := hfolder
    rw [entryAt?_concat hfolder] at hnone
    rw [spotFrom, hfolder]
    dsimp only
    rw [if_neg hname, if_neg hlength, hnone]
    rfl
  | link hfolder hname hlength hlink hrest ih =>
    obtain ⟨entries, hfolder⟩ := hfolder
    rw [entryAt?_concat hfolder] at hlink
    rw [spotFrom, hfolder]
    dsimp only
    rw [if_neg hname, if_neg hlength, hlink]
    exact ih
  | @down _ _ _ _ entry _ hfolder hname hlength hentry hnolink hrest ih =>
    obtain ⟨entries, hfolder⟩ := hfolder
    rw [entryAt?_concat hfolder] at hentry
    rw [spotFrom, hfolder]
    dsimp only
    rw [if_neg hname, if_neg hlength, hentry]
    cases entry with
    | link target => exact absurd rfl (hnolink target)
    | file bytes => exact ih
    | folder inner => exact ih

/-- A path ends at a place where a file can be written. -/
inductive Spot.EndsAt (place : List String) : Spot → Prop where
  | vacant : EndsAt place (.vacant place)
  | file (bytes : ByteArray) : EndsAt place (.taken place (.file bytes))

theorem Follows.writable {ending : List String} (h : disk.Follows links place segments spot)
    (hend : spot.EndsAt ending) : ∃ folder name, ending = folder ++ [name] ∧ Writable name folder disk.entries := by
  induction h with
  | @stop links place entry hentry =>
    cases hend with
    | file bytes =>
      rcases List.eq_nil_or_concat ending with rfl | ⟨folder, name, rfl⟩
      · rw [entryAt?_eq_at?] at hentry
        cases hentry
      · rw [List.concat_eq_append] at hentry
        obtain ⟨entries, hfolder, hfile⟩ := exists_folder_of_entryAt?_concat hentry
        rw [entryAt?_eq_at?] at hfolder
        exact ⟨folder, name, List.concat_eq_append, writable_of_at? hfolder (Or.inr ⟨bytes, hfile⟩)⟩
  | @vacant links place name hfolder hname hlength hnone =>
    cases hend
    obtain ⟨entries, hfolder⟩ := hfolder
    rw [entryAt?_concat hfolder] at hnone
    rw [entryAt?_eq_at?] at hfolder
    exact ⟨place, name, rfl, writable_of_at? hfolder (Or.inl hnone)⟩
  | up hfolder hrest ih => exact ih hend
  | link hfolder hname hlength hlink hrest ih => exact ih hend
  | down hfolder hname hlength hentry hnolink hrest ih => exact ih hend

section Put

variable {folder : List String} {name : String}

theorem HasFolder.put (hwritable : Writable name folder disk.entries) (h : disk.HasFolder place) :
    (disk.put (folder ++ [name]) (.file bytes)).HasFolder place := by
  obtain ⟨entries, hentries⟩ := h
  exact exists_entryAt?_put_folder hwritable hentries

theorem Follows.put (hwritable : Writable name folder disk.entries)
    (h : disk.Follows links place segments spot) (hend : spot.EndsAt (folder ++ [name])) :
    (disk.put (folder ++ [name]) (.file bytes)).Follows links place segments
      (.taken (folder ++ [name]) (.file bytes)) := by
  induction h with
  | stop hentry =>
    cases hend
    exact .stop (entryAt?_put_self bytes hwritable)
  | up hfolder hrest ih => exact .up (hfolder.put hwritable) (ih hend)
  | @vacant links place other hfolder hname hlength hnone =>
    -- the path ended where nothing was, and now goes down to the file
    generalize hending : folder ++ [name] = ending at hend
    cases hend
    have hwritten := entryAt?_put_self bytes hwritable
    rw [hending] at hwritten
    exact .down (hending ▸ hfolder.put hwritable) hname hlength hwritten (fun target heq => nomatch heq)
      (.stop hwritten)
  | link hfolder hname hlength hlink hrest ih =>
    exact .link (hfolder.put hwritable) hname hlength (entryAt?_put_link hwritable hlink) (ih hend)
  | down hfolder hname hlength hentry hnolink hrest ih =>
    obtain ⟨entry, hentry, hnolink⟩ := exists_entryAt?_put bytes hwritable hentry hnolink
    exact .down (hfolder.put hwritable) hname hlength hentry hnolink (ih hend)

end Put

theorem exists_endsAt_of_write {disk' : Disk} {folder : List String} {path : Path}
    (h : disk.write folder path bytes = .ok disk') :
    ∃ spot ending, disk.spot folder path = .ok spot ∧ spot.EndsAt ending ∧ disk' = disk.put ending (.file bytes) := by
  rw [write] at h
  split at h
  · cases h
  · next place hspot => exact ⟨_, place, hspot, .vacant, (Except.ok.inj h).symm⟩
  · next place old hspot => exact ⟨_, place, hspot, .file old, (Except.ok.inj h).symm⟩
  · cases h

/-- A file that was written is what is read through the same path afterwards. -/
theorem read_of_write {disk' : Disk} {folder : List String} {path : Path}
    (h : disk.write folder path bytes = .ok disk') : disk'.read folder path = .ok bytes := by
  obtain ⟨spot, ending, hspot, hend, rfl⟩ := exists_endsAt_of_write h
  have hfollows := follows_of_spotFrom hspot
  obtain ⟨parent, name, rfl, hwritable⟩ := hfollows.writable hend
  rw [read, find, Disk.spot, spotFrom_of_follows (hfollows.put hwritable hend)]

end Disk

end UseSites
