import UseSites.Proofs.Files.Discovery
import UseSites.Proofs.Files.Pruning
import UseSites.Proofs.Ignore.Ending
import UseSites.Proofs.Path.Regular
import UseSites.Project.Search
/-!
# Names of source files

Two rules say what a source file is. The default patterns look for the ending of a name, and a pattern holds
for all that is below a folder of such a name as well; the grammar of a file goes by the suffix of its own name,
and a name has a suffix only behind some stem. The two rules agree on all names that look like those of source files,
but for those that are `Misspelt`. They do not agree below a folder such as `pkg.ts`, where every file counts as a
source, whatever its name looks like.
-/

namespace UseSites

/-! ### Suffixes and endings -/

/-- The suffix of a name is what follows its last dot, provided something stands in front of it. -/
theorem Path.suffixOfName_ofList {stem ending : List Char} (hdot : '.' ∉ ending) (hending : ending ≠ []) :
    suffixOfName (String.ofList (stem ++ '.' :: ending))
      = if stem = [] then "" else String.ofList ('.' :: ending) := by
  have hreverse : (stem ++ '.' :: ending).reverse = ending.reverse ++ '.' :: stem.reverse := by simp
  have htake : (ending.reverse ++ '.' :: stem.reverse).takeWhile (· ≠ '.') = ending.reverse := by
    rw [List.takeWhile_append_of_pos]
    · simp
    · intro c hc
      simpa using ne_of_mem_of_not_mem (List.mem_reverse.1 hc) hdot
  have hdrop : (ending.reverse ++ '.' :: stem.reverse).drop (ending.reverse.length + 1) = stem.reverse := by
    rw [List.drop_append, List.drop_of_length_le (by omega)]
    simp
  simp only [suffixOfName, String.toList_ofList, hreverse, htake, hdrop]
  by_cases hstem : stem = []
  · simp [hstem]
  · simp [hstem, hending]

def sourceEndings : List String := [".ts", ".tsx", ".js", ".jsx", ".mjs", ".cjs"]

theorem ofLines_defaultIncludes :
    Ignore.Pattern.ofLines Settings.defaultIncludes
      = .ok (sourceEndings.map fun ending => ⟨false, .steps (Ignore.Step.ofEnding ending.toList)⟩) := by
  rfl

/-- Names that the default patterns take for those of source files although they have no suffix of a source file:
those that are nothing but the ending, and those that a line feed ends. -/
def Misspelt (name : String) : Prop :=
  ∃ ending ∈ sourceEndings, name = ending ∨ ending.toList ++ ['\n'] <:+ name.toList

instance (name : String) : Decidable (Misspelt name) := List.decidableBEx ..

/-- Names that the default patterns take for those of source files. -/
def LooksLikeSource (name : String) : Prop :=
  ∃ ending ∈ sourceEndings, ending.toList <:+ name.toList ∨ ending.toList ++ ['\n'] <:+ name.toList

theorem exists_dot_cons_of_mem_sourceEndings {ending : String} (h : ending ∈ sourceEndings) :
    ∃ rest, ending.toList = '.' :: rest ∧ '.' ∉ rest ∧ rest ≠ [] := by
  simp only [sourceEndings, List.mem_cons, List.not_mem_nil, or_false] at h
  rcases h with rfl | rfl | rfl | rfl | rfl | rfl <;> exact ⟨_, rfl, by decide, by decide⟩

/-- A name with an ending has a grammar, unless it is the ending. -/
theorem ofSuffix?_eq_none_iff_of_ending {name ending : String} (hending : ending ∈ sourceEndings)
    (hname : ending.toList <:+ name.toList) :
    Dialect.ofSuffix? (Text.lower (Path.suffixOfName name)) = none ↔ name = ending := by
  obtain ⟨rest, htext, hdot, hne⟩ := exists_dot_cons_of_mem_sourceEndings hending
  obtain ⟨stem, hstem⟩ := hname
  have hofList : name = String.ofList (stem ++ '.' :: rest) := by
    rw [← htext, hstem, String.ofList_toList]
  have hsuffix := @Path.suffixOfName_ofList stem rest hdot hne
  rw [← hofList, ← htext, String.ofList_toList] at hsuffix
  rw [hsuffix]
  by_cases hempty : stem = []
  · rw [if_pos hempty]
    refine iff_of_true (by decide) ?_
    rw [hempty, List.nil_append] at hstem
    exact (String.toList_injective hstem).symm
  · rw [if_neg hempty]
    have hgrammar : ∀ ending ∈ sourceEndings, Dialect.ofSuffix? (Text.lower ending) ≠ none := by decide
    refine iff_of_false (hgrammar ending hending) ?_
    rintro rfl
    have hlength := congrArg List.length hstem
    rw [List.length_append] at hlength
    exact hempty (List.length_eq_zero_iff.1 (by omega))

theorem ofSuffix?_eq_none_of_lineFeed {name ending : String} (hending : ending ∈ sourceEndings)
    (hname : ending.toList ++ ['\n'] <:+ name.toList) :
    Dialect.ofSuffix? (Text.lower (Path.suffixOfName name)) = none := by
  obtain ⟨rest, htext, hdot, hne⟩ := exists_dot_cons_of_mem_sourceEndings hending
  obtain ⟨stem, hstem⟩ := hname
  have hdotFeed : '.' ∉ rest ++ ['\n'] := by simpa using hdot
  have hofList : name = String.ofList (stem ++ '.' :: (rest ++ ['\n'])) := by
    rw [← List.cons_append, ← htext, hstem, String.ofList_toList]
  have hsuffix := @Path.suffixOfName_ofList stem _ hdotFeed (by simp)
  rw [← hofList, ← List.cons_append, ← htext] at hsuffix
  rw [hsuffix]
  split
  · decide
  · have hnone : ∀ ending ∈ sourceEndings,
        Dialect.ofSuffix? (Text.lower (String.ofList (ending.toList ++ ['\n']))) = none := by decide
    exact hnone ending hending

theorem ofSuffix?_eq_none_iff_misspelt {name : String} (hlooks : LooksLikeSource name) :
    Dialect.ofSuffix? (Text.lower (Path.suffixOfName name)) = none ↔ Misspelt name := by
  constructor
  · intro hnone
    obtain ⟨ending, hending, hname | hfeed⟩ := hlooks
    · exact ⟨ending, hending, Or.inl ((ofSuffix?_eq_none_iff_of_ending hending hname).1 hnone)⟩
    · exact ⟨ending, hending, Or.inr hfeed⟩
  · rintro ⟨ending, hending, rfl | hfeed⟩
    · exact (ofSuffix?_eq_none_iff_of_ending hending (List.suffix_refl _)).2 rfl
    · exact ofSuffix?_eq_none_of_lineFeed hending hfeed

theorem Source.ofTree_ne_noGrammar {path : Path} {text : String} {strict : Bool} {tree : Cst} {suffix : String} :
    ofTree path text strict tree ≠ .error (.noGrammar suffix) := by
  unfold ofTree
  split <;> intro h <;> cases h

theorem Source.load_eq_noGrammar_iff {reads : Reads} {strict : Bool} {file : Path} :
    (∃ suffix, load reads strict file = .error (.noGrammar suffix)) ↔ Dialect.ofPath? file = none := by
  unfold load
  constructor
  · rintro ⟨suffix, h⟩
    split at h
    · rename_i hnone
      exact hnone
    · split at h
      · cases h
      · split at h
        · cases h
        · exact absurd h ofTree_ne_noGrammar
  · intro h
    exact ⟨file.suffix, by rw [h]⟩

/-! ### Discovered files -/

structure Search.HasDefaultPatterns (search : Search) : Prop where
  includes : Ignore.Pattern.ofLines Settings.defaultIncludes = .ok search.includes
  excludes : Ignore.Pattern.ofLines Settings.defaultExcludes = .ok search.excludes

namespace Search

variable {search : Search} {disk : Disk}

theorem endsSegment_of_keeps (hdefault : search.HasDefaultPatterns) {below : List String} (hne : below ≠ [])
    (hslash : ∀ segment ∈ below, '/' ∉ segment.toList) (hkept : search.keeps (Path.joinSegments below) = true) :
    ∃ ending ∈ sourceEndings, Ignore.EndsSegment ending.toList (below.map String.toList) := by
  rw [keeps, Bool.and_eq_true] at hkept
  obtain ⟨pattern, hpattern, reach, hreach⟩ := Ignore.exists_reach?_of_selects hkept.2
  have hincludes := hdefault.includes
  rw [ofLines_defaultIncludes, Except.ok.injEq] at hincludes
  rw [← hincludes] at hpattern
  obtain ⟨ending, hending, rfl⟩ := List.mem_map.1 hpattern
  refine ⟨ending, hending, ?_⟩
  have hplain : ∀ ending ∈ sourceEndings, '/' ∉ ending.toList := by decide
  have hends := Ignore.endsSegment_of_reach? (hplain ending hending) hreach
  rwa [Path.toList_joinSegments, Text.pieces_intercalate (by simpa using hne) (List.forall_mem_map.2 hslash)] at hends

theorem looksLikeSource_of_endsSegment {folders : List String} {name ending : String} (hending : ending ∈ sourceEndings)
    (hends : Ignore.EndsSegment ending.toList ((folders ++ [name]).map String.toList))
    (hfolders : ∀ folder ∈ folders, ∀ ending ∈ sourceEndings, ¬ending.toList <:+ folder.toList) :
    LooksLikeSource name := by
  rw [List.map_append, List.map_singleton] at hends
  rcases hends with ⟨segment, hsegment, hend⟩ | ⟨segment, hlast, hfeed⟩
  · rcases List.mem_append.1 hsegment with hfolder | hname
    · obtain ⟨folder, hmem, rfl⟩ := List.mem_map.1 hfolder
      exact absurd hend (hfolders folder hmem ending hending)
    · rw [List.mem_singleton.1 hname] at hend
      exact ⟨ending, hending, Or.inl hend⟩
  · rw [List.getLast?_concat, Option.some.injEq] at hlast
    rw [← hlast] at hfeed
    exact ⟨ending, hending, Or.inr hfeed⟩

/-- A discovered file that stands below folders with plain names, or looks like a source file itself, lacks a grammar
exactly if its name is misspelt. -/
theorem grammar_of_discovered (hdefault : search.HasDefaultPatterns)
    (hnames : Listing.allWellNamed (disk.contents search.root.segments) = true) {file : Path}
    (hfile : file ∈ search.discover disk) :
    ∃ folders name, Path.below? search.root file = some (folders ++ [name])
      ∧ ((∀ folder ∈ folders, ∀ ending ∈ sourceEndings, ¬ending.toList <:+ folder.toList) ∨ LooksLikeSource name →
        (Dialect.ofPath? file = none ↔ Misspelt name)
          ∧ ∀ reads strict,
            (∃ suffix, Source.load reads strict file = .error (.noGrammar suffix)) ↔ Misspelt name) := by
  obtain ⟨below, hfound, rfl⟩ := mem_discover.1 hfile
  obtain ⟨first, -, rest, rfl, hslash⟩ := Listing.exists_below_of_mem_filesAmong hnames hfound
  rw [List.nil_append] at hfound hfile ⊢
  obtain ⟨_, hsegments, -, -, hkept⟩ := Listing.mem_filesAmong_iff.1 hfound
  obtain ⟨ending, hending, hends⟩ := endsSegment_of_keeps hdefault (List.cons_ne_nil _ _) hslash hkept
  obtain ⟨folders, name, hbelow⟩ : ∃ folders name, first :: rest = folders ++ [name] :=
    ⟨_, _, (List.dropLast_append_getLast (List.cons_ne_nil first rest)).symm⟩
  rw [hbelow] at hends ⊢
  refine ⟨folders, name, ?_, fun hname => ?_⟩
  · simp [Path.below?]
  · have hlooks : LooksLikeSource name := by
      rcases hname with hfolders | hlooks
      · exact looksLikeSource_of_endsSegment hending hends hfolders
      · exact hlooks
    have hgrammar : Dialect.ofPath? ⟨search.root.anchor, search.root.segments ++ (folders ++ [name])⟩ = none
        ↔ Misspelt name := by
      rw [Dialect.ofPath?, Path.suffix, Path.name, ← List.append_assoc, List.getLast?_concat, Option.getD_some]
      exact ofSuffix?_eq_none_iff_misspelt hlooks
    refine ⟨hgrammar, fun reads strict => ?_⟩
    rw [Source.load_eq_noGrammar_iff, hgrammar]

def plainSearch : Search where
  settings :=
    { root := Path.ofString "/project", symbol := "foo", filter := Category.everyDomain,
      includes := Settings.defaultIncludes, excludes := Settings.defaultExcludes, window := Settings.defaultWindow,
      workers := Settings.defaultWorkers, strict := true }
  root := Path.ofString "/project"
  includes := ((Ignore.Pattern.ofLines Settings.defaultIncludes).toOption).getD []
  excludes := ((Ignore.Pattern.ofLines Settings.defaultExcludes).toOption).getD []

theorem hasDefaultPatterns_plainSearch : plainSearch.HasDefaultPatterns where
  includes := rfl
  excludes := rfl

def hiddenDisk : Disk := ⟨[("project", .folder [("src", .folder [(".ts", .file .empty), ("a.ts", .file .empty)])])]⟩

theorem load_hidden :
    plainSearch.HasDefaultPatterns ∧ Path.ofString "/project/src/.ts" ∈ plainSearch.discover hiddenDisk
      ∧ ∀ reads strict, ∃ suffix,
        Source.load reads strict (Path.ofString "/project/src/.ts") = .error (.noGrammar suffix) := by
  have hfile : Path.ofString "/project/src/.ts" ∈ plainSearch.discover hiddenDisk :=
    mem_discover.2 ⟨["src", ".ts"], by decide, by decide⟩
  refine ⟨hasDefaultPatterns_plainSearch, hfile, fun reads strict => ?_⟩
  obtain ⟨folders, name, hbelow, hplain⟩ := grammar_of_discovered hasDefaultPatterns_plainSearch (by decide) hfile
  have hplace : Path.below? plainSearch.root (Path.ofString "/project/src/.ts") = some (["src"] ++ [".ts"]) := by decide
  rw [hplace, Option.some.injEq] at hbelow
  obtain ⟨rfl, hname⟩ := List.append_inj' hbelow rfl
  obtain rfl : ".ts" = name := List.singleton_inj.1 hname
  exact ((hplain (Or.inl (by decide))).2 reads strict).2 (by decide)

def packageDisk : Disk := ⟨[("project", .folder [("pkg.ts", .folder [("README.md", .file .empty)])])]⟩

/-- What is in the folder counts as a source file too, and a project without other files cannot be searched. -/
theorem discovers_readme :
    plainSearch.HasDefaultPatterns
      ∧ plainSearch.discover packageDisk = [Path.ofString "/project/pkg.ts/README.md"]
      ∧ Dialect.ofPath? (Path.ofString "/project/pkg.ts/README.md") = none
      ∧ plainSearch.run (packageDisk.read []) {} (plainSearch.discover packageDisk) = .error (.allFailed 1) := by
  have hdiscover : plainSearch.discover packageDisk = [Path.ofString "/project/pkg.ts/README.md"] := by
    have hfound : Listing.filesAmong (fun segments => plainSearch.prunes (Path.joinSegments segments))
        (fun segments => plainSearch.keeps (Path.joinSegments segments)) []
        (packageDisk.contents plainSearch.root.segments) = [["pkg.ts", "README.md"]] := by decide
    rw [discover, UseSites.discover, hfound]
    exact List.mergeSort_singleton _
  refine ⟨hasDefaultPatterns_plainSearch, hdiscover, by decide, ?_⟩
  rw [hdiscover]
  rfl

end Search

end UseSites
