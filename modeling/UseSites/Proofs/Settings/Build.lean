import UseSites.Settings.Basic
/-!
# Building settings

Settings are built exactly when everything that is looked at can be used. `Built` lists the conditions, together
with what the settings are then made of, and `build_eq_ok_iff` opens the chain of checks once for all. A value
that is given and a variable that is read come under one field: which of the two it is, is for `given` to say.
-/

namespace UseSites

/-- A chain of checks succeeds when its first one does and the others do with what it yields. -/
theorem bind_eq_ok_iff {ε α β : Type} {first : Except ε α} {next : α → Except ε β} {result : β} :
    (first >>= next) = .ok result ↔ ∃ value, first = .ok value ∧ next value = .ok result := by
  cases first with
  | error cause => exact ⟨nofun, fun ⟨_, hfirst, _⟩ => nomatch hfirst⟩
  | ok value => exact ⟨fun h => ⟨value, rfl, h⟩, fun ⟨_, hfirst, h⟩ => Except.ok.inj hfirst ▸ h⟩

namespace Settings

variable {environment : Environment} {root : Path} {values : Given} {settings : Settings}

structure InRange (settings : Settings) : Prop where
  before : 0 ≤ settings.window.before
  after : 0 ≤ settings.window.after
  workers : 1 ≤ settings.workers
  includes : settings.includes ≠ []

/-- Settings that are made of what was given and of the environment, all of which can be used. -/
structure Built (environment : Environment) (root : Path) (values : Given) (settings : Settings) : Prop where
  isSymbol : isSymbol values.symbol = true
  domain : Text.allBlank values.domain = false
  root : settings.root = root
  symbol : settings.symbol = values.symbol
  filter : settings.filter = Text.trim values.domain
  includes : settings.includes = givenList values.includes (list environment "REFSCAN_INCLUDE" defaultIncludes)
  excludes : settings.excludes = givenList values.excludes (list environment "REFSCAN_EXCLUDE" defaultExcludes)
  before : given values.before (integer environment "REFSCAN_CONTEXT_BEFORE" defaultWindow.before)
    = .ok settings.window.before
  after : given values.after (integer environment "REFSCAN_CONTEXT_AFTER" defaultWindow.after)
    = .ok settings.window.after
  workers : given values.workers (integer environment "REFSCAN_WORKERS" defaultWorkers) = .ok settings.workers
  strict : given values.strict (boolean environment "REFSCAN_STRICT_PARSE" true) = .ok settings.strict
  inRange : settings.InRange

theorem check_eq_ok_iff {checked : Settings} :
    check settings = .ok checked ↔ checked = settings ∧ settings.InRange := by
  unfold check
  constructor
  · intro h
    split at h
    · cases h
    · next hwindow =>
      split at h
      · cases h
      · next hworkers =>
        split at h
        · cases h
        · next hincludes =>
          exact ⟨(Except.ok.inj h).symm, by omega, by omega, by omega, fun hnil => hincludes (by rw [hnil]; rfl)⟩
  · rintro ⟨rfl, hbefore, hafter, hworkers, hincludes⟩
    rw [if_neg (by omega), if_neg (by omega), if_neg (by rwa [List.isEmpty_iff])]

theorem build_eq_ok_iff : build environment root values = .ok settings ↔ Built environment root values settings := by
  unfold build
  constructor
  · intro h
    cases hsymbol : isSymbol values.symbol with
    | false =>
      rw [hsymbol] at h
      cases h
    | true =>
      cases hdomain : Text.allBlank values.domain with
      | true =>
        rw [hsymbol, hdomain] at h
        cases h
      | false =>
        rw [hsymbol, hdomain] at h
        obtain ⟨before, hbefore, h⟩ := bind_eq_ok_iff.1 h
        obtain ⟨after, hafter, h⟩ := bind_eq_ok_iff.1 h
        obtain ⟨workers, hworkers, h⟩ := bind_eq_ok_iff.1 h
        obtain ⟨strict, hstrict, h⟩ := bind_eq_ok_iff.1 h
        obtain ⟨rfl, hrange⟩ := check_eq_ok_iff.1 h
        exact ⟨hsymbol, hdomain, rfl, rfl, rfl, rfl, rfl, hbefore, hafter, hworkers, hstrict, hrange⟩
  · rintro ⟨hsymbol, hdomain, rfl, hname, hfilter, hincludes, hexcludes, hbefore, hafter, hworkers, hstrict, hrange⟩
    rw [hsymbol, hdomain, hbefore, hafter, hworkers, hstrict, ← hname, ← hfilter, ← hincludes, ← hexcludes]
    exact check_eq_ok_iff.2 ⟨rfl, hrange⟩

end Settings

end UseSites
