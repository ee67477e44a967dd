import TypeScriptBuild.Files.Store
import TypeScriptBuild.Resolution.Resolver

/-!
# Sessions

A sequence of resolutions over a store of files, between which the files, the environment and the
bounds of the search may change.

* `Presence`: which paths are said to exist.
* `Session`: the state between two resolutions.
* `Session.resolver`: what a resolution sees of it.
-/

namespace TypeScriptBuild

/-- Which paths are said to exist: those of the store, every path, or none. -/
inductive Presence where
  | stored
  | always
  | never
  deriving DecidableEq, Repr, Inhabited

/-- The state between two resolutions. -/
structure Session where
  store : Store := []
  environment : Environment := []
  bounds : Bounds := {}
  presence : Presence := .stored
  deriving Inhabited

namespace Session

/-- Whether a path is said to exist. -/
def present (s : Session) : Probe :=
  match s.presence with
  | .stored => s.store.holds
  | .always => fun _ => true
  | .never => fun _ => false

/-- What a resolution sees of a session. -/
def resolver (s : Session) : Resolver :=
  ⟨s.store.read, s.present, s.environment, s.bounds⟩

/-- The session over another store. -/
def withStore (s : Session) (store : Store) : Session :=
  { s with store := store }

theorem present_congr {s s' : Session} {path : String} (hpresence : s'.presence = s.presence)
    (h : s'.store.holds path = s.store.holds path) : s'.present path = s.present path := by
  rw [present, present, hpresence]
  cases s.presence with
  | stored => exact h
  | always => rfl
  | never => rfl

end Session

end TypeScriptBuild
