import Turnstile.Secrets.Provider
import Turnstile.Proofs.Path.Cleaning

/-!
# Confinement of secret files

A file provider reads the secret `name` of its directory `dir` at the absolute
path of `dir` joined with `name`, and refuses the name unless that path starts
with the directory's absolute path and a slash.

For a rooted working directory and a directory that is not empty, the path read
is the directory's absolute path, a slash and the name, cleaned
(`absPath_join`), and the check holds exactly when that path lies strictly below
the directory (`secretPath_eq_ok_iff`), except at the root: the root and a slash
is `//`, which no cleaned path starts with, so there every name is refused.  A
provider therefore looks at no path outside its directory: worlds that agree
strictly below it get the same answers from it (`file_answers_eq_of_agree`).
-/

namespace Turnstile.Secrets

open Turnstile.Host Turnstile.Path

/-- The path of a secret is checked in its cleaned form: the directory's
absolute path, a slash and the name, cleaned. -/
theorem secretPath_eq {cwd dir : String} (hcwd : cwd.startsWith "/" = true) (hdir : dir ≠ "")
    (name : String) :
    secretPath cwd dir name =
      if (clean (absPath cwd dir ++ "/" ++ name)).startsWith (absPath cwd dir ++ "/") then
        .ok (clean (absPath cwd dir ++ "/" ++ name))
      else .error "invalid secret path: directory traversal detected" := by
  unfold secretPath
  dsimp only
  rw [absPath_join hcwd hdir]

/-- The path of a secret: with a rooted working directory and a directory that
is not empty, a name is accepted exactly when the directory is not the root and
the directory's path, a slash and the name, cleaned, lies strictly below the
directory; that cleaned path is the one returned. -/
theorem secretPath_eq_ok_iff {cwd dir : String} (hcwd : cwd.startsWith "/" = true)
    (hdir : dir ≠ "") (name p : String) :
    secretPath cwd dir name = .ok p ↔
      absPath cwd dir ≠ "/" ∧
        StrictlyBelow (absPath cwd dir) (clean (absPath cwd dir ++ "/" ++ name)) ∧
        p = clean (absPath cwd dir ++ "/" ++ name) := by
  obtain ⟨a, ha, hBase⟩ := absPath_eq_clean_rooted hcwd hdir
  have hCheck := clean_startsWith_slash_iff (b := clean a ++ "/" ++ name) ha
    (rooted_append (rooted_append (startsWith_clean_rooted ha) _) _)
  rw [secretPath_eq hcwd hdir, hBase]
  by_cases hIn : (clean (clean a ++ "/" ++ name)).startsWith (clean a ++ "/") = true
  · rw [if_pos hIn, Except.ok.injEq]
    simp only [hCheck.1 hIn, true_and, ne_eq, not_false_eq_true]
    exact eq_comm
  · rw [if_neg hIn]
    simp only [reduceCtorEq, false_iff, not_and]
    exact fun hRoot hBelow _ => hIn (hCheck.2 ⟨hRoot, hBelow⟩)

/-- At the root every name is refused: the root and a slash is `//`, which no
cleaned path starts with. -/
theorem secretPath_root {cwd dir : String} (hcwd : cwd.startsWith "/" = true) (hdir : dir ≠ "")
    (hRoot : absPath cwd dir = "/") (name : String) :
    secretPath cwd dir name = .error "invalid secret path: directory traversal detected" := by
  have hClean : clean "/" = "/" := by
    simp +decide [clean, pathElements, String.splitOn, String.splitOnAux, resolveDots]
  have hCheck := clean_startsWith_slash_iff (a := "/") (b := "/" ++ "/" ++ name)
    (startsWith_rooted "") (rooted_append (startsWith_rooted _) _)
  rw [hClean] at hCheck
  rw [secretPath_eq hcwd hdir, hRoot, if_neg]
  exact fun hIn => (hCheck.1 hIn).1 rfl

/-- A file provider only looks at paths strictly below its directory: two worlds
with the same rooted working directory whose lookups agree there give the same
answers. -/
theorem file_answers_eq_of_agree {w w' : World} {dir : String}
    (hcwd : w.files.cwd.startsWith "/" = true) (hdir : dir ≠ "")
    (hSame : w'.files.cwd = w.files.cwd)
    (hAgree : ∀ p, StrictlyBelow (absPath w.files.cwd dir) p → w'.files.lookup p = w.files.lookup p)
    (name : String) :
    (Provider.file dir).supports w' name = (Provider.file dir).supports w name ∧
      (Provider.file dir).get w' name = (Provider.file dir).get w name := by
  simp only [Provider.supports, Provider.get, hSame]
  cases hPath : secretPath w.files.cwd dir name with
  | error e => exact ⟨rfl, rfl⟩
  | ok p =>
    -- an accepted path lies strictly below the directory, where the worlds agree
    obtain ⟨-, hBelow, rfl⟩ := (secretPath_eq_ok_iff hcwd hdir name p).1 hPath
    dsimp only
    rw [hAgree _ hBelow]
    exact ⟨rfl, rfl⟩

/-- Secret files are confined to their directory.  With a rooted working
directory and a directory that is not empty, a name is accepted exactly when
the directory is not the root and the cleaned path of the directory, a slash and
the name lies strictly below it, and that path is returned; and what the
provider answers depends only on the files strictly below the directory. -/
theorem file_provider_confined {w : World} {dir : String}
    (hcwd : w.files.cwd.startsWith "/" = true) (hdir : dir ≠ "") :
    (∀ name p, secretPath w.files.cwd dir name = .ok p ↔
      absPath w.files.cwd dir ≠ "/" ∧
        StrictlyBelow (absPath w.files.cwd dir) (clean (absPath w.files.cwd dir ++ "/" ++ name)) ∧
        p = clean (absPath w.files.cwd dir ++ "/" ++ name)) ∧
    ∀ w' : World, w'.files.cwd = w.files.cwd →
      (∀ p, StrictlyBelow (absPath w.files.cwd dir) p → w'.files.lookup p = w.files.lookup p) →
      ∀ name, (Provider.file dir).supports w' name = (Provider.file dir).supports w name ∧
        (Provider.file dir).get w' name = (Provider.file dir).get w name :=
  ⟨secretPath_eq_ok_iff hcwd hdir,
    fun _ hSame hAgree => file_answers_eq_of_agree hcwd hdir hSame hAgree⟩

/-- A secret directory read from a rooted working directory. -/
def secretsUnderSrv : World := { files := { cwd := "/srv" } }

/-- A plain name is accepted below a directory that is not the root. -/
theorem secrets_under_srv_accept_name :
    secretPath "/srv" "secrets" "api-key" = .ok "/srv/secrets/api-key" := by
  have hcwd : "/srv".startsWith "/" = true := by simp [String.startsWith_string_iff]
  have hAbs : absPath "/srv" "secrets" = "/srv/secrets" := by
    rw [absPath_relative_elements hcwd (by simp [String.startsWith_string_eq_false_iff]) (by decide)]
    simp +decide [pathElements, String.splitOn, String.splitOnAux, resolveDots]
  have hRooted : ("/srv/secrets" ++ "/" ++ "api-key").startsWith "/" = true :=
    rooted_append (rooted_append (by simp [String.startsWith_string_iff]) _) _
  have hElems : resolveDots true (pathElements ("/srv/secrets" ++ "/" ++ "api-key")) =
      ["srv", "secrets", "api-key"] := by
    rw [pathElements_append_slash]
    simp +decide [pathElements, String.splitOn, String.splitOnAux, resolveDots]
  refine ((@file_provider_confined secretsUnderSrv "secrets" hcwd (by decide)).1 "api-key" _).2 ?_
  dsimp only [secretsUnderSrv]
  rw [hAbs, strictlyBelow_iff, pathElements_clean_rooted hRooted, hElems, clean_rooted hRooted,
    hElems]
  simp +decide [pathElements, String.splitOn, String.splitOnAux]

/-- A directory that climbs to the root refuses every name, even one whose path
lies strictly below the root. -/
theorem root_directory_refuses_names :
    absPath "/tmp/keygate" "../../.." = "/" ∧
      StrictlyBelow "/" (clean ("/" ++ "/" ++ "tmp")) ∧
      secretPath "/tmp/keygate" "../../.." "tmp" =
        .error "invalid secret path: directory traversal detected" := by
  have hcwd : "/tmp/keygate".startsWith "/" = true := by simp [String.startsWith_string_iff]
  have hAbs : absPath "/tmp/keygate" "../../.." = "/" := by
    rw [absPath_relative_elements hcwd (by simp [String.startsWith_string_eq_false_iff]) (by decide)]
    simp +decide [pathElements, String.splitOn, String.splitOnAux, resolveDots]
  refine ⟨hAbs, ?_, secretPath_root hcwd (by decide) hAbs "tmp"⟩
  rw [strictlyBelow_iff, pathElements_clean_rooted (rooted_append (startsWith_rooted _) _),
    pathElements_append_slash]
  simp +decide [pathElements, String.splitOn, String.splitOnAux, resolveDots]

end Turnstile.Secrets
