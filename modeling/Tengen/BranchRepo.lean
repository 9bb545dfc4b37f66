import Mathlib.Logic.Function.Basic
import Tengen.Effect
import Tengen.UpdateBranch
/-!
# The repository under a branch

`create_update_branch` (`tengen/udm/model_updater.py`) on the repository it works in: what `HEAD` is on, the commits of
the branches, the index and the working tree.  It is the same call (`createInRepo_eq`), with what its steps leave behind.

Git is not in the repository.  It is whatever a command makes of a repository, hooks and all, and what the results need
of it is named: `Git.Documented` is what git says of its branches, whatever the hooks answer, and `Git.KeepsFiles` that
no hook and no filter writes a file.

Nothing is undone when a step fails.  `failed_branch_leaves` says what a call that creates no branch leaves, and that a
call again with the same name is refused.
-/
namespace Tengen

/-- The contents of the files, by their paths. -/
abbrev Tree : Type := String → Option String

/-- A commit and those before it, the last first. -/
abbrev History : Type := List Tree

/-- A branch of that name, or a commit that is no branch's. -/
inductive Head where
  | branch (name : String)
  | detached (history : History)

structure Repo where
  head : Head
  /-- What each branch is at; nothing where there is no such branch, or no commit on it. -/
  tips : String → Option History
  index : Tree
  work : Tree

namespace Repo

def history (repo : Repo) : Option History :=
  match repo.head with
  | .branch name => repo.tips name
  | .detached history => some history

/-- `write_text`. -/
def writeText (path text : String) (repo : Repo) : Repo :=
  { repo with work := Function.update repo.work path (some text) }

/-- What a failing `write_text` leaves: the file cut after so many characters, or as it was. -/
def tear (path text : String) (torn : Option Nat) (repo : Repo) : Repo :=
  match torn with
  | some n => repo.writeText path (strTake n text)
  | none => repo

/-- The branches are as they were, and `HEAD` is where it was. -/
structure Stays (repo repo' : Repo) : Prop where
  head : repo'.head = repo.head
  tips : repo'.tips = repo.tips

/-- The branch is there, at what `HEAD` was on, and `HEAD` is on it. -/
structure Branched (branch : String) (repo repo' : Repo) : Prop where
  head : repo'.head = .branch branch
  tips : repo'.tips = Function.update repo.tips branch repo.history

/-- What `HEAD` was on has a commit more, of that tree. -/
structure Committed (tree : Tree) (repo repo' : Repo) : Prop where
  head : repo'.head = match repo.head with
    | .branch name => .branch name
    | .detached history => .detached (tree :: history)
  tips : repo'.tips = match repo.head with
    | .branch name => Function.update repo.tips name (some (tree :: (repo.tips name).getD []))
    | .detached _ => repo.tips

end Repo

/-- What a command writes to stderr where it does not exit with zero, and what it leaves of a repository. -/
abbrev Git : Type := List String → Repo → Option String × Repo

namespace Git

/-- What git says of its branches.  A hook may refuse a commit, and the one after a checkout may have it fail when the
branch is made. -/
structure Documented (git : Git) : Prop where
  taken : ∀ branch (repo : Repo), (repo.tips branch).isSome = true →
    (git ["checkout", "-b", branch] repo).1.isSome = true ∧ repo.Stays (git ["checkout", "-b", branch] repo).2
  checkout : ∀ branch (repo : Repo), (git ["checkout", "-b", branch] repo).1 = none →
    repo.Branched branch (git ["checkout", "-b", branch] repo).2
  checkoutFailed : ∀ branch (repo : Repo), (git ["checkout", "-b", branch] repo).1 ≠ none →
    repo.Stays (git ["checkout", "-b", branch] repo).2 ∨ repo.Branched branch (git ["checkout", "-b", branch] repo).2
  add : ∀ path (repo : Repo), repo.Stays (git ["add", path] repo).2
  commit : ∀ message (repo : Repo), (git ["commit", "-m", message] repo).1 = none →
    ∃ tree, repo.Committed tree (git ["commit", "-m", message] repo).2
  commitFailed : ∀ message (repo : Repo), (git ["commit", "-m", message] repo).1 ≠ none →
    repo.Stays (git ["commit", "-m", message] repo).2

/-- No hook and no filter writes a file: the commands leave the working tree, `git add` alone stages, and what is
committed is what was staged. -/
structure KeepsFiles (git : Git) : Prop where
  checkout : ∀ branch (repo : Repo), (git ["checkout", "-b", branch] repo).2.work = repo.work ∧
    (git ["checkout", "-b", branch] repo).2.index = repo.index
  addWork : ∀ path (repo : Repo), (git ["add", path] repo).2.work = repo.work
  add : ∀ path (repo : Repo), (git ["add", path] repo).1 = none →
    (git ["add", path] repo).2.index = Function.update repo.index path (repo.work path)
  addFailed : ∀ path (repo : Repo), (git ["add", path] repo).1 ≠ none → (git ["add", path] repo).2.index = repo.index
  commit : ∀ message (repo : Repo), (git ["commit", "-m", message] repo).2.work = repo.work ∧
    (git ["commit", "-m", message] repo).2.index = repo.index
  committed : ∀ message (repo : Repo), (git ["commit", "-m", message] repo).1 = none →
    repo.Committed repo.index (git ["commit", "-m", message] repo).2

end Git

/-- What one call meets: the time, git, whether the file cannot be written, and how much of the text is written before
a write fails; nothing where the file is not opened. -/
structure RepoEnv where
  generatedAt : String
  branchStamp : String
  now : Nat → String
  git : Git
  writeFails : Bool
  torn : Option Nat

/-- `CalledProcessError`, which is caught, and `OSError`, which is not. -/
inductive Failure where
  | command (stderr : String)
  | system

section Steps

variable (env : RepoEnv)

/-- `_run_git`. -/
def runCommand (args : List String) : EStateM Failure Repo Unit := fun repo =>
  match env.git args repo with
  | (some stderr, repo') => .error (.command stderr) repo'
  | (none, repo') => .ok () repo'

def writeModule (target text : String) : EStateM Failure Repo Unit := fun repo =>
  if env.writeFails = true then .error .system (repo.tear target text env.torn)
  else .ok () (repo.writeText target text)

def commitModule (target message : String) : EStateM Failure Repo Unit := do
  runCommand env ["add", target]
  runCommand env ["commit", "-m", message]

/-- The body of the `try`. -/
def steps (branch target text message : String) (commit : Bool) : EStateM Failure Repo Unit := do
  runCommand env ["checkout", "-b", branch]
  writeModule env target text
  if commit = true then commitModule env target message

end Steps

/-- `branch or f"udm/field-additions-{now}"`. -/
def branchName (branchStamp : String) (branch : Option String) : String :=
  if branch.getD "" = "" then "udm/field-additions-" ++ branchStamp else branch.getD ""

def commitMessage (proposals : List FieldProposal) : String :=
  "feat(udm): propose " ++ toString (proposals.filter (·.isNew)).length ++ " new model field(s)"

/-- The end of a call, by how its steps ended: the rows are marked if they all passed. -/
def ended (R marked : FieldRegistry) (result : UpdateResult) :
    EStateM.Result Failure Repo Unit → (Option UpdateResult × FieldRegistry) × Repo
  | .error (.command stderr) repo => ((some { result with error := some stderr }, R), repo)
  | .error .system repo => ((none, R), repo)
  | .ok _ repo => ((some { result with created := true }, marked), repo)

variable (py : PyText) (order : FieldRegistry.Ordering) (env : RepoEnv) (R : FieldRegistry) (repo : Repo)

/-- `create_update_branch`: its result, nothing where it raises, the registry, and the repository. -/
def createInRepo (branch : Option String) (modulePath target : String) (commit mark : Bool) :
    (Option UpdateResult × FieldRegistry) × Repo :=
  let proposals := proposeFromRegistry py order R [FieldStatus.approved.value]
  let newProposals := proposals.filter (·.isNew)
  let result : UpdateResult :=
    ⟨false, branch, modulePath, proposals, newProposals.length, renderPrBody proposals, none⟩
  if newProposals = [] then ((some { result with error := some "no approved new fields to promote" }, R), repo)
  else
    let branch := branchName env.branchStamp branch
    let result := { result with branch := some branch }
    let text := renderExtensionModule py env.generatedAt proposals
    ended R (if mark then markPromoted branch env.now proposals R else R) result
      ((steps env branch target text (commitMessage proposals) commit).run repo)

/-! ## Where a call stops -/

variable {py order env R repo}

/-- Steps that do not all pass, by the one that failed, and what it left. -/
inductive Stops (env : RepoEnv) (repo : Repo) (branch target text message : String) (commit : Bool) : Repo → Prop
  | refused {stderr : String} {left : Repo} (hcheckout : env.git ["checkout", "-b", branch] repo = (some stderr, left)) :
      Stops env repo branch target text message commit left
  | unwritten {made : Repo} (hcheckout : env.git ["checkout", "-b", branch] repo = (none, made))
      (hwrite : env.writeFails = true) :
      Stops env repo branch target text message commit (made.tear target text env.torn)
  | unstaged {made left : Repo} {stderr : String}
      (hcheckout : env.git ["checkout", "-b", branch] repo = (none, made)) (hcommit : commit = true)
      (hadd : env.git ["add", target] (made.writeText target text) = (some stderr, left)) :
      Stops env repo branch target text message commit left
  | uncommitted {made staged left : Repo} {stderr : String}
      (hcheckout : env.git ["checkout", "-b", branch] repo = (none, made)) (hcommit : commit = true)
      (hadd : env.git ["add", target] (made.writeText target text) = (none, staged))
      (hlast : env.git ["commit", "-m", message] staged = (some stderr, left)) :
      Stops env repo branch target text message commit left

theorem run_runCommand (args : List String) : (runCommand env args).run repo =
    match env.git args repo with
    | (some stderr, repo') => .error (.command stderr) repo'
    | (none, repo') => .ok () repo' := rfl

theorem run_writeModule (target text : String) : (writeModule env target text).run repo =
    if env.writeFails = true then .error .system (repo.tear target text env.torn)
    else .ok () (repo.writeText target text) := rfl

theorem run_commitModule (target message : String) : (commitModule env target message).run repo =
    match env.git ["add", target] repo with
    | (some stderr, left) => .error (.command stderr) left
    | (none, staged) =>
      match env.git ["commit", "-m", message] staged with
      | (some stderr, left) => .error (.command stderr) left
      | (none, done) => .ok () done := by
  rw [commitModule, EStateM.run_bind, run_runCommand]
  rcases env.git ["add", target] repo with ⟨_ | stderr, staged⟩ <;> rfl

/-- The steps, one after another, and what the repository is at each failure. -/
theorem run_steps (branch target text message : String) (commit : Bool) :
    (steps env branch target text message commit).run repo =
      match env.git ["checkout", "-b", branch] repo with
      | (some stderr, left) => .error (.command stderr) left
      | (none, made) =>
        if env.writeFails = true then .error .system (made.tear target text env.torn)
        else if commit = true then (commitModule env target message).run (made.writeText target text)
        else .ok () (made.writeText target text) := by
  rw [steps, EStateM.run_bind, run_runCommand]
  rcases env.git ["checkout", "-b", branch] repo with ⟨_ | stderr, made⟩
  · dsimp only
    rw [EStateM.run_bind, run_writeModule]
    by_cases hwrite : env.writeFails = true
    · simp only [if_pos hwrite]
    · simp only [if_neg hwrite]
      split <;> rfl
  · rfl

theorem stops_of_run_steps {branch target text message : String} {commit : Bool} {e : Failure} {left : Repo}
    (h : (steps env branch target text message commit).run repo = .error e left) :
    Stops env repo branch target text message commit left := by
  rw [run_steps] at h
  rcases hcheckout : env.git ["checkout", "-b", branch] repo with ⟨_ | stderr, made⟩
  · simp only [hcheckout] at h
    by_cases hwrite : env.writeFails = true
    · rw [if_pos hwrite] at h
      cases h
      exact .unwritten hcheckout hwrite
    rw [if_neg hwrite] at h
    by_cases hcommit : commit = true
    · rw [if_pos hcommit, run_commitModule] at h
      rcases hadd : env.git ["add", target] (made.writeText target text) with ⟨_ | stderr, staged⟩
      · rcases hlast : env.git ["commit", "-m", message] staged with ⟨_ | stderr, last⟩
        · simp only [hadd, hlast] at h
          cases h
        · simp only [hadd, hlast] at h
          cases h
          exact .uncommitted hcheckout hcommit hadd hlast
      · simp only [hadd] at h
        cases h
        exact .unstaged hcheckout hcommit hadd
    · rw [if_neg hcommit] at h
      cases h
  · simp only [hcheckout] at h
    cases h
    exact .refused hcheckout

/-! ## The call without a repository -/

/-- The environment as the call without a repository meets it: each command fails as it does in its turn. -/
def RepoEnv.within (env : RepoEnv) (repo : Repo) (branch target text : String) : UpdateEnv where
  generatedAt := env.generatedAt
  branchStamp := env.branchStamp
  now := env.now
  gitFails args :=
    let written := (env.git ["checkout", "-b", branch] repo).2.writeText target text
    if args = ["checkout", "-b", branch] then (env.git args repo).1
    else if args = ["add", target] then (env.git args written).1
    else (env.git args (env.git ["add", target] written).2).1
  writeFails := env.writeFails

section Within

variable (branch target text : String)

theorem runGit_within_checkout : runGit (env.within repo branch target text) [["checkout", "-b", branch]] =
    (env.git ["checkout", "-b", branch] repo).1 := by
  have hfails : (env.within repo branch target text).gitFails ["checkout", "-b", branch] =
      (env.git ["checkout", "-b", branch] repo).1 := if_pos rfl
  rw [runGit, hfails]
  cases (env.git ["checkout", "-b", branch] repo).1 <;> rfl

theorem runGit_within_commit (message : String) {made : Repo}
    (hcheckout : env.git ["checkout", "-b", branch] repo = (none, made)) :
    runGit (env.within repo branch target text) [["add", target], ["commit", "-m", message]] =
      match env.git ["add", target] (made.writeText target text) with
      | (some stderr, _) => some stderr
      | (none, staged) => (env.git ["commit", "-m", message] staged).1 := by
  have hadd : (env.within repo branch target text).gitFails ["add", target] =
      (env.git ["add", target] (made.writeText target text)).1 := by
    simp [RepoEnv.within, hcheckout]
  have hcommit : (env.within repo branch target text).gitFails ["commit", "-m", message] =
      (env.git ["commit", "-m", message] (env.git ["add", target] (made.writeText target text)).2).1 := by
    simp [RepoEnv.within, hcheckout]
  rw [runGit, hadd]
  generalize env.git ["add", target] (made.writeText target text) = added at hcommit ⊢
  rcases added with ⟨_ | stderr, staged⟩
  · dsimp only at hcommit ⊢
    rw [runGit, hcommit]
    cases (env.git ["commit", "-m", message] staged).1 <;> rfl
  · rfl

/-- How a call ends, by the commands that fail. -/
theorem ended_steps {marked : FieldRegistry} {result : UpdateResult} (message : String) (commit : Bool) :
    (ended R marked result ((steps env branch target text message commit).run repo)).1 =
      match (env.git ["checkout", "-b", branch] repo).1 with
      | some stderr => (some { result with error := some stderr }, R)
      | none =>
        if env.writeFails = true then (none, R)
        else match runGit (env.within repo branch target text)
            (if commit = true then [["add", target], ["commit", "-m", message]] else []) with
          | some stderr => (some { result with error := some stderr }, R)
          | none => (some { result with created := true }, marked) := by
  rw [run_steps]
  rcases hcheckout : env.git ["checkout", "-b", branch] repo with ⟨_ | stderr, made⟩
  · by_cases hwrite : env.writeFails = true
    · simp only [if_pos hwrite]
      rfl
    · simp only [if_neg hwrite]
      cases commit with
      | false => rfl
      | true =>
        simp only [if_true, run_commitModule, runGit_within_commit branch target text message hcheckout]
        rcases env.git ["add", target] (made.writeText target text) with ⟨_ | stderr, staged⟩
        · rcases hlast : env.git ["commit", "-m", message] staged with ⟨_ | stderr, last⟩ <;> simp only [hlast] <;> rfl
        · rfl
  · rfl

end Within

/-- **It is the same call**: its result and the registry are what `createUpdateBranch` gives. -/
theorem createInRepo_eq (branch : Option String) (modulePath target : String) (commit mark : Bool) :
    (createInRepo py order env R repo branch modulePath target commit mark).1 =
      let text := renderExtensionModule py env.generatedAt (proposeFromRegistry py order R [FieldStatus.approved.value])
      let out := createUpdateBranch py order (env.within repo (branchName env.branchStamp branch) target text) R branch
        modulePath target commit mark
      (out.result, out.registry) := by
  unfold createInRepo createUpdateBranch
  dsimp only
  generalize proposeFromRegistry py order R [FieldStatus.approved.value] = proposals
  have hname : (if branch.getD "" = "" then "udm/field-additions-" ++ (env.within repo (branchName env.branchStamp branch)
      target (renderExtensionModule py env.generatedAt proposals)).branchStamp else branch.getD "") =
      branchName env.branchStamp branch := rfl
  have hwrite : (env.within repo (branchName env.branchStamp branch) target
      (renderExtensionModule py env.generatedAt proposals)).writeFails = env.writeFails := rfl
  have hmessage : "feat(udm): propose " ++ toString (proposals.filter (·.isNew)).length ++ " new model field(s)" =
      commitMessage proposals := rfl
  rw [hname, hwrite, hmessage, runGit_within_checkout]
  by_cases hnew : proposals.filter (·.isNew) = []
  · rw [if_pos hnew, if_pos hnew]
  · rw [if_neg hnew, if_neg hnew, ended_steps]
    cases (env.git ["checkout", "-b", branchName env.branchStamp branch] repo).1 with
    | some stderr => rfl
    | none =>
      by_cases hfails : env.writeFails = true
      · simp only [if_pos hfails]
      · simp only [if_neg hfails]
        cases runGit (env.within repo (branchName env.branchStamp branch) target
          (renderExtensionModule py env.generatedAt proposals))
          (if commit = true then [["add", target], ["commit", "-m", commitMessage proposals]] else []) <;> rfl

/-! ## What a failed call leaves -/

namespace Repo

/-- The files and what is staged are as they were. -/
structure SameFiles (repo repo' : Repo) : Prop where
  work : repo'.work = repo.work
  index : repo'.index = repo.index

/-- Of the files only the module may differ, written, cut or not at all, and of the index only its entry, if the file was
written and added. -/
structure OnlyModule (target text : String) (repo repo' : Repo) : Prop where
  work : repo'.work = repo.work ∨ ∃ n, repo'.work = Function.update repo.work target (some (strTake n text))
  index : repo'.index = repo.index ∨ repo'.index = Function.update repo.index target (some text) ∧
    repo'.work = Function.update repo.work target (some text)

variable {repo repo' repo'' : Repo} {branch target text : String}

theorem Branched.stays (h : repo.Branched branch repo') (h' : repo'.Stays repo'') : repo.Branched branch repo'' :=
  ⟨h'.head.trans h.head, h'.tips.trans h.tips⟩

theorem stays_writeText : repo.Stays (repo.writeText target text) := ⟨rfl, rfl⟩

theorem stays_tear (torn : Option Nat) : repo.Stays (repo.tear target text torn) := by
  cases torn <;> exact ⟨rfl, rfl⟩

theorem strTake_length (text : String) : strTake text.toList.length text = text := by
  rw [strTake, List.take_length, String.ofList_toList]

theorem onlyModule_tear (torn : Option Nat) : repo.OnlyModule target text (repo.tear target text torn) := by
  cases torn with
  | none => exact ⟨.inl rfl, .inl rfl⟩
  | some n => exact ⟨.inr ⟨n, rfl⟩, .inl rfl⟩

/-- The module is written whole, and staged or not. -/
theorem onlyModule_of_written (hwork : repo'.work = Function.update repo.work target (some text))
    (hindex : repo'.index = repo.index ∨ repo'.index = Function.update repo.index target (some text)) :
    repo.OnlyModule target text repo' where
  work := .inr ⟨text.toList.length, by rw [strTake_length, hwork]⟩
  index := hindex.imp_right fun h => ⟨h, hwork⟩

/-- What was the same before is the same after. -/
theorem SameFiles.onlyModule (h : repo.SameFiles repo') (h' : repo'.OnlyModule target text repo'') :
    repo.OnlyModule target text repo'' := by
  obtain ⟨hwork, hindex⟩ := h'
  rw [h.work] at hwork hindex
  rw [h.index] at hindex
  exact ⟨hwork, hindex⟩

end Repo

namespace Stops

variable {branch target text message : String} {commit : Bool} {left : Repo}

theorem of_failed (h : Stops env repo branch target text message commit left)
    (hfailed : (env.git ["checkout", "-b", branch] repo).1 ≠ none) :
    (env.git ["checkout", "-b", branch] repo).2 = left := by
  cases h with
  | refused hcheckout => rw [hcheckout]
  | unwritten hcheckout hwrite => exact absurd (congrArg Prod.fst hcheckout) hfailed
  | unstaged hcheckout hcommit hadd => exact absurd (congrArg Prod.fst hcheckout) hfailed
  | uncommitted hcheckout hcommit hadd hlast => exact absurd (congrArg Prod.fst hcheckout) hfailed

/-- **Nothing takes the branch back** once it is made. -/
theorem branched (hgit : env.git.Documented) (h : Stops env repo branch target text message commit left)
    (hpassed : (env.git ["checkout", "-b", branch] repo).1 = none) : repo.Branched branch left := by
  have hmade := hgit.checkout branch repo hpassed
  cases h with
  | refused hcheckout =>
    rw [hcheckout] at hpassed
    cases hpassed
  | @unwritten made hcheckout hwrite =>
    rw [hcheckout] at hmade
    exact hmade.stays (Repo.stays_tear env.torn)
  | @unstaged made _ _ hcheckout hcommit hadd =>
    rw [hcheckout] at hmade
    have hstaged := hgit.add target (made.writeText target text)
    rw [hadd] at hstaged
    exact (hmade.stays Repo.stays_writeText).stays hstaged
  | @uncommitted made staged _ _ hcheckout hcommit hadd hlast =>
    rw [hcheckout] at hmade
    have hstaged := hgit.add target (made.writeText target text)
    rw [hadd] at hstaged
    have hrefused := hgit.commitFailed message staged (by rw [hlast]; exact nofun)
    rw [hlast] at hrefused
    exact ((hmade.stays Repo.stays_writeText).stays hstaged).stays hrefused

theorem onlyModule (hfiles : env.git.KeepsFiles) (h : Stops env repo branch target text message commit left) :
    repo.OnlyModule target text left := by
  obtain ⟨hwork, hindex⟩ := hfiles.checkout branch repo
  cases h with
  | refused hcheckout =>
    rw [hcheckout] at hwork hindex
    exact ⟨.inl hwork, .inl hindex⟩
  | @unwritten made hcheckout hwrite =>
    rw [hcheckout] at hwork hindex
    exact Repo.SameFiles.onlyModule ⟨hwork, hindex⟩ (Repo.onlyModule_tear env.torn)
  | @unstaged made _ _ hcheckout hcommit hadd =>
    rw [hcheckout] at hwork hindex
    have hkept := hfiles.addWork target (made.writeText target text)
    have hstaged := hfiles.addFailed target (made.writeText target text) (by rw [hadd]; exact nofun)
    rw [hadd] at hkept hstaged
    exact Repo.SameFiles.onlyModule ⟨hwork, hindex⟩ (Repo.onlyModule_of_written hkept (.inl hstaged))
  | @uncommitted made staged _ _ hcheckout hcommit hadd hlast =>
    rw [hcheckout] at hwork hindex
    have hkept := hfiles.addWork target (made.writeText target text)
    have hstaged := hfiles.add target (made.writeText target text) (by rw [hadd])
    obtain ⟨hwork', hindex'⟩ := hfiles.commit message staged
    rw [hadd] at hkept hstaged
    rw [hlast] at hwork' hindex'
    have hentry : (made.writeText target text).work target = some text := Function.update_self ..
    rw [hentry] at hstaged
    exact Repo.SameFiles.onlyModule ⟨hwork, hindex⟩
      (Repo.onlyModule_of_written (hwork'.trans hkept) (.inr (hindex'.trans hstaged)))

end Stops

/-- No branch was created, whether the call returned or raised. -/
def NotCreated (out : (Option UpdateResult × FieldRegistry) × Repo) : Prop :=
  ∀ result, out.1.1 = some result → result.created = false

/-- The fields a call has to propose. -/
def newProposals (py : PyText) (order : FieldRegistry.Ordering) (R : FieldRegistry) : List FieldProposal :=
  (proposeFromRegistry py order R [FieldStatus.approved.value]).filter (·.isNew)

section Calls

variable {branch : Option String} {modulePath target : String} {commit mark : Bool}

theorem createInRepo_of_nothing (hnew : newProposals py order R = []) :
    (createInRepo py order env R repo branch modulePath target commit mark).2 = repo := by
  unfold createInRepo
  exact congrArg Prod.snd (if_pos hnew)

/-- Whatever git is, the call stops where a step fails. -/
theorem stops_of_notCreated (hnew : newProposals py order R ≠ [])
    (h : NotCreated (createInRepo py order env R repo branch modulePath target commit mark)) :
    Stops env repo (branchName env.branchStamp branch) target
      (renderExtensionModule py env.generatedAt (proposeFromRegistry py order R [FieldStatus.approved.value]))
      (commitMessage (proposeFromRegistry py order R [FieldStatus.approved.value])) commit
      (createInRepo py order env R repo branch modulePath target commit mark).2 := by
  have hnew' : ¬ (proposeFromRegistry py order R [FieldStatus.approved.value]).filter (·.isNew) = [] := hnew
  unfold createInRepo at h ⊢
  dsimp only at h ⊢
  rw [if_neg hnew'] at h ⊢
  generalize hrun : (steps env (branchName env.branchStamp branch) target _ _ commit).run repo = ending at h ⊢
  cases ending with
  | error e left => cases e <;> exact stops_of_run_steps hrun
  | ok a left =>
    have hcreated := h _ rfl
    cases hcreated

theorem notCreated_of_failed (hfailed : (env.git ["checkout", "-b", branchName env.branchStamp branch] repo).1 ≠ none) :
    NotCreated (createInRepo py order env R repo branch modulePath target commit mark) := by
  unfold createInRepo
  dsimp only
  by_cases hnew : (proposeFromRegistry py order R [FieldStatus.approved.value]).filter (·.isNew) = []
  · rw [if_pos hnew]
    intro result hresult
    cases hresult
    rfl
  · rw [if_neg hnew, run_steps]
    rcases hcheckout : env.git ["checkout", "-b", branchName env.branchStamp branch] repo with ⟨_ | stderr, left⟩
    · rw [hcheckout] at hfailed
      exact absurd rfl hfailed
    · intro result hresult
      cases hresult
      rfl

end Calls

theorem branchName_ne_empty (branchStamp : String) (branch : Option String) : branchName branchStamp branch ≠ "" := by
  unfold branchName
  split
  · intro h
    have hlist := congrArg String.toList h
    rw [String.toList_append] at hlist
    exact absurd hlist (List.append_ne_nil_of_left_ne_nil (by decide) _)
  · assumption

theorem branchName_some (branchStamp : String) {name : String} (h : name ≠ "") :
    branchName branchStamp (some name) = name :=
  if_neg h

/-- A call with the name of a branch that is there is refused, and leaves the repository. -/
theorem refused_of_taken {env : RepoEnv} {left : Repo} {name modulePath target : String} {commit mark : Bool}
    (hgit : env.git.Documented) (hname : name ≠ "") (htaken : (left.tips name).isSome = true) :
    let again := createInRepo py order env R left (some name) modulePath target commit mark
    NotCreated again ∧ left.Stays again.2 ∧ (env.git.KeepsFiles → left.SameFiles again.2) := by
  intro again
  obtain ⟨hrefused, hstays⟩ := hgit.taken name left htaken
  have hfailed : (env.git ["checkout", "-b", branchName env.branchStamp (some name)] left).1 ≠ none := by
    rw [branchName_some _ hname]
    exact Option.isSome_iff_ne_none.1 hrefused
  have hagain : NotCreated again := notCreated_of_failed hfailed
  refine ⟨hagain, ?_⟩
  by_cases hnew : newProposals py order R = []
  · have hsame : again.2 = left := createInRepo_of_nothing hnew
    rw [hsame]
    exact ⟨⟨rfl, rfl⟩, fun _ => ⟨rfl, rfl⟩⟩
  · have hleft : (env.git ["checkout", "-b", name] left).2 = again.2 := by
      rw [← branchName_some env.branchStamp hname]
      exact (stops_of_notCreated hnew hagain).of_failed hfailed
    rw [← hleft]
    exact ⟨hstays, fun hfiles => ⟨(hfiles.checkout name left).1, (hfiles.checkout name left).2⟩⟩

def alreadyExists (branch : String) : String := "fatal: a branch named '" ++ branch ++ "' already exists"

namespace Repo

def newBranch (branch : String) (repo : Repo) : Option String × Repo :=
  if (repo.tips branch).isSome = true then (some (alreadyExists branch), repo)
  else (none, { repo with head := .branch branch, tips := Function.update repo.tips branch repo.history })

def stage (path : String) (repo : Repo) : Option String × Repo :=
  match repo.work path with
  | some text => (none, { repo with index := Function.update repo.index path (some text) })
  | none => (some ("fatal: pathspec '" ++ path ++ "' did not match any files"), repo)

def record (repo : Repo) : Option String × Repo :=
  match repo.head with
  | .branch name =>
    (none, { repo with tips := Function.update repo.tips name (some (repo.index :: (repo.tips name).getD [])) })
  | .detached history => (none, { repo with head := .detached (repo.index :: history) })

end Repo

namespace Git

/-- Git with hooks that refuse the commands they are said to, and do nothing else. -/
def plain (refuses : List String → Option String) : Git := fun args repo =>
  match refuses args with
  | some stderr => (some stderr, repo)
  | none =>
    match args with
    | ["checkout", "-b", branch] => repo.newBranch branch
    | ["add", path] => repo.stage path
    | ["commit", "-m", _] => repo.record
    | _ => (some "usage: git", repo)

/-- A refused command leaves the repository, and the others do as they do. -/
theorem plain_cases (refuses : List String → Option String) (args : List String) (repo : Repo) :
    (∃ stderr, plain refuses args repo = (some stderr, repo)) ∨ refuses args = none := by
  unfold plain
  cases refuses args with
  | some stderr => exact .inl ⟨stderr, rfl⟩
  | none => exact .inr rfl

section Commands

variable (refuses : List String → Option String) (repo : Repo)

theorem plain_checkout_cases (branch : String) :
    (∃ stderr, plain refuses ["checkout", "-b", branch] repo = (some stderr, repo)) ∨
      (repo.tips branch).isSome = false ∧ plain refuses ["checkout", "-b", branch] repo =
        (none, { repo with head := .branch branch, tips := Function.update repo.tips branch repo.history }) := by
  rcases plain_cases refuses ["checkout", "-b", branch] repo with hrefused | hruns
  · exact .inl hrefused
  · rw [plain, hruns]
    dsimp only
    unfold Repo.newBranch
    cases (repo.tips branch).isSome with
    | true => exact .inl ⟨_, rfl⟩
    | false => exact .inr ⟨rfl, rfl⟩

theorem plain_add_cases (path : String) :
    (∃ stderr, plain refuses ["add", path] repo = (some stderr, repo)) ∨
      plain refuses ["add", path] repo =
        (none, { repo with index := Function.update repo.index path (repo.work path) }) := by
  rcases plain_cases refuses ["add", path] repo with hrefused | hruns
  · exact .inl hrefused
  · rw [plain, hruns]
    dsimp only
    unfold Repo.stage
    cases repo.work path with
    | none => exact .inl ⟨_, rfl⟩
    | some text => exact .inr rfl

theorem plain_commit_cases (message : String) :
    (∃ stderr, plain refuses ["commit", "-m", message] repo = (some stderr, repo)) ∨
      ∃ left, plain refuses ["commit", "-m", message] repo = (none, left) ∧ repo.Committed repo.index left ∧
        left.work = repo.work ∧ left.index = repo.index := by
  rcases plain_cases refuses ["commit", "-m", message] repo with hrefused | hruns
  · exact .inl hrefused
  · refine .inr ⟨repo.record.2, ?_, ?_⟩
    · rw [plain, hruns]
      dsimp only
      unfold Repo.record
      cases repo.head <;> rfl
    · unfold Repo.record
      cases hhead : repo.head <;> exact ⟨⟨by simp [hhead], by simp [hhead]⟩, rfl, rfl⟩

end Commands

theorem plain_documented (refuses : List String → Option String) : (plain refuses).Documented where
  taken branch repo htaken := by
    rcases plain_checkout_cases refuses repo branch with ⟨stderr, h⟩ | ⟨hfree, -⟩
    · rw [h]
      exact ⟨rfl, rfl, rfl⟩
    · rw [hfree] at htaken
      cases htaken
  checkout branch repo hpassed := by
    rcases plain_checkout_cases refuses repo branch with ⟨stderr, h⟩ | ⟨-, h⟩
    · rw [h] at hpassed
      cases hpassed
    · rw [h]
      exact ⟨rfl, rfl⟩
  checkoutFailed branch repo _ := by
    rcases plain_checkout_cases refuses repo branch with ⟨stderr, h⟩ | ⟨-, h⟩
    · rw [h]
      exact .inl ⟨rfl, rfl⟩
    · rw [h]
      exact .inr ⟨rfl, rfl⟩
  add path repo := by
    rcases plain_add_cases refuses repo path with ⟨stderr, h⟩ | h <;> rw [h] <;> exact ⟨rfl, rfl⟩
  commit message repo hpassed := by
    rcases plain_commit_cases refuses repo message with ⟨stderr, h⟩ | ⟨left, h, hcommitted, -⟩
    · rw [h] at hpassed
      cases hpassed
    · rw [h]
      exact ⟨repo.index, hcommitted⟩
  commitFailed message repo hfailed := by
    rcases plain_commit_cases refuses repo message with ⟨stderr, h⟩ | ⟨left, h, -⟩
    · rw [h]
      exact ⟨rfl, rfl⟩
    · rw [h] at hfailed
      exact absurd rfl hfailed

theorem plain_keepsFiles (refuses : List String → Option String) : (plain refuses).KeepsFiles where
  checkout branch repo := by
    rcases plain_checkout_cases refuses repo branch with ⟨stderr, h⟩ | ⟨-, h⟩ <;> rw [h] <;> exact ⟨rfl, rfl⟩
  addWork path repo := by
    rcases plain_add_cases refuses repo path with ⟨stderr, h⟩ | h <;> rw [h]
  add path repo hpassed := by
    rcases plain_add_cases refuses repo path with ⟨stderr, h⟩ | h
    · rw [h] at hpassed
      cases hpassed
    · rw [h]
  addFailed path repo hfailed := by
    rcases plain_add_cases refuses repo path with ⟨stderr, h⟩ | h
    · rw [h]
    · rw [h] at hfailed
      exact absurd rfl hfailed
  commit message repo := by
    rcases plain_commit_cases refuses repo message with ⟨stderr, h⟩ | ⟨left, h, -, hfiles⟩
    · rw [h]
      exact ⟨rfl, rfl⟩
    · rw [h]
      exact hfiles
  committed message repo hpassed := by
    rcases plain_commit_cases refuses repo message with ⟨stderr, h⟩ | ⟨left, h, hcommitted, -⟩
    · rw [h] at hpassed
      cases hpassed
    · rw [h]
      exact hcommitted

end Git

def seededRepo : Repo where
  head := .branch "main"
  tips name := if name = "main" then some [fun _ => none] else none
  index _ := none
  work _ := none

/-- A hook that refuses every commit. -/
def refusingEnv : RepoEnv where
  generatedAt := "12:02"
  branchStamp := "1202"
  now _ := "12:03"
  git := .plain fun args => if args.head? = some "commit" then some "hook failed" else none
  writeFails := false
  torn := none

def refusedCall : (Option UpdateResult × FieldRegistry) × Repo :=
  createInRepo .ascii .stable refusingEnv approvedRegistry seededRepo (some "udm/test-fields") "fields.py"
    "/repo/fields.py" true true

theorem notCreated_refusedCall : NotCreated refusedCall := by
  have hcreated : refusedCall.1.1.map (·.created) = some false := by decide
  intro result hresult
  rw [hresult] at hcreated
  exact Option.some.inj hcreated

end Tengen
