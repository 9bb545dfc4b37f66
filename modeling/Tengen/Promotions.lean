import Tengen.BranchRepo
import Tengen.RegistryCallers
/-!
# Promotions among the reviews

`create_update_branch` (`tengen/udm/model_updater.py`) between the calls of the registry's other callers, on the
repository it works in: the rows are listed, git and the write of the module do their part command by command, and the
rows are marked one by one, while analysts review, parses observe, and others work in the repository.

The working tree, the index and `HEAD` are everybody's, so a promotion can be spoiled: `WorkspaceCall.Needs` is what its
next command needs the others to leave alone.  `promoted_landed` says that in the runs where they do a row is promoted
only where its field is in a commit on a branch.  What a row stands for may change after, by a PATCH or by an
observation that suggests a field for it, so the commit has the field that it stood for when it was listed.
-/
namespace Tengen

/-! ## The calls -/

namespace Repo

/-- No branch loses a commit. -/
def Grows (repo repo' : Repo) : Prop :=
  ∀ name history, repo.tips name = some history → ∃ newer, repo'.tips name = some (newer ++ history)

def OnBranch (repo : Repo) : Prop := ∃ name, repo.head = .branch name

end Repo

/-- Other work in the repository, which takes no commit from a branch. -/
structure GitWork where
  run : Repo → Repo
  grows : ∀ repo : Repo, repo.Grows (run repo)

/-- The registry, and the repository of the models. -/
structure Workspace where
  registry : FieldRegistry
  repo : Repo

/-- A call of the registry, a git command, the write of the module, or other work. -/
inductive WorkspaceCall where
  | registry (c : RegistryUse)
  | git (env : RepoEnv) (args : List String)
  | write (env : RepoEnv) (target text : String)
  | other (work : GitWork)

namespace WorkspaceCall

def Answer : WorkspaceCall → Type
  | registry c => c.Answer
  | git _ _ | write _ _ _ => Except Failure Unit
  | other _ => Unit

def perform : (c : WorkspaceCall) → Draw → Workspace → Answer c × Workspace
  | registry c, draw, w => ((c.perform draw w.registry).1, { w with registry := (c.perform draw w.registry).2 })
  | git env args, _, w =>
    (Effect.value ((runCommand env args).run w.repo), { w with repo := Effect.world ((runCommand env args).run w.repo) })
  | write env target text, _, w =>
    (Effect.value ((writeModule env target text).run w.repo),
      { w with repo := Effect.world ((writeModule env target text).run w.repo) })
  | other work, _, w => ((), { w with repo := work.run w.repo })

/-- What the others leave alone until a promotion's next command: `HEAD` on a branch once one is made, the module from its
write to `git add`, and the index from there to the commit. -/
def Needs : WorkspaceCall → Workspace → Workspace → Prop
  | write _ _ _, w, w' => w.repo.OnBranch → w'.repo.OnBranch
  | git _ ["add", path], w, w' => (w.repo.OnBranch → w'.repo.OnBranch) ∧ w'.repo.work path = w.repo.work path
  | git _ ["commit", "-m", _], w, w' => (w.repo.OnBranch → w'.repo.OnBranch) ∧ w'.repo.index = w.repo.index
  | _, _, _ => True

end WorkspaceCall

/-- What a caller ends with; a promotion that raises has no result. -/
inductive WorkspaceReply where
  | registry (reply : RegistryReply)
  | update (result : Option UpdateResult)
  | worked

abbrev WorkspaceCalls := Calls WorkspaceCall WorkspaceCall.Answer WorkspaceReply

/-- The arguments of `create_update_branch`. -/
structure Promotion where
  order : FieldRegistry.Ordering
  env : RepoEnv
  branch : Option String
  modulePath : String
  target : String
  commit : Bool
  mark : Bool

namespace Promotion

/-- The loop that marks. -/
def marking (branch : String) (result : UpdateResult) : List FieldProposal → WorkspaceCalls
  | [] => .done (.update (some result))
  | p :: ps =>
    .call (.registry (.review (.setStatus p.fieldId FieldStatus.promoted.value (some ("branch=" ++ branch))))) fun _ =>
      marking branch result ps

variable (py : PyText) (request : Promotion) (rows : List FieldRow)

def proposals : List FieldProposal := proposeRows py [FieldStatus.approved.value] [] rows

/-- The result before anything is done. -/
def started : UpdateResult :=
  ⟨false, request.branch, request.modulePath, proposals py rows, ((proposals py rows).filter (·.isNew)).length,
    renderPrBody (proposals py rows), none⟩

def branchName : String := Tengen.branchName request.env.branchStamp request.branch

def text : String := renderExtensionModule py request.env.generatedAt (proposals py rows)

/-- The end of a call one of whose steps failed. -/
def failed : Failure → WorkspaceReply
  | .command stderr =>
    .update (some { request.started py rows with branch := some request.branchName, error := some stderr })
  | .system => .update none

/-- A step that may fail, and what comes after. -/
def attempt (next : WorkspaceCalls) : Except Failure Unit → WorkspaceCalls
  | .error e => .done (request.failed py rows e)
  | .ok _ => next

/-- The call from the end of its steps on. -/
def succeeded : WorkspaceCalls :=
  marking request.branchName { request.started py rows with branch := some request.branchName, created := true }
    (if request.mark = true then proposals py rows else [])

def command (args : List String) (next : WorkspaceCalls) : WorkspaceCalls :=
  .call (.git request.env args) (request.attempt py rows next)

def committing : WorkspaceCalls :=
  request.command py rows ["add", request.target]
    (request.command py rows ["commit", "-m", commitMessage (proposals py rows)] (request.succeeded py rows))

def writing : WorkspaceCalls :=
  .call (.write request.env request.target (request.text py rows))
    (request.attempt py rows (if request.commit = true then request.committing py rows else request.succeeded py rows))

/-- The call from the listing on. -/
def listed : WorkspaceCalls :=
  if (proposals py rows).filter (·.isNew) = [] then
    .done (.update (some { request.started py rows with error := some "no approved new fields to promote" }))
  else request.command py rows ["checkout", "-b", request.branchName] (request.writing py rows)

/-- `create_update_branch`. -/
def calls : WorkspaceCalls :=
  .call (.registry (.review (.listFields request.order 10000))) fun (rows : List FieldRow) => request.listed py rows

/-! ## A promotion alone -/

theorem run_marking (branch : String) (result : UpdateResult) : ∀ (ps : List FieldProposal) (draws : Nat → Draw)
    (w : Workspace), (marking branch result ps).run WorkspaceCall.perform draws w =
      (.update (some result), { w with registry := markPromoted branch (fun n => (draws n).now) ps w.registry })
  | [], _, _ => rfl
  | _ :: ps, draws, _ => run_marking branch result ps (fun n => draws (n + 1)) _

theorem run_attempt (next : WorkspaceCalls) (draws : Nat → Draw) (R : FieldRegistry)
    (ending : EStateM.Result Failure Repo Unit) :
    (request.attempt py rows next (Effect.value ending)).run WorkspaceCall.perform draws ⟨R, Effect.world ending⟩ =
      match ending with
      | .error e repo => (request.failed py rows e, ⟨R, repo⟩)
      | .ok _ repo => next.run WorkspaceCall.perform draws ⟨R, repo⟩ := by
  cases ending <;> rfl

theorem run_command (args : List String) (next : WorkspaceCalls) (draws : Nat → Draw) (R : FieldRegistry) (repo : Repo) :
    (request.command py rows args next).run WorkspaceCall.perform draws ⟨R, repo⟩ =
      match (runCommand request.env args).run repo with
      | .error e repo => (request.failed py rows e, ⟨R, repo⟩)
      | .ok _ repo => next.run WorkspaceCall.perform (fun n => draws (n + 1)) ⟨R, repo⟩ :=
  request.run_attempt py rows next _ R ((runCommand request.env args).run repo)

theorem run_writing (draws : Nat → Draw) (R : FieldRegistry) (repo : Repo) :
    (request.writing py rows).run WorkspaceCall.perform draws ⟨R, repo⟩ =
      match (writeModule request.env request.target (request.text py rows)).run repo with
      | .error e repo => (request.failed py rows e, ⟨R, repo⟩)
      | .ok _ repo =>
        (if request.commit = true then request.committing py rows else request.succeeded py rows).run
          WorkspaceCall.perform (fun n => draws (n + 1)) ⟨R, repo⟩ :=
  request.run_attempt py rows _ _ R ((writeModule request.env request.target (request.text py rows)).run repo)

theorem run_succeeded (draws : Nat → Draw) (hdraws : ∀ n, (draws n).now = request.env.now n) (R : FieldRegistry)
    (repo : Repo) : (request.succeeded py rows).run WorkspaceCall.perform draws ⟨R, repo⟩ =
      (.update (some { request.started py rows with branch := some request.branchName, created := true }),
        ⟨if request.mark = true then markPromoted request.branchName request.env.now (proposals py rows) R else R,
          repo⟩) := by
  have hnow : (fun n => (draws n).now) = request.env.now := funext hdraws
  rw [succeeded, run_marking, hnow]
  cases request.mark <;> rfl

theorem run_committing (draws : Nat → Draw) (hdraws : ∀ n, (draws (n + 2)).now = request.env.now n) (R : FieldRegistry)
    (repo : Repo) : (request.committing py rows).run WorkspaceCall.perform draws ⟨R, repo⟩ =
      match (commitModule request.env request.target (commitMessage (proposals py rows))).run repo with
      | .error e repo => (request.failed py rows e, ⟨R, repo⟩)
      | .ok _ repo =>
        (.update (some { request.started py rows with branch := some request.branchName, created := true }),
          ⟨if request.mark = true then markPromoted request.branchName request.env.now (proposals py rows) R else R,
            repo⟩) := by
  rw [committing, run_command, commitModule, EStateM.run_bind]
  cases (runCommand request.env ["add", request.target]).run repo with
  | error e repo => rfl
  | ok a repo =>
    dsimp only
    rw [run_command]
    cases (runCommand request.env ["commit", "-m", commitMessage (proposals py rows)]).run repo with
    | error e repo => rfl
    | ok a repo => exact request.run_succeeded py rows _ hdraws R repo

/-- The steps of a promotion that has something to propose. -/
theorem run_branching (draws : Nat → Draw)
    (hdraws : ∀ n, (draws (n + if request.commit = true then 4 else 2)).now = request.env.now n) (R : FieldRegistry)
    (repo : Repo) :
    (request.command py rows ["checkout", "-b", request.branchName] (request.writing py rows)).run WorkspaceCall.perform
        draws ⟨R, repo⟩ =
      match (steps request.env request.branchName request.target (request.text py rows) (commitMessage (proposals py rows))
        request.commit).run repo with
      | .error e repo => (request.failed py rows e, ⟨R, repo⟩)
      | .ok _ repo =>
        (.update (some { request.started py rows with branch := some request.branchName, created := true }),
          ⟨if request.mark = true then markPromoted request.branchName request.env.now (proposals py rows) R else R,
            repo⟩) := by
  rw [run_command, steps, EStateM.run_bind]
  cases (runCommand request.env ["checkout", "-b", request.branchName]).run repo with
  | error e repo => rfl
  | ok a repo =>
    dsimp only
    rw [run_writing, EStateM.run_bind]
    cases (writeModule request.env request.target (request.text py rows)).run repo with
    | error e repo => rfl
    | ok a repo =>
      dsimp only
      cases hcommit : request.commit with
      | false =>
        rw [hcommit] at hdraws
        exact request.run_succeeded py rows _ hdraws R repo
      | true =>
        rw [hcommit] at hdraws
        exact request.run_committing py rows _ hdraws R repo

/-- **Alone, the calls are `createInRepo`**: the listing and the commands draw nothing. -/
theorem run_calls (draws : Nat → Draw)
    (hdraws : ∀ n, (draws (n + if request.commit = true then 5 else 3)).now = request.env.now n) (R : FieldRegistry)
    (repo : Repo) :
    (request.calls py).run WorkspaceCall.perform draws ⟨R, repo⟩ =
      let out := createInRepo py request.order request.env R repo request.branch request.modulePath request.target
        request.commit request.mark
      (.update out.1.1, ⟨out.1.2, out.2⟩) := by
  change (request.listed py (R.listFields request.order none none 10000)).run WorkspaceCall.perform _ _ = _
  unfold createInRepo proposeFromRegistry listed
  dsimp only
  generalize R.listFields request.order none none 10000 = rows
  by_cases hnew : (proposeRows py [FieldStatus.approved.value] [] rows).filter (·.isNew) = []
  · have hlisted : (proposals py rows).filter (·.isNew) = [] := hnew
    rw [if_pos hlisted, if_pos hnew]
    rfl
  · have hlisted : (proposals py rows).filter (·.isNew) ≠ [] := hnew
    have hmarks : ∀ n, (draws (n + (if request.commit = true then 4 else 2) + 1)).now = request.env.now n := by
      intro n
      rw [← hdraws n]
      split <;> rfl
    rw [if_neg hlisted, if_neg hnew]
    refine (request.run_branching py rows (fun n => draws (n + 1)) hmarks R repo).trans ?_
    change _ = (let out := Tengen.ended R _ _ ((steps request.env request.branchName request.target (request.text py rows)
      (commitMessage (proposals py rows)) request.commit).run repo)
      (WorkspaceReply.update out.1.1, (⟨out.1.2, out.2⟩ : Workspace)))
    cases (steps request.env request.branchName request.target (request.text py rows) (commitMessage (proposals py rows))
      request.commit).run repo with
    | error e repo => cases e <;> rfl
    | ok a repo => rfl

end Promotion

/-! ## What git does to the branches -/

namespace Repo

variable {repo repo' repo'' : Repo} {text : String}

/-- A commit on a branch has a file of that text. -/
def HasFile (repo : Repo) (text : String) : Prop :=
  ∃ branch history tree path, repo.tips branch = some history ∧ tree ∈ history ∧ tree path = some text

theorem Grows.refl (repo : Repo) : repo.Grows repo := fun _ _ h => ⟨[], h⟩

theorem Grows.trans (h : repo.Grows repo') (h' : repo'.Grows repo'') : repo.Grows repo'' := by
  intro name history hname
  obtain ⟨newer, hnewer⟩ := h name history hname
  obtain ⟨newest, hnewest⟩ := h' name _ hnewer
  exact ⟨newest ++ newer, by rw [hnewest, List.append_assoc]⟩

theorem HasFile.grows (h : repo.HasFile text) (hgrows : repo.Grows repo') : repo'.HasFile text := by
  obtain ⟨branch, history, tree, path, htip, hmem, hfile⟩ := h
  obtain ⟨newer, hnewer⟩ := hgrows branch history htip
  exact ⟨branch, newer ++ history, tree, path, hnewer, List.mem_append_right newer hmem, hfile⟩

theorem grows_of_tips (h : repo'.tips = repo.tips) : repo.Grows repo' :=
  fun name history hname => ⟨[], by rw [h, hname]; rfl⟩

theorem Branched.grows {branch : String} (h : repo.Branched branch repo') (hfree : repo.tips branch = none) :
    repo.Grows repo' := by
  intro name history hname
  have hne : name ≠ branch := by
    rintro rfl
    rw [hfree] at hname
    cases hname
  exact ⟨[], by rw [h.tips, Function.update_of_ne hne, hname]; rfl⟩

theorem Committed.tips_of_branch {tree : Tree} {name : String} (h : repo.Committed tree repo')
    (hhead : repo.head = .branch name) :
    repo'.tips = Function.update repo.tips name (some (tree :: (repo.tips name).getD [])) := by
  have htips := h.tips
  rw [hhead] at htips
  exact htips

theorem Committed.grows {tree : Tree} (h : repo.Committed tree repo') : repo.Grows repo' := by
  cases hhead : repo.head with
  | detached history => exact grows_of_tips (by rw [h.tips, hhead])
  | branch name =>
    intro name' history hname
    have htips := h.tips_of_branch hhead
    by_cases hsame : name' = name
    · subst hsame
      exact ⟨[tree], by rw [htips, Function.update_self, hname]; rfl⟩
    · exact ⟨[], by rw [htips, Function.update_of_ne hsame, hname]; rfl⟩

/-- A commit of an index that has the file, on a branch. -/
theorem Committed.hasFile {path : String} (h : repo.Committed repo.index repo') (hbranch : repo.OnBranch)
    (hfile : repo.index path = some text) : repo'.HasFile text := by
  obtain ⟨name, hhead⟩ := hbranch
  exact ⟨name, repo.index :: (repo.tips name).getD [], repo.index, path,
    by rw [h.tips_of_branch hhead, Function.update_self], List.mem_cons_self, hfile⟩

theorem OnBranch.stays (h : repo.OnBranch) (h' : repo.Stays repo') : repo'.OnBranch := by
  obtain ⟨name, hhead⟩ := h
  exact ⟨name, h'.head.trans hhead⟩

end Repo

/-- The commands of a promotion. -/
inductive Promoting : List String → Prop
  | checkout (branch : String) : Promoting ["checkout", "-b", branch]
  | add (path : String) : Promoting ["add", path]
  | commit (message : String) : Promoting ["commit", "-m", message]

/-- **The commands take no commit from a branch**: a name that is taken is refused. -/
theorem Git.Documented.grows {git : Git} (hgit : git.Documented) {args : List String} (h : Promoting args) (repo : Repo) :
    repo.Grows (git args repo).2 := by
  cases h with
  | checkout branch =>
    cases htaken : repo.tips branch with
    | some history => exact Repo.grows_of_tips (hgit.taken branch repo (htaken ▸ rfl)).2.tips
    | none =>
      by_cases hpassed : (git ["checkout", "-b", branch] repo).1 = none
      · exact (hgit.checkout branch repo hpassed).grows htaken
      · rcases hgit.checkoutFailed branch repo hpassed with hstays | hbranched
        · exact Repo.grows_of_tips hstays.tips
        · exact hbranched.grows htaken
  | add path => exact Repo.grows_of_tips (hgit.add path repo).tips
  | commit message =>
    by_cases hpassed : (git ["commit", "-m", message] repo).1 = none
    · obtain ⟨tree, hcommitted⟩ := hgit.commit message repo hpassed
      exact hcommitted.grows
    · exact Repo.grows_of_tips (hgit.commitFailed message repo hpassed).tips

theorem world_runCommand (env : RepoEnv) (args : List String) (repo : Repo) :
    Effect.world ((runCommand env args).run repo) = (env.git args repo).2 := by
  rw [run_runCommand]
  rcases env.git args repo with ⟨_ | stderr, repo'⟩ <;> rfl

theorem passed_of_value {env : RepoEnv} {args : List String} {repo : Repo} {a : Unit}
    (h : Effect.value ((runCommand env args).run repo) = .ok a) : (env.git args repo).1 = none := by
  rw [run_runCommand] at h
  generalize env.git args repo = answer at h ⊢
  rcases answer with ⟨_ | stderr, repo'⟩
  · rfl
  · cases h

theorem stays_writeModule (env : RepoEnv) (target text : String) (repo : Repo) :
    repo.Stays (Effect.world ((writeModule env target text).run repo)) := by
  rw [run_writeModule]
  split
  · exact Repo.stays_tear env.torn
  · exact Repo.stays_writeText

theorem work_of_value {env : RepoEnv} {target text : String} {repo : Repo} {a : Unit}
    (h : Effect.value ((writeModule env target text).run repo) = .ok a) :
    (Effect.world ((writeModule env target text).run repo)).work target = some text := by
  rw [run_writeModule] at h ⊢
  split at h
  · cases h
  · rename_i hwrite
    rw [if_neg hwrite]
    exact Function.update_self ..

/-! ## What has landed -/

/-- The proposal's field is its model's, or is declared once in the class of its model. -/
def Shown (generatedAt : String) (proposals : List FieldProposal) (p : FieldProposal) : Prop :=
  existing p.key = true ∨ (declared none (moduleBlocks generatedAt proposals)).count p.key = 1

/-- A module that shows a proposal of the row is in a commit on a branch. -/
def Landed (py : PyText) (repo : Repo) (id : Nat) (key : String × String) : Prop :=
  ∃ generatedAt proposals, repo.HasFile (renderExtensionModule py generatedAt proposals) ∧
    ∃ p ∈ proposals, p.fieldId = id ∧ (p.sourceType, p.rawPath) = key ∧ Shown generatedAt proposals p

theorem Landed.grows {py : PyText} {repo repo' : Repo} {id : Nat} {key : String × String}
    (h : Landed py repo id key) (hgrows : repo.Grows repo') : Landed py repo' id key := by
  obtain ⟨generatedAt, proposals, hfile, hshown⟩ := h
  exact ⟨generatedAt, proposals, hfile.grows hgrows, hshown⟩

/-- A proposal is of a row of its id and key, and its module shows it. -/
theorem shown_of_mem {py : PyText} {statuses : List String} {rows : List FieldRow} {p : FieldProposal}
    (h : p ∈ proposeRows py statuses [] rows) (generatedAt : String) :
    (∃ row ∈ rows, row.id = p.fieldId ∧ row.key = (p.sourceType, p.rawPath)) ∧
      Shown generatedAt (proposeRows py statuses [] rows) p := by
  obtain ⟨before, row, after, hrows, hstatus, hp⟩ := mem_proposeRows h
  have hrow : row ∈ rows := hrows ▸ List.mem_append_right _ List.mem_cons_self
  have hkey : p.key = proposedKey py row := hp ▸ rfl
  refine ⟨⟨row, hrow, hp ▸ rfl, hp ▸ rfl⟩, ?_⟩
  unfold Shown
  rw [hkey]
  rcases covered_proposeRows rows [] row hrow hstatus with hmodel | hseen | ⟨q, hq, hnew, hsame⟩
  · exact Or.inl hmodel
  · exact absurd hseen List.not_mem_nil
  · exact Or.inr (hsame ▸ count_declared hq hnew)

namespace Workspace

variable {w w' w'' : Workspace}

def Has (w : Workspace) (id : Nat) (key : String × String) : Prop := ∃ row ∈ w.registry.rows, row.id = id ∧ row.key = key

/-- Each row that is promoted has landed. -/
def Accounted (py : PyText) (w : Workspace) : Prop :=
  ∀ row ∈ w.registry.rows, row.status = FieldStatus.promoted.value → Landed py w.repo row.id row.key

/-- No row is lost or made another's, and no branch loses a commit. -/
structure Moves (w w' : Workspace) : Prop where
  has : ∀ id key, w.Has id key → w'.Has id key
  grows : w.repo.Grows w'.repo

theorem Moves.refl (w : Workspace) : w.Moves w := ⟨fun _ _ h => h, .refl w.repo⟩

theorem Moves.trans (w w' w'' : Workspace) (h : w.Moves w') (h' : w'.Moves w'') : w.Moves w'' :=
  ⟨fun id key hhas => h'.has id key (h.has id key hhas), h.grows.trans h'.grows⟩

theorem Has.unique {id : Nat} {key key' : String × String} (h : w.Has id key) (h' : w.Has id key') : key = key' := by
  obtain ⟨row, hrow, hid, rfl⟩ := h
  obtain ⟨row', hrow', hid', rfl⟩ := h'
  rw [Table.eq_of_mem_of_nodup w.registry.ids hrow hrow' (hid.trans hid'.symm)]

/-- A row of that id, and it has landed. -/
structure Settled (py : PyText) (w : Workspace) (id : Nat) (key : String × String) : Prop where
  has : w.Has id key
  landed : Landed py w.repo id key

variable {py : PyText}

theorem Settled.moves {id : Nat} {key : String × String} (h : w.Settled py id key) (hmoves : w.Moves w') :
    w'.Settled py id key := ⟨hmoves.has id key h.has, h.landed.grows hmoves.grows⟩

end Workspace

/-! ## One call -/

namespace RegistryUse

/-- The call sets the status of that id. -/
def Sets : RegistryUse → Nat → String → Prop
  | review (.setStatus fieldId status _), id, value => fieldId = id ∧ status = value
  | _, _, _ => False

theorem has_perform (c : RegistryUse) (draw : Draw) (R : FieldRegistry) : ∀ row ∈ R.rows,
    ∃ row' ∈ (c.perform draw R).2.rows, row'.id = row.id ∧ row'.key = row.key := by
  intro row hrow
  cases c with
  | review c =>
    cases c with
    | get _ | listFields _ _ => exact ⟨row, hrow, rfl, rfl⟩
    | setStatus _ _ _ | setSuggestedField _ _ =>
      refine ⟨_, Table.mem_updateWhere.2 ⟨row, hrow, rfl⟩, ?_⟩
      split <;> exact ⟨rfl, rfl⟩
  | observe obs =>
    obtain ⟨row', hrow', hid, hkey, -⟩ := Udm.persists_observe R draw obs row hrow
    exact ⟨row', hrow', hid, hkey⟩
  | fields _ _ _ | summary => exact ⟨row, hrow, rfl, rfl⟩

/-- **Where a row's status comes from**: it is new, it is the row's own, or the call sets it. -/
theorem status_perform (c : RegistryUse) (draw : Draw) (R : FieldRegistry) : ∀ row' ∈ (c.perform draw R).2.rows,
    row'.status = FieldStatus.new.value ∨ ∃ row ∈ R.rows, row'.id = row.id ∧ row'.key = row.key ∧
      (row'.status = row.status ∨ c.Sets row.id row'.status) := by
  intro row' hrow'
  have hsame : row' ∈ R.rows → ∃ row ∈ R.rows, row'.id = row.id ∧ row'.key = row.key ∧
      (row'.status = row.status ∨ c.Sets row.id row'.status) := fun h => ⟨row', h, rfl, rfl, Or.inl rfl⟩
  cases c with
  | review c =>
    cases c with
    | get _ | listFields _ _ => exact Or.inr (hsame hrow')
    | setStatus fieldId status notes =>
      obtain ⟨row, hrow, rfl⟩ := Table.mem_updateWhere.1 hrow'
      refine Or.inr ⟨row, hrow, ?_⟩
      split
      next hid => exact ⟨rfl, rfl, Or.inr ⟨(of_decide_eq_true hid).symm, rfl⟩⟩
      next => exact ⟨rfl, rfl, Or.inl rfl⟩
    | setSuggestedField fieldId suggestedUdmField =>
      obtain ⟨row, hrow, rfl⟩ := Table.mem_updateWhere.1 hrow'
      refine Or.inr ⟨row, hrow, ?_⟩
      split <;> exact ⟨rfl, rfl, Or.inl rfl⟩
  | observe obs =>
    rcases Table.mem_upsert hrow' with ⟨hrow, -⟩ | ⟨row, hrow, -, rfl⟩ | ⟨-, rfl⟩
    · exact Or.inr (hsame hrow)
    · exact Or.inr ⟨row, hrow, rfl, rfl, Or.inl rfl⟩
    · exact Or.inl rfl
  | fields _ _ _ | summary => exact Or.inr (hsame hrow')

end RegistryUse

namespace WorkspaceCall

/-- The call promotes a row only if it has landed, and is none of git that takes a commit from a branch. -/
def Allowed (py : PyText) (w : Workspace) : WorkspaceCall → Prop
  | registry c => ∀ id, c.Sets id FieldStatus.promoted.value → ∀ key, w.Has id key → Landed py w.repo id key
  | git env args => env.git.Documented ∧ Promoting args
  | _ => True

variable {py : PyText} {w w' : Workspace}

theorem keeps_of_grows (h : w.Accounted py) {repo : Repo} (hgrows : w.repo.Grows repo) :
    Workspace.Accounted py { w with repo } ∧ w.Moves { w with repo } :=
  ⟨fun row hrow hstatus => (h row hrow hstatus).grows hgrows, fun _ _ hhas => hhas, hgrows⟩

theorem keeps_perform {c : WorkspaceCall} (hc : c.Allowed py w) (draw : Draw) (h : w.Accounted py) :
    (c.perform draw w).2.Accounted py ∧ w.Moves (c.perform draw w).2 := by
  cases c with
  | registry c =>
    refine ⟨?_, ?_, .refl w.repo⟩
    · intro row' hrow' hstatus
      rcases c.status_perform draw w.registry row' hrow' with hnew | ⟨row, hrow, hid, hkey, hset⟩
      · rw [hnew] at hstatus
        exact absurd hstatus (by decide)
      · rw [hid, hkey]
        rcases hset with hsame | hset
        · exact h row hrow (hsame.symm.trans hstatus)
        · exact hc row.id (hstatus ▸ hset) row.key ⟨row, hrow, rfl, rfl⟩
    · rintro id key ⟨row, hrow, hid, hkey⟩
      obtain ⟨row', hrow', hid', hkey'⟩ := c.has_perform draw w.registry row hrow
      exact ⟨row', hrow', hid'.trans hid, hkey'.trans hkey⟩
  | git env args =>
    have hgrows := hc.1.grows hc.2 w.repo
    rw [← world_runCommand] at hgrows
    exact keeps_of_grows h hgrows
  | write env target text => exact keeps_of_grows h (Repo.grows_of_tips (stays_writeModule env target text w.repo).tips)
  | other work => exact keeps_of_grows h (work.grows w.repo)

theorem needs_of_repo {c : WorkspaceCall} (h : w'.repo = w.repo) : c.Needs w w' := by
  have hbranch : w.repo.OnBranch → w'.repo.OnBranch := fun hbranch => h ▸ hbranch
  unfold Needs
  split
  · exact hbranch
  · exact ⟨hbranch, by rw [h]⟩
  · exact ⟨hbranch, by rw [h]⟩
  · trivial

theorem Needs.refl (c : WorkspaceCall) (w : Workspace) : c.Needs w w := needs_of_repo rfl

theorem Needs.trans (c : WorkspaceCall) (w w' w'' : Workspace) (h : c.Needs w w') (h' : c.Needs w' w'') :
    c.Needs w w'' := by
  unfold Needs at h h' ⊢
  split
  · exact h' ∘ h
  · exact ⟨h'.1 ∘ h.1, h'.2.trans h.2⟩
  · exact ⟨h'.1 ∘ h.1, h'.2.trans h.2⟩
  · trivial

end WorkspaceCall

/-! ## The requests -/

/-- The request does not promote by hand; promotions come with the repository. -/
def RegistryRequest.Careful : RegistryRequest → Prop
  | review (.patch _ update) => update.status ≠ some FieldStatus.promoted.value
  | review (.promote _) => False
  | setStatus _ status => status ≠ .promoted
  | _ => True

inductive WorkspaceRequest where
  | registry (request : RegistryRequest)
  | promote (request : Promotion)
  | other (work : GitWork)

namespace WorkspaceRequest

def calls (py : PyText) (ints : IntField) : WorkspaceRequest → WorkspaceCalls
  | registry request => (request.calls py ints).embed .registry (fun _ a => a) .registry
  | promote request => request.calls py
  | other work => .call (.other work) fun _ => .done .worked

/-- A promotion that marks commits, and its git is as documented, with no hook or filter that writes a file. -/
def Careful : WorkspaceRequest → Prop
  | registry request => request.Careful
  | promote request =>
    request.env.git.Documented ∧ request.env.git.KeepsFiles ∧ (request.mark = true → request.commit = true)
  | other _ => True

/-- A promotion that says that it created the branch, and that was to commit, has landed what it proposed. -/
def Ends (py : PyText) (w : Workspace) : WorkspaceRequest → WorkspaceReply → Prop
  | promote request, .update (some result) => result.created = true → request.commit = true →
    ∀ p ∈ result.proposals, Landed py w.repo p.fieldId (p.sourceType, p.rawPath)
  | _, _ => True

end WorkspaceRequest

/-! ## The registry's requests -/

namespace RegistryRequest

variable {py : PyText} {ints : IntField} {w : Workspace}

/-- Calls of the registry, of that kind, in the workspace. -/
def within {C : Type} {A : C → Type} {D : Type} (perform : (c : C) → D → FieldRegistry → A c × FieldRegistry) :
    (c : C) → D → Workspace → A c × Workspace :=
  Calls.onPart perform Workspace.registry fun w registry => { w with registry }

def PromotesNone (c : RegistryUse) : Prop := ∀ id, ¬ c.Sets id FieldStatus.promoted.value

theorem allowed_of_promotesNone {c : RegistryUse} (h : PromotesNone c) : (WorkspaceCall.registry c).Allowed py w :=
  fun id hsets => absurd hsets (h id)

/-- A review that promotes only what has landed. -/
def Patches (py : PyText) (p : RegistryCalls) (w : Workspace) : Prop :=
  p.Safe (within RegistryCall.perform) (Workspace.Accounted py) Workspace.Moves Calls.free (fun _ _ => True) w

theorem patches_of_only {p : RegistryCalls} (h : p.Only fun c => PromotesNone (.review c)) : Patches py p w := by
  refine Calls.Only.safe (fun c now w' hc hI => ?_) h
  exact WorkspaceCall.keeps_perform (c := .registry (.review c)) (allowed_of_promotesNone hc) ⟨now, 0⟩ hI

theorem only_remap (fieldId : Nat) (update : FieldUpdate) :
    (update.remap fieldId).Only fun c => PromotesNone (.review c) := by
  unfold FieldUpdate.remap
  cases update.suggestedUdmField with
  | none => exact ⟨fun _ h => h, fun _ => trivial⟩
  | some suggestedUdmField => exact ⟨fun _ h => h, fun _ => ⟨fun _ h => h, fun _ => trivial⟩⟩

/-- Notes alone are written back with the status that was read, which is that of a row that has landed if it is
promoted. -/
theorem patches_notes (fieldId : Nat) (update : FieldUpdate) (notes : String) :
    Patches py (.call (.get fieldId) fun (row : Option FieldRow) =>
      match row with
      | some row => .call (.setStatus fieldId row.status (some notes)) fun _ => update.remap fieldId
      | none => .done .raised) w := by
  intro w' now hI _ _
  refine ⟨hI, .refl w', ?_⟩
  change Patches py (match w'.registry.get fieldId with
    | some row => .call (.setStatus fieldId row.status (some notes)) fun _ => update.remap fieldId
    | none => .done .raised) w'
  cases hrow : w'.registry.get fieldId with
  | none => exact fun _ _ _ => trivial
  | some row =>
    obtain ⟨hmem, hid⟩ := FieldRegistry.get_eq_some hrow
    intro w'' now' hI' hmoves _
    have hallowed : (WorkspaceCall.registry (.review (.setStatus fieldId row.status (some notes)))).Allowed py w'' := by
      rintro id ⟨rfl, hstatus⟩ key hkey
      have hsettled : w'.Settled py fieldId row.key := ⟨⟨row, hmem, hid, rfl⟩, hid ▸ hI row hmem hstatus⟩
      have hsettled' := hsettled.moves hmoves
      exact hkey.unique hsettled'.has ▸ hsettled'.landed
    obtain ⟨hI'', hmoves'⟩ := WorkspaceCall.keeps_perform hallowed ⟨now', 0⟩ hI'
    exact ⟨hI'', hmoves', patches_of_only (only_remap fieldId update)⟩

theorem patches_review {update : FieldUpdate} (h : update.status ≠ some FieldStatus.promoted.value) (fieldId : Nat) :
    Patches py (update.review fieldId) w := by
  unfold FieldUpdate.review
  cases hstatus : update.status with
  | some status =>
    refine patches_of_only ?_
    by_cases hvalid : status ∈ FieldUpdate.valid
    · simp only [if_pos hvalid]
      refine ⟨?_, fun _ => only_remap fieldId update⟩
      rintro id ⟨-, rfl⟩
      exact h hstatus
    · simp only [if_neg hvalid]
      trivial
  | none =>
    cases update.notes with
    | none => exact patches_of_only (only_remap fieldId update)
    | some notes => exact patches_notes fieldId update notes

theorem patches_patch {update : FieldUpdate} (h : update.status ≠ some FieldStatus.promoted.value) (fieldId : Nat) :
    Patches py (apiUdmFieldUpdate fieldId update) w := by
  intro w' now hI _ _
  refine ⟨hI, .refl w', ?_⟩
  have hget : within RegistryCall.perform (.get fieldId) now w' = (w'.registry.get fieldId, w') := rfl
  rw [hget]
  cases w'.registry.get fieldId with
  | none => exact fun _ _ _ => trivial
  | some row => exact patches_review h fieldId

theorem only_recording : ∀ unmapped : List Udm.FieldObservation, (recording unmapped).Only PromotesNone
  | [] => trivial
  | _ :: rest => ⟨fun _ h => h, fun _ => only_recording rest⟩

/-- **A request that is careful promotes only what has landed.** -/
theorem safe_of_careful {request : RegistryRequest} (h : request.Careful) :
    (request.calls py ints).Safe (within RegistryUse.perform) (Workspace.Accounted py) Workspace.Moves
      Calls.free (fun _ _ => True) w := by
  have honly : (request.calls py ints).Only PromotesNone → (request.calls py ints).Safe (within RegistryUse.perform)
      (Workspace.Accounted py) Workspace.Moves Calls.free (fun _ _ => True) w := by
    refine Calls.Only.safe fun c draw w' hc hI => ?_
    exact WorkspaceCall.keeps_perform (c := .registry c) (allowed_of_promotesNone hc) draw hI
  cases request with
  | parse raw sourceType uuid record =>
    apply honly
    cases hparse : Udm.parse py ints uuid raw sourceType with
    | none =>
      simp only [calls, hparse]
      trivial
    | some r =>
      simp only [calls, hparse]
      cases record with
      | true => exact only_recording r.unmapped
      | false => trivial
  | review request =>
    cases request with
    | patch fieldId update =>
      have hsafe : Patches py (apiUdmFieldUpdate fieldId update) w := patches_patch h fieldId
      exact Calls.Safe.embed (fun _ _ _ => rfl) (fun _ _ _ _ => trivial) _ hsafe
    | promote request => exact absurd h id
  | setStatus fieldId status =>
    refine honly ⟨?_, fun _ => trivial⟩
    rintro id ⟨-, hstatus⟩
    cases status with
    | promoted => exact h rfl
    | new | approved | ignored => exact absurd hstatus (by decide)
  | fields order status sourceType => exact honly ⟨fun _ h => h, fun _ => trivial⟩
  | summary => exact honly ⟨fun _ h => h, fun _ => trivial⟩

end RegistryRequest

/-! ## The promotions -/

namespace Promotion

variable {py : PyText} {request : Promotion} {rows : List FieldRow} {w : Workspace}

/-- The promotion promotes only what has landed, and ends as it may. -/
def Promotes (py : PyText) (request : Promotion) (p : WorkspaceCalls) (w : Workspace) : Prop :=
  p.Safe WorkspaceCall.perform (Workspace.Accounted py) Workspace.Moves WorkspaceCall.Needs
    (fun reply w => (WorkspaceRequest.promote request).Ends py w reply) w

/-- The marks are of rows that have landed, and so is all that the result proposes, if the promotion was to commit. -/
theorem promotes_marking {result : UpdateResult} (branch : String) : ∀ {ps : List FieldProposal} {w : Workspace},
    (∀ p ∈ ps, w.Settled py p.fieldId (p.sourceType, p.rawPath)) →
    (request.commit = true → ∀ p ∈ result.proposals, Landed py w.repo p.fieldId (p.sourceType, p.rawPath)) →
    Promotes py request (marking branch result ps) w
  | [], w, _, hresult => by
    intro w' _ hmoves _ hcommit p hp
    exact (hresult hcommit p hp).grows hmoves.grows
  | p :: ps, w, hps, hresult => by
    intro w' draw hI hmoves _
    have hallowed : (WorkspaceCall.registry (.review (.setStatus p.fieldId FieldStatus.promoted.value
        (some ("branch=" ++ branch))))).Allowed py w' := by
      rintro id ⟨rfl, -⟩ key hkey
      have hsettled := (hps p List.mem_cons_self).moves hmoves
      exact hkey.unique hsettled.has ▸ hsettled.landed
    obtain ⟨hI', hmoves'⟩ := WorkspaceCall.keeps_perform hallowed draw hI
    have hboth := hmoves.trans _ _ _ hmoves'
    refine ⟨hI', hmoves', promotes_marking branch ?_ ?_⟩
    · exact fun q hq => (hps q (List.mem_cons_of_mem p hq)).moves hboth
    · exact fun hcommit q hq => (hresult hcommit q hq).grows hboth.grows

theorem promotes_done {result : Option UpdateResult} (h : ∀ r, result = some r → r.created = false) :
    Promotes py request (.done (.update result)) w := by
  intro w' _ _
  cases result with
  | none => trivial
  | some result =>
    intro hcreated
    rw [h result rfl] at hcreated
    cases hcreated

theorem promotes_failed (e : Failure) : Promotes py request (.done (request.failed py rows e)) w := by
  cases e with
  | command stderr =>
    refine promotes_done fun r hr => ?_
    cases hr
    rfl
  | system => exact promotes_done nofun

/-- All that is listed has a row, which is listed under its id and key. -/
def Rows (py : PyText) (rows : List FieldRow) (w : Workspace) : Prop :=
  ∀ p ∈ proposals py rows, w.Has p.fieldId (p.sourceType, p.rawPath)

theorem Rows.moves {w' : Workspace} (h : Rows py rows w) (hmoves : w.Moves w') : Rows py rows w' :=
  fun p hp => hmoves.has _ _ (h p hp)

/-- The module of the listed rows is in a commit, if the promotion was to commit. -/
theorem promotes_succeeded (hmark : request.mark = true → request.commit = true) (hrows : Rows py rows w)
    (hfile : request.commit = true → w.repo.HasFile (request.text py rows)) :
    Promotes py request (request.succeeded py rows) w := by
  have hlanded : request.commit = true → ∀ p ∈ proposals py rows, Landed py w.repo p.fieldId (p.sourceType, p.rawPath) :=
    fun hcommit p hp => ⟨request.env.generatedAt, proposals py rows, hfile hcommit, p, hp, rfl, rfl,
      (shown_of_mem hp request.env.generatedAt).2⟩
  refine promotes_marking request.branchName ?_ hlanded
  intro p hp
  cases hmarks : request.mark with
  | false =>
    rw [hmarks] at hp
    exact absurd hp List.not_mem_nil
  | true =>
    rw [hmarks] at hp
    exact ⟨hrows p hp, hlanded (hmark hmarks) p hp⟩

/-- A command of the promotion: what comes after is met in the repository that it leaves, if it passes. -/
theorem promotes_command (hgit : request.env.git.Documented) {args : List String} (hargs : Promoting args)
    {next : WorkspaceCalls} (h : ∀ w', w.Moves { w' with repo := (request.env.git args w'.repo).2 } →
      (WorkspaceCall.git request.env args).Needs w w' → (request.env.git args w'.repo).1 = none →
        Promotes py request next { w' with repo := (request.env.git args w'.repo).2 }) :
    Promotes py request (request.command py rows args next) w := by
  intro w' draw hI hmoves hneeds
  obtain ⟨hI', hmoves'⟩ := WorkspaceCall.keeps_perform (c := .git request.env args) ⟨hgit, hargs⟩ draw hI
  refine ⟨hI', hmoves', ?_⟩
  have hboth := hmoves.trans _ _ _ hmoves'
  simp only [WorkspaceCall.perform, world_runCommand] at hboth ⊢
  cases hvalue : Effect.value ((runCommand request.env args).run w'.repo) with
  | error e => exact promotes_failed e
  | ok a => exact h w' hboth hneeds (passed_of_value hvalue)

section Careful

variable (hgit : request.env.git.Documented) (hfiles : request.env.git.KeepsFiles)
  (hmark : request.mark = true → request.commit = true)

include hgit hfiles hmark

/-- The module is written, and nobody writes over it before it is staged, or stages over it before it is committed. -/
theorem promotes_committing (hrows : Rows py rows w) (hbranch : w.repo.OnBranch)
    (hwork : w.repo.work request.target = some (request.text py rows)) :
    Promotes py request (request.committing py rows) w := by
  refine promotes_command hgit (.add request.target) fun w₁ hmoves₁ ⟨hbranch₁, hwork₁⟩ hadd => ?_
  have hstaged := hfiles.add request.target w₁.repo hadd
  have honBranch := (hbranch₁ hbranch).stays (hgit.add request.target w₁.repo)
  have hindex :
      (request.env.git ["add", request.target] w₁.repo).2.index request.target = some (request.text py rows) := by
    rw [hstaged, Function.update_self, hwork₁, hwork]
  refine promotes_command hgit (.commit _) fun w₂ hmoves₂ ⟨hbranch₂, hindex₂⟩ hcommit => ?_
  refine promotes_succeeded hmark ((hrows.moves hmoves₁).moves hmoves₂) fun _ => ?_
  have hstill : w₂.repo.index request.target = some (request.text py rows) := by
    rw [hindex₂]
    exact hindex
  exact (hfiles.committed _ w₂.repo hcommit).hasFile (hbranch₂ honBranch) hstill

theorem promotes_writing (hrows : Rows py rows w) (hbranch : w.repo.OnBranch) :
    Promotes py request (request.writing py rows) w := by
  intro w' draw hI hmoves hneeds
  have hstays := stays_writeModule request.env request.target (request.text py rows) w'.repo
  obtain ⟨hI', hmoves'⟩ := WorkspaceCall.keeps_perform (c := .write request.env request.target (request.text py rows))
    trivial draw hI
  refine ⟨hI', hmoves', ?_⟩
  have hrows' := (hrows.moves hmoves).moves hmoves'
  simp only [WorkspaceCall.perform] at hrows' ⊢
  cases hvalue : Effect.value ((writeModule request.env request.target (request.text py rows)).run w'.repo) with
  | error e => exact promotes_failed e
  | ok a =>
    cases hcommit : request.commit with
    | true =>
      simp only [attempt, if_true]
      exact promotes_committing hgit hfiles hmark hrows' ((hneeds hbranch).stays hstays) (work_of_value hvalue)
    | false =>
      simp only [attempt, Bool.false_eq_true, if_false]
      exact promotes_succeeded hmark hrows' fun h => absurd h (by rw [hcommit]; exact nofun)

theorem promotes_listed (hrows : ∀ row ∈ rows, row ∈ w.registry.rows) :
    Promotes py request (request.listed py rows) w := by
  unfold listed
  split
  · refine promotes_done fun r hr => ?_
    cases hr
    rfl
  · have hlisted : Rows py rows w := by
      intro p hp
      obtain ⟨row, hrow, hid, hkey⟩ := (shown_of_mem hp request.env.generatedAt).1
      exact ⟨row, hrows row hrow, hid, hkey⟩
    refine promotes_command hgit (.checkout request.branchName) fun w' hmoves _ hpassed => ?_
    exact promotes_writing hgit hfiles hmark (hlisted.moves hmoves)
      ⟨_, (hgit.checkout request.branchName w'.repo hpassed).head⟩

theorem promotes_calls : Promotes py request (request.calls py) w := fun w' _ hI _ _ =>
  ⟨hI, .refl w', promotes_listed hgit hfiles hmark fun _ hrow => w'.registry.mem_of_mem_listFields hrow⟩

end Careful

end Promotion

/-! ## All of them -/

/-- An empty registry, a repository, and what each caller has to do. -/
def workspaceStart (py : PyText) (ints : IntField) (repo : Repo) (requests : Nat → WorkspaceRequest) :
    Callers Workspace WorkspaceCall WorkspaceCall.Answer WorkspaceReply :=
  ⟨⟨.empty, repo⟩, fun i => (requests i).calls py ints⟩

theorem WorkspaceRequest.safe_calls {py : PyText} (ints : IntField) {request : WorkspaceRequest} (h : request.Careful)
    (w : Workspace) : (request.calls py ints).Safe WorkspaceCall.perform (Workspace.Accounted py) Workspace.Moves
      WorkspaceCall.Needs (fun reply w => request.Ends py w reply) w := by
  cases request with
  | registry request =>
    have hsafe : (request.calls py ints).Safe (RegistryRequest.within RegistryUse.perform) (Workspace.Accounted py)
        Workspace.Moves Calls.free (fun _ _ => True) w := RegistryRequest.safe_of_careful h
    exact Calls.Safe.embed (fun _ _ _ => rfl) (fun _ _ _ _ => trivial) _ hsafe
  | promote request => exact Promotion.promotes_calls h.1 h.2.1 h.2.2
  | other work =>
    intro w' draw hI _ _
    obtain ⟨hI', hmoves⟩ := WorkspaceCall.keeps_perform (c := .other work) trivial draw hI
    exact ⟨hI', hmoves, fun _ _ _ => trivial⟩

/-- **Promoted is landed, in every order of the calls and commands** that leaves each promotion what its next command
needs.  Where nobody promotes by hand and a promotion that marks also commits, each row that is promoted is, at every
point, one that a module in a commit on a branch proposes and shows, and each promotion that says that it created its
branch has landed what it proposed. -/
theorem promoted_landed (py : PyText) (ints : IntField) (repo : Repo) (requests : Nat → WorkspaceRequest)
    (h : ∀ i, (requests i).Careful) (ops : List (Nat × Draw))
    (hops : Run.Each (Callers.step WorkspaceCall.perform) (Callers.Spares WorkspaceCall.perform WorkspaceCall.Needs)
      (workspaceStart py ints repo requests) ops) :
    Run.Always (Callers.step WorkspaceCall.perform)
      (fun s => (∀ row ∈ s.shared.registry.rows, row.status = FieldStatus.promoted.value →
          Landed py s.shared.repo row.id row.key) ∧
        ∀ i reply, s.program i = .done reply → (requests i).Ends py s.shared reply)
      (workspaceStart py ints repo requests) ops := by
  have hstart : Callers.Keeps WorkspaceCall.perform (Workspace.Accounted py) Workspace.Moves WorkspaceCall.Needs
      (fun i reply w => (requests i).Ends py w reply) (workspaceStart py ints repo requests) :=
    ⟨fun _ h => absurd h List.not_mem_nil, fun i => (requests i).safe_calls ints (h i) _⟩
  intro pre hpre
  exact Callers.always_safe Workspace.Moves.refl Workspace.Moves.trans WorkspaceCall.Needs.refl WorkspaceCall.Needs.trans
    hstart ops hops pre hpre

/-- Git does all it is asked. -/
def quietRepoEnv : RepoEnv where
  generatedAt := "12:02"
  branchStamp := "1202"
  now _ := "12:03"
  git := .plain fun _ => none
  writeFails := false
  torn := none

/-- A parse of two fields, two approvals and three promotions, the last of a name that is taken; the others read the
summary. -/
def promoteTwo : Nat → WorkspaceRequest
  | 0 => .registry (.parse ⟨[("mfaUsed", .str "true"), ("loginTo", .str "cli")], rfl⟩ none "" true)
  | 1 => .registry (.setStatus 1 .approved)
  | 2 => .registry (.setStatus 2 .approved)
  | 3 => .promote ⟨.stable, quietRepoEnv, some "udm/a", "a.py", "/repo/a.py", true, true⟩
  | 4 => .promote ⟨.stable, quietRepoEnv, some "udm/b", "b.py", "/repo/b.py", true, true⟩
  | 5 => .promote ⟨.stable, quietRepoEnv, some "udm/a", "c.py", "/repo/c.py", true, true⟩
  | _ => .registry .summary

/-- The second branch is made before the first promotion writes its module, which is committed on it, and the rows are
marked by turns. -/
def interleaved : List (Nat × Draw) :=
  [0, 0, 1, 2, 3, 4, 5, 3, 5, 4, 3, 4, 3, 3, 4, 4, 3, 4, 3, 4].map fun i => (i, ⟨"12:00", 0⟩)

section Spares

variable {s : Callers Workspace WorkspaceCall WorkspaceCall.Answer WorkspaceReply} {op : Nat × Draw}

theorem spares_of_repo (h : (s.step WorkspaceCall.perform op).shared.repo = s.shared.repo) :
    Callers.Spares WorkspaceCall.perform WorkspaceCall.Needs s op := fun _ _ _ _ => WorkspaceCall.needs_of_repo h

theorem spares_of_asked (h : ∀ j, j ≠ op.1 → match (s.program j).asked with
    | some c => c.Needs s.shared (s.step WorkspaceCall.perform op).shared
    | none => True) : Callers.Spares WorkspaceCall.perform WorkspaceCall.Needs s op := by
  intro j hj c hc
  have hneeds := h j hj
  rw [hc] at hneeds
  exact hneeds

end Spares

theorem spares_interleaved : Run.Each (Callers.step WorkspaceCall.perform)
    (Callers.Spares WorkspaceCall.perform WorkspaceCall.Needs) (workspaceStart .ascii .lax seededRepo promoteTwo)
    interleaved := by
  refine ⟨spares_of_repo rfl, spares_of_repo rfl, spares_of_repo rfl, spares_of_repo rfl, spares_of_repo rfl,
    spares_of_repo rfl, spares_of_repo rfl, spares_of_asked ?_, spares_of_repo rfl, spares_of_asked ?_, spares_of_asked ?_,
    spares_of_asked ?_, spares_of_asked ?_, spares_of_asked ?_, spares_of_asked ?_, spares_of_asked ?_,
    spares_of_repo rfl, spares_of_repo rfl, spares_of_repo rfl, spares_of_repo rfl, trivial⟩ <;>
  · intro j hj
    rcases j with _ | _ | _ | _ | _ | _ | j
    all_goals first | exact trivial | exact ⟨fun _ => ⟨_, rfl⟩, rfl⟩ | exact fun _ => ⟨_, rfl⟩

theorem promoted_landed_interleaved :
    let s := Run.after (Callers.step WorkspaceCall.perform)
      (workspaceStart .ascii .lax seededRepo promoteTwo) interleaved
    s.shared.registry.rows.map FieldRow.status = [FieldStatus.promoted.value, FieldStatus.promoted.value] ∧
      (∃ result, s.program 5 = .done (.update (some result)) ∧ result.created = false) ∧
      ∀ row ∈ s.shared.registry.rows, row.status = FieldStatus.promoted.value →
        Landed .ascii s.shared.repo row.id row.key :=
  ⟨rfl, ⟨_, rfl, rfl⟩, (promoted_landed .ascii .lax seededRepo promoteTwo (fun i => match i with
    | 0 => trivial
    | 1 | 2 => nofun
    | 3 | 4 | 5 => ⟨Git.plain_documented fun _ => none, Git.plain_keepsFiles fun _ => none, fun _ => rfl⟩
    | _ + 6 => trivial) interleaved spares_interleaved).last.1⟩

end Tengen
