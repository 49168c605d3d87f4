import Mathlib.Data.List.Basic
import Mathlib.Logic.Function.Basic

/-!
# OneCipher.Secret.Git — pulling and committing a vault

`pull` and `add_and_commit` of `oc-secret/src/git.rs`.  A repository is the tree of its `HEAD` commit, its index and its
working tree; `auto_commit` is `add_and_commit` of the paths that an operation of the store has changed.
-/

namespace OneCipher.Secret.Git

/-! ## Trees -/

section Trees

variable {Path Blob : Type} [DecidableEq Path]

abbrev Tree (Path Blob : Type) := List (Path × Blob)

variable (t : Tree Path Blob)

/-- Writes the file at the path, or removes it. -/
def Tree.set (p : Path) (file : Option Blob) : Tree Path Blob := (file.map (p, ·)).toList ++ t.filter (·.1 ≠ p)

/-- Sets each of the paths to what the other tree has there. -/
def Tree.take (other : Tree Path Blob) (paths : List Path) : Tree Path Blob :=
  paths.foldl (fun t p => Tree.set t p (other.lookup p)) t

theorem Tree.lookup_cons (name q : Path) (blob : Blob) (t : Tree Path Blob) :
    List.lookup q ((name, blob) :: t) = if q = name then some blob else t.lookup q := by
  rw [List.lookup_cons]
  by_cases h : q = name
  · simp [h]
  · rw [beq_false_of_ne h, if_neg h]

theorem Tree.lookup_filter_ne (p q : Path) :
    List.lookup q (t.filter (·.1 ≠ p)) = if q = p then none else t.lookup q := by
  induction t with
  | nil => simp
  | cons e _ ih =>
    obtain ⟨name, blob⟩ := e
    by_cases hname : name = p
    · rw [List.filter_cons_of_neg (by simpa using hname), ih, Tree.lookup_cons, hname]
      split_ifs <;> rfl
    · rw [List.filter_cons_of_pos (by simpa using hname), Tree.lookup_cons, Tree.lookup_cons, ih]
      by_cases hq : q = name
      · simp [hq, hname]
      · simp [hq]

theorem Tree.lookup_set (p q : Path) (file : Option Blob) :
    (Tree.set t p file).lookup q = if q = p then file else t.lookup q := by
  rw [Tree.set, List.lookup_append, Tree.lookup_filter_ne]
  cases file <;> split_ifs with hq <;> simp [Tree.lookup_cons, hq]

theorem Tree.lookup_take (other : Tree Path Blob) (paths : List Path) (p : Path) :
    (Tree.take t other paths).lookup p = if p ∈ paths then other.lookup p else t.lookup p := by
  induction paths generalizing t with
  | nil => simp [Tree.take]
  | cons q _ ih =>
    refine (ih (Tree.set t q (other.lookup q))).trans ?_
    rw [Tree.lookup_set]
    by_cases hp : p = q
    · subst hp
      simp
    · simp [hp]

variable [DecidableEq Blob]

/-- The paths at which the trees differ. -/
def Tree.changed (a b : Tree Path Blob) : List Path := ((a ++ b).map (·.1)).filter fun p => a.lookup p ≠ b.lookup p

theorem Tree.mem_changed {a b : Tree Path Blob} {p : Path} : p ∈ Tree.changed a b ↔ a.lookup p ≠ b.lookup p := by
  simp only [Tree.changed, List.mem_filter, decide_eq_true_eq, and_iff_right_iff_imp]
  intro hne
  by_contra hp
  -- a path that occurs in neither tree has no file in either
  have hnone : (a ++ b).lookup p = none := List.lookup_eq_none_iff.mpr fun e he => by
    simpa using fun h : p = e.1 => hp (h ▸ List.mem_map_of_mem he)
  rw [List.lookup_append, Option.or_eq_none_iff] at hnone
  exact hne (hnone.1.trans hnone.2.symm)

end Trees

/-! ## Repositories -/

variable {Path Blob : Type} [DecidableEq Path] [DecidableEq Blob]

structure Repo (Path Blob : Type) where
  head : Tree Path Blob
  index : Tree Path Blob
  workdir : Tree Path Blob

inductive GitError where
  | noOrigin
  | git (message : String)
  | mergeConflict (message : String)

/-- The remote branch after a fetch, as it stands to the local one; `mergeCommits` is libgit2's merge, none where it has
conflicts. -/
structure Fetched (Path Blob : Type) where
  tree : Tree Path Blob
  ahead : ℕ
  behind : ℕ
  upToDate : Bool
  mergeCommits : Tree Path Blob → Tree Path Blob → Option (Tree Path Blob)
  counts : upToDate = true → ahead = 0 ∧ behind = 0

/-- `checkout_tree` with its default, safe strategy: a path that differs between `HEAD` and the target is written unless
the working tree has something else there. -/
def Repo.checkoutTree (r : Repo Path Blob) (target : Tree Path Blob) : Except GitError (Repo Path Blob) :=
  let paths := Tree.changed r.head target
  if paths.all fun p => r.workdir.lookup p = r.head.lookup p ∨ r.workdir.lookup p = target.lookup p then
    .ok ⟨r.head, Tree.take r.index target paths, Tree.take r.workdir target paths⟩
  else .error (.git "conflicts prevent checkout")

/-- `pull`; `origin` is what fetching from the remote gives, none where there is no remote. -/
def pull (origin : Option (Except String (Fetched Path Blob))) (r : Repo Path Blob) : Except GitError (Repo Path Blob) :=
  match origin with
  | none => .error .noOrigin
  | some (.error message) => .error (.git message)
  | some (.ok f) =>
    if f.upToDate then .ok r
    else if 0 < f.behind ∧ f.ahead = 0 then (r.checkoutTree f.tree).map fun r' => { r' with head := f.tree }
    else if 0 < f.ahead ∧ 0 < f.behind then match f.mergeCommits r.head f.tree with
      | none => .error (.mergeConflict "merge conflicts detected, resolve manually")
      | some tree => .ok { r with head := tree }
    else .ok r

/-- `add_and_commit`: a path without a file is staged as removed, and an index that is the tree of `HEAD` makes no
commit. -/
def addAndCommit (paths : List Path) (r : Repo Path Blob) : Repo Path Blob :=
  let index := Tree.take r.index r.workdir paths
  if Tree.changed index r.head = [] then { r with index := index } else { r with index := index, head := index }

theorem lookup_head_addAndCommit (paths : List Path) (r : Repo Path Blob) (p : Path) :
    (addAndCommit paths r).head.lookup p = if p ∈ paths then r.workdir.lookup p else r.index.lookup p := by
  rw [← Tree.lookup_take, addAndCommit]
  split_ifs with h
  · have hp : p ∉ Tree.changed (Tree.take r.index r.workdir paths) r.head := by simp [h]
    exact (not_not.mp (Tree.mem_changed.not.mp hp)).symm
  · rfl

/-- The two trees have the same files. -/
def Same (a b : Tree Path Blob) : Prop := ∀ p, a.lookup p = b.lookup p

/-- The index and the working tree are the tree of `HEAD`. -/
def Repo.Agrees (r : Repo Path Blob) : Prop := Same r.index r.head ∧ Same r.workdir r.head

/-- What a pull of a branch with new commits should arrive at. -/
def Fetched.merged (f : Fetched Path Blob) (ours : Tree Path Blob) : Option (Tree Path Blob) :=
  if f.ahead = 0 then some f.tree else f.mergeCommits ours f.tree

/-- A commit of the paths changed after the pull has the files of the tree at all other paths. -/
def CommitsOver (tree : Tree Path Blob) (r : Repo Path Blob) : Prop :=
  ∀ paths workdir, (∀ p, p ∉ paths → workdir.lookup p = r.workdir.lookup p) → ∀ p,
    (addAndCommit paths { r with workdir := workdir }).head.lookup p =
      if p ∈ paths then workdir.lookup p else tree.lookup p

theorem commitsOver_of_index {tree : Tree Path Blob} {r : Repo Path Blob} (h : Same r.index tree) : CommitsOver tree r := by
  intro paths workdir _ p
  rw [lookup_head_addAndCommit, h p]

/-- A clean working tree lets every checkout through. -/
theorem Repo.Agrees.checkoutTree {r : Repo Path Blob} (h : r.Agrees) (target : Tree Path Blob) :
    ∃ r', r.checkoutTree target = .ok r' ∧ Same r'.index target ∧ Same r'.workdir target := by
  have htaken : ∀ {t : Tree Path Blob}, Same t r.head → Same (Tree.take t target (Tree.changed r.head target)) target := by
    intro t ht p
    rw [Tree.lookup_take]
    split_ifs with hp
    · rfl
    · rw [ht p]
      exact not_not.mp (Tree.mem_changed.not.mp hp)
  refine ⟨_, if_pos ?_, htaken h.1, htaken h.2⟩
  simpa using fun p _ => Or.inl (h.2 p)

/-- **A pull brings the working tree along exactly when it fast-forwards, or merges nothing new.**  From a repository whose
three trees agree, a pull of a branch with new commits succeeds and moves `HEAD` to the merged tree; the index and the
working tree hold it, and later commits keep it, iff the local branch had no commits of its own or the merge is the
local tree. -/
theorem pull_keeps_iff {r : Repo Path Blob} {f : Fetched Path Blob} {tree : Tree Path Blob} (hclean : r.Agrees)
    (hbehind : 0 < f.behind) (hmerged : f.merged r.head = some tree) :
    ∃ r', pull (some (.ok f)) r = .ok r' ∧ r'.head = tree ∧
      ((Same r'.workdir tree ∧ Same r'.index tree ∧ CommitsOver tree r') ↔ f.ahead = 0 ∨ Same tree r.head) := by
  have hnew : ¬ f.upToDate = true := fun h => by
    have := (f.counts h).2
    omega
  rw [Fetched.merged] at hmerged
  by_cases hahead : f.ahead = 0
  · -- a fast-forward
    rw [if_pos hahead, Option.some_inj] at hmerged
    subst hmerged
    obtain ⟨r', hcheckout, hindex, hworkdir⟩ := hclean.checkoutTree f.tree
    refine ⟨{ r' with head := f.tree }, ?_, rfl, ?_⟩
    · rw [pull, if_neg hnew, if_pos ⟨hbehind, hahead⟩, hcheckout]
      rfl
    · exact iff_of_true ⟨hworkdir, hindex, commitsOver_of_index hindex⟩ (.inl hahead)
  · -- a merge moves `HEAD` alone
    rw [if_neg hahead] at hmerged
    refine ⟨{ r with head := tree }, ?_, rfl, ?_⟩
    · rw [pull, if_neg hnew, if_neg (fun h => hahead h.2), if_pos ⟨Nat.pos_of_ne_zero hahead, hbehind⟩, hmerged]
    · constructor
      · rintro ⟨hworkdir, -, -⟩
        exact .inr fun p => (hworkdir p).symm.trans (hclean.2 p)
      · rintro (h | h)
        · exact absurd h hahead
        · have hindex : Same r.index tree := fun p => (hclean.1 p).trans (h p).symm
          exact ⟨fun p => (hclean.2 p).trans (h p).symm, hindex, commitsOver_of_index hindex⟩

/-! ## Two vaults -/

/-- A vault with one secret, in agreement. -/
def oneSecret : Repo String ℕ := ⟨[("mail", 1)], [("mail", 1)], [("mail", 1)]⟩

theorem counts_behind : false = true → (0 : ℕ) = 0 ∧ 1 = 0 := nofun

theorem counts_diverged : false = true → (1 : ℕ) = 0 ∧ 1 = 0 := nofun

/-- The remote has added a secret. -/
def behindRemote : Fetched String ℕ := ⟨[("mail", 1), ("bank", 2)], 0, 1, false, fun _ _ => none, counts_behind⟩

/-- The remote has added a secret to an empty vault, and so has the local branch. -/
def divergedRemote : Fetched String ℕ :=
  ⟨[("bank", 2)], 1, 1, false, fun _ _ => some [("mail", 1), ("bank", 2)], counts_diverged⟩

theorem pull_keeps_iff_fast_forward :
    ∃ r', pull (some (.ok behindRemote)) oneSecret = .ok r' ∧ r'.head = behindRemote.tree ∧
      ((Same r'.workdir behindRemote.tree ∧ Same r'.index behindRemote.tree ∧ CommitsOver behindRemote.tree r') ↔
        behindRemote.ahead = 0 ∨ Same behindRemote.tree oneSecret.head) :=
  pull_keeps_iff ⟨fun _ => rfl, fun _ => rfl⟩ (by decide) rfl

/-- **The next commit after a merge deletes the remote's secret.** -/
theorem merged_secret_deleted :
    ∃ r', pull (some (.ok divergedRemote)) oneSecret = .ok r' ∧ r'.head.lookup "bank" = some 2 ∧
      (addAndCommit ["note"] { r' with workdir := ("note", 3) :: r'.workdir }).head.lookup "bank" = none :=
  ⟨_, rfl, by decide, by decide⟩

end OneCipher.Secret.Git
