import Safekeep.Job.Catalog
import Safekeep.Proofs.Json.ReadBack
import Safekeep.Proofs.Disk.Write
import Mathlib

/-!
# Job catalogs keep one job per id

Building a catalog adds the jobs one by one into a list ordered by id. It succeeds exactly when
the ids are distinct, and otherwise refuses the first job whose id an earlier job has
(`Catalog.addAll_eq_error_iff`). A catalog holds its jobs sorted by id (`IdsIncrease`), so the
jobs of a catalog built from a list are that list sorted by id, and looking an id up finds the one
job with that id.

A catalog is stored as the indented JSON array of its jobs' records; the records read back
against the job shape (`readBytes_pretty_records`), each as the job written, and building a
catalog from jobs already in order gives the same catalog (`Catalog.ofBytes_text`). Saving a
catalog and loading the same path so gives the catalog saved (`Disk.loadCatalog_saveCatalog`).

Main statement: `catalogs_keep_one_job_per_id_and_read_back_as_saved`.
-/

namespace Safekeep

open Safekeep.Json

/-! ## 1. Jobs in order of their ids -/

def IdsIncrease (js : List Job) : Prop := js.Pairwise fun a b => a.id < b.id

theorem IdsIncrease.nodup {js : List Job} (h : IdsIncrease js) : (js.map (·.id)).Nodup :=
  List.pairwise_map.2 (h.imp Nat.ne_of_lt)

theorem IdsIncrease.eq_of_perm {l₁ l₂ : List Job} (h₁ : IdsIncrease l₁) (h₂ : IdsIncrease l₂)
    (hp : l₁.Perm l₂) : l₁ = l₂ :=
  @List.Perm.eq_of_pairwise _ (fun a b : Job => a.id < b.id) _ _
    (fun _ _ _ _ hab hba => absurd (hab.trans hba) (lt_irrefl _)) h₁ h₂ hp

theorem insertById_perm (j : Job) : ∀ l : List Job, (insertById j l).Perm (j :: l)
  | [] => List.Perm.refl _
  | k :: rest => by
    unfold insertById
    split
    · exact List.Perm.refl _
    · exact ((insertById_perm j rest).cons k).trans (List.Perm.swap j k rest)

/-- Inserting a job with a new id keeps the ids increasing. -/
theorem insertById_increase (j : Job) :
    ∀ l : List Job, IdsIncrease l → j.id ∉ l.map (·.id) → IdsIncrease (insertById j l)
  | [], _, _ => List.pairwise_singleton _ _
  | k :: rest, hl, hj => by
    unfold IdsIncrease at hl ⊢
    rw [List.pairwise_cons] at hl
    unfold insertById
    split
    · next hlt =>
      rw [List.pairwise_cons]
      refine ⟨?_, List.pairwise_cons.2 hl⟩
      intro x hx
      rcases List.mem_cons.1 hx with rfl | hx
      · exact hlt
      · exact lt_trans hlt (hl.1 x hx)
    · next hge =>
      have hne : j.id ≠ k.id := fun h => hj (by simp [h])
      rw [List.pairwise_cons]
      refine ⟨?_, insertById_increase j rest hl.2 (fun h => hj (List.mem_cons_of_mem _ h))⟩
      intro x hx
      rcases List.mem_cons.1 ((insertById_perm j rest).mem_iff.1 hx) with rfl | hx
      · omega
      · exact hl.1 x hx

theorem id_not_mem_of_nodup {l r : List Job} {j : Job} (h : ((l ++ j :: r).map (·.id)).Nodup) :
    j.id ∉ l.map (·.id) := by
  have hmid := (List.perm_middle.map fun x : Job => x.id).nodup_iff.1 h
  rw [List.map_cons, List.nodup_cons, List.map_append, List.mem_append, not_or] at hmid
  exact hmid.1.1

/-- Among jobs with distinct ids, the job found for an id is the one with that id. -/
theorem find?_id_eq_some_iff {l : List Job} (hnd : (l.map (·.id)).Nodup) (i : Nat) (j : Job) :
    l.find? (·.id = i) = some j ↔ j ∈ l ∧ j.id = i := by
  constructor
  · intro h
    exact ⟨List.mem_of_find?_eq_some h, by simpa using List.find?_some h⟩
  · rintro ⟨hj, rfl⟩
    obtain ⟨x, hx⟩ : ∃ x, l.find? (·.id = j.id) = some x :=
      Option.isSome_iff_exists.1 (List.find?_isSome.2 ⟨j, hj, by simp⟩)
    have hxk : x.id = j.id := by simpa using List.find?_some hx
    rw [hx, List.inj_on_of_nodup_map hnd (List.mem_of_find?_eq_some hx) hj hxk]

/-! ## 2. Building a catalog -/

namespace Catalog

/-- Adding jobs to a catalog ordered by id gives a catalog of all the jobs, ordered by id. The
induction is on the jobs added, with the catalog so far. -/
theorem addAll_eq_ok {c c' : Catalog} {js : List Job} (hc : IdsIncrease c.jobs)
    (h : c.addAll js = .ok c') : c'.jobs.Perm (c.jobs ++ js) ∧ IdsIncrease c'.jobs := by
  induction js generalizing c with
  | nil =>
    cases h
    exact ⟨by simp, hc⟩
  | cons j rest ih =>
    unfold addAll at h
    split_ifs at h with hany
    have hj : j.id ∉ c.jobs.map (·.id) := by simpa using hany
    obtain ⟨hperm, hinc⟩ := ih (insertById_increase j c.jobs hc hj) h
    exact ⟨hperm.trans (((insertById_perm j c.jobs).append_right rest).trans List.perm_middle.symm),
      hinc⟩

/-- Adding jobs whose ids are distinct, and distinct from the catalog's, succeeds. -/
theorem addAll_of_nodup {c : Catalog} {js : List Job} (hc : IdsIncrease c.jobs)
    (hnd : ((c.jobs ++ js).map (·.id)).Nodup) : ∃ c', c.addAll js = .ok c' := by
  induction js generalizing c with
  | nil => exact ⟨c, rfl⟩
  | cons j rest ih =>
    have hj : j.id ∉ c.jobs.map (·.id) := id_not_mem_of_nodup hnd
    -- `j` goes in, and the jobs so far with the rest keep distinct ids
    have hnext : ((insertById j c.jobs ++ rest).map (·.id)).Nodup :=
      ((((insertById_perm j c.jobs).append_right rest).trans List.perm_middle.symm).map
        (·.id)).nodup_iff.2 hnd
    rw [addAll, if_neg (by simpa using hj)]
    exact ih (insertById_increase j c.jobs hc hj) hnext

/-- Adding jobs fails exactly at the first job whose id is taken, by the catalog or by an
earlier job, and names that id. The induction is on the jobs added, with the catalog so far. -/
theorem addAll_eq_error_iff {c : Catalog} {js : List Job} (hc : IdsIncrease c.jobs)
    (e : CatalogError) :
    c.addAll js = .error e ↔ ∃ pre j post, js = pre ++ j :: post ∧
      ((c.jobs ++ pre).map (·.id)).Nodup ∧ j.id ∈ (c.jobs ++ pre).map (·.id) ∧
      e = .duplicate j.id := by
  induction js generalizing c with
  | nil => simp [addAll]
  | cons j rest ih =>
    by_cases hany : c.jobs.any (·.id = j.id) = true
    · -- the id of `j` is taken: `j` is the first repeat
      have hmem : j.id ∈ c.jobs.map (·.id) := by simpa using hany
      rw [addAll, if_pos hany]
      constructor
      · rintro ⟨⟩
        exact ⟨[], j, rest, rfl, by simpa using hc.nodup, by simpa using hmem, rfl⟩
      · rintro ⟨pre, j', post, hjs, hnd, -, rfl⟩
        cases pre with
        | nil =>
          cases hjs
          rfl
        | cons k pre' =>
          -- a longer prefix would repeat the id of `j` itself
          cases hjs
          exact absurd hmem (id_not_mem_of_nodup hnd)
    · -- the id of `j` is new: `j` goes in and the search goes on in the rest
      have hj : j.id ∉ c.jobs.map (·.id) := by simpa using hany
      have hperm : ∀ pre : List Job,
          ((insertById j c.jobs ++ pre).map (·.id)).Perm ((c.jobs ++ j :: pre).map (·.id)) :=
        fun pre => (((insertById_perm j c.jobs).append_right pre).trans List.perm_middle.symm).map _
      rw [addAll, if_neg hany, ih (insertById_increase j c.jobs hc hj)]
      constructor
      · rintro ⟨pre, j', post, rfl, hnd, hj', rfl⟩
        exact ⟨j :: pre, j', post, rfl, (hperm pre).nodup_iff.1 hnd, (hperm pre).mem_iff.1 hj', rfl⟩
      · rintro ⟨pre, j', post, hjs, hnd, hj', rfl⟩
        cases pre with
        | nil =>
          cases hjs
          exact absurd (by simpa using hj') hj
        | cons k pre' =>
          cases hjs
          exact ⟨pre', j', post, rfl, (hperm pre').nodup_iff.2 hnd, (hperm pre').mem_iff.2 hj', rfl⟩

theorem ofJobs_eq_ok {js : List Job} {c : Catalog} (h : ofJobs js = .ok c) :
    c.jobs.Perm js ∧ IdsIncrease c.jobs := by
  simpa [empty] using @addAll_eq_ok empty c js List.Pairwise.nil h

theorem ofJobs_eq_error_iff (js : List Job) (e : CatalogError) :
    ofJobs js = .error e ↔ ∃ pre j post, js = pre ++ j :: post ∧ (pre.map (·.id)).Nodup ∧
      j.id ∈ pre.map (·.id) ∧ e = .duplicate j.id := by
  simpa [empty, ofJobs] using @addAll_eq_error_iff empty js List.Pairwise.nil e

theorem exists_ofJobs_eq_ok_iff (js : List Job) :
    (∃ c, ofJobs js = .ok c) ↔ (js.map (·.id)).Nodup := by
  constructor
  · rintro ⟨c, hc⟩
    obtain ⟨hperm, hinc⟩ := ofJobs_eq_ok hc
    exact (hperm.map (·.id)).nodup_iff.1 hinc.nodup
  · intro hnd
    exact @addAll_of_nodup empty js List.Pairwise.nil (by simpa [empty] using hnd)

/-- The jobs of a catalog built from a list are the list sorted by id. -/
theorem jobs_eq_mergeSort {js : List Job} {c : Catalog} (h : ofJobs js = .ok c) :
    c.jobs = js.mergeSort (fun a b => decide (a.id ≤ b.id)) := by
  obtain ⟨hperm, hinc⟩ := ofJobs_eq_ok h
  have hsorted := @List.pairwise_mergeSort _ (fun a b : Job => decide (a.id ≤ b.id))
    (fun a b c hab hbc => by simp at hab hbc ⊢; omega) (fun a b => by simp; omega) js
  have hsperm := List.mergeSort_perm js (fun a b => decide (a.id ≤ b.id))
  -- sorted by `≤` with distinct ids is sorted by `<`
  have hnd : ((js.mergeSort fun a b => decide (a.id ≤ b.id)).map (·.id)).Nodup :=
    ((hsperm.trans hperm.symm).map (·.id)).nodup_iff.2 hinc.nodup
  have hinc' : IdsIncrease (js.mergeSort fun a b => decide (a.id ≤ b.id)) :=
    (hsorted.and (List.pairwise_map.1 hnd)).imp fun ⟨hle, hne⟩ => by
      simp only [decide_eq_true_eq] at hle
      omega
  exact hinc.eq_of_perm hinc' (hperm.trans hsperm.symm)

theorem find?_eq_some_iff {js : List Job} {c : Catalog} (h : ofJobs js = .ok c) (i : Nat) (j : Job) :
    c.find? i = some j ↔ j ∈ js ∧ j.id = i := by
  obtain ⟨hperm, hinc⟩ := ofJobs_eq_ok h
  rw [find?, find?_id_eq_some_iff hinc.nodup, hperm.mem_iff]

end Catalog

/-! ## 3. The stored text -/

theorem Job.ofChecked_toValue (j : Job) : Job.ofChecked j.toValue = j := by
  obtain ⟨id, name, source, target, kind⟩ := j
  cases kind <;> simp [Job.ofChecked, Job.toValue, Job.members, Value.get, Value.field?, Value.nat,
    Value.asNat?, Value.asStr?, BackupKind.name]

/-- The text of jobs with 32-bit ids reads back as their records. -/
theorem readBytes_jobs {js : List Job} (hid : ∀ j ∈ js, j.id ≤ Number.u32Max) :
    readBytes (.seq Job.shape) (Value.arr (js.map Job.toValue)).pretty.toUTF8 =
      .ok (.arr (js.map Job.toValue)) := by
  have hu32 : Int.pow 2 32 - 1 = 4294967295 := by decide
  have hmax : Number.u32Max = 4294967295 := by decide
  have hu64 : Number.u64Max = 18446744073709551615 := by decide
  have hvalues : js.map Job.toValue = (js.map Job.members).map Value.obj := by
    rw [List.map_map]
    rfl
  rw [hvalues, Job.shape]
  refine readBytes_pretty_records fun ms hms => ?_
  obtain ⟨j, hj, rfl⟩ := List.mem_map.1 hms
  have hjid := hid j hj
  refine ⟨⟨?_, by simp [Job.members]⟩, by simp [Job.members]⟩
  refine .cons ⟨rfl, .word ?_ ?_ ?_⟩ (.cons ⟨rfl, .text rfl⟩ (.cons ⟨rfl, .text rfl⟩
    (.cons ⟨rfl, .text rfl⟩ (.cons ⟨rfl, .variant ?_⟩ .nil))))
  · omega
  · rw [hu32]
    omega
  · omega
  · cases j.kind <;> simp [BackupKind.name]

namespace Catalog

/-- The stored text of a catalog ordered by id, with 32-bit ids, reads back as the catalog. -/
theorem ofBytes_text {c : Catalog} (hinc : IdsIncrease c.jobs)
    (hid : ∀ j ∈ c.jobs, j.id ≤ Number.u32Max) : ofBytes c.text.toUTF8 = .ok c := by
  have hjobs : (c.jobs.map Job.toValue).map Job.ofChecked = c.jobs := by
    rw [List.map_map]
    conv_rhs => rw [← List.map_id c.jobs]
    exact List.map_congr_left fun j _ => Job.ofChecked_toValue j
  obtain ⟨c', hc'⟩ := @addAll_of_nodup empty c.jobs List.Pairwise.nil
    (by simpa [empty] using hinc.nodup)
  obtain ⟨hperm, hinc'⟩ := ofJobs_eq_ok hc'
  have hsame : c' = c := by
    obtain ⟨jobs'⟩ := c'
    obtain ⟨jobs⟩ := c
    congr
    exact hinc'.eq_of_perm hinc hperm
  rw [ofBytes, text, readBytes_jobs hid]
  simp only [Value.asArr?, Option.getD_some, hjobs]
  rw [ofJobs, hc', hsame]

end Catalog

/-! ## 4. Saving and loading -/

namespace Disk

/-- A save that succeeds made the directories above the path, keeping one entry per location,
and then wrote the catalog's text. -/
theorem saveCatalog_eq_ok {d d' : Disk} {cwd : Loc} {path : String} {c : Catalog}
    (hnd : (d.nodes.map (·.1)).Nodup) (h : d.saveCatalog cwd path c = (d', .ok ())) :
    ∃ d₁ : Disk, (d₁.nodes.map (·.1)).Nodup ∧ d₁.writeFile cwd path c.text.toUTF8 = .ok d' := by
  unfold saveCatalog at h
  cases hq : Path.parent? path with
  | none =>
    simp only [hq] at h
    split at h
    · rename_i d'' hw
      obtain ⟨rfl, -⟩ := Prod.mk.inj h
      exact ⟨d, hnd, hw⟩
    · simp at h
  | some q =>
    cases hdirs : d.createDirAll cwd q with
    | error e => simp [hq, hdirs, Except.mapError] at h
    | ok d₁ =>
      simp only [hq, hdirs, Except.mapError] at h
      split at h
      · rename_i d'' hw
        obtain ⟨rfl, -⟩ := Prod.mk.inj h
        exact ⟨d₁, nodup_createDirAll hnd hdirs, hw⟩
      · simp at h

/-- Loading a catalog just saved gives the catalog saved, unless the path led to the null
device. -/
theorem loadCatalog_saveCatalog {d d' : Disk} {cwd : Loc} {path : String} {c : Catalog}
    (hinc : IdsIncrease c.jobs) (hid : ∀ j ∈ c.jobs, j.id ≤ Number.u32Max)
    (hnd : (d.nodes.map (·.1)).Nodup) (h : d.saveCatalog cwd path c = (d', .ok ()))
    (hnull : d'.locate cwd path ≠ .ok nullDevice) : d'.loadCatalog cwd path = .ok c := by
  obtain ⟨d₁, hnd₁, hwrite⟩ := saveCatalog_eq_ok hnd h
  rw [loadCatalog, fileBytes_writeFile hnd₁ hwrite hnull]
  exact Catalog.ofBytes_text hinc hid

end Disk

/-! ## 5. The catalog of a list of jobs -/

/-- A catalog is built from a list of jobs exactly when their ids are distinct; otherwise building
fails with the id of the first job whose id an earlier job has. A catalog built has increasing
ids, holds the list sorted by id, and finds for an id the job with that id. Saved to a file and
loaded back it is the same catalog, on a disk with one entry per location, when the ids fit the
32 bits of the stored records and the path does not lead to the null device, which keeps nothing
written to it. -/
theorem catalogs_keep_one_job_per_id_and_read_back_as_saved (js : List Job) :
    ((∃ c, Catalog.ofJobs js = .ok c) ↔ (js.map (·.id)).Nodup) ∧
    (∀ e, Catalog.ofJobs js = .error e ↔ ∃ pre j post, js = pre ++ j :: post ∧
      (pre.map (·.id)).Nodup ∧ j.id ∈ pre.map (·.id) ∧ e = .duplicate j.id) ∧
    ∀ c, Catalog.ofJobs js = .ok c →
      c.ids.Pairwise (· < ·) ∧ c.jobs = js.mergeSort (fun a b => decide (a.id ≤ b.id)) ∧
      (∀ i j, c.find? i = some j ↔ j ∈ js ∧ j.id = i) ∧
      ((∀ j ∈ js, j.id ≤ Number.u32Max) →
        ∀ (d d' : Disk) (cwd : Loc) (path : String), (d.nodes.map (·.1)).Nodup →
          d.saveCatalog cwd path c = (d', .ok ()) → d'.locate cwd path ≠ .ok nullDevice →
          d'.loadCatalog cwd path = .ok c) := by
  refine ⟨Catalog.exists_ofJobs_eq_ok_iff js, Catalog.ofJobs_eq_error_iff js, fun c hc => ?_⟩
  obtain ⟨hperm, hinc⟩ := Catalog.ofJobs_eq_ok hc
  refine ⟨List.pairwise_map.2 hinc, Catalog.jobs_eq_mergeSort hc, Catalog.find?_eq_some_iff hc, ?_⟩
  intro hid d d' cwd path hnd hsave hnull
  exact Disk.loadCatalog_saveCatalog hinc (fun j hj => hid j (hperm.mem_iff.1 hj)) hnd hsave hnull

set_option maxRecDepth 2048 in
/-- A catalog of one job, saved to `/c` on an empty disk, loads back as saved. -/
theorem catalogs_keep_one_job_per_id_and_read_back_as_saved_of_one_job :
    Catalog.ofJobs [⟨1, "a", "/s", "/t", .full⟩] = .ok ⟨[⟨1, "a", "/s", "/t", .full⟩]⟩ ∧
    ∃ d', Disk.saveCatalog ⟨[], ⟨0, 0⟩⟩ [] "/c" ⟨[⟨1, "a", "/s", "/t", .full⟩]⟩ = (d', .ok ()) ∧
      d'.locate [] "/c" ≠ .ok nullDevice ∧
      d'.loadCatalog [] "/c" = .ok ⟨[⟨1, "a", "/s", "/t", .full⟩]⟩ := by
  have hjobs : Catalog.ofJobs [⟨1, "a", "/s", "/t", .full⟩] = .ok ⟨[⟨1, "a", "/s", "/t", .full⟩]⟩ :=
    rfl
  -- the save makes no directory, `/` being one, and writes `/c`
  have hsave : (Disk.saveCatalog ⟨[], ⟨0, 0⟩⟩ [] "/c" ⟨[⟨1, "a", "/s", "/t", .full⟩]⟩).2 = .ok () := by
    cbv
  have hloc : (Disk.saveCatalog ⟨[], ⟨0, 0⟩⟩ [] "/c" ⟨[⟨1, "a", "/s", "/t", .full⟩]⟩).1.locate [] "/c" =
      .ok ["c"] := by
    cbv
  have hnull : (Disk.saveCatalog ⟨[], ⟨0, 0⟩⟩ [] "/c" ⟨[⟨1, "a", "/s", "/t", .full⟩]⟩).1.locate [] "/c" ≠
      .ok nullDevice := by
    rw [hloc]
    simp [nullDevice]
  refine ⟨hjobs, _, Prod.ext rfl hsave, hnull, ?_⟩
  exact ((catalogs_keep_one_job_per_id_and_read_back_as_saved _).2.2 _ hjobs).2.2.2
    (by simp [Number.u32Max]) _ _ _ _ (by simp) (Prod.ext rfl hsave) hnull

end Safekeep
