import Safekeep.Proofs.Run.Journal
import Safekeep.Proofs.Seal
import Mathlib

/-!
# The log entry of one file

When a file's copy ends, its runner, left to run alone, logs exactly one entry for the file and
moves to the next. The entry names the job, the file's source, target and size. Its transfer time
is `-1` exactly when the copy failed, and is not negative otherwise. Its crypting time is `0`, and
the runner logs at once without reaching the tool, when the copy failed or the file needs no
sealing; otherwise it is the code that sealing the target gives. It carries an error message
exactly when one of its times is negative: the copy's error for a failed copy, and
`encryption failed with code c` for a negative sealing code.

The runner may be held at the tool's slot by other runners; the statement is about the runner's
own steps once the slot is free and the run is not cancelled.
-/

namespace Safekeep

namespace Runner

/-- The runner's own steps, `k` of them, with no other runner moving in between; none when it
cannot take one. -/
def stepsAlone (cx : Context) : Nat → Shared × Runner → Option (Shared × Runner)
  | 0, p => some p
  | k + 1, p => (p.2.step cx p.1).bind (stepsAlone cx k)

/-- `p` is the state right after logging file `u` of `job` with these times and copy error,
from a log `logs`, the files `rest` left. -/
structure FileLogged (job : Job) (logs : List LogEntry) (u : Transfer) (rest : List Transfer)
    (tm cm : Int) (err : Option String) (p : Shared × Runner) : Prop where
  stage : p.2.stage = .next
  units : p.2.units = rest
  entry : ∃ e, p.1.logs = logs ++ [e] ∧ e.Records job u ∧ e.transferMs = tm ∧
    e.cryptingMs = cm ∧ e.errorMessage = entryMessage err cm

/-! ## 1. Logging a file -/

theorem entryMessage_isSome (err : Option String) (code : Int) :
    (entryMessage err code).isSome ↔ err.isSome ∨ code < 0 := by
  cases err <;> by_cases h : code < 0 <;> simp [entryMessage, h]

section Effects

variable (cx : Context) (r : Runner) (sh : Shared) {u : Transfer} {rest : List Transfer}
  (tm cm : Int) (err : Option String)

theorem logUnit_logged (hu : r.units = u :: rest) :
    FileLogged r.job sh.logs u rest tm cm err (r.logUnit cx sh u tm cm err) :=
  ⟨logUnit_stage .., by simp [hu], ⟨_, logUnit_logs .., ⟨rfl, rfl, rfl, rfl⟩, rfl, rfl, rfl⟩⟩

/-- After sealing, the file is logged with transfer time `0` and the code; restoring the
target's time first touches only the disk. -/
theorem afterSeal_logged (hu : r.units = u :: rest) (code : Int) :
    FileLogged r.job sh.logs u rest 0 code none (r.afterSeal cx sh u code) := by
  unfold afterSeal
  dsimp only
  split
  · split
    · next d _ => exact logUnit_logged cx r { sh with disk := d } 0 code none hu
    · exact logUnit_logged cx r sh 0 code none hu
  · exact logUnit_logged cx r sh 0 code none hu

end Effects

/-! ## 2. From the end of a copy to the file's entry -/

variable {cx : Context} {sh : Shared} {r : Runner} {u : Transfer} {rest : List Transfer}

/-- Running alone from the end of a file's copy, the runner logs the file: at once, with times
`-1` and `0` and the copy's error, when the copy failed; at once, with times `0` and `0`, when
the file needs no sealing; and otherwise after the sealing steps, with transfer time `0` and the
code that sealing the target gives. -/
theorem endCopy_logged (hu : r.units = u :: rest) (hc : cx.cancelled = false)
    (hfree : sh.sealBusy = false) (copied : Except Errno Nat) :
    ∃ k p tm cm err, stepsAlone cx k (r.endCopy cx sh u copied) = some p ∧
      FileLogged r.job sh.logs u rest tm cm err p ∧
      (∀ e, copied = .error e → tm = -1 ∧ cm = 0 ∧ err = some e.message ∧ k = 0 ∧
        p.1.disk = sh.disk) ∧
      (∀ n, copied = .ok n → tm = 0 ∧ err = none ∧
        (u.encrypt = false → cm = 0 ∧ k = 0 ∧ p.1.disk = sh.disk) ∧
        (u.encrypt = true → (sh.disk.seal cx.cwd cx.host cx.settings u.target .calm).2 = .code cm)) := by
  -- giving the slot back keeps everything the entry and the sealing read
  have hd := release_disk r sh
  have hl := release_logs r sh
  have hj := release_job r sh
  have hun := release_units r sh
  have hb := release_sealBusy r sh
  unfold endCopy
  generalize r.release sh = x at hd hl hj hun hb ⊢
  obtain ⟨sh₁, r₁⟩ := x
  dsimp only at hd hl hj hun hb ⊢
  rw [← hun] at hu
  rw [← hj, ← hl]
  cases copied with
  | error e =>
    refine ⟨0, _, -1, 0, some e.message, rfl, logUnit_logged cx r₁ sh₁ _ _ _ hu, ?_, ?_⟩
    · rintro e' ⟨⟩
      exact ⟨rfl, rfl, rfl, rfl, by simp [hd]⟩
    · rintro n ⟨⟩
  | ok n =>
    cases henc : u.encrypt with
    | false =>
      refine ⟨0, _, 0, 0, none, by simp [stepsAlone], logUnit_logged cx r₁ sh₁ _ _ _ hu, ?_,
        ?_⟩
      · rintro e ⟨⟩
      · rintro n' -
        exact ⟨rfl, rfl, fun _ => ⟨rfl, rfl, by simp [hd]⟩, fun h => by cases h⟩
    | true =>
      rw [if_pos rfl]
      cases hp : sh.disk.sealPlan cx.cwd cx.host cx.settings u.target with
      | decided c =>
        refine ⟨1, _, 0, c, none, ?_, afterSeal_logged cx { r₁ with stage := .sealWait } sh₁ hu c,
          ?_, ?_⟩
        · simp [stepsAlone, step, hu, hd, hp]
        · rintro e ⟨⟩
        · rintro n' -
          refine ⟨rfl, rfl, ?_, fun _ => ?_⟩
          · intro h; cases h
          · rw [Disk.seal_of_decided hp]
      | launch tool =>
        generalize hrun : sh.disk.sealLaunch cx.cwd cx.host cx.settings tool u.target = launched
        obtain ⟨d, l⟩ := launched
        cases l with
        | refused code =>
          -- the tool does not start, and its slot is given back in the same step
          refine ⟨1, _, 0, code, none, ?_, afterSeal_logged cx { r₁ with stage := .sealWait }
            { sh₁ with disk := d } hu code, ?_, ?_⟩
          · simp [stepsAlone, step, hu, hd, hp, hc, hb, hfree, hrun]
          · rintro e ⟨⟩
          · rintro n' -
            refine ⟨rfl, rfl, ?_, fun _ => ?_⟩
            · intro h; cases h
            · simp [Disk.seal_of_launch hp, hrun, Launch.outcome, SealWorld.calm]
        | ran code =>
          -- the tool runs at the slot, and its code is logged once its end is seen
          refine ⟨2, _, 0, code, none, ?_, afterSeal_logged cx { r₁ with stage := .sealRun code }
            { sh₁ with disk := d, sealBusy := false } hu code, ?_, ?_⟩
          · simp [stepsAlone, step, hu, hd, hp, hc, hb, hfree, hrun]
          · rintro e ⟨⟩
          · rintro n' -
            refine ⟨rfl, rfl, ?_, fun _ => ?_⟩
            · intro h; cases h
            · simp [Disk.seal_of_launch hp, hrun, Launch.outcome, SealWorld.calm]

/-! ## 3. The entry of a file -/

/-- Once a file's copy ends, its runner, running alone while the tool's slot is free and the run
is not cancelled, logs one entry for the file and moves to the next. The entry names the job and
the file. Its transfer time is `-1` for a failed copy and not negative otherwise. Its crypting
time is `0`, with no step taken towards the tool, when the copy failed or the file needs no
sealing, and is otherwise the code that sealing the target gives. It has an error message exactly
when one of its times is negative: the copy's error, or `encryption failed with code c`. -/
theorem file_entry_follows_its_copy_and_sealing (hu : r.units = u :: rest)
    (hc : cx.cancelled = false) (hfree : sh.sealBusy = false) (copied : Except Errno Nat) :
    ∃ k sh' r' e, stepsAlone cx k (r.endCopy cx sh u copied) = some (sh', r') ∧
      r'.stage = .next ∧ r'.units = rest ∧ sh'.logs = sh.logs ++ [e] ∧ e.Records r.job u ∧
      (e.errorMessage.isSome ↔ e.transferMs < 0 ∨ e.cryptingMs < 0) ∧
      (∀ err, copied = .error err →
        e.transferMs = -1 ∧ e.cryptingMs = 0 ∧ e.errorMessage = some err.message ∧
          k = 0 ∧ sh'.disk = sh.disk) ∧
      (∀ n, copied = .ok n →
        0 ≤ e.transferMs ∧
          (u.encrypt = false → e.cryptingMs = 0 ∧ k = 0 ∧ sh'.disk = sh.disk) ∧
          (u.encrypt = true →
            (sh.disk.seal cx.cwd cx.host cx.settings u.target .calm).2 = .code e.cryptingMs) ∧
          e.errorMessage = if e.cryptingMs < 0 then
            some ("encryption failed with code " ++ toString e.cryptingMs) else none) := by
  obtain ⟨k, ⟨sh', r'⟩, tm, cm, err, hrun, hlog, hfail, hok⟩ := endCopy_logged hu hc hfree copied
  obtain ⟨hstage, hunits, e, hlogs, hrec, htm, hcm, hmsg⟩ := hlog
  refine ⟨k, sh', r', e, hrun, hstage, hunits, hlogs, hrec, ?_, ?_, ?_⟩
  · rw [hmsg, entryMessage_isSome, htm, hcm]
    cases copied with
    | error x =>
      obtain ⟨h1, -, h3, -, -⟩ := hfail x rfl
      simp [h1, h3]
    | ok n =>
      obtain ⟨h1, h2, -, -⟩ := hok n rfl
      simp [h1, h2]
  · intro x hx
    obtain ⟨h1, h2, h3, h4, h5⟩ := hfail x hx
    exact ⟨htm.trans h1, hcm.trans h2, by rw [hmsg, h3]; rfl, h4, h5⟩
  · intro n hn
    obtain ⟨h1, h2, h3, h4⟩ := hok n hn
    refine ⟨by omega, fun hplain => ?_, fun hsealed => hcm ▸ h4 hsealed, by rw [hmsg, h2, hcm]; rfl⟩
    obtain ⟨h5, h6, h7⟩ := h3 hplain
    exact ⟨hcm.trans h5, h6, h7⟩

/-- A file whose copy is refused is logged at once, with transfer time `-1`, crypting time `0`
and the refusal as its message. -/
theorem file_entry_of_a_refused_copy :
    (Runner.new ⟨1, "j", "/s", "/d", .full⟩ [⟨"/s/a", "/d/a", 3, false, false, true⟩]
        (.ofSeconds 0)).units = [⟨"/s/a", "/d/a", 3, false, false, true⟩] ∧
      (⟨.default, [], false, .ofSeconds 0, Host.machine⟩ : Context).cancelled = false ∧
      (⟨⟨[], ⟨0, 0⟩⟩, Gate.new 0, false, [], []⟩ : Shared).sealBusy = false ∧
      ∃ k sh' r' e, stepsAlone ⟨.default, [], false, .ofSeconds 0, Host.machine⟩ k
          ((Runner.new ⟨1, "j", "/s", "/d", .full⟩ [⟨"/s/a", "/d/a", 3, false, false, true⟩]
            (.ofSeconds 0)).endCopy ⟨.default, [], false, .ofSeconds 0, Host.machine⟩ ⟨⟨[], ⟨0, 0⟩⟩, Gate.new 0, false, [], []⟩
            ⟨"/s/a", "/d/a", 3, false, false, true⟩ (.error .access)) = some (sh', r') ∧
        r'.stage = .next ∧ r'.units = [] ∧ sh'.logs = [] ++ [e] ∧
        e.Records ⟨1, "j", "/s", "/d", .full⟩ ⟨"/s/a", "/d/a", 3, false, false, true⟩ ∧
        (e.errorMessage.isSome ↔ e.transferMs < 0 ∨ e.cryptingMs < 0) ∧
        (∀ err, (.error .access : Except Errno Nat) = .error err →
          e.transferMs = -1 ∧ e.cryptingMs = 0 ∧ e.errorMessage = some err.message ∧
            k = 0 ∧ sh'.disk = ⟨[], ⟨0, 0⟩⟩) ∧
        (∀ n, (.error .access : Except Errno Nat) = .ok n →
          0 ≤ e.transferMs ∧
            (true = false → e.cryptingMs = 0 ∧ k = 0 ∧ sh'.disk = ⟨[], ⟨0, 0⟩⟩) ∧
            (true = true → ((⟨[], ⟨0, 0⟩⟩ : Disk).seal [] Host.machine .default "/d/a" .calm).2 =
              .code e.cryptingMs) ∧
            e.errorMessage = if e.cryptingMs < 0 then
              some ("encryption failed with code " ++ toString e.cryptingMs) else none) :=
  ⟨rfl, rfl, rfl, file_entry_follows_its_copy_and_sealing rfl rfl rfl _⟩

end Runner

end Safekeep
