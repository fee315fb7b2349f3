import ContractAudit.Files
import ContractAudit.Proofs.Audit.Outcome
import ContractAudit.Proofs.Text.Utf8

/-!
# What is written where

Writing under a name touches one file, the one that the name spells.  The file is emptied first, so
that a report that is not text leaves it empty.

* `get?_put`, `get?_extend_of_ne` -- what is at a path afterwards;
* `target_eq` -- the path at which a name lets one write;
* `write_cases` -- what writing a report can do.
-/

namespace ContractAudit.Files

/-! ### Access by path -/

theorem get?_cons (name : Signs) (contents : Octets) (files : Files) (path : Signs) :
    get? ((name, contents) :: files) path = if name = path then some contents else get? files path := by
  by_cases hname : name = path
  · simp [get?, hname]
  · simp [get?, hname]

/-- What is written at a path is there, and all else is as before. -/
theorem get?_put (files : Files) (path : Signs) (contents : Octets) (other : Signs) :
    (files.put path contents).get? other
      = if path = other then some contents else files.get? other := by
  induction files with
  | nil => rw [put, get?_cons]
  | cons entry files ih =>
    obtain ⟨name, old⟩ := entry
    rw [put]
    split
    · rename_i hname
      subst hname
      rw [get?_cons, get?_cons]
      split <;> rfl
    · rename_i hname
      rw [get?_cons, ih, get?_cons]
      by_cases hother : name = other
      · rw [if_pos hother, if_neg (fun hpath => hname (hother.trans hpath.symm)), if_pos hother]
      · rw [if_neg hother, if_neg hother]

theorem get?_extend_of_ne (files : Files) {path other : Signs} (h : path ≠ other)
    (more : Octets) : (files.extend path more).get? other = files.get? other := by
  rw [extend, get?_put, if_neg h]

/-! ### Names -/

theorem eq_of_walk_eq_ok {files : Files} {name : Signs} {place steps result : List Signs}
    (h : files.walk name place steps = .ok result) : result = steps.foldl advance place := by
  induction steps generalizing place with
  | nil => exact (Except.ok.inj h).symm
  | cons step steps ih =>
    rw [walk] at h
    split at h
    · cases h
    · split at h
      · cases h
      · split at h
        · cases h
        · exact ih h

theorem eq_of_piecesOf_eq_ok {name : Signs} {steps : List Signs}
    (h : piecesOf name = .ok steps) : steps = pieces name := by
  rw [piecesOf] at h
  split at h
  · cases h
  · split at h
    · cases h
    · exact (Except.ok.inj h).symm

/-- **A file is written at the path that its name spells.** -/
theorem target_eq {files : Files} {name path : Signs} (h : files.target name = .ok path) :
    path = pathOf (spell name) := by
  obtain ⟨steps, -, hsteps⟩ := exists_of_bind_eq_ok h
  split at hsteps
  · obtain ⟨_, -, hthrown⟩ := exists_of_bind_eq_ok hsteps
    cases hthrown
  · obtain ⟨place, hplace, hmade⟩ := exists_of_bind_eq_ok hsteps
    obtain ⟨pieces, hpieces, hwalk⟩ := exists_of_bind_eq_ok hplace
    have hspelled : place = spell name := by
      rw [eq_of_walk_eq_ok hwalk, eq_of_piecesOf_eq_ok hpieces]
      rfl
    dsimp only at hmade
    split at hmade
    · cases hmade
    · rw [← hspelled]
      exact (Except.ok.inj hmade).symm

/-! ### Writing -/

/-- **What writing a report can do.**  Nothing is done if no file of the name can be written; the file
is emptied if the report is not text, and otherwise it holds the report. -/
theorem write_cases (files : Files) (name report : Signs) :
    (∃ failure, files.write name report = (files, .error failure)) ∨
    (report.isText = false ∧ ∃ code start stop, files.write name report
      = (files.put (pathOf (spell name)) [],
          .error (.unencodable "utf-8" code start stop "surrogates not allowed"))) ∨
    ∃ text, report = .ofText text ∧ files.write name report
      = (files.put (pathOf (spell name)) (Octets.ofText text), .ok ()) := by
  rw [write]
  cases htarget : files.target name with
  | error failure => exact .inl ⟨failure, rfl⟩
  | ok path =>
    obtain rfl := target_eq htarget
    dsimp only
    cases hreport : Encoding.utf8.characters report with
    | error failure =>
      obtain ⟨code, start, stop, rfl⟩ := Encoding.exists_of_characters_eq_error hreport
      exact .inr (.inl ⟨Encoding.isText_eq_false_of_utf8 hreport, code, start, stop, rfl⟩)
    | ok text => exact .inr (.inr ⟨text, (Encoding.characters_eq_ok_iff.1 hreport).1, rfl⟩)

end ContractAudit.Files
